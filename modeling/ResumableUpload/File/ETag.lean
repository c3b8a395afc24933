import ResumableUpload.Text.Blank

/-! Entity tags, which some stores hand out between quotes. -/

namespace ResumableUpload.ETag

def unquote (etag : String) : String := Text.trimBy (· = '"') etag

end ResumableUpload.ETag
