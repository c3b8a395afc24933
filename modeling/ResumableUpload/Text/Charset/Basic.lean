import ResumableUpload.Text.Charset.Index.Basic

/-! Character sets that a text may be declared to be in. -/

namespace ResumableUpload.Text

inductive Charset
  | utf8
  | utf16 (bigEndian : Bool)
  | singleByte (upper : Charset.Index)
  | gb18030
  | big5
  | eucJp
  | iso2022Jp
  | shiftJis
  | eucKr
  | withdrawn
deriving DecidableEq, Repr

end ResumableUpload.Text
