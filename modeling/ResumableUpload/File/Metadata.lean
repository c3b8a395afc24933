import ResumableUpload.Json.Record
import ResumableUpload.Text.Blank

/-! What is known of a file apart from its content. -/

namespace ResumableUpload

structure ContentItem where
  datasetId : String
  edition : String
  version : String
deriving DecidableEq, Repr

structure FileMetadata where
  path : String
  isPublishable : Bool
  collectionId : Option String
  bundleId : Option String
  title : String
  sizeInBytes : UInt64
  contentType : String
  licence : String
  licenceUrl : String
  contentItem : Option ContentItem
deriving DecidableEq, Repr

namespace ContentItem

def toJson (c : ContentItem) : Json :=
  .object [
    ("dataset_id", .string c.datasetId),
    ("edition", .string c.edition),
    ("version", .string c.version)]

def ofJson? (j : Json) : Option ContentItem := do
  let field ← j.record? ["dataset_id", "edition", "version"]
  let datasetId ← Json.required Json.string? (field "dataset_id")
  let edition ← Json.required Json.string? (field "edition")
  let version ← Json.required Json.string? (field "version")
  return { datasetId, edition, version }

end ContentItem

namespace FileMetadata

def fileName (m : FileMetadata) : String :=
  String.ofList (m.path.toList.reverse.takeWhile (· ≠ '/')).reverse

def toJson (m : FileMetadata) : Json :=
  .ofPresent [
    ("path", some (.string m.path)),
    ("is_publishable", some (.bool m.isPublishable)),
    ("collection_id", m.collectionId.map .string),
    ("bundle_id", m.bundleId.map .string),
    ("title", some (.string m.title)),
    ("size_in_bytes", some (.natural m.sizeInBytes.toNat)),
    ("type", some (.string m.contentType)),
    ("licence", some (.string m.licence)),
    ("licence_url", some (.string m.licenceUrl)),
    ("content_item", m.contentItem.map ContentItem.toJson)]

def ofJson? (j : Json) : Option FileMetadata := do
  let field ← j.record? ["path", "is_publishable", "collection_id", "bundle_id", "title", "size_in_bytes",
    "type", "licence", "licence_url", "content_item"]
  let path ← Json.required Json.string? (field "path")
  let isPublishable ← Json.required Json.bool? (field "is_publishable")
  let collectionId ← Json.optional Json.string? (field "collection_id")
  let bundleId ← Json.optional Json.string? (field "bundle_id")
  let title ← Json.defaulted "" Json.string? (field "title")
  let sizeInBytes ← Json.required Json.uint64? (field "size_in_bytes")
  let contentType ← Json.required Json.string? (field "type")
  let licence ← Json.required Json.string? (field "licence")
  let licenceUrl ← Json.required Json.string? (field "licence_url")
  let contentItem ← Json.optional ContentItem.ofJson? (field "content_item")
  return ⟨path, isPublishable, collectionId, bundleId, title, sizeInBytes, contentType, licence, licenceUrl,
    contentItem⟩

end FileMetadata

end ResumableUpload
