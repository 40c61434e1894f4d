import CatalogRecords.Data.Record
import CatalogRecords.Document.Basic
import CatalogRecords.Json.Reader
import CatalogRecords.Json.Writer

/-!
# The written form of documents

A node is written as the pair of its identifier and what it holds: a text, or the list of the nodes
in it. A document is a record in which what is not known of its origin is left out.
-/

namespace CatalogRecords

open Data

mutual

/-- The pair that a node is written as. -/
def Node.encode : Node → Data
  | .text sid value => .list [.text sid, .text value]
  | .group sid nodes => .list [.text sid, .list (encodeNodes nodes)]

/-- The pairs that nodes are written as. -/
def encodeNodes : List Node → List Data
  | [] => []
  | node :: nodes => node.encode :: encodeNodes nodes

end

/-- What a node holds as it is written. -/
def Content.encode : Content → Data
  | .text value => .text value
  | .group nodes => .list (encodeNodes nodes)

mutual

/-- Reads a node. -/
def Node.decode? : Data → Option Node
  | .list [.text sid, .text value] => some (.text sid value)
  | .list [.text sid, .list items] => (decodeNodes? items).map (.group sid)
  | _ => none

/-- Reads nodes. -/
def decodeNodes? : List Data → Option (List Node)
  | [] => some []
  | item :: items => do
    let node ← Node.decode? item
    let nodes ← decodeNodes? items
    some (node :: nodes)

end

/-- Reads the content of a document. -/
def decodeContent? : Data → Option (List Node)
  | .list items => decodeNodes? items
  | _ => none

namespace Attachment

/-- The record of an attachment. -/
def encode (a : Attachment) : Data :=
  .map [("field_path", .text a.fieldPath), ("value", .text a.value),
    ("file_name", .text a.fileName)]

/-- Reads an attachment. -/
def decode? (value : Data) : Option Attachment := do
  let r ← value.record? .json ["field_path", "value", "file_name"]
  let text (part : Part value) := part.1.text?
  some {
    fieldPath := ← r.required "field_path" text
    value := ← r.required "value" text
    fileName := ← r.required "file_name" text }

end Attachment

namespace Document

/-- The fields of a document's record, in order. -/
def fieldNames : List String := [
  "document_type", "id", "package_name", "author_id", "author_name", "creation_date",
  "last_edit_date", "last_editor_id", "last_editor_name", "catalogation_level", "media_files",
  "content"]

/-- The record of a document. -/
def encode (d : Document) : Data :=
  .map <|
    [("document_type", .text d.documentType)] ++
    textEntry? "id" d.id ++
    [("package_name", .text d.packageName)] ++
    textEntry? "author_id" d.authorId ++
    textEntry? "author_name" d.authorName ++
    textEntry? "creation_date" (d.creationDate.map Calendar.DateTime.renderUniversal) ++
    textEntry? "last_edit_date" (d.lastEditDate.map Calendar.DateTime.renderUniversal) ++
    textEntry? "last_editor_id" d.lastEditorId ++
    textEntry? "last_editor_name" d.lastEditorName ++
    [("catalogation_level", .text d.level.word),
      ("media_files", .list (d.attachments.map Attachment.encode)),
      ("content", .list (encodeNodes d.content))]

/-- Reads a document. -/
def decode? (value : Data) : Option Document := do
  let r ← value.record? .json fieldNames
  let text (part : Part value) := part.1.text?
  let moment (part : Part value) := part.1.text?.bind Calendar.DateTime.readUniversal?
  some {
    documentType := ← r.required "document_type" text
    id := ← r.optionalDefault "id" text
    packageName := ← r.defaulted "package_name" "" text
    authorId := ← r.optionalDefault "author_id" text
    authorName := ← r.optionalDefault "author_name" text
    creationDate := ← r.optionalDefault "creation_date" moment
    lastEditDate := ← r.optionalDefault "last_edit_date" moment
    lastEditorId := ← r.optionalDefault "last_editor_id" text
    lastEditorName := ← r.optionalDefault "last_editor_name" text
    level := ← r.defaulted "catalogation_level" .none fun part =>
      part.1.word? .json Level.words
    attachments := ← r.defaulted "media_files" [] fun part =>
      part.1.list? .json Attachment.decode?
    content := ← r.defaulted "content" [] fun part => decodeContent? part.1 }

/-- The text of a document, compact or laid out on lines. -/
def toJson (d : Document) (laidOut : Bool) : String := Json.render laidOut d.encode

/-- Reads a document from its text. -/
def ofJson? (text : String) : Option Document := (Json.readLimited? text).bind decode?

/-- The text of a document's content, compact or laid out on lines. -/
def contentJson (d : Document) (laidOut : Bool) : String :=
  Json.render laidOut (.list (encodeNodes d.content))

/-- The document with the content that a text stands for. -/
def setContentJson? (d : Document) (text : String) : Option Document :=
  ((Json.readLimited? text).bind decodeContent?).map fun content => { d with content := content }

end Document

end CatalogRecords
