import CatalogRecords.Document.Content
import CatalogRecords.Value

/-!
# Documents

A document is a record of some document type: its content, the files attached to values of the
content, and where it came from.
-/

namespace CatalogRecords

/-- A file that is attached to a value of a field. -/
structure Attachment where
  fieldPath : String
  value : String
  fileName : String
  deriving DecidableEq, Repr

/-- A document. -/
structure Document where
  documentType : String
  id : Option String := none
  packageName : String := ""
  authorId : Option String := none
  authorName : Option String := none
  creationDate : Option Calendar.DateTime := none
  lastEditDate : Option Calendar.DateTime := none
  lastEditorId : Option String := none
  lastEditorName : Option String := none
  level : Level := .none
  attachments : List Attachment := []
  content : List Node := []

namespace Document

/-- The document with one more attachment. -/
def attach (d : Document) (attachment : Attachment) : Document :=
  { d with attachments := d.attachments ++ [attachment] }

/-- All nodes with their complete paths, in document order. -/
def flatten (d : Document) : List FlatEntry := flattenAll d.documentType d.content

/-- The paths of the nodes, in order and each once. -/
def presentPaths (d : Document) : List String :=
  ((d.flatten.map FlatEntry.path).mergeSort fun a b => decide (a ≤ b)).eraseDups

/-- What the nodes with a complete path hold, in document order. A path of another type, or that
of the type itself, has none. -/
def contentsAt (d : Document) (path : String) : List Content :=
  match Text.split '.' path with
  | [] => []
  | type :: sids => if type == d.documentType then contentsIn d.content sids else []

/-- What the nodes hold that a partial path stands for in the document type. -/
def contents (d : Document) (t : DocumentType) (partialPath : String) :
    Except PathError (List Content) :=
  (t.resolveUnique partialPath).map d.contentsAt

/-- The texts at a complete path, in document order. -/
def textsAt (d : Document) (path : String) : List String :=
  (d.contentsAt path).filterMap Content.text?

/-- The part of a text of a field that counts. -/
def extract? (field : SimpleField) (text : String) : Option String :=
  match field.extraction with
  | some pattern => pattern.find? text
  | none => some text

/-- The values of the texts at the complete path of a simple field; texts that do not convert are
left out. -/
def valuesAt (d : Document) (t : DocumentType) (path : String) (convention : DecimalConvention) :
    List TypedValue :=
  match t.field? path with
  | some field => ((d.textsAt path).filterMap (extract? field)).filterMap (field.coerce? convention)
  | none => []

/-- The files attached to values of a field. -/
def attachmentsOf (d : Document) (fieldPath : String) : List Attachment :=
  d.attachments.filter fun a => a.fieldPath == fieldPath

end Document

end CatalogRecords
