import CatalogRecords.Query.Expression

/-!
# Metafields

A query may ask for more than the text of a field: `<path>._<name>` names a metafield of an element
or of the whole document. One table says of each what it belongs to, whether only a store of
documents can answer it, whether a single document can, and whether its values on the document
type are ordered. Checking and evaluation both go by this table.
-/

namespace CatalogRecords.Query

/-- What a metafield belongs to. -/
inductive MetafieldScope where
  | documentType
  | element
  deriving DecidableEq, Repr

/-- The word for a scope. -/
def MetafieldScope.word : MetafieldScope → String
  | documentType => "document_type"
  | element => "element"

/-- The metafields. -/
inductive Metafield where
  | id
  /-- The values of a field in its type. -/
  | asValue
  /-- How often an element is there. -/
  | count
  | attachmentCount
  | points
  | lines
  | polygons
  | area
  | perimeter
  | inBox
  | inCircle
  | withinPolygon
  | creationDate
  | lastEditDate
  | author
  | authorId
  | lastEditor
  | lastEditorId
  | who
  | what
  | when
  | whereabouts
  | fromWhere
  | packageName
  deriving DecidableEq, Repr

namespace Metafield

/-- All metafields, in the order of the table. -/
def all : List Metafield := [
  id, asValue, count, attachmentCount, points, lines, polygons, area, perimeter, inBox, inCircle,
  withinPolygon, creationDate, lastEditDate, author, authorId, lastEditor, lastEditorId, who, what,
  when, whereabouts, fromWhere, packageName]

/-- The word for a metafield. -/
def word : Metafield → String
  | id => "id"
  | asValue => "as_value"
  | count => "count"
  | attachmentCount => "attachment_count"
  | points => "points"
  | lines => "lines"
  | polygons => "polygons"
  | area => "area"
  | perimeter => "perimeter"
  | inBox => "in_box"
  | inCircle => "in_circle"
  | withinPolygon => "within_polygon"
  | creationDate => "creation_date"
  | lastEditDate => "last_edit_date"
  | author => "author"
  | authorId => "author_id"
  | lastEditor => "last_editor"
  | lastEditorId => "last_editor_id"
  | who => "who"
  | what => "what"
  | when => "when"
  | whereabouts => "where"
  | fromWhere => "from_where"
  | packageName => "package_name"

/-- The name of a metafield in queries. -/
def name : Metafield → String
  | asValue => "_as_val"
  | m => "_" ++ m.word

/-- The metafield that a name stands for. -/
def ofName? (name : String) : Option Metafield :=
  if name == "_as_value" then some asValue else all.find? fun m => m.name == name

/-- What a metafield belongs to. -/
def scope : Metafield → MetafieldScope
  | asValue => .element
  | count => .element
  | attachmentCount => .element
  | _ => .documentType

/-- Whether only documents that were stored have the metafield. -/
def isStorageOnly : Metafield → Bool
  | asValue => false
  | count => false
  | attachmentCount => false
  | packageName => false
  | _ => true

/-- Whether a single document can answer for the metafield. -/
def isInMemory : Metafield → Bool
  | asValue => true
  | count => true
  | attachmentCount => true
  | authorId => true
  | packageName => true
  | _ => false

/-- Whether the values of the metafield on the document type are ordered. -/
def isOrderable : Metafield → Bool
  | id => true
  | creationDate => true
  | lastEditDate => true
  | author => true
  | authorId => true
  | lastEditor => true
  | lastEditorId => true
  | packageName => true
  | _ => false

/-- A metafield is found by its name. -/
theorem ofName?_name (m : Metafield) : ofName? m.name = some m := by
  cases m <;> decide

end Metafield

/-- A field of a query: the path of an element, and the name of a metafield. -/
structure FieldRef where
  path : String
  metafield : Option String
  deriving DecidableEq, Repr

namespace FieldRef

/-- The characters before the first dot that an underscore follows, and those from the underscore
on. -/
def splitChars : List Char → List Char × Option (List Char)
  | [] => ([], none)
  | '.' :: '_' :: cs => ([], some ('_' :: cs))
  | c :: cs =>
    let (path, metafield) := splitChars cs
    (c :: path, metafield)

/-- Takes a field apart. -/
def ofText (field : String) : FieldRef :=
  let (path, metafield) := splitChars field.toList
  ⟨String.ofList path, metafield.map String.ofList⟩

/-- The metafield that is named, if it is known. -/
def known? (r : FieldRef) : Option Metafield := r.metafield.bind Metafield.ofName?

/-- The parts of a field, put together again, are the field. -/
theorem append_splitChars (cs : List Char) :
    (splitChars cs).1 ++ (match (splitChars cs).2 with
      | some metafield => '.' :: metafield
      | none => []) = cs := by
  fun_induction splitChars cs with
  | case1 => rfl
  | case2 => rfl
  | case3 c cs _ path metafield heq ih =>
    rw [heq] at ih
    simpa using ih

end FieldRef

/-- The members of a list in the order in which they first come, each once. -/
def distinct (names : List String) : List String :=
  names.foldl (fun seen name => if seen.contains name then seen else seen ++ [name]) []

namespace SearchExpression

/-- The names of the metafields in an expression that only stored documents have, in the order in
which they first come. -/
def storageOnlyMetafields (e : SearchExpression) : List String :=
  distinct (((e.fieldRefs.filterMap fun f => (FieldRef.ofText f).known?).filter
    Metafield.isStorageOnly).map Metafield.name)

/-- Whether only a store of documents can answer an expression. -/
def isStorageOnly (e : SearchExpression) : Bool := !e.storageOnlyMetafields.isEmpty

end SearchExpression

end CatalogRecords.Query
