import CatalogRecords.Pattern.Engine
import CatalogRecords.Schema.Definition
import CatalogRecords.Text.Segments

/-!
# Document types

A document type that was built holds its elements in canonical order: each before its own fields,
and those in the order of the definition. An element has the position in that order as its index
and is addressed by its complete path: the identifiers from the document type down to it, with
dots between. Parents and children are known by their indices.
-/

namespace CatalogRecords

/-- What is known of a field that holds a text. -/
structure SimpleField where
  fieldType : FieldType
  /-- Matches the whole value. -/
  validation : Option Pattern
  /-- Matches the part of a value that counts. -/
  extraction : Option Pattern
  datetimeFormat : Option String
  usesPointDecimal : Bool
  length : Nat
  fixedLength : Bool
  dictionary : DictionaryMode
  media : MediaKind
  unique : Bool
  uniquenessGroup : Nat
  requiredForSaving : Bool

/-- The kinds of elements. Paragraphs and structured fields hold elements, simple fields texts. -/
inductive ElementKind where
  | paragraph
  | structuredField
  | simpleField (field : SimpleField)

/-- An element of a document type. -/
structure Element where
  index : Nat
  sid : String
  label : String
  path : String
  compliant : Bool
  repeatable : Bool
  /-- The element or one that it is in is repeatable. -/
  canBeRepeated : Bool
  level : Level
  kind : ElementKind
  parent : Option Nat
  children : List Nat

namespace Element

/-- What is known of an element that holds a text. -/
def field? (e : Element) : Option SimpleField :=
  match e.kind with
  | .simpleField field => some field
  | _ => none

/-- Whether the element holds other elements. -/
def isContainer (e : Element) : Bool := e.field?.isNone

/-- Whether files can be attached to the values of the element. -/
def acceptsMedia (e : Element) : Bool := e.field?.any fun field => field.media != .none

/-- Whether a document cannot be saved without a value of the element. -/
def isRequiredForSaving (e : Element) : Bool := e.field?.any fun field => field.requiredForSaving

end Element

/-- The path of what has the identifier `sid` inside `path`. -/
def childPath (path sid : String) : String := path ++ "." ++ sid

/-- Whether a path lies somewhere inside another. -/
def isInside (path outer : String) : Bool := Text.startsWith path (outer ++ ".")

/-- A document type. -/
structure DocumentType where
  sid : String
  label : String
  compliant : Bool
  author : Option String
  version : Option String
  standardVersion : Option String
  publicByDefault : Bool
  elements : List Element

namespace DocumentType

/-- The element with a complete path. -/
def element? (t : DocumentType) (path : String) : Option Element :=
  t.elements.find? fun e => e.path == path

/-- The element with an index. -/
def elementAt? (t : DocumentType) (index : Nat) : Option Element := t.elements[index]?

/-- The index of the element with a complete path. -/
def index? (t : DocumentType) (path : String) : Option Nat := (t.element? path).map Element.index

/-- Whether some element has the complete path. -/
def contains (t : DocumentType) (path : String) : Bool := (t.element? path).isSome

/-- Whether a path is that of the document type itself. -/
def isRoot (t : DocumentType) (path : String) : Bool := path == t.sid

/-- The simple field with a complete path. -/
def field? (t : DocumentType) (path : String) : Option SimpleField :=
  (t.element? path).bind Element.field?

/-- The elements at the top, in canonical order. -/
def paragraphs (t : DocumentType) : List Element := t.elements.filter fun e => e.parent.isNone

/-- The fields that hold texts, in canonical order. -/
def simpleFields (t : DocumentType) : List Element := t.elements.filter fun e => !e.isContainer

/-- The fields that accept attachments, in canonical order. -/
def multimediaFields (t : DocumentType) : List Element := t.elements.filter Element.acceptsMedia

/-- The fields without which a document cannot be saved, in canonical order. -/
def requiredFields (t : DocumentType) : List Element :=
  t.elements.filter Element.isRequiredForSaving

/-- Whether the values of the simple field with a path accept attachments. -/
def isMultimediaField (t : DocumentType) (path : String) : Bool :=
  (t.element? path).any Element.acceptsMedia

/-- The element that an element is in. -/
def parent? (t : DocumentType) (e : Element) : Option Element := e.parent.bind t.elementAt?

/-- The elements that an element holds. -/
def children (t : DocumentType) (e : Element) : List Element := e.children.filterMap t.elementAt?

/-- The parents of an element, one above the other, through at most so many steps. -/
def climb (t : DocumentType) : Nat → Element → List Element
  | 0, _ => []
  | steps + 1, e =>
    match t.parent? e with
    | some p => p :: t.climb steps p
    | none => []

/-- The elements that an element is in, the nearest first. A parent comes before its children, so
there are no more of them than the index says. -/
def ancestors (t : DocumentType) (e : Element) : List Element := t.climb e.index e

/-- The paths of the elements that a level asks for, in order. -/
def requiredPaths (t : DocumentType) (level : Level) : List String :=
  ((t.elements.filter fun e => e.level = level).map Element.path).mergeSort fun a b =>
    decide (a ≤ b)

end DocumentType

/-- Why a path does not stand for one element. -/
inductive PathError where
  | notDefined (path : String)
  | ambiguous (path : String) (candidates : List String)
  deriving DecidableEq, Repr

/-- The text of an error. -/
def PathError.message : PathError → String
  | notDefined path => s!"element not defined: {path}"
  | ambiguous path candidates =>
    s!"ambiguous element path {path}, could refer to: " ++ Text.join "; " candidates

/-- The path that an error is about. -/
def PathError.path : PathError → String
  | notDefined path => path
  | ambiguous path _ => path

namespace DocumentType

/-- Whether a partial path stands for a complete one: it is the whole path, or the end of it from
some dot on. -/
def matchesPath (partialPath path : String) : Bool :=
  path == partialPath || Text.endsWith path ("." ++ partialPath)

/-- The complete paths that a partial path stands for: those of elements in canonical order, and
that of the document type. -/
def resolveAll (t : DocumentType) (partialPath : String) : List String :=
  (t.elements.map Element.path).filter (matchesPath partialPath) ++
    if t.sid == partialPath then [t.sid] else []

/-- The one complete path that a partial path stands for. -/
def resolveUnique (t : DocumentType) (partialPath : String) : Except PathError String :=
  match t.resolveAll partialPath with
  | [] => .error (.notDefined partialPath)
  | [path] => .ok path
  | paths => .error (.ambiguous partialPath paths)

/-- The complete paths that a partial path stands for, exactly one if it must be unique. -/
def resolve (t : DocumentType) (partialPath : String) (unique : Bool) :
    Except PathError (List String) :=
  if unique then (t.resolveUnique partialPath).map fun path => [path]
  else .ok (t.resolveAll partialPath)

/-- Whether an entry with one path may directly follow an entry with another. Going forward in
canonical order is always allowed, staying if the simple field itself is repeatable, and going
back if that begins another round of a repeatable element that the previous entry lies in. -/
def canFollow (t : DocumentType) (path previous : String) : Bool :=
  match t.element? path, t.element? previous with
  | some e, some p =>
    if p.index < e.index then true
    else if e.index = p.index then e.repeatable && !e.isContainer
    else (e :: t.ancestors e).any fun a => a.repeatable && isInside previous a.path
  | _, _ => false

end DocumentType

end CatalogRecords
