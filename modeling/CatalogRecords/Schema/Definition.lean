import CatalogRecords.Schema.Attributes

/-!
# Definitions of document types

A document type is defined by a tree: its paragraphs, the structured fields in them and the simple
fields in those. An element with a list of fields is a group, even if the list is empty; one
without is a leaf. Definitions are plain data that may break every rule of a schema.
-/

namespace CatalogRecords

/-- What a definition says of one element, its fields apart. -/
structure ElementAttributes where
  sid : String
  label : String := ""
  compliant : Bool := true
  repeatable : Bool := false
  level : Level := .none
  requiredForSaving : Bool := false
  fieldType : FieldType := .string
  validationPattern : Option String := none
  extractionPattern : Option String := none
  datetimeFormat : Option String := none
  usesPointDecimal : Bool := false
  length : Nat := 0
  fixedLength : Bool := false
  dictionary : DictionaryMode := .none
  media : MediaKind := .none
  unique : Bool := false
  uniquenessGroup : Nat := 0
  deriving DecidableEq, Repr

/-- The definition of an element. -/
inductive ElementDefinition where
  | leaf (attributes : ElementAttributes)
  | group (attributes : ElementAttributes) (fields : List ElementDefinition)
  deriving Repr

namespace ElementDefinition

/-- What the definition says of the element itself. -/
def attributes : ElementDefinition → ElementAttributes
  | leaf a => a
  | group a _ => a

/-- The definitions inside. -/
def fields : ElementDefinition → List ElementDefinition
  | leaf _ => []
  | group _ fs => fs

/-- Whether the definition has a list of fields. -/
def isGroup : ElementDefinition → Bool
  | leaf _ => false
  | group _ _ => true

mutual

/-- The number of elements that the definition stands for. -/
def size : ElementDefinition → Nat
  | leaf _ => 1
  | group _ fs => 1 + sizeAll fs

/-- The number of elements that several definitions stand for. -/
def sizeAll : List ElementDefinition → Nat
  | [] => 0
  | d :: ds => d.size + sizeAll ds

end

end ElementDefinition

/-- An attribute that only simple fields have. -/
inductive FieldAttribute where
  | requiredForSaving
  | fieldType
  | validationPattern
  | extractionPattern
  | datetimeFormat
  | usesPointDecimal
  | length
  | dictionary
  | media
  | unique
  deriving DecidableEq, Repr

/-- The name of an attribute in definitions. -/
def FieldAttribute.name : FieldAttribute → String
  | requiredForSaving => "required_for_saving"
  | fieldType => "field_type"
  | validationPattern => "validation_pattern"
  | extractionPattern => "extraction_pattern"
  | datetimeFormat => "datetime_format"
  | usesPointDecimal => "uses_point_decimal"
  | length => "length"
  | dictionary => "dictionary"
  | media => "media"
  | unique => "unique"

namespace ElementAttributes

/-- Whether an attribute of simple fields is set. -/
def sets (a : ElementAttributes) : FieldAttribute → Bool
  | .requiredForSaving => a.requiredForSaving
  | .fieldType => a.fieldType != .string
  | .validationPattern => a.validationPattern.isSome
  | .extractionPattern => a.extractionPattern.isSome
  | .datetimeFormat => a.datetimeFormat.isSome
  | .usesPointDecimal => a.usesPointDecimal
  | .length => a.length != 0 || a.fixedLength
  | .dictionary => a.dictionary != .none
  | .media => a.media != .none
  | .unique => a.unique || a.uniquenessGroup != 0

/-- The first attribute of simple fields that is set. -/
def firstFieldAttribute? (a : ElementAttributes) : Option FieldAttribute :=
  [.requiredForSaving, .fieldType, .validationPattern, .extractionPattern, .datetimeFormat,
    .usesPointDecimal, .length, .dictionary, .media, .unique].find? a.sets

end ElementAttributes

/-- The definition of a document type. -/
structure DocumentTypeDefinition where
  sid : String
  label : String := ""
  compliant : Bool := true
  author : Option String := none
  version : Option String := none
  standardVersion : Option String := none
  publicByDefault : Bool := false
  paragraphs : List ElementDefinition := []
  deriving Repr

/-- Definitions that are published together. -/
structure DefinitionBundle where
  formatVersion : Option String
  version : String
  name : Option String
  description : Option String
  documentTypes : List DocumentTypeDefinition
  deriving Repr

end CatalogRecords
