import CatalogRecords.Schema.Definition
import CatalogRecords.Data.Record

/-!
# The written form of definitions

Definitions are records with fields of fixed names. What has its default is left out, except for
the level, the type, the dictionary, the attachments and the uniqueness group, which are always
written. A field of an unknown name is an error: definitions are written by hand, and a misspelt
name would go unnoticed.
-/

namespace CatalogRecords

open Data

/-- The fields of an element's record, in order. -/
def ElementAttributes.fieldNames : List String := [
  "sid", "label", "compliant", "repeatable", "level", "fields", "required_for_saving",
  "field_type", "validation_pattern", "extraction_pattern", "datetime_format",
  "uses_point_decimal", "length", "fixed_length", "dictionary", "media", "unique",
  "uniqueness_group"]

/-- The record of an element, with its fields if it has a list of them. -/
def ElementAttributes.encode (a : ElementAttributes) (fields : Option (List Data)) : Data :=
  .map <|
    [("sid", .text a.sid)] ++
    entryIf (a.label != "") "label" (.text a.label) ++
    entryIf (!a.compliant) "compliant" (.bool a.compliant) ++
    entryIf a.repeatable "repeatable" (.bool a.repeatable) ++
    [("level", .text a.level.word)] ++
    entryIfSome "fields" (fields.map Data.list) ++
    entryIf a.requiredForSaving "required_for_saving" (.bool a.requiredForSaving) ++
    [("field_type", .text a.fieldType.word)] ++
    textEntry? "validation_pattern" a.validationPattern ++
    textEntry? "extraction_pattern" a.extractionPattern ++
    textEntry? "datetime_format" a.datetimeFormat ++
    entryIf a.usesPointDecimal "uses_point_decimal" (.bool a.usesPointDecimal) ++
    entryIf (a.length != 0) "length" (.int a.length) ++
    entryIf a.fixedLength "fixed_length" (.bool a.fixedLength) ++
    [("dictionary", .text a.dictionary.word), ("media", .text a.media.word)] ++
    entryIf a.unique "unique" (.bool a.unique) ++
    [("uniqueness_group", .int a.uniquenessGroup)]

mutual

/-- The record of an element. -/
def ElementDefinition.encode : ElementDefinition → Data
  | .leaf a => a.encode none
  | .group a fields => a.encode (some (encodeElements fields))

/-- The records of several elements. -/
def encodeElements : List ElementDefinition → List Data
  | [] => []
  | d :: ds => d.encode :: encodeElements ds

end

/-- Reads what a record says of an element itself. -/
def ElementAttributes.decode? {value : Data} (dialect : Dialect) (r : Data.Record value) :
    Option ElementAttributes := do
  let text (part : Part value) := part.1.text?
  let bool (part : Part value) := part.1.bool?
  some {
    sid := ← r.required "sid" text
    label := ← r.defaulted "label" "" text
    compliant := ← r.defaulted "compliant" true bool
    repeatable := ← r.defaulted "repeatable" false bool
    level := ← r.defaulted "level" .none fun part => part.1.word? dialect Level.words
    requiredForSaving := ← r.defaulted "required_for_saving" false bool
    fieldType := ← r.defaulted "field_type" .string fun part =>
      part.1.word? dialect FieldType.words
    validationPattern := ← r.optionalDefault "validation_pattern" text
    extractionPattern := ← r.optionalDefault "extraction_pattern" text
    datetimeFormat := ← r.optionalDefault "datetime_format" text
    usesPointDecimal := ← r.defaulted "uses_point_decimal" false bool
    length := ← r.defaulted "length" 0 fun part => part.1.nat? (Number.twoPow 64 - 1)
    fixedLength := ← r.defaulted "fixed_length" false bool
    dictionary := ← r.defaulted "dictionary" .none fun part =>
      part.1.word? dialect DictionaryMode.words
    media := ← r.defaulted "media" .none fun part => part.1.word? dialect MediaKind.words
    unique := ← r.defaulted "unique" false bool
    uniquenessGroup := ← r.defaulted "uniqueness_group" 0 fun part =>
      part.1.nat? (Number.twoPow 32 - 1) }

/-- Reads the definition of an element. -/
def ElementDefinition.decode? (dialect : Dialect) (value : Data) : Option ElementDefinition := do
  let r ← value.closedRecord? dialect ElementAttributes.fieldNames
  let attributes ← ElementAttributes.decode? dialect r
  let fields ← r.optionalDefault "fields" fun part =>
    part.1.listWith? dialect fun item => ElementDefinition.decode? dialect item.1
  match fields with
  | some fields => some (.group attributes fields)
  | none => some (.leaf attributes)
termination_by sizeOf value
decreasing_by
  have := item.2
  have := part.2
  omega

namespace DocumentTypeDefinition

/-- The fields of a document type's record, in order. -/
def fieldNames : List String := [
  "sid", "label", "compliant", "author", "version", "standard_version", "public_by_default",
  "paragraphs"]

/-- The record of a document type. -/
def encode (d : DocumentTypeDefinition) : Data :=
  .map <|
    [("sid", .text d.sid)] ++
    entryIf (d.label != "") "label" (.text d.label) ++
    entryIf (!d.compliant) "compliant" (.bool d.compliant) ++
    textEntry? "author" d.author ++
    textEntry? "version" d.version ++
    textEntry? "standard_version" d.standardVersion ++
    entryIf d.publicByDefault "public_by_default" (.bool d.publicByDefault) ++
    [("paragraphs", .list (encodeElements d.paragraphs))]

/-- Reads the definition of a document type. -/
def decode? (dialect : Dialect) (value : Data) : Option DocumentTypeDefinition := do
  let r ← value.closedRecord? dialect fieldNames
  let text (part : Part value) := part.1.text?
  some {
    sid := ← r.required "sid" text
    label := ← r.defaulted "label" "" text
    compliant := ← r.defaulted "compliant" true fun part => part.1.bool?
    author := ← r.optionalDefault "author" text
    version := ← r.optionalDefault "version" text
    standardVersion := ← r.optionalDefault "standard_version" text
    publicByDefault := ← r.defaulted "public_by_default" false fun part => part.1.bool?
    paragraphs := ← r.defaulted "paragraphs" [] fun part =>
      part.1.list? dialect (ElementDefinition.decode? dialect) }

end DocumentTypeDefinition

namespace DefinitionBundle

/-- The fields of a bundle's record, in order. -/
def fieldNames : List String :=
  ["format_version", "version", "name", "description", "document_types"]

/-- The record of a bundle. -/
def encode (b : DefinitionBundle) : Data :=
  .map <|
    textEntry? "format_version" b.formatVersion ++
    [("version", .text b.version)] ++
    textEntry? "name" b.name ++
    textEntry? "description" b.description ++
    [("document_types", .list (b.documentTypes.map DocumentTypeDefinition.encode))]

/-- Reads a bundle. A bundle may have further fields. -/
def decode? (dialect : Dialect) (value : Data) : Option DefinitionBundle := do
  let r ← value.record? dialect fieldNames
  let text (part : Part value) := part.1.text?
  some {
    formatVersion := ← r.optionalDefault "format_version" text
    version := ← r.required "version" text
    name := ← r.optionalDefault "name" text
    description := ← r.optionalDefault "description" text
    documentTypes := ← r.required "document_types" fun part =>
      part.1.list? dialect (DocumentTypeDefinition.decode? dialect) }

end DefinitionBundle

end CatalogRecords
