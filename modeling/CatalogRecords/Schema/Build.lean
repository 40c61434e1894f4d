import CatalogRecords.Schema.DocumentType

/-!
# Building document types

A definition is checked element by element, each before its fields: identifiers are not blank and
hold no dot, no complete path comes twice, paragraphs and groups set no attribute of simple fields,
a fixed length is not zero, and patterns can be compiled by the engine. The first element to break a
rule is reported. A definition that passes is laid out in canonical order.
-/

namespace CatalogRecords

/-- Why a definition makes no document type. -/
inductive SchemaError where
  | invalidSid (sid : String)
  | duplicatePath (path : String)
  | invalidPattern (path : String)
  | containerAttribute (path : String) (setting : FieldAttribute)
  | missingFixedLength (path : String)
  deriving DecidableEq, Repr

/-- The text of an error. -/
def SchemaError.message : SchemaError → String
  | invalidSid sid => s!"invalid sid '{sid}': must be non-empty and must not contain '.'"
  | duplicatePath path => s!"duplicate element path: {path}"
  | invalidPattern path => s!"invalid pattern in {path}"
  | containerAttribute path setting =>
    s!"container {path} declares simple-field attribute '{setting.name}'"
  | missingFixedLength path => s!"field {path} is fixed-length but declares length 0"

/-- Whether a text can be an identifier. -/
def isSid (sid : String) : Bool := !Text.isBlankText sid && !sid.toList.contains '.'

/-- Refuses a text that cannot be an identifier. -/
def checkSid (sid : String) : Except SchemaError Unit :=
  if isSid sid then .ok () else .error (.invalidSid sid)

/-- The source of a pattern; an empty text is none. -/
def patternSource? (source : Option String) : Option String := source.filter fun s => s != ""

/-- The pattern for whole values, which keeps its own source. -/
def compileWhole? [PatternEngine] (source : String) : Option Pattern :=
  (Pattern.compile? (Pattern.wholeValue source)).map fun p => { p with source := source }

/-- Whether there is no source or it can be compiled. -/
def compiles (compile? : String → Option Pattern) (source : Option String) : Bool :=
  match patternSource? source with
  | some s => (compile? s).isSome
  | none => true

/-- Refuses attributes that no simple field can have. -/
def checkField [PatternEngine] (a : ElementAttributes) (path : String) : Except SchemaError Unit :=
  if a.fixedLength ∧ a.length = 0 then .error (.missingFixedLength path)
  else if !compiles compileWhole? a.validationPattern then .error (.invalidPattern path)
  else if !compiles Pattern.compile? a.extractionPattern then .error (.invalidPattern path)
  else .ok ()

/-- Refuses attributes of simple fields on an element that holds others. -/
def checkContainer (a : ElementAttributes) (path : String) : Except SchemaError Unit :=
  match a.firstFieldAttribute? with
  | some setting => .error (.containerAttribute path setting)
  | none => .ok ()

/-- Checks an element apart from its fields, and adds its path to those seen. -/
def checkElement [PatternEngine] (parentPath : String) (isContainer : Bool) (a : ElementAttributes)
    (seen : List String) : Except SchemaError (List String) := do
  checkSid a.sid
  let path := childPath parentPath a.sid
  if seen.contains path then .error (.duplicatePath path)
  else
    if isContainer then checkContainer a path else checkField a path
    .ok (path :: seen)

mutual

/-- Checks an element and its fields. -/
def ElementDefinition.check [PatternEngine] (parentPath : String) (atTop : Bool)
    (seen : List String) : ElementDefinition → Except SchemaError (List String)
  | .leaf a => checkElement parentPath atTop a seen
  | .group a fields => do
    let seen ← checkElement parentPath true a seen
    checkAll (childPath parentPath a.sid) false seen fields

/-- Checks elements one after the other. -/
def checkAll [PatternEngine] (parentPath : String) (atTop : Bool) (seen : List String) :
    List ElementDefinition → Except SchemaError (List String)
  | [] => .ok seen
  | d :: ds => do
    let seen ← d.check parentPath atTop seen
    checkAll parentPath atTop seen ds

end

/-- The simple field that attributes describe. -/
def SimpleField.ofAttributes [PatternEngine] (a : ElementAttributes) : SimpleField where
  fieldType := a.fieldType
  validation := (patternSource? a.validationPattern).bind compileWhole?
  extraction := (patternSource? a.extractionPattern).bind Pattern.compile?
  datetimeFormat := patternSource? a.datetimeFormat
  usesPointDecimal := a.usesPointDecimal
  length := a.length
  fixedLength := a.fixedLength
  dictionary := a.dictionary
  media := a.media
  unique := a.unique
  uniquenessGroup := a.uniquenessGroup
  requiredForSaving := a.requiredForSaving

/-- The kind of the element that a definition describes. -/
def ElementDefinition.kind [PatternEngine] (atTop : Bool) (d : ElementDefinition) : ElementKind :=
  if atTop then .paragraph
  else match d with
    | .leaf a => .simpleField (.ofAttributes a)
    | .group _ _ => .structuredField

/-- Where an element is laid out: what it is in, and the first index that is free. -/
structure Place where
  parent : Option Nat
  parentPath : String
  repeated : Bool
  index : Nat

/-- The indices that elements one after the other have, when the first has the given one. -/
def indicesFrom (index : Nat) : List ElementDefinition → List Nat
  | [] => []
  | d :: ds => index :: indicesFrom (index + d.size) ds

/-- The element that a definition describes at a place. -/
def ElementDefinition.element [PatternEngine] (place : Place) (d : ElementDefinition) :
    Element where
  index := place.index
  sid := d.attributes.sid
  label := d.attributes.label
  path := childPath place.parentPath d.attributes.sid
  compliant := d.attributes.compliant
  repeatable := d.attributes.repeatable
  canBeRepeated := d.attributes.repeatable || place.repeated
  level := d.attributes.level
  kind := d.kind place.parent.isNone
  parent := place.parent
  children := indicesFrom (place.index + 1) d.fields

/-- The place of the first field of an element. -/
def Element.inner (e : Element) : Place := ⟨some e.index, e.path, e.canBeRepeated, e.index + 1⟩

mutual

/-- The elements that a definition describes, in canonical order. -/
def ElementDefinition.layout [PatternEngine] (place : Place) : ElementDefinition → List Element
  | .leaf a => [ElementDefinition.element place (.leaf a)]
  | .group a fields =>
    let e := ElementDefinition.element place (.group a fields)
    e :: layoutAll e.inner fields

/-- The elements that several definitions describe. -/
def layoutAll [PatternEngine] (place : Place) : List ElementDefinition → List Element
  | [] => []
  | d :: ds => d.layout place ++ layoutAll { place with index := place.index + d.size } ds

end

/-- Builds a document type from its definition. -/
def DocumentType.build [PatternEngine] (d : DocumentTypeDefinition) :
    Except SchemaError DocumentType := do
  checkSid d.sid
  let _ ← checkAll d.sid true [] d.paragraphs
  .ok {
    sid := d.sid
    label := d.label
    compliant := d.compliant
    author := d.author
    version := d.version
    standardVersion := d.standardVersion
    publicByDefault := d.publicByDefault
    elements := layoutAll ⟨none, d.sid, false, 0⟩ d.paragraphs }

end CatalogRecords
