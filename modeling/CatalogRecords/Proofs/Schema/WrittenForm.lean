import CatalogRecords.Proofs.Data.Records
import CatalogRecords.Proofs.Schema.WellFormed
import CatalogRecords.Schema.Encoding

/-!
# Definitions as records

A definition is read from its record as it was written, so that what is left out because it has its
default gets this default again, at all depths. A record in which a definition has a field of an
unknown name is no definition, wherever in it this is. Lengths and groups are numbers of 64 and 32
bits: a greater one can be written and is not read.
-/

namespace CatalogRecords

open Data

variable {dialect : Dialect}

namespace ElementAttributes

/-- Whether the numbers are ones that can be read. -/
structure IsSized (a : ElementAttributes) : Prop where
  length : a.length < Number.twoPow 64
  uniquenessGroup : a.uniquenessGroup < Number.twoPow 32

/-- Whether the numbers can be read can be decided. -/
instance (a : ElementAttributes) : Decidable a.IsSized :=
  decidable_of_iff (a.length < Number.twoPow 64 ∧ a.uniquenessGroup < Number.twoPow 32)
    ⟨fun h => ⟨h.1, h.2⟩, fun h => ⟨h.length, h.uniquenessGroup⟩⟩

/-- The fields of an element's record. -/
def fields (a : ElementAttributes) (inner : Option (List Data)) : List (String × Option Data) := [
  ("sid", some (.text a.sid)),
  ("label", if a.label != "" then some (.text a.label) else none),
  ("compliant", if !a.compliant then some (.bool a.compliant) else none),
  ("repeatable", if a.repeatable then some (.bool a.repeatable) else none),
  ("level", some (.text a.level.word)),
  ("fields", inner.map Data.list),
  ("required_for_saving",
    if a.requiredForSaving then some (.bool a.requiredForSaving) else none),
  ("field_type", some (.text a.fieldType.word)),
  ("validation_pattern", a.validationPattern.map Data.text),
  ("extraction_pattern", a.extractionPattern.map Data.text),
  ("datetime_format", a.datetimeFormat.map Data.text),
  ("uses_point_decimal", if a.usesPointDecimal then some (.bool a.usesPointDecimal) else none),
  ("length", if a.length != 0 then some (.int a.length) else none),
  ("fixed_length", if a.fixedLength then some (.bool a.fixedLength) else none),
  ("dictionary", some (.text a.dictionary.word)),
  ("media", some (.text a.media.word)),
  ("unique", if a.unique then some (.bool a.unique) else none),
  ("uniqueness_group", some (.int a.uniquenessGroup))]

/-- The attributes are written as the map of their fields. -/
theorem encode_eq (a : ElementAttributes) (inner : Option (List Data)) :
    a.encode inner = .map (written (a.fields inner)) := by
  simp only [encode, fields, written_cons, entryIf_eq, textEntry?, List.append_assoc]
  rfl

/-- No two attributes have one name. -/
theorem nodup_fieldNames : fieldNames.Nodup := by decide

/-- A number that is not too great is read as it was written. -/
theorem nat?_int {greatest n : Nat} (h : n ≤ greatest) :
    (Data.int n).nat? greatest = some n := by
  simp [Data.nat?, h]

/-- What a record says of an element is read as it was written. -/
theorem decode?_of_holds {whole : Data} {r : Record whole} {a : ElementAttributes}
    {inner : Option (List Data)} (h : r.Holds (a.fields inner)) (hsized : a.IsSized) :
    decode? dialect r = some a := by
  have hsid : r.required "sid" (fun part => part.1.text?) = some a.sid :=
    h.required_text (List.mem_of_getElem? (i := 0) rfl)
  have hlabel : r.defaulted "label" "" (fun part => part.1.text?) = some a.label :=
    h.defaulted_if text? (List.mem_of_getElem? (i := 1) rfl) rfl
      fun hempty => (bne_eq_false_iff_eq.mp hempty).symm
  have hcompliant : r.defaulted "compliant" true (fun part => part.1.bool?) = some a.compliant :=
    h.defaulted_if bool? (List.mem_of_getElem? (i := 2) rfl) rfl
      fun htrue => (Bool.not_inj (y := true) htrue).symm
  have hrepeatable := h.defaulted_false (List.mem_of_getElem? (i := 3) rfl)
  have hlevel : r.defaulted "level" .none (fun part => part.1.word? dialect Level.words) =
      some a.level :=
    h.defaulted_word (List.mem_of_getElem? (i := 4) rfl) a.level.lookup_word
  have hrequired := h.defaulted_false (List.mem_of_getElem? (i := 6) rfl)
  have htype : r.defaulted "field_type" .string
      (fun part => part.1.word? dialect FieldType.words) = some a.fieldType :=
    h.defaulted_word (List.mem_of_getElem? (i := 7) rfl) a.fieldType.lookup_word
  have hvalidation := h.optional_text (List.mem_of_getElem? (i := 8) rfl)
  have hextraction := h.optional_text (List.mem_of_getElem? (i := 9) rfl)
  have hformat := h.optional_text (List.mem_of_getElem? (i := 10) rfl)
  have hpoint := h.defaulted_false (List.mem_of_getElem? (i := 11) rfl)
  have hlength : r.defaulted "length" 0 (fun part => part.1.nat? (Number.twoPow 64 - 1)) =
      some a.length :=
    h.defaulted_if (fun value => value.nat? (Number.twoPow 64 - 1))
      (List.mem_of_getElem? (i := 12) rfl) (nat?_int (Nat.le_pred_of_lt hsized.length))
      fun hzero => (bne_eq_false_iff_eq.mp hzero).symm
  have hfixed := h.defaulted_false (List.mem_of_getElem? (i := 13) rfl)
  have hdictionary : r.defaulted "dictionary" .none
      (fun part => part.1.word? dialect DictionaryMode.words) = some a.dictionary :=
    h.defaulted_word (List.mem_of_getElem? (i := 14) rfl) a.dictionary.lookup_word
  have hmedia : r.defaulted "media" .none (fun part => part.1.word? dialect MediaKind.words) =
      some a.media :=
    h.defaulted_word (List.mem_of_getElem? (i := 15) rfl) a.media.lookup_word
  have hunique := h.defaulted_false (List.mem_of_getElem? (i := 16) rfl)
  have hgroup : r.defaulted "uniqueness_group" 0
      (fun part => part.1.nat? (Number.twoPow 32 - 1)) = some a.uniquenessGroup :=
    (h.defaulted (fun value => value.nat? (Number.twoPow 32 - 1))
      (List.mem_of_getElem? (i := 17) rfl)).trans
        (nat?_int (Nat.le_pred_of_lt hsized.uniquenessGroup))
  simp only [decode?, Option.bind_eq_bind, Option.bind_some, hsid, hlabel, hcompliant, hrepeatable,
    hlevel, hrequired, htype, hvalidation, hextraction, hformat, hpoint, hlength, hfixed,
    hdictionary, hmedia, hunique, hgroup]

end ElementAttributes

namespace ElementDefinition

/-- The definition of an element with a list of fields or without one. -/
def ofFields (a : ElementAttributes) : Option (List ElementDefinition) → ElementDefinition
  | some ds => .group a ds
  | none => .leaf a

/-- The fields of an element are read like elements by themselves. -/
theorem decode?_eq (dialect : Dialect) (value : Data) :
    decode? dialect value =
      (value.closedRecord? dialect ElementAttributes.fieldNames).bind fun r =>
        (ElementAttributes.decode? dialect r).bind fun a =>
          (r.optionalDefault "fields" fun part => part.1.list? dialect (decode? dialect)).map
            (ofFields a) := by
  rw [decode?]
  refine Option.bind_congr fun r _ => Option.bind_congr fun a _ => ?_
  rw [Option.map_eq_bind]
  refine Option.bind_congr fun fields _ => ?_
  cases fields <;> rfl

/-- An element is read as it was written if its fields are. -/
theorem decode?_encode_of_fields {a : ElementAttributes} (hsized : a.IsSized)
    (ds? : Option (List ElementDefinition)) (hfields : ∀ ds, ds? = some ds →
      (encodeElements ds).mapM (decode? dialect) = some ds) :
    decode? dialect (a.encode (ds?.map encodeElements)) = some (ofFields a ds?) := by
  obtain ⟨r, hr, h⟩ := exists_closedRecord?_of_written dialect ElementAttributes.fieldNames
    (a.encode_eq (ds?.map encodeElements)) rfl ElementAttributes.nodup_fieldNames
  have hinner : r.optionalDefault "fields"
      (fun part => part.1.list? dialect (decode? dialect)) = some ds? := by
    refine h.optionalDefault (fun value => value.list? dialect (decode? dialect))
      (Data.list ∘ encodeElements) ?_ fun ds hds =>
        ⟨(list?_list _ _).trans (hfields ds hds), rfl⟩
    rw [← Option.map_map]
    exact List.mem_of_getElem? (i := 5) rfl
  rw [decode?_eq, hr, Option.bind_some, ElementAttributes.decode?_of_holds h hsized,
    Option.bind_some, hinner, Option.map_some]

mutual

/-- An element is read as it was written, with all its fields. -/
theorem decode?_encode : (d : ElementDefinition) → (∀ x ∈ d.preorder, x.attributes.IsSized) →
    decode? dialect d.encode = some d
  | .leaf a, hsized =>
    decode?_encode_of_fields (hsized _ List.mem_cons_self) none nofun
  | .group a ds, hsized => by
    rw [preorder_eq, List.forall_mem_cons] at hsized
    refine decode?_encode_of_fields hsized.1 (some ds) ?_
    rintro _ ⟨⟩
    exact mapM_decode?_encodeElements ds hsized.2

/-- A list of definitions is read as it was written, if all in it have attributes of a size that can
be read. -/
theorem mapM_decode?_encodeElements : (ds : List ElementDefinition) →
    (∀ x ∈ preorderAll ds, x.attributes.IsSized) →
    (encodeElements ds).mapM (decode? dialect) = some ds
  | [], _ => rfl
  | d :: ds, hsized => by
    rw [preorderAll, List.forall_mem_append] at hsized
    rw [encodeElements, List.mapM_cons, decode?_encode d hsized.1,
      mapM_decode?_encodeElements ds hsized.2]
    rfl

end

/-- Somewhere in a value that is read as an element there is a field of an unknown name: of the
element itself, or of one in its list of fields. -/
inductive HasUnknownField : Data → Prop
  | here {entries : List (String × Data)} {name : String} {value : Data} :
      (name, value) ∈ entries → name ∉ ElementAttributes.fieldNames →
      HasUnknownField (.map entries)
  | inside {whole item : Data} {items : List Data} :
      ("fields", .list items) ∈ whole.namedFields ElementAttributes.fieldNames → item ∈ items →
      HasUnknownField item → HasUnknownField whole

/-- An element with a field of an unknown name somewhere is not read. -/
theorem decode?_of_hasUnknownField {value : Data} (h : HasUnknownField value) :
    decode? dialect value = none := by
  induction h with
  | here hentry hname =>
    rw [decode?_eq, closedRecord?_eq_none_of_mem hentry hname]
    rfl
  | @inside whole item items hfield hitem _ ih =>
    rw [decode?_eq]
    cases hr : whole.closedRecord? dialect ElementAttributes.fieldNames with
    | none => rfl
    | some r =>
      have h := holds_of_mem_namedFields (closedRecord?_eq_some_iff.mp hr).1
        ElementAttributes.nodup_fieldNames (by decide) hfield
      have hinner : r.optionalDefault "fields"
          (fun part => part.1.list? dialect (decode? dialect)) = none := by
        rw [h.optionalDefault_some (fun value => value.list? dialect (decode? dialect))
          List.mem_cons_self rfl, list?_list, mapM_eq_none hitem ih, Option.map_none]
      rw [Option.bind_some, hinner]
      cases ElementAttributes.decode? dialect r <;> rfl

end ElementDefinition

namespace DocumentTypeDefinition

/-- The fields of a document type's record. -/
def fields (d : DocumentTypeDefinition) : List (String × Option Data) := [
  ("sid", some (.text d.sid)),
  ("label", if d.label != "" then some (.text d.label) else none),
  ("compliant", if !d.compliant then some (.bool d.compliant) else none),
  ("author", d.author.map Data.text),
  ("version", d.version.map Data.text),
  ("standard_version", d.standardVersion.map Data.text),
  ("public_by_default", if d.publicByDefault then some (.bool d.publicByDefault) else none),
  ("paragraphs", some (.list (encodeElements d.paragraphs)))]

/-- The definition of a type is written as the map of its fields. -/
theorem encode_eq (d : DocumentTypeDefinition) : d.encode = .map (written d.fields) := by
  simp only [encode, fields, written_cons, entryIf_eq, textEntry?, List.append_assoc]
  rfl

/-- No two fields of the definition of a type have one name. -/
theorem nodup_fieldNames : fieldNames.Nodup := by decide

/-- A document type is read as it was written, with all its elements. -/
theorem decode?_encode {d : DocumentTypeDefinition}
    (hsized : ∀ x ∈ d.allElements, x.attributes.IsSized) : decode? dialect d.encode = some d := by
  obtain ⟨r, hr, h⟩ := exists_closedRecord?_of_written dialect fieldNames d.encode_eq rfl
    nodup_fieldNames
  have hsid : r.required "sid" (fun part => part.1.text?) = some d.sid :=
    h.required_text (List.mem_of_getElem? (i := 0) rfl)
  have hlabel : r.defaulted "label" "" (fun part => part.1.text?) = some d.label :=
    h.defaulted_if text? (List.mem_of_getElem? (i := 1) rfl) rfl
      fun hempty => (bne_eq_false_iff_eq.mp hempty).symm
  have hcompliant : r.defaulted "compliant" true (fun part => part.1.bool?) = some d.compliant :=
    h.defaulted_if bool? (List.mem_of_getElem? (i := 2) rfl) rfl
      fun htrue => (Bool.not_inj (y := true) htrue).symm
  have hauthor := h.optional_text (List.mem_of_getElem? (i := 3) rfl)
  have hversion := h.optional_text (List.mem_of_getElem? (i := 4) rfl)
  have hstandard := h.optional_text (List.mem_of_getElem? (i := 5) rfl)
  have hpublic := h.defaulted_false (List.mem_of_getElem? (i := 6) rfl)
  have hparagraphs : r.defaulted "paragraphs" []
      (fun part => part.1.list? dialect (ElementDefinition.decode? dialect)) =
        some d.paragraphs :=
    h.defaulted_list (List.mem_of_getElem? (i := 7) rfl)
      (ElementDefinition.mapM_decode?_encodeElements d.paragraphs hsized)
  simp only [decode?, hr, Option.bind_eq_bind, Option.bind_some, hsid, hlabel, hcompliant, hauthor,
    hversion, hstandard, hpublic, hparagraphs]

/-- Somewhere in a value that is read as a document type there is a field of an unknown name: of
the document type itself, or of an element in it. -/
def HasUnknownField (value : Data) : Prop :=
  (∃ entries name field, value = .map entries ∧ (name, field) ∈ entries ∧ name ∉ fieldNames) ∨
    ∃ items, ("paragraphs", .list items) ∈ value.namedFields fieldNames ∧
      ∃ item ∈ items, ElementDefinition.HasUnknownField item

/-- A document type with a field of an unknown name somewhere is not read. -/
theorem decode?_of_hasUnknownField {value : Data} (h : HasUnknownField value) :
    decode? dialect value = none := by
  rcases h with ⟨entries, name, field, rfl, hentry, hname⟩ | ⟨items, hfield, item, hitem, hinside⟩
  · rw [decode?, closedRecord?_eq_none_of_mem hentry hname]
    rfl
  · rw [decode?]
    cases hr : value.closedRecord? dialect fieldNames with
    | none => rfl
    | some r =>
      have h := holds_of_mem_namedFields (closedRecord?_eq_some_iff.mp hr).1 nodup_fieldNames
        (by decide) hfield
      have hparagraphs : r.defaulted "paragraphs" []
          (fun part => part.1.list? dialect (ElementDefinition.decode? dialect)) = none := by
        rw [h.defaulted (fun value => value.list? dialect (ElementDefinition.decode? dialect))
          List.mem_cons_self, list?_list,
          mapM_eq_none hitem (ElementDefinition.decode?_of_hasUnknownField hinside)]
      simp only [Option.bind_eq_bind, Option.bind_some, hparagraphs, Option.bind_none,
        Option.bind_fun_none]

end DocumentTypeDefinition

/-- Elements and document types are read as they were written, at all depths and in both notations,
and build to the same. With a field of an unknown name, wherever it is, they are not read at all. -/
theorem written_definitions_are_read (dialect : Dialect) :
    (∀ d : ElementDefinition, (∀ x ∈ d.preorder, x.attributes.IsSized) →
      ElementDefinition.decode? dialect d.encode = some d) ∧
    (∀ d : DocumentTypeDefinition, (∀ x ∈ d.allElements, x.attributes.IsSized) →
      DocumentTypeDefinition.decode? dialect d.encode = some d ∧
      (DocumentTypeDefinition.decode? dialect d.encode).map DocumentType.build =
        some (DocumentType.build d)) ∧
    (∀ value, ElementDefinition.HasUnknownField value →
      ElementDefinition.decode? dialect value = none) ∧
    ∀ value, DocumentTypeDefinition.HasUnknownField value →
      DocumentTypeDefinition.decode? dialect value = none := by
  refine ⟨ElementDefinition.decode?_encode, fun d hsized => ?_,
    fun _ => ElementDefinition.decode?_of_hasUnknownField,
    fun _ => DocumentTypeDefinition.decode?_of_hasUnknownField⟩
  rw [DocumentTypeDefinition.decode?_encode hsized]
  exact ⟨rfl, rfl⟩

/-- The definition of notes, with a paragraph that has no fields and one whose text is long. -/
def noteDefinition : DocumentTypeDefinition where
  sid := "NO"
  author := some ""
  paragraphs := [
    .group { sid := "EM", compliant := false, repeatable := true } [],
    .group { sid := "TX" } [
      .leaf { sid := "TXT", length := Number.twoPow 64 - 1, unique := true }]]

/-- The record of a paragraph with a field whose length is misspelt. -/
def misspeltParagraph : Data :=
  .map [("sid", .text "CD"), ("fields", .list [.map [("sid", .text "TSK"), ("lenght", .int 4)]])]

/-- An empty paragraph stays a paragraph and a length as great as can be is kept; a misspelt name
is refused two levels below the document type. -/
theorem noteDefinition_is_read :
    (∀ x ∈ noteDefinition.allElements, x.attributes.IsSized) ∧
      DocumentTypeDefinition.decode? .json noteDefinition.encode = some noteDefinition ∧
      ElementDefinition.HasUnknownField misspeltParagraph ∧
      ElementDefinition.decode? .json misspeltParagraph = none ∧
      DocumentTypeDefinition.decode? .json
        (.map [("sid", .text "SI"), ("paragraphs", .list [misspeltParagraph])]) = none := by
  obtain ⟨-, htypes, helements, hunknown⟩ := written_definitions_are_read .json
  have hsized : ∀ x ∈ noteDefinition.allElements, x.attributes.IsSized := by decide
  have hmisspelt : ElementDefinition.HasUnknownField misspeltParagraph :=
    .inside (List.mem_of_getElem? (i := 1) rfl) List.mem_cons_self
      (.here (List.mem_of_getElem? (i := 1) rfl) (by decide))
  exact ⟨hsized, (htypes _ hsized).1, hmisspelt, helements _ hmisspelt, hunknown _
    (.inr ⟨_, List.mem_of_getElem? (i := 1) rfl, _, List.mem_cons_self, hmisspelt⟩)⟩

end CatalogRecords
