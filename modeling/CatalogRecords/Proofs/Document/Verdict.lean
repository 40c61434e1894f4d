import CatalogRecords.Proofs.Document.Findings
import CatalogRecords.Proofs.Schema.Elements

/-!
# What a validated document is like

A document can be saved exactly if it conforms to its type: all nodes are declared and follow each
other as they may, fields hold texts that they take and containers hold nodes, attachments belong to
values that are there, and no required field is missing. An empty container is the one thing more
that validation finds.
-/

namespace CatalogRecords

variable {t : DocumentType} {known : String → String → Bool} {path : String} {e : Element}
  {good : Finding → Prop}

/-- A text that a field takes as its value. -/
structure SimpleField.Admits (field : SimpleField) (known : String → String → Bool)
    (path value : String) : Prop where
  nonempty : value ≠ ""
  exact : field.fixedLength = true → value.length = field.length
  most : field.fixedLength = false → 0 < field.length → value.length ≤ field.length
  pattern : ∀ p, field.validation = some p → p.isMatch value = true
  dictionary : field.dictionary = .closed → known path value = true

/-- Texts belong into fields, nodes into containers. -/
def Element.Holds (e : Element) : Content → Prop
  | .text _ => e.isContainer = false
  | .group _ => e.isContainer = true

/-- A document that fits its type. -/
structure Document.Conforms (d : Document) (t : DocumentType) (dictionary : Dictionary) :
    Prop where
  declared : ∀ entry ∈ d.flatten, t.contains entry.path = true
  ordered : ((d.flatten.map FlatEntry.path).filter t.contains).IsChain
    fun previous path => t.canFollow path previous = true
  holds : ∀ entry ∈ d.flatten, ∀ e, t.element? entry.path = some e → e.Holds entry.content
  values : ∀ entry ∈ d.flatten, ∀ field value, t.field? entry.path = some field →
    entry.content = .text value → field.Admits (dictionary.forType t.sid) entry.path value
  attachments : ∀ a ∈ d.attachments,
    t.isMultimediaField a.fieldPath = true ∧ a.value ∈ d.textsAt a.fieldPath
  required : ∀ e ∈ t.requiredFields, d.contentsAt e.path ≠ []

/-! Findings that are fatal, all but one kind, are excluded by what is found good only if it is not
fatal. This covers both the question whether a document can be saved and whether nothing at all is
found. -/

/-- Nothing fatal is found about a text exactly if the field takes it. -/
theorem SimpleField.forall_mem_findings_iff_admits {field : SimpleField} {value : String}
    (hlength : field.fixedLength = true → 0 < field.length)
    (hgood : ∀ f, f.isFatal = true → ¬good f) :
    (∀ f ∈ field.findings known path value, good f) ↔ field.Admits known path value := by
  rw [forall_mem_findings]
  constructor
  · rintro ⟨hempty, hexact, hmost, hpattern, hdictionary⟩
    refine ⟨fun h => hgood _ rfl (hempty h), fun hfixed => ?_, fun hfixed hpos => ?_,
      fun p hp => ?_, fun hclosed => ?_⟩
    · by_contra h
      exact hgood _ rfl (hexact (hlength hfixed) hfixed h)
    · by_contra h
      exact hgood _ rfl (hmost hpos hfixed (Nat.lt_of_not_le h))
    · by_contra h
      exact hgood _ rfl (hpattern p hp (Bool.eq_false_iff.mpr h))
    · by_contra h
      exact hgood _ rfl (hdictionary hclosed (Bool.eq_false_iff.mpr h))
  · intro h
    refine ⟨fun hempty => absurd hempty h.nonempty,
      fun _ hfixed hne => absurd (h.exact hfixed) hne,
      fun hpos hfixed hlt => absurd (h.most hfixed hpos) (Nat.not_le_of_lt hlt),
      fun p hp hmatch => absurd (h.pattern p hp) (Bool.eq_false_iff.mp hmatch),
      fun hclosed hknown => absurd (h.dictionary hclosed) (Bool.eq_false_iff.mp hknown)⟩

/-- Nothing fatal is found about what an element's node holds exactly if it belongs there and is
taken. -/
theorem Element.forall_mem_findings_iff_holds {content : Content} (hsound : e.IsSound)
    (hgood : ∀ f, f.isFatal = true → ¬good f) :
    (∀ f ∈ e.findings known path content, good f) ↔
      e.Holds content ∧
      (∀ field value, e.field? = some field → content = .text value →
        field.Admits known path value) ∧
      (e.isContainer = true → content = .group [] → good (.emptyContainer path)) := by
  rw [forall_mem_findings]
  cases content with
  | text value =>
    have htext : (e.isContainer = true → good (.textInContainer path)) ↔ e.isContainer = false := by
      rw [← Bool.not_eq_true]
      exact ⟨fun h hcontainer => hgood _ rfl (h hcontainer),
        fun h hcontainer => absurd hcontainer h⟩
    rw [Holds, htext]
    refine and_congr_right fun _ => ?_
    constructor
    · intro h
      refine ⟨fun field _ hfield heq => ?_, fun _ hgroup => Content.noConfusion hgroup⟩
      cases heq
      exact (SimpleField.forall_mem_findings_iff_admits (hsound.length field hfield) hgood).mp
        (h field hfield)
    · rintro ⟨h, -⟩ field hfield
      exact (SimpleField.forall_mem_findings_iff_admits (hsound.length field hfield) hgood).mpr
        (h field value hfield rfl)
  | group nodes =>
    have hgroup : (e.isContainer = false → good (.nodesInField path)) ↔ e.isContainer = true := by
      rw [← Bool.not_eq_false]
      exact ⟨fun h hfield => hgood _ rfl (h hfield), fun h hfield => absurd hfield h⟩
    rw [Holds, hgroup]
    refine and_congr_right fun _ => ⟨fun h => ⟨fun _ _ _ heq => Content.noConfusion heq, ?_⟩, ?_⟩
    · intro hcontainer heq
      cases heq
      exact h hcontainer rfl
    · rintro ⟨-, h⟩ hcontainer rfl
      exact h hcontainer rfl

namespace Document

variable {d : Document} {dictionary : Dictionary}

/-- Nothing fatal is found about a document exactly if it conforms to its type. -/
theorem forall_mem_findings_iff_conforms (h : t.IsLaidOut) (good : Finding → Prop)
    (hgood : ∀ f, f.isFatal = true → ¬good f) :
    (∀ f ∈ (d.validate t dictionary).findings, good f) ↔
      d.Conforms t dictionary ∧
      ∀ entry ∈ d.flatten, ∀ e, t.element? entry.path = some e → e.isContainer = true →
        entry.content = .group [] → good (.emptyContainer entry.path) := by
  have hsound (path : String) (e : Element) (he : t.element? path = some e) : e.IsSound :=
    h.sound e (h.element?_eq_some_iff.mp he).1
  have hfield (path : String) (e : Element) (he : t.element? path = some e) :
      t.field? path = e.field? := by
    rw [DocumentType.field?, he, Option.bind_some]
  rw [forall_mem_findings]
  constructor
  · rintro ⟨hdeclared, hnodes, hordered, hattachments, hrequired⟩
    have hnode (entry : FlatEntry) (hentry : entry ∈ d.flatten) (e : Element)
        (he : t.element? entry.path = some e) :=
      (Element.forall_mem_findings_iff_holds (hsound _ e he) hgood).mp (hnodes entry hentry e he)
    refine ⟨⟨fun entry hentry => ?_, hordered.imp fun p q hpq => ?_,
      fun entry hentry e he => (hnode entry hentry e he).1, ?_, fun a ha => ?_,
      fun e he hnone => hgood _ rfl (hrequired e he hnone)⟩,
      fun entry hentry e he => (hnode entry hentry e he).2.2⟩
    · by_contra hcontains
      rw [DocumentType.contains, Option.isSome_iff_ne_none, not_not] at hcontains
      exact hgood _ rfl (hdeclared entry hentry hcontains)
    · by_contra hfollow
      exact hgood _ rfl (hpq (Bool.eq_false_iff.mpr hfollow))
    · intro entry hentry field value hfield' hcontent
      obtain ⟨e, he, hfield'⟩ := Option.bind_eq_some_iff.mp hfield'
      exact (hnode entry hentry e he).2.1 field value hfield' hcontent
    · have ha := forall_mem_attachmentFindings.mp (hattachments a ha)
      have hmedia : t.isMultimediaField a.fieldPath = true := by
        by_contra hmedia
        exact hgood _ rfl (ha.1 (Bool.eq_false_iff.mpr hmedia))
      refine ⟨hmedia, ?_⟩
      by_contra hvalue
      exact hgood _ rfl (ha.2 hmedia hvalue)
  · rintro ⟨hconforms, hempty⟩
    refine ⟨fun entry hentry hnone => ?_, fun entry hentry e he => ?_,
      hconforms.ordered.imp fun p q hpq hfollow => absurd hpq (Bool.eq_false_iff.mp hfollow),
      fun a ha => forall_mem_attachmentFindings.mpr ?_,
      fun e he hnone => absurd hnone (hconforms.required e he)⟩
    · have hcontains := hconforms.declared entry hentry
      rw [DocumentType.contains, hnone] at hcontains
      cases hcontains
    · refine (Element.forall_mem_findings_iff_holds (hsound _ e he) hgood).mpr
        ⟨hconforms.holds entry hentry e he, fun field value hvalue hcontent => ?_,
          hempty entry hentry e he⟩
      exact hconforms.values entry hentry field value ((hfield _ e he).trans hvalue) hcontent
    · obtain ⟨hmedia, hvalue⟩ := hconforms.attachments a ha
      exact ⟨fun h => absurd hmedia (Bool.eq_false_iff.mp h), fun _ h => absurd hvalue h⟩

/-- A document can be saved if no finding about it is fatal. -/
theorem canBeSaved_iff :
    (d.validate t dictionary).canBeSaved = true ↔
      ∀ f ∈ (d.validate t dictionary).findings, f.isFatal = false := by
  simp [ValidationResult.canBeSaved]

/-- What is found about a document is nothing fatal exactly if it conforms to its type. -/
theorem forall_isFatal_eq_false_iff_conforms (h : t.IsLaidOut) :
    (∀ f ∈ (d.validate t dictionary).findings, f.isFatal = false) ↔ d.Conforms t dictionary := by
  rw [forall_mem_findings_iff_conforms h (fun f => f.isFatal = false)
    fun f hfatal => Bool.eq_false_iff.not.mpr (not_not_intro hfatal)]
  exact and_iff_left fun _ _ _ _ _ _ => rfl

/-- A document can be saved exactly if it conforms to its type, and nothing at all is found exactly
if besides no container in it is empty. -/
theorem canBeSaved_iff_conforms {definition : DocumentTypeDefinition} {t : DocumentType}
    (hbuild : DocumentType.build definition = .ok t) (d : Document) (dictionary : Dictionary) :
    ((d.validate t dictionary).canBeSaved = true ↔ d.Conforms t dictionary) ∧
    ((d.validate t dictionary).findings = [] ↔
      d.Conforms t dictionary ∧
      ∀ entry ∈ d.flatten, ∀ e, t.element? entry.path = some e → e.isContainer = true →
        entry.content ≠ .group []) := by
  have h := DocumentType.isLaidOut_of_build hbuild
  constructor
  · rw [canBeSaved_iff]
    exact forall_isFatal_eq_false_iff_conforms h
  · rw [List.eq_nil_iff_forall_not_mem]
    exact forall_mem_findings_iff_conforms h (fun _ => False) fun _ _ => not_false

/-- A site with two rounds of relations, the second with two codes and a picture of the last. -/
def siteRecord : Document where
  documentType := "SI"
  attachments := [⟨"SI.RV.RSE.RSEC", "3", "3.jpg"⟩]
  content := [
    .group "CD" [.text "TSK" "SI", .group "NCT" [.text "NCTN" "00000001"]],
    .group "RV" [.text "RVEL" "1", .group "RSE" [.text "RSER" "near", .text "RSEC" "1"]],
    .group "RV" [.group "RSE" [.text "RSEC" "2", .text "RSEC" "3"]]]

/-- The kinds of records. -/
def kindsOfRecords : Dictionary := .ofLists [("SI.CD.TSK", ["SI", "RA"])]

/-- The site conforms to its type and nothing is found wrong with it; without the terms of the
dictionary it does not conform. -/
theorem siteRecord_conforms :
    DocumentType.build siteDefinition = .ok siteType ∧
      siteRecord.Conforms siteType kindsOfRecords ∧
      ¬siteRecord.Conforms siteType .empty := by
  refine ⟨build_siteDefinition, ?_, fun h => ?_⟩
  · refine ((canBeSaved_iff_conforms build_siteDefinition siteRecord kindsOfRecords).2.mp ?_).1
    decide +kernel
  · have hsaved := (canBeSaved_iff_conforms build_siteDefinition siteRecord .empty).1.mpr h
    revert hsaved
    decide +kernel

end Document

end CatalogRecords
