import CatalogRecords.Document.Validation
import Mathlib.Data.List.Chain

/-!
# What validation finds

Validation collects findings from several passes. Something holds of all findings that are
collected exactly if it holds of each kind of finding wherever there is reason for one. What can be
said of the whole result, such as that nothing in it is fatal, is read off the document that way.
-/

namespace CatalogRecords

variable {t : DocumentType} {known : String → String → Bool} {path : String} {e : Element}
  {good : Finding → Prop}

/-- What is to hold of a finding is to hold if there is a reason for it. -/
theorem forall_mem_findingIf {reason : Bool} {finding : Finding} :
    (∀ f ∈ findingIf reason finding, good f) ↔ (reason = true → good finding) := by
  cases reason <;> simp [findingIf]

/-- All findings about a text as the value of a field. -/
theorem SimpleField.forall_mem_findings {field : SimpleField} {value : String} :
    (∀ f ∈ field.findings known path value, good f) ↔
      (value = "" → good (.emptyField path)) ∧
      (0 < field.length → field.fixedLength = true → value.length ≠ field.length →
        good (.notExactLength path field.length value.length)) ∧
      (0 < field.length → field.fixedLength = false → field.length < value.length →
        good (.tooLong path value.length field.length)) ∧
      (∀ p, field.validation = some p → p.isMatch value = false →
        good (.patternMismatch path p.source)) ∧
      (field.dictionary = .closed → known path value = false →
        good (.notInDictionary value path)) := by
  unfold findings
  rw [List.forall_mem_append, List.forall_mem_append, List.forall_mem_append,
    List.forall_mem_append, forall_mem_findingIf, forall_mem_findingIf, forall_mem_findingIf,
    forall_mem_findingIf]
  cases field.validation <;>
    simp [forall_mem_findingIf, and_assoc]

/-- All findings about what a node of an element holds. -/
theorem Element.forall_mem_findings {content : Content} :
    (∀ f ∈ e.findings known path content, good f) ↔
      match content with
      | .text value =>
        (e.isContainer = true → good (.textInContainer path)) ∧
        ∀ field, e.field? = some field → ∀ f ∈ field.findings known path value, good f
      | .group nodes =>
        (e.isContainer = false → good (.nodesInField path)) ∧
        (e.isContainer = true → nodes = [] → good (.emptyContainer path)) := by
  cases content with
  | text value =>
    dsimp only [findings, isContainer]
    cases e.field? <;> simp
  | group nodes =>
    dsimp only [findings]
    cases e.isContainer <;> simp [forall_mem_findingIf]

/-- All findings about the nodes of a document. The order is judged between neighbours among those
that are declared. -/
theorem DocumentType.forall_mem_entryFindings (previous : Option String)
    (entries : List FlatEntry) :
    (∀ f ∈ t.entryFindings known previous entries, good f) ↔
      (∀ entry ∈ entries, t.element? entry.path = none →
        good (.unknownElement entry.path t.sid)) ∧
      (∀ entry ∈ entries, ∀ e, t.element? entry.path = some e →
        ∀ f ∈ e.findings known entry.path entry.content, good f) ∧
      (previous.toList ++ (entries.map FlatEntry.path).filter t.contains).IsChain
        fun before path => t.canFollow path before = false → good (.outOfOrder path before) := by
  induction entries generalizing previous with
  | nil => cases previous <;> simp [entryFindings]
  | cons entry entries ih =>
    rw [entryFindings.eq_def, List.forall_mem_cons, List.forall_mem_cons, List.map_cons]
    dsimp only
    cases helement : t.element? entry.path with
    | none =>
      have hcontains : t.contains entry.path = false := by rw [contains, helement]; rfl
      rw [List.filter_cons_of_neg (Bool.eq_false_iff.mp hcontains), List.forall_mem_cons, ih]
      simp [and_assoc]
    | some e =>
      have hcontains : t.contains entry.path = true := by rw [contains, helement]; rfl
      rw [List.filter_cons_of_pos hcontains]
      dsimp only
      rw [List.forall_mem_append, List.forall_mem_append, ih]
      simp only [Option.some.injEq, forall_eq', reduceCtorEq, IsEmpty.forall_iff, true_and]
      cases previous with
      | none =>
        simp only [List.not_mem_nil, IsEmpty.forall_iff, implies_true, true_and,
          Option.toList_some, List.cons_append, List.nil_append, Option.toList_none]
        tauto
      | some before =>
        simp only [forall_mem_findingIf, Bool.not_eq_true', Option.toList_some,
          List.cons_append, List.nil_append, List.isChain_cons_cons]
        tauto

/-- All findings about an attachment. -/
theorem Document.forall_mem_attachmentFindings {d : Document} {a : Attachment} :
    (∀ f ∈ d.attachmentFindings t a, good f) ↔
      (t.isMultimediaField a.fieldPath = false → good (.noMedia a.fileName a.fieldPath)) ∧
      (t.isMultimediaField a.fieldPath = true → a.value ∉ d.textsAt a.fieldPath →
        good (.noValueForMedia a.fileName a.value a.fieldPath)) := by
  rw [attachmentFindings]
  cases t.isMultimediaField a.fieldPath with
  | false => simp
  | true => simp [forall_mem_findingIf]

/-- All findings about fields that are not there. -/
theorem Document.forall_mem_missingFindings {d : Document} :
    (∀ f ∈ d.missingFindings t, good f) ↔
      ∀ e ∈ t.requiredFields, d.contentsAt e.path = [] → good (.missingField e.path) := by
  rw [missingFindings, List.forall_mem_flatMap]
  simp only [forall_mem_findingIf, List.isEmpty_iff]

/-- All findings of a validation. -/
theorem Document.forall_mem_findings {d : Document} {dictionary : Dictionary} :
    (∀ f ∈ (d.validate t dictionary).findings, good f) ↔
      (∀ entry ∈ d.flatten, t.element? entry.path = none →
        good (.unknownElement entry.path t.sid)) ∧
      (∀ entry ∈ d.flatten, ∀ e, t.element? entry.path = some e →
        ∀ f ∈ e.findings (dictionary.forType t.sid) entry.path entry.content, good f) ∧
      ((d.flatten.map FlatEntry.path).filter t.contains).IsChain
        (fun before path => t.canFollow path before = false → good (.outOfOrder path before)) ∧
      (∀ a ∈ d.attachments, ∀ f ∈ d.attachmentFindings t a, good f) ∧
      ∀ e ∈ t.requiredFields, d.contentsAt e.path = [] → good (.missingField e.path) := by
  rw [validate, List.forall_mem_append, List.forall_mem_append, List.forall_mem_flatMap,
    forall_mem_missingFindings, DocumentType.forall_mem_entryFindings, Option.toList_none,
    List.nil_append]
  simp only [and_assoc]

end CatalogRecords
