import CatalogRecords.Proofs.Pattern.EngineLaws
import CatalogRecords.Proofs.Schema.WellFormed

/-!
# The patterns of simple fields

The pattern that a simple field declares for its values is compiled when the document type is built,
and the field keeps it. A value fits if the declared pattern matches all of it. This is so for
declared patterns that are regular expressions by themselves; the check lets others pass, since it
looks at the pattern only after it was put between anchors. The engine may be any that keeps the
laws of engines.
-/

namespace CatalogRecords

open ElementDefinition

variable {place : Place} {d : DocumentTypeDefinition} {t : DocumentType}

/-- Elements that are in another one come from definitions inside the paragraphs. -/
theorem forall₂_layoutAll_top [PatternEngine] (hplace : place.parent = none)
    (ds : List ElementDefinition) :
    List.Forall₂ (fun e x => e.Represents x ∧
      (e.parent ≠ none → x ∈ ds.flatMap fun paragraph => preorderAll paragraph.fields))
      (layoutAll place ds) (preorderAll ds) := by
  induction ds generalizing place with
  | nil =>
    rw [layoutAll, preorderAll]
    exact .nil
  | cons d ds ih =>
    rw [layoutAll, preorderAll, preorder_eq, List.flatMap_cons]
    have hrest := @ih { place with index := place.index + d.size } hplace
    refine List.rel_append ?_ (hrest.imp fun {e x} h =>
      ⟨h.1, fun hparent => List.mem_append_right _ (h.2 hparent)⟩)
    have hfirst := represents_element place d
    cases d with
    | leaf a =>
      rw [layout, fields, preorderAll]
      exact .cons ⟨hfirst, fun hparent => absurd hplace hparent⟩ .nil
    | group a fs =>
      rw [layout, fields]
      refine .cons ⟨hfirst, fun hparent => absurd hplace hparent⟩ ?_
      have hinner := represents_layoutAll (element place (.group a fs)).inner fs
      obtain ⟨hlength, hzip⟩ := List.forall₂_iff_zip.mp hinner
      refine List.forall₂_iff_zip.mpr ⟨hlength, fun hmem => ⟨hzip hmem, fun _ => ?_⟩⟩
      exact List.mem_append_left _ (List.of_mem_zip hmem).2

/-- A source that compiles for whole values is a regular expression by itself unless it closes a
group early, and then the pattern matches what the source matches as a whole. -/
theorem isMatch_of_compileWhole? [PatternEngine] {IsPattern : String → Prop}
    {Spans : String → String → Nat → Nat → Prop} (laws : PatternEngine.Laws IsPattern Spans)
    {source : String} {p : Pattern} (h : compileWhole? source = some p) :
    (IsPattern source ↔ ¬Pattern.ClosesEarly IsPattern source) ∧
      (IsPattern source → ∀ value, p.isMatch value = true ↔ Spans source value 0 value.length) := by
  rw [compileWhole?, Pattern.compile?, Option.map_map, Option.map_eq_some_iff] at h
  obtain ⟨m, hm, rfl⟩ := h
  exact ⟨laws.isPattern_iff (laws.isPattern_of_compile hm), fun hsource _ =>
    laws.isMatch_wholeValue_iff hm hsource⟩

namespace DocumentType

/-- What was built had a well-formed definition. -/
theorem isWellFormed_of_build [PatternEngine] (h : build d = .ok t) : d.IsWellFormed := by
  obtain ⟨t', ht'⟩ := build_eq_report d
  rw [ht', report_eq_ok_iff] at h
  exact DocumentTypeDefinition.violations_eq_nil_iff.mp h.1

/-- With every engine that keeps the laws, a simple field that was built has the pattern that its
definition declares, if it declares one, and this checks whole values. A declared pattern may be no
regular expression by itself, which is so exactly if it closes a group early. If it is one, a value
fits the field exactly if the declared pattern matches it from its first to its last character. -/
theorem validation_patterns_match_wholes [PatternEngine] {IsPattern : String → Prop}
    {Spans : String → String → Nat → Nat → Prop} (laws : PatternEngine.Laws IsPattern Spans)
    (hbuild : build d = .ok t) :
    List.Forall₂ (fun e x => ∀ field, e.kind = .simpleField field → ∀ source ≠ "",
        x.attributes.validationPattern = some source →
          ∃ p, field.validation = some p ∧
            (IsPattern source ↔ ¬Pattern.ClosesEarly IsPattern source) ∧
            (IsPattern source →
              ∀ value, p.isMatch value = true ↔ Spans source value 0 value.length))
      t.elements (preorderAll d.paragraphs) := by
  rw [(elements_of_build hbuild).2]
  refine (forall₂_layoutAll_top rfl d.paragraphs).imp fun {e x} h field hfield source hne hx => ?_
  obtain ⟨hrepresents, hnested⟩ := h
  have hkind := hrepresents.kind
  rw [hfield, kind.eq_def] at hkind
  split at hkind
  · cases hkind
  · rename_i hparent
    cases x with
    | group a fs => cases hkind
    | leaf a =>
      cases hkind
      have hmem : leaf a ∈ d.simpleFields :=
        List.mem_filter.mpr ⟨hnested fun hnone => hparent (hnone ▸ rfl), rfl⟩
      obtain ⟨p, hp⟩ := Option.isSome_iff_exists.mp
        ((isWellFormed_of_build hbuild).validationPatterns _ hmem source hx hne)
      refine ⟨p, ?_, isMatch_of_compileWhole? laws hp⟩
      change a.validationPattern = some source at hx
      rw [SimpleField.ofAttributes, hx, patternSource?, Option.filter_some,
        if_pos (bne_iff_ne.mpr hne), Option.bind_some, hp]

/-- In the document type of sites the numbers of a catalogue are digits from the first to the
last. -/
theorem siteType_number_pattern : ∃ e ∈ siteType.elements, ∃ field p,
    e.kind = .simpleField field ∧ field.validation = some p ∧ p.source = "[0-9]+" ∧
      Pattern.IsExpression "[0-9]+" ∧ Pattern.SourceSpans "[0-9]+" "042" 0 3 ∧
      ¬Pattern.SourceSpans "[0-9]+" "42a" 0 3 := by
  have hfields := validation_patterns_match_wholes Pattern.expressionEngine_laws
    build_siteDefinition
  have hnumber := hfields.get (i := 4) (by decide) (by decide)
  obtain ⟨p, hp, -, hwholes⟩ := hnumber _ rfl "[0-9]+" (by decide) rfl
  have hexpression : Pattern.IsExpression "[0-9]+" := rfl
  refine ⟨siteType.elements[4], List.getElem_mem _, _, p, rfl, hp, ?_, hexpression, ?_, ?_⟩
  · cases hp
    rfl
  · refine (hwholes hexpression "042").mp ?_
    cases hp
    decide +kernel
  · refine mt (hwholes hexpression "42a").mpr ?_
    cases hp
    decide +kernel

/-- A definition with a field whose pattern closes a group that it did not open. -/
def unbalancedDefinition : DocumentTypeDefinition where
  sid := "SI"
  paragraphs := [
    .group { sid := "CD" } [.leaf { sid := "NCTS", validationPattern := some "a)|(b" }]]

/-- A definition can be built with a pattern that is no regular expression by itself. Each anchor
then belongs to one side of it, and a value fits that only begins as the first side says. -/
theorem unbalanced_pattern_is_built : ¬Pattern.IsExpression "a)|(b" ∧
    ∃ t e field p, build unbalancedDefinition = .ok t ∧ e ∈ t.elements ∧
      e.kind = .simpleField field ∧ field.validation = some p ∧ p.source = "a)|(b" ∧
      p.isMatch "ax" = true := by
  have hread : (Pattern.parse? "a)|(b".toList).isSome = false := by decide +kernel
  refine ⟨Bool.eq_false_iff.mp hread, _, _, _, _, rfl, List.getElem_mem (n := 1) (by decide), rfl,
    rfl, rfl, ?_⟩
  decide +kernel

end DocumentType

end CatalogRecords
