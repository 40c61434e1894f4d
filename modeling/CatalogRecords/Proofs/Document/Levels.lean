import CatalogRecords.Proofs.Document.Presence
import CatalogRecords.Proofs.Schema.CanonicalOrder

/-!
# The level of a document

Levels are cumulative: a document is catalogued to a level if all elements are there that this level
or a laxer one asks for. Levels that no element asks for are not given to any document. Only the
paths that are present count, so that a document with more of them never has a laxer level; nothing
that validation finds has a part in this.
-/

namespace CatalogRecords

variable {t : DocumentType} {d : Document} {level : Level} {present : List String}

/-- The strictest levels come first. -/
theorem Level.pairwise_strictestFirst :
    strictestFirst.Pairwise fun stricter laxer => laxer.rank < stricter.rank := by
  decide

/-- All levels but the lowest ask for something. -/
theorem Level.mem_strictestFirst_iff : level ∈ strictestFirst ↔ level ≠ none := by
  cases level <;> decide

/-- Levels with the same position are the same. -/
theorem Level.rank_inj {a b : Level} : a.rank = b.rank ↔ a = b := by
  cases a <;> cases b <;> decide

/-- Whether some node of a document has a path. -/
def Document.HasPath (d : Document) (path : String) : Prop :=
  ∃ entry ∈ d.flatten, entry.path = path

/-- A document reaches a level that some element asks for if it has the paths of all elements that
this level or a laxer one asks for. -/
structure Document.Reaches (d : Document) (t : DocumentType) (level : Level) : Prop where
  isAsked : level ≠ .none ∧ ∃ e ∈ t.elements, e.level = level
  hasPaths : ∀ e ∈ t.elements, e.level ≠ .none → e.level.rank ≤ level.rank → d.HasPath e.path

/-- More paths reach all that fewer do. -/
theorem Document.Reaches.mono {fewer : Document} (h : fewer.Reaches t level)
    (hpaths : ∀ path, fewer.HasPath path → d.HasPath path) : d.Reaches t level :=
  ⟨h.isAsked, fun e he hasked hrank => hpaths _ (h.hasPaths e he hasked hrank)⟩

namespace DocumentType

/-- A level asks for something if some element has it. -/
theorem isEmpty_requiredPaths_eq_false_iff :
    (t.requiredPaths level).isEmpty = false ↔ ∃ e ∈ t.elements, e.level = level := by
  rw [List.isEmpty_eq_false_iff_exists_mem]
  constructor
  · rintro ⟨path, hpath⟩
    obtain ⟨e, he, -, hlevel⟩ := mem_requiredPaths_iff.mp hpath
    exact ⟨e, he, hlevel⟩
  · rintro ⟨e, he, hlevel⟩
    exact ⟨e.path, mem_requiredPaths_iff.mpr ⟨e, he, rfl, hlevel⟩⟩

/-- A level is satisfied if the paths of all elements of that level are present. -/
theorem satisfies_iff :
    t.satisfies present level = true ↔
      ∀ e ∈ t.elements, e.level = level → e.path ∈ present := by
  rw [satisfies, List.all_eq_true]
  constructor
  · intro h e he hlevel
    exact List.contains_iff_mem.mp (h _ (mem_requiredPaths_iff.mpr ⟨e, he, rfl, hlevel⟩))
  · intro h path hpath
    obtain ⟨e, he, rfl, hlevel⟩ := mem_requiredPaths_iff.mp hpath
    exact List.contains_iff_mem.mpr (h e he hlevel)

end DocumentType

namespace Document

/-- The test that a level is looked for with. -/
theorem reaches_iff_test (hlevel : level ≠ .none) :
    d.Reaches t level ↔ ((t.requiredPaths level).isEmpty = false ∧
      (Level.strictestFirst.filter fun laxer => laxer.rank ≤ level.rank).all
        (t.satisfies d.presentPaths) = true) := by
  rw [DocumentType.isEmpty_requiredPaths_eq_false_iff, List.all_eq_true]
  have hpresent (path : String) : path ∈ d.presentPaths ↔ d.HasPath path := mem_presentPaths_iff
  constructor
  · intro h
    refine ⟨h.isAsked.2, fun laxer hlaxer => DocumentType.satisfies_iff.mpr ?_⟩
    obtain ⟨hasked, hrank⟩ := List.mem_filter.mp hlaxer
    rintro e he rfl
    exact (hpresent _).mpr
      (h.hasPaths e he (Level.mem_strictestFirst_iff.mp hasked) (of_decide_eq_true hrank))
  · rintro ⟨hasked, hsatisfied⟩
    refine ⟨⟨hlevel, hasked⟩, fun e he hne hrank => (hpresent _).mp ?_⟩
    have hlaxer : e.level ∈ Level.strictestFirst.filter fun laxer => laxer.rank ≤ level.rank :=
      List.mem_filter.mpr ⟨Level.mem_strictestFirst_iff.mpr hne, decide_eq_true hrank⟩
    exact DocumentType.satisfies_iff.mp (hsatisfied _ hlaxer) e he rfl

/-- The level looked for is one that is reached, and none that is stricter is; if there is no such
level it is the lowest. -/
theorem levelOf_presentPaths :
    (t.levelOf d.presentPaths ≠ .none → d.Reaches t (t.levelOf d.presentPaths)) ∧
      ∀ level, d.Reaches t level → level.rank ≤ (t.levelOf d.presentPaths).rank := by
  rw [DocumentType.levelOf, List.find?_filter]
  cases hfound : Level.strictestFirst.find? _ with
  | none =>
    refine ⟨fun hne => absurd rfl hne, fun level hreached => ?_⟩
    have hnot := List.find?_eq_none.mp hfound level
      (Level.mem_strictestFirst_iff.mpr hreached.isAsked.1)
    obtain ⟨hasked, hsatisfied⟩ := (reaches_iff_test hreached.isAsked.1).mp hreached
    simp [hasked, hsatisfied] at hnot
  | some found =>
    obtain ⟨htest, stricter, laxer, hsplit, hnot⟩ := List.find?_eq_some_iff_append.mp hfound
    have hmem : found ∈ Level.strictestFirst := List.mem_of_find?_eq_some hfound
    have hne := Level.mem_strictestFirst_iff.mp hmem
    rw [decide_eq_true_eq, Bool.not_eq_true'] at htest
    refine ⟨fun _ => (reaches_iff_test hne).mpr htest, fun level hreached => ?_⟩
    have htested := (reaches_iff_test hreached.isAsked.1).mp hreached
    -- What stands before the level that is found was tried and is not reached.
    have hafter : level ∈ found :: laxer := by
      have hlevel := Level.mem_strictestFirst_iff.mpr hreached.isAsked.1
      rw [hsplit, List.mem_append] at hlevel
      refine hlevel.resolve_left fun hbefore => ?_
      simpa [htested.1, htested.2] using hnot level hbefore
    have hpairwise := Level.pairwise_strictestFirst
    rw [hsplit] at hpairwise
    rcases List.mem_cons.mp hafter with rfl | hlaxer
    · exact le_rfl
    · exact (List.rel_of_pairwise_cons (List.pairwise_append.mp hpairwise).2.1 hlaxer).le

/-- The level that validation gives a document, in the result as well as in the document, is the
strictest that the document reaches, and the lowest if it reaches none. Of two documents the one
that has all paths of the other has no laxer level, and if both have the same paths they have the
same level, whatever else they hold and whatever dictionaries they are validated with. -/
theorem level_is_strictest_reached (t : DocumentType) (d : Document) (dictionary : Dictionary) :
    (d.validated (d.validate t dictionary)).level = (d.validate t dictionary).level ∧
    ((d.validate t dictionary).level ≠ .none → d.Reaches t (d.validate t dictionary).level) ∧
    (∀ level, d.Reaches t level → level.rank ≤ (d.validate t dictionary).level.rank) ∧
    (∀ (fewer : Document) (other : Dictionary), (∀ path, fewer.HasPath path → d.HasPath path) →
      (fewer.validate t other).level.rank ≤ (d.validate t dictionary).level.rank) ∧
    ∀ (same : Document) (other : Dictionary), (∀ path, same.HasPath path ↔ d.HasPath path) →
      (same.validate t other).level = (d.validate t dictionary).level := by
  have hmono {few many : Document} (hpaths : ∀ path, few.HasPath path → many.HasPath path) :
      (t.levelOf few.presentPaths).rank ≤ (t.levelOf many.presentPaths).rank := by
    by_cases hnone : t.levelOf few.presentPaths = .none
    · rw [hnone]
      exact Nat.zero_le _
    · exact levelOf_presentPaths.2 _ ((levelOf_presentPaths.1 hnone).mono hpaths)
  refine ⟨rfl, levelOf_presentPaths.1, levelOf_presentPaths.2, fun _ _ hpaths => hmono hpaths,
    fun _ _ hpaths => Level.rank_inj.mp ?_⟩
  exact Nat.le_antisymm (hmono fun path => (hpaths path).mp) (hmono fun path => (hpaths path).mpr)

/-- The definition of finds, which an inventory wants with a number and a full record with a
description; nothing is provisional. -/
def findDefinition : DocumentTypeDefinition where
  sid := "RA"
  paragraphs := [
    .group { sid := "CD", level := .inventory } [
      .leaf { sid := "NCTN", level := .inventory, fieldType := .int32 }],
    .group { sid := "OG" } [.leaf { sid := "DESS", level := .full }]]

/-- The document type of finds. -/
def findType : DocumentType where
  sid := "RA"
  label := ""
  compliant := true
  author := none
  version := none
  standardVersion := none
  publicByDefault := false
  elements := layoutAll ⟨none, "RA", false, 0⟩ findDefinition.paragraphs

/-- A find that has a number, and no description. -/
def numberedFind : Document where
  documentType := "RA"
  content := [.group "CD" [.text "NCTN" "12"]]

/-- A find that is described before it is numbered, with two numbers that are none. -/
def describedFind : Document where
  documentType := "RA"
  content := [.group "OG" [.text "DESS" "lamp"], .group "CD" [.text "NCTN" "", .text "NCTN" "?"]]

/-- Whether a document has a path can be decided. -/
instance (d : Document) (path : String) : Decidable (d.HasPath path) :=
  inferInstanceAs (Decidable (∃ entry ∈ d.flatten, entry.path = path))

/-- Whether a document reaches a level can be decided. -/
instance (d : Document) (t : DocumentType) (level : Level) : Decidable (d.Reaches t level) :=
  decidable_of_iff ((level ≠ .none ∧ ∃ e ∈ t.elements, e.level = level) ∧
      ∀ e ∈ t.elements, e.level ≠ .none → e.level.rank ≤ level.rank → d.HasPath e.path)
    ⟨fun h => ⟨h.1, h.2⟩, fun h => ⟨h.isAsked, h.hasPaths⟩⟩

/-- A description makes a find with a number a full record, whatever is wrong with the number and
the order. -/
theorem describedFind_is_full :
    DocumentType.build findDefinition = .ok findType ∧
      (∀ path, numberedFind.HasPath path → describedFind.HasPath path) ∧
      (numberedFind.validate findType .empty).level.rank ≤
        (describedFind.validate findType .empty).level.rank ∧
      (numberedFind.validate findType .empty).level = .inventory ∧
      (describedFind.validate findType .empty).level = .full := by
  have hpaths : ∀ path, numberedFind.HasPath path → describedFind.HasPath path := by
    rintro path ⟨entry, hentry, rfl⟩
    have hfew : ∀ path ∈ numberedFind.flatten.map FlatEntry.path,
        path ∈ describedFind.flatten.map FlatEntry.path := by decide +kernel
    exact List.mem_map.mp (hfew _ (List.mem_map_of_mem hentry))
  have hinventory : numberedFind.Reaches findType .inventory := by decide +kernel
  have hprovisional : ¬numberedFind.Reaches findType .provisional := by decide +kernel
  have hfull : ¬numberedFind.Reaches findType .full := by decide +kernel
  have hdescribed : describedFind.Reaches findType .full := by decide +kernel
  obtain ⟨-, hreached, hnumbered, -⟩ := level_is_strictest_reached findType numberedFind .empty
  obtain ⟨-, -, hstrictest, hmono, -⟩ := level_is_strictest_reached findType describedFind .empty
  refine ⟨rfl, hpaths, hmono numberedFind .empty hpaths, ?_, ?_⟩
  · have hrank := hnumbered _ hinventory
    cases hlevel : (numberedFind.validate findType .empty).level with
    | none => simp [hlevel, Level.rank] at hrank
    | inventory => rfl
    | provisional => exact absurd (hlevel ▸ hreached (by simp [hlevel])) hprovisional
    | full => exact absurd (hlevel ▸ hreached (by simp [hlevel])) hfull
  · have hrank := hstrictest _ hdescribed
    cases hlevel : (describedFind.validate findType .empty).level with
    | full => rfl
    | none | inventory | provisional => simp [hlevel, Level.rank] at hrank

end Document

end CatalogRecords
