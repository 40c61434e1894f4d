import CatalogRecords.Dictionary.Basic
import Mathlib.Data.List.Nodup

/-!
# Lists of terms by fields

A dictionary that is given as a whole is a list of fields with their terms. Whether a field has a
term is looked up under the first entry for the field. Selecting fields and adding terms do to that
answer what they should, and if no field has two entries it is simply whether some entry has the
term.
-/

namespace CatalogRecords.Dictionary

variable {fields lists : List (String × List String)} {path term : String}

/-- Whether lists of terms by fields have a term for a field. -/
def hasTerm (fields : List (String × List String)) (path term : String) : Bool :=
  match fields.lookup path with
  | some terms => terms.contains term
  | none => false

/-- A dictionary that lists all terms of a type knows those it lists. -/
theorem forType_of_allTerms? {d : Dictionary} {type : String} (h : d.allTerms? type = some fields) :
    d.forType type = hasTerm fields := by
  rw [forType, h]
  rfl

/-- The terms of a field are those of its first list. -/
theorem hasTerm_cons (entry : String × List String) (fields : List (String × List String))
    (path term : String) :
    hasTerm (entry :: fields) path term =
      if path = entry.1 then entry.2.contains term else hasTerm fields path term := by
  rw [hasTerm, List.lookup_cons]
  split_ifs with hpath
  · rw [beq_iff_eq.mpr hpath]
  · rw [beq_eq_false_iff_ne.mpr hpath]
    rfl

/-- Where no field has two entries, a field has a term if an entry does. -/
theorem hasTerm_iff (hnodup : (fields.map Prod.fst).Nodup) :
    hasTerm fields path term = true ↔ ∃ terms, (path, terms) ∈ fields ∧ term ∈ terms := by
  induction fields with
  | nil => simp [hasTerm]
  | cons entry fields ih =>
    rw [List.map_cons, List.nodup_cons] at hnodup
    rw [hasTerm_cons]
    split_ifs with hpath
    · subst hpath
      constructor
      · intro h
        exact ⟨entry.2, List.mem_cons_self, List.contains_iff_mem.mp h⟩
      · rintro ⟨terms, hmem, hterm⟩
        rcases List.mem_cons.mp hmem with heq | hmem
        · rw [List.contains_iff_mem, ← heq]
          exact hterm
        · exact absurd (List.mem_map_of_mem hmem) hnodup.1
    · rw [ih hnodup.2]
      refine exists_congr fun terms => and_congr_left fun _ => ?_
      rw [List.mem_cons, or_iff_right]
      rintro rfl
      exact hpath rfl

/-- Selected fields keep their terms. -/
theorem hasTerm_filter (keep : String → Bool) :
    hasTerm (fields.filter fun entry => keep entry.1) path term =
      (keep path && hasTerm fields path term) := by
  induction fields with
  | nil => simp [hasTerm]
  | cons entry fields ih =>
    rw [hasTerm_cons, List.filter_cons]
    by_cases hpath : path = entry.1
    · subst hpath
      cases hkeep : keep entry.1 with
      | true => simp [hasTerm_cons]
      | false => simp [ih, hkeep]
    · rw [if_neg hpath]
      split_ifs
      · rw [hasTerm_cons, if_neg hpath, ih]
      · exact ih

/-- Added terms are terms of their field. -/
theorem hasTerm_addTerms (fields : List (String × List String)) (added : String)
    (terms : List String) :
    hasTerm (addTerms fields added terms) path term =
      (hasTerm fields path term || (path == added && terms.contains term)) := by
  induction fields with
  | nil =>
    rw [addTerms, hasTerm_cons]
    by_cases hpath : path = added <;> simp [hasTerm, hpath]
  | cons entry fields ih =>
    rw [addTerms]
    by_cases hentry : entry.1 = added
    · rw [if_pos (beq_iff_eq.mpr hentry), hasTerm_cons, hasTerm_cons]
      by_cases hpath : path = entry.1
      · simp [hpath, hentry]
      · simp [hpath, ← hentry]
    · rw [if_neg (mt beq_iff_eq.mp hentry), hasTerm_cons, hasTerm_cons, ih]
      by_cases hpath : path = entry.1
      · simp [hpath, hentry]
      · simp [hpath]

/-- What lists have that were put together from others is what one of those has. -/
theorem hasTerm_foldl_addTerms (lists fields : List (String × List String)) :
    hasTerm (lists.foldl (fun fields (path, terms) => addTerms fields path terms) fields)
        path term = true ↔
      hasTerm fields path term = true ∨ ∃ terms, (path, terms) ∈ lists ∧ term ∈ terms := by
  induction lists generalizing fields with
  | nil => simp
  | cons entry lists ih =>
    rw [List.foldl_cons, ih, hasTerm_addTerms, Bool.or_eq_true, Bool.and_eq_true, beq_iff_eq,
      List.contains_iff_mem, or_assoc]
    refine or_congr_right ?_
    constructor
    · rintro (⟨rfl, hterm⟩ | ⟨terms, hmem, hterm⟩)
      · exact ⟨entry.2, List.mem_cons_self, hterm⟩
      · exact ⟨terms, List.mem_cons_of_mem _ hmem, hterm⟩
    · rintro ⟨terms, hmem, hterm⟩
      rcases List.mem_cons.mp hmem with rfl | hmem
      · exact Or.inl ⟨rfl, hterm⟩
      · exact Or.inr ⟨terms, hmem, hterm⟩

end CatalogRecords.Dictionary
