import CatalogRecords.Dictionary.TermTable
import CatalogRecords.Proofs.Schema.Paths
import Mathlib.Data.String.Basic

/-!
# What a table of terms says

A table can be asked for one term of a field, or read in bulk: all rows of a document type, grouped
by the paths of their fields. The bulk goes by the document type that is kept in a row, a single
term by the path. Both say the same, because the type of a row is the only one that its path lies
inside, and because no row is lost or put in with another path when rows in order are grouped.
-/

namespace CatalogRecords

/-! The document type of a path. -/

/-- What comes before the first dot of a path is one segment, inside of which the path lies. -/
theorem eq_childPath_of_splitOnce? {path type rest : String}
    (h : Text.splitOnce? '.' path = some (type, rest)) :
    IsDotFree type ∧ path = childPath type rest := by
  rw [Text.splitOnce?, Option.map_eq_some_iff] at h
  obtain ⟨⟨before, dot, after⟩, hcut, heq⟩ := h
  obtain ⟨hbefore, hdot⟩ := Text.cutAt?_before hcut
  have hpath := Text.eq_of_cutAt? hcut
  rw [beq_iff_eq.mp hdot] at hpath
  cases heq
  constructor
  · intro hmem
    rw [String.toList_ofList] at hmem
    exact absurd (hbefore '.' hmem) (by decide)
  · apply String.toList_inj.mp
    rw [hpath, toList_childPath, String.toList_ofList, String.toList_ofList]

/-- A path lies inside its document type, which is one segment. -/
theorem isInside_of_typeOfPath? {path type : String} (h : typeOfPath? path = some type) :
    IsDotFree type ∧ isInside path type = true := by
  unfold typeOfPath? at h
  split at h
  · next before rest hsplit =>
    obtain ⟨hdotFree, hpath⟩ := eq_childPath_of_splitOnce? hsplit
    split_ifs at h
    cases h
    exact ⟨hdotFree, isInside_iff_exists_childPath.mpr ⟨rest, hpath⟩⟩
  · cases h

/-- A path lies inside one document type only. -/
theorem eq_of_isInside {path type other : String} (htype : IsDotFree type)
    (hother : IsDotFree other) (h : isInside path type = true) (h' : isInside path other = true) :
    type = other := by
  obtain ⟨rest, -, hrest⟩ := isInside_iff.mp h
  obtain ⟨rest', -, hrest'⟩ := isInside_iff.mp h'
  rw [hrest, segments_of_isDotFree htype, segments_of_isDotFree hother] at hrest'
  exact List.head_eq_of_cons_eq hrest'

/-- The rows of a document type are those of the paths inside it. -/
theorem TermRow.documentType_eq_iff (row : TermRow) {type : String} (htype : IsDotFree type) :
    row.documentType = type ↔ isInside row.path type = true := by
  obtain ⟨hdotFree, hinside⟩ := isInside_of_typeOfPath? row.type_of_path
  constructor
  · rintro rfl
    exact hinside
  · intro h
    exact eq_of_isInside hdotFree htype hinside h

/-! Grouping rows. -/

namespace TermRow

/-- Rows are in order of their paths, and of their terms where these are the same. -/
theorem le_iff {a b : TermRow} :
    le a b = true ↔ a.path < b.path ∨ a.path = b.path ∧ a.term ≤ b.term := by
  rw [le, Bool.or_eq_true, Bool.and_eq_true, decide_eq_true_eq, decide_eq_true_eq, beq_iff_eq]

/-- Rows in order have their paths in order. -/
theorem path_le_of_le {a b : TermRow} (h : le a b = true) : a.path ≤ b.path := by
  rcases le_iff.mp h with hlt | ⟨heq, -⟩
  · exact le_of_lt hlt
  · exact le_of_eq heq

/-- The order of rows goes on from one to the next. -/
theorem le_trans (a b c : TermRow) (hab : le a b = true) (hbc : le b c = true) :
    le a c = true := by
  rw [le_iff] at hab hbc ⊢
  rcases hab with hab | ⟨hab, hab'⟩
  · rcases hbc with hbc | ⟨hbc, -⟩
    · exact Or.inl (lt_trans hab hbc)
    · exact Or.inl (hbc ▸ hab)
  · rcases hbc with hbc | ⟨hbc, hbc'⟩
    · exact Or.inl (hab ▸ hbc)
    · exact Or.inr ⟨hab.trans hbc, String.le_trans hab' hbc'⟩

/-- Of two rows one comes first. -/
theorem le_total (a b : TermRow) : (le a b || le b a) = true := by
  rw [Bool.or_eq_true, le_iff, le_iff]
  rcases lt_trichotomy a.path b.path with hlt | heq | hlt
  · exact Or.inl (Or.inl hlt)
  · rcases String.le_total a.term b.term with hle | hle
    · exact Or.inl (Or.inr ⟨heq, hle⟩)
    · exact Or.inr (Or.inr ⟨heq.symm, hle⟩)
  · exact Or.inr (Or.inl hlt)

end TermRow

namespace TermTable

variable {t : TermTable} {rows : List TermRow} {path term type : String}

/-- The first group is that of the first row's path. -/
theorem head?_grouped (rows : List TermRow) :
    (grouped rows).head?.map Prod.fst = rows.head?.map TermRow.path := by
  cases rows with
  | nil => rfl
  | cons row rows =>
    rw [grouped]
    split
    · split_ifs with hpath
      · exact congrArg some hpath
      · rfl
    · rfl

/-- Grouping loses no row and adds none. -/
theorem flatMap_grouped (rows : List TermRow) :
    (grouped rows).flatMap (fun (path, entries) => entries.map (path, ·)) =
      rows.map fun row => (row.path, row.entry) := by
  induction rows with
  | nil => rfl
  | cons row rows ih =>
    rw [List.map_cons, ← ih, grouped]
    split
    · next path entries groups hgroups =>
      rw [hgroups]
      split_ifs with hpath
      · simp [hpath]
      · simp
    · next hgroups =>
      rw [hgroups]
      rfl

/-- The groups of rows in order have different paths, in order. -/
theorem pairwise_grouped (hrows : rows.Pairwise fun a b => a.path ≤ b.path) :
    ((grouped rows).map Prod.fst).Pairwise (· < ·) := by
  rw [← List.isChain_iff_pairwise]
  induction rows with
  | nil => exact List.IsChain.nil
  | cons row rows ih =>
    rw [List.pairwise_cons] at hrows
    have hchain := ih hrows.2
    have hhead := head?_grouped rows
    rw [grouped]
    split
    · next path entries groups hgroups =>
      rw [hgroups] at hchain hhead
      split_ifs with hpath
      · exact hchain
      · -- The next group begins with a row that comes later and has another path.
        obtain ⟨next, hnext, heq⟩ := Option.map_eq_some_iff.mp hhead.symm
        have hle := hrows.1 next (List.mem_of_head? hnext)
        rw [heq] at hle
        exact List.isChain_cons_cons.mpr ⟨lt_of_le_of_ne hle (Ne.symm hpath), hchain⟩
    · exact List.IsChain.singleton _

/-! Asking for one term and reading in bulk. -/

/-- A field has a term if there is a row for it. -/
theorem contains_iff :
    t.contains path term = true ↔ ∃ row ∈ t.rows, row.path = path ∧ row.term = term := by
  rw [contains, find?, List.find?_isSome]
  simp only [TermRow.key, beq_iff_eq, Prod.mk.injEq]

/-- Sorted rows are in the order of their paths. -/
theorem pairwise_mergeSort_path (rows : List TermRow) :
    (rows.mergeSort TermRow.le).Pairwise fun a b => a.path ≤ b.path := by
  have hsorted : (rows.mergeSort TermRow.le).Pairwise fun a b => TermRow.le a b = true :=
    List.pairwise_mergeSort TermRow.le_trans TermRow.le_total rows
  exact hsorted.imp TermRow.path_le_of_le

/-- The fields of a document type come in the order of their paths, each once. -/
theorem pairwise_termsOf (t : TermTable) (type : String) :
    ((t.termsOf type).map Prod.fst).Pairwise (· < ·) := by
  rw [termsOf, fieldsOf, List.map_map]
  exact pairwise_grouped (pairwise_mergeSort_path _)

/-- The terms of a document type one by one are those of its rows, in order. -/
theorem flatMap_termsOf (t : TermTable) (type : String) :
    (t.termsOf type).flatMap (fun (path, terms) => terms.map (path, ·)) =
      ((t.rows.filter fun row => row.documentType == type).mergeSort TermRow.le).map
        TermRow.key := by
  have hgroups := congrArg (List.map fun pair : String × TermEntry => (pair.1, pair.2.term))
    (flatMap_grouped ((t.rows.filter fun row => row.documentType == type).mergeSort TermRow.le))
  rw [List.map_flatMap, List.map_map] at hgroups
  rw [termsOf, fieldsOf, List.flatMap_map]
  simp only [List.map_map, Function.comp_def, TermRow.entry] at hgroups ⊢
  exact hgroups

/-- The terms of a document type are those of its rows, under the paths of their fields. -/
theorem exists_mem_termsOf_iff :
    (∃ terms, (path, terms) ∈ t.termsOf type ∧ term ∈ terms) ↔
      ∃ row ∈ t.rows, row.documentType = type ∧ row.path = path ∧ row.term = term := by
  have hmem := congrArg (fun keys => (path, term) ∈ keys) (t.flatMap_termsOf type)
  simpa [List.mem_flatMap, TermRow.key, and_assoc] using hmem

end TermTable

end CatalogRecords
