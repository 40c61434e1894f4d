import CatalogRecords.Dictionary.TermDatabase
import CatalogRecords.Proofs.Dictionary.TermMap
import CatalogRecords.Proofs.Except

/-!
# Seeding a map

The terms of seeds are put into a table one after the other, and counted as new or as there already.
The first path that is not complete ends the run. The table that comes out stands for the map into
which all terms were inserted, and the counts follow from how much it has grown.
-/

namespace CatalogRecords

/-- Inserts the terms of seeds one after the other. -/
def TermMap.insertAll (m : TermMap) (entries : List (String × SeedTerm)) : TermMap :=
  entries.foldl (fun m entry => m.insert (entry.1, entry.2.term) entry.2.url) m

/-- The first path among the terms of seeds that is not complete. -/
def firstIncomplete? (entries : List (String × SeedTerm)) : Option String :=
  (entries.map Prod.fst).find? fun path => (typeOfPath? path).isNone

/-- The first incomplete path of two runs is that of the first, or else of the second. -/
theorem firstIncomplete?_append (first second : List (String × SeedTerm)) :
    firstIncomplete? (first ++ second) = (firstIncomplete? first).or (firstIncomplete? second) := by
  rw [firstIncomplete?, List.map_append, List.find?_append]
  rfl

/-! Rows and their number. -/

/-- There is no row for a path that is not complete. -/
theorem TermRow.ofPath_of_none {path term : String} {url : Option String}
    (h : typeOfPath? path = none) :
    ofPath path term url = .error (.invalidFieldPath path) := by
  rw [ofPath, ofPath?]
  split
  · next row hrow =>
    split at hrow
    · next htype => cases htype.symm.trans h
    · cases hrow
  · rfl

/-- There is a row for a complete path. -/
theorem TermRow.exists_ofPath {path type : String} (h : typeOfPath? path = some type)
    (term : String) (url : Option String) :
    ∃ row, ofPath path term url = .ok row ∧ row.key = (path, term) ∧ row.url = url := by
  rw [ofPath, ofPath?]
  split
  · next row hrow =>
    split at hrow
    · cases hrow
      exact ⟨_, rfl, rfl, rfl⟩
    · cases hrow
  · next hnone =>
    split at hnone
    · cases hnone
    · next htype => cases htype.symm.trans h

/-- A table grows by a row whose term is not there, and is the same after one whose term is. -/
theorem TermTable.size_insert (t : TermTable) (row : TermRow) :
    if t.contains row.path row.term = true then t.insert row = t
    else (t.insert row).size = t.size + 1 := by
  have hiff : t.contains row.path row.term = true ↔ row.key ∈ t.rows.map TermRow.key := by
    rw [contains_iff, List.mem_map]
    simp only [TermRow.key, Prod.mk.injEq]
  rw [insert]
  split_ifs with hcontains hkey hkey
  · rfl
  · exact absurd (hiff.mp hcontains) hkey
  · exact absurd (hiff.mpr hkey) hcontains
  · exact List.length_append

namespace TermDatabase

/-- A table and a report after the terms of some files were put into a table. -/
structure IsSeeded (entries : List (String × SeedTerm)) (files : Nat)
    (before after : TermTable × SeedReport) : Prop where
  map : after.1.toMap = before.1.toMap.insertAll entries
  files : after.2.files = before.2.files + files
  inserted : after.2.inserted + before.1.size = before.2.inserted + after.1.size
  total : after.2.inserted + after.2.skipped =
    before.2.inserted + before.2.skipped + entries.length

/-- How putting terms into a table ends: with the first path that is not complete, or with all terms
in the table. -/
def EndsSeeded (entries : List (String × SeedTerm)) (files : Nat)
    (before : TermTable × SeedReport) (result : Except TermStoreError (TermTable × SeedReport)) :
    Prop :=
  match firstIncomplete? entries with
  | some path => result = .error (.invalidFieldPath path)
  | none => ∃ after, result = .ok after ∧ IsSeeded entries files before after

variable {entries more : List (String × SeedTerm)} {files others : Nat}
  {before middle after : TermTable × SeedReport}
  {result : Except TermStoreError (TermTable × SeedReport)}

/-- Terms are put into a table after others. -/
theorem IsSeeded.append (h : IsSeeded entries files before middle)
    (h' : IsSeeded more others middle after) :
    IsSeeded (entries ++ more) (files + others) before after where
  map := by rw [h'.map, h.map, TermMap.insertAll, TermMap.insertAll, TermMap.insertAll,
    List.foldl_append]
  files := by rw [h'.files, h.files, Nat.add_assoc]
  inserted := by
    have hfirst := h.inserted
    have hsecond := h'.inserted
    omega
  total := by rw [h'.total, h.total, List.length_append, Nat.add_assoc]

/-- What is reported follows from the sizes of the tables. -/
theorem IsSeeded.report_eq {t t' : TermTable} {report : SeedReport}
    (h : IsSeeded entries files (t, {}) (t', report)) :
    report = ⟨files, t'.size - t.size, entries.length - (t'.size - t.size)⟩ := by
  obtain ⟨read, inserted, skipped⟩ := report
  have hfiles : read = 0 + files := h.files
  have hinserted : inserted + t.size = 0 + t'.size := h.inserted
  have htotal : inserted + skipped = 0 + 0 + entries.length := h.total
  rw [SeedReport.mk.injEq]
  omega

/-- No terms end with the table as it was. -/
theorem endsSeeded_nil (before : TermTable × SeedReport) :
    EndsSeeded [] 0 before (.ok before) :=
  ⟨before, rfl, rfl, rfl, rfl, rfl⟩

/-- Terms end in the table after others that do. -/
theorem EndsSeeded.bind
    {f : TermTable × SeedReport → Except TermStoreError (TermTable × SeedReport)}
    (h : EndsSeeded entries files before result)
    (hf : ∀ middle, EndsSeeded more others middle (f middle)) :
    EndsSeeded (entries ++ more) (files + others) before (result >>= f) := by
  unfold EndsSeeded at h ⊢
  rw [firstIncomplete?_append]
  cases hfirst : firstIncomplete? entries with
  | some path =>
    rw [hfirst] at h
    rw [Option.some_or, h]
    rfl
  | none =>
    rw [hfirst] at h
    obtain ⟨middle, rfl, hmiddle⟩ := h
    have hmore := hf middle
    unfold EndsSeeded at hmore
    rw [Option.none_or]
    cases hsecond : firstIncomplete? more with
    | some path =>
      rw [hsecond] at hmore
      exact hmore
    | none =>
      rw [hsecond] at hmore
      obtain ⟨after, hafter, hseeded⟩ := hmore
      exact ⟨after, hafter, hmiddle.append hseeded⟩

/-- Terms end in the table one after the other if each does. -/
theorem endsSeeded_foldlM {α : Type}
    {step : TermTable × SeedReport → α → Except TermStoreError (TermTable × SeedReport)}
    {entriesOf : α → List (String × SeedTerm)}
    (hstep : ∀ item before, EndsSeeded (entriesOf item) files before (step before item))
    (items : List α) (before : TermTable × SeedReport) :
    EndsSeeded (items.flatMap entriesOf) (files * items.length) before
      (items.foldlM step before) := by
  induction items generalizing before with
  | nil => exact endsSeeded_nil before
  | cons item items ih =>
    rw [List.flatMap_cons, List.foldlM_cons, List.length_cons, Nat.mul_succ, Nat.add_comm]
    exact (hstep item before).bind fun middle => ih middle

/-- A term ends in the table if its path is complete. -/
theorem endsSeeded_seedTerm (entry : String × SeedTerm) (before : TermTable × SeedReport) :
    EndsSeeded [entry] 0 before (seedTerm before entry) := by
  obtain ⟨path, term⟩ := entry
  obtain ⟨t, report⟩ := before
  cases htype : typeOfPath? path with
  | none =>
    have hfirst : firstIncomplete? [(path, term)] = some path := by
      simp [firstIncomplete?, htype]
    rw [EndsSeeded, hfirst, seedTerm, TermRow.ofPath_of_none htype]
    rfl
  | some type =>
    obtain ⟨row, hrow, hkey, hurl⟩ := TermRow.exists_ofPath htype term.term term.url
    have hfirst : firstIncomplete? [(path, term)] = none := by
      simp [firstIncomplete?, htype]
    have hmap : (t.insert row).toMap = t.toMap.insertAll [(path, term)] := by
      rw [TermTable.toMap_insert, hkey, hurl]
      rfl
    rw [EndsSeeded, hfirst, seedTerm, hrow]
    have hsize := t.size_insert row
    by_cases hcontains : t.contains row.path row.term = true
    · rw [if_pos hcontains] at hsize
      refine ⟨(t, { report with skipped := report.skipped + 1 }), if_pos hcontains, ?_⟩
      rw [hsize] at hmap
      exact ⟨hmap, rfl, rfl, rfl⟩
    · rw [if_neg hcontains] at hsize
      refine ⟨(t.insert row, { report with inserted := report.inserted + 1 }), if_neg hcontains, ?_⟩
      refine ⟨hmap, rfl, ?_, ?_⟩
      · dsimp only
        omega
      · rw [List.length_singleton]
        exact Nat.add_right_comm _ _ _

/-- The terms of a seed end in the table, and the file is counted. -/
theorem endsSeeded_seedAll (s : Seed) (before : TermTable × SeedReport) :
    EndsSeeded s.entries 1 before (seedAll before s) := by
  have hterms := endsSeeded_foldlM endsSeeded_seedTerm s.entries before
  have hcounted (middle : TermTable × SeedReport) : EndsSeeded [] 1 middle
      (.ok (middle.1, { middle.2 with files := middle.2.files + 1 })) :=
    ⟨_, rfl, rfl, rfl, rfl, rfl⟩
  have hboth := hterms.bind hcounted
  rw [List.flatMap_singleton', List.append_nil, Nat.zero_mul] at hboth
  exact hboth

/-- The terms of all seeds end in the table. -/
theorem endsSeeded_seeds (seeds : List Seed) (before : TermTable × SeedReport) :
    EndsSeeded (seeds.flatMap Seed.entries) seeds.length before (seeds.foldlM seedAll before) := by
  have hseeds := endsSeeded_foldlM endsSeeded_seedAll seeds before
  rwa [Nat.one_mul] at hseeds

end TermDatabase

end CatalogRecords
