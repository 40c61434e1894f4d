import CatalogRecords.Dictionary.SeedFiles
import CatalogRecords.Proofs.Except
import Mathlib.Data.String.Basic

/-!
# The order of seeds

In which order the terms of a directory are put into a table decides whose reference is kept. It
goes by the names of the files, within a file by the paths of the fields, which no file has twice,
and within a field by the list of its terms. Files are sorted when the directory is listed, and
fields when a seed is read.
-/

namespace CatalogRecords

/-! The fields of a seed. -/

namespace Seed

variable {path other : String} {terms : List SeedTerm} {fields : List (String × List SeedTerm)}

/-- Putting terms under a path adds that path and no other. -/
theorem mem_map_fst_put : other ∈ (put path terms fields).map Prod.fst ↔
    other = path ∨ other ∈ fields.map Prod.fst := by
  induction fields with
  | nil => simp [put]
  | cons field fields ih =>
    rw [put]
    split_ifs with hlt heq
    · simp
    · simp [heq]
    · rw [List.map_cons, List.mem_cons, ih, List.map_cons, List.mem_cons]
      exact or_left_comm

/-- A field is put where its path belongs. -/
theorem pairwise_put (h : (fields.map Prod.fst).Pairwise (· < ·)) :
    ((put path terms fields).map Prod.fst).Pairwise (· < ·) := by
  induction fields with
  | nil => exact List.pairwise_singleton _ _
  | cons field fields ih =>
    rw [List.map_cons, List.pairwise_cons] at h
    rw [put]
    split_ifs with hlt heq
    · rw [List.map_cons, List.map_cons, List.pairwise_cons, List.pairwise_cons]
      refine ⟨fun other hother => ?_, h⟩
      rcases List.mem_cons.mp hother with rfl | hother
      · exact hlt
      · exact lt_trans hlt (h.1 other hother)
    · rw [List.map_cons, List.pairwise_cons, heq]
      exact h
    · rw [List.map_cons, List.pairwise_cons]
      refine ⟨fun other hother => ?_, ih h.2⟩
      rcases mem_map_fst_put.mp hother with rfl | hother
      · exact lt_of_le_of_ne (not_lt.mp hlt) (Ne.symm heq)
      · exact h.1 other hother

/-- The fields of a seed that was put together come in the order of their paths, each once. -/
theorem pairwise_ofLists (lists : List (String × List SeedTerm)) :
    ((ofLists lists).fields.map Prod.fst).Pairwise (· < ·) := by
  have hfold (fields : List (String × List SeedTerm))
      (h : (fields.map Prod.fst).Pairwise (· < ·)) :
      ((lists.foldl (fun fields field => put field.1 field.2 fields) fields).map
        Prod.fst).Pairwise (· < ·) := by
    induction lists generalizing fields with
    | nil => exact h
    | cons field lists ih => exact ih _ (pairwise_put h)
  exact hfold [] List.Pairwise.nil

/-- So do those of a seed that was read. -/
theorem pairwise_of_decode? {dialect : Dialect} {value : Data} {s : Seed}
    (h : decode? dialect value = some s) : (s.fields.map Prod.fst).Pairwise (· < ·) := by
  obtain ⟨lists, -, rfl⟩ := Option.map_eq_some_iff.mp h
  exact pairwise_ofLists lists

end Seed

/-! The files of a directory. -/

namespace Workspace

variable {w : Workspace} {directory path : String}

/-- The names of the files in a directory are listed in order. -/
theorem pairwise_fileNames {names : List String} (h : w.fileNames directory = .ok names) :
    names.Pairwise (· ≤ ·) := by
  obtain ⟨location, -, h⟩ := bind_eq_ok_iff.mp h
  split_ifs at h
  cases h
  refine (List.pairwise_mergeSort ?_ ?_ _).imp fun h => of_decide_eq_true h
  · intro a b c hab hbc
    exact decide_eq_true (String.le_trans (of_decide_eq_true hab) (of_decide_eq_true hbc))
  · intro a b
    rw [Bool.or_eq_true, decide_eq_true_eq, decide_eq_true_eq]
    exact String.le_total a b

/-- A text in JSON that decodes is loaded. -/
theorem load_eq_ok {α : Type} {decode : Dialect → Data → Option α} {text : String} {a : α}
    (value : Data) (hformat : FileFormat.ofPath? path = some .json)
    (htext : w.readText path = .ok text) (hread : Json.readLimited? text = some value)
    (hdecode : decode .json value = some a) : w.load decode path = .ok a := by
  simp only [load, hformat, htext, FileFormat.decode?, hread, Option.bind_some, hdecode]

/-- What is loaded from a file was read in one of the formats. -/
theorem exists_decode_of_load {α : Type} {decode : Dialect → Data → Option α} {a : α}
    (h : w.load decode path = .ok a) : ∃ dialect value, decode dialect value = some a := by
  unfold load at h
  split at h
  · cases h
  · next format _ =>
    split at h
    · split at h
      · next text _ value hvalue =>
        cases h
        cases format with
        | json =>
          obtain ⟨value, -, hvalue⟩ := Option.bind_eq_some_iff.mp hvalue
          exact ⟨_, value, hvalue⟩
        | yaml =>
          obtain ⟨node, -, hvalue⟩ := Option.bind_eq_some_iff.mp hvalue
          exact ⟨_, _, hvalue⟩
      · cases h
    · cases h
    · cases h
    · cases h

/-- The seeds of a directory with the paths of their files: all files that can be decoded, in the
order of their names, and in each seed the fields in the order of their paths. -/
structure ListsSeeds (w : Workspace) (directory : String) (files : List (String × Seed)) :
    Prop where
  names : ∃ names, w.fileNames directory = .ok names ∧ names.Pairwise (· ≤ ·) ∧
    files.map Prod.fst =
      (names.map (pathIn directory)).filter fun path => (FileFormat.ofPath? path).isSome
  loaded : ∀ file ∈ files, w.load Seed.decode? file.1 = .ok file.2
  fields : ∀ file ∈ files, (file.2.fields.map Prod.fst).Pairwise (· < ·)

/-- Files that are loaded one after the other come with the paths they are loaded from. -/
theorem mapM_load_eq_ok_iff {α : Type} {decode : Dialect → Data → Option α} {paths : List String}
    {files : List (String × α)} :
    paths.mapM (fun path => (w.load decode path).map (path, ·)) = .ok files ↔
      files.map Prod.fst = paths ∧ ∀ file ∈ files, w.load decode file.1 = .ok file.2 := by
  induction paths generalizing files with
  | nil =>
    rw [List.mapM_nil, List.map_eq_nil_iff]
    constructor
    · intro h
      cases h
      exact ⟨rfl, fun _ hfile => absurd hfile List.not_mem_nil⟩
    · rintro ⟨rfl, -⟩
      rfl
  | cons path paths ih =>
    rw [List.mapM_cons, bind_eq_ok_iff]
    constructor
    · rintro ⟨file, hfile, h⟩
      obtain ⟨rest, hrest, h⟩ := bind_eq_ok_iff.mp h
      cases h
      obtain ⟨a, ha, rfl⟩ := map_eq_ok_iff.mp hfile
      obtain ⟨hpaths, hloaded⟩ := ih.mp hrest
      exact ⟨congrArg (path :: ·) hpaths, List.forall_mem_cons.mpr ⟨ha, hloaded⟩⟩
    · rintro ⟨hpaths, hloaded⟩
      obtain ⟨⟨_, a⟩, rest, rfl, rfl, hrest⟩ := List.map_eq_cons_iff.mp hpaths
      rw [List.forall_mem_cons] at hloaded
      exact ⟨_, map_eq_ok_iff.mpr ⟨a, hloaded.1, rfl⟩,
        bind_eq_ok_iff.mpr ⟨rest, ih.mpr ⟨hrest, hloaded.2⟩, rfl⟩⟩

/-- The seeds of a directory are those of all its files that can be decoded. -/
theorem seedFiles_eq_ok_iff {files : List (String × Seed)} :
    w.seedFiles directory = .ok files ↔
      (∃ names, w.fileNames directory = .ok names ∧ files.map Prod.fst =
        (names.map (pathIn directory)).filter fun path => (FileFormat.ofPath? path).isSome) ∧
      ∀ file ∈ files, w.load Seed.decode? file.1 = .ok file.2 := by
  rw [seedFiles, loadAll, bind_eq_ok_iff]
  simp only [mapM_load_eq_ok_iff, supportedFiles]
  constructor
  · rintro ⟨paths, hpaths, hfst, hloaded⟩
    split at hpaths
    · next names hnames =>
      cases hpaths
      exact ⟨⟨names, hnames, hfst⟩, hloaded⟩
    · cases hpaths
  · rintro ⟨⟨names, hnames, hfst⟩, hloaded⟩
    rw [hnames]
    exact ⟨_, rfl, hfst, hloaded⟩

/-- Seeds are loaded in order, and all of them. -/
theorem listsSeeds_iff {files : List (String × Seed)} :
    w.ListsSeeds directory files ↔ w.seedFiles directory = .ok files := by
  rw [seedFiles_eq_ok_iff]
  constructor
  · rintro ⟨⟨names, hnames, -, hfst⟩, hloaded, -⟩
    exact ⟨⟨names, hnames, hfst⟩, hloaded⟩
  · rintro ⟨⟨names, hnames, hfst⟩, hloaded⟩
    refine ⟨⟨names, hnames, pairwise_fileNames hnames, hfst⟩, hloaded, fun file hfile => ?_⟩
    obtain ⟨dialect, value, hdecode⟩ := exists_decode_of_load (hloaded file hfile)
    exact Seed.pairwise_of_decode? hdecode

end Workspace

end CatalogRecords
