import CatalogRecords.Proofs.Dictionary.Operations
import CatalogRecords.Proofs.Dictionary.Refreshing
import CatalogRecords.Proofs.Dictionary.SeedOrder

/-!
# Merging seeds into a table

Seeding a table that is there adds the terms that it does not have, each with the reference that it
has where it comes first, and keeps the rows that were there. Doing it again adds nothing. It fails
only if a seed cannot be loaded or if some term belongs to a path that is not complete, and then
nothing is added. Paths are looked at where their terms are put in: one that is not complete goes
unnoticed if no terms are listed for it.
-/

namespace CatalogRecords

/-! Complete paths. -/

/-- A path of a field: the document type, which is not empty, and after a dot something more. -/
def IsCompletePath (path : String) : Prop :=
  ∃ type rest, IsDotFree type ∧ type ≠ "" ∧ rest ≠ "" ∧ path = childPath type rest

/-- A path is cut at its first dot into the type and the rest. -/
theorem splitOnce?_childPath {type rest : String} (htype : IsDotFree type) :
    Text.splitOnce? '.' (childPath type rest) = some (type, rest) := by
  have hbefore (c : Char) (hc : c ∈ type.toList) : (c == '.') = false :=
    beq_eq_false_iff_ne.mpr fun heq => htype (heq ▸ hc)
  rw [Text.splitOnce?, toList_childPath, Text.cutAt?_append hbefore (beq_self_eq_true _)]
  simp only [Option.map_some, String.ofList_toList]

/-- Complete paths are those that have a document type. -/
theorem typeOfPath?_eq_none_iff {path : String} :
    typeOfPath? path = none ↔ ¬IsCompletePath path := by
  rw [iff_not_comm]
  constructor
  · rintro ⟨type, rest, htype, hne, hrest, rfl⟩
    rw [typeOfPath?, splitOnce?_childPath htype]
    simp [hne, hrest]
  · intro h
    unfold typeOfPath? at h
    split at h
    · next type rest hsplit =>
      obtain ⟨htype, hpath⟩ := eq_childPath_of_splitOnce? hsplit
      split_ifs at h with hempty
      · exact absurd rfl h
      · rw [Bool.or_eq_true, not_or, String.isEmpty_iff, String.isEmpty_iff] at hempty
        exact ⟨type, rest, htype, hempty.1, hempty.2, hpath⟩
    · exact absurd rfl h

/-! What is inserted into a map. -/

/-- The field of a term of a seed with the term. -/
def entryKey (entry : String × SeedTerm) : String × String := (entry.1, entry.2.term)

/-- The first of some terms of seeds that has a key. -/
def firstSeed? (entries : List (String × SeedTerm)) (key : String × String) :
    Option (String × SeedTerm) :=
  entries.find? fun entry => entryKey entry == key

/-- The first seed of a key is the one at the head if that has the key, else the first among the
rest. -/
theorem firstSeed?_cons (entry : String × SeedTerm) (entries : List (String × SeedTerm))
    (key : String × String) : firstSeed? (entry :: entries) key =
      if entryKey entry = key then some entry else firstSeed? entries key := by
  rw [firstSeed?, List.find?_cons]
  by_cases hkey : entryKey entry = key
  · rw [beq_iff_eq.mpr hkey, if_pos hkey]
  · rw [beq_eq_false_iff_ne.mpr hkey, if_neg hkey]
    rfl

namespace TermMap

variable {m : TermMap} {entries : List (String × SeedTerm)} {key : String × String}

/-- Entries are inserted in their order. -/
theorem insertAll_cons (m : TermMap) (entry : String × SeedTerm)
    (entries : List (String × SeedTerm)) :
    m.insertAll (entry :: entries) =
      (m.insert (entryKey entry) entry.2.url).insertAll entries := rfl

/-- A key that is there is not inserted again. -/
theorem insert_of_mem (hkey : key ∈ m.keys) (url : Option String) : m.insert key url = m :=
  if_pos hkey

/-- A key that was inserted is there, and all others are as they were. -/
theorem insert_of_not_mem (hkey : key ∉ m.keys) (url : Option String) :
    (m.insert key url).url key = url ∧ key ∈ (m.insert key url).keys ∧
      ∀ other ≠ key, (other ∈ (m.insert key url).keys ↔ other ∈ m.keys) ∧
        (m.insert key url).url other = m.url other := by
  rw [insert, if_neg hkey]
  refine ⟨Function.update_self _ _ _, Finset.mem_insert_self _ _, fun other hother => ?_⟩
  exact ⟨Finset.mem_insert.trans (or_iff_right hother), Function.update_of_ne hother _ _⟩

/-- Keys that are there keep their references when others are inserted. -/
theorem insertAll_of_mem (entries : List (String × SeedTerm)) (hkey : key ∈ m.keys) :
    key ∈ (m.insertAll entries).keys ∧ (m.insertAll entries).url key = m.url key := by
  induction entries generalizing m with
  | nil => exact ⟨hkey, rfl⟩
  | cons entry entries ih =>
    rw [insertAll_cons]
    by_cases hentry : entryKey entry ∈ m.keys
    · rw [insert_of_mem hentry]
      exact ih hkey
    · have hne : key ≠ entryKey entry := fun heq => hentry (heq ▸ hkey)
      obtain ⟨hkeys, hurl⟩ := (insert_of_not_mem hentry entry.2.url).2.2 key hne
      rw [← hurl]
      exact ih (hkeys.mpr hkey)

/-- A key that is not there is inserted with the first reference that is given for it. -/
theorem insertAll_of_not_mem (entries : List (String × SeedTerm)) (hkey : key ∉ m.keys) :
    (key ∈ (m.insertAll entries).keys ↔ (firstSeed? entries key).isSome = true) ∧
      (m.insertAll entries).url key = (firstSeed? entries key).bind fun entry => entry.2.url := by
  induction entries generalizing m with
  | nil => exact ⟨iff_of_false hkey Bool.false_ne_true, m.url_eq_none key hkey⟩
  | cons entry entries ih =>
    rw [insertAll_cons, firstSeed?_cons]
    by_cases hsame : entryKey entry = key
    · rw [if_pos hsame, hsame]
      obtain ⟨hurl, hmem, -⟩ := insert_of_not_mem hkey entry.2.url
      obtain ⟨hkeys, hkept⟩ := insertAll_of_mem entries hmem
      exact ⟨iff_of_true hkeys rfl, hkept.trans hurl⟩
    · rw [if_neg hsame]
      by_cases hentry : entryKey entry ∈ m.keys
      · rw [insert_of_mem hentry]
        exact ih hkey
      · obtain ⟨hkeys, -⟩ := (insert_of_not_mem hentry entry.2.url).2.2 key (Ne.symm hsame)
        exact ih (hkeys.not.mpr hkey)

/-- All inserted keys are there. -/
theorem mem_keys_insertAll (m : TermMap) {entry : String × SeedTerm} (hentry : entry ∈ entries) :
    entryKey entry ∈ (m.insertAll entries).keys := by
  by_cases hkey : entryKey entry ∈ m.keys
  · exact (insertAll_of_mem entries hkey).1
  · refine (insertAll_of_not_mem entries hkey).1.mpr ?_
    exact List.find?_isSome.mpr ⟨entry, hentry, beq_self_eq_true _⟩

/-- Nothing changes when all keys are there. -/
theorem insertAll_of_forall_mem (h : ∀ entry ∈ entries, entryKey entry ∈ m.keys) :
    m.insertAll entries = m := by
  induction entries with
  | nil => rfl
  | cons entry entries ih =>
    rw [List.forall_mem_cons] at h
    rw [insertAll_cons, insert_of_mem h.1, ih h.2]

end TermMap

/-! What is added to a table. -/

namespace TermTable

/-- The rows that a table has beyond those of another, into which terms of seeds were merged: one
for each term that is new, with the reference that it has where it comes first. -/
structure Merges (entries : List (String × SeedTerm)) (t t' : TermTable)
    (added : List TermRow) : Prop where
  rows : t'.rows = t.rows ++ added
  added : ∀ path term url, (∃ row ∈ added, row.key = (path, term) ∧ row.url = url) ↔
    t.contains path term = false ∧
      (firstSeed? entries (path, term)).map (fun entry => entry.2.url) = some url

/-- A table with the rows of another one first, whose map is that of the other with the terms
inserted, is the other one with the terms merged in. -/
theorem merges_of_toMap_eq {entries : List (String × SeedTerm)} {t t' : TermTable}
    {added : List TermRow} (hrows : t'.rows = t.rows ++ added)
    (hmap : t'.toMap = t.toMap.insertAll entries) : t.Merges entries t' added := by
  refine ⟨hrows, fun path term url => ?_⟩
  have hdistinct := t'.distinct
  rw [hrows, List.map_append] at hdistinct
  have hapart := List.disjoint_of_nodup_append hdistinct
  have hnew (hkey : (path, term) ∉ t.toMap.keys) :=
    TermMap.insertAll_of_not_mem entries hkey
  rw [contains_eq, decide_eq_false_iff_not]
  constructor
  · rintro ⟨row, hrow, hkey, rfl⟩
    have hrow' : row ∈ t'.rows := hrows ▸ List.mem_append_right _ hrow
    have hfresh : (path, term) ∉ t.toMap.keys := by
      intro hmem
      rw [toMap, List.mem_toFinset] at hmem
      exact hapart hmem (hkey ▸ List.mem_map_of_mem hrow)
    obtain ⟨hkeys, hurl⟩ := hnew hfresh
    rw [← hmap] at hkeys hurl
    obtain ⟨entry, hentry⟩ := Option.isSome_iff_exists.mp
      (hkeys.mp (mem_keys_toMap.mpr ⟨row, hrow', hkey⟩))
    rw [← hkey, url_toMap hrow', hkey, hentry, Option.bind_some] at hurl
    exact ⟨hfresh, by rw [hentry, Option.map_some, hurl]⟩
  · rintro ⟨hfresh, hfirst⟩
    obtain ⟨entry, hentry, rfl⟩ := Option.map_eq_some_iff.mp hfirst
    obtain ⟨hkeys, hurl⟩ := hnew hfresh
    rw [← hmap] at hkeys hurl
    obtain ⟨row, hrow, hkey⟩ := mem_keys_toMap.mp (hkeys.mpr (hentry ▸ rfl))
    rw [hentry, Option.bind_some, ← hkey, url_toMap hrow] at hurl
    rw [hrows, List.mem_append] at hrow
    refine ⟨row, hrow.resolve_left fun hold => hfresh ?_, hkey, hurl⟩
    exact mem_keys_toMap.mpr ⟨row, hold, hkey⟩

/-- Inserting keeps the rows there are, in their order, at the beginning. -/
theorem rows_prefix_insert (t : TermTable) (row : TermRow) : t.rows <+: (t.insert row).rows := by
  rw [insert]
  split_ifs
  · exact List.prefix_rfl
  · exact List.prefix_append _ _

/-- A table that begins with the rows of another one and has no more terms is that one. -/
theorem eq_of_rows_prefix {t t' : TermTable} (hrows : t.rows <+: t'.rows)
    (hmap : t'.toMap = t.toMap) : t' = t := by
  have hsize : t.size = t'.size := by rw [size_eq, size_eq, hmap]
  have heq := hrows.eq_of_length hsize
  cases t
  cases t'
  cases heq
  rfl

end TermTable

/-! Seeding a table. -/

/-- There is no first incomplete path exactly if all are complete. -/
theorem firstIncomplete?_eq_none_iff {entries : List (String × SeedTerm)} :
    firstIncomplete? entries = none ↔ ∀ entry ∈ entries, IsCompletePath entry.1 := by
  rw [firstIncomplete?, List.find?_eq_none, List.forall_mem_map]
  refine forall₂_congr fun entry _ => ?_
  rw [Option.isNone_iff_eq_none, typeOfPath?_eq_none_iff, not_not]

namespace TermDatabase

variable {db db' : TermDatabase} {p : TablePrefix} {t : TermTable}

/-- Putting in a term keeps the rows that are there. -/
theorem rows_prefix_seedTerm {state state' : TermTable × SeedReport} {entry : String × SeedTerm}
    (h : seedTerm state entry = .ok state') : state.1.rows <+: state'.1.rows := by
  obtain ⟨row, -, h⟩ := bind_eq_ok_iff.mp h
  split_ifs at h <;> cases h
  · exact List.prefix_rfl
  · exact TermTable.rows_prefix_insert _ _

/-- Seeding keeps the rows there were, in their order, at the beginning. -/
theorem rows_prefix_seedAll {state state' : TermTable × SeedReport} {s : Seed}
    (h : seedAll state s = .ok state') : state.1.rows <+: state'.1.rows := by
  obtain ⟨middle, hterms, h⟩ := bind_eq_ok_iff.mp h
  cases h
  refine foldlM_invariant (P := fun middle => state.1.rows <+: middle.1.rows) ?_
    List.prefix_rfl hterms
  exact fun entry _ middle next hmiddle hnext => hmiddle.trans (rows_prefix_seedTerm hnext)

/-- Seeding keeps the rows that are there. -/
theorem rows_prefix_seeds {state state' : TermTable × SeedReport} {seeds : List Seed}
    (h : seeds.foldlM seedAll state = .ok state') : state.1.rows <+: state'.1.rows := by
  refine foldlM_invariant (P := fun middle => state.1.rows <+: middle.1.rows) ?_ List.prefix_rfl h
  exact fun s _ middle next hmiddle hnext => hmiddle.trans (rows_prefix_seedAll hnext)

/-- Of two tables set for one prefix the second stays. -/
theorem withTable_withTable (db : TermDatabase) (p : TablePrefix) (t t' : TermTable) :
    (db.withTable p t).withTable p t' = db.withTable p t' := by
  cases db with
  | foreign => rfl
  | tables named =>
    rw [withTable, withTable, withTable, List.map_map]
    refine congrArg (fun f => tables (named.map f)) (funext fun entry => ?_)
    rw [Function.comp_apply]
    by_cases hname : isNameOf p entry.1 = true
    · simp only [if_pos hname]
    · simp only [if_neg hname]

/-- Seeding a table ends with the first path of a term that is not complete, or with another table
that has the rows of the first one and the terms of the seeds. -/
theorem seed_cases (htable : db.table? p = some t) (seeds : List Seed) :
    (∃ path, firstIncomplete? (seeds.flatMap Seed.entries) = some path ∧
      db.seed p (.ok seeds) = .error (.invalidFieldPath path)) ∨
    firstIncomplete? (seeds.flatMap Seed.entries) = none ∧ ∃ t' report,
      db.seed p (.ok seeds) = .ok (report, db.withTable p t') ∧ t.rows <+: t'.rows ∧
        IsSeeded (seeds.flatMap Seed.entries) seeds.length (t, {}) (t', report) := by
  have hends := endsSeeded_seeds seeds (t, {})
  have hseed : db.seed p (.ok seeds) =
      seeds.foldlM seedAll (t, {}) >>= fun result => .ok (result.2, db.withTable p result.1) := by
    rw [seed, table_eq_ok_iff.mpr htable]
    rfl
  rw [hseed]
  unfold EndsSeeded at hends
  cases hfirst : firstIncomplete? (seeds.flatMap Seed.entries) with
  | some path =>
    rw [hfirst] at hends
    rw [hends]
    exact Or.inl ⟨path, rfl, rfl⟩
  | none =>
    rw [hfirst] at hends
    obtain ⟨⟨t', report⟩, hfold, hseeded⟩ := hends
    rw [hfold]
    exact Or.inr ⟨rfl, t', report, rfl, rows_prefix_seeds hfold, hseeded⟩

/-- Seeding a table again with the same seeds adds nothing. -/
theorem seed_again (htable : db.table? p = some t) {seeds : List Seed}
    (hcomplete : firstIncomplete? (seeds.flatMap Seed.entries) = none)
    (hthere : ∀ entry ∈ seeds.flatMap Seed.entries, entryKey entry ∈ t.toMap.keys) :
    db.seed p (.ok seeds) = .ok (⟨seeds.length, 0, (seeds.flatMap Seed.entries).length⟩,
      db.withTable p t) := by
  rcases seed_cases htable seeds with ⟨path, hpath, -⟩ | ⟨-, t', report, hseed, hrows, hseeded⟩
  · rw [hcomplete] at hpath
    cases hpath
  · have hmap : t'.toMap = t.toMap := hseeded.map.trans (TermMap.insertAll_of_forall_mem hthere)
    have hsame := TermTable.eq_of_rows_prefix hrows hmap
    rw [hseed, hseeded.report_eq, hsame, Nat.sub_self, Nat.sub_zero]

/-! Seeding from files. -/

/-- The terms of the seeds of files with the paths of their fields: file by file, field by field,
and in the order in which they are listed for a field. -/
def termsOfFiles (files : List (String × Seed)) : List (String × SeedTerm) :=
  (files.map Prod.snd).flatMap Seed.entries

/-- A term is read from the files if it stands in a field of one of them. -/
theorem mem_termsOfFiles_iff {files : List (String × Seed)} {entry : String × SeedTerm} :
    entry ∈ termsOfFiles files ↔
      ∃ file ∈ files, ∃ field ∈ file.2.fields, field.1 = entry.1 ∧ entry.2 ∈ field.2 := by
  obtain ⟨path, term⟩ := entry
  simp only [termsOfFiles, Seed.entries, List.mem_flatMap, List.mem_map]
  constructor
  · rintro ⟨_, ⟨file, hfile, rfl⟩, field, hfield, term, hterm, heq⟩
    cases heq
    exact ⟨file, hfile, field, hfield, rfl, hterm⟩
  · rintro ⟨file, hfile, field, hfield, rfl, hterm⟩
    exact ⟨_, ⟨file, hfile, rfl⟩, field, hfield, term, hterm, rfl⟩

/-- Some path of a term is not complete exactly if terms are listed for a path that is not. -/
theorem exists_firstIncomplete?_iff {files : List (String × Seed)} :
    (∃ path, firstIncomplete? (termsOfFiles files) = some path) ↔
      ∃ file ∈ files, ∃ field ∈ file.2.fields, field.2 ≠ [] ∧ ¬IsCompletePath field.1 := by
  rw [← Option.ne_none_iff_exists', Ne, firstIncomplete?_eq_none_iff]
  push Not
  constructor
  · rintro ⟨entry, hentry, hpath⟩
    obtain ⟨file, hfile, field, hfield, heq, hterm⟩ := mem_termsOfFiles_iff.mp hentry
    exact ⟨file, hfile, field, hfield, List.ne_nil_of_mem hterm, heq ▸ hpath⟩
  · rintro ⟨file, hfile, field, hfield, hne, hpath⟩
    obtain ⟨term, hterm⟩ := List.exists_mem_of_ne_nil _ hne
    refine ⟨(field.1, term), mem_termsOfFiles_iff.mpr ?_, hpath⟩
    exact ⟨file, hfile, field, hfield, rfl, hterm⟩

/-- How seeding from a directory ends: files cannot be loaded, a path of a term is not complete, or
all terms are in the table. -/
theorem seedFrom_cases (htable : db.table? p = some t) (w : Workspace) (directory : String) :
    (∃ reason, w.seedFiles directory = .error reason ∧
      db.seedFrom p w directory = .error (.load reason)) ∨
    ∃ files, w.seedFiles directory = .ok files ∧
      ((∃ path, firstIncomplete? (termsOfFiles files) = some path ∧
        db.seedFrom p w directory = .error (.invalidFieldPath path)) ∨
      firstIncomplete? (termsOfFiles files) = none ∧ ∃ t' report,
        db.seedFrom p w directory = .ok (report, db.withTable p t') ∧ t.rows <+: t'.rows ∧
          IsSeeded (termsOfFiles files) files.length (t, {}) (t', report)) := by
  cases hload : w.seedFiles directory with
  | error reason =>
    rw [seedFrom, Workspace.seeds, hload]
    exact Or.inl ⟨reason, rfl, rfl⟩
  | ok files =>
    have hseeds : db.seedFrom p w directory = db.seed p (.ok (files.map Prod.snd)) := by
      rw [seedFrom, Workspace.seeds, hload]
      rfl
    have hcases := seed_cases htable (files.map Prod.snd)
    rw [List.length_map] at hcases
    rw [hseeds]
    exact Or.inr ⟨files, rfl, hcases⟩

/-- Seeding a table fails exactly if a file cannot be loaded or terms are listed for a path that is
not complete. -/
theorem seedFrom_eq_error_iff (htable : db.table? p = some t) {w : Workspace}
    {directory : String} :
    (∃ error, db.seedFrom p w directory = .error error) ↔
      (∃ reason, w.seedFiles directory = .error reason) ∨
        ∃ files, w.seedFiles directory = .ok files ∧ ∃ file ∈ files, ∃ field ∈ file.2.fields,
          field.2 ≠ [] ∧ ¬IsCompletePath field.1 := by
  rcases seedFrom_cases htable w directory with
    ⟨reason, hload, hseed⟩ |
      ⟨files, hload, ⟨path, hpath, hseed⟩ | ⟨hcomplete, t', report, hseed, -⟩⟩
  · exact iff_of_true ⟨_, hseed⟩ (Or.inl ⟨reason, hload⟩)
  · exact iff_of_true ⟨_, hseed⟩
      (Or.inr ⟨files, hload, exists_firstIncomplete?_iff.mp ⟨path, hpath⟩⟩)
  · rw [hload, hseed]
    refine iff_of_false (fun ⟨error, h⟩ => by cases h) ?_
    rintro (⟨reason, h⟩ | ⟨others, hothers, hlisted⟩)
    · cases h
    · cases hothers
      obtain ⟨path, hpath⟩ := exists_firstIncomplete?_iff.mpr hlisted
      cases hcomplete.symm.trans hpath

/-- Where seeding succeeds the terms of the files are merged into the table, and seeding once more
adds nothing. -/
theorem exists_merges_of_seedFrom (htable : db.table? p = some t) {w : Workspace}
    {directory : String} {report : SeedReport}
    (h : db.seedFrom p w directory = .ok (report, db')) :
    ∃ files t' added, w.seedFiles directory = .ok files ∧ db'.table? p = some t' ∧
      t.Merges (termsOfFiles files) t' added ∧
      report.files = files.length ∧ report.inserted = added.length ∧
      report.inserted + report.skipped = (termsOfFiles files).length ∧
      db'.seedFrom p w directory =
        .ok (⟨files.length, 0, (termsOfFiles files).length⟩, db') := by
  rcases seedFrom_cases htable w directory with
    ⟨reason, -, hseed⟩ |
      ⟨files, hload, ⟨path, -, hseed⟩ | ⟨hcomplete, t', report, hseed, hrows, hseeded⟩⟩
  · cases hseed.symm.trans h
  · cases hseed.symm.trans h
  · cases hseed.symm.trans h
    obtain ⟨added, hadded⟩ := hrows
    have htable' := table?_withTable htable t'
    have hthere (entry : String × SeedTerm) (hentry : entry ∈ termsOfFiles files) :
        entryKey entry ∈ t'.toMap.keys := by
      rw [hseeded.map]
      exact TermMap.mem_keys_insertAll _ hentry
    have hagain := seed_again htable' hcomplete hthere
    rw [List.length_map, withTable_withTable] at hagain
    have hsize : t'.size = t.size + added.length := by
      rw [TermTable.size, ← hadded, List.length_append]
      rfl
    have hfiles : report.files = 0 + files.length := hseeded.files
    have hinserted : report.inserted + t.size = 0 + t'.size := hseeded.inserted
    have htotal : report.inserted + report.skipped = 0 + 0 + (termsOfFiles files).length :=
      hseeded.total
    refine ⟨files, t', added, hload, htable',
      TermTable.merges_of_toMap_eq hadded.symm hseeded.map, by omega, by omega, by omega, ?_⟩
    rw [seedFrom, Workspace.seeds, hload]
    exact hagain

/-- Seeding a table that is there is all or nothing. It fails exactly if a file cannot be loaded or
if terms are listed for a path that is not complete, and leaves the database as it was. Otherwise
the rows that were there stay, behind them comes one for each new term, with the reference that it
has in the first of the files by name, there under the first path, and there where it is listed
first, the counts are those of files, of new rows and of the terms besides, and seeding once more
adds nothing. -/
theorem seeding_is_all_or_nothing (htable : db.table? p = some t) (w : Workspace)
    (directory : String) :
    (∀ error, db.seedFrom p w directory = .error error →
      db.perform p (.change (.seed (w.seeds directory))) = (.failed error, db)) ∧
    ((∃ error, db.seedFrom p w directory = .error error) ↔
      (∃ reason, w.seedFiles directory = .error reason) ∨
        ∃ files, w.seedFiles directory = .ok files ∧ ∃ file ∈ files, ∃ field ∈ file.2.fields,
          field.2 ≠ [] ∧ ¬IsCompletePath field.1) ∧
    ∀ report db', db.seedFrom p w directory = .ok (report, db') →
      ∃ files t' added, w.ListsSeeds directory files ∧ db'.table? p = some t' ∧
        t.Merges (termsOfFiles files) t' added ∧
        report.files = files.length ∧ report.inserted = added.length ∧
        report.inserted + report.skipped = (termsOfFiles files).length ∧
        db'.seedFrom p w directory =
          .ok (⟨files.length, 0, (termsOfFiles files).length⟩, db') := by
  refine ⟨fun error h => ?_, seedFrom_eq_error_iff htable, fun report db' h => ?_⟩
  · rw [seedFrom] at h
    rw [perform, h]
    rfl
  · obtain ⟨files, t', added, hload, hrest⟩ := exists_merges_of_seedFrom htable h
    exact ⟨files, t', added, Workspace.listsSeeds_iff.mpr hload, hrest⟩

/-- Two files of seeds that share a term, for which one gives a reference. -/
def sharedSeeds : Workspace where
  files := [
    (["seeds", "a.json"],
      .text "\x7b\"SI.CD.TSK\":[\"SI\",\x7b\"term\":\"BIB\",\"url\":\"bib\"\x7d]\x7d"),
    (["seeds", "b.json"], .text "\x7b\"SI.CD.TSK\":[\"BIB\"]\x7d")]

/-- The two files are read in the order of their names, with their fields and terms. -/
theorem seedFiles_sharedSeeds : sharedSeeds.seedFiles "seeds" = .ok [
    ("seeds/a.json", ⟨[("SI.CD.TSK", [.plain "SI", .linked "BIB" (some "bib")])]⟩),
    ("seeds/b.json", ⟨[("SI.CD.TSK", [.plain "BIB"])]⟩)] := by
  have hnames : sharedSeeds.fileNames "seeds" = .ok ["a.json", "b.json"] := by
    change Except.ok (["a.json", "b.json"].mergeSort fun a b => decide (a ≤ b)) = _
    rw [List.mergeSort_of_pairwise (by decide +kernel)]
  refine Workspace.seedFiles_eq_ok_iff.mpr ⟨⟨_, hnames, rfl⟩, ?_⟩
  rw [List.forall_mem_cons, List.forall_mem_singleton]
  constructor
  · exact Workspace.load_eq_ok (.map [("SI.CD.TSK",
      .list [.text "SI", .map [("term", .text "BIB"), ("url", .text "bib")]])]) rfl rfl (by cbv) rfl
  · exact Workspace.load_eq_ok (.map [("SI.CD.TSK", .list [.text "BIB"])]) rfl rfl (by cbv) rfl

/-- Two files that list three terms add the one that is new, with its reference, and nothing when
they are taken again. -/
theorem databaseOfKinds_seeding_shared :
    ∃ t t' after added, databaseOfKinds.table? catalogPrefix = some t ∧
      databaseOfKinds.seedFrom catalogPrefix sharedSeeds "seeds" = .ok (⟨2, 1, 2⟩, after) ∧
      after.table? catalogPrefix = some t' ∧ t'.rows = t.rows ++ added ∧
      (∃ row ∈ added, row.key = ("SI.CD.TSK", "BIB") ∧ row.url = some "bib") ∧
      after.seedFrom catalogPrefix sharedSeeds "seeds" = .ok (⟨2, 0, 3⟩, after) := by
  have htable : databaseOfKinds.table? catalogPrefix = some _ := rfl
  obtain ⟨after, hseed⟩ : ∃ after, databaseOfKinds.seedFrom catalogPrefix sharedSeeds "seeds" =
      .ok (⟨2, 1, 2⟩, after) := by
    rw [seedFrom, Workspace.seeds, seedFiles_sharedSeeds]
    exact ⟨_, rfl⟩
  obtain ⟨-, -, hok⟩ := seeding_is_all_or_nothing htable sharedSeeds "seeds"
  obtain ⟨files, t', added, hlists, htable', hmerges, -, -, -, hagain⟩ := hok _ _ hseed
  have hfiles := Workspace.listsSeeds_iff.mp hlists
  rw [seedFiles_sharedSeeds] at hfiles
  cases hfiles
  exact ⟨_, t', after, added, htable, hseed, htable', hmerges.rows,
    (hmerges.added _ _ _).mpr (by decide +kernel), hagain⟩

/-- A file with a path that is not complete and lists no terms for it. -/
def idleSeeds : Workspace where
  files := [(["seeds", "a.json"], .text "\x7b\"TSK\":[]\x7d")]

/-- A path that is not complete goes unnoticed if no terms are listed for it. -/
theorem incomplete_path_is_overlooked :
    idleSeeds.seedFiles "seeds" = .ok [("seeds/a.json", ⟨[("TSK", [])]⟩)] ∧
      ¬IsCompletePath "TSK" ∧ createdDatabase.table? catalogPrefix = some .empty ∧
      createdDatabase.seedFrom catalogPrefix idleSeeds "seeds" =
        .ok (⟨1, 0, 0⟩, createdDatabase) := by
  have hfiles : idleSeeds.seedFiles "seeds" = .ok [("seeds/a.json", ⟨[("TSK", [])]⟩)] := by
    have hnames : idleSeeds.fileNames "seeds" = .ok ["a.json"] := by
      change Except.ok (["a.json"].mergeSort fun a b => decide (a ≤ b)) = _
      rw [List.mergeSort_singleton]
    refine Workspace.seedFiles_eq_ok_iff.mpr ⟨⟨_, hnames, rfl⟩, ?_⟩
    rw [List.forall_mem_singleton]
    exact Workspace.load_eq_ok (.map [("TSK", .list [])]) rfl rfl (by cbv) rfl
  refine ⟨hfiles, typeOfPath?_eq_none_iff.mp rfl, rfl, ?_⟩
  rw [seedFrom, Workspace.seeds, hfiles]
  rfl

end TermDatabase

end CatalogRecords
