import CatalogRecords.Dictionary.SeedFiles
import CatalogRecords.Proofs.Dictionary.Changes

/-!
# Refreshing a dictionary

Seeding is done in one piece: when something is wrong with the seeds the table stays as it is.
Refreshing is done in three, and what was dropped is gone before the seeds are looked at. A refresh
that fails leaves an empty table, or none if none can be created, so that a dictionary is left as it
was only if there was nothing to lose. The tables of other dictionaries are not touched.
-/

namespace CatalogRecords.TermDatabase

variable {db db' : TermDatabase} {p q : TablePrefix} {t : TermTable} {error : TermStoreError}
  {loaded : Except LoadError (List Seed)}

/-! The table that is dropped and created. -/

/-- There is no table after it was dropped. -/
theorem table?_drop (h : db.drop p = .ok db') : db'.table? p = none := by
  cases db with
  | foreign => cases h
  | tables named =>
    rw [drop] at h
    split_ifs at h with hwritable
    cases h
    rw [table?_tables hwritable, Option.map_eq_none_iff, List.find?_eq_none]
    intro entry hentry
    simpa using (List.mem_filter.mp hentry).2

/-- Only what is not there cannot be dropped. -/
theorem table?_of_drop_eq_error (h : db.drop p = .error error) :
    error = .migration ∧ db.table? p = none := by
  cases db with
  | foreign =>
    cases h
    exact ⟨rfl, rfl⟩
  | tables named =>
    rw [drop] at h
    split_ifs at h with hwritable
    cases h
    exact ⟨rfl, if_neg hwritable⟩

/-- A table that was created where there was none is empty. -/
theorem table?_create (hnone : db.table? p = none) (h : db.create p = .ok db') :
    db'.table? p = some .empty := by
  cases db with
  | foreign => cases h
  | tables named =>
    rw [create] at h
    split_ifs at h with hunwritable hthere hreserved
    all_goals
      have hwritable : p.isWritable = true := by simpa using hunwritable
      rw [table?_tables hwritable, Option.map_eq_none_iff] at hnone
    · obtain ⟨entry, hentry, hname⟩ := List.any_eq_true.mp hthere
      exact absurd hname (List.find?_eq_none.mp hnone entry hentry)
    · cases h
      have hname : isNameOf p p.tableName = true := beq_self_eq_true _
      rw [table?_tables hwritable, List.find?_append, hnone]
      simp [hname]

/-- Creating a table fails in one way only. -/
theorem eq_migration_of_create_eq_error (h : db.create p = .error error) :
    error = .migration := by
  cases db with
  | foreign =>
    cases h
    rfl
  | tables named =>
    rw [create] at h
    split_ifs at h <;> cases h <;> rfl

/-! What is wrong with seeds. -/

/-- Only the path of a row can be wrong. -/
theorem ofPath_eq_error {path term : String} {url : Option String}
    (h : TermRow.ofPath path term url = .error error) :
    typeOfPath? path = none ∧ error = .invalidFieldPath path := by
  rw [TermRow.ofPath, TermRow.ofPath?] at h
  split at h
  · cases h
  · next hnone =>
    cases h
    split at hnone
    · cases hnone
    · next htype => exact ⟨htype, rfl⟩

/-- A term is turned down for one reason only: its path has no type before a dot, or nothing behind
it. -/
theorem seedTerm_eq_error {state : TermTable × SeedReport} {entry : String × SeedTerm}
    (h : seedTerm state entry = .error error) :
    typeOfPath? entry.1 = none ∧ error = .invalidFieldPath entry.1 := by
  obtain ⟨table, report⟩ := state
  rcases bind_eq_error_iff.mp h with hrow | ⟨row, -, hok⟩
  · exact ofPath_eq_error hrow
  · split at hok
    · cases hok
    · cases hok

/-- A seed cannot be put into a table if a path in it is not complete. -/
theorem seedAll_eq_error {state : TermTable × SeedReport} {s : Seed}
    (h : seedAll state s = .error error) :
    ∃ entry ∈ s.entries, typeOfPath? entry.1 = none ∧ error = .invalidFieldPath entry.1 := by
  rcases bind_eq_error_iff.mp h with hentries | ⟨_, -, hok⟩
  · obtain ⟨entry, hentry, _, hterm⟩ := exists_step_of_foldlM_eq_error hentries
    exact ⟨entry, hentry, seedTerm_eq_error hterm⟩
  · cases hok

/-- A table is not seeded if the seeds could not be loaded, or if a path in one of them is not
complete. -/
theorem seed_eq_error (htable : db.table? p = some t) (h : db.seed p loaded = .error error) :
    (∃ reason, loaded = .error reason ∧ error = .load reason) ∨
      ∃ seeds, loaded = .ok seeds ∧ ∃ s ∈ seeds, ∃ entry ∈ s.entries,
        typeOfPath? entry.1 = none ∧ error = .invalidFieldPath entry.1 := by
  cases loaded with
  | error reason =>
    cases h
    exact Or.inl ⟨reason, rfl, rfl⟩
  | ok seeds =>
    -- The seeds and the table are at hand, so it is a term that could not be put in.
    rcases bind_eq_error_iff.mp h with hload | ⟨_, hload, h⟩
    · cases hload
    cases hload
    rcases bind_eq_error_iff.mp h with hread | ⟨_, -, h⟩
    · rw [table_eq_ok_iff.mpr htable] at hread
      cases hread
    rcases bind_eq_error_iff.mp h with hfold | ⟨_, -, hok⟩
    · obtain ⟨s, hs, _, hseed⟩ := exists_step_of_foldlM_eq_error hfold
      exact Or.inr ⟨seeds, rfl, s, hs, seedAll_eq_error hseed⟩
    · cases hok

/-! What a refresh leaves. -/

/-- A refresh fails at dropping the table, at creating it or at seeding it, and leaves what it had
come to by then. -/
theorem refresh_eq_error (h : db.refresh p loaded = (.error error, db')) :
    (db.drop p = .error error ∧ db' = db) ∨
      (db.drop p = .ok db' ∧ db'.create p = .error error) ∨
      ∃ dropped, db.drop p = .ok dropped ∧ dropped.create p = .ok db' ∧
        db'.seed p loaded = .error error := by
  unfold refresh at h
  split at h
  · next hdrop =>
    cases h
    exact Or.inl ⟨hdrop, rfl⟩
  · next dropped hdrop =>
    split at h
    · next hcreate =>
      cases h
      exact Or.inr (Or.inl ⟨hdrop, hcreate⟩)
    · next hcreate =>
      split at h
      · next hseed =>
        cases h
        exact Or.inr (Or.inr ⟨dropped, hdrop, hcreate, hseed⟩)
      · cases h

/-- A refresh that failed leaves no table if it came to no new one, and else an empty one. -/
theorem table?_of_refresh_eq_error (h : db.refresh p loaded = (.error error, db')) :
    db'.table? p = if error = .migration then none else some .empty := by
  rcases refresh_eq_error h with ⟨hdrop, rfl⟩ | ⟨hdrop, hcreate⟩ | ⟨dropped, hdrop, hcreate, hseed⟩
  · obtain ⟨rfl, hnone⟩ := table?_of_drop_eq_error hdrop
    exact hnone
  · cases eq_migration_of_create_eq_error hcreate
    exact table?_drop hdrop
  · have hempty := table?_create (table?_drop hdrop) hcreate
    have hne : error ≠ .migration := by
      rcases seed_eq_error hempty hseed with ⟨_, -, rfl⟩ | ⟨_, -, _, -, _, -, -, rfl⟩
      · exact TermStoreError.noConfusion
      · exact TermStoreError.noConfusion
    rw [if_neg hne]
    exact hempty

/-! Other tables. -/

/-- Whether two texts stand before names that a database takes for different ones. -/
def AreApart (p q : TablePrefix) : Prop :=
  TablePrefix.folded p.tableName ≠ TablePrefix.folded q.tableName

/-- The table of a prefix is not that of one apart from it. -/
theorem isNameOf_eq_false (hapart : AreApart p q) {name : String} (hname : isNameOf q name = true) :
    isNameOf p name = false := by
  rw [isNameOf, beq_iff_eq] at hname
  rw [isNameOf, beq_eq_false_iff_ne, hname]
  exact hapart.symm

/-- Dropping a table keeps the others. -/
theorem table?_drop_of_areApart (hapart : AreApart p q) (h : db.drop p = .ok db') :
    db'.table? q = db.table? q := by
  cases db with
  | foreign => cases h
  | tables named =>
    rw [drop] at h
    split_ifs at h
    cases h
    have hkept : (fun entry : String × TermTable =>
        decide ((!isNameOf p entry.1) = true ∧ isNameOf q entry.1 = true)) =
        fun entry => isNameOf q entry.1 := by
      funext entry
      cases hname : isNameOf q entry.1 with
      | false => simp
      | true => simp [isNameOf_eq_false hapart hname]
    rw [table?, table?, List.find?_filter, hkept]

/-- Creating a table keeps the others. -/
theorem table?_create_of_areApart (hapart : AreApart p q) (h : db.create p = .ok db') :
    db'.table? q = db.table? q := by
  cases db with
  | foreign => cases h
  | tables named =>
    rw [create] at h
    split_ifs at h
    · cases h
      rfl
    · cases h
      have hname : isNameOf q p.tableName = false := beq_eq_false_iff_ne.mpr hapart
      rw [table?, table?, List.find?_append, List.find?_cons_of_neg (by simp [hname]),
        List.find?_nil, Option.or_none]

/-- A refresh that failed leaves the table of a dictionary as it was only if there was none and
none could be created, or if it was empty; that the seeds are good is not looked at before the
terms are gone. The tables of other dictionaries stay as they were. -/
theorem failed_refresh_keeps_table_iff {w : Workspace} {directory : String}
    (hfailed : db.refreshFrom p w directory = (.error error, db')) :
    (db'.table? p = db.table? p ↔
      db.table? p = if error = .migration then none else some .empty) ∧
    ∀ q, AreApart p q → db'.table? q = db.table? q := by
  constructor
  · rw [table?_of_refresh_eq_error hfailed]
    exact eq_comm
  · intro q hapart
    rcases refresh_eq_error hfailed with ⟨-, rfl⟩ | ⟨hdrop, -⟩ | ⟨dropped, hdrop, hcreate, -⟩
    · rfl
    · exact table?_drop_of_areApart hapart hdrop
    · rw [table?_create_of_areApart hapart hcreate, table?_drop_of_areApart hapart hdrop]

/-- Where the terms of drafts are kept. -/
def draftPrefix : TablePrefix := ⟨"draft_", by decide +kernel⟩

/-- A database in which kinds of records are kept for drafts and no terms for catalogues. -/
def databaseOfDrafts : TermDatabase :=
  (tables [("cat_terms", .empty), ("draft_terms", .empty)]).afterChange draftPrefix
    (.add "SI.CD.TSK" "SI" none)

/-- Refreshed from a directory that is not there, a table without terms stays and so do the terms
of another table. -/
theorem databaseOfDrafts_refresh_missing :
    ∃ after, databaseOfDrafts.refreshFrom catalogPrefix {} "missing" =
        (.error (.load (.fault .notFound)), after) ∧
      after.table? catalogPrefix = databaseOfDrafts.table? catalogPrefix ∧
      after.table? draftPrefix = databaseOfDrafts.table? draftPrefix := by
  have hfailed : databaseOfDrafts.refreshFrom catalogPrefix {} "missing" =
      (.error (.load (.fault .notFound)), _) := rfl
  have hapart : AreApart catalogPrefix draftPrefix := by
    rw [AreApart]
    decide +kernel
  obtain ⟨hkept, hothers⟩ := failed_refresh_keeps_table_iff hfailed
  exact ⟨_, hfailed, hkept.mpr rfl, hothers draftPrefix hapart⟩

/-- A database in which kinds of records are kept for catalogues. -/
def databaseOfKinds : TermDatabase :=
  createdDatabase.afterChange catalogPrefix (.add "SI.CD.TSK" "SI" none)

/-- A refresh from a directory that is not there fails, and the terms are gone. -/
theorem failed_refresh_loses_terms :
    ∃ after, databaseOfKinds.refreshFrom catalogPrefix {} "missing" =
        (.error (.load (.fault .notFound)), after) ∧
      (databaseOfKinds.dictionary catalogPrefix).termExists "SI.CD.TSK" "SI" = true ∧
      (after.dictionary catalogPrefix).termExists "SI.CD.TSK" "SI" = false := by
  refine ⟨_, rfl, ?_, ?_⟩
  · decide +kernel
  · decide +kernel

end CatalogRecords.TermDatabase
