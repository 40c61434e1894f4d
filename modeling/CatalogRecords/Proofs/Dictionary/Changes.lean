import CatalogRecords.Dictionary.TermDatabase
import CatalogRecords.Proofs.Except
import Mathlib.Tactic.SplitIfs

/-!
# Changes to the terms of a dictionary

Terms are added one by one or as the seeds say, and removed one by one, by field or by document
type. A change that cannot be made leaves the database as it is. One that is made puts another table
in the place of the one that the dictionary had, so that a dictionary with a table keeps having one,
whatever is done to its terms.
-/

namespace CatalogRecords

/-- What can be done to the terms of a dictionary. -/
inductive TermChange where
  | add (path term : String) (url : Option String)
  | remove (path term : String)
  | removeField (path : String)
  | removeType (type : String)
  | seed (loaded : Except LoadError (List Seed))

namespace TermDatabase

/-- The beginning of the table's name, unless another one is given. -/
def catalogPrefix : TablePrefix := ⟨"cat_", by decide +kernel⟩

/-- A database in which the table was just created. -/
def createdDatabase : TermDatabase := .tables [("cat_terms", .empty)]

/-- Makes a change to the terms of a dictionary. -/
def change (db : TermDatabase) (p : TablePrefix) : TermChange → Except TermStoreError TermDatabase
  | .add path term url => (db.add p path term url).map Prod.snd
  | .remove path term => (db.remove p path term).map Prod.snd
  | .removeField path => (db.removeField p path).map Prod.snd
  | .removeType type => (db.removeType p type).map Prod.snd
  | .seed loaded => (db.seed p loaded).map Prod.snd

/-- The database after a change, which is the same if the change cannot be made. -/
def afterChange (db : TermDatabase) (p : TablePrefix) (c : TermChange) : TermDatabase :=
  (db.change p c).toOption.getD db

/-- The database after changes one after the other. -/
def afterChanges (db : TermDatabase) (p : TablePrefix) (changes : List TermChange) :
    TermDatabase :=
  changes.foldl (fun db c => db.afterChange p c) db

variable {db db' : TermDatabase} {p : TablePrefix} {t t' : TermTable}

/-! The table of a dictionary. -/

/-- Among named tables the one of a prefix is the first with its name. -/
theorem table?_tables {named : List (String × TermTable)} (hwritable : p.isWritable = true) :
    (tables named).table? p =
      (named.find? fun entry => isNameOf p entry.1).map Prod.snd := if_pos hwritable

/-- A table is read if there is one. -/
theorem table_eq_ok_iff : db.table p = .ok t ↔ db.table? p = some t := by
  rw [table]
  cases db.table? p <;> simp

/-- A table in the place of another is found where that was found. -/
theorem table?_withTable (h : db.table? p = some t) (t' : TermTable) :
    (db.withTable p t').table? p = some t' := by
  cases db with
  | foreign => cases h
  | tables named =>
    rw [table?] at h
    split_ifs at h with hwritable
    obtain ⟨⟨name, old⟩, hfound, -⟩ := Option.map_eq_some_iff.mp h
    have hname := List.find?_some hfound
    -- Other tables keep their names, and so does the one that is replaced.
    have hnames : ((fun entry : String × TermTable => isNameOf p entry.1) ∘
        fun (name, old) => if isNameOf p name then (name, t') else (name, old)) =
        fun entry => isNameOf p entry.1 := by
      funext ⟨name, old⟩
      dsimp only [Function.comp_apply]
      split_ifs <;> rfl
    rw [withTable, table?_tables hwritable, List.find?_map, hnames, hfound, Option.map_some,
      Option.map_some]
    dsimp only
    rw [if_pos hname]

/-! What is changed. -/

/-- Whatever removes terms puts another table in place. -/
theorem exists_withTable_of_shrink {remove : TermTable → TermTable} {n : Nat}
    (h : db.shrink p remove = .ok (n, db')) :
    ∃ t t', db.table? p = some t ∧ db' = db.withTable p t' := by
  obtain ⟨t, htable, h⟩ := bind_eq_ok_iff.mp h
  cases h
  exact ⟨t, remove t, table_eq_ok_iff.mp htable, rfl⟩

/-- A change that is made puts another table in place. -/
theorem exists_withTable_of_change {c : TermChange} (h : db.change p c = .ok db') :
    ∃ t t', db.table? p = some t ∧ db' = db.withTable p t' := by
  cases c with
  | add path term url =>
    rw [change] at h
    obtain ⟨⟨isNew, db'⟩, hadd, rfl⟩ := map_eq_ok_iff.mp h
    obtain ⟨row, -, hadd⟩ := bind_eq_ok_iff.mp hadd
    obtain ⟨t, htable, hadd⟩ := bind_eq_ok_iff.mp hadd
    cases hadd
    exact ⟨t, t.insert row, table_eq_ok_iff.mp htable, rfl⟩
  | remove path term =>
    rw [change] at h
    obtain ⟨⟨n, db'⟩, hshrink, rfl⟩ := map_eq_ok_iff.mp h
    exact exists_withTable_of_shrink hshrink
  | removeField path =>
    rw [change] at h
    obtain ⟨⟨n, db'⟩, hshrink, rfl⟩ := map_eq_ok_iff.mp h
    exact exists_withTable_of_shrink hshrink
  | removeType type =>
    rw [change] at h
    obtain ⟨⟨n, db'⟩, hshrink, rfl⟩ := map_eq_ok_iff.mp h
    exact exists_withTable_of_shrink hshrink
  | seed loaded =>
    rw [change] at h
    obtain ⟨⟨report, db'⟩, hseed, rfl⟩ := map_eq_ok_iff.mp h
    obtain ⟨seeds, -, hseed⟩ := bind_eq_ok_iff.mp hseed
    obtain ⟨t, htable, hseed⟩ := bind_eq_ok_iff.mp hseed
    obtain ⟨⟨t', report⟩, -, hseed⟩ := bind_eq_ok_iff.mp hseed
    cases hseed
    exact ⟨t, t', table_eq_ok_iff.mp htable, rfl⟩

/-- A dictionary with a table has one after a change, made or not. -/
theorem exists_table?_afterChange (h : db.table? p = some t) (c : TermChange) :
    ∃ t', (db.afterChange p c).table? p = some t' := by
  rw [afterChange]
  cases hchange : db.change p c with
  | error error => exact ⟨t, h⟩
  | ok db' =>
    obtain ⟨_, t', -, rfl⟩ := exists_withTable_of_change hchange
    exact ⟨t', table?_withTable h t'⟩

/-- A dictionary with a table has one after any changes. -/
theorem exists_table?_afterChanges (h : db.table? p = some t) (changes : List TermChange) :
    ∃ t', (db.afterChanges p changes).table? p = some t' := by
  induction changes generalizing db t with
  | nil => exact ⟨t, h⟩
  | cons c changes ih =>
    obtain ⟨t', ht'⟩ := exists_table?_afterChange h c
    exact ih ht'

end TermDatabase

end CatalogRecords
