import CatalogRecords.Proofs.Dictionary.Changes
import CatalogRecords.Proofs.Dictionary.Listings
import CatalogRecords.Proofs.Dictionary.Seeding

/-!
# Dictionaries as maps

A dictionary is created and dropped, refreshed, and changed in between. Under one prefix all of this
can be told with a finite map in place of a database: there is a map while there is a table, each
operation has the same outcome on both, and after any operations the table has the answers of the
map. What an operation does to the map is said without rows: adding a key that is there changes
nothing, removing tells how many keys are gone, and seeding inserts all terms or none.
-/

namespace CatalogRecords

/-- What can be done to a dictionary. -/
inductive TermOperation where
  | create
  | drop
  | refresh (loaded : Except LoadError (List Seed))
  | change (c : TermChange)

/-- What an operation comes to. -/
inductive TermOutcome where
  | done
  | added (isNew : Bool)
  | removed (count : Nat)
  | seeded (report : SeedReport)
  | failed (error : TermStoreError)
  deriving DecidableEq

/-- The outcome of what was done, and what is there afterwards: what was there, if it failed. -/
def settle {α σ : Type} (outcome : α → TermOutcome) (before : σ) :
    Except TermStoreError (α × σ) → TermOutcome × σ
  | .ok (a, after) => (outcome a, after)
  | .error error => (.failed error, before)

/-- The outcomes of operations one after the other, and what is there in the end. -/
def performAll {σ : Type} (perform : σ → TermOperation → TermOutcome × σ) :
    σ → List TermOperation → List TermOutcome × σ
  | s, [] => ([], s)
  | s, op :: ops =>
    let (outcome, next) := perform s op
    let (outcomes, last) := performAll perform next ops
    (outcome :: outcomes, last)

/-- Whether a database can have the table of a dictionary. -/
def TablePrefix.isUsable (p : TablePrefix) : Bool := p.isWritable && !p.isReserved

/-! Operations on databases. -/

namespace TermDatabase

/-- Does an operation to a dictionary in a database. -/
def perform (p : TablePrefix) (db : TermDatabase) : TermOperation → TermOutcome × TermDatabase
  | .create => settle (fun _ => .done) db ((db.create p).map ((), ·))
  | .drop => settle (fun _ => .done) db ((db.drop p).map ((), ·))
  | .refresh loaded =>
    let (result, after) := db.refresh p loaded
    settle .seeded after (result.map (·, after))
  | .change (.add path term url) => settle .added db (db.add p path term url)
  | .change (.remove path term) => settle .removed db (db.remove p path term)
  | .change (.removeField path) => settle .removed db (db.removeField p path)
  | .change (.removeType type) => settle .removed db (db.removeType p type)
  | .change (.seed loaded) => settle .seeded db (db.seed p loaded)

end TermDatabase

/-! Operations on maps. -/

namespace TermMap

/-- Removes the keys that `gone` holds of, and tells how many there were. -/
def removing (m : TermMap) (gone : String × String → Bool) : TermOutcome × TermMap :=
  (.removed (m.keys.filter fun key => gone key = true).card, m.filter fun key => !gone key)

/-- Inserts all terms of seeds, unless these could not be loaded or a path is not complete. -/
def seeding (m : TermMap) : Except LoadError (List Seed) → TermOutcome × TermMap
  | .error reason => (.failed (.load reason), m)
  | .ok seeds =>
    let entries := seeds.flatMap Seed.entries
    match firstIncomplete? entries with
    | some path => (.failed (.invalidFieldPath path), m)
    | none =>
      let seeded := m.insertAll entries
      let inserted := seeded.size - m.size
      (.seeded ⟨seeds.length, inserted, entries.length - inserted⟩, seeded)

/-- Changes a map. -/
def change (m : TermMap) : TermChange → TermOutcome × TermMap
  | .add path term url =>
    if (typeOfPath? path).isNone then (.failed (.invalidFieldPath path), m)
    else (.added (decide ((path, term) ∉ m.keys)), m.insert (path, term) url)
  | .remove path term => m.removing fun key => key == (path, term)
  | .removeField path => m.removing fun key => key.1 == path
  | .removeType type => m.removing fun key => firstSegment key.1 == type
  | .seed loaded => m.seeding loaded

/-- Why a change cannot be made where there is no map. -/
def refusal : TermChange → TermStoreError
  | .add path _ _ => if (typeOfPath? path).isNone then .invalidFieldPath path else .database
  | .seed (.error reason) => .load reason
  | _ => .database

/-- Does an operation to a dictionary that is a map, if there is one. -/
def perform (p : TablePrefix) (m : Option TermMap) : TermOperation → TermOutcome × Option TermMap
  | .create =>
    if m.isSome then (.done, m)
    else if p.isUsable then (.done, some .empty)
    else (.failed .migration, none)
  | .drop => if p.isWritable then (.done, none) else (.failed .migration, m)
  | .refresh loaded =>
    if p.isUsable then ((empty.seeding loaded).1, some (empty.seeding loaded).2)
    else (.failed .migration, none)
  | .change c =>
    match m with
    | some m => ((m.change c).1, some (m.change c).2)
    | none => (.failed (refusal c), none)

end TermMap

/-! One operation. -/

namespace TermDatabase

/-- The database of one dictionary with a table. -/
def single (p : TablePrefix) (t : TermTable) : TermDatabase := .tables [(p.tableName, t)]

/-- A database of one dictionary stands for a map, or for none. -/
inductive StandsFor (p : TablePrefix) : TermDatabase → Option TermMap → Prop where
  | none : StandsFor p .empty none
  | some (t : TermTable) (husable : p.isUsable = true) : StandsFor p (single p t) (some t.toMap)

variable {p : TablePrefix} {db : TermDatabase} {m : Option TermMap}

/-- A prefix that can be used can be written. -/
theorem isWritable_of_isUsable (h : p.isUsable = true) : p.isWritable = true :=
  (Bool.and_eq_true_iff.mp h).1

/-- The table of a prefix is found under the name it is created with. -/
theorem isNameOf_tableName (p : TablePrefix) : isNameOf p p.tableName = true :=
  beq_self_eq_true _

/-- In a database with one table that is the one found for its prefix. -/
theorem table_single (husable : p.isUsable = true) (t : TermTable) :
    (single p t).table p = .ok t := by
  rw [table_eq_ok_iff, single, table?_tables (isWritable_of_isUsable husable)]
  simp [isNameOf_tableName]

/-- In an empty database no table is found. -/
theorem table_empty (p : TablePrefix) : empty.table p = .error .database := by
  have hnone : empty.table? p = none := by
    rw [empty, table?]
    split_ifs <;> rfl
  rw [table, hnone]

/-- Where one table is set for the prefix of another it takes its place. -/
theorem withTable_single (t t' : TermTable) : (single p t).withTable p t' = single p t' := by
  simp [single, withTable, isNameOf_tableName]

/-- There is no table with a name that cannot be written. -/
theorem StandsFor.eq_none (h : StandsFor p db m) (hwritable : p.isWritable = false) :
    db = .empty ∧ m = .none := by
  cases h with
  | none => exact ⟨rfl, rfl⟩
  | some t husable => cases hwritable.symm.trans (isWritable_of_isUsable husable)

/-- Dropping the one table leaves none. -/
theorem StandsFor.drop (h : StandsFor p db m) :
    db.drop p = if p.isWritable then .ok .empty else .error .migration := by
  cases h with
  | none => rfl
  | some t husable => simp [single, TermDatabase.drop, isNameOf_tableName, empty]

/-- A table is created in a database without one if it can be there at all. -/
theorem create_empty (p : TablePrefix) :
    empty.create p = if p.isUsable then .ok (single p .empty) else .error .migration := by
  rw [empty, create, TablePrefix.isUsable]
  cases p.isWritable <;> cases p.isReserved <;> rfl

/-- Creating a table that is there leaves it. -/
theorem create_single (husable : p.isUsable = true) (t : TermTable) :
    (single p t).create p = .ok (single p t) := by
  simp [single, create, isWritable_of_isUsable husable, isNameOf_tableName]

/-- Removing rows from the one table tells how many are gone. -/
theorem shrink_single (husable : p.isUsable = true) (t : TermTable)
    (change : TermTable → TermTable) :
    (single p t).shrink p change = .ok (t.size - (change t).size, single p (change t)) := by
  rw [← withTable_single t (change t), shrink, table_single husable]
  rfl

/-! Changes to the one table. -/

/-- A table and its map after the same was done to both, with the same outcome. -/
def Agree (p : TablePrefix) (result : TermOutcome × TermDatabase) (mapped : TermOutcome × TermMap) :
    Prop :=
  ∃ t', result = (mapped.1, single p t') ∧ t'.toMap = mapped.2

/-- Removing rows by their keys removes these keys. -/
theorem agree_shrink (husable : p.isUsable = true) (t : TermTable) {keep : TermRow → Bool}
    {gone : String × String → Bool} (hkeep : ∀ row, keep row = !gone row.key) :
    Agree p (settle .removed (single p t) ((single p t).shrink p fun t => t.filter keep))
      (t.toMap.removing gone) := by
  have hmap : (t.filter keep).toMap = t.toMap.filter fun key => !gone key :=
    TermTable.toMap_filter hkeep
  have hcount : t.size - (t.filter keep).size =
      (t.toMap.keys.filter fun key => gone key = true).card := by
    have hparts := Finset.card_filter_add_card_filter_not (s := t.toMap.keys)
      fun key => gone key = true
    rw [TermTable.size_eq, TermTable.size_eq, hmap, TermMap.size, TermMap.size, TermMap.filter,
      ← hparts]
    simp
  refine ⟨t.filter keep, ?_, hmap⟩
  rw [shrink_single husable, hcount]
  rfl

/-- Adding a term adds its key. -/
theorem agree_add (husable : p.isUsable = true) (t : TermTable) (path term : String)
    (url : Option String) :
    Agree p (settle .added (single p t) ((single p t).add p path term url))
      (t.toMap.change (.add path term url)) := by
  rw [TermMap.change, add]
  cases htype : typeOfPath? path with
  | none =>
    rw [TermRow.ofPath_of_none htype]
    exact ⟨t, rfl, rfl⟩
  | some type =>
    obtain ⟨row, hrow, hkey, hurl⟩ := TermRow.exists_ofPath htype term url
    rw [hrow, table_single husable]
    refine ⟨t.insert row, ?_, ?_⟩
    · change settle .added (single p t)
        (.ok (!t.contains path term, (single p t).withTable p (t.insert row))) = _
      rw [withTable_single, TermTable.contains_eq, if_neg (by simp), ← decide_not]
      rfl
    · rw [if_neg (by simp), TermTable.toMap_insert, hkey, hurl]

/-- Seeding a table inserts all terms or none. -/
theorem agree_seed (husable : p.isUsable = true) (t : TermTable)
    (loaded : Except LoadError (List Seed)) :
    Agree p (settle .seeded (single p t) ((single p t).seed p loaded))
      (t.toMap.seeding loaded) := by
  cases loaded with
  | error reason => exact ⟨t, rfl, rfl⟩
  | ok seeds =>
    have hends := endsSeeded_seeds seeds (t, {})
    have hseed : (single p t).seed p (.ok seeds) =
        seeds.foldlM seedAll (t, {}) >>= fun result => .ok (result.2, single p result.1) := by
      rw [seed, table_single husable]
      simp only [withTable_single]
      rfl
    rw [hseed, TermMap.seeding]
    unfold EndsSeeded at hends
    cases hfirst : firstIncomplete? (seeds.flatMap Seed.entries) with
    | some path =>
      rw [hfirst] at hends
      rw [hends]
      exact ⟨t, rfl, rfl⟩
    | none =>
      rw [hfirst] at hends
      obtain ⟨⟨t', report⟩, hfold, hseeded⟩ := hends
      rw [hfold, ← hseeded.map]
      dsimp only
      rw [← TermTable.size_eq, ← TermTable.size_eq, ← hseeded.report_eq]
      exact ⟨t', rfl, rfl⟩

/-- A change has the same outcome on a table and on its map. -/
theorem agree_change (husable : p.isUsable = true) (t : TermTable) (c : TermChange) :
    Agree p ((single p t).perform p (.change c)) (t.toMap.change c) := by
  cases c with
  | add path term url => exact agree_add husable t path term url
  | remove path term => exact agree_shrink husable t fun row => rfl
  | removeField path => exact agree_shrink husable t fun row => rfl
  | removeType type =>
    refine agree_shrink husable t fun row => ?_
    rw [TermTable.documentType_eq_firstSegment]
    rfl
  | seed loaded => exact agree_seed husable t loaded

/-- Nothing is changed where there is no table. -/
theorem perform_change_empty (p : TablePrefix) (c : TermChange) :
    empty.perform p (.change c) = (.failed (TermMap.refusal c), empty) := by
  cases c with
  | add path term url =>
    rw [perform, add, table_empty, TermMap.refusal]
    cases htype : typeOfPath? path with
    | none =>
      rw [TermRow.ofPath_of_none htype]
      rfl
    | some type =>
      obtain ⟨row, hrow, -⟩ := TermRow.exists_ofPath htype term url
      rw [hrow]
      rfl
  | remove path term =>
    rw [perform, remove, shrink, table_empty]
    rfl
  | removeField path =>
    rw [perform, removeField, shrink, table_empty]
    rfl
  | removeType type =>
    rw [perform, removeType, shrink, table_empty]
    rfl
  | seed loaded =>
    rw [perform, seed, table_empty]
    cases loaded <;> rfl

/-- A refreshed dictionary is seeded from nothing. -/
theorem StandsFor.perform_refresh (h : StandsFor p db m) (loaded : Except LoadError (List Seed)) :
    db.perform p (.refresh loaded) =
      if p.isUsable then
        settle .seeded (single p .empty) ((single p .empty).seed p loaded)
      else (.failed .migration, .empty) := by
  rw [perform, refresh, h.drop]
  cases hwritable : p.isWritable with
  | false =>
    rw [(h.eq_none hwritable).1]
    simp [TablePrefix.isUsable, hwritable, settle, Except.map]
  | true =>
    simp only [if_true, create_empty]
    cases husable : p.isUsable with
    | false => rfl
    | true =>
      simp only [if_true]
      cases (single p .empty).seed p loaded <;> rfl

/-- An operation has the same outcome on a database and on the map that it stands for, and leaves a
database that stands for the map that is left. -/
theorem StandsFor.perform (h : StandsFor p db m) (op : TermOperation) :
    (db.perform p op).1 = (TermMap.perform p m op).1 ∧
      StandsFor p (db.perform p op).2 (TermMap.perform p m op).2 := by
  cases op with
  | create =>
    cases h with
    | none =>
      rw [TermDatabase.perform, create_empty, TermMap.perform]
      cases husable : p.isUsable with
      | false => exact ⟨rfl, .none⟩
      | true => exact ⟨rfl, TermTable.toMap_empty ▸ .some .empty husable⟩
    | some t husable =>
      rw [TermDatabase.perform, create_single husable]
      exact ⟨rfl, .some t husable⟩
  | drop =>
    rw [TermDatabase.perform, h.drop, TermMap.perform]
    cases hwritable : p.isWritable with
    | false =>
      obtain ⟨rfl, rfl⟩ := h.eq_none hwritable
      exact ⟨rfl, .none⟩
    | true => exact ⟨rfl, .none⟩
  | refresh loaded =>
    rw [h.perform_refresh, TermMap.perform]
    cases husable : p.isUsable with
    | false => exact ⟨rfl, .none⟩
    | true =>
      obtain ⟨t', hresult, hmap⟩ := agree_seed husable .empty loaded
      rw [if_pos rfl, if_pos rfl, hresult, ← TermTable.toMap_empty, ← hmap]
      exact ⟨rfl, .some t' husable⟩
  | change c =>
    cases h with
    | none =>
      rw [perform_change_empty]
      exact ⟨rfl, .none⟩
    | some t husable =>
      obtain ⟨t', hresult, hmap⟩ := agree_change husable t c
      rw [hresult, TermMap.perform, ← hmap]
      exact ⟨rfl, .some t' husable⟩

end TermDatabase

end CatalogRecords
