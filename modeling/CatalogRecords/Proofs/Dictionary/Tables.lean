import CatalogRecords.Proofs.Dictionary.Observations
import CatalogRecords.Proofs.Dictionary.Refreshing

/-!
# The tables of one dictionary

A database that several dictionaries share is seen by each of them as one with its own tables only.
What is done to a dictionary has the same outcome on that part of the database, and leaves that part
of the database; and where the names of two dictionaries mean different tables, the part of the one
stays as it is whatever is done to the other.
-/

namespace CatalogRecords.TermDatabase

/-- The database without the tables whose names do not mean that of a dictionary. -/
def only (p : TablePrefix) : TermDatabase → TermDatabase
  | .tables named => .tables (named.filter fun entry => isNameOf p entry.1)
  | .foreign => .foreign

variable {db : TermDatabase} {p r : TablePrefix}

/-- The table of a prefix is found among its own tables as among all. -/
theorem table?_only (db : TermDatabase) (p : TablePrefix) : (db.only p).table? p = db.table? p := by
  cases db with
  | foreign => rfl
  | tables named =>
    rw [only, table?, table?, List.find?_filter]
    simp only [and_self, Bool.decide_eq_true]

/-- The rows of a prefix are the same without the other tables. -/
theorem table_only (db : TermDatabase) (p : TablePrefix) : (db.only p).table p = db.table p := by
  rw [table, table, table?_only]

/-- The status of a prefix is the same without the other tables. -/
theorem status_only (db : TermDatabase) (p : TablePrefix) :
    (db.only p).status p = db.status p := by
  cases db with
  | foreign => rfl
  | tables named =>
    have hexact : ((named.filter fun entry => isNameOf p entry.1).any fun entry =>
        entry.1 == p.tableName) = named.any fun entry => entry.1 == p.tableName := by
      rw [Bool.eq_iff_iff, List.any_eq_true, List.any_eq_true]
      constructor
      · rintro ⟨entry, hentry, hname⟩
        exact ⟨entry, (List.mem_filter.mp hentry).1, hname⟩
      · rintro ⟨entry, hentry, hname⟩
        refine ⟨entry, List.mem_filter.mpr ⟨hentry, ?_⟩, hname⟩
        rw [eq_of_beq hname]
        exact isNameOf_tableName p
    have htable := table_only (tables named) p
    rw [only] at htable ⊢
    rw [status, status, hexact, htable]

/-! What is done to the tables of one prefix. -/

/-- A table keeps its name when another one takes its place. -/
theorem isNameOf_comp_replace (p r : TablePrefix) (t : TermTable) :
    ((fun entry : String × TermTable => isNameOf p entry.1) ∘
      fun (name, old) => if isNameOf r name then (name, t) else (name, old)) =
      fun entry => isNameOf p entry.1 := by
  funext ⟨name, old⟩
  dsimp only [Function.comp_apply]
  split_ifs <;> rfl

/-- Setting the table of a prefix goes through to its own tables. -/
theorem only_withTable (db : TermDatabase) (p : TablePrefix) (t : TermTable) :
    (db.withTable p t).only p = (db.only p).withTable p t := by
  cases db with
  | foreign => rfl
  | tables named =>
    rw [withTable, only, only, withTable, List.filter_map, isNameOf_comp_replace]

/-- Creating looks at no table but those of the prefix, and adds to these. -/
theorem create_only (db : TermDatabase) (p : TablePrefix) :
    (db.only p).create p = (db.create p).map (only p) := by
  cases db with
  | foreign => rfl
  | tables named =>
    have hany : ((named.filter fun entry => isNameOf p entry.1).any fun entry =>
        isNameOf p entry.1) = named.any fun entry => isNameOf p entry.1 := by
      rw [List.any_filter]
      simp only [Bool.and_self]
    rw [only, create, create, hany]
    split_ifs
    · rfl
    · rfl
    · rfl
    · simp [Except.map, only, isNameOf_tableName]

/-- Dropping looks at no table but those of the prefix, and takes from these. -/
theorem drop_only (db : TermDatabase) (p : TablePrefix) :
    (db.only p).drop p = (db.drop p).map (only p) := by
  cases db with
  | foreign => rfl
  | tables named =>
    rw [only, drop, drop]
    split_ifs
    · rw [Except.map, only, List.filter_comm]
    · rfl

/-- Adding a term looks at no table but those of the prefix. -/
theorem add_only (db : TermDatabase) (p : TablePrefix) (path term : String)
    (url : Option String) :
    (db.only p).add p path term url = (db.add p path term url).map (Prod.map id (only p)) := by
  rw [add, add, table_only]
  simp only [← only_withTable]
  cases TermRow.ofPath path term url with
  | error error => rfl
  | ok row => cases db.table p <;> rfl

/-- Taking terms away looks at no table but those of the prefix. -/
theorem shrink_only (db : TermDatabase) (p : TablePrefix) (change : TermTable → TermTable) :
    (db.only p).shrink p change = (db.shrink p change).map (Prod.map id (only p)) := by
  rw [shrink, shrink, table_only]
  simp only [← only_withTable]
  cases db.table p <;> rfl

/-- Seeding looks at no table but those of the prefix. -/
theorem seed_only (db : TermDatabase) (p : TablePrefix) (loaded : Except LoadError (List Seed)) :
    (db.only p).seed p loaded = (db.seed p loaded).map (Prod.map id (only p)) := by
  rw [seed, seed, table_only]
  simp only [← only_withTable]
  cases loaded with
  | error reason => rfl
  | ok seeds =>
    cases db.table p with
    | error error => rfl
    | ok t =>
      change (seeds.foldlM seedAll (t, {}) >>= fun result =>
          Except.ok (result.2, (db.withTable p result.1).only p)) =
        (seeds.foldlM seedAll (t, {}) >>= fun result =>
          Except.ok (result.2, db.withTable p result.1)).map (Prod.map id (only p))
      cases seeds.foldlM seedAll (t, {}) <;> rfl

/-- Refreshing looks at no table but those of the prefix, also where it stops half way. -/
theorem refresh_only (db : TermDatabase) (p : TablePrefix)
    (loaded : Except LoadError (List Seed)) :
    (db.only p).refresh p loaded = Prod.map id (only p) (db.refresh p loaded) := by
  rw [refresh, refresh, drop_only]
  cases db.drop p with
  | error error => rfl
  | ok dropped =>
    dsimp only [Except.map]
    rw [create_only]
    cases dropped.create p with
    | error error => rfl
    | ok created =>
      dsimp only [Except.map]
      rw [seed_only]
      cases created.seed p loaded <;> rfl

/-- A map of states goes through settling: what failed leaves the state from before, mapped, and
what came about its own. -/
theorem settle_map {α σ τ : Type} {outcome : α → TermOutcome} (f : σ → τ) (before : σ)
    (result : Except TermStoreError (α × σ)) :
    settle outcome (f before) (result.map (Prod.map id f)) =
      Prod.map id f (settle outcome before result) := by
  cases result <;> rfl

/-- What is done under a prefix is done to its tables alone. -/
theorem perform_only (db : TermDatabase) (p : TablePrefix) (op : TermOperation) :
    (db.only p).perform p op = Prod.map id (only p) (db.perform p op) := by
  cases op with
  | create =>
    rw [perform, perform, create_only]
    cases db.create p <;> rfl
  | drop =>
    rw [perform, perform, drop_only]
    cases db.drop p <;> rfl
  | refresh loaded =>
    rw [perform, perform, refresh_only]
    obtain ⟨result, after⟩ := db.refresh p loaded
    cases result <;> rfl
  | change c =>
    cases c with
    | add path term url => rw [perform, perform, add_only, settle_map]
    | remove path term => rw [perform, perform, remove, remove, shrink_only, settle_map]
    | removeField path =>
      rw [perform, perform, removeField, removeField, shrink_only, settle_map]
    | removeType type => rw [perform, perform, removeType, removeType, shrink_only, settle_map]
    | seed loaded => rw [perform, perform, seed_only, settle_map]

/-! The tables of other prefixes. -/

/-- Setting the table of one prefix leaves the tables of a prefix apart from it as they are. -/
theorem only_withTable_of_areApart (hapart : AreApart r p) (db : TermDatabase) (t : TermTable) :
    (db.withTable r t).only p = db.only p := by
  cases db with
  | foreign => rfl
  | tables named =>
    rw [withTable, only, only, List.filter_map, isNameOf_comp_replace]
    refine congrArg tables ((List.map_congr_left ?_).trans (List.map_id _))
    rintro ⟨name, old⟩ hentry
    have hname : isNameOf r name = false := isNameOf_eq_false hapart (List.mem_filter.mp hentry).2
    simp [hname]

/-- Creating the table of one prefix leaves the tables of a prefix apart from it as they are. -/
theorem only_create_of_areApart {db' : TermDatabase} (hapart : AreApart r p)
    (h : db.create r = .ok db') : db'.only p = db.only p := by
  cases db with
  | foreign => cases h
  | tables named =>
    rw [create] at h
    split_ifs at h
    · cases h
      rfl
    · cases h
      have hname : isNameOf p r.tableName = false := beq_eq_false_iff_ne.mpr hapart
      simp [only, hname]

/-- Dropping the table of one prefix leaves the tables of a prefix apart from it as they are. -/
theorem only_drop_of_areApart {db' : TermDatabase} (hapart : AreApart r p)
    (h : db.drop r = .ok db') : db'.only p = db.only p := by
  cases db with
  | foreign => cases h
  | tables named =>
    rw [drop] at h
    split_ifs at h
    cases h
    rw [only, only, List.filter_filter]
    refine congrArg tables (List.filter_congr fun entry _ => ?_)
    cases hname : isNameOf p entry.1 with
    | false => rfl
    | true => simp [isNameOf_eq_false hapart hname]

/-- Seeding the table of one prefix leaves the tables of a prefix apart from it as they are. -/
theorem only_seed_of_areApart {db' : TermDatabase} {loaded : Except LoadError (List Seed)}
    {report : SeedReport} (hapart : AreApart r p) (h : db.seed r loaded = .ok (report, db')) :
    db'.only p = db.only p := by
  have hchange : db.change r (.seed loaded) = .ok db' := by
    rw [change, h]
    rfl
  obtain ⟨_, t', -, rfl⟩ := exists_withTable_of_change hchange
  exact only_withTable_of_areApart hapart db t'

/-- A refresh leaves the tables of other prefixes alone, wherever it ends. -/
theorem only_refresh_of_areApart (hapart : AreApart r p) (db : TermDatabase)
    (loaded : Except LoadError (List Seed)) : (db.refresh r loaded).2.only p = db.only p := by
  rw [refresh]
  cases hdrop : db.drop r with
  | error error => rfl
  | ok dropped =>
    have hdropped := only_drop_of_areApart hapart hdrop
    dsimp only
    cases hcreate : dropped.create r with
    | error error => exact hdropped
    | ok created =>
      have hcreated := only_create_of_areApart hapart hcreate
      dsimp only
      cases hseed : created.seed r loaded with
      | error error => exact hcreated.trans hdropped
      | ok seeded => exact (only_seed_of_areApart hapart hseed).trans (hcreated.trans hdropped)

/-- The database after a change that was done as an operation. -/
theorem perform_change_snd (db : TermDatabase) (p : TablePrefix) (c : TermChange) :
    (db.perform p (.change c)).2 = db.afterChange p c := by
  have hsettle {α : Type} (outcome : α → TermOutcome) (result : Except TermStoreError (α × _)) :
      (settle outcome db result).2 = (result.map Prod.snd).toOption.getD db := by
    cases result <;> rfl
  cases c <;> exact hsettle _ _

/-- What is done under a prefix leaves the tables of other prefixes alone. -/
theorem only_perform_of_areApart (hapart : AreApart r p) (db : TermDatabase)
    (op : TermOperation) : (db.perform r op).2.only p = db.only p := by
  cases op with
  | create =>
    rw [perform]
    cases hcreate : db.create r with
    | error error => rfl
    | ok db' => exact only_create_of_areApart hapart hcreate
  | drop =>
    rw [perform]
    cases hdrop : db.drop r with
    | error error => rfl
    | ok db' => exact only_drop_of_areApart hapart hdrop
  | refresh loaded =>
    have hkept := only_refresh_of_areApart hapart db loaded
    rw [perform]
    generalize db.refresh r loaded = refreshed at hkept ⊢
    obtain ⟨result, after⟩ := refreshed
    cases result <;> exact hkept
  | change c =>
    rw [perform_change_snd, afterChange]
    cases hchange : db.change r c with
    | error error => rfl
    | ok db' =>
      obtain ⟨_, t', -, rfl⟩ := exists_withTable_of_change hchange
      exact only_withTable_of_areApart hapart db t'

end CatalogRecords.TermDatabase
