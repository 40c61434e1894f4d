import CatalogRecords.Proofs.Dictionary.Tables

/-!
# Dictionaries that share a database

What is done and asked under one prefix concerns the tables whose names mean its own, and those are
left alone by whatever is done under a prefix whose names mean others. A run under many prefixes can
therefore be cut down to one of them, with the same results. The names of tables are compared
without regard to the case of Latin letters, though, and the status is asked for by the exact name:
two prefixes that differ in case only share a table, of which the status of one of them may not
know. They are isolated from each other just if that table cannot be there at all.
-/

namespace CatalogRecords

/-! What is asked. -/

/-- What a table can be asked. -/
inductive TableQuestion where
  | contains (path term : String)
  | url (path term : String)
  | entries (path : String) (start : Option String)
  | fieldsOf (type : String)
  | termsOf (type : String)
  | size

/-- What can be asked under a prefix: the status, a question that needs the table, and the two of a
validation, which are answered without it as well. -/
inductive TermQuestion where
  | status
  | table (question : TableQuestion)
  | known (path term : String)
  | allKnown (type : String)

/-- What is answered. -/
inductive TermAnswer where
  | status (status : StoreStatus)
  | truth (holds : Bool)
  | url (url : Option String)
  | entries (entries : List TermEntry)
  | fields (fields : List (String × List TermEntry))
  | terms (fields : List (String × List String))
  | known (fields : Option (List (String × List String)))
  | count (n : Nat)
  deriving DecidableEq

/-- What is done or asked under a prefix. -/
inductive TermEvent where
  | perform (op : TermOperation)
  | ask (question : TermQuestion)

/-- What is seen of an event. -/
inductive TermResult where
  | outcome (outcome : TermOutcome)
  | answer (answer : Except TermStoreError TermAnswer)
  deriving DecidableEq

/-- The answer of a table. -/
def TermTable.answer (t : TermTable) : TableQuestion → TermAnswer
  | .contains path term => .truth (t.contains path term)
  | .url path term => .url (t.url? path term)
  | .entries path start => .entries (t.entries path start)
  | .fieldsOf type => .fields (t.fieldsOf type)
  | .termsOf type => .terms (t.termsOf type)
  | .size => .count t.size

namespace TermDatabase

/-- The answer to a question about a dictionary in a database. -/
def ask (db : TermDatabase) (p : TablePrefix) : TermQuestion → Except TermStoreError TermAnswer
  | .status => (db.status p).map .status
  | .table question => (db.table p).map fun t => t.answer question
  | .known path term => .ok (.truth ((db.dictionary p).termExists path term))
  | .allKnown type => .ok (.known ((db.dictionary p).allTerms? type))

/-- What comes of an event under a prefix, and the database afterwards. -/
def respond (db : TermDatabase) (p : TablePrefix) : TermEvent → TermResult × TermDatabase
  | .perform op => (.outcome (db.perform p op).1, (db.perform p op).2)
  | .ask question => (.answer (db.ask p question), db)

/-- The results of events under many prefixes, each with its prefix. -/
def results : TermDatabase → List (TablePrefix × TermEvent) → List (TablePrefix × TermResult)
  | _, [] => []
  | db, (p, event) :: events =>
    (p, (db.respond p event).1) :: results (db.respond p event).2 events

/-- The database after events under many prefixes. -/
def afterEvents (db : TermDatabase) (events : List (TablePrefix × TermEvent)) : TermDatabase :=
  events.foldl (fun db event => (db.respond event.1 event.2).2) db

/-- What belongs to a prefix in a list of what belongs to many. -/
def under {α : Type} (p : TablePrefix) (all : List (TablePrefix × α)) : List (TablePrefix × α) :=
  all.filter fun entry => entry.1 = p

/-- A prefix is isolated from another one if, from an empty database on and whatever is done under
prefixes whose tables have names of their own, the results under it are those without the events
under the other one, and the status under it tells that there is a table just while questions that
need one are answered. -/
structure Isolated (p q : TablePrefix) : Prop where
  results : ∀ events : List (TablePrefix × TermEvent),
    (∀ event ∈ events, event.1 = p ∨ event.1 = q ∨ AreApart event.1 p) →
      under p (empty.results events) =
        under p (empty.results (events.filter fun event => event.1 ≠ q))
  status : ∀ events : List (TablePrefix × TermEvent),
    (∀ event ∈ events, event.1 = p ∨ event.1 = q ∨ AreApart event.1 p) →
      ∀ question, (∃ answer, (empty.afterEvents events).ask p (.table question) = .ok answer) ↔
        ∃ s, (empty.afterEvents events).ask p .status = .ok (.status s) ∧ s.tableExists = true

/-! Events under one prefix. -/

variable {db : TermDatabase} {p q r : TablePrefix}

/-- Questions are answered from the tables of their own prefix. -/
theorem ask_only (db : TermDatabase) (p : TablePrefix) (question : TermQuestion) :
    (db.only p).ask p question = db.ask p question := by
  cases question with
  | status => rw [ask, ask, status_only]
  | table question => rw [ask, ask, table_only]
  | known path term => rw [ask, ask, dictionary, dictionary, table?_only]
  | allKnown type => rw [ask, ask, dictionary, dictionary, table?_only]

/-- An event under a prefix concerns its tables alone. -/
theorem respond_only (db : TermDatabase) (p : TablePrefix) (event : TermEvent) :
    (db.only p).respond p event = Prod.map id (only p) (db.respond p event) := by
  cases event with
  | perform op =>
    rw [respond, perform_only]
    rfl
  | ask question =>
    rw [respond, ask_only]
    rfl

/-- An event under a prefix leaves the tables of other prefixes alone. -/
theorem only_respond_of_areApart (hapart : AreApart r p) (db : TermDatabase) (event : TermEvent) :
    (db.respond r event).2.only p = db.only p := by
  cases event with
  | perform op => exact only_perform_of_areApart hapart db op
  | ask question => rfl

/-! Names that differ in case only. -/

/-- A digit is no letter, so it has no other case. -/
theorem isDigit_toLower (c : Char) : c.toLower.isDigit = c.isDigit := by
  delta Char.toLower
  grind [Char.isDigit, UInt32.le_iff_toNat_le]

/-- Whether a name can be written is seen from it as it is compared. -/
theorem isWritable_eq (p : TablePrefix) :
    p.isWritable = !((TablePrefix.folded p.tableName).toList.head?.any Char.isDigit) := by
  rw [TablePrefix.isWritable, TablePrefix.folded, TablePrefix.tableName, String.toList_ofList,
    List.head?_map, String.toList_append]
  cases p.text.toList with
  | nil => decide
  | cons c cs => simp [isDigit_toLower]

/-- Prefixes that differ in case only can both be used, or neither can. -/
theorem isUsable_eq_of_not_areApart (h : ¬AreApart p q) : p.isUsable = q.isUsable := by
  rw [AreApart, not_not] at h
  rw [TablePrefix.isUsable, TablePrefix.isUsable, isWritable_eq, isWritable_eq,
    TablePrefix.isReserved, TablePrefix.isReserved, h]

/-- Prefixes that differ in case only have their tables in common. -/
theorem only_eq_of_not_areApart (h : ¬AreApart p q) : only p = only q := by
  rw [AreApart, not_not] at h
  have hname : isNameOf p = isNameOf q := by
    funext name
    rw [isNameOf, isNameOf, h]
  funext db
  rw [only.eq_def, only.eq_def, hname]

/-! Events under many prefixes. -/

/-- Whether events under a prefix do nothing to the table of another one: its names mean other
tables, or there can be no such table anyway. -/
def LeavesAlone (p r : TablePrefix) : Prop := r = p ∨ AreApart r p ∨ p.isUsable = false

/-- There is no table of a prefix that cannot be used. -/
theorem StandsFor.eq_empty {m : Option TermMap} (h : StandsFor p db m)
    (hunusable : p.isUsable = false) : db = .empty := by
  cases h with
  | none => rfl
  | some t husable => cases hunusable.symm.trans husable

/-- What stands for a map does so after any event. -/
theorem exists_standsFor_respond {m : Option TermMap} (h : StandsFor p db m) (event : TermEvent) :
    ∃ m', StandsFor p (db.respond p event).2 m' := by
  cases event with
  | perform op => exact ⟨_, (h.perform op).2⟩
  | ask question => exact ⟨m, h⟩

/-- Where nothing is done to the table of a prefix an event under another one keeps it. -/
theorem only_respond_of_ne {m : Option TermMap} (hr : LeavesAlone p r) (hne : r ≠ p)
    (hdb : StandsFor p (db.only p) m) (event : TermEvent) :
    (db.respond r event).2.only p = db.only p := by
  by_cases hapart : AreApart r p
  · exact only_respond_of_areApart hapart db event
  -- The prefixes share their table, and it cannot be there.
  have hunusable : p.isUsable = false := (hr.resolve_left hne).resolve_left hapart
  have hempty : db.only p = .empty := hdb.eq_empty hunusable
  have hstands : StandsFor r .empty none := .none
  obtain ⟨m', hafter⟩ := exists_standsFor_respond hstands event
  rw [← only_eq_of_not_areApart hapart] at hempty ⊢
  rw [hempty]
  have hresponse := congrArg Prod.snd (respond_only db r event)
  rw [hempty] at hresponse
  rw [← hafter.eq_empty ((isUsable_eq_of_not_areApart hapart).trans hunusable)]
  exact hresponse.symm

/-- A run under many prefixes that leave a table alone is, for its prefix, the run of the events
under it on its own table. -/
theorem run_under {m : Option TermMap} {events : List (TablePrefix × TermEvent)}
    (hevents : ∀ event ∈ events, LeavesAlone p event.1) (hdb : StandsFor p (db.only p) m) :
    under p (db.results events) = (db.only p).results (under p events) ∧
      (db.afterEvents events).only p = (db.only p).afterEvents (under p events) ∧
      ∃ m', StandsFor p ((db.afterEvents events).only p) m' := by
  induction events generalizing db m with
  | nil => exact ⟨rfl, rfl, m, hdb⟩
  | cons event events ih =>
    obtain ⟨r, event⟩ := event
    have hevents' := fun e he => hevents e (List.mem_cons_of_mem _ he)
    by_cases hr : r = p
    · subst hr
      obtain ⟨m', hnext⟩ := exists_standsFor_respond hdb event
      rw [respond_only] at hnext
      obtain ⟨hresults, hafter, hstands⟩ := ih hevents' hnext
      refine ⟨?_, ?_, hstands⟩
      · rw [results, under, List.filter_cons_of_pos (by simp), under,
          List.filter_cons_of_pos (by simp), results, respond_only]
        exact congrArg _ hresults
      · rw [under, List.filter_cons_of_pos (by simp), afterEvents, afterEvents, List.foldl_cons,
          List.foldl_cons, respond_only]
        exact hafter
    · have hkept := only_respond_of_ne (hevents (r, event) List.mem_cons_self) hr hdb event
      rw [← hkept] at hdb
      obtain ⟨hresults, hafter, hstands⟩ := ih hevents' hdb
      rw [hkept] at hresults hafter
      refine ⟨?_, ?_, hstands⟩
      · rw [results, under, List.filter_cons_of_neg (by simpa using hr), under,
          List.filter_cons_of_neg (by simpa using hr)]
        exact hresults
      · rw [under, List.filter_cons_of_neg (by simpa using hr)]
        exact hafter

/-- A table is asked with success just while the status tells that it is there. -/
theorem StandsFor.ask_table_iff {m : Option TermMap} (h : StandsFor p db m)
    (question : TableQuestion) :
    (∃ answer, db.ask p (.table question) = .ok answer) ↔
      ∃ s, db.ask p .status = .ok (.status s) ∧ s.tableExists = true := by
  cases h with
  | none =>
    rw [ask, ask, table_empty]
    constructor
    · rintro ⟨answer, hanswer⟩
      cases hanswer
    · rintro ⟨s, hs, hexists⟩
      cases hs
      cases hexists
  | some t husable =>
    rw [ask, ask, table_single husable, status_single husable]
    exact ⟨fun _ => ⟨_, rfl, rfl⟩, fun _ => ⟨_, rfl⟩⟩

/-- A prefix is isolated from others that leave its table alone. -/
theorem isolated_of_leavesAlone (hne : p ≠ q) (hq : LeavesAlone p q) : Isolated p q := by
  have hstands : StandsFor p (empty.only p) none := .none
  have hleaves {events : List (TablePrefix × TermEvent)}
      (hevents : ∀ event ∈ events, event.1 = p ∨ event.1 = q ∨ AreApart event.1 p) :
      ∀ event ∈ events, LeavesAlone p event.1 := by
    intro event hevent
    rcases hevents event hevent with rfl | rfl | hapart
    · exact Or.inl rfl
    · exact hq
    · exact Or.inr (Or.inl hapart)
  constructor
  · intro events hevents
    have hfiltered : under p (events.filter fun event => event.1 ≠ q) = under p events := by
      rw [under, under, List.filter_filter]
      refine List.filter_congr fun event _ => ?_
      by_cases hevent : event.1 = p
      · simp [hevent, hne]
      · simp [hevent]
    have hkept : ∀ event ∈ events.filter fun event => event.1 ≠ q, LeavesAlone p event.1 :=
      fun event hevent => hleaves hevents event (List.mem_filter.mp hevent).1
    rw [(run_under (hleaves hevents) hstands).1, (run_under hkept hstands).1, hfiltered]
  · intro events hevents question
    obtain ⟨-, -, m', hafter⟩ := run_under (hleaves hevents) hstands
    rw [← ask_only, ← ask_only _ _ .status]
    exact hafter.ask_table_iff question

/-- A table that was created under one prefix is found under one that differs in case only. -/
theorem not_isolated_of_not_areApart (hne : p ≠ q) (hapart : ¬AreApart p q)
    (husable : p.isUsable = true) : ¬Isolated p q := by
  intro hisolated
  have hcreate : empty.create q = .ok (single q .empty) := by
    rw [create_empty, ← isUsable_eq_of_not_areApart hapart, if_pos husable]
  have hfound : (single q .empty).table p = .ok .empty := by
    have hname : isNameOf p q.tableName = true := beq_iff_eq.mpr (not_not.mp hapart).symm
    rw [table_eq_ok_iff, single, table?_tables (isWritable_of_isUsable husable)]
    simp [hname]
  have hboth : under p (empty.results [(q, .perform .create), (p, .ask (.table .size))]) =
      [(p, .answer (.ok (.count 0)))] := by
    simp only [results, respond, perform, hcreate, Except.map, settle, ask, hfound]
    simp [under, hne.symm]
    rfl
  have halone : under p (empty.results [(p, .ask (.table .size))]) =
      [(p, .answer (.error .database))] := by
    simp only [results, respond, ask, table_empty]
    simp [under, Except.map]
  have hresults := hisolated.results
    [(q, .perform .create), (p, .ask (.table .size))] (by simp)
  rw [List.filter_cons_of_neg (by simp), List.filter_cons_of_pos (by simpa using hne),
    List.filter_nil, hboth, halone] at hresults
  cases hresults

/-- A prefix is isolated from another one just if they differ in more than the case of letters, or
if there can be no table with such a name. -/
theorem isolated_iff (hne : p ≠ q) : Isolated p q ↔ AreApart p q ∨ p.isUsable = false := by
  constructor
  · intro hisolated
    by_contra hneither
    rw [not_or, Bool.not_eq_false] at hneither
    exact not_isolated_of_not_areApart hne hneither.1 hneither.2 hisolated
  · rintro (hapart | hunusable)
    · exact isolated_of_leavesAlone hne (Or.inr (Or.inl hapart.symm))
    · exact isolated_of_leavesAlone hne (Or.inr (Or.inr hunusable))

/-- Terms for catalogues and for drafts are kept apart. -/
theorem catalogPrefix_isolated :
    catalogPrefix ≠ draftPrefix ∧ Isolated catalogPrefix draftPrefix := by
  have hne : catalogPrefix ≠ draftPrefix := by decide +kernel
  have hapart : AreApart catalogPrefix draftPrefix := by
    rw [AreApart]
    decide +kernel
  exact ⟨hne, (isolated_iff hne).mpr (Or.inl hapart)⟩

/-- The beginning of the table's name in capitals. -/
def capitalPrefix : TablePrefix := ⟨"CAT_", by decide +kernel⟩

/-- A term is added in capitals and looked for in small letters. -/
def eventsInBothCases : List (TablePrefix × TermEvent) := [
  (capitalPrefix, .perform .create),
  (capitalPrefix, .perform (.change (.add "SI.CD.TSK" "SI" none))),
  (catalogPrefix, .ask .status),
  (catalogPrefix, .ask (.table (.contains "SI.CD.TSK" "SI")))]

/-- In small letters there is no table according to its status, but the term is found. Without what
was done in capitals it could not be looked for. -/
theorem capitalPrefix_shares_table :
    capitalPrefix ≠ catalogPrefix ∧
      under catalogPrefix (empty.results eventsInBothCases) = [
        (catalogPrefix, .answer (.ok (.status {}))), (catalogPrefix, .answer (.ok (.truth true)))] ∧
      under catalogPrefix (empty.results
        (eventsInBothCases.filter fun event => event.1 ≠ capitalPrefix)) = [
        (catalogPrefix, .answer (.ok (.status {}))),
        (catalogPrefix, .answer (.error .database))] := by
  refine ⟨by decide +kernel, ?_, ?_⟩
  · decide +kernel
  · decide +kernel

end TermDatabase

end CatalogRecords
