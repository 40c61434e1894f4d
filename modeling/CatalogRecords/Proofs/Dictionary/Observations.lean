import CatalogRecords.Proofs.Dictionary.Operations

/-!
# What is seen of a dictionary

From an empty database, whatever is done under one prefix, the outcomes are those of the same
operations on a map, and whatever is asked while there is a table has the map's answer. The two
columns that a row holds twice, its document type and its path, never come apart: what is listed for
a document type, what is counted as one and what is removed with it are the same rows.
-/

namespace CatalogRecords

namespace TermTable

variable {t : TermTable} {path term type : String}

/-- Whatever a table is asked, it has the answer of a map. -/
structure AnswersAs (t : TermTable) (m : TermMap) : Prop where
  contains : ∀ path term, t.contains path term = decide ((path, term) ∈ m.keys)
  url : ∀ path term, t.url? path term = m.url (path, term)
  entries : ∀ path start, t.entries path start = m.entries path start
  terms : ∀ path start, (t.entries path start).map TermEntry.term = m.terms path start
  fieldsOf : ∀ type, t.fieldsOf type =
    (m.fieldsIn type).map fun path => (path, m.entries path none)
  termsOf : ∀ type, t.termsOf type = (m.fieldsIn type).map fun path => (path, m.terms path none)
  size : t.size = m.size
  fieldCount : t.fieldCount = m.fields.card
  typeCount : t.typeCount = m.types.card

/-- A table has the answers of the map that it stands for. -/
theorem answersAs_toMap (t : TermTable) : t.AnswersAs t.toMap where
  contains _ _ := contains_eq
  url _ _ := rfl
  entries := t.entries_eq
  terms := t.map_term_entries
  fieldsOf := t.fieldsOf_eq
  termsOf := t.termsOf_eq
  size := size_eq
  fieldCount := fieldCount_eq
  typeCount := typeCount_eq

/-- As many terms are removed with a document type as are listed for it. -/
theorem size_sub_eraseType (t : TermTable) (type : String) :
    t.size - (t.eraseType type).size = ((t.termsOf type).flatMap Prod.snd).length := by
  have hterms := congrArg (List.map Prod.snd) (t.flatMap_termsOf type)
  simp only [List.map_flatMap, List.map_map, Function.comp_def, List.map_id'] at hterms
  have hlisted := congrArg List.length hterms
  rw [List.length_map, List.length_mergeSort] at hlisted
  have hparts := List.length_eq_length_filter_add (l := t.rows) fun row => row.documentType == type
  rw [hlisted, size, size, eraseType, filter, hparts]
  exact Nat.add_sub_cancel _ _

/-- The terms that are left without a document type are those that are not listed for it. -/
theorem contains_eraseType :
    (t.eraseType type).contains path term = true ↔
      t.contains path term = true ∧ ¬∃ terms, (path, terms) ∈ t.termsOf type ∧ term ∈ terms := by
  rw [contains_iff, contains_iff, exists_mem_termsOf_iff, eraseType, filter]
  simp only [List.mem_filter, bne_iff_ne]
  constructor
  · rintro ⟨row, ⟨hrow, hne⟩, hpath, hterm⟩
    refine ⟨⟨row, hrow, hpath, hterm⟩, ?_⟩
    rintro ⟨other, -, htype, hsame, -⟩
    rw [documentType_eq_firstSegment, hpath, ← hsame, ← documentType_eq_firstSegment] at hne
    exact hne htype
  · rintro ⟨⟨row, hrow, hpath, hterm⟩, hnone⟩
    exact ⟨row, ⟨hrow, fun htype => hnone ⟨row, hrow, htype, hpath, hterm⟩⟩, hpath, hterm⟩

end TermTable

/-! All operations. -/

/-- Where each operation has the same outcome on related states and leaves related states, so do
operations one after the other. -/
theorem performAll_related {σ τ : Type} {R : σ → τ → Prop}
    {f : σ → TermOperation → TermOutcome × σ} {g : τ → TermOperation → TermOutcome × τ}
    (hstep : ∀ s t op, R s t → (f s op).1 = (g t op).1 ∧ R (f s op).2 (g t op).2)
    (ops : List TermOperation) {s : σ} {t : τ} (h : R s t) :
    (performAll f s ops).1 = (performAll g t ops).1 ∧
      R (performAll f s ops).2 (performAll g t ops).2 := by
  induction ops generalizing s t with
  | nil => exact ⟨rfl, h⟩
  | cons op ops ih =>
    obtain ⟨houtcome, hnext⟩ := hstep s t op h
    obtain ⟨houtcomes, hlast⟩ := ih hnext
    exact ⟨congrArg₂ List.cons houtcome houtcomes, hlast⟩

namespace TermDatabase

variable {p : TablePrefix}

/-- The status of a database with one table counts its rows, fields and types. -/
theorem status_single (husable : p.isUsable = true) (t : TermTable) :
    (single p t).status p = .ok ⟨true, t.size, t.fieldCount, t.typeCount⟩ := by
  have htable := table_single husable t
  rw [single] at htable ⊢
  rw [status]
  simp [htable, Except.map]

/-- From an empty database, operations under one prefix have the outcomes that they have on a map.
There is a table exactly while there is a map. It has the answers of the map, its status counts the
keys, the fields and the first segments of the map, and removing a document type removes just the
terms that are listed for it. -/
theorem operations_agree_with_map (p : TablePrefix) (ops : List TermOperation) :
    (performAll (perform p) .empty ops).1 = (performAll (TermMap.perform p) none ops).1 ∧
      match (performAll (TermMap.perform p) none ops).2 with
      | none =>
        (performAll (perform p) .empty ops).2.table p = .error .database ∧
          (performAll (perform p) .empty ops).2.status p = .ok {}
      | some m => ∃ t, (performAll (perform p) .empty ops).2.table p = .ok t ∧ t.AnswersAs m ∧
          (performAll (perform p) .empty ops).2.status p =
            .ok ⟨true, m.size, m.fields.card, m.types.card⟩ ∧
          ∀ type, ∃ after t',
            (performAll (perform p) .empty ops).2.removeType p type =
                .ok (((t.termsOf type).flatMap Prod.snd).length, after) ∧
              after.table p = .ok t' ∧
              ∀ path term, t'.contains path term = true ↔ t.contains path term = true ∧
                ¬∃ terms, (path, terms) ∈ t.termsOf type ∧ term ∈ terms := by
  have hstart : StandsFor p .empty none := .none
  obtain ⟨houtcomes, hlast⟩ := performAll_related (R := StandsFor p)
    (fun _ _ op h => h.perform op) ops hstart
  refine ⟨houtcomes, ?_⟩
  generalize (performAll (perform p) .empty ops).2 = db at hlast ⊢
  generalize (performAll (TermMap.perform p) none ops).2 = m at hlast ⊢
  cases hlast with
  | none => exact ⟨table_empty p, rfl⟩
  | some t husable =>
    have hanswers := t.answersAs_toMap
    refine ⟨t, table_single husable t, hanswers, ?_, fun type => ?_⟩
    · rw [status_single husable, hanswers.size, hanswers.fieldCount, hanswers.typeCount]
    · rw [← TermTable.size_sub_eraseType]
      exact ⟨_, t.eraseType type, shrink_single husable t _, table_single husable _,
        fun path term => TermTable.contains_eraseType⟩

/-- A term that is there is not new, and is gone with its document type. -/
example : (performAll (perform catalogPrefix) .empty [
    .create, .change (.add "SI.CD.TSK" "SI" (some "kinds")), .change (.add "SI.CD.TSK" "SI" none),
    .change (.removeType "SI"), .drop, .change (.remove "SI.CD.TSK" "SI")]).1 =
      [.done, .added true, .added false, .removed 1, .done, .failed .database] := by
  decide +kernel

end TermDatabase

end CatalogRecords
