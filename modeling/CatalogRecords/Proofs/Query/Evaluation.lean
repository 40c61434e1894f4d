import CatalogRecords.Proofs.Query.Truth

/-!
# How expressions are evaluated

What can go wrong when an expression is evaluated depends on its source and its conditions alone: a
document of another type, metafields that a single document cannot answer for, and the first
condition that is answered with an error. If nothing does, the answer is the truth of the criteria.
-/

namespace CatalogRecords.Query

variable {t : DocumentType} {convention : DecimalConvention} {d : Document}

/-- The members of a list that are not among those seen already follow these, each once. -/
theorem foldl_distinct (seen names : List String) :
    names.foldl (fun seen name => if seen.contains name then seen else seen ++ [name]) seen =
      seen ++ (names.filter fun name => !seen.contains name).eraseDups := by
  induction names generalizing seen with
  | nil => simp
  | cons name names ih =>
    rw [List.foldl_cons, List.filter_cons]
    by_cases hseen : seen.contains name = true
    · rw [if_pos hseen, hseen, ih, if_neg (by simp)]
    · have hseen : seen.contains name = false := Bool.eq_false_iff.mpr hseen
      have hfilter : names.filter (fun other => !(seen ++ [name]).contains other) =
          (names.filter fun other => !seen.contains other).filter fun other => !other == name := by
        rw [List.filter_filter]
        apply List.filter_congr
        intro other _
        rw [List.contains_append, Bool.not_or, Bool.and_comm, List.contains_cons]
        rw [List.contains_nil, Bool.or_false]
      rw [hseen, if_neg Bool.false_ne_true, ih, hfilter, if_pos Bool.not_false,
        List.eraseDups_cons, List.append_assoc]
      rfl

/-- The distinct members of a list are those that stay when later repetitions are erased. -/
theorem distinct_eq_eraseDups (names : List String) : distinct names = names.eraseDups := by
  have hfilter : (names.filter fun name => !([] : List String).contains name) = names :=
    List.filter_eq_self.mpr fun _ _ => rfl
  rw [distinct, foldl_distinct, hfilter, List.nil_append]

/-- There are distinct members in a list only if there are members. -/
theorem distinct_eq_nil_iff (names : List String) : distinct names = [] ↔ names = [] := by
  rw [distinct_eq_eraseDups, List.eq_nil_iff_forall_not_mem, List.eq_nil_iff_forall_not_mem]
  simp only [List.mem_eraseDups]

namespace SearchExpression

/-- The truth of the criteria of an expression for a document. -/
def isMetBy (e : SearchExpression) (t : DocumentType) (convention : DecimalConvention)
    (d : Document) : Bool :=
  (truthFrom (isMet (Condition.holds t convention d)) none e.criteria.members).getD true

/-- What goes wrong when an expression is evaluated, if anything does. -/
def failure? (e : SearchExpression) (t : DocumentType) (convention : DecimalConvention)
    (d : Document) : Option EvaluationError :=
  if e.source ≠ d.documentType then some (.sourceMismatch e.source d.documentType)
  else if !e.unanswerable.isEmpty then some (.storageOnly e.unanswerable)
  else e.criteria.conditions.findSome? (errorOf? (Condition.holds t convention d))

/-- An expression has the truth of its criteria as its answer, unless something goes wrong. -/
theorem evaluate_eq (e : SearchExpression) :
    e.evaluate t convention d = answer (e.failure? t convention d) (e.isMetBy t convention d) := by
  rw [evaluate, failure?]
  split
  · rfl
  · split
    · rfl
    · exact e.criteria.evaluate_eq

/-- What goes wrong depends on the source and the conditions. -/
theorem failure?_congr {e e' : SearchExpression} (hsource : e.source = e'.source)
    (hconditions : e.criteria.conditions = e'.criteria.conditions) :
    e.failure? t convention d = e'.failure? t convention d := by
  rw [failure?, failure?, unanswerable, unanswerable, hsource, hconditions]

/-- A single document can answer for all metafields exactly if it can for that of each condition. -/
theorem unanswerable_eq_nil_iff (e : SearchExpression) :
    e.unanswerable = [] ↔ ∀ c ∈ e.criteria.conditions, ∀ m,
      (FieldRef.ofText c.field).known? = some m → m.isInMemory = true := by
  rw [unanswerable, distinct_eq_nil_iff, List.map_eq_nil_iff, List.filter_eq_nil_iff]
  simp only [List.mem_filterMap, Bool.not_eq_true', Bool.not_eq_false]
  constructor
  · intro h c hc m hm
    exact h m ⟨c, hc, hm⟩
  · rintro h m ⟨c, hc, hm⟩
    exact h c hc m hm

/-- A single document cannot answer for some metafield exactly if some condition asks for one. -/
theorem unanswerable_ne_nil_iff (e : SearchExpression) :
    e.unanswerable ≠ [] ↔ ∃ c ∈ e.criteria.conditions, ∃ m,
      (FieldRef.ofText c.field).known? = some m ∧ m.isInMemory = false := by
  rw [ne_eq, unanswerable_eq_nil_iff]
  simp

/-- Nothing goes wrong exactly if the document is of the right type, and each condition is one that
a single document can answer for and is not answered with an error. -/
theorem failure?_eq_none_iff (e : SearchExpression) :
    e.failure? t convention d = none ↔
      e.source = d.documentType ∧ ∀ c ∈ e.criteria.conditions,
        (∀ m, (FieldRef.ofText c.field).known? = some m → m.isInMemory = true) ∧
          ∃ value, c.holds t convention d = .ok value := by
  have herror (c : Condition) : errorOf? (Condition.holds t convention d) c = none ↔
      ∃ value, c.holds t convention d = .ok value := by
    unfold errorOf?
    cases c.holds t convention d <;> simp
  have hconditions : (∀ c ∈ e.criteria.conditions,
      (∀ m, (FieldRef.ofText c.field).known? = some m → m.isInMemory = true) ∧
        ∃ value, c.holds t convention d = .ok value) ↔
      e.unanswerable = [] ∧
        ∀ c ∈ e.criteria.conditions, ∃ value, c.holds t convention d = .ok value := by
    rw [unanswerable_eq_nil_iff]
    exact ⟨fun h => ⟨fun c hc => (h c hc).1, fun c hc => (h c hc).2⟩,
      fun h c hc => ⟨h.1 c hc, h.2 c hc⟩⟩
  rw [failure?, hconditions]
  by_cases hsource : e.source = d.documentType
  · rw [if_neg (not_not_intro hsource)]
    by_cases hunanswerable : e.unanswerable = []
    · simp [hsource, hunanswerable, List.findSome?_eq_none_iff, herror]
    · simp [hunanswerable]
  · simp [hsource]

/-- An expression has an answer exactly if nothing goes wrong and its criteria have that truth. -/
theorem evaluate_eq_ok_iff {e : SearchExpression} {value : Bool} :
    e.evaluate t convention d = .ok value ↔
      e.failure? t convention d = none ∧ e.isMetBy t convention d = value := by
  rw [evaluate_eq]
  cases e.failure? t convention d <;> simp [answer]

/-- An expression is evaluated with an error exactly if that goes wrong. -/
theorem evaluate_eq_error_iff {e : SearchExpression} {error : EvaluationError} :
    e.evaluate t convention d = .error error ↔ e.failure? t convention d = some error := by
  rw [evaluate_eq]
  cases e.failure? t convention d <;> simp [answer]

end SearchExpression

end CatalogRecords.Query
