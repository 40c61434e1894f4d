import CatalogRecords.Query.Evaluation

/-!
# The truth of criteria

Evaluation answers the conditions one after the other and joins the answers as it goes. The two can
be kept apart: criteria are evaluated with an error exactly if some condition is answered with one,
the first such error being the result, and otherwise their truth depends on the answers alone.
-/

namespace CatalogRecords.Query

variable {ε : Type} {test : Condition → Except ε Bool} {v : Condition → Bool}

mutual

/-- The truth of a criterion, given that of each condition. -/
def Criterion.truth (v : Condition → Bool) : Criterion → Bool
  | .condition _ condition => v condition
  | .group _ members => (truthFrom v none members).getD true

/-- The truth of what came before together with that of criteria. -/
def truthFrom (v : Condition → Bool) : Option Bool → List Criterion → Option Bool
  | before, [] => before
  | before, c :: cs => truthFrom v (some (combine before c.operator (c.truth v))) cs

end

/-- Whether a condition is answered, and not with an error, by yes. -/
def isMet (test : Condition → Except ε Bool) (c : Condition) : Bool :=
  match test c with
  | .ok value => value
  | .error _ => false

/-- The error that a condition is answered with. -/
def errorOf? (test : Condition → Except ε Bool) (c : Condition) : Option ε :=
  match test c with
  | .ok _ => none
  | .error error => some error

/-- A value, unless there was an error. -/
def answer {α : Type} (error : Option ε) (value : α) : Except ε α :=
  match error with
  | some error => .error error
  | none => .ok value

/-- A condition has an answer and no error, or an error. -/
theorem eq_answer (test : Condition → Except ε Bool) (c : Condition) :
    test c = answer (errorOf? test c) (isMet test c) := by
  unfold errorOf? isMet
  cases test c <;> rfl

/-- What is made of an answer is made of its value. -/
theorem map_answer {α β : Type} (error : Option ε) (value : α) (f : α → β) :
    (answer error value).map f = answer error (f value) := by
  cases error <;> rfl

/-- Of two answers one after the other the first error counts. -/
theorem bind_answer {α β : Type} (error error' : Option ε) (value : α) (f : α → β) :
    (answer error value >>= fun value => answer error' (f value)) =
      answer (error <|> error') (f value) := by
  cases error <;> rfl

/-- The first error among criteria is that among those in front, or else that among the others. -/
theorem findSome?_conditionsIn_cons {α : Type} (f : Condition → Option α) (c : Criterion)
    (cs : List Criterion) :
    (conditionsIn (c :: cs)).findSome? f =
      (c.conditions.findSome? f <|> (conditionsIn cs).findSome? f) := by
  rw [conditionsIn, List.findSome?_append]
  cases List.findSome? f c.conditions <;> rfl

mutual

/-- A criterion has the first error of its conditions, or else its truth. -/
theorem Criterion.evaluate_eq (c : Criterion) :
    c.evaluate test = answer (c.conditions.findSome? (errorOf? test)) (c.truth (isMet test)) := by
  cases c with
  | condition op condition =>
    rw [Criterion.evaluate, Criterion.conditions, Criterion.truth, List.findSome?_cons]
    rw [eq_answer test condition]
    cases errorOf? test condition <;> rfl
  | group op members =>
    rw [Criterion.evaluate, Criterion.conditions, Criterion.truth]
    rw [evaluateFrom_eq none members, map_answer]

/-- Criteria have the first error of their conditions, or else their truth. -/
theorem evaluateFrom_eq (before : Option Bool) (cs : List Criterion) :
    evaluateFrom test before cs =
      answer ((conditionsIn cs).findSome? (errorOf? test)) (truthFrom (isMet test) before cs) := by
  cases cs with
  | nil => rfl
  | cons c cs =>
    -- the rest is evaluated for each truth of the first, so it is rewritten under the binder
    rw [evaluateFrom, truthFrom, findSome?_conditionsIn_cons, Criterion.evaluate_eq c]
    simp only [evaluateFrom_eq _ cs]
    exact bind_answer _ _ _ fun value =>
      truthFrom (isMet test) (some (combine before c.operator value)) cs

end

/-- The criteria of an expression have the first error of their conditions, or else their truth. -/
theorem Criteria.evaluate_eq (c : Criteria) :
    c.evaluate test =
      answer (c.conditions.findSome? (errorOf? test))
        ((truthFrom (isMet test) none c.members).getD true) := by
  rw [Criteria.evaluate, Criteria.conditions, evaluateFrom_eq, map_answer]

/-- What came before and criteria together have a truth if one of them does. -/
theorem truthFrom_some (before : Bool) (cs : List Criterion) :
    ∃ value, truthFrom v (some before) cs = some value := by
  induction cs generalizing before with
  | nil => exact ⟨before, rfl⟩
  | cons c cs ih =>
    rw [truthFrom]
    exact ih _

end CatalogRecords.Query
