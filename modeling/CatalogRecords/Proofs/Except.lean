/-!
# Computations that may fail

What is known when a computation of several steps comes to a result: each step came to one, and
what every step keeps is kept from the first state to the last. If it comes to none, some step has
failed.
-/

namespace CatalogRecords

variable {α β ε : Type}

/-- Two computations one after the other come to a result if both do. -/
theorem bind_eq_ok_iff {x : Except ε α} {f : α → Except ε β} {b : β} :
    x >>= f = .ok b ↔ ∃ a, x = .ok a ∧ f a = .ok b := by
  cases x with
  | error error =>
    constructor
    · intro h
      cases h
    · rintro ⟨a, h, -⟩
      cases h
  | ok a =>
    constructor
    · intro h
      exact ⟨a, rfl, h⟩
    · rintro ⟨a', h, hf⟩
      cases h
      exact hf

/-- What is made of a result comes from the result. -/
theorem map_eq_ok_iff {x : Except ε α} {f : α → β} {b : β} :
    x.map f = .ok b ↔ ∃ a, x = .ok a ∧ f a = b := by
  cases x with
  | error error => simp [Except.map]
  | ok a => simp [Except.map]

/-- Of two computations one after the other one has failed if both together have. -/
theorem bind_eq_error_iff {x : Except ε α} {f : α → Except ε β} {error : ε} :
    x >>= f = .error error ↔ x = .error error ∨ ∃ a, x = .ok a ∧ f a = .error error := by
  cases x with
  | error other =>
    rw [or_iff_left (by rintro ⟨a, h, -⟩; cases h)]
    exact ⟨fun h => by cases h; rfl, fun h => by cases h; rfl⟩
  | ok a =>
    rw [or_iff_right (by intro h; cases h)]
    constructor
    · intro h
      exact ⟨a, rfl, h⟩
    · rintro ⟨a', h, hf⟩
      cases h
      exact hf

/-- What each step keeps a run of steps keeps. -/
theorem foldlM_invariant {step : β → α → Except ε β} {P : β → Prop} {as : List α}
    (hstep : ∀ a ∈ as, ∀ s s', P s → step s a = .ok s' → P s') {s s' : β} (hs : P s)
    (h : as.foldlM step s = .ok s') : P s' := by
  induction as generalizing s with
  | nil =>
    cases h
    exact hs
  | cons a as ih =>
    rw [List.foldlM_cons] at h
    obtain ⟨next, hnext, hrest⟩ := bind_eq_ok_iff.mp h
    exact ih (fun a ha => hstep a (List.mem_cons_of_mem _ ha))
      (hstep a List.mem_cons_self s next hs hnext) hrest

/-- Where a run of steps fails one of the steps does. -/
theorem exists_step_of_foldlM_eq_error {step : β → α → Except ε β} {as : List α} {s : β}
    {error : ε} (h : as.foldlM step s = .error error) :
    ∃ a ∈ as, ∃ s', step s' a = .error error := by
  induction as generalizing s with
  | nil => cases h
  | cons a as ih =>
    rw [List.foldlM_cons] at h
    rcases bind_eq_error_iff.mp h with hstep | ⟨next, -, hrest⟩
    · exact ⟨a, List.mem_cons_self, s, hstep⟩
    · obtain ⟨a', ha', hstep⟩ := ih hrest
      exact ⟨a', List.mem_cons_of_mem _ ha', hstep⟩

end CatalogRecords
