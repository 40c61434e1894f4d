import Mathlib.Data.List.TakeWhile

/-!
# Cutting a text

Where a text is cut at the first character that fails a test, the two sides are known by what is
asked of them: all of the first passes the test, and the second does not begin with a character that
does.
-/

namespace CatalogRecords.Text

variable {p : Char → Bool} {taken rest : List Char}

/-- Dropping as many characters as are taken is dropping while they are taken. -/
theorem drop_length_takeWhile (p : Char → Bool) (cs : List Char) :
    cs.drop (cs.takeWhile p).length = cs.dropWhile p := by
  have hdrop := List.prefix_iff_eq_append.mp (List.takeWhile_prefix (l := cs) p)
  exact List.append_cancel_left (hdrop.trans List.takeWhile_append_dropWhile.symm)

/-- A text is what passes a test and what is left from the first character that fails it. -/
theorem exists_cut (p : Char → Bool) (cs : List Char) : ∃ taken rest, cs = taken ++ rest ∧
    (∀ d ∈ taken, p d = true) ∧ ∀ d ∈ rest.head?, p d = false := by
  refine ⟨cs.takeWhile p, cs.dropWhile p, List.takeWhile_append_dropWhile.symm,
    fun d hd => List.mem_takeWhile_imp hd, fun d hd => ?_⟩
  have hhead := List.head?_dropWhile_not p cs
  rw [Option.mem_def.mp hd] at hhead
  exact hhead

/-- Taking stops at the first character after a run that is not to be taken. -/
theorem takeWhile_append_of_head (htaken : ∀ d ∈ taken, p d = true)
    (hrest : ∀ d ∈ rest.head?, p d = false) : (taken ++ rest).takeWhile p = taken := by
  rw [List.takeWhile_append_of_pos htaken]
  cases rest with
  | nil => exact List.append_nil taken
  | cons c rest =>
    rw [List.takeWhile_cons_of_neg (by rw [hrest c rfl]; decide), List.append_nil]

/-- Dropping stops at the first character after a run that is not to be dropped. -/
theorem dropWhile_append_of_head (htaken : ∀ d ∈ taken, p d = true)
    (hrest : ∀ d ∈ rest.head?, p d = false) : (taken ++ rest).dropWhile p = rest := by
  rw [List.dropWhile_append_of_pos htaken]
  cases rest with
  | nil => rfl
  | cons c rest => exact List.dropWhile_cons_of_neg (by rw [hrest c rfl]; decide)

end CatalogRecords.Text
