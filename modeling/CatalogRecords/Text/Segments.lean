import CatalogRecords.Text.CharClass

/-!
# Trimming, splitting and joining texts

The few operations on texts that the catalogue's rules are stated with. Each works on the list of
characters, where its laws are short inductions, and has a form on `String` beside it. Splitting
and joining at a separator are inverse to each other.
-/

namespace CatalogRecords.Text

/-- The characters without the blanks at either end. -/
def trimChars (cs : List Char) : List Char :=
  ((cs.dropWhile isBlank).reverse.dropWhile isBlank).reverse

/-- A text without the blanks at either end. -/
def trim (s : String) : String := String.ofList (trimChars s.toList)

/-- Whether a text holds nothing but blanks. -/
def isBlankText (s : String) : Bool := s.toList.all isBlank

/-- The pieces between the separators, one more than there are separators. -/
def splitChars (sep : Char) : List Char → List (List Char)
  | [] => [[]]
  | c :: cs =>
    if c = sep then [] :: splitChars sep cs
    else match splitChars sep cs with
      | [] => [[c]]
      | piece :: pieces => (c :: piece) :: pieces

/-- The pieces with one separator between neighbours. -/
def joinChars (sep : Char) : List (List Char) → List Char
  | [] => []
  | [piece] => piece
  | piece :: pieces => piece ++ sep :: joinChars sep pieces

/-- The pieces of a text between the separators. -/
def split (sep : Char) (s : String) : List String := (splitChars sep s.toList).map String.ofList

/-- The texts one after the other with `sep` between neighbours. -/
def join (sep : String) (texts : List String) : String := String.intercalate sep texts

/-- The characters before the first one that `stop` holds of, that one, and those after it. -/
def cutAt? (stop : Char → Bool) : List Char → Option (List Char × Char × List Char)
  | [] => none
  | c :: cs =>
    if stop c then some ([], c, cs)
    else (cutAt? stop cs).map fun (before, found, after) => (c :: before, found, after)

/-- The text before the first separator and the text after it. -/
def splitOnce? (sep : Char) (s : String) : Option (String × String) :=
  (cutAt? (· == sep) s.toList).map fun (before, _, after) =>
    (String.ofList before, String.ofList after)

/-- The text before the first separator, or all of it. -/
def beforeFirst (sep : Char) (s : String) : String :=
  String.ofList (s.toList.takeWhile (· != sep))

/-- Whether a text begins with another. -/
def startsWith (s start : String) : Bool := start.toList.isPrefixOf s.toList

/-- Whether a text ends with another. -/
def endsWith (s ending : String) : Bool := ending.toList.isSuffixOf s.toList

/-- What follows `start` in a text that begins with it. -/
def dropStart? (start : List Char) (cs : List Char) : Option (List Char) :=
  match start, cs with
  | [], rest => some rest
  | s :: start, c :: cs => if s = c then dropStart? start cs else none
  | _ :: _, [] => none

/-- Whether a text holds another somewhere. -/
def holds (s part : String) : Bool := go part.toList s.toList
where
  go (part : List Char) : List Char → Bool
    | [] => part.isEmpty
    | c :: cs => part.isPrefixOf (c :: cs) || go part cs

/-- A text has at least one segment. -/
theorem splitChars_ne_nil (sep : Char) (cs : List Char) : splitChars sep cs ≠ [] := by
  cases cs with
  | nil => simp [splitChars]
  | cons c cs =>
    simp only [splitChars]
    split
    · simp
    · split <;> simp

/-- Joining the pieces of a text gives the text back. -/
theorem joinChars_splitChars (sep : Char) (cs : List Char) :
    joinChars sep (splitChars sep cs) = cs := by
  induction cs with
  | nil => rfl
  | cons c cs ih =>
    cases h : splitChars sep cs with
    | nil => exact absurd h (splitChars_ne_nil sep cs)
    | cons piece pieces =>
      rw [h] at ih
      by_cases hc : c = sep
      · simp [splitChars, hc, h, joinChars, ih]
      · cases pieces with
        | nil => simp_all [splitChars, joinChars]
        | cons next rest => simp_all [splitChars, joinChars]

/-- A cut text is what comes before, the character it was cut at, and what comes after. -/
theorem eq_of_cutAt? {stop : Char → Bool} {cs before after : List Char} {found : Char}
    (h : cutAt? stop cs = some (before, found, after)) : cs = before ++ found :: after := by
  induction cs generalizing before with
  | nil => simp [cutAt?] at h
  | cons c cs ih =>
    simp only [cutAt?] at h
    split at h
    · simp_all
    · obtain ⟨⟨inner, char, rest⟩, hcut, heq⟩ := Option.map_eq_some_iff.1 h
      simp only [Prod.mk.injEq] at heq
      obtain ⟨rfl, rfl, rfl⟩ := heq
      simp [ih hcut]

/-- What is cut off holds no character to cut at. -/
theorem cutAt?_before {stop : Char → Bool} {cs before after : List Char} {found : Char}
    (h : cutAt? stop cs = some (before, found, after)) :
    (∀ c ∈ before, stop c = false) ∧ stop found = true := by
  induction cs generalizing before with
  | nil => simp [cutAt?] at h
  | cons c cs ih =>
    simp only [cutAt?] at h
    split at h
    · rename_i hstop
      simp_all
    · rename_i hstop
      obtain ⟨⟨inner, char, rest⟩, hcut, heq⟩ := Option.map_eq_some_iff.mp h
      simp only [Prod.mk.injEq] at heq
      obtain ⟨rfl, rfl, rfl⟩ := heq
      obtain ⟨hinner, hfound⟩ := ih hcut
      exact ⟨List.forall_mem_cons.mpr ⟨by simpa using hstop, hinner⟩, hfound⟩

/-- A text without a character to cut at stays in one piece. -/
theorem cutAt?_eq_none {stop : Char → Bool} {cs : List Char} (h : ∀ c ∈ cs, stop c = false) :
    cutAt? stop cs = none := by
  induction cs with
  | nil => rfl
  | cons c cs ih =>
    rw [List.forall_mem_cons] at h
    rw [cutAt?, h.1, if_neg Bool.false_ne_true, ih h.2, Option.map_none]

/-- A text is cut at the first character to cut at. -/
theorem cutAt?_append {stop : Char → Bool} {before after : List Char} {found : Char}
    (hbefore : ∀ c ∈ before, stop c = false) (hfound : stop found = true) :
    cutAt? stop (before ++ found :: after) = some (before, found, after) := by
  induction before with
  | nil => simp [cutAt?, hfound]
  | cons c before ih =>
    rw [List.forall_mem_cons] at hbefore
    simp [cutAt?, hbefore.1, ih hbefore.2]

end CatalogRecords.Text
