import CatalogRecords.Proofs.Dictionary.Listings

/-!
# Completing the beginnings of terms

What a wildcard pattern means is said by one rule for each kind of character, and the matcher finds
exactly the texts that this meaning allows. Of the pattern that is made of a text only the percent
sign behind it is a wildcard, so that the terms that are listed for it are those that begin with the
text: character by character, with no difference made between the cases of Latin letters.
-/

namespace CatalogRecords

namespace Wildcard

/-- A text is one of those that a pattern stands for. -/
inductive Fits : (pattern : List Char) → List Char → Prop where
  | nil : Fits [] []
  | any {pattern cs : List Char} (skipped : List Char) (h : Fits pattern cs) :
    Fits ('%' :: pattern) (skipped ++ cs)
  | one {pattern cs : List Char} (c : Char) (h : Fits pattern cs) :
    Fits ('_' :: pattern) (c :: cs)
  | escaped {pattern cs : List Char} {p c : Char} (hc : p.toLower = c.toLower)
    (h : Fits pattern cs) : Fits ('\\' :: p :: pattern) (c :: cs)
  | itself {pattern cs : List Char} {p c : Char} (hp : isSpecial p = false)
    (hc : p.toLower = c.toLower) (h : Fits pattern cs) : Fits (p :: pattern) (c :: cs)

/-- The ends of a text are what is left of it behind some beginning. -/
theorem mem_suffixes_iff {cs rest : List Char} :
    rest ∈ suffixes cs ↔ ∃ skipped, cs = skipped ++ rest := by
  induction cs with
  | nil => simp [suffixes, eq_comm]
  | cons c cs ih =>
    rw [suffixes, List.mem_cons, ih]
    constructor
    · rintro (rfl | ⟨skipped, rfl⟩)
      · exact ⟨[], rfl⟩
      · exact ⟨c :: skipped, rfl⟩
    · rintro ⟨_ | ⟨first, skipped⟩, h⟩
      · exact Or.inl h.symm
      · exact Or.inr ⟨skipped, (List.cons.inj h).2⟩

/-- A text begins as wanted if it has a first character, that one is accepted, and the rest is. -/
theorem beginsWith_eq_true_iff {accepts : Char → Bool} {rest : List Char → Bool} {cs : List Char} :
    beginsWith accepts rest cs = true ↔
      ∃ c cs', cs = c :: cs' ∧ accepts c = true ∧ rest cs' = true := by
  cases cs with
  | nil => simp [beginsWith]
  | cons c cs => simp [beginsWith]

/-- Two characters are alike if they are the same without the case of the letters A to Z. -/
theorem sameLatin_iff {a b : Char} : Text.sameLatin a b = true ↔ a.toLower = b.toLower := by
  rw [Text.sameLatin, beq_iff_eq]

/-- A character that stands for itself is neither a wildcard nor the escape character. -/
theorem isSpecial_eq_false_iff {c : Char} :
    isSpecial c = false ↔ c ≠ '%' ∧ c ≠ '_' ∧ c ≠ '\\' := by
  simp [isSpecial, and_assoc]

/-- A backslash takes the character behind it for itself. -/
theorem fits_backslash_iff {pattern cs : List Char} : Fits ('\\' :: pattern) cs ↔
    ∃ p rest c cs', pattern = p :: rest ∧ cs = c :: cs' ∧ p.toLower = c.toLower ∧
      Fits rest cs' := by
  constructor
  · intro h
    cases h with
    | escaped hc h => exact ⟨_, _, _, _, rfl, rfl, hc, h⟩
    | itself hp => exact absurd hp (by decide)
  · rintro ⟨p, rest, c, cs', rfl, rfl, hc, h⟩
    exact .escaped hc h

/-- A `%` stands for any run of characters, so the rest of the pattern fits some end of the text. -/
theorem fits_percent_iff {pattern cs : List Char} :
    Fits ('%' :: pattern) cs ↔ ∃ rest ∈ suffixes cs, Fits pattern rest := by
  constructor
  · intro h
    cases h with
    | any skipped h => exact ⟨_, mem_suffixes_iff.mpr ⟨skipped, rfl⟩, h⟩
    | itself hp => exact absurd hp (by decide)
  · rintro ⟨rest, hrest, h⟩
    obtain ⟨skipped, rfl⟩ := mem_suffixes_iff.mp hrest
    exact .any skipped h

/-- A `_` stands for any one character. -/
theorem fits_underscore_iff {pattern cs : List Char} :
    Fits ('_' :: pattern) cs ↔ ∃ c cs', cs = c :: cs' ∧ Fits pattern cs' := by
  constructor
  · intro h
    cases h with
    | one c h => exact ⟨c, _, rfl, h⟩
    | itself hp => exact absurd hp (by decide)
  · rintro ⟨c, cs', rfl, h⟩
    exact .one c h

/-- A character with no other meaning stands for itself in either case. -/
theorem fits_itself_iff {pattern cs : List Char} {p : Char} (hp : isSpecial p = false) :
    Fits (p :: pattern) cs ↔
      ∃ c cs', cs = c :: cs' ∧ p.toLower = c.toLower ∧ Fits pattern cs' := by
  constructor
  · intro h
    cases h with
    | any | one | escaped => exact absurd hp (by decide)
    | itself _ hc h => exact ⟨_, _, rfl, hc, h⟩
  · rintro ⟨c, cs', rfl, hc, h⟩
    exact .itself hp hc h

/-- The matcher finds what the pattern stands for. -/
theorem matchesChars_iff_fits {pattern cs : List Char} :
    matchesChars pattern cs = true ↔ Fits pattern cs := by
  -- A backslash uses up two characters of the pattern, so the induction is on its length.
  induction hlength : pattern.length using Nat.strong_induction_on generalizing pattern cs with
  | _ n ih =>
    have hshorter (rest : List Char) (hrest : rest.length < n) (cs : List Char) :
        matchesChars rest cs = true ↔ Fits rest cs := ih rest.length hrest rfl
    rcases pattern with _ | ⟨p, pattern⟩
    · rw [matchesChars, List.isEmpty_iff]
      exact ⟨fun h => h ▸ .nil, fun h => by cases h; rfl⟩
    rw [List.length_cons] at hlength
    by_cases hbackslash : p = '\\'
    · subst hbackslash
      rw [fits_backslash_iff]
      rcases pattern with _ | ⟨p, pattern⟩
      · simp [matchesChars]
      · rw [List.length_cons] at hlength
        simp only [matchesChars, beginsWith_eq_true_iff, sameLatin_iff,
          hshorter pattern (by omega)]
        simp
    · have hrest := hshorter pattern (by omega)
      rw [matchesChars]
      · split_ifs with hpercent hunderscore
        · rw [hpercent, fits_percent_iff, List.any_eq_true]
          simp only [hrest]
        · rw [hunderscore, fits_underscore_iff, beginsWith_eq_true_iff]
          simp only [hrest, true_and]
        · rw [fits_itself_iff (isSpecial_eq_false_iff.mpr ⟨hpercent, hunderscore, hbackslash⟩),
            beginsWith_eq_true_iff]
          simp only [hrest, sameLatin_iff]
      · exact fun h => absurd h hbackslash
      · exact fun _ _ h => absurd h hbackslash

/-- A text begins with another one, whatever the case of Latin letters. -/
def BeginsAlike (start text : String) : Prop :=
  start.toList.map Char.toLower <+: text.toList.map Char.toLower

/-- Beginning alike is decided on the texts without their case. -/
instance (start text : String) : Decidable (BeginsAlike start text) :=
  inferInstanceAs (Decidable (_ <+: _))

example : BeginsAlike "A_" "a_b" ∧ ¬BeginsAlike "A_" "axb" := by decide +kernel

/-- Characters start alike if they do so without their case. -/
theorem startsAlike_iff {start cs : List Char} :
    startsAlike start cs = true ↔ start.map Char.toLower <+: cs.map Char.toLower := by
  induction start generalizing cs with
  | nil => simp [startsAlike]
  | cons s start ih =>
    rw [startsAlike, beginsWith_eq_true_iff]
    cases cs with
    | nil => simp
    | cons c cs =>
      simp [List.cons_prefix_cons, ih, sameLatin_iff]

/-- The pattern of a text stands for what begins with the text. -/
theorem fits_beginning_iff {start text : String} :
    Fits (beginning start) text.toList ↔ BeginsAlike start text := by
  rw [← matchesChars_iff_fits, matchesChars_beginning, startsAlike_iff, BeginsAlike]

/-- What is not its own lower case has a letter as that. -/
theorem toLower_eq_self_or_le (c : Char) :
    c.toLower = c ∨ 97 ≤ c.toLower.toNat ∧ c.toLower.toNat ≤ 122 := by
  by_cases hupper : 'A'.val ≤ c.val ∧ c.val ≤ 'Z'.val
  · right
    have hfirst : 65 ≤ c.val.toNat := hupper.1
    have hlast : c.val.toNat ≤ 90 := hupper.2
    have hdistance : ('a'.val - 'A'.val).toNat = 32 := rfl
    have hlower : c.toLower.toNat = (c.val + ('a'.val - 'A'.val)).toNat :=
      congrArg Char.toNat (dif_pos hupper)
    rw [hlower, UInt32.toNat_add, hdistance]
    omega
  · exact Or.inl (dif_neg hupper)

/-- A special character is no letter, so that only itself is like it. -/
theorem eq_of_toLower_eq_special {c d : Char} (hc : isSpecial c = true)
    (h : c.toLower = d.toLower) : d = c := by
  have hself : c.toLower = c ∧ c.toNat < 97 := by
    rw [isSpecial, Bool.or_eq_true, Bool.or_eq_true, beq_iff_eq, beq_iff_eq, beq_iff_eq] at hc
    rcases hc with (rfl | rfl) | rfl <;> decide
  rcases toLower_eq_self_or_le d with hd | hd
  · rw [← hd, ← h, hself.1]
  · rw [← h, hself.1] at hd
    omega

/-- What begins with a text has each special character of the text where the text has it. -/
theorem BeginsAlike.getElem?_special {start text : String} (h : BeginsAlike start text) {i : Nat}
    {c : Char} (hc : isSpecial c = true) (hi : start.toList[i]? = some c) :
    text.toList[i]? = some c := by
  obtain ⟨rest, hrest⟩ := h
  have hlower : (start.toList.map Char.toLower)[i]? = some c.toLower := by
    rw [List.getElem?_map, hi, Option.map_some]
  have hsame : (text.toList.map Char.toLower)[i]? = some c.toLower := by
    rw [← hrest, List.getElem?_append_left (List.getElem?_eq_some_iff.mp hlower).1, hlower]
  rw [List.getElem?_map, Option.map_eq_some_iff] at hsame
  obtain ⟨d, hd, hlike⟩ := hsame
  rw [hd, eq_of_toLower_eq_special hc hlike.symm]

end Wildcard

namespace TermTable

open Wildcard (BeginsAlike Fits)

/-- The entries listed for a start are those terms of the field that begin with it, in either
case. -/
theorem mem_terms_entries_iff {t : TermTable} {path term : String} {start : Option String} :
    term ∈ (t.entries path start).map TermEntry.term ↔
      t.contains path term = true ∧ ∀ s ∈ start, BeginsAlike s term := by
  rw [map_term_entries, TermMap.terms, Finset.mem_sort, Finset.mem_image, contains_eq,
    decide_eq_true_eq]
  simp only [Finset.mem_filter, Option.all_eq_true, Wildcard.startsAlike_iff]
  constructor
  · rintro ⟨key, ⟨hkey, rfl, hstart⟩, rfl⟩
    exact ⟨hkey, hstart⟩
  · rintro ⟨hkey, hstart⟩
    exact ⟨(path, term), ⟨hkey, rfl, hstart⟩, rfl⟩

/-- The terms that complete a text are those of the field that begin with it, whatever the case of
Latin letters, each once and in order; all terms of the field complete the empty text. Nothing in
the text is a wildcard: where it has a percent sign, an underscore or a backslash the terms have the
same, and the pattern that they are searched by stands for what begins with the text and for nothing
else. -/
theorem completion_is_literal (t : TermTable) (path start : String) :
    ((t.entries path (some start)).map TermEntry.term).Pairwise (· < ·) ∧
    (∀ term, term ∈ (t.entries path (some start)).map TermEntry.term ↔
      t.contains path term = true ∧ BeginsAlike start term) ∧
    t.entries path (some "") = t.entries path none ∧
    (∀ entry ∈ t.entries path (some start), ∀ (i : Nat) (c : Char), Wildcard.isSpecial c = true →
      start.toList[i]? = some c → entry.term.toList[i]? = some c) ∧
    ∀ text : String, Fits (Wildcard.beginning start) text.toList ↔ BeginsAlike start text := by
  refine ⟨?_, fun term => ?_, ?_, fun entry hentry i c hc hi => ?_,
    fun text => Wildcard.fits_beginning_iff⟩
  · rw [map_term_entries]
    exact (Finset.sortedLT_sort _).pairwise
  · rw [mem_terms_entries_iff]
    simp
  · rw [entries_eq, entries_eq, TermMap.entries, TermMap.entries, TermMap.terms, TermMap.terms]
    simp [Wildcard.startsAlike]
  · have hlisted := mem_terms_entries_iff.mp (List.mem_map_of_mem (f := TermEntry.term) hentry)
    exact (hlisted.2 start rfl).getElem?_special hc hi

end TermTable

end CatalogRecords
