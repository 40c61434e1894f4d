import CatalogRecords.Proofs.Pattern.Reading

/-!
# Where groups end

A group is read piece by piece up to a closing parenthesis or the end of the pattern. What is read
of it is the same whichever of the two comes, and whatever stands behind a parenthesis; and of the
steps that bound the reading no more are needed than there are characters.
-/

namespace CatalogRecords.Pattern

open Text (drop_length_takeWhile exists_cut takeWhile_append_of_head dropWhile_append_of_head)

/-! The flags and the name of a group. -/

/-- What a letter does to flags, and whether those after it are turned off. -/
def setFlag? (flags : Flags) (negated : Bool) : Char → Option (Flags × Bool)
  | '-' => some (flags, true)
  | 'i' => some ({ flags with foldCase := !negated }, negated)
  | 'm' => some ({ flags with multiLine := !negated }, negated)
  | 's' => some ({ flags with dotAll := !negated }, negated)
  | 'U' => some ({ flags with swapGreed := !negated }, negated)
  | 'u' => if negated then none else some (flags, negated)
  | _ => none

/-- Flags are read letter by letter: the last character ends them, no letter comes twice, and each
changes them in its way. -/
theorem readFlags?_cons (flags : Flags) (negated : Bool) (seen : List Char) (c : Char)
    (rest : List Char) : readFlags? flags negated seen (c :: rest) =
      if c = ':' ∨ c = ')' then
        if seen.head? = some '-' then none else some (flags, seen, c, rest)
      else if seen.contains c then none
      else (setFlag? flags negated c).bind fun set => readFlags? set.1 set.2 (c :: seen) rest := by
  rw [readFlags?.eq_def]
  refine if_congr Iff.rfl rfl (if_congr Iff.rfl rfl ?_)
  split
  case h_6 => cases negated <;> rfl
  case h_7 hminus hi hm hs hU hu => rw [setFlag?.eq_7 _ _ _ hminus hi hm hs hU hu, Option.bind_none]
  all_goals rfl

/-- Flags are read up to their last character, and what is behind it has no part in them. -/
theorem exists_eq_of_readFlags? {flags flags' : Flags} {negated : Bool}
    {seen seen' cs rest : List Char} {last : Char}
    (h : readFlags? flags negated seen cs = some (flags', seen', last, rest)) :
    ∃ taken, cs = taken ++ rest ∧ ∀ rest',
      readFlags? flags negated seen (taken ++ rest') = some (flags', seen', last, rest') := by
  induction cs generalizing flags negated seen with
  | nil => cases h
  | cons c cs ih =>
    rw [readFlags?_cons] at h
    split_ifs at h with hlast hminus hseen
    · cases h
      refine ⟨[last], rfl, fun rest' => ?_⟩
      rw [List.singleton_append, readFlags?_cons, if_pos hlast, if_neg hminus]
    · obtain ⟨set, hset, h⟩ := Option.bind_eq_some_iff.mp h
      obtain ⟨taken, rfl, htaken⟩ := ih h
      refine ⟨c :: taken, rfl, fun rest' => ?_⟩
      rw [List.cons_append, readFlags?_cons, if_neg hlast, if_neg hseen, hset, Option.bind_some,
        htaken]

/-- The name of a group is read up to its closing angle, and what is behind that has no part
in it. -/
theorem isLocal_readGroupName? : IsLocal AnyTwo readGroupName? := by
  intro cs name rest h
  obtain ⟨chars, after, rfl, hall, hhead⟩ := exists_cut (· != '>') cs
  unfold readGroupName? at h
  dsimp only at h
  rw [drop_length_takeWhile, takeWhile_append_of_head hall hhead,
    dropWhile_append_of_head hall hhead] at h
  split at h
  · rename_i first others after
    split_ifs at h with hname
    cases h
    refine ⟨first :: others ++ ['>'], by simp, fun rest' _ => ?_⟩
    have hhead' : ∀ c ∈ ('>' :: rest').head?, (c != '>') = false := hhead
    rw [List.append_assoc, List.singleton_append, readGroupName?, drop_length_takeWhile,
      takeWhile_append_of_head hall hhead', dropWhile_append_of_head hall hhead']
    exact if_pos hname
  · cases h

/-! Repetitions. -/

/-- The first character of a text with a given character in it does not depend on what is behind
that character. -/
theorem head?_append_cons (taken : List Char) (c : Char) (rest rest' : List Char) :
    (taken ++ c :: rest).head? = (taken ++ c :: rest').head? := by
  cases taken <;> rfl

/-- A number is read with the blanks around it, up to the first other character. -/
theorem readCount_append {before digits after rest : List Char}
    (hbefore : ∀ d ∈ before, Text.isBlank d = true)
    (hfirst : ∀ d ∈ (digits ++ (after ++ rest)).head?, Text.isBlank d = false)
    (hdigits : ∀ d ∈ digits, d.isDigit = true)
    (hsecond : ∀ d ∈ (after ++ rest).head?, d.isDigit = false)
    (hafter : ∀ d ∈ after, Text.isBlank d = true)
    (hrest : ∀ d ∈ rest.head?, Text.isBlank d = false) :
    readCount (before ++ (digits ++ (after ++ rest))) =
      (if digits.isEmpty then none else some (Number.digitsValue 0 digits), rest) := by
  rw [readCount, dropWhile_append_of_head hbefore hfirst, dropWhile_append_of_head hdigits hsecond,
    takeWhile_append_of_head hdigits hsecond, dropWhile_append_of_head hafter hrest]
  split <;> rfl

/-- A number is read alike before any text that begins with the same character. -/
theorem exists_eq_of_readCount {cs rest : List Char} {n : Option Nat} {c : Char}
    (h : readCount cs = (n, c :: rest)) : ∃ taken, cs = taken ++ c :: rest ∧
      ∀ rest', readCount (taken ++ c :: rest') = (n, c :: rest') := by
  obtain ⟨before, fromDigits, rfl, hbefore, hfirst⟩ := exists_cut Text.isBlank cs
  obtain ⟨digits, fromAfter, rfl, hdigits, hsecond⟩ := exists_cut Char.isDigit fromDigits
  obtain ⟨after, last, rfl, hafter, hlast⟩ := exists_cut Text.isBlank fromAfter
  rw [readCount_append hbefore hfirst hdigits hsecond hafter hlast] at h
  obtain ⟨hn, rfl⟩ := Prod.mk.inj h
  refine ⟨before ++ (digits ++ after), by simp, fun rest' => ?_⟩
  rw [← List.append_assoc, head?_append_cons _ _ _ rest', List.append_assoc] at hfirst
  rw [head?_append_cons _ _ _ rest'] at hsecond
  rw [List.append_assoc, List.append_assoc,
    readCount_append hbefore hfirst hdigits hsecond hafter hlast, hn]

/-- After a comma with no closing brace behind it, the greatest number is read. -/
theorem readBounds?_of_comma {cs rest : List Char} {least : Nat}
    (h : readCount cs = (some least, ',' :: rest)) (hclose : ∀ after, rest ≠ '\x7d' :: after) :
    readBounds? cs = match readCount rest with
      | (some most, '\x7d' :: rest) =>
        if least ≤ most then some (least, some most, rest) else none
      | _ => none := by
  rw [readBounds?, h]
  split
  case h_1 heq => cases heq
  case h_2 heq =>
    cases heq
    exact (hclose _ rfl).elim
  case h_3 heq =>
    cases heq
    rfl
  case h_4 hcomma => exact (hcomma _ _ rfl).elim

/-- Bounds are read up to their closing brace, and what is behind that has no part in them. -/
theorem exists_eq_of_readBounds? {cs rest : List Char} {least : Nat} {most : Option Nat}
    (h : readBounds? cs = some (least, most, rest)) : ∃ taken, cs = taken ++ rest ∧
      ∀ rest', readBounds? (taken ++ rest') = some (least, most, rest') := by
  unfold readBounds? at h
  split at h
  case h_1 exact after hcount =>
    cases h
    obtain ⟨taken, rfl, htaken⟩ := exists_eq_of_readCount hcount
    refine ⟨taken ++ ['\x7d'], by simp, fun rest' => ?_⟩
    rw [List.append_assoc, List.singleton_append, readBounds?, htaken rest']
    rfl
  case h_2 first after hcount =>
    cases h
    obtain ⟨taken, rfl, htaken⟩ := exists_eq_of_readCount hcount
    refine ⟨taken ++ [',', '\x7d'], by simp, fun rest' => ?_⟩
    rw [List.append_assoc, List.cons_append, List.singleton_append, readBounds?, htaken]
    rfl
  case h_3 first after hclose hcount =>
    obtain ⟨taken, rfl, htaken⟩ := exists_eq_of_readCount hcount
    split at h
    · rename_i bound last hbound
      split_ifs at h with hle
      cases h
      obtain ⟨number, rfl, hnumber⟩ := exists_eq_of_readCount hbound
      refine ⟨taken ++ ',' :: (number ++ ['\x7d']), by simp, fun rest' => ?_⟩
      -- the number begins with the same character whatever follows it, so no brace closes first
      have hclose' := not_cons_of_head?_eq (head?_append_cons number '\x7d' rest rest') hclose
      simp only [List.append_assoc, List.cons_append, List.nil_append]
      rw [readBounds?_of_comma (htaken _) hclose', hnumber]
      exact if_pos hle
    · cases h
  case h_4 => cases h

/-- A repetition looks at the next character only, for a question mark, and none is at the end of a
group. -/
theorem isLocal_repeatLast (g : GroupRead) (least : Nat) (most : Option Nat) :
    IsLocal (Alike EndsGroup) (g.repeatLast least most) := by
  intro cs g' rest h
  unfold GroupRead.repeatLast at h
  split at h
  · rename_i a weight pieces hpieces
    split at h
    rename_i reluctant after hmark
    dsimp only at h
    split_ifs at h with hweight
    cases h
    split at hmark
    · cases hmark
      refine takes_char fun rest' _ => ?_
      simp only [GroupRead.repeatLast, hpieces, if_neg hweight]
    · rename_i hplain
      cases hmark
      refine ⟨[], rfl, fun rest' hrest => ?_⟩
      have hplain' := hrest.not_cons (not_endsGroup (by decide)) hplain
      unfold GroupRead.repeatLast
      simp only [List.nil_append, hpieces, if_neg hweight]
  · cases h

/-! The start of a group. -/

/-- The start of a group is read alike before texts that are alike up to the end of a group. -/
theorem isLocal_readGroupStart? (flags : Flags) :
    IsLocal (Alike EndsGroup) (readGroupStart? flags) := by
  intro cs start rest h
  unfold readGroupStart? at h
  split at h
  case h_1 text =>
    obtain ⟨⟨name, after⟩, hname, h⟩ := Option.map_eq_some_iff.mp h
    cases h
    obtain ⟨taken, rfl, htaken⟩ := isLocal_readGroupName? _ _ _ hname
    refine ⟨'?' :: 'P' :: '<' :: taken, rfl, fun rest' _ => ?_⟩
    simp only [List.cons_append, readGroupStart?, htaken rest' trivial, Option.map_some]
  case h_2 text =>
    obtain ⟨⟨name, after⟩, hname, h⟩ := Option.map_eq_some_iff.mp h
    cases h
    obtain ⟨taken, rfl, htaken⟩ := isLocal_readGroupName? _ _ _ hname
    refine ⟨'?' :: '<' :: taken, rfl, fun rest' _ => ?_⟩
    simp only [List.cons_append, readGroupStart?, htaken rest' trivial, Option.map_some]
  case h_3 text hnamed hangle =>
    obtain ⟨⟨flags', seen, last, after⟩, hflags, hstart⟩ := Option.bind_eq_some_iff.mp h
    obtain ⟨taken, rfl, htaken⟩ := exists_eq_of_readFlags? hflags
    obtain ⟨hrest, hsame⟩ : after = rest ∧ ∀ rest',
        (if last = ':' then some (GroupStart.group flags' none, rest')
          else if seen.isEmpty then none else some (.flags flags', rest')) =
            some (start, rest') := by
      dsimp only at hstart
      split_ifs at hstart ⊢ <;> cases hstart <;> exact ⟨rfl, fun _ => rfl⟩
    subst hrest
    refine ⟨'?' :: taken, rfl, fun rest' hrest => ?_⟩
    have halike := hrest.append taken
    rw [List.cons_append, readGroupStart?.eq_3 _ _
      (halike.not_cons_cons (not_endsGroup (by decide)) (not_endsGroup (by decide)) hnamed)
      (halike.not_cons (not_endsGroup (by decide)) hangle), htaken]
    exact hsame rest'
  case h_4 hnamed hangle hmark =>
    cases h
    refine ⟨[], rfl, fun rest' hrest => ?_⟩
    have hmark' := hrest.not_cons (not_endsGroup (by decide)) hmark
    exact readGroupStart?.eq_4 flags rest' (fun _ h => hmark' _ h) (fun _ h => hmark' _ h) hmark'

/-! The pieces of a group. -/

/-- A reader that depends on no rest depends on less than any relation of rests allows. -/
theorem IsLocal.of_anyTwo {α : Type} {R : List Char → List Char → Prop}
    {read : List Char → Option (α × List Char)} (h : IsLocal AnyTwo read) : IsLocal R read := by
  intro cs x rest hread
  obtain ⟨taken, hcs, htaken⟩ := h cs x rest hread
  exact ⟨taken, hcs, fun rest' _ => htaken rest' trivial⟩

/-- The bounds of a repetition and the mark after them. -/
def repeatBounded (g : GroupRead) (cs : List Char) : Option (GroupRead × List Char) :=
  (readBounds? cs).bind fun (least, most, rest) => g.repeatLast least most rest

/-- A repetition with bounds is read up to its brace, and looks at the character behind that. -/
theorem isLocal_repeatBounded (g : GroupRead) : IsLocal (Alike EndsGroup) (repeatBounded g) := by
  intro cs g' rest h
  obtain ⟨⟨least, most, middle⟩, hbounds, hrepeat⟩ := Option.bind_eq_some_iff.mp h
  obtain ⟨bounds, rfl, htaken⟩ := exists_eq_of_readBounds? hbounds
  obtain ⟨mark, rfl, hmark⟩ := isLocal_repeatLast g least most _ _ _ hrepeat
  refine ⟨bounds ++ mark, (List.append_assoc _ _ _).symm, fun rest' hrest => ?_⟩
  rw [List.append_assoc, repeatBounded, htaken, Option.bind_some]
  exact hmark rest' hrest

/-- A group is taken up to where it ends, with any number of steps that is enough. -/
def TakesGroup (g : GroupRead) (cs : List Char) (g' : GroupRead) (rest : List Char) : Prop :=
  EndsGroup rest ∧ ∃ taken, cs = taken ++ rest ∧ ∀ rest' enough, EndsGroup rest' →
    (taken ++ rest').length < enough → readGroup enough g (taken ++ rest') = some (g', rest')

/-- At the end of a group nothing more is taken. -/
theorem TakesGroup.nil (g : GroupRead) {rest : List Char} (hrest : EndsGroup rest) :
    TakesGroup g rest g rest := by
  refine ⟨hrest, [], rfl, fun rest' enough hends henough => ?_⟩
  obtain ⟨steps, rfl⟩ := Nat.exists_eq_succ_of_ne_zero (Nat.ne_zero_of_lt henough)
  cases rest' with
  | nil => rfl
  | cons c rest' =>
    cases hends c rfl
    rfl

/-- A character and what is read after it are taken before the rest of the group. -/
theorem TakesGroup.step {α : Type} {g next g' : GroupRead} {c : Char} {x : α}
    {read : List Char → Option (α × List Char)} {text middle rest : List Char}
    (h : TakesGroup next middle g' rest) (hlocal : IsLocal (Alike EndsGroup) read)
    (hread : read text = some (x, middle))
    (hstep : ∀ steps cs after, read cs = some (x, after) →
      readGroup (steps + 1) g (c :: cs) = readGroup steps next after) :
    TakesGroup g (c :: text) g' rest := by
  obtain ⟨hrest, taken, rfl, htaken⟩ := h
  obtain ⟨first, rfl, hfirst⟩ := hlocal _ _ _ hread
  refine ⟨hrest, c :: (first ++ taken), by simp, fun rest' enough hends henough => ?_⟩
  obtain ⟨steps, rfl⟩ := Nat.exists_eq_succ_of_ne_zero (Nat.ne_zero_of_lt henough)
  have hends' : Alike EndsGroup rest rest' := .ends hrest hends
  rw [List.cons_append, List.append_assoc, hstep _ _ _ (hfirst _ (hends'.append taken))]
  refine htaken rest' steps hends ?_
  simp only [List.cons_append, List.length_cons, List.length_append] at henough ⊢
  omega

/-- What a reader takes after a character is followed by the rest of the group. -/
theorem TakesGroup.read {α : Type} {g g' : GroupRead} {c : Char} {steps : Nat}
    {read : List Char → Option (α × List Char)} {text rest : List Char} (next : α → GroupRead)
    (ih : ∀ {g : GroupRead} {cs : List Char},
      readGroup steps g cs = some (g', rest) → TakesGroup g cs g' rest)
    (h : ((read text).bind fun taken => readGroup steps (next taken.1) taken.2) = some (g', rest))
    (hlocal : IsLocal (Alike EndsGroup) read)
    (hread : ∀ steps cs, readGroup (steps + 1) g (c :: cs) =
      (read cs).bind fun taken => readGroup steps (next taken.1) taken.2) :
    TakesGroup g (c :: text) g' rest := by
  obtain ⟨⟨x, middle⟩, htaken, hgroup⟩ := Option.bind_eq_some_iff.mp h
  refine (ih hgroup).step hlocal htaken fun steps cs after hcs => ?_
  rw [hread, hcs, Option.bind_some]

/-- A group inside the group is taken with its parentheses. -/
theorem TakesGroup.group {g inner g' next : GroupRead} {flags : Flags} {name : Option String}
    {text middle after rest : List Char} (h : TakesGroup next after g' rest)
    (hstart : readGroupStart? g.flags text = some (.group flags name, middle))
    (hname : ¬name.any g.names.contains = true)
    (hinner : TakesGroup ⟨flags, [], [], name.toList ++ g.names⟩ middle inner (')' :: after))
    (hnext : next = ({ g with names := inner.names }.push inner.finish.1 (inner.finish.2 + 80))) :
    TakesGroup g ('(' :: text) g' rest := by
  obtain ⟨hrest, taken, rfl, htaken⟩ := h
  obtain ⟨-, inside, rfl, hinside⟩ := hinner
  obtain ⟨first, rfl, hfirst⟩ := isLocal_readGroupStart? _ _ _ _ hstart
  refine ⟨hrest, '(' :: (first ++ (inside ++ ')' :: taken)), by simp, ?_⟩
  intro rest' enough hends henough
  obtain ⟨steps, rfl⟩ := Nat.exists_eq_succ_of_ne_zero (Nat.ne_zero_of_lt henough)
  have hlength : first.length + (inside.length + (taken.length + rest'.length)) + 2 ≤ steps := by
    simp only [List.cons_append, List.length_cons, List.length_append] at henough
    omega
  have halike : Alike EndsGroup (')' :: (taken ++ rest)) (')' :: (taken ++ rest')) :=
    .ends (endsGroup_close _) (endsGroup_close _)
  simp only [List.cons_append, List.append_assoc]
  rw [readGroup, hfirst _ (halike.append inside), Option.bind_eq_bind, Option.bind_some]
  dsimp only
  rw [if_neg hname, hinside _ steps (endsGroup_close _) (by
    simp only [List.length_cons, List.length_append]; omega), Option.bind_eq_bind, Option.bind_some]
  subst hnext
  exact htaken rest' steps hends (by simp only [List.length_append]; omega)

/-- Reading nothing depends on nothing. -/
theorem isLocal_nothing : IsLocal AnyTwo fun cs => some ((), cs) := by
  rintro cs x rest ⟨⟩
  exact ⟨[], rfl, fun _ _ => rfl⟩

/-- The steps of reading a group lead to its end, each from a start of the text that the rest has no
part in. -/
theorem takesGroup_of_readGroup {steps : Nat} {g g' : GroupRead} {cs rest : List Char}
    (h : readGroup steps g cs = some (g', rest)) : TakesGroup g cs g' rest := by
  induction steps generalizing g g' cs rest with
  | zero => cases h
  | succ steps ih =>
    unfold readGroup at h
    split at h
    case h_1 =>
      cases h
      exact .nil g nofun
    case h_2 =>
      cases h
      exact .nil g (endsGroup_close _)
    case h_3 =>
      exact (ih h).step isLocal_nothing.of_anyTwo rfl fun _ _ _ hread => by cases hread; rfl
    case h_4 text =>
      obtain ⟨⟨start, middle⟩, hstart, hgroup⟩ := Option.bind_eq_some_iff.mp h
      cases start with
      | flags flags =>
        exact (ih hgroup).step (isLocal_readGroupStart? g.flags) hstart fun _ _ _ hread => by
          rw [readGroup, hread]
          rfl
      | group flags name =>
        dsimp only at hgroup
        split_ifs at hgroup with hname
        obtain ⟨⟨inner, after⟩, hinner, hgroup⟩ := Option.bind_eq_some_iff.mp hgroup
        split at hgroup
        · rename_i closed after heq
          cases heq
          exact (ih hgroup).group hstart hname (ih hinner) rfl
        · cases hgroup
    case h_5 =>
      exact .read (fun s => g.push (.set s) s.weight) ih h (isLocal_readClass? _).of_anyTwo
        fun _ _ => rfl
    case h_6 => exact .read id ih h (isLocal_repeatLast g 0 none) fun _ _ => rfl
    case h_7 => exact .read id ih h (isLocal_repeatLast g 1 none) fun _ _ => rfl
    case h_8 => exact .read id ih h (isLocal_repeatLast g 0 (some 1)) fun _ _ => rfl
    case h_9 =>
      exact .read id ih ((Option.bind_assoc _ _ _).trans h) (isLocal_repeatBounded g)
        fun _ _ => (Option.bind_assoc _ _ _).symm
    case h_10 => exact .read g.pushPrimitive ih h isLocal_readEscape?.of_anyTwo fun _ _ => rfl
    case h_11 c text h₁ h₂ h₃ h₄ h₅ h₆ h₇ h₈ h₉ =>
      refine (ih h).step isLocal_nothing.of_anyTwo rfl fun steps cs after hread => ?_
      cases hread
      exact readGroup.eq_12 g steps c cs h₁ h₂ h₃ h₄ h₅ h₆ h₇ h₈ h₉

end CatalogRecords.Pattern
