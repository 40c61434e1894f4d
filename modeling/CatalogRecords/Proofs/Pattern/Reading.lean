import CatalogRecords.Pattern.Reader
import CatalogRecords.Proofs.Text.Cuts
import Mathlib.Tactic.SplitIfs

/-!
# What reading depends on

Each reader takes the start of a text, and what it makes of it depends on nothing else, or on no
more than how the rest begins. A class ends at its own bracket, whatever comes after it, and a group
is read alike before a closing parenthesis and at the end of the pattern. Nothing here is about what
is read; it says that a piece of a pattern can be lifted out of its surroundings.
-/

namespace CatalogRecords.Pattern

open Text (drop_length_takeWhile exists_cut takeWhile_append_of_head dropWhile_append_of_head)

/-! Texts that are the same up to where both end. -/

/-- Two texts are the same up to a place where both end. -/
inductive Alike (Ends : List Char → Prop) : List Char → List Char → Prop
  | ends {u v : List Char} (hu : Ends u) (hv : Ends v) : Alike Ends u v
  | cons (c : Char) {u v : List Char} (h : Alike Ends u v) : Alike Ends (c :: u) (c :: v)

/-- A group ends at a closing parenthesis or with the pattern. -/
def EndsGroup (cs : List Char) : Prop := ∀ c ∈ cs.head?, c = ')'

/-- A class ends at a closing bracket. -/
def EndsClass (cs : List Char) : Prop := cs.head? = some ']'

namespace Alike

variable {Ends : List Char → Prop} {u v : List Char} {c : Char}

/-- The same characters in front leave texts alike. -/
theorem append (taken : List Char) (h : Alike Ends u v) : Alike Ends (taken ++ u) (taken ++ v) := by
  induction taken with
  | nil => exact h
  | cons c taken ih => exact ih.cons c

/-- Of texts that are alike neither comes first. -/
theorem symm (h : Alike Ends u v) : Alike Ends v u := by
  induction h with
  | ends hu hv => exact .ends hv hu
  | cons c _ ih => exact ih.cons c

/-- A character that does not end a text is in the other one as well. -/
theorem of_cons (h : Alike Ends (c :: u) v) (hc : ¬Ends (c :: u)) :
    ∃ v', v = c :: v' ∧ Alike Ends u v' := by
  cases h with
  | ends hu _ => exact absurd hu hc
  | cons _ h => exact ⟨_, rfl, h⟩

/-- A character that ends no text is in both texts or in neither. -/
theorem not_cons (h : Alike Ends u v) (hc : ∀ w, ¬Ends (c :: w)) (hu : ∀ w, u = c :: w → False) :
    ∀ w, v = c :: w → False := by
  rintro w rfl
  obtain ⟨w', rfl, -⟩ := h.symm.of_cons (hc w)
  exact hu w' rfl

/-- Two characters that end no text are at the start of both texts or of neither. -/
theorem not_cons_cons {d : Char} (h : Alike Ends u v) (hc : ∀ w, ¬Ends (c :: w))
    (hd : ∀ w, ¬Ends (d :: w)) (hu : ∀ w, u = c :: d :: w → False) :
    ∀ w, v = c :: d :: w → False := by
  rintro w rfl
  obtain ⟨w', rfl, hw⟩ := h.symm.of_cons (hc _)
  exact hw.symm.not_cons hd (fun w'' hw'' => hu w'' (hw'' ▸ rfl)) w rfl

end Alike

/-- What is alike up to the end of a class begins in the same way. -/
theorem Alike.head?_eq {u v : List Char} (h : Alike EndsClass u v) : u.head? = v.head? := by
  cases h with
  | ends hu hv => exact hu.trans hv.symm
  | cons c h => rfl

/-- Texts with the same first character begin with a given one both or neither. -/
theorem not_cons_of_head?_eq {u v : List Char} {c : Char} (h : u.head? = v.head?)
    (hu : ∀ w, u = c :: w → False) : ∀ w, v = c :: w → False := by
  rintro w rfl
  obtain ⟨w', hw'⟩ := List.head?_eq_some_iff.mp h
  exact hu w' hw'

/-- A closing parenthesis ends a group. -/
theorem endsGroup_close (cs : List Char) : EndsGroup (')' :: cs) := by
  rintro c ⟨⟩
  rfl

/-- No character but a closing parenthesis ends a group. -/
theorem not_endsGroup {c : Char} (hc : c ≠ ')') (u : List Char) : ¬EndsGroup (c :: u) :=
  fun h => hc (h c rfl)

/-- No character but a closing bracket ends a class. -/
theorem not_endsClass {c : Char} (hc : c ≠ ']') (u : List Char) : ¬EndsClass (c :: u) :=
  fun h => hc (Option.some.inj h)

/-! Readers. -/

section

variable {α β : Type} {R S : List Char → List Char → Prop}
  {read : List Char → Option (α × List Char)} {cs rest : List Char} {x : α}

/-- A reader takes the start of a text, and takes the same before any rest that is related to the
one it leaves. -/
def Takes (R : List Char → List Char → Prop) (read : List Char → Option (α × List Char))
    (cs : List Char) (x : α) (rest : List Char) : Prop :=
  ∃ taken, cs = taken ++ rest ∧ ∀ rest', R rest rest' → read (taken ++ rest') = some (x, rest')

/-- A reader depends on nothing but what it takes and what relates rests. -/
def IsLocal (R : List Char → List Char → Prop) (read : List Char → Option (α × List Char)) : Prop :=
  ∀ cs x rest, read cs = some (x, rest) → Takes R read cs x rest

/-- Any two texts. -/
def AnyTwo (_ _ : List Char) : Prop := True

/-- One character is taken, whatever follows. -/
theorem takes_char {c : Char} (h : ∀ rest', R rest rest' → read (c :: rest') = some (x, rest')) :
    Takes R read (c :: rest) x rest := ⟨[c], rfl, h⟩

end

/-! Escapes. -/

/-- The code of a character is read up to its last digit or its brace, and what follows has no part
in it. -/
theorem isLocal_readCode? {count : Nat} (hcount : 0 < count) :
    IsLocal AnyTwo (readCode? count) := by
  intro cs x rest h
  unfold readCode? at h
  split at h
  · rename_i text
    obtain ⟨digits, after, rfl, hall, hd⟩ := exists_cut (· != '\x7d') text
    dsimp only at h
    rw [drop_length_takeWhile, takeWhile_append_of_head hall hd,
      dropWhile_append_of_head hall hd] at h
    split at h
    · cases h
    · rename_i d after
      obtain ⟨n, hn, h⟩ := Option.bind_eq_some_iff.mp h
      obtain ⟨c, hc, h⟩ := Option.bind_eq_some_iff.mp h
      cases h
      refine ⟨'\x7b' :: (digits ++ [d]), by simp, fun rest' _ => ?_⟩
      have hhead : ∀ c ∈ (d :: rest').head?, (c != '\x7d') = false := hd
      rw [List.cons_append, List.append_assoc, List.singleton_append, readCode?,
        drop_length_takeWhile, takeWhile_append_of_head hall hhead,
        dropWhile_append_of_head hall hhead]
      simp only [hn, hc, Option.bind_eq_bind, Option.bind_some]
  · rename_i hbrace
    split_ifs at h with hshort
    obtain ⟨n, hn, h⟩ := Option.bind_eq_some_iff.mp h
    obtain ⟨c, hc, h⟩ := Option.bind_eq_some_iff.mp h
    cases h
    refine ⟨cs.take count, (List.take_append_drop _ _).symm, fun rest' _ => ?_⟩
    have hlength : (cs.take count).length = count :=
      Nat.le_antisymm (List.length_take_le _ _) (Nat.le_of_not_lt hshort)
    have hbrace' : ∀ text, cs.take count ++ rest' = '\x7b' :: text → False := by
      intro text htext
      obtain ⟨n, rfl⟩ := Nat.exists_eq_succ_of_ne_zero (Nat.ne_of_gt hcount)
      cases cs with
      | nil => cases hlength
      | cons d cs => exact hbrace cs (congrArg (· :: cs) (List.cons.inj htext).1)
    rw [readCode?.eq_2 _ _ hbrace', List.take_left' hlength, List.drop_left' hlength,
      if_neg hshort]
    simp only [hn, hc, Option.bind_eq_bind, Option.bind_some]

/-- An escape is read by its letter, and by a code after some letters. -/
theorem isLocal_readEscape? : IsLocal AnyTwo readEscape? := by
  intro cs x rest h
  have hcode {count : Nat} {text : List Char} {letter : Char} (hcount : 0 < count)
      (hread : ∀ cs, readEscape? (letter :: cs) =
        (readCode? count cs).map fun read => (.char read.1, read.2))
      (h : (readCode? count text).map (fun read => (Primitive.char read.1, read.2)) =
        some (x, rest)) :
      Takes AnyTwo readEscape? (letter :: text) x rest := by
    obtain ⟨⟨c, after⟩, hc, h⟩ := Option.map_eq_some_iff.mp h
    cases h
    obtain ⟨taken, rfl, htaken⟩ := isLocal_readCode? hcount _ _ _ hc
    refine ⟨letter :: taken, rfl, fun rest' hrest => ?_⟩
    rw [List.cons_append, hread, htaken rest' hrest]
    rfl
  unfold readEscape? at h
  split at h
  case h_1 => cases h
  case h_8 => exact hcode (by decide) (fun _ => rfl) h
  case h_9 => exact hcode (by decide) (fun _ => rfl) h
  case h_10 => exact hcode (by decide) (fun _ => rfl) h
  case h_23 =>
    split_ifs at h with hc
    cases h
    refine takes_char fun rest' _ => ?_
    rw [readEscape?, if_pos hc]
    all_goals assumption
  all_goals
    cases h
    exact takes_char fun _ _ => rfl

/-! Classes. -/

/-- An item of a class is one character or one escape. -/
theorem isLocal_readClassItem? : IsLocal AnyTwo readClassItem? := by
  intro cs x rest h
  unfold readClassItem? at h
  split at h
  · cases h
  · obtain ⟨taken, rfl, htaken⟩ := isLocal_readEscape? _ _ _ h
    exact ⟨'\\' :: taken, rfl, htaken⟩
  · rename_i c text hescape
    cases h
    exact takes_char fun rest' _ => readClassItem?.eq_3 c rest' hescape

/-- Reading an item of a class takes a character at least. -/
theorem length_readClassItem? {cs rest : List Char} {x : Primitive}
    (h : readClassItem? cs = some (x, rest)) : rest.length < cs.length := by
  unfold readClassItem? at h
  split at h
  · cases h
  · obtain ⟨taken, rfl, -⟩ := isLocal_readEscape? _ _ _ h
    simp only [List.length_cons, List.length_append]
    omega
  · cases h
    exact Nat.lt_succ_self _

/-- What an item of a class stands for by itself. -/
def Primitive.alone? : Primitive → Option CharSet
  | .char c => some (.single c)
  | .set s => some s
  | .anchor _ => none

/-- A range goes on with a hyphen, unless another one or the end of the class follows. -/
def GoesOnAsRange (cs : List Char) : Prop :=
  ∃ text, cs = '-' :: text ∧ text.head? ≠ some ']' ∧ text.head? ≠ some '-'

/-- What is read inside a class is an item alone or the characters of a range. -/
theorem readClassRange?_eq_some_iff {cs rest : List Char} {s : CharSet} :
    readClassRange? cs = some (s, rest) ↔
      ∃ first middle, readClassItem? cs = some (first, middle) ∧
        (middle ≠ [] ∧ ¬GoesOnAsRange middle ∧ first.alone? = some s ∧ rest = middle ∨
          GoesOnAsRange middle ∧ ∃ a b, first = .char a ∧
            readClassItem? middle.tail = some (.char b, rest) ∧ a ≤ b ∧
            s = .range a.toNat b.toNat) := by
  have halone (first : Primitive) (middle : List Char) (hne : middle ≠ [])
      (hstop : ¬GoesOnAsRange middle) : (match first with
        | .char c => some (.single c, middle)
        | .set s => some (s, middle)
        | .anchor _ => none) = some (s, rest) ↔
        (middle ≠ [] ∧ ¬GoesOnAsRange middle ∧ first.alone? = some s ∧ rest = middle ∨
          GoesOnAsRange middle ∧ ∃ a b, first = .char a ∧
            readClassItem? middle.tail = some (.char b, rest) ∧ a ≤ b ∧
            s = .range a.toNat b.toNat) := by
    rw [or_iff_left fun h => hstop h.1, and_iff_right hne, and_iff_right hstop]
    cases first <;> simp [Primitive.alone?, eq_comm]
  rw [readClassRange?, Option.bind_eq_bind, Option.bind_eq_some_iff]
  refine Prod.exists.trans (exists₂_congr fun first middle => and_congr_right fun _ => ?_)
  dsimp only
  split
  case h_1 =>
    refine iff_of_false nofun ?_
    rintro (⟨hne, -⟩ | ⟨⟨text, htext, -⟩, -⟩)
    · exact hne rfl
    · cases htext
  case h_2 tail =>
    refine halone first _ (List.cons_ne_nil _ _) ?_
    rintro ⟨text, htext, hend, -⟩
    cases htext
    exact hend rfl
  case h_3 tail =>
    refine halone first _ (List.cons_ne_nil _ _) ?_
    rintro ⟨text, htext, -, hhyphen⟩
    cases htext
    exact hhyphen rfl
  case h_4 text hend hhyphen _ =>
    have hrange : GoesOnAsRange ('-' :: text) := by
      refine ⟨text, rfl, fun h => ?_, fun h => ?_⟩
      · obtain ⟨tail, htail⟩ := List.head?_eq_some_iff.mp h
        exact hend tail htail
      · obtain ⟨tail, htail⟩ := List.head?_eq_some_iff.mp h
        exact hhyphen tail htail
    rw [or_iff_right fun h => h.2.1 hrange, and_iff_right hrange, List.tail_cons,
      Option.bind_eq_some_iff]
    constructor
    · rintro ⟨⟨second, after⟩, hsecond, h⟩
      cases first <;> cases second <;> try cases h
      dsimp only at h
      split_ifs at h with hle
      cases h
      exact ⟨_, _, rfl, hsecond, hle, rfl⟩
    · rintro ⟨a, b, rfl, hsecond, hle, rfl⟩
      exact ⟨_, hsecond, if_pos hle⟩
  case h_5 hne _ _ hhyphen =>
    refine halone first middle hne ?_
    rintro ⟨text, htext, -⟩
    exact hhyphen text htext

/-- Whether an item of a class is the start of a range is seen before the class ends. -/
theorem isLocal_readClassRange? : IsLocal (Alike EndsClass) readClassRange? := by
  intro cs s rest h
  obtain ⟨first, middle, hfirst, hread⟩ := readClassRange?_eq_some_iff.mp h
  obtain ⟨taken, rfl, htaken⟩ := isLocal_readClassItem? _ _ _ hfirst
  have hgoes {u v : List Char} (huv : Alike EndsClass u v) (h : GoesOnAsRange u) :
      GoesOnAsRange v := by
    obtain ⟨text, rfl, hend, hhyphen⟩ := h
    obtain ⟨text', rfl, htext⟩ := huv.of_cons (not_endsClass (by decide) _)
    rw [htext.head?_eq] at hend hhyphen
    exact ⟨text', rfl, hend, hhyphen⟩
  rcases hread with ⟨hne, hstop, halone, rfl⟩ | ⟨hrange, a, b, rfl, hsecond, hle, rfl⟩
  · refine ⟨taken, rfl, fun rest' hrest => readClassRange?_eq_some_iff.mpr ?_⟩
    refine ⟨first, rest', htaken rest' trivial, Or.inl ⟨?_, ?_, halone, rfl⟩⟩
    · rintro rfl
      exact hne (List.head?_eq_none_iff.mp hrest.head?_eq)
    · exact fun hgo => hstop (hgoes hrest.symm hgo)
  · obtain ⟨more, hmore, hmoreTaken⟩ := isLocal_readClassItem? _ _ _ hsecond
    obtain ⟨text, rfl, -⟩ := id hrange
    rw [List.tail_cons] at hmore
    subst hmore
    refine ⟨taken ++ '-' :: more, by simp, fun rest' hrest => readClassRange?_eq_some_iff.mpr ?_⟩
    refine ⟨.char a, '-' :: (more ++ rest'), ?_, Or.inr ⟨?_, a, b, rfl, ?_, hle, rfl⟩⟩
    · rw [List.append_assoc]
      exact htaken _ trivial
    · exact hgoes ((hrest.append more).cons '-') hrange
    · exact hmoreTaken rest' trivial

/-- Nothing before a closing bracket ends a class. -/
theorem Alike.of_append {taken u v : List Char} (htaken : ']' ∉ taken)
    (h : Alike EndsClass (taken ++ u) v) : ∃ v', v = taken ++ v' ∧ Alike EndsClass u v' := by
  induction taken generalizing v with
  | nil => exact ⟨v, rfl, h⟩
  | cons c taken ih =>
    rw [List.mem_cons, not_or] at htaken
    obtain ⟨v', rfl, hv'⟩ := h.of_cons (not_endsClass (Ne.symm htaken.1) _)
    obtain ⟨v'', rfl, hv''⟩ := ih htaken.2 hv'
    exact ⟨v'', rfl, hv''⟩

/-- The name of a class and what stands after it, behind the circumflex that may be before it. -/
theorem readNamedClass?_after (negated : Bool) {text rest : List Char} {s : CharSet} :
    (match text.drop (text.takeWhile fun c => c != ':' && c != ']').length with
      | ':' :: ']' :: rest =>
        (CharSet.named? (String.ofList (text.takeWhile fun c => c != ':' && c != ']'))).map
          fun s => (if negated then s.compl else s, rest)
      | _ => none) = some (s, rest) ↔ ∃ (name : List Char) (named : CharSet),
      (∀ c ∈ name, (c != ':' && c != ']') = true) ∧
      CharSet.named? (String.ofList name) = some named ∧
      text = name ++ ':' :: ']' :: rest ∧
      (if negated then CharSet.compl named else named) = s := by
  rw [drop_length_takeWhile]
  constructor
  · intro h
    obtain ⟨name, after, rfl, hall, hhead⟩ := exists_cut (fun c => c != ':' && c != ']') text
    rw [takeWhile_append_of_head hall hhead, dropWhile_append_of_head hall hhead] at h
    split at h
    · obtain ⟨named, hnamed, h⟩ := Option.map_eq_some_iff.mp h
      cases h
      exact ⟨name, named, hall, hnamed, rfl, rfl⟩
    · cases h
  · rintro ⟨name, named, hall, hnamed, rfl, rfl⟩
    have hhead : ∀ c ∈ (':' :: ']' :: rest).head?, (c != ':' && c != ']') = false := by
      rintro c ⟨⟩
      rfl
    rw [takeWhile_append_of_head hall hhead, dropWhile_append_of_head hall hhead]
    simp only [hnamed, Option.map_some]

/-- The name of a class and what stands around it, after the bracket that opens it. -/
theorem readNamedClass?_eq_some_iff {cs rest : List Char} {s : CharSet} :
    readNamedClass? cs = some (s, rest) ↔ ∃ (negated : Bool) (name : List Char) (named : CharSet),
      (∀ c ∈ name, (c != ':' && c != ']') = true) ∧
      (negated = false → name.head? ≠ some '^') ∧
      CharSet.named? (String.ofList name) = some named ∧
      cs = ':' :: ((if negated then ['^'] else []) ++ (name ++ ':' :: ']' :: rest)) ∧
      (if negated then CharSet.compl named else named) = s := by
  unfold readNamedClass?
  split
  · rename_i text
    split
    rename_i negated after hopen
    refine (readNamedClass?_after negated).trans ?_
    split at hopen
    · rename_i marked
      cases hopen
      constructor
      · rintro ⟨name, named, hall, hnamed, rfl, hs⟩
        exact ⟨true, name, named, hall, nofun, hnamed, rfl, hs⟩
      · rintro ⟨negated, name, named, hall, hmark, hnamed, htext, hs⟩
        cases negated with
        | true => exact ⟨name, named, hall, hnamed, (List.cons.inj (List.cons.inj htext).2).2, hs⟩
        | false =>
          have hfirst := congrArg List.head? (List.cons.inj htext).2
          cases name with
          | nil => cases hfirst
          | cons c name => exact absurd hfirst.symm (hmark rfl)
    · rename_i hmark
      cases hopen
      constructor
      · rintro ⟨name, named, hall, hnamed, rfl, hs⟩
        refine ⟨false, name, named, hall, fun _ h => ?_, hnamed, rfl, hs⟩
        obtain ⟨tail, rfl⟩ := List.head?_eq_some_iff.mp h
        exact hmark _ rfl
      · rintro ⟨negated, name, named, hall, -, hnamed, htext, hs⟩
        cases negated with
        | true => exact absurd (List.cons.inj htext).2 (hmark _)
        | false => exact ⟨name, named, hall, hnamed, (List.cons.inj htext).2, hs⟩
  · rename_i hcolon
    refine iff_of_false nofun ?_
    rintro ⟨negated, name, named, -, -, -, hcs, -⟩
    exact hcolon _ hcs

/-- A named class is read up to the first closing bracket, and what is behind that has no part in
it. -/
theorem exists_eq_of_readNamedClass? {cs rest : List Char} {s : CharSet}
    (h : readNamedClass? cs = some (s, rest)) : ∃ taken, ']' ∉ taken ∧
      cs = taken ++ ']' :: rest ∧
      ∀ rest', readNamedClass? (taken ++ ']' :: rest') = some (s, rest') := by
  obtain ⟨negated, name, named, hall, hmark, hnamed, rfl, hs⟩ := readNamedClass?_eq_some_iff.mp h
  refine ⟨':' :: ((if negated then ['^'] else []) ++ (name ++ [':'])), ?_, by simp, ?_⟩
  · have hname : ']' ∉ name := fun hmem => by simpa using hall _ hmem
    cases negated <;> simpa using hname
  · intro rest'
    exact readNamedClass?_eq_some_iff.mpr
      ⟨negated, name, named, hall, hmark, hnamed, by simp, hs⟩

/-- What is no name of a class is none before any other end of the class. -/
theorem readNamedClass?_eq_none {u v : List Char} (h : Alike EndsClass u v)
    (hu : readNamedClass? u = none) : readNamedClass? v = none := by
  rw [Option.eq_none_iff_forall_ne_some]
  rintro ⟨s, rest⟩ hv
  obtain ⟨taken, htaken, rfl, hread⟩ := exists_eq_of_readNamedClass? hv
  obtain ⟨w, rfl, hw⟩ := h.symm.of_append htaken
  obtain ⟨rest', rfl⟩ := List.head?_eq_some_iff.mp hw.head?_eq.symm
  rw [hread rest'] at hu
  cases hu

/-- What stands at the start of a class after an optional circumflex. -/
def firstItems (cs : List Char) : CharSet × List Char :=
  match cs with
  | '-' :: _ => (.single '-', cs.dropWhile (· == '-'))
  | ']' :: rest => (.single ']', rest)
  | rest => (.none, rest)

/-- The start of a class after its circumflex, if it has one, is its first items. -/
theorem readClassStart_after (negated : Bool) (cs : List Char) : (match cs with
    | '-' :: _ => (negated, .single '-', cs.dropWhile (· == '-'))
    | ']' :: rest => (negated, .single ']', rest)
    | rest => (negated, .none, rest)) = (negated, firstItems cs) := by
  split
  · rfl
  · rfl
  · rename_i hhyphen hbracket
    rw [firstItems.eq_3 _ hhyphen hbracket]

/-- With a circumflex a class is negated. -/
theorem readClassStart_circumflex (cs : List Char) :
    readClassStart ('^' :: cs) = (true, firstItems cs) := readClassStart_after true cs

/-- Without a circumflex a class is not negated. -/
theorem readClassStart_plain {cs : List Char} (hcs : ∀ rest, cs = '^' :: rest → False) :
    readClassStart cs = (false, firstItems cs) := by
  unfold readClassStart
  split
  rename_i negated rest hopen
  split at hopen
  · exact (hcs _ rfl).elim
  · cases hopen
    exact readClassStart_after false cs

/-- The first items of a class are the same before texts that are alike up to its end. -/
theorem takes_firstItems {cs rest : List Char} {items : CharSet}
    (h : firstItems cs = (items, rest)) : ∃ taken, cs = taken ++ rest ∧
      ∀ rest', Alike EndsClass rest rest' → firstItems (taken ++ rest') = (items, rest') := by
  unfold firstItems at h
  split at h
  case h_1 text =>
    obtain ⟨hyphens, after, rfl, hall, hhead⟩ := exists_cut (· == '-') text
    have hread (cs : List Char) (hcs : ∀ d ∈ cs.head?, (d == '-') = false) :
        firstItems ('-' :: (hyphens ++ cs)) = (.single '-', cs) :=
      congrArg (Prod.mk (CharSet.single '-')) (dropWhile_append_of_head hall hcs)
    cases (hread after hhead).symm.trans h
    refine ⟨'-' :: hyphens, rfl, fun rest' hrest => hread rest' fun d hd => hhead d ?_⟩
    exact hrest.head?_eq ▸ hd
  case h_2 text =>
    cases h
    exact ⟨[']'], rfl, fun _ _ => rfl⟩
  case h_3 hhyphen hbracket =>
    cases h
    refine ⟨[], rfl, fun rest' hrest => ?_⟩
    rw [List.nil_append]
    exact firstItems.eq_3 rest' (hrest.not_cons (not_endsClass (by decide)) hhyphen)
      (not_cons_of_head?_eq hrest.head?_eq hbracket)

/-- The start of a class ends where no more hyphens stand, or after a closing bracket. -/
theorem takes_readClassStart {cs rest : List Char} {negated : Bool} {items : CharSet}
    (h : readClassStart cs = (negated, items, rest)) : ∃ taken, cs = taken ++ rest ∧
      ∀ rest', Alike EndsClass rest rest' →
        readClassStart (taken ++ rest') = (negated, items, rest') := by
  by_cases hmark : ∃ text, cs = '^' :: text
  · obtain ⟨text, rfl⟩ := hmark
    rw [readClassStart_circumflex] at h
    obtain ⟨rfl, hitems⟩ := Prod.mk.inj h
    obtain ⟨taken, rfl, htaken⟩ := takes_firstItems hitems
    refine ⟨'^' :: taken, rfl, fun rest' hrest => ?_⟩
    rw [List.cons_append, readClassStart_circumflex, htaken rest' hrest]
  · have hplain : ∀ text, cs = '^' :: text → False := fun text htext => hmark ⟨text, htext⟩
    rw [readClassStart_plain hplain] at h
    obtain ⟨rfl, hitems⟩ := Prod.mk.inj h
    obtain ⟨taken, rfl, htaken⟩ := takes_firstItems hitems
    refine ⟨taken, rfl, fun rest' hrest => ?_⟩
    rw [readClassStart_plain ((hrest.append taken).not_cons
      (not_endsClass (by decide)) hplain), htaken rest' hrest]

/-- Reading a range takes a character at least. -/
theorem length_readClassRange? {cs rest : List Char} {s : CharSet}
    (h : readClassRange? cs = some (s, rest)) : rest.length < cs.length := by
  obtain ⟨first, middle, hfirst, hread⟩ := readClassRange?_eq_some_iff.mp h
  have hmiddle := length_readClassItem? hfirst
  rcases hread with ⟨-, -, -, rfl⟩ | ⟨-, a, b, -, hsecond, -⟩
  · exact hmiddle
  · have hrest := length_readClassItem? hsecond
    rw [List.length_tail] at hrest
    omega

/-- Behind a closing bracket texts may differ. -/
theorem alike_bracket (taken rest rest' : List Char) :
    Alike EndsClass (taken ++ ']' :: rest) (taken ++ ']' :: rest') := by
  have hends : Alike EndsClass (']' :: rest) (']' :: rest') := .ends rfl rfl
  exact hends.append taken

/-- A class is taken up to its closing bracket, with any number of steps that is enough. -/
def TakesClass (fold negated : Bool) (pending : PendingSet) (items : CharSet) (cs : List Char)
    (s : CharSet) (rest : List Char) : Prop :=
  ∃ taken, cs = taken ++ ']' :: rest ∧ ∀ rest' enough, (taken ++ ']' :: rest').length < enough →
    readClassBody fold enough negated pending items (taken ++ ']' :: rest') = some (s, rest')

/-- An operation between classes is taken before the right side. -/
theorem TakesClass.operation {fold negated : Bool} {pending pending' : PendingSet}
    {items items' s : CharSet} {c d : Char} {cs rest : List Char}
    (h : TakesClass fold negated pending' items' cs s rest)
    (hread : ∀ steps cs, readClassBody fold (steps + 1) negated pending items (c :: d :: cs) =
      readClassBody fold steps negated pending' items' cs) :
    TakesClass fold negated pending items (c :: d :: cs) s rest := by
  obtain ⟨taken, rfl, htaken⟩ := h
  refine ⟨c :: d :: taken, rfl, fun rest' enough henough => ?_⟩
  obtain ⟨steps, rfl⟩ := Nat.exists_eq_succ_of_ne_zero (Nat.ne_zero_of_lt henough)
  refine (hread steps _).trans (htaken rest' steps ?_)
  simp only [List.cons_append, List.length_cons] at henough
  omega

/-- The steps of reading a class lead to its end, each from a start of the text that the rest has no
part in. -/
theorem takesClass_of_readClassBody {fold negated : Bool} {steps : Nat} {pending : PendingSet}
    {items s : CharSet} {cs rest : List Char}
    (h : readClassBody fold steps negated pending items cs = some (s, rest)) :
    TakesClass fold negated pending items cs s rest := by
  induction steps generalizing negated pending items s cs rest with
  | zero => cases h
  | succ steps ih =>
    unfold readClassBody at h
    split at h
    case h_1 => cases h
    case h_2 text =>
      cases h
      refine ⟨[], rfl, fun rest' enough henough => ?_⟩
      obtain ⟨steps, rfl⟩ := Nat.exists_eq_succ_of_ne_zero (Nat.ne_zero_of_lt henough)
      rfl
    case h_3 text =>
      split at h
      · rename_i named middle hnamed
        obtain ⟨name, -, rfl, hname⟩ := exists_eq_of_readNamedClass? hnamed
        obtain ⟨taken, rfl, htaken⟩ := ih h
        refine ⟨'[' :: (name ++ ']' :: taken), by simp, fun rest' enough henough => ?_⟩
        obtain ⟨steps, rfl⟩ := Nat.exists_eq_succ_of_ne_zero (Nat.ne_zero_of_lt henough)
        have hsteps : (taken ++ ']' :: rest').length < steps := by
          simp only [List.cons_append, List.length_cons, List.length_append] at henough ⊢
          omega
        rw [List.cons_append, List.append_assoc, List.cons_append, readClassBody, hname]
        exact htaken rest' steps hsteps
      · rename_i hnamed
        generalize hstart : readClassStart text = start at h
        obtain ⟨innerNegated, innerItems, inside⟩ := start
        obtain ⟨⟨inner, middle⟩, hinner, houter⟩ := Option.bind_eq_some_iff.mp h
        obtain ⟨first, rfl, hfirst⟩ := takes_readClassStart hstart
        obtain ⟨within, rfl, hwithin⟩ := ih hinner
        obtain ⟨taken, rfl, htaken⟩ := ih houter
        refine ⟨'[' :: (first ++ (within ++ ']' :: taken)), by simp, fun rest' enough henough => ?_⟩
        obtain ⟨steps, rfl⟩ := Nat.exists_eq_succ_of_ne_zero (Nat.ne_zero_of_lt henough)
        have hlength :
            first.length + (within.length + (taken.length + rest'.length)) + 2 < steps := by
          simp only [List.cons_append, List.length_cons, List.length_append] at henough
          omega
        have hnone : readNamedClass? (first ++ (within ++ ']' :: (taken ++ ']' :: rest'))) = none :=
          readNamedClass?_eq_none (((alike_bracket _ _ _).append first)) hnamed
        have hopen := hfirst _ (alike_bracket within _ (taken ++ ']' :: rest'))
        simp only [List.cons_append, List.append_assoc, List.cons_append]
        rw [readClassBody, hnone, hopen]
        dsimp only
        rw [hwithin _ steps (by simp only [List.length_cons, List.length_append]; omega)]
        exact htaken rest' steps (by simp only [List.length_cons, List.length_append]; omega)
    case h_4 => exact (ih h).operation fun _ _ => rfl
    case h_5 => exact (ih h).operation fun _ _ => rfl
    case h_6 => exact (ih h).operation fun _ _ => rfl
    case h_7 hnil hbracket hclass hand hminus htilde =>
      obtain ⟨⟨range, middle⟩, hrange, houter⟩ := Option.bind_eq_some_iff.mp h
      have hshorter := length_readClassRange? hrange
      obtain ⟨first, rfl, hfirst⟩ := isLocal_readClassRange? _ _ _ hrange
      obtain ⟨taken, rfl, htaken⟩ := ih houter
      refine ⟨first ++ taken, (List.append_assoc _ _ _).symm, fun rest' enough henough => ?_⟩
      obtain ⟨steps, rfl⟩ := Nat.exists_eq_succ_of_ne_zero (Nat.ne_zero_of_lt henough)
      have halike := alike_bracket taken rest rest'
      have hall := halike.append first
      have hsteps : (taken ++ ']' :: rest').length < steps := by
        simp only [List.length_cons, List.length_append] at henough hshorter ⊢
        omega
      rw [List.append_assoc, readClassBody.eq_8 _ _ _ _ _ _ (by simp)
        (not_cons_of_head?_eq hall.head?_eq hbracket)
        (hall.not_cons (not_endsClass (by decide)) hclass)
        (hall.not_cons_cons (not_endsClass (by decide)) (not_endsClass (by decide)) hand)
        (hall.not_cons_cons (not_endsClass (by decide)) (not_endsClass (by decide)) hminus)
        (hall.not_cons_cons (not_endsClass (by decide)) (not_endsClass (by decide)) htilde),
        hfirst _ halike]
      exact htaken rest' steps hsteps

/-- A class is read up to its own closing bracket, whatever comes after it. -/
theorem isLocal_readClass? (fold : Bool) : IsLocal AnyTwo (readClass? fold) := by
  intro cs s rest h
  unfold readClass? at h
  generalize hstart : readClassStart cs = start at h
  obtain ⟨negated, items, text⟩ := start
  obtain ⟨first, rfl, hfirst⟩ := takes_readClassStart hstart
  obtain ⟨taken, rfl, htaken⟩ := takesClass_of_readClassBody h
  refine ⟨first ++ (taken ++ [']']), by simp, fun rest' _ => ?_⟩
  have hstart' := hfirst _ (alike_bracket taken rest rest')
  rw [List.append_assoc, List.append_assoc, List.singleton_append, readClass?, hstart']
  exact htaken rest' _ (Nat.lt_succ_self _)

end CatalogRecords.Pattern
