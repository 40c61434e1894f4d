import CatalogRecords.Proofs.Query.Leniency
import Mathlib.Data.List.Infix

/-!
# Groups that are open

While criteria are read some groups are open. Which ones is said of the tokens alone: those whose
parentheses no closing one is the partner of. One token opens a group around which all is kept, or
closes the innermost group, or leaves the open groups as they are. From this follows for a run of
tokens where each open group comes from and how many there are, which is what strict reading reports
at the end.
-/

namespace CatalogRecords.Query

/-! Parentheses and their partners. -/

/-- Whether tokens close a parenthesis that was opened before them, when they follow so many others
that were opened after it. -/
def closes (inner : Nat) : List Token → Bool
  | [] => false
  | t :: ts =>
    match t.kind with
    | .opening => closes (inner + 1) ts
    | .closing => inner == 0 || closes (inner - 1) ts
    | _ => closes inner ts

/-- The offsets of the opening parentheses without a partner. -/
def openOffsets : List Token → List Nat
  | [] => []
  | t :: ts =>
    if t.kind = .opening ∧ closes 0 ts = false then t.offset :: openOffsets ts else openOffsets ts

/-- The number of closing parentheses without a partner. -/
def surplus : List Token → Nat
  | [] => 0
  | t :: ts =>
    match t.kind with
    | .opening => surplus ts - 1
    | .closing => surplus ts + 1
    | _ => surplus ts

/-- What a token does to the offsets of open parentheses, the innermost first. -/
def shiftOffsets (offsets : List Nat) (token : Token) : List Nat :=
  match token.kind with
  | .opening => token.offset :: offsets
  | .closing => offsets.tail
  | _ => offsets

/-- A parenthesis is closed by tokens with more closing parentheses to spare than were opened
since. -/
theorem closes_iff_lt_surplus (inner : Nat) (ts : List Token) :
    closes inner ts = true ↔ inner < surplus ts := by
  induction ts generalizing inner with
  | nil => simp [closes, surplus]
  | cons t ts ih =>
    unfold closes surplus
    split
    · rw [ih]
      omega
    · rw [Bool.or_eq_true, beq_iff_eq, ih]
      omega
    · exact ih inner

/-- Behind tokens those parentheses are open that they leave open, and before these the ones that
were open already, but for those that they close. -/
theorem foldl_shiftOffsets (ts : List Token) (offsets : List Nat) :
    ts.foldl shiftOffsets offsets = (openOffsets ts).reverse ++ offsets.drop (surplus ts) := by
  induction ts generalizing offsets with
  | nil => rfl
  | cons t ts ih =>
    rw [List.foldl_cons, ih]
    cases hkind : t.kind with
    | opening =>
      have hcloses := closes_iff_lt_surplus 0 ts
      cases hsurplus : surplus ts with
      | zero =>
        have hopen : closes 0 ts = false := by
          rw [← Bool.not_eq_true, hcloses, hsurplus]
          exact Nat.lt_irrefl 0
        simp [openOffsets, surplus, shiftOffsets, hkind, hopen, hsurplus]
      | succ n =>
        have hclosed : closes 0 ts = true := by
          rw [hcloses, hsurplus]
          exact Nat.succ_pos n
        simp [openOffsets, surplus, shiftOffsets, hkind, hclosed, hsurplus]
    | closing => simp [openOffsets, surplus, shiftOffsets, hkind, List.drop_tail]
    | _ => simp [openOffsets, surplus, shiftOffsets, hkind]

/-! What one token does to the open groups. -/

namespace CriteriaReader

variable {reading : Reading} {r r' : CriteriaReader} {token : Token} {ts : List Token}

/-- Lenient reading drops a condition that was not finished. -/
theorem withoutFragment_lenient (r : CriteriaReader) :
    r.withoutFragment .lenient = .ok { r with fragment := [] } := by
  rw [withoutFragment]
  split
  · rename_i hempty
    rw [← List.isEmpty_iff.mp hempty]
  · rfl

/-- Lenient reading drops an operator that nothing follows. -/
theorem withoutPending_lenient (r : CriteriaReader) :
    r.withoutPending .lenient = .ok { r with pending := none } := by
  rw [withoutPending]
  split
  · rename_i hnone
    rw [← hnone]
  · rfl

/-- Behind a refused fragment there is none. -/
theorem fragment_of_withoutFragment (h : r.withoutFragment reading = .ok r') :
    r'.fragment = [] := by
  replace h := Extends.lenient_of_ok r.withoutFragment r.withoutFragment_extends h
  rw [withoutFragment_lenient] at h
  cases h
  rfl

/-- Behind a refused operator there is none, and the fragment is as it was. -/
theorem pending_of_withoutPending (h : r.withoutPending reading = .ok r') :
    r'.pending = none ∧ r'.fragment = r.fragment := by
  replace h := Extends.lenient_of_ok r.withoutPending r.withoutPending_extends h
  rw [withoutPending_lenient] at h
  cases h
  exact ⟨rfl, rfl⟩

/-- Lenient reading takes the last of several operators. -/
theorem join_lenient (r : CriteriaReader) (op : BooleanOperator) (token : Token) :
    r.join .lenient op token = .ok { r with pending := some op } := by
  rw [join]
  split <;> rfl

/-- Lenient reading negates whatever operator is pending. -/
theorem negate_lenient (r : CriteriaReader) (token : Token) :
    r.negate .lenient token = .ok { r with pending := BooleanOperator.negated r.pending } := by
  rw [negate]
  split <;> rfl

/-- Lenient reading opens a group wherever a parenthesis stands, and drops an unfinished
condition. -/
theorem openGroup_lenient (r : CriteriaReader) (offset : Nat) :
    r.openGroup .lenient offset =
      .ok { opened := ⟨r.pending, offset, r.members⟩ :: r.opened } := by
  rw [openGroup, withoutFragment_lenient]
  rfl

/-- Lenient reading closes the innermost group, and passes over a parenthesis if there is none. -/
theorem closeGroup_lenient (r : CriteriaReader) (offset : Nat) :
    r.closeGroup .lenient offset = .ok (match r.opened with
      | [] => { r with pending := none, fragment := [] }
      | group :: outer =>
        { opened := outer, members := group.before ++ [.group group.operator r.members] }) := by
  simp only [closeGroup, withoutFragment_lenient, withoutPending_lenient, bind, Except.bind]
  obtain ⟨opened, members, pending, fragment⟩ := r
  cases opened with
  | nil => rfl
  | cons group outer => cases members <;> rfl

/-- Lenient reading collects operands. -/
theorem readOperand_lenient (r : CriteriaReader) (token : Token) :
    r.readOperand .lenient token = .ok (r.collect token) := by
  rw [readOperand]
  split <;> rfl

/-- An operand opens no group and closes none. -/
theorem opened_collect (r : CriteriaReader) (token : Token) :
    (r.collect token).opened = r.opened := by
  rw [collect]
  split <;> rfl

/-- A condition is finished with its third part, so that the parts collected are never three. -/
theorem length_fragment_collect (r : CriteriaReader) (token : Token) :
    (r.collect token).fragment.length < 3 := by
  rw [collect]
  split
  · assumption
  · exact Nat.zero_lt_succ 2

/-- A parenthesis opens a group around which all is kept, or closes the innermost group; no other
token changes which groups are open. Never are there three tokens of a condition. -/
theorem step_of_read (h : r.read reading token = .ok r') :
    (r'.opened = match token.kind with
      | .opening => ⟨r.pending, token.offset, r.members⟩ :: r.opened
      | .closing => r.opened.tail
      | _ => r.opened) ∧
    (r.fragment.length < 3 → r'.fragment.length < 3) := by
  replace h := Extends.lenient_of_ok (read · token r) (r.read_extends token) h
  obtain ⟨kind, offset⟩ := token
  have hoperand {kind : TokenKind} (h : r.readOperand .lenient ⟨kind, offset⟩ = .ok r') :
      r'.opened = r.opened ∧ (r.fragment.length < 3 → r'.fragment.length < 3) := by
    rw [readOperand_lenient] at h
    cases h
    exact ⟨opened_collect r _, fun _ => length_fragment_collect r _⟩
  cases kind with
  | opening =>
    cases (r.openGroup_lenient offset).symm.trans h
    exact ⟨rfl, fun _ => Nat.zero_lt_succ 2⟩
  | closing =>
    cases (r.closeGroup_lenient offset).symm.trans h
    cases r.opened <;> exact ⟨rfl, fun _ => Nat.zero_lt_succ 2⟩
  | name text bracketed =>
    unfold CriteriaReader.read at h
    split at h
    · cases (r.join_lenient .and _).symm.trans h
      exact ⟨rfl, id⟩
    · cases (r.join_lenient .or _).symm.trans h
      exact ⟨rfl, id⟩
    · cases (r.negate_lenient _).symm.trans h
      exact ⟨rfl, id⟩
    · exact hoperand h
  | literal value => exact hoperand h
  | comparator c => exact hoperand h
  | star => exact hoperand h

/-! What a run of tokens does to the open groups. -/

/-- Reads tokens from the beginning of criteria. -/
def readAll (reading : Reading) (ts : List Token) : Except ParseError CriteriaReader :=
  ts.foldlM (fun r t => read reading t r) {}

/-- Reading one token more goes on from the reader that the tokens before it left. -/
theorem readAll_concat : readAll reading (ts ++ [token]) = .ok r' ↔
    ∃ r, readAll reading ts = .ok r ∧ r.read reading token = .ok r' := by
  rw [readAll, List.foldlM_append, bind_eq_ok_iff]
  simp only [List.foldlM_cons, List.foldlM_nil, bind_pure]
  rfl

/-- No more than two tokens of a condition are kept. -/
theorem length_fragment_of_readAll (h : readAll reading ts = .ok r) : r.fragment.length < 3 :=
  foldlM_invariant (P := fun r => r.fragment.length < 3)
    (fun _ _ _ _ hs hstep => (step_of_read hstep).2 hs) (Nat.zero_lt_succ 2) h

/-- The groups that are open are those whose parentheses have no partner. -/
theorem openedAt_of_readAll (h : readAll reading ts = .ok r) :
    r.opened.map OpenGroup.openedAt = (openOffsets ts).reverse := by
  have hshift {r r' : CriteriaReader} {ts : List Token}
      (h : ts.foldlM (fun r t => read reading t r) r = .ok r') :
      r'.opened.map OpenGroup.openedAt =
        ts.foldl shiftOffsets (r.opened.map OpenGroup.openedAt) := by
    induction ts generalizing r with
    | nil =>
      cases h
      rfl
    | cons t ts ih =>
      rw [List.foldlM_cons] at h
      obtain ⟨next, hnext, hrest⟩ := bind_eq_ok_iff.mp h
      have hopened := (step_of_read hnext).1
      rw [ih hrest, List.foldl_cons, hopened, shiftOffsets]
      split <;> simp
  rw [hshift h, foldl_shiftOffsets, List.map_nil, List.drop_nil, List.append_nil]

/-- An open group was opened by one of the tokens that were read: a parenthesis at its offset, when
the groups around it were open, its operator waited, and the innermost group had the members that
it is to be added to. -/
def WasOpened (reading : Reading) (ts : List Token) (group : OpenGroup)
    (outer : List OpenGroup) : Prop :=
  ∃ before token after earlier, ts = before ++ token :: after ∧ token.kind = .opening ∧
    readAll reading before = .ok earlier ∧ earlier.opened = outer ∧
    group = ⟨earlier.pending, token.offset, earlier.members⟩

/-- A group that was opened was opened also when more is read. -/
theorem WasOpened.concat {group : OpenGroup} {outer : List OpenGroup}
    (h : WasOpened reading ts group outer) (token : Token) :
    WasOpened reading (ts ++ [token]) group outer := by
  obtain ⟨before, opening, after, earlier, rfl, hearlier⟩ := h
  exact ⟨before, opening, after ++ [token], earlier, by simp, hearlier⟩

/-- Every group that is open was opened by some token. -/
theorem wasOpened_of_suffix {group : OpenGroup} {outer : List OpenGroup}
    (h : readAll reading ts = .ok r) (hsuffix : group :: outer <:+ r.opened) :
    WasOpened reading ts group outer := by
  induction ts using List.reverseRecOn generalizing r with
  | nil =>
    cases h
    exact absurd (List.suffix_nil.mp hsuffix) (List.cons_ne_nil _ _)
  | append_singleton ts token ih =>
    obtain ⟨earlier, hearlier, hread⟩ := readAll_concat.mp h
    have hopened := (step_of_read hread).1
    rw [hopened] at hsuffix
    cases hkind : token.kind with
    | opening =>
      rw [hkind, List.suffix_cons_iff] at hsuffix
      rcases hsuffix with heq | hsuffix
      · obtain ⟨rfl, rfl⟩ := List.cons_eq_cons.mp heq
        exact ⟨ts, token, [], earlier, rfl, hkind, hearlier, rfl, rfl⟩
      · exact (ih hearlier hsuffix).concat token
    | closing =>
      rw [hkind] at hsuffix
      exact (ih hearlier (hsuffix.trans (List.tail_suffix _))).concat token
    | _ =>
      rw [hkind] at hsuffix
      exact (ih hearlier hsuffix).concat token

/-! What is reported of open groups. -/

/-- What is refused is refused with the error given. -/
theorem eq_of_refuse_eq_error {α : Type} {error other : ParseError} {otherwise : α}
    (h : reading.refuse error otherwise = .error other) : error = other := by
  cases reading with
  | strict => exact Except.error.inj h
  | lenient => cases h

/-- An unfinished condition is no unclosed group. -/
theorem withoutFragment_ne_unclosedGroup (r : CriteriaReader) (n : Nat) :
    r.withoutFragment reading ≠ .error (.unclosedGroup n) := by
  intro h
  rw [withoutFragment] at h
  split at h
  · cases h
  · cases eq_of_refuse_eq_error h

/-- A dangling operator is no unclosed group. -/
theorem withoutPending_ne_unclosedGroup (r : CriteriaReader) (n : Nat) :
    r.withoutPending reading ≠ .error (.unclosedGroup n) := by
  intro h
  rw [withoutPending] at h
  split at h
  · cases h
  · cases eq_of_refuse_eq_error h

/-- An operator that cannot stand where it does is no unclosed group. -/
theorem join_ne_unclosedGroup (r : CriteriaReader) (op : BooleanOperator) (token : Token)
    (n : Nat) : r.join reading op token ≠ .error (.unclosedGroup n) := by
  intro h
  rw [join] at h
  split at h
  · cases eq_of_refuse_eq_error h
  · cases h

/-- A negation that cannot stand where it does is no unclosed group. -/
theorem negate_ne_unclosedGroup (r : CriteriaReader) (token : Token) (n : Nat) :
    r.negate reading token ≠ .error (.unclosedGroup n) := by
  intro h
  rw [negate] at h
  split at h
  · cases eq_of_refuse_eq_error h
  · cases h

/-- No token is refused because groups are open. -/
theorem read_ne_unclosedGroup (r : CriteriaReader) (token : Token) (n : Nat) :
    r.read reading token ≠ .error (.unclosedGroup n) := by
  intro h
  unfold CriteriaReader.read at h
  split at h
  · exact r.join_ne_unclosedGroup .and token n h
  · exact r.join_ne_unclosedGroup .or token n h
  · exact r.negate_ne_unclosedGroup token n h
  · split at h
    · rcases bind_eq_error_iff.mp h with hfragment | ⟨clean, -, hopen⟩
      · exact r.withoutFragment_ne_unclosedGroup n hfragment
      · cases hopen
    · rcases bind_eq_error_iff.mp h with hfragment | ⟨clean, -, hsettle⟩
      · exact r.withoutFragment_ne_unclosedGroup n hfragment
      rcases bind_eq_error_iff.mp hsettle with hpending | ⟨settled, -, hclose⟩
      · exact clean.withoutPending_ne_unclosedGroup n hpending
      split at hclose
      · cases eq_of_refuse_eq_error hclose
      · split at hclose
        · cases eq_of_refuse_eq_error hclose
        · cases hclose
    · rw [readOperand] at h
      split at h
      · cases eq_of_refuse_eq_error h
      · cases h

/-- Groups are reported as open if strict reading comes to the end of the criteria and nothing else
waits there, and all of them are counted. -/
theorem finish_eq_unclosedGroup_iff {n : Nat} :
    r.finish reading = .error (.unclosedGroup n) ↔
      reading = .strict ∧ r.fragment = [] ∧ r.pending = none ∧ r.opened ≠ [] ∧
        n = r.opened.length := by
  constructor
  · intro h
    cases reading with
    | lenient =>
      obtain ⟨criteria, hcriteria⟩ := r.finish_extends.total
      rw [hcriteria] at h
      cases h
    | strict =>
      rcases bind_eq_error_iff.mp h with hfragment | ⟨clean, hclean, hsettle⟩
      · exact absurd hfragment (r.withoutFragment_ne_unclosedGroup n)
      rcases bind_eq_error_iff.mp hsettle with hpending | ⟨settled, hsettled, hopened⟩
      · exact absurd hpending (clean.withoutPending_ne_unclosedGroup n)
      obtain ⟨rfl, hfragment⟩ := eq_of_withoutFragment hclean
      obtain ⟨rfl, hpending⟩ := eq_of_withoutPending hsettled
      dsimp only at hopened
      split at hopened
      · cases hopened
      · rename_i hne
        cases hopened
        exact ⟨rfl, hfragment, hpending, by simpa using hne, rfl⟩
  · obtain ⟨opened, members, pending, fragment⟩ := r
    rintro ⟨rfl, hfragment, hpending, hopened, rfl⟩
    cases hfragment
    cases hpending
    obtain ⟨group, outer, rfl⟩ := List.exists_cons_of_ne_nil hopened
    rfl

/-- That groups are open is reported of tokens in strict reading, when nothing else waits behind
them, and the parentheses without a partner are counted. -/
theorem readAll_finish_eq_unclosedGroup_iff {n : Nat} :
    readAll reading ts >>= finish reading = .error (.unclosedGroup n) ↔
      reading = .strict ∧ (∃ r, readAll .strict ts = .ok r ∧ r.fragment = [] ∧ r.pending = none) ∧
        openOffsets ts ≠ [] ∧ n = (openOffsets ts).length := by
  have hcount {r : CriteriaReader} (h : readAll reading ts = .ok r) :
      r.opened.length = (openOffsets ts).length := by
    have hlength := congrArg List.length (openedAt_of_readAll h)
    rwa [List.length_map, List.length_reverse] at hlength
  have hempty {r : CriteriaReader} (h : readAll reading ts = .ok r) :
      r.opened ≠ [] ↔ openOffsets ts ≠ [] := by
    rw [← List.length_pos_iff, hcount h, List.length_pos_iff]
  rw [bind_eq_error_iff]
  constructor
  · rintro (hread | ⟨r, hr, hfinish⟩)
    · obtain ⟨token, -, r, hstep⟩ := exists_step_of_foldlM_eq_error hread
      exact absurd hstep (r.read_ne_unclosedGroup token n)
    · obtain ⟨rfl, hfragment, hpending, hopened, rfl⟩ := finish_eq_unclosedGroup_iff.mp hfinish
      exact ⟨rfl, ⟨r, hr, hfragment, hpending⟩, (hempty hr).mp hopened, hcount hr⟩
  · rintro ⟨rfl, ⟨r, hr, hfragment, hpending⟩, hopened, rfl⟩
    exact .inr ⟨r, hr, finish_eq_unclosedGroup_iff.mpr
      ⟨rfl, hfragment, hpending, (hempty hr).mpr hopened, (hcount hr).symm⟩⟩

end CriteriaReader

end CatalogRecords.Query
