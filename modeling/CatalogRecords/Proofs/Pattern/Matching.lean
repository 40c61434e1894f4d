import CatalogRecords.Pattern.Search
import Mathlib.Data.List.Basic
import Mathlib.Data.Nat.Basic
import Mathlib.Logic.Relation
import Mathlib.Order.Basic

/-!
# What expressions match

An expression relates two places of a text if it matches what is between them: one expression after
the other is the composition of relations, and repetitions are their closures. The matcher never
looks for the places. It goes through the text with what is still to match and asks of an expression
only how it can begin; that an expression goes on from a place exactly as its beginnings say is the
one fact that everything rests on.
-/

namespace CatalogRecords.Pattern

open Relation (Comp TransGen ReflTransGen)

/-- The character before a place in a text. -/
def charBefore? (text : List Char) : Nat → Option Char
  | 0 => none
  | i + 1 => text[i]?

/-- An expression matches what is between two places of a text. -/
def Expression.Spans (text : List Char) : Expression → Nat → Nat → Prop
  | .empty => Eq
  | .set s => fun i j => j = i + 1 ∧ ∃ c, text[i]? = some c ∧ s.has c = true
  | .anchor a => fun i j => i = j ∧ a.holds (charBefore? text i) text[i]? = true
  | .cat a b => Comp (a.Spans text) (b.Spans text)
  | .alt a b => fun i j => a.Spans text i j ∨ b.Spans text i j
  | .plus _ a => TransGen (a.Spans text)
  | .again _ a => ReflTransGen (a.Spans text)

/-- A sequence of expressions matches what is between two places of a text. -/
def State.Spans (text : List Char) : State → Nat → Nat → Prop
  | [] => Eq
  | a :: rest => Comp (a.Spans text) (State.Spans text rest)

/-! Relations between places. -/

section

variable {R S : Nat → Nat → Prop} {i j : Nat}

/-- A relation never goes back in a text, and not beyond its end. -/
structure IsForward (text : List Char) (R : Nat → Nat → Prop) : Prop where
  le : ∀ i j, R i j → i ≤ j
  le_length : ∀ i j, R i j → i ≤ text.length → j ≤ text.length

namespace IsForward

variable {text : List Char}

/-- Staying in place is not going back. -/
theorem eq : IsForward text Eq := ⟨fun _ _ h => h.le, fun _ _ h hi => h ▸ hi⟩

/-- One relation that does not go back after another does not go back. -/
theorem comp (hR : IsForward text R) (hS : IsForward text S) : IsForward text (Comp R S) where
  le := fun i j ⟨k, hik, hkj⟩ => (hR.le i k hik).trans (hS.le k j hkj)
  le_length := fun i j ⟨k, hik, hkj⟩ hi => hS.le_length k j hkj (hR.le_length i k hik hi)

/-- Any number of rounds that do not go back do not go back. -/
theorem reflTransGen (hR : IsForward text R) : IsForward text (ReflTransGen R) where
  le := fun i j h => by
    induction h with
    | refl => exact Nat.le_refl i
    | tail _ hlast ih => exact ih.trans (hR.le _ _ hlast)
  le_length := fun i j h hi => by
    induction h with
    | refl => exact hi
    | tail _ hlast ih => exact hR.le_length _ _ hlast ih

/-- One round or more that do not go back do not go back. -/
theorem transGen (hR : IsForward text R) : IsForward text (TransGen R) where
  le := fun i j h => hR.reflTransGen.le i j h.to_reflTransGen
  le_length := fun i j h => hR.reflTransGen.le_length i j h.to_reflTransGen

/-- Rounds that come back to where they begin are all of no length. -/
theorem transGen_self_iff (hR : IsForward text R) : TransGen R i i ↔ R i i := by
  constructor
  · intro h
    obtain ⟨k, hik, hki⟩ := TransGen.head'_iff.mp h
    have hk : k = i := Nat.le_antisymm (hR.reflTransGen.le k i hki) (hR.le i k hik)
    exact hk ▸ hik
  · exact TransGen.single

/-- Of rounds that come to a later place one is the first to leave the place where they begin. -/
theorem reflTransGen_iff_of_lt (hR : IsForward text R) (hij : i < j) :
    ReflTransGen R i j ↔ ∃ k, i < k ∧ R i k ∧ ReflTransGen R k j := by
  constructor
  · intro h
    induction h using ReflTransGen.head_induction_on with
    | refl => exact absurd hij (Nat.lt_irrefl _)
    | head hfirst hrest ih =>
      rename_i a c
      rcases (hR.le a c hfirst).eq_or_lt with rfl | hlt
      · exact ih hij
      · exact ⟨c, hlt, hfirst, hrest⟩
  · rintro ⟨k, -, hik, hkj⟩
    exact ReflTransGen.head hik hkj

end IsForward

end

/-- An expression matches from one place of a text to the same or a later one. -/
theorem Expression.isForward_spans (text : List Char) (a : Expression) :
    IsForward text (a.Spans text) := by
  induction a with
  | empty => exact .eq
  | set s =>
    refine ⟨fun i j h => h.1 ▸ Nat.le_succ i, fun i j h _ => ?_⟩
    obtain ⟨rfl, c, hc, -⟩ := h
    exact (List.getElem?_eq_some_iff.mp hc).1
  | anchor a => exact ⟨fun i j h => h.1.le, fun i j h hi => h.1 ▸ hi⟩
  | cat a b iha ihb => exact iha.comp ihb
  | alt a b iha ihb =>
    exact ⟨fun i j h => h.elim (iha.le i j) (ihb.le i j),
      fun i j h => h.elim (iha.le_length i j) (ihb.le_length i j)⟩
  | plus greedy a ih => exact ih.transGen
  | again greedy a ih => exact ih.reflTransGen

/-- What is still to match matches from one place of a text to the same or a later one. -/
theorem State.isForward_spans (text : List Char) (state : State) :
    IsForward text (State.Spans text state) := by
  induction state with
  | nil => exact .eq
  | cons a rest ih => exact (a.isForward_spans text).comp ih

/-- A sequence followed by another matches as the one after the other. -/
theorem State.spans_append (text : List Char) (first second : State) :
    State.Spans text (first ++ second) =
      Comp (State.Spans text first) (State.Spans text second) := by
  induction first with
  | nil => exact Relation.eq_comp.symm
  | cons a first ih => rw [List.cons_append, State.Spans, State.Spans, ih, Relation.comp_assoc]

/-! How to begin at a place. -/

namespace Beginnings

variable {text : List Char} {i : Nat} {b next : Beginnings} {R S : Nat → Nat → Prop}
  {following : State}

/-- After the next character something that beginnings leave comes to a place. -/
def GoesOn (text : List Char) (i : Nat) (b : Beginnings) (j : Nat) : Prop :=
  ∃ c, text[i]? = some c ∧
    ∃ take ∈ b.takes, take.1.has c = true ∧ State.Spans text take.2 (i + 1) j

/-- A relation goes on from a place as beginnings say. -/
structure Begin (text : List Char) (i : Nat) (b : Beginnings) (R : Nat → Nat → Prop) : Prop where
  passes : b.passes = true ↔ R i i
  goesOn : ∀ j, i < j → (R i j ↔ b.GoesOn text i j)

/-- Going on takes a character, and so comes to a later place. -/
theorem GoesOn.lt {j : Nat} (h : b.GoesOn text i j) : i < j := by
  obtain ⟨c, -, take, -, -, hleft⟩ := h
  exact (State.isForward_spans text take.2).le _ _ hleft

/-- What matches without a character only does not go on. -/
theorem goesOn_passIf (passes : Bool) (j : Nat) : ¬(passIf passes).GoesOn text i j := by
  rintro ⟨c, -, take, htake, -⟩
  exact List.not_mem_nil htake

/-- One thing and then others go on as the first does, with the others after it, or as the others do
where the first takes no character. -/
theorem goesOn_andThen (j : Nat) : (b.andThen following next).GoesOn text i j ↔
    (∃ k, b.GoesOn text i k ∧ State.Spans text following k j) ∨
      b.passes = true ∧ next.GoesOn text i j := by
  constructor
  · rintro ⟨c, hc, take, htake, hhas, hleft⟩
    rcases List.mem_append.mp htake with htake | htake
    · obtain ⟨first, hfirst, rfl⟩ := List.mem_map.mp htake
      rw [State.spans_append] at hleft
      obtain ⟨k, hk, hkj⟩ := hleft
      exact Or.inl ⟨k, ⟨c, hc, first, hfirst, hhas, hk⟩, hkj⟩
    · split_ifs at htake with hpasses
      · exact Or.inr ⟨hpasses, c, hc, take, htake, hhas, hleft⟩
      · exact absurd htake List.not_mem_nil
  · rintro (⟨k, ⟨c, hc, first, hfirst, hhas, hk⟩, hkj⟩ | ⟨hpasses, c, hc, take, htake, hhas, hleft⟩)
    · refine ⟨c, hc, (first.1, first.2 ++ following), ?_, hhas, ?_⟩
      · exact List.mem_append_left _ (List.mem_map.mpr ⟨first, hfirst, rfl⟩)
      · rw [State.spans_append]
        exact ⟨k, hk, hkj⟩
    · refine ⟨c, hc, take, List.mem_append_right _ ?_, hhas, hleft⟩
      rw [if_pos hpasses]
      exact htake

namespace Begin

/-- What comes first either takes a character or leaves the beginning to what follows. -/
theorem andThen (hb : b.Begin text i R) (hnext : next.Begin text i (State.Spans text following))
    (hR : IsForward text R) :
    (b.andThen following next).Begin text i (Comp R (State.Spans text following)) := by
  have hS := State.isForward_spans text following
  refine ⟨?_, fun j hij => ?_⟩
  · rw [Beginnings.andThen, Bool.and_eq_true, hb.passes, hnext.passes]
    constructor
    · exact fun ⟨hfirst, hsecond⟩ => ⟨i, hfirst, hsecond⟩
    · rintro ⟨k, hik, hki⟩
      have hk : k = i := Nat.le_antisymm (hS.le k i hki) (hR.le i k hik)
      rw [hk] at hik hki
      exact ⟨hik, hki⟩
  · rw [goesOn_andThen]
    constructor
    · rintro ⟨k, hik, hkj⟩
      rcases (hR.le i k hik).eq_or_lt with rfl | hlt
      · exact Or.inr ⟨hb.passes.mpr hik, (hnext.goesOn j hij).mp hkj⟩
      · exact Or.inl ⟨k, (hb.goesOn k hlt).mp hik, hkj⟩
    · rintro (⟨k, hik, hkj⟩ | ⟨hpasses, hij'⟩)
      · exact ⟨k, (hb.goesOn k hik.lt).mpr hik, hkj⟩
      · exact ⟨i, hb.passes.mp hpasses, (hnext.goesOn j hij).mpr hij'⟩

/-- Rounds begin as the first of them that takes a character. -/
theorem goesOn_rounds {greedy : Bool} {a : Expression} {j : Nat}
    (hb : b.Begin text i (a.Spans text)) (hij : i < j) :
    ReflTransGen (a.Spans text) i j ↔
      (b.andThen [.again greedy a] (.passIf true)).GoesOn text i j := by
  rw [goesOn_andThen, or_iff_left fun h => goesOn_passIf true j h.2,
    (a.isForward_spans text).reflTransGen_iff_of_lt hij, State.Spans, State.Spans,
    Relation.comp_eq]
  refine exists_congr fun k => ?_
  constructor
  · rintro ⟨hlt, hik, hkj⟩
    exact ⟨(hb.goesOn k hlt).mp hik, hkj⟩
  · rintro ⟨hik, hkj⟩
    exact ⟨hik.lt, (hb.goesOn k hik.lt).mpr hik, hkj⟩

end Begin

end Beginnings

/-- An expression goes on from a place as its beginnings say. -/
theorem Expression.begin_beginnings (text : List Char) (i : Nat) (a : Expression) :
    (a.beginnings (charBefore? text i) text[i]?).Begin text i (a.Spans text) := by
  induction a with
  | empty =>
    exact ⟨iff_of_true rfl rfl, fun j hij =>
      iff_of_false (Nat.ne_of_lt hij) (Beginnings.goesOn_passIf _ j)⟩
  | set s =>
    refine ⟨iff_of_false Bool.false_ne_true fun h => Nat.ne_of_lt (Nat.lt_succ_self i) h.1, ?_⟩
    intro j hij
    constructor
    · rintro ⟨rfl, c, hc, hhas⟩
      exact ⟨c, hc, (s, []), List.mem_singleton_self _, hhas, rfl⟩
    · rintro ⟨c, hc, take, htake, hhas, hleft⟩
      cases List.mem_singleton.mp htake
      exact ⟨Eq.symm hleft, c, hc, hhas⟩
  | anchor a =>
    exact ⟨(and_iff_right rfl).symm, fun j hij =>
      iff_of_false (fun h => Nat.ne_of_lt hij h.1) (Beginnings.goesOn_passIf _ j)⟩
  | cat a b iha ihb =>
    have hb : State.Spans text [b] = b.Spans text := Relation.comp_eq
    rw [← hb] at ihb
    have h := iha.andThen ihb (a.isForward_spans text)
    rw [hb] at h
    exact h
  | alt a b iha ihb =>
    refine ⟨?_, fun j hij => ?_⟩
    · rw [beginnings, Bool.or_eq_true, iha.passes, ihb.passes]
      rfl
    · refine (or_congr (iha.goesOn j hij) (ihb.goesOn j hij)).trans ?_
      constructor
      · rintro (⟨c, hc, take, htake, hrest⟩ | ⟨c, hc, take, htake, hrest⟩)
        · exact ⟨c, hc, take, List.mem_append_left _ htake, hrest⟩
        · exact ⟨c, hc, take, List.mem_append_right _ htake, hrest⟩
      · rintro ⟨c, hc, take, htake, hrest⟩
        rcases List.mem_append.mp htake with htake | htake
        · exact Or.inl ⟨c, hc, take, htake, hrest⟩
        · exact Or.inr ⟨c, hc, take, htake, hrest⟩
  | plus greedy a ih =>
    refine ⟨?_, fun j hij => ?_⟩
    · rw [Spans, (a.isForward_spans text).transGen_self_iff, ← ih.passes]
      exact Bool.eq_iff_iff.mp (Bool.and_true _)
    · refine Iff.trans ?_ (ih.goesOn_rounds hij)
      rw [Spans, Relation.reflTransGen_iff_eq_or_transGen, or_iff_right (Nat.ne_of_gt hij)]
  | again greedy a ih =>
    exact ⟨iff_of_true rfl .refl, fun j hij => ih.goesOn_rounds hij⟩

/-- A sequence goes on from a place as its beginnings say. -/
theorem State.begin_beginnings (text : List Char) (i : Nat) (state : State) :
    (State.beginnings (charBefore? text i) text[i]? state).Begin text i
      (State.Spans text state) := by
  induction state with
  | nil => exact Expression.empty.begin_beginnings text i
  | cons a rest ih => exact (a.begin_beginnings text i).andThen ih (a.isForward_spans text)

/-! Going through a text. -/

section

variable {text : List Char} {i : Nat} {c : Char} {states : List State}

/-- One of some states comes from a place to a place of the text. -/
def AnySpans (text : List Char) (i : Nat) (states : List State) : Prop :=
  ∃ state ∈ states, ∃ j, State.Spans text state i j

/-- A state can end at a place if it matches no character there. -/
theorem anyEnds_iff : anyEnds (charBefore? text i) text[i]? states = true ↔
    ∃ state ∈ states, State.Spans text state i i := by
  simp only [anyEnds, List.any_eq_true, (State.begin_beginnings text i _).passes]

/-- The states after a character are those that a beginning with a set that has it leaves. -/
theorem mem_statesAfter_iff {before : Option Char} {left : State} :
    left ∈ statesAfter before c states ↔ ∃ state ∈ states,
      ∃ take ∈ (State.beginnings before (some c) state).takes, take.1.has c = true ∧
        take.2 = left := by
  simp only [statesAfter, List.mem_eraseDups, List.mem_flatMap, List.mem_map, List.mem_filter,
    and_assoc]

/-- A state ends where it is or goes on with the next character. -/
theorem anySpans_iff (hc : text[i]? = some c) : AnySpans text i states ↔
    anyEnds (charBefore? text i) (some c) states = true ∨
      AnySpans text (i + 1) (statesAfter (charBefore? text i) c states) := by
  have hgoes (state : State) (j : Nat) (hij : i < j) := (state.begin_beginnings text i).goesOn j hij
  rw [← hc, anyEnds_iff]
  constructor
  · rintro ⟨state, hstate, j, hj⟩
    rcases ((State.isForward_spans text state).le i j hj).eq_or_lt with rfl | hlt
    · exact Or.inl ⟨state, hstate, hj⟩
    · obtain ⟨d, hd, take, htake, hhas, hleft⟩ := (hgoes state j hlt).mp hj
      rw [hc] at hd htake
      cases hd
      have hafter := mem_statesAfter_iff.mpr ⟨state, hstate, take, htake, hhas, rfl⟩
      exact Or.inr ⟨take.2, hafter, j, hleft⟩
  · rintro (⟨state, hstate, hends⟩ | ⟨left, hleft, j, hj⟩)
    · exact ⟨state, hstate, i, hends⟩
    · obtain ⟨state, hstate, take, htake, hhas, rfl⟩ := mem_statesAfter_iff.mp hleft
      rw [← hc] at htake
      have hgoesOn : Beginnings.GoesOn text i _ j := ⟨c, hc, take, htake, hhas, hj⟩
      exact ⟨state, hstate, j, (hgoes state j hgoesOn.lt).mpr hgoesOn⟩

/-- At the end of a text a state matches only what takes no character. -/
theorem anySpans_at_end (hi : text.length = i) :
    AnySpans text i states ↔ anyEnds (charBefore? text i) none states = true := by
  have hend : text[i]? = none := List.getElem?_eq_none hi.le
  rw [← hend, anyEnds_iff]
  refine exists_congr fun state => and_congr_right fun _ => ?_
  have hforward := State.isForward_spans text state
  constructor
  · rintro ⟨j, hj⟩
    have hji : j = i := Nat.le_antisymm (hi ▸ hforward.le_length i j hj hi.ge) (hforward.le i j hj)
    exact hji ▸ hj
  · exact fun h => ⟨i, h⟩

/-- The whole expression among the states matches from the place as well. -/
theorem anySpans_cons {whole : Expression} : AnySpans text i ([whole] :: states) ↔
    (∃ j, whole.Spans text i j) ∨ AnySpans text i states := by
  rw [AnySpans, List.exists_mem_cons_iff, State.Spans, State.Spans, Relation.comp_eq]
  rfl

/-- A place that is not before another one is that one or comes after it. -/
theorem exists_spans_iff {whole : Expression} (hi : i ≤ text.length) :
    (∃ k j, i ≤ k ∧ k ≤ text.length ∧ whole.Spans text k j) ↔
      (∃ j, whole.Spans text i j) ∨
        ∃ k j, i + 1 ≤ k ∧ k ≤ text.length ∧ whole.Spans text k j := by
  constructor
  · rintro ⟨k, j, hik, hk, hkj⟩
    rcases hik.eq_or_lt with rfl | hlt
    · exact Or.inl ⟨j, hkj⟩
    · exact Or.inr ⟨k, j, hlt, hk, hkj⟩
  · rintro (⟨j, hij⟩ | ⟨k, j, hik, hk, hkj⟩)
    · exact ⟨i, j, Nat.le_refl i, hi, hij⟩
    · exact ⟨k, j, Nat.le_of_succ_le hik, hk, hkj⟩

/-- Going through what is left of a text finds whether one of the states comes to a place, or the
whole expression does from a place that is not before this one. -/
theorem matchesFrom_iff {whole : Expression} {rest : List Char} (hrest : text.drop i = rest)
    (hi : i ≤ text.length) : matchesFrom whole (charBefore? text i) states rest = true ↔
      AnySpans text i states ∨ ∃ k j, i ≤ k ∧ k ≤ text.length ∧ whole.Spans text k j := by
  induction rest generalizing i states with
  | nil =>
    have hend : text.length = i := Nat.le_antisymm (List.drop_eq_nil_iff.mp hrest) hi
    have hlater : ¬∃ k j, i + 1 ≤ k ∧ k ≤ text.length ∧ whole.Spans text k j := by
      rintro ⟨k, j, hik, hk, -⟩
      omega
    rw [matchesFrom, ← anySpans_at_end hend, anySpans_cons, exists_spans_iff hi,
      or_iff_left hlater]
    exact or_comm
  | cons c rest ih =>
    have hlt : i < text.length := by
      rw [← Nat.not_le, ← List.drop_eq_nil_iff, hrest]
      exact List.cons_ne_nil c rest
    rw [List.drop_eq_getElem_cons hlt] at hrest
    obtain ⟨hhead, hnext⟩ := List.cons.inj hrest
    have hc : text[i]? = some c := List.getElem?_eq_some_iff.mpr ⟨hlt, hhead⟩
    have hbefore : charBefore? text (i + 1) = some c := hc
    rw [matchesFrom, Bool.or_eq_true, ← hbefore, ih hnext hlt, ← or_assoc, hbefore,
      ← anySpans_iff hc, anySpans_cons, exists_spans_iff hi]
    exact or_right_comm.trans or_comm

end

/-- An expression is found in a text if it matches what is between two places of it. -/
theorem Expression.isMatch_iff {a : Expression} {text : String} : a.isMatch text = true ↔
    ∃ i j, i ≤ text.toList.length ∧ a.Spans text.toList i j := by
  have hnone : ¬AnySpans text.toList 0 [] := fun ⟨_, hmem, _⟩ => List.not_mem_nil hmem
  refine (matchesFrom_iff List.drop_zero (Nat.zero_le _)).trans ((or_iff_right hnone).trans ?_)
  simp only [Nat.zero_le, true_and]

/-! The ends of a text. -/

/-- Of the places in a text only the first is at its start. -/
theorem isNone_charBefore?_iff {text : List Char} {i : Nat} (hi : i ≤ text.length) :
    (charBefore? text i).isNone = true ↔ i = 0 := by
  cases i with
  | zero => exact iff_of_true rfl rfl
  | succ i =>
    rw [charBefore?, Option.isNone_iff_eq_none, List.getElem?_eq_none_iff]
    omega

/-- Of the places in a text only the last is at its end. -/
theorem isNone_getElem?_iff {text : List Char} {i : Nat} (hi : i ≤ text.length) :
    text[i]?.isNone = true ↔ i = text.length := by
  rw [Option.isNone_iff_eq_none, List.getElem?_eq_none_iff]
  omega

end CatalogRecords.Pattern
