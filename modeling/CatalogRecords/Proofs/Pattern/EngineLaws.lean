import CatalogRecords.Proofs.Pattern.Groups
import CatalogRecords.Proofs.Pattern.WholeValues
import CatalogRecords.Proofs.Pattern.Matching

/-!
# The laws of the engine of expressions

The engine that reads sources as expressions keeps the laws of engines. A group is read up to the
first parenthesis that closes nothing inside it, and what is before that is an expression by itself;
the expression of a group is that of its content. Whether a source can be read is a question of its
own here, apart from the room that its matcher takes.
-/

namespace CatalogRecords.Pattern

/-- The group that a pattern is, before anything is read. -/
def GroupRead.start : GroupRead := ⟨.initial, [], [], []⟩

/-- Reads characters as a pattern up to their end, whatever room its matcher takes. -/
def parse? (cs : List Char) : Option GroupRead :=
  match readGroup (cs.length + 1) .start cs with
  | some (g, []) => some g
  | _ => none

/-- A source can be read as an expression. -/
def IsExpression (source : String) : Prop := (parse? source.toList).isSome = true

/-- A source can be read as an expression that matches a part of a text. -/
def SourceSpans (source text : String) (first last : Nat) : Prop :=
  ∃ g, parse? source.toList = some g ∧ first ≤ text.length ∧
    g.finish.1.Spans text.toList first last

section

variable {cs after : List Char} {g inner : GroupRead} {source text : String}

/-- Characters are read as a pattern if a group with no end is read from them. -/
theorem parse?_eq_some_iff :
    parse? cs = some g ↔ readGroup (cs.length + 1) .start cs = some (g, []) := by
  unfold parse?
  split
  · rename_i read heq
    rw [heq, Option.some_inj, Option.some_inj, Prod.mk.injEq, and_iff_left rfl]
  · rename_i hne
    exact iff_of_false nofun (hne g)

/-- Of the sources that can be read those are refused whose matcher takes too much room. -/
theorem read?_eq (source : String) : read? source = (parse? source.toList).bind fun g =>
    if g.finish.2 ≤ greatestWeight then some g.finish.1 else none := by
  have hread : read? source = match readGroup (source.toList.length + 1) .start source.toList with
    | some (g, []) => if g.finish.2 ≤ greatestWeight then some g.finish.1 else none
    | _ => none := rfl
  rw [hread, parse?]
  split <;> rfl

/-- What is read of a source is the expression of its group. -/
theorem read?_eq_some_iff {a : Expression} : read? source = some a ↔
    ∃ g, parse? source.toList = some g ∧ g.finish.2 ≤ greatestWeight ∧ g.finish.1 = a := by
  rw [read?_eq, Option.bind_eq_some_iff]
  simp only [Option.ite_none_right_eq_some, Option.some_inj]

/-- A group closes after what is a pattern by itself. -/
theorem readGroup_closes_iff {steps : Nat} (hsteps : cs.length < steps) :
    readGroup steps .start cs = some (inner, ')' :: after) ↔
      ∃ before, cs = before ++ ')' :: after ∧ parse? before = some inner := by
  constructor
  · intro h
    -- the content is read in the same way where the text ends as before the parenthesis
    obtain ⟨-, before, rfl, hread⟩ := takesGroup_of_readGroup h
    refine ⟨before, rfl, parse?_eq_some_iff.mpr ?_⟩
    have hends := hread [] (before.length + 1) nofun (by rw [List.append_nil]; omega)
    rwa [List.append_nil] at hends
  · rintro ⟨before, rfl, hbefore⟩
    obtain ⟨-, taken, htaken, hread⟩ := takesGroup_of_readGroup (parse?_eq_some_iff.mp hbefore)
    rw [List.append_nil] at htaken
    subst htaken
    exact hread _ _ (endsGroup_close after) hsteps

/-! Groups. -/

/-- What was read once a group without a name is closed at the start of a pattern. -/
def GroupRead.ofInner (inner : GroupRead) : GroupRead :=
  { GroupRead.start with names := inner.names }.push inner.finish.1 (inner.finish.2 + 80)

/-- The same with a circumflex before the group. -/
def GroupRead.afterInner (inner : GroupRead) : GroupRead :=
  { GroupRead.start.pushChar '^' with names := inner.names }.push inner.finish.1
    (inner.finish.2 + 80)

/-- A group at the start of a pattern is read up to its parenthesis, and then what is behind. -/
theorem readGroup_grouped (steps : Nat) (cs : List Char) :
    readGroup (steps + 1) .start ('(' :: '?' :: ':' :: cs) =
      (readGroup steps .start cs).bind fun read =>
        match read with
        | (inner, ')' :: after) => readGroup steps inner.ofInner after
        | _ => none := rfl

/-- A group after a circumflex is read in the same way. -/
theorem readGroup_anchored (steps : Nat) (cs : List Char) :
    readGroup (steps + 2) .start ('^' :: '(' :: '?' :: ':' :: cs) =
      (readGroup steps .start cs).bind fun read =>
        match read with
        | (inner, ')' :: after) => readGroup steps inner.afterInner after
        | _ => none := rfl

/-- What opens a group after a circumflex closes it behind an expression. -/
theorem exists_of_parse?_anchored (h : (parse? ('^' :: '(' :: '?' :: ':' :: cs)).isSome = true) :
    ∃ before after, cs = before ++ ')' :: after ∧ (parse? before).isSome = true := by
  obtain ⟨g, hg⟩ := Option.isSome_iff_exists.mp h
  rw [parse?_eq_some_iff, List.length_cons, List.length_cons, List.length_cons, List.length_cons,
    readGroup_anchored, Option.bind_eq_some_iff] at hg
  obtain ⟨⟨inner, rest⟩, hinner, hrest⟩ := hg
  split at hrest
  · rename_i closed after heq
    cases heq
    obtain ⟨before, hcs, hbefore⟩ := (readGroup_closes_iff (by omega)).mp hinner
    exact ⟨before, after, hcs, hbefore ▸ rfl⟩
  · cases hrest

/-- An expression in a group is read as a group around it. -/
theorem parse?_grouped (h : parse? cs = some inner) :
    parse? ('(' :: '?' :: ':' :: (cs ++ [')'])) = some inner.ofInner := by
  have hcloses : readGroup (cs.length + 4) .start (cs ++ [')']) = some (inner, [')']) :=
    (readGroup_closes_iff (by rw [List.length_append, List.length_singleton]; omega)).mpr
      ⟨cs, rfl, h⟩
  have hlength : ('(' :: '?' :: ':' :: (cs ++ [')'])).length + 1 = cs.length + 4 + 1 := by
    simp
  rw [parse?_eq_some_iff, hlength, readGroup_grouped, hcloses]
  rfl

/-- Between anchors it is read as an anchor, the group and an anchor. -/
theorem parse?_anchored (h : parse? cs = some inner) :
    parse? ('^' :: '(' :: '?' :: ':' :: (cs ++ [')', '$'])) =
      some (inner.afterInner.pushChar '$') := by
  have hcloses : readGroup (cs.length + 5) .start (cs ++ [')', '$']) = some (inner, [')', '$']) :=
    (readGroup_closes_iff (by rw [List.length_append]; simp)).mpr ⟨cs, rfl, h⟩
  have hlength : ('^' :: '(' :: '?' :: ':' :: (cs ++ [')', '$'])).length + 1 =
      cs.length + 5 + 2 := by
    simp
  rw [parse?_eq_some_iff, hlength, readGroup_anchored, hcloses]
  rfl

/-- The expression of a group is that of its content. -/
theorem finish_ofInner : inner.ofInner.finish.1 = inner.finish.1 := rfl

/-- The expression between anchors is a sequence. -/
theorem finish_afterInner : (inner.afterInner.pushChar '$').finish.1 =
    Expression.sequence [.anchor .textStart, inner.finish.1, .anchor .textEnd] := rfl

/-! The laws. -/

/-- A source that was read matches what its expression matches. -/
theorem sourceSpans_iff {first last : Nat} (h : parse? source.toList = some g) :
    SourceSpans source text first last ↔
      first ≤ text.length ∧ g.finish.1.Spans text.toList first last := by
  rw [SourceSpans, h]
  simp only [Option.some_inj, exists_eq_left']

/-- A compiled source was read, and answers as its expression does. -/
theorem exists_of_compile? {m : Matcher} (h : PatternEngine.compile? source = some m) :
    ∃ g, parse? source.toList = some g ∧ m = g.finish.1.matcher := by
  obtain ⟨a, ha, rfl⟩ := Option.map_eq_some_iff.mp h
  obtain ⟨g, hg, -, rfl⟩ := read?_eq_some_iff.mp ha
  exact ⟨g, hg, rfl⟩

/-- The characters of a source in a group. -/
theorem toList_grouped (source : String) :
    (grouped source).toList = '(' :: '?' :: ':' :: (source.toList ++ [')']) := by
  simp [grouped]

/-- The characters of a source in a group between anchors. -/
theorem toList_anchored (source : String) : ("^" ++ grouped source ++ "$").toList =
    '^' :: '(' :: '?' :: ':' :: (source.toList ++ [')', '$']) := by
  simp [grouped]

/-- A circumflex is read as the anchor at the start. -/
theorem parse?_circumflex : parse? "^".toList = some (GroupRead.start.pushChar '^') := rfl

/-- A dollar sign is read as the anchor at the end. -/
theorem parse?_dollar : parse? "$".toList = some (GroupRead.start.pushChar '$') := rfl

/-- The anchor at the start matches there and takes no character. -/
theorem sourceSpans_start {first last : Nat} :
    SourceSpans "^" text first last ↔ first = 0 ∧ last = 0 := by
  rw [sourceSpans_iff parse?_circumflex]
  change first ≤ text.length ∧ first = last ∧ (charBefore? text.toList first).isNone = true ↔ _
  constructor
  · rintro ⟨hfirst, rfl, hbefore⟩
    rw [← String.length_toList] at hfirst
    rw [isNone_charBefore?_iff hfirst] at hbefore
    exact ⟨hbefore, hbefore⟩
  · rintro ⟨rfl, rfl⟩
    exact ⟨Nat.zero_le _, rfl, rfl⟩

/-- The anchor at the end matches there and takes no character. -/
theorem sourceSpans_end {first last : Nat} :
    SourceSpans "$" text first last ↔ first = text.length ∧ last = text.length := by
  rw [sourceSpans_iff parse?_dollar]
  change first ≤ text.length ∧ first = last ∧ text.toList[first]?.isNone = true ↔ _
  rw [← String.length_toList]
  constructor
  · rintro ⟨hfirst, rfl, hafter⟩
    rw [isNone_getElem?_iff hfirst] at hafter
    exact ⟨hafter, hafter⟩
  · rintro ⟨rfl, rfl⟩
    exact ⟨Nat.le_refl _, rfl, (isNone_getElem?_iff (Nat.le_refl _)).mpr rfl⟩

/-- The engine of expressions keeps the laws of engines. -/
theorem expressionEngine_laws : PatternEngine.Laws IsExpression SourceSpans where
  isPattern_of_compile h := by
    obtain ⟨g, hg, -⟩ := exists_of_compile? h
    rw [IsExpression, hg]
    rfl
  isMatch_iff h text := by
    obtain ⟨g, hg, rfl⟩ := exists_of_compile? h
    simp only [sourceSpans_iff hg, ← String.length_toList]
    exact Expression.isMatch_iff
  group_closes {tail} h := by
    have hchars : ("^(?:" ++ tail).toList = '^' :: '(' :: '?' :: ':' :: tail.toList := by simp
    rw [IsExpression, hchars] at h
    obtain ⟨before, after, htail, hbefore⟩ := exists_of_parse?_anchored h
    obtain ⟨inner, hinner⟩ := Option.isSome_iff_exists.mp hbefore
    refine ⟨String.ofList before, String.ofList after, ?_, ?_, ?_⟩
    · rw [← String.toList_inj, htail]
      simp
    · rwa [IsExpression, String.toList_ofList]
    · rw [IsExpression, toList_grouped, String.toList_ofList, parse?_grouped hinner]
      rfl
  unopened {source} h _ rest hunopened := by
    obtain ⟨inner, hinner⟩ := Option.isSome_iff_exists.mp h
    obtain ⟨g, hg⟩ := Option.isSome_iff_exists.mp hunopened
    have hchars : (source ++ ")" ++ rest).toList = source.toList ++ ')' :: rest.toList := by simp
    -- reading stops at the parenthesis, which is left over
    have hcloses := (readGroup_closes_iff (Nat.lt_succ_self _)).mpr
      ⟨source.toList, hchars, hinner⟩
    cases (parse?_eq_some_iff.mp hg).symm.trans hcloses
  spans_grouped h _ := by
    obtain ⟨inner, hinner⟩ := Option.isSome_iff_exists.mp h
    rw [sourceSpans_iff hinner, sourceSpans_iff (toList_grouped _ ▸ parse?_grouped hinner),
      finish_ofInner]
  spans_start := sourceSpans_start
  spans_end := sourceSpans_end
  spans_sequence {source text first last} h _ := by
    obtain ⟨inner, hinner⟩ := Option.isSome_iff_exists.mp h
    have hgroup := toList_grouped source ▸ parse?_grouped hinner
    have hparse := toList_anchored source ▸ parse?_anchored hinner
    -- what the content matches ends inside the text, since matching does not go back
    have hforward := (inner.finish.1.isForward_spans text.toList).le_length
    rw [sourceSpans_iff hparse, finish_afterInner]
    simp only [sourceSpans_iff parse?_circumflex, sourceSpans_iff parse?_dollar,
      sourceSpans_iff hgroup, finish_ofInner]
    constructor
    · rintro ⟨hfirst, i, ⟨rfl, hbefore⟩, j, hspans, hafter⟩
      have hj := hforward _ j hspans (String.length_toList ▸ hfirst)
      exact ⟨first, j, ⟨hfirst, rfl, hbefore⟩, ⟨hfirst, hspans⟩, String.length_toList ▸ hj, hafter⟩
    · rintro ⟨i, j, ⟨hfirst, hbefore⟩, ⟨-, hspans⟩, -, hafter⟩
      exact ⟨hfirst, i, hbefore, j, hspans, hafter⟩

end

end CatalogRecords.Pattern
