import CatalogRecords.Pattern.Engine

/-!
# Patterns for whole values

The pattern for whole values is a text: the given source in a group between two anchors. Texts are
put together before any engine reads them, so what the text means is a matter of the engine's
syntax. What is documented of an engine is taken as laws here: groups close, a closing parenthesis
needs an opening one, a group means what is in it, and anchors stand for the ends of the text.

For every engine with these laws a source that compiles between the anchors is a regular expression
by itself, unless it closes the group early; and then the compiled pattern matches the texts that
the source matches from their first to their last character.
-/

namespace CatalogRecords

namespace Pattern

/-- A source in a group without a name. -/
def grouped (source : String) : String := "(?:" ++ source ++ ")"

/-- A source closes a group that was opened before it: what is before one of its closing parentheses
is a regular expression, and still one in a group of its own. -/
def ClosesEarly (IsPattern : String → Prop) (source : String) : Prop :=
  ∃ inner rest, source = inner ++ ")" ++ rest ∧ IsPattern inner ∧ IsPattern (grouped inner)

/-- The pattern for whole values is a sequence of an anchor, a group and another anchor. -/
theorem wholeValue_eq (source : String) : wholeValue source = "^" ++ grouped source ++ "$" := by
  simp [wholeValue, grouped, ← String.toList_inj]

/-- The pattern for whole values opens the group, and what is behind may close it. -/
theorem wholeValue_eq_append (source : String) :
    wholeValue source = "^(?:" ++ (source ++ ")$") := by
  simp [wholeValue, ← String.toList_inj]

/-- What is before a closing parenthesis of a text that ends with `)$` is all of the text before
that end, or ends inside it. -/
theorem eq_or_exists_of_append_close {source inner rest : String}
    (h : source ++ ")$" = inner ++ ")" ++ rest) :
    source = inner ∨ ∃ rest, source = inner ++ ")" ++ rest := by
  have hchars : source.toList ++ [')', '$'] = inner.toList ++ ')' :: rest.toList := by
    simpa using congrArg String.toList h
  rcases List.append_eq_append_iff.mp hchars with ⟨w, hinner, hclose⟩ | ⟨w, hsource, hclose⟩
  · cases w with
    | nil => exact Or.inl (String.toList_inj.mp (by simpa using hinner.symm))
    | cons c w =>
      -- a closing parenthesis would stand behind the last one
      have hmem : ')' ∈ ['$'] := by
        rw [(List.cons.inj hclose).2]
        simp
      exact absurd hmem (by decide)
  · cases w with
    | nil => exact Or.inl (String.toList_inj.mp (by simpa using hsource))
    | cons c w =>
      obtain ⟨rfl, -⟩ := List.cons.inj hclose
      exact Or.inr ⟨String.ofList w, String.toList_inj.mp (by simpa using hsource)⟩

end Pattern

open Pattern (Matcher ClosesEarly grouped wholeValue)

/-- What is documented of an engine. `IsPattern` says which texts are regular expressions in its
syntax, and `Spans` which parts of a text, from one place to another, a regular expression
matches. -/
structure PatternEngine.Laws [PatternEngine] (IsPattern : String → Prop)
    (Spans : String → String → Nat → Nat → Prop) : Prop where
  /-- Nothing but regular expressions is compiled. Some may be refused for their size. -/
  isPattern_of_compile : ∀ {source : String} {m : Matcher},
    PatternEngine.compile? source = some m → IsPattern source
  /-- A compiled regular expression is found in a text if it matches some part of it. -/
  isMatch_iff : ∀ {source : String} {m : Matcher}, PatternEngine.compile? source = some m →
    ∀ text, m.isMatch text = true ↔ ∃ first last, Spans source text first last
  /-- A group has an end, and what it holds is a regular expression, by itself and in a group. -/
  group_closes : ∀ {tail : String}, IsPattern ("^(?:" ++ tail) →
    ∃ inner rest, tail = inner ++ ")" ++ rest ∧ IsPattern inner ∧ IsPattern (grouped inner)
  /-- No parenthesis closes a group that is not open. -/
  unopened : ∀ {source : String}, IsPattern source → IsPattern (grouped source) →
    ∀ rest, ¬IsPattern (source ++ ")" ++ rest)
  /-- A group matches what is matched by the regular expression in it. -/
  spans_grouped : ∀ {source text : String} {first last : Nat}, IsPattern source →
    IsPattern (grouped source) → (Spans (grouped source) text first last ↔
      Spans source text first last)
  /-- A circumflex stands for the start of the text. -/
  spans_start : ∀ {text : String} {first last : Nat},
    Spans "^" text first last ↔ first = 0 ∧ last = 0
  /-- A dollar sign stands for the end of the text. -/
  spans_end : ∀ {text : String} {first last : Nat},
    Spans "$" text first last ↔ first = text.length ∧ last = text.length
  /-- An anchor, a group and an anchor match one after the other. -/
  spans_sequence : ∀ {source text : String} {first last : Nat}, IsPattern source →
    IsPattern (grouped source) → (Spans ("^" ++ grouped source ++ "$") text first last ↔
      ∃ i j, Spans "^" text first i ∧ Spans (grouped source) text i j ∧ Spans "$" text j last)

namespace PatternEngine.Laws

variable [PatternEngine] {IsPattern : String → Prop} {Spans : String → String → Nat → Nat → Prop}
  {source text : String}

/-- The group of a pattern for whole values holds the source, which is a regular expression then, or
the source closes it early. -/
theorem isPattern_or_closesEarly (laws : Laws IsPattern Spans)
    (h : IsPattern (wholeValue source)) :
    (IsPattern source ∧ IsPattern (grouped source)) ∨ ClosesEarly IsPattern source := by
  rw [Pattern.wholeValue_eq_append] at h
  obtain ⟨inner, rest, htail, hinner, hgrouped⟩ := laws.group_closes h
  rcases Pattern.eq_or_exists_of_append_close htail with rfl | ⟨rest, rfl⟩
  · exact Or.inl ⟨hinner, hgrouped⟩
  · exact Or.inr ⟨inner, rest, rfl, hinner, hgrouped⟩

/-- A regular expression closes no group early. -/
theorem not_closesEarly (laws : Laws IsPattern Spans) (h : IsPattern source) :
    ¬ClosesEarly IsPattern source := by
  rintro ⟨inner, rest, rfl, hinner, hgrouped⟩
  exact laws.unopened hinner hgrouped rest h

/-- Of a pattern for whole values, the source is a regular expression by itself if it does not close
the group early, and not if it does. -/
theorem isPattern_iff (laws : Laws IsPattern Spans) (h : IsPattern (wholeValue source)) :
    IsPattern source ↔ ¬ClosesEarly IsPattern source :=
  ⟨laws.not_closesEarly, fun hearly => ((laws.isPattern_or_closesEarly h).resolve_right hearly).1⟩

/-- The pattern for whole values matches from the start of a text to its end, and so does its
source. -/
theorem spans_wholeValue_iff (laws : Laws IsPattern Spans) (h : IsPattern source)
    (hgrouped : IsPattern (grouped source)) {first last : Nat} :
    Spans (wholeValue source) text first last ↔
      first = 0 ∧ last = text.length ∧ Spans source text 0 text.length := by
  rw [Pattern.wholeValue_eq, laws.spans_sequence h hgrouped]
  simp only [laws.spans_start, laws.spans_end, laws.spans_grouped h hgrouped]
  constructor
  · rintro ⟨i, j, ⟨rfl, rfl⟩, hspans, rfl, rfl⟩
    exact ⟨rfl, rfl, hspans⟩
  · rintro ⟨rfl, rfl, hspans⟩
    exact ⟨0, text.length, ⟨rfl, rfl⟩, hspans, rfl, rfl⟩

/-- The compiled pattern for whole values matches the texts that its source matches from the first
to the last character, if the source is a regular expression. -/
theorem isMatch_wholeValue_iff (laws : Laws IsPattern Spans) {m : Matcher}
    (hm : PatternEngine.compile? (wholeValue source) = some m) (h : IsPattern source) :
    m.isMatch text = true ↔ Spans source text 0 text.length := by
  have hgrouped := ((laws.isPattern_or_closesEarly (laws.isPattern_of_compile hm)).resolve_right
    (laws.not_closesEarly h)).2
  rw [laws.isMatch_iff hm]
  simp only [laws.spans_wholeValue_iff h hgrouped, exists_and_left, exists_eq_left]

end PatternEngine.Laws

end CatalogRecords
