import CatalogRecords.Proofs.Query.Writing
import Mathlib.Data.List.Forall2

/-!
# The places of tokens in a text

Every token stands for a span of the text, the bytes of the lexeme that it was made of. The spans
follow one another without overlap, and what lies outside all of them is all that strict reading
looks at before it accepts the tokens: it must be blanks and commas. The tokens, written again with
blanks between them, are read as tokens of the same kinds.
-/

namespace CatalogRecords.Query

/-- The bytes of a text from one place up to another. -/
structure Span where
  start : Nat
  stop : Nat
  deriving DecidableEq, Repr

/-- Whether a byte lies in a span. -/
def Span.holds (s : Span) (place : Nat) : Bool := s.start ≤ place && place < s.stop

/-- The spans of the lexemes among the pieces of a text that starts at an offset. -/
def spansFrom (offset : Nat) : List Piece → List Span
  | [] => []
  | .lexeme chars :: rest =>
    ⟨offset, offset + byteWidth chars⟩ :: spansFrom (offset + byteWidth chars) rest
  | .other c :: rest => spansFrom (offset + c.utf8Size) rest

/-- The spans of the lexemes of a text. -/
def spans (text : String) : List Span := spansFrom 0 (pieces text.toList)

/-- Characters with the bytes at which they start, the first of them at an offset. -/
def placedFrom (offset : Nat) : List Char → List (Nat × Char)
  | [] => []
  | c :: cs => (offset, c) :: placedFrom (offset + c.utf8Size) cs

/-- Whether a byte lies outside all spans. -/
def isOutside (ss : List Span) (place : Nat) : Bool := ss.all fun s => !s.holds place

/-- Whether a character outside all spans may not stand there. -/
def isStray (ss : List Span) (placed : Nat × Char) : Bool :=
  isOutside ss placed.1 && !isSeparator placed.2

/-- Whether a token was made of the lexeme that begins where the span does and ends with it. -/
def Covers (text : List Char) (s : Span) (token : Token) : Prop :=
  ∃ before chars after, text = before ++ (chars ++ after) ∧
    lexeme? (chars ++ after) = some chars ∧ token = ⟨.ofLexeme chars, s.start⟩ ∧
    s.start = byteWidth before ∧ s.stop = byteWidth before + byteWidth chars

/-! Widths. -/

variable {offset place : Nat} {cs : List Char} {ps : List Piece}

/-- The widths of two texts add up. -/
theorem byteWidth_append (cs ds : List Char) :
    byteWidth (cs ++ ds) = byteWidth cs + byteWidth ds := by
  induction cs with
  | nil => simp [byteWidth]
  | cons c cs ih => rw [List.cons_append, byteWidth, byteWidth, ih, Nat.add_assoc]

/-- A text that is not empty has a width. -/
theorem byteWidth_pos (hne : cs ≠ []) : 0 < byteWidth cs := by
  cases cs with
  | nil => contradiction
  | cons c cs =>
    have := c.utf8Size_pos
    rw [byteWidth]
    omega

/-- A text is placed by placing its first part and, from where that ends, its second. -/
theorem placedFrom_append (cs ds : List Char) (offset : Nat) :
    placedFrom offset (cs ++ ds) =
      placedFrom offset cs ++ placedFrom (offset + byteWidth cs) ds := by
  induction cs generalizing offset with
  | nil => rfl
  | cons c cs ih =>
    rw [List.cons_append, placedFrom, ih, placedFrom, byteWidth, List.cons_append, Nat.add_assoc]

/-- A character is placed at or after the beginning of its text and before the end. -/
theorem bounds_of_mem_placedFrom {placed : Nat × Char} (h : placed ∈ placedFrom offset cs) :
    offset ≤ placed.1 ∧ placed.1 < offset + byteWidth cs := by
  induction cs generalizing offset with
  | nil => exact absurd h List.not_mem_nil
  | cons c cs ih =>
    have hpos := c.utf8Size_pos
    rw [byteWidth]
    rcases List.mem_cons.mp h with rfl | h
    · exact ⟨le_refl _, by dsimp only; omega⟩
    · have hrest := ih h
      omega

/-! Spans. -/

/-- No span starts before the text does. -/
theorem le_start_of_mem_spansFrom {s : Span} (h : s ∈ spansFrom offset ps) : offset ≤ s.start := by
  fun_induction spansFrom offset ps with
  | case1 => exact absurd h List.not_mem_nil
  | case2 offset chars ps ih =>
    rcases List.mem_cons.mp h with rfl | h
    · exact le_refl _
    · exact (Nat.le_add_right _ _).trans (ih h)
  | case3 offset c ps ih => exact (Nat.le_add_right _ _).trans (ih h)

/-- A byte before all spans is outside. -/
theorem isOutside_of_lt {ss : List Span} (h : ∀ s ∈ ss, place < s.start) :
    isOutside ss place = true := by
  rw [isOutside, List.all_eq_true]
  intro s hs
  simp [Span.holds, h s hs]

/-- A span ends where the next one starts, or before. -/
theorem pairwise_spansFrom (offset : Nat) (ps : List Piece) :
    (spansFrom offset ps).Pairwise fun s t => s.stop ≤ t.start := by
  fun_induction spansFrom offset ps with
  | case1 => exact List.Pairwise.nil
  | case2 offset chars ps ih =>
    exact List.pairwise_cons.mpr ⟨fun s hs => le_start_of_mem_spansFrom hs, ih⟩
  | case3 offset c ps ih => exact ih

/-- Inside the first of some spans no character strays, and behind it the others decide. -/
theorem find?_isStray_of_lexeme (chars cs : List Char) (ss : List Span) :
    (placedFrom offset (chars ++ cs)).find?
        (isStray (⟨offset, offset + byteWidth chars⟩ :: ss)) =
      (placedFrom (offset + byteWidth chars) cs).find? (isStray ss) := by
  have hinside : (placedFrom offset chars).find?
      (isStray (⟨offset, offset + byteWidth chars⟩ :: ss)) = none := by
    rw [List.find?_eq_none]
    intro placed hplaced
    obtain ⟨hstart, hstop⟩ := bounds_of_mem_placedFrom hplaced
    simp [isStray, isOutside, Span.holds, hstart, hstop]
  have hbehind : ∀ placed ∈ placedFrom (offset + byteWidth chars) cs,
      isStray (⟨offset, offset + byteWidth chars⟩ :: ss) placed = isStray ss placed := by
    intro placed hplaced
    obtain ⟨hstop, -⟩ := bounds_of_mem_placedFrom hplaced
    simp [isStray, isOutside, Span.holds, Nat.not_lt.mpr hstop]
  rw [placedFrom_append, List.find?_append, hinside, Option.none_or, ← List.head?_filter,
    List.filter_congr hbehind, List.head?_filter]

/-- What may not stand between tokens is found among the characters outside their spans. -/
theorem strayFrom?_eq_find? (offset : Nat) (ps : List Piece) :
    strayFrom? offset ps =
      (placedFrom offset (ps.flatMap Piece.chars)).find? (isStray (spansFrom offset ps)) := by
  fun_induction strayFrom? offset ps with
  | case1 => rfl
  | case2 offset chars ps ih => rw [ih, spansFrom, List.flatMap_cons, Piece.chars,
      find?_isStray_of_lexeme]
  | case3 offset c ps hc ih =>
    have hseparator : isSeparator c = true := hc
    rw [ih, spansFrom, List.flatMap_cons, Piece.chars, List.singleton_append, placedFrom,
      List.find?_cons_of_neg (by simp [isStray, hseparator])]
  | case4 offset c ps hc =>
    have hother : isSeparator c = false := Bool.not_eq_true _ ▸ hc
    have houtside : isOutside (spansFrom (offset + c.utf8Size) ps) offset = true := by
      apply isOutside_of_lt
      intro s hs
      have hpos := c.utf8Size_pos
      have hstart := le_start_of_mem_spansFrom hs
      omega
    rw [spansFrom, List.flatMap_cons, Piece.chars, List.singleton_append, placedFrom,
      List.find?_cons_of_pos (by simp [isStray, hother, houtside])]

/-- The spans of a text are those of its tokens. -/
theorem covers_pieces (before cs : List Char) :
    List.Forall₂ (Covers (before ++ cs)) (spansFrom (byteWidth before) (pieces cs))
      (tokensFrom (byteWidth before) (pieces cs)) := by
  induction cs using pieces_induction generalizing before with
  | nil => exact List.Forall₂.nil
  | lexeme chars rest hlexeme hpieces ih =>
    have hrest := ih (before ++ chars)
    rw [byteWidth_append, List.append_assoc] at hrest
    rw [hpieces, spansFrom, tokensFrom]
    exact List.Forall₂.cons ⟨before, chars, rest, rfl, hlexeme, rfl, rfl, rfl⟩ hrest
  | other c cs hother ih =>
    have hrest := ih (before ++ [c])
    rw [byteWidth_append, List.append_assoc, List.singleton_append] at hrest
    rw [pieces_of_other hother, spansFrom, tokensFrom]
    exact hrest

/-- A token starts where its span does. -/
theorem Covers.start {text : List Char} {s : Span} {token : Token} (h : Covers text s token) :
    token.offset = s.start := by
  obtain ⟨_, _, _, -, -, rfl, -, -⟩ := h
  rfl

/-- A span is not empty and lies inside the text. -/
theorem Covers.bounds {text : List Char} {s : Span} {token : Token} (h : Covers text s token) :
    s.start < s.stop ∧ s.stop ≤ byteWidth text := by
  obtain ⟨before, chars, after, rfl, hlexeme, -, hstart, hstop⟩ := h
  have hpos := byteWidth_pos (lexeme?_isPrefix hlexeme).2
  rw [byteWidth_append, byteWidth_append]
  omega

/-! Writing tokens again. -/

/-- Tokens that lexemes make, written with blanks between them, spell themselves. -/
theorem spells_kinds {kinds : List TokenKind} (hkinds : ∀ kind ∈ kinds, kind.IsWritable) :
    Spells (Text.join " " (kinds.map TokenKind.text)).toList kinds [] := by
  induction kinds with
  | nil => exact Spells.nil
  | cons kind kinds ih =>
    rw [List.forall_mem_cons] at hkinds
    cases kinds with
    | nil => simpa [Text.join] using Spells.token kind hkinds.1 (.inr breaks_nil)
    | cons next kinds =>
      simpa [Text.join, String.intercalate_cons_cons] using (ih hkinds.2).tokenThen kind hkinds.1

/-- The tokens of a text, written with blanks between them. -/
def rewritten (text : String) : String :=
  Text.join " " ((tokens text).map fun token => token.kind.text)

/-- Tokens that are written again are read strictly as tokens of the same kinds. -/
theorem tokenize_rewritten (text : String) :
    ∃ ts, tokenize .strict (rewritten text) = .ok ts ∧
      ts.map Token.kind = (tokens text).map Token.kind := by
  have hkinds : ∀ kind ∈ (tokens text).map Token.kind, kind.IsWritable := by
    intro kind hkind
    obtain ⟨token, htoken, rfl⟩ := List.mem_map.mp hkind
    exact isWritable_of_mem_tokens htoken
  have hspells := spells_kinds hkinds
  rw [List.map_map] at hspells
  exact tokenize_of_spells .strict hspells

/-- The tokens of a text have spans that follow one another without overlap, each of them the
lexeme that the token was made of. Strict reading fails at the first character outside the spans
that is neither a blank nor a comma, and comes to the tokens if there is none. Written again, the
tokens keep their kinds. -/
theorem tokens_partition_text (text : String) :
    tokenize .lenient text = .ok (tokens text) ∧
    List.Forall₂ (Covers text.toList) (spans text) (tokens text) ∧
    (∀ s ∈ spans text, s.start < s.stop ∧ s.stop ≤ byteWidth text.toList) ∧
    ((spans text).Pairwise fun s t => s.stop ≤ t.start) ∧
    ((tokens text).Pairwise fun s t => s.offset < t.offset) ∧
    tokenize .strict text =
      (match (placedFrom 0 text.toList).find? (isStray (spans text)) with
      | none => .ok (tokens text)
      | some (offset, found) => .error (.unexpectedCharacter offset found)) ∧
    ∃ ts, tokenize .strict (rewritten text) = .ok ts ∧
      ts.map Token.kind = (tokens text).map Token.kind := by
  have hcovers : List.Forall₂ (Covers text.toList) (spans text) (tokens text) :=
    covers_pieces [] text.toList
  have hbounds : ∀ s ∈ spans text, s.start < s.stop ∧ s.stop ≤ byteWidth text.toList :=
    ((List.forall₂_and_left _ _).mp (hcovers.imp fun s token h => ⟨h.bounds, h⟩)).1
  have hdisjoint : (spans text).Pairwise fun s t => s.stop ≤ t.start :=
    pairwise_spansFrom 0 (pieces text.toList)
  refine ⟨rfl, hcovers, hbounds, hdisjoint, ?_, ?_, tokenize_rewritten text⟩
  · have hstarts : (spans text).map Span.start = (tokens text).map Token.offset := by
      rw [← List.forall₂_eq_eq_eq, List.forall₂_map_left_iff, List.forall₂_map_right_iff]
      exact hcovers.imp fun s token h => h.start.symm
    rw [← List.pairwise_map (f := Token.offset) (R := (· < ·)), ← hstarts, List.pairwise_map]
    exact hdisjoint.imp_of_mem fun hs _ hst => (hbounds _ hs).1.trans_le hst
  · have hstray := strayFrom?_eq_find? 0 (pieces text.toList)
    rw [flatMap_chars_pieces] at hstray
    rw [spans, ← hstray]
    unfold tokenize stray?
    cases strayFrom? 0 (pieces text.toList) <;> rfl

/-- A text in which a semicolon stands between tokens. -/
def unevenText : String := "\"é\" ,; [b ] <= \"x\\\"\""

/-- The tokens of the text are four, and the semicolon is refused at its byte. -/
theorem tokens_partition_text_uneven :
    spans unevenText = [⟨0, 4⟩, ⟨8, 12⟩, ⟨13, 15⟩, ⟨16, 21⟩] ∧
    List.Forall₂ (Covers unevenText.toList) [⟨0, 4⟩, ⟨8, 12⟩, ⟨13, 15⟩, ⟨16, 21⟩]
      [⟨.literal "é", 0⟩, ⟨.name "b" true, 8⟩, ⟨.comparator .lessOrEqual, 13⟩,
        ⟨.literal "x\"", 16⟩] ∧
    tokenize .strict unevenText = .error (.unexpectedCharacter 6 ';') ∧
    ∃ ts, tokenize .strict "\"é\" [b] <= \"x\\\"\"" = .ok ts ∧ ts.map Token.kind =
      [.literal "é", .name "b" true, .comparator .lessOrEqual, .literal "x\""] := by
  obtain ⟨-, hcovers, -, -, -, hstrict, hrewritten⟩ := tokens_partition_text unevenText
  exact ⟨rfl, hcovers, hstrict, hrewritten⟩

end CatalogRecords.Query
