import CatalogRecords.Proofs.Query.Lexing
import CatalogRecords.Query.Reader

/-!
# The tokens that a text spells

A stretch of text spells tokens when cutting it, before whatever comes next, gives the lexemes of
these tokens with only separators between them. What two neighbouring stretches spell they spell
together, so that the tokens of a long text are found piece by piece. A text that spells tokens up
to its end is read as these tokens, strictly or leniently.
-/

namespace CatalogRecords.Query

/-- The tokens that pieces make. -/
def kindsIn : List Piece → List TokenKind
  | [] => []
  | .lexeme chars :: rest => TokenKind.ofLexeme chars :: kindsIn rest
  | .other _ :: rest => kindsIn rest

/-- Whether a character may stand between tokens. -/
def isSeparator (c : Char) : Bool := Text.isBlank c || c == ','

/-- Whether nothing but separators stands between the lexemes. -/
def areSeparated : List Piece → Bool
  | [] => true
  | .lexeme _ :: rest => areSeparated rest
  | .other c :: rest => isSeparator c && areSeparated rest

/-- The characters, before `rest`, are the tokens with separators between them. -/
def Spells (chars : List Char) (kinds : List TokenKind) (rest : List Char) : Prop :=
  ∃ ps, pieces (chars ++ rest) = ps ++ pieces rest ∧ kindsIn ps = kinds ∧ areSeparated ps = true

/-- The tokens of two lists of pieces stand one after the other. -/
theorem kindsIn_append (ps qs : List Piece) : kindsIn (ps ++ qs) = kindsIn ps ++ kindsIn qs := by
  fun_induction kindsIn ps with
  | case1 => rfl
  | case2 chars ps ih => simp [kindsIn, ih]
  | case3 c ps ih => simp [kindsIn, ih]

/-- Two lists of pieces are separated when both are. -/
theorem areSeparated_append (ps qs : List Piece) :
    areSeparated (ps ++ qs) = (areSeparated ps && areSeparated qs) := by
  fun_induction areSeparated ps with
  | case1 => rfl
  | case2 chars ps ih => simp [areSeparated, ih]
  | case3 c ps ih => simp [areSeparated, ih, Bool.and_assoc]

/-- Where the tokens of a text start does not matter for what they are. -/
theorem map_kind_tokensFrom (offset : Nat) (ps : List Piece) :
    (tokensFrom offset ps).map Token.kind = kindsIn ps := by
  fun_induction tokensFrom offset ps with
  | case1 => rfl
  | case2 offset chars ps ih => simp [kindsIn, ih]
  | case3 offset c ps ih => simp [kindsIn, ih]

/-- Nothing strays between separated lexemes. -/
theorem strayFrom?_eq_none (offset : Nat) {ps : List Piece} (hps : areSeparated ps = true) :
    strayFrom? offset ps = none := by
  fun_induction strayFrom? offset ps with
  | case1 => rfl
  | case2 offset chars ps ih => exact ih hps
  | case3 offset c ps hc ih =>
    rw [areSeparated, Bool.and_eq_true] at hps
    exact ih hps.2
  | case4 offset c ps hc =>
    rw [areSeparated, Bool.and_eq_true] at hps
    exact absurd hps.1 hc

/-- A separator begins no lexeme. -/
theorem lexeme?_separator {c : Char} (hc : isSeparator c = true) (cs : List Char) :
    lexeme? (c :: cs) = none := by
  have hne (d : Char) (hd : isSeparator d = false) : c ≠ d := by
    rintro rfl
    rw [hc] at hd
    contradiction
  have hname : isNameChar c = false := by
    by_contra hname
    have hblank := isBlank_eq_false_of_isNameChar (Bool.not_eq_false _ ▸ hname)
    have hcomma : c = ',' := by simpa [isSeparator, hblank] using hc
    subst hcomma
    exact hname (by decide)
  unfold lexeme?
  split <;> rename_i heq
  · contradiction
  · exact absurd (List.head_eq_of_cons_eq heq) (hne _ (by decide))
  · exact absurd (List.head_eq_of_cons_eq heq) (hne _ (by decide))
  · exact absurd (List.head_eq_of_cons_eq heq) (hne _ (by decide))
  · exact absurd (List.head_eq_of_cons_eq heq) (hne _ (by decide))
  · obtain ⟨rfl, rfl⟩ := List.cons_eq_cons.mp heq
    simp [hname, hne '<' (by decide), hne '>' (by decide), hne '=' (by decide),
      hne '*' (by decide), hne '(' (by decide), hne ')' (by decide)]

namespace Spells

variable {chars more rest : List Char} {kinds others : List TokenKind}

/-- No characters spell no tokens. -/
theorem nil : Spells [] [] rest := ⟨[], rfl, rfl, rfl⟩

/-- What two stretches spell they spell together. -/
theorem append (h : Spells chars kinds (more ++ rest)) (hmore : Spells more others rest) :
    Spells (chars ++ more) (kinds ++ others) rest := by
  obtain ⟨ps, hps, rfl, hsep⟩ := h
  obtain ⟨qs, hqs, rfl, hsep'⟩ := hmore
  refine ⟨ps ++ qs, ?_, kindsIn_append ps qs, ?_⟩
  · rw [List.append_assoc, hps, hqs, List.append_assoc]
  · rw [areSeparated_append, hsep, hsep', Bool.and_true]

/-- A separator before a stretch changes nothing. -/
theorem separator {c : Char} (hc : isSeparator c = true) (h : Spells chars kinds rest) :
    Spells (c :: chars) kinds rest := by
  obtain ⟨ps, hps, rfl, hsep⟩ := h
  refine ⟨.other c :: ps, ?_, rfl, ?_⟩
  · rw [List.cons_append, pieces_of_other (lexeme?_separator hc _), hps, List.cons_append]
  · rw [areSeparated, hc, hsep, Bool.and_true]

/-- A token written again spells itself. -/
theorem token (kind : TokenKind) (hkind : kind.IsWritable)
    (hrest : kind.isClosed = true ∨ Breaks rest) : Spells kind.text.toList [kind] rest := by
  refine ⟨[.lexeme kind.text.toList], ?_, ?_, rfl⟩
  · rw [pieces_of_lexeme (lexeme?_text hkind hrest), List.drop_left, List.singleton_append]
  · rw [kindsIn, ofLexeme_text hkind, kindsIn]

end Spells

/-- A text that spells tokens to its end is read as these tokens. -/
theorem tokenize_of_spells (reading : Reading) {text : String} {kinds : List TokenKind}
    (h : Spells text.toList kinds []) :
    ∃ ts, tokenize reading text = .ok ts ∧ ts.map Token.kind = kinds := by
  obtain ⟨ps, hps, rfl, hsep⟩ := h
  rw [List.append_nil, show pieces [] = [] from rfl, List.append_nil] at hps
  have hstray : stray? text = none := by rw [stray?, hps, strayFrom?_eq_none 0 hsep]
  refine ⟨tokens text, ?_, ?_⟩
  · cases reading <;> simp [tokenize, hstray]
  · rw [tokens, hps, map_kind_tokensFrom]

/-- Every lexeme among the pieces of a text was cut off from some part of it. -/
theorem exists_lexeme?_of_mem_pieces {cs chars : List Char} (h : .lexeme chars ∈ pieces cs) :
    ∃ rest, lexeme? rest = some chars := by
  induction cs using pieces_induction with
  | nil => exact absurd h (by simp [pieces, piecesAfter])
  | lexeme first rest hfirst hpieces ih =>
    rw [hpieces, List.mem_cons] at h
    rcases h with heq | h
    · cases heq
      exact ⟨_, hfirst⟩
    · exact ih h
  | other c cs hother ih =>
    rw [pieces_of_other hother] at h
    exact ih (by simpa using h)

/-- The tokens that pieces make come from lexemes. -/
theorem exists_lexeme_of_mem_kindsIn {ps : List Piece} {kind : TokenKind} (h : kind ∈ kindsIn ps) :
    ∃ chars, .lexeme chars ∈ ps ∧ TokenKind.ofLexeme chars = kind := by
  fun_induction kindsIn ps with
  | case1 => contradiction
  | case2 chars ps ih =>
    rcases List.mem_cons.mp h with rfl | h
    · exact ⟨chars, by simp, rfl⟩
    · obtain ⟨chars, hmem, heq⟩ := ih h
      exact ⟨chars, List.mem_cons_of_mem _ hmem, heq⟩
  | case3 c ps ih =>
    obtain ⟨chars, hmem, heq⟩ := ih h
    exact ⟨chars, List.mem_cons_of_mem _ hmem, heq⟩

/-- All tokens of a text are of the restricted form. -/
theorem isWritable_of_mem_tokens {text : String} {token : Token} (h : token ∈ tokens text) :
    token.kind.IsWritable := by
  have hkind : token.kind ∈ kindsIn (pieces text.toList) := by
    rw [← map_kind_tokensFrom 0]
    exact List.mem_map_of_mem h
  obtain ⟨chars, hmem, heq⟩ := exists_lexeme_of_mem_kindsIn hkind
  obtain ⟨rest, hrest⟩ := exists_lexeme?_of_mem_pieces hmem
  exact heq ▸ isWritable_ofLexeme hrest

end CatalogRecords.Query
