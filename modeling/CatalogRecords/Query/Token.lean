import CatalogRecords.Query.Operator
import CatalogRecords.Text.Segments

/-!
# Tokens of queries

A query text is cut from left to right into lexemes and characters that belong to none. At each
place the longest run that a token can have there is taken; a quote or a bracket that is not closed
starts no token. What stands between the tokens does not count when a text is read leniently; read
strictly, only blanks and commas may stand there.

The cuts lose nothing: put together again, the pieces are the text (`flatMap_chars_pieces`).
-/

namespace CatalogRecords.Query

/-- What a token is. -/
inductive TokenKind where
  | literal (value : String)
  | comparator (comparator : Comparator)
  | name (text : String) (bracketed : Bool)
  | star
  | opening
  | closing
  deriving DecidableEq, Repr

/-- A token and the byte at which it starts. -/
structure Token where
  kind : TokenKind
  offset : Nat
  deriving DecidableEq, Repr

/-- A literal with a backslash before each backslash and each quote. -/
def escapeChars (cs : List Char) : List Char :=
  cs.flatMap fun c => if c = '\\' ∨ c = '"' then ['\\', c] else [c]

/-- A literal as it stands between quotes. -/
def escapeLiteral (value : String) : String := String.ofList (escapeChars value.toList)

/-- The characters that stand for themselves or, after a backslash, for what follows it. -/
def unescapeChars : List Char → List Char
  | [] => []
  | '\\' :: [] => []
  | '\\' :: c :: cs => c :: unescapeChars cs
  | c :: cs => c :: unescapeChars cs

/-- What is written between quotes comes back. -/
theorem unescapeChars_escapeChars (cs : List Char) : unescapeChars (escapeChars cs) = cs := by
  induction cs with
  | nil => rfl
  | cons c cs ih =>
    have split : escapeChars (c :: cs) =
        (if c = '\\' ∨ c = '"' then ['\\', c] else [c]) ++ escapeChars cs := rfl
    rw [split]
    by_cases slash : c = '\\'
    · simp [slash, unescapeChars, ih]
    · by_cases quote : c = '"'
      · simp [quote, unescapeChars, ih]
      · simp [slash, quote, unescapeChars, ih]

namespace TokenKind

/-- The text that a token stands for when it is written again. -/
def text : TokenKind → String
  | literal value => "\"" ++ escapeLiteral value ++ "\""
  | comparator c => c.text
  | name text bracketed => if bracketed then "[" ++ text ++ "]" else text
  | star => "*"
  | opening => "("
  | closing => ")"

/-- The word that a token may be a keyword by: a name without brackets, in upper case. -/
def keyword? : TokenKind → Option String
  | name text bracketed => if bracketed then none else some (Text.latinUpper text)
  | _ => none

end TokenKind

/-- The rest of a quoted literal after its opening quote, with the closing one. A backslash takes
the next character with it, which may not be a line break. -/
def quoted? : List Char → Option (List Char)
  | [] => none
  | '"' :: _ => some ['"']
  | '\\' :: [] => none
  | '\\' :: c :: cs => if c = '\n' then none else (quoted? cs).map ('\\' :: c :: ·)
  | c :: cs => (quoted? cs).map (c :: ·)

/-- The rest of a bracketed name after its opening bracket, with the closing one. -/
def bracketed? (cs : List Char) : Option (List Char) :=
  (Text.cutAt? (· == ']') cs).map fun (name, close, _) => name ++ [close]

/-- The characters that names and numbers without quotes consist of. -/
def isNameChar (c : Char) : Bool := Text.isWord c || c == '.'

/-- The lexeme that a text begins with. -/
def lexeme? : List Char → Option (List Char)
  | [] => none
  | '"' :: cs => (quoted? cs).map ('"' :: ·)
  | '<' :: '=' :: _ => some ['<', '=']
  | '>' :: '=' :: _ => some ['>', '=']
  | '[' :: cs => (bracketed? cs).map ('[' :: ·)
  | c :: cs =>
    if ['<', '>', '=', '*', '(', ')'].contains c then some [c]
    else if isNameChar c then some (c :: cs.takeWhile isNameChar)
    else none

/-- What a lexeme is. -/
def TokenKind.ofLexeme (cs : List Char) : TokenKind :=
  match cs with
  | '"' :: rest => .literal (String.ofList (unescapeChars rest.dropLast))
  | '[' :: rest => .name (Text.trim (String.ofList rest.dropLast)) true
  | ['*'] => .star
  | ['('] => .opening
  | [')'] => .closing
  | cs =>
    let text := String.ofList cs
    match Comparator.ofText? text with
    | some c => .comparator c
    | none => .name text false

/-- A piece of a query text. -/
inductive Piece where
  | lexeme (chars : List Char)
  | other (char : Char)
  deriving DecidableEq, Repr

/-- The characters of a piece. -/
def Piece.chars : Piece → List Char
  | lexeme chars => chars
  | other char => [char]

/-- The pieces of a text from `skip` characters on. -/
def piecesAfter : (skip : Nat) → List Char → List Piece
  | _, [] => []
  | skip + 1, _ :: cs => piecesAfter skip cs
  | 0, c :: cs =>
    match lexeme? (c :: cs) with
    | some chars => .lexeme chars :: piecesAfter (chars.length - 1) cs
    | none => .other c :: piecesAfter 0 cs

/-- The pieces of a text. -/
def pieces (cs : List Char) : List Piece := piecesAfter 0 cs

/-- The number of bytes that characters are written with. -/
def byteWidth : List Char → Nat
  | [] => 0
  | c :: cs => c.utf8Size + byteWidth cs

/-- The tokens among the pieces of a text that starts at an offset. -/
def tokensFrom (offset : Nat) : List Piece → List Token
  | [] => []
  | .lexeme chars :: rest =>
    ⟨.ofLexeme chars, offset⟩ :: tokensFrom (offset + byteWidth chars) rest
  | .other c :: rest => tokensFrom (offset + c.utf8Size) rest

/-- The first character, with its offset, that may not stand between tokens. -/
def strayFrom? (offset : Nat) : List Piece → Option (Nat × Char)
  | [] => none
  | .lexeme chars :: rest => strayFrom? (offset + byteWidth chars) rest
  | .other c :: rest =>
    if Text.isBlank c || c == ',' then strayFrom? (offset + c.utf8Size) rest else some (offset, c)

/-- The tokens of a text. -/
def tokens (text : String) : List Token := tokensFrom 0 (pieces text.toList)

/-- The first character of a text, with its offset, that may not stand between tokens. -/
def stray? (text : String) : Option (Nat × Char) := strayFrom? 0 (pieces text.toList)

/-- A quoted literal is part of the text after its opening quote. -/
theorem quoted?_isPrefix {cs chars : List Char} (h : quoted? cs = some chars) : chars <+: cs := by
  fun_induction quoted? cs generalizing chars with
  | case1 => simp at h
  | case2 rest =>
    cases h
    exact ⟨rest, rfl⟩
  | case3 => simp at h
  | case4 => simp at h
  | case5 c cs _ ih =>
    obtain ⟨more, hmore, rfl⟩ := Option.map_eq_some_iff.1 h
    obtain ⟨rest, hrest⟩ := ih hmore
    exact ⟨rest, by simp [← hrest]⟩
  | case6 c cs _ _ _ ih =>
    obtain ⟨more, hmore, rfl⟩ := Option.map_eq_some_iff.1 h
    obtain ⟨rest, hrest⟩ := ih hmore
    exact ⟨rest, by simp [← hrest]⟩

/-- A bracketed name is part of the text after its opening bracket. -/
theorem bracketed?_isPrefix {cs chars : List Char} (h : bracketed? cs = some chars) :
    chars <+: cs := by
  obtain ⟨⟨name, close, rest⟩, hcut, rfl⟩ := Option.map_eq_some_iff.1 h
  exact ⟨rest, by simpa using (Text.eq_of_cutAt? hcut).symm⟩

/-- A lexeme is a part of the text that it begins, and not empty. -/
theorem lexeme?_isPrefix {cs chars : List Char} (h : lexeme? cs = some chars) :
    chars <+: cs ∧ chars ≠ [] := by
  unfold lexeme? at h
  split at h
  · simp at h
  · obtain ⟨more, hmore, rfl⟩ := Option.map_eq_some_iff.1 h
    obtain ⟨rest, hrest⟩ := quoted?_isPrefix hmore
    exact ⟨⟨rest, by simp [← hrest]⟩, by simp⟩
  · cases h
    exact ⟨⟨_, rfl⟩, by simp⟩
  · cases h
    exact ⟨⟨_, rfl⟩, by simp⟩
  · obtain ⟨more, hmore, rfl⟩ := Option.map_eq_some_iff.1 h
    obtain ⟨rest, hrest⟩ := bracketed?_isPrefix hmore
    exact ⟨⟨rest, by simp [← hrest]⟩, by simp⟩
  · rename_i c cs _ _ _ _
    split at h
    · cases h
      exact ⟨⟨cs, rfl⟩, by simp⟩
    · split at h
      · cases h
        exact ⟨⟨cs.dropWhile isNameChar, by simp⟩, by simp⟩
      · simp at h

/-- Skipped characters have no part in the pieces. -/
theorem piecesAfter_eq_pieces_drop (skip : Nat) (cs : List Char) :
    piecesAfter skip cs = pieces (cs.drop skip) := by
  induction cs generalizing skip with
  | nil => cases skip <;> rfl
  | cons c cs ih =>
    cases skip with
    | zero => rfl
    | succ skip => simpa [piecesAfter] using ih skip

/-- The pieces of a text are its first lexeme and the pieces after it. -/
theorem pieces_of_lexeme {cs chars : List Char} (h : lexeme? cs = some chars) :
    pieces cs = .lexeme chars :: pieces (cs.drop chars.length) := by
  cases cs with
  | nil => simp [lexeme?] at h
  | cons c cs =>
    obtain ⟨_, hne⟩ := lexeme?_isPrefix h
    have hlen : chars.length = chars.length - 1 + 1 := by
      have := List.length_pos_iff.2 hne
      omega
    rw [hlen, List.drop_succ_cons, ← piecesAfter_eq_pieces_drop]
    simp [pieces, piecesAfter, h]

/-- A character that begins no lexeme is a piece. -/
theorem pieces_of_other {c : Char} {cs : List Char} (h : lexeme? (c :: cs) = none) :
    pieces (c :: cs) = .other c :: pieces cs := by
  simp [pieces, piecesAfter, h]

/-- What holds of the empty text, passes on to a text from what stands behind its first lexeme, and
passes on to a text without a lexeme at its beginning from all but its first character, holds of
every text. -/
theorem pieces_induction {motive : List Char → Prop} (nil : motive [])
    (lexeme : ∀ chars rest, lexeme? (chars ++ rest) = some chars →
      pieces (chars ++ rest) = .lexeme chars :: pieces rest → motive rest → motive (chars ++ rest))
    (other : ∀ c cs, lexeme? (c :: cs) = none → motive cs → motive (c :: cs))
    (cs : List Char) : motive cs := by
  generalize hn : cs.length = n
  induction n using Nat.strongRecOn generalizing cs with
  | ind n ih =>
    cases cs with
    | nil => exact nil
    | cons c cs =>
      cases h : lexeme? (c :: cs) with
      | none => exact other c cs h (ih cs.length (by simp [← hn]) cs rfl)
      | some chars =>
        obtain ⟨⟨rest, hrest⟩, hne⟩ := lexeme?_isPrefix h
        have hpos := List.length_pos_iff.2 hne
        have hpieces := pieces_of_lexeme h
        rw [← hrest, List.drop_left] at hpieces
        rw [← hrest] at h hn ⊢
        exact lexeme chars rest h hpieces (ih rest.length (by simp [← hn]; omega) rest rfl)

/-- The pieces of a text, put together again, are the text. -/
theorem flatMap_chars_pieces (cs : List Char) : (pieces cs).flatMap Piece.chars = cs := by
  induction cs using pieces_induction with
  | nil => rfl
  | lexeme chars rest _ hpieces ih => rw [hpieces, List.flatMap_cons, ih, Piece.chars]
  | other c cs h ih =>
    rw [pieces_of_other h, List.flatMap_cons, ih, Piece.chars, List.singleton_append]

end CatalogRecords.Query
