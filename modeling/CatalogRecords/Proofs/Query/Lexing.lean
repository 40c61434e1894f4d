import CatalogRecords.Proofs.Text.Trimming
import CatalogRecords.Query.Token

/-!
# Tokens written again

Every lexeme makes a token of a restricted form: a name in brackets has no closing bracket and no
blank at its ends, a word consists of word characters and is no comparator. A token of that form,
written again, is one lexeme and makes the same token, whatever follows it; only behind a word or a
comparator must something follow that does not prolong it.
-/

namespace CatalogRecords.Query

/-- A name that brackets can hold. -/
def IsPlainName (name : String) : Prop := ']' ∉ name.toList ∧ Text.trim name = name

/-- Whether brackets can hold a name can be decided. -/
instance (name : String) : Decidable (IsPlainName name) :=
  inferInstanceAs (Decidable (_ ∧ _))

/-- The tokens that lexemes make. -/
def TokenKind.IsWritable : TokenKind → Prop
  | .name text true => IsPlainName text
  | .name text false =>
    text ≠ "" ∧ (∀ c ∈ text.toList, isNameChar c = true) ∧ Comparator.ofText? text = none
  | _ => True

/-- What may follow a word or a comparator without prolonging it. -/
def Breaks (rest : List Char) : Prop := ∀ c ∈ rest.head?, isNameChar c = false ∧ c ≠ '='

/-- A token that ends by itself, whatever follows it. -/
def TokenKind.isClosed : TokenKind → Bool
  | .comparator _ => false
  | .name _ bracketed => bracketed
  | _ => true

/-- A name character differs from any other character. -/
theorem ne_of_isNameChar {c d : Char} (hc : isNameChar c = true) (hd : isNameChar d = false) :
    c ≠ d := by
  rintro rfl
  rw [hc] at hd
  contradiction

/-- No name character is a blank. -/
theorem isBlank_eq_false_of_isNameChar {c : Char} (hc : isNameChar c = true) :
    Text.isBlank c = false := by
  by_contra hblank
  have hword := Text.isWord_eq_false_of_isBlank (Bool.not_eq_false _ ▸ hblank)
  have hdot : c = '.' := by simpa [isNameChar, hword] using hc
  subst hdot
  exact hblank (by decide)

/-- A word can also stand in brackets. -/
theorem isPlainName_of_isNameChar {name : String}
    (hname : ∀ c ∈ name.toList, isNameChar c = true) : IsPlainName name := by
  constructor
  · intro hbracket
    exact absurd (hname _ hbracket) (by decide)
  · have hchars := Text.trimChars_of_forall fun c hc =>
      isBlank_eq_false_of_isNameChar (hname c hc)
    rw [Text.trim, hchars, String.ofList_toList]

/-- The name of a token that lexemes make can stand in brackets. -/
theorem TokenKind.IsWritable.isPlainName {text : String} {bracketed : Bool}
    (h : (TokenKind.name text bracketed).IsWritable) : IsPlainName text := by
  cases bracketed with
  | true => exact h
  | false => exact isPlainName_of_isNameChar h.2.1

/-- Trimming what stands before a closing bracket leaves a name that brackets can hold. -/
theorem isPlainName_trim {cs : List Char} (hcs : ']' ∉ cs) :
    IsPlainName (Text.trim (String.ofList cs)) := by
  refine ⟨fun hmem => hcs ?_, Text.trim_trim _⟩
  rw [Text.trim, String.toList_ofList, String.toList_ofList] at hmem
  exact Text.mem_of_mem_trimChars hmem

/-- A bracketed name ends at the first closing bracket. -/
theorem bracketed?_append {name rest : List Char} (hname : ']' ∉ name) :
    bracketed? (name ++ ']' :: rest) = some (name ++ [']']) := by
  have hopen : ∀ c ∈ name, (c == ']') = false := by
    intro c hc
    rw [beq_eq_false_iff_ne]
    rintro rfl
    exact hname hc
  rw [bracketed?, Text.cutAt?_append hopen (by decide)]
  rfl

/-- A bracketed name is a name without a closing bracket, and the bracket. -/
theorem eq_of_bracketed? {cs chars : List Char} (h : bracketed? cs = some chars) :
    ∃ name, chars = name ++ [']'] ∧ ']' ∉ name := by
  obtain ⟨⟨name, close, rest⟩, hcut, rfl⟩ := Option.map_eq_some_iff.mp h
  obtain ⟨hname, hclose⟩ := Text.cutAt?_before hcut
  have hclose : close = ']' := by simpa using hclose
  subst hclose
  exact ⟨name, rfl, fun hmem => by simpa using hname _ hmem⟩

/-- A literal written between quotes ends at the closing quote. -/
theorem quoted?_escapeChars (cs rest : List Char) :
    quoted? (escapeChars cs ++ '"' :: rest) = some (escapeChars cs ++ ['"']) := by
  induction cs with
  | nil => rfl
  | cons c cs ih =>
    have hcons : escapeChars (c :: cs) =
        (if c = '\\' ∨ c = '"' then ['\\', c] else [c]) ++ escapeChars cs := rfl
    rw [hcons]
    by_cases hspecial : c = '\\' ∨ c = '"'
    · have hline : c ≠ '\n' := by
        rintro rfl
        revert hspecial
        decide
      simp [hspecial, quoted?, hline, ih]
    · obtain ⟨hslash, hquote⟩ := not_or.mp hspecial
      have hstep : quoted? (c :: (escapeChars cs ++ '"' :: rest)) =
          (quoted? (escapeChars cs ++ '"' :: rest)).map (c :: ·) := by
        rw [quoted?]
        · exact hquote
        · rintro rfl
          exact absurd rfl hslash
        · rintro c' cs' rfl
          exact absurd rfl hslash
      simp [hspecial, hstep, ih]

/-- The token of a run of name characters: a comparator if it is the word for one, else a name. -/
theorem ofLexeme_word {c : Char} (cs : List Char) (hc : isNameChar c = true) :
    TokenKind.ofLexeme (c :: cs) =
      match Comparator.ofText? (String.ofList (c :: cs)) with
      | some comparator => .comparator comparator
      | none => .name (String.ofList (c :: cs)) false := by
  unfold TokenKind.ofLexeme
  split <;> rename_i heq
  · exact absurd (List.head_eq_of_cons_eq heq) (ne_of_isNameChar hc (by decide))
  · exact absurd (List.head_eq_of_cons_eq heq) (ne_of_isNameChar hc (by decide))
  · exact absurd (List.head_eq_of_cons_eq heq) (ne_of_isNameChar hc (by decide))
  · exact absurd (List.head_eq_of_cons_eq heq) (ne_of_isNameChar hc (by decide))
  · exact absurd (List.head_eq_of_cons_eq heq) (ne_of_isNameChar hc (by decide))
  · rfl

/-- The token of a bracketed lexeme is the name between the brackets, trimmed. -/
theorem ofLexeme_bracketed (name : List Char) :
    TokenKind.ofLexeme ('[' :: (name ++ [']'])) =
      .name (Text.trim (String.ofList name)) true := by
  simp [TokenKind.ofLexeme]

/-- The token of a quoted lexeme is the literal between the quotes. -/
theorem ofLexeme_quoted (value : String) :
    TokenKind.ofLexeme ('"' :: (escapeChars value.toList ++ ['"'])) = .literal value := by
  simp [TokenKind.ofLexeme, unescapeChars_escapeChars]

/-- Lexemes make tokens of the restricted form only. -/
theorem isWritable_ofLexeme {cs chars : List Char} (h : lexeme? cs = some chars) :
    (TokenKind.ofLexeme chars).IsWritable := by
  unfold lexeme? at h
  split at h
  · contradiction
  · obtain ⟨rest, -, rfl⟩ := Option.map_eq_some_iff.mp h
    exact trivial
  · cases h
    exact trivial
  · cases h
    exact trivial
  · obtain ⟨rest, hrest, rfl⟩ := Option.map_eq_some_iff.mp h
    obtain ⟨name, rfl, hname⟩ := eq_of_bracketed? hrest
    rw [ofLexeme_bracketed]
    exact isPlainName_trim hname
  · rename_i c cs _ _ _ _
    split at h
    · rename_i hsymbol
      cases h
      simp only [List.contains_eq_mem, List.mem_cons, List.not_mem_nil, or_false,
        decide_eq_true_eq] at hsymbol
      rcases hsymbol with rfl | rfl | rfl | rfl | rfl | rfl <;> exact trivial
    · split at h
      · rename_i hc
        cases h
        rw [ofLexeme_word _ hc]
        cases hword : Comparator.ofText? (String.ofList (c :: cs.takeWhile isNameChar)) with
        | some comparator => exact trivial
        | none =>
          refine ⟨by simp [← String.toList_inj], fun d hd => ?_, hword⟩
          rw [String.toList_ofList, List.mem_cons] at hd
          rcases hd with rfl | hd
          · exact hc
          · exact List.mem_takeWhile_imp hd
      · contradiction

/-- A run of name characters is one lexeme when none follows it. -/
theorem lexeme?_word {c : Char} {cs rest : List Char} (hc : isNameChar c = true)
    (hcs : ∀ d ∈ cs, isNameChar d = true) (hrest : Breaks rest) :
    lexeme? (c :: (cs ++ rest)) = some (c :: cs) := by
  have hstop : rest.takeWhile isNameChar = [] := by
    cases rest with
    | nil => rfl
    | cons d rest => simp [(hrest d (by simp)).1]
  have hsymbol : ['<', '>', '=', '*', '(', ')'].contains c = false := by
    rw [← Bool.not_eq_true, List.contains_iff_mem]
    intro hmem
    have hsymbols : ∀ d ∈ ['<', '>', '=', '*', '(', ')'], (!isNameChar d) = true :=
      List.all_eq_true.mp (by decide)
    have hother : isNameChar c = false := by simpa using hsymbols c hmem
    exact ne_of_isNameChar hc hother rfl
  unfold lexeme?
  split <;> rename_i heq
  · contradiction
  · exact absurd (List.head_eq_of_cons_eq heq) (ne_of_isNameChar hc (by decide))
  · exact absurd (List.head_eq_of_cons_eq heq) (ne_of_isNameChar hc (by decide))
  · exact absurd (List.head_eq_of_cons_eq heq) (ne_of_isNameChar hc (by decide))
  · exact absurd (List.head_eq_of_cons_eq heq) (ne_of_isNameChar hc (by decide))
  · obtain ⟨rfl, rfl⟩ := List.cons_eq_cons.mp heq
    rw [if_neg (by simpa using hsymbol), if_pos hc, List.takeWhile_append_of_pos hcs, hstop,
      List.append_nil]

/-- A comparator written again is one lexeme when nothing prolongs it. -/
theorem lexeme?_comparator (c : Comparator) {rest : List Char} (hrest : Breaks rest) :
    lexeme? (c.text.toList ++ rest) = some c.text.toList := by
  have hequal : ∀ d tail, rest = d :: tail → d ≠ '=' := by
    rintro d tail rfl
    exact (hrest d rfl).2
  cases c with
  | equal => rfl
  | lessOrEqual => rfl
  | greaterOrEqual => rfl
  | like =>
    have hletters : ∀ d ∈ ['I', 'K', 'E'], isNameChar d = true :=
      List.all_eq_true.mp (by decide)
    exact lexeme?_word (by decide) hletters hrest
  | less =>
    cases rest with
    | nil => rfl
    | cons d tail => simp [Comparator.text, lexeme?, hequal d tail rfl]
  | greater =>
    cases rest with
    | nil => rfl
    | cons d tail => simp [Comparator.text, lexeme?, hequal d tail rfl]

/-- A token written again is one lexeme. -/
theorem lexeme?_text {kind : TokenKind} (hkind : kind.IsWritable) {rest : List Char}
    (hrest : kind.isClosed = true ∨ Breaks rest) :
    lexeme? (kind.text.toList ++ rest) = some kind.text.toList := by
  match kind with
  | .literal value =>
    simp [TokenKind.text, escapeLiteral, lexeme?, quoted?_escapeChars]
  | .comparator c => exact lexeme?_comparator c (hrest.resolve_left (by simp [TokenKind.isClosed]))
  | .name text true =>
    simp [TokenKind.text, lexeme?, bracketed?_append hkind.1]
  | .name text false =>
    obtain ⟨hne, hchars, -⟩ := hkind
    have hbreaks := hrest.resolve_left (by simp [TokenKind.isClosed])
    cases hcs : text.toList with
    | nil => exact absurd (by simpa using hcs) hne
    | cons c cs =>
      rw [hcs, List.forall_mem_cons] at hchars
      simpa [TokenKind.text, hcs] using lexeme?_word hchars.1 hchars.2 hbreaks
  | .star => rfl
  | .opening => rfl
  | .closing => rfl

/-- The lexeme of a token written again makes that token. -/
theorem ofLexeme_text {kind : TokenKind} (hkind : kind.IsWritable) :
    TokenKind.ofLexeme kind.text.toList = kind := by
  match kind with
  | .literal value => simpa [TokenKind.text, escapeLiteral] using ofLexeme_quoted value
  | .comparator c => cases c <;> rfl
  | .name text true =>
    have hname := ofLexeme_bracketed text.toList
    rw [String.ofList_toList, hkind.2] at hname
    simpa [TokenKind.text] using hname
  | .name text false =>
    obtain ⟨hne, hchars, hword⟩ := hkind
    cases hcs : text.toList with
    | nil => exact absurd (by simpa using hcs) hne
    | cons c cs =>
      have htext : String.ofList (c :: cs) = text := by rw [← hcs, String.ofList_toList]
      rw [hcs, List.forall_mem_cons] at hchars
      have hlexeme := ofLexeme_word cs hchars.1
      rw [htext, hword] at hlexeme
      simpa [TokenKind.text, hcs] using hlexeme
  | .star => rfl
  | .opening => rfl
  | .closing => rfl

end CatalogRecords.Query
