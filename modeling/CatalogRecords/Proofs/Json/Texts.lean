import CatalogRecords.Json.Reader
import CatalogRecords.Json.Writer
import Mathlib.Tactic.SplitIfs

/-!
# Quoted texts

Between quotes each character is written as itself, after a backslash, or by its code in four
digits. Whatever the characters are, reading them up to the closing quote gives them back: only
control characters are written by their code, and these are no halves of pairs.
-/

namespace CatalogRecords.Json

/-- The control characters that are written by their code. -/
def isCoded (c : Char) : Bool :=
  decide (c.toNat < 32) && !(['\x08', '\x0c', '\n', '\r', '\t'].contains c)

/-- The piece that a character is written as. -/
def pieceOf (c : Char) : Piece := if isCoded c then .code c.toNat else .char c

/-- Five control characters have a letter of their own. -/
theorem pieceOf_of_plain {c : Char} (hb : c ≠ '\x08') (hf : c ≠ '\x0c') (hn : c ≠ '\n')
    (hr : c ≠ '\r') (ht : c ≠ '\t') :
    pieceOf c = if c.toNat < 32 then .code c.toNat else .char c := by
  simp [pieceOf, isCoded, hb, hf, hn, hr, ht]

/-- The code of a control character is read. -/
theorem hexCode?_of_lt {n : Nat} (h : n < 32) :
    hexCode? '0' '0' (hexChar (n / 16)) (hexChar (n % 16)) = some n := by
  have hall : ∀ n : Fin 32, hexCode? '0' '0' (hexChar (n / 16)) (hexChar (n % 16)) =
      some n.val := by decide
  exact hall ⟨n, h⟩

/-- A character that stands for itself between quotes. -/
theorem readPieces_of_plain {c : Char} (done : List Piece) (rest : List Char) (hquote : c ≠ '"')
    (hslash : c ≠ '\\') (hcontrol : ¬c.toNat < 32) :
    readPieces done (c :: rest) = readPieces (.char c :: done) rest := by
  rw [readPieces, if_neg hcontrol]
  · exact hquote
  · exact fun _ _ _ _ _ h _ => hslash h
  · exact fun _ _ h _ => hslash h

/-- A written character is read as its piece. -/
theorem readPieces_escapeChar (done : List Piece) (c : Char) (rest : List Char) :
    readPieces done (escapeChar c rest) = readPieces (pieceOf c :: done) rest := by
  unfold escapeChar
  split
  case h_8 _ hquote hslash hb hf hn hr ht =>
    rw [pieceOf_of_plain hb hf hn hr ht]
    split_ifs with hcontrol
    · rw [readPieces, hexCode?_of_lt hcontrol]
    · exact readPieces_of_plain done rest hquote hslash hcontrol
  all_goals simp [readPieces, escaped?, pieceOf, isCoded]

/-- The written characters are read up to the closing quote. -/
theorem readPieces_foldr (done : List Piece) (cs rest : List Char) :
    readPieces done (cs.foldr escapeChar ('"' :: rest)) =
      some (done.reverse ++ cs.map pieceOf, rest) := by
  induction cs generalizing done with
  | nil => rw [List.foldr_nil, readPieces, List.map_nil, List.append_nil]
  | cons c cs ih =>
    rw [List.foldr_cons, readPieces_escapeChar, ih, List.reverse_cons, List.map_cons,
      List.append_assoc, List.singleton_append]

/-- A control character is no half of a pair. -/
theorem not_surrogate_of_isCoded {c : Char} (h : isCoded c = true) :
    isHighSurrogate c.toNat = false ∧ isLowSurrogate c.toNat = false := by
  rw [isCoded, Bool.and_eq_true, decide_eq_true_eq] at h
  simp only [isHighSurrogate, isLowSurrogate, Bool.and_eq_false_iff, decide_eq_false_iff_not]
  omega

/-- A code that is no half of a pair is joined as its character, whatever comes next. -/
theorem joinPieces_code {n : Nat} {pieces : List Piece} (hhigh : isHighSurrogate n = false)
    (hlow : isLowSurrogate n = false) :
    joinPieces (.code n :: pieces) = (joinPieces pieces).map (Char.ofNat n :: ·) := by
  cases pieces with
  | nil => simp [joinPieces, hhigh, hlow]
  | cons next pieces => cases next <;> simp [joinPieces, hhigh, hlow]

/-- The pieces of characters make these characters. -/
theorem joinPieces_map_pieceOf (cs : List Char) : joinPieces (cs.map pieceOf) = some cs := by
  induction cs with
  | nil => rfl
  | cons c cs ih =>
    rw [List.map_cons]
    by_cases hcoded : isCoded c = true
    · obtain ⟨hhigh, hlow⟩ := not_surrogate_of_isCoded hcoded
      rw [pieceOf, if_pos hcoded, joinPieces_code hhigh hlow, ih, Option.map_some,
        Char.ofNat_toNat]
    · rw [pieceOf, if_neg hcoded, joinPieces, ih, Option.map_some]

/-- A text is read as it was written. -/
theorem readText_foldr (s : String) (rest : List Char) :
    readText (s.toList.foldr escapeChar ('"' :: rest)) = some (some s.toList, rest) := by
  rw [readText, readPieces_foldr, List.reverse_nil, List.nil_append, Option.map_some,
    Option.some_inj, Prod.mk.injEq]
  exact ⟨joinPieces_map_pieceOf s.toList, rfl⟩

end CatalogRecords.Json
