import CatalogRecords.Text.Segments
import Mathlib.Data.List.DropRight

/-!
# Blanks at the ends of a text

Trimming is a projection: what it gives begins and ends with something other than a blank, so that
trimming again changes nothing. Word characters are never blanks, which is why words need no
trimming at all.
-/

namespace CatalogRecords.Text

/-- The code points of the characters that count as white space. -/
def blankCodes : List Nat := [
  9, 10, 11, 12, 13, 32, 0x85, 0xa0, 0x1680, 0x2000, 0x2001, 0x2002, 0x2003, 0x2004, 0x2005,
  0x2006, 0x2007, 0x2008, 0x2009, 0x200a, 0x2028, 0x2029, 0x202f, 0x205f, 0x3000]

/-- The list of code points is complete. -/
theorem toNat_mem_blankCodes {c : Char} (hblank : isBlank c = true) : c.toNat ∈ blankCodes := by
  simp only [isBlank, Bool.or_eq_true, Bool.and_eq_true, decide_eq_true_eq, beq_iff_eq] at hblank
  have hcontrols : List.range' 9 5 ⊆ blankCodes := by decide
  have hspaces : List.range' 0x2000 11 ⊆ blankCodes := by decide
  have hothers : [32, 0x85, 0xa0, 0x1680, 0x2028, 0x2029, 0x202f, 0x205f, 0x3000] ⊆ blankCodes := by
    decide
  by_cases hcontrol : 9 ≤ c.toNat ∧ c.toNat ≤ 13
  · exact hcontrols (List.mem_range'_1.mpr ⟨hcontrol.1, Nat.lt_succ_of_le hcontrol.2⟩)
  · by_cases hspace : 0x2000 ≤ c.toNat ∧ c.toNat ≤ 0x200a
    · exact hspaces (List.mem_range'_1.mpr ⟨hspace.1, Nat.lt_succ_of_le hspace.2⟩)
    · apply hothers
      simpa only [hcontrol, hspace, false_or, or_false, or_assoc, List.mem_cons,
        List.not_mem_nil] using hblank

/-- No blank is a word character. -/
theorem isWord_eq_false_of_isBlank {c : Char} (hblank : isBlank c = true) :
    isWord c = false := by
  have hall : ∀ code ∈ blankCodes, isWord (Char.ofNat code) = false := by decide +kernel
  have hword := hall c.toNat (toNat_mem_blankCodes hblank)
  rwa [Char.ofNat_toNat] at hword

/-- Trimming cuts from the left and then from the right. -/
theorem trimChars_eq_rdropWhile (cs : List Char) :
    trimChars cs = (cs.dropWhile isBlank).rdropWhile isBlank := rfl

/-- Nothing is left of a text but characters that it had. -/
theorem mem_of_mem_trimChars {c : Char} {cs : List Char} (hc : c ∈ trimChars cs) : c ∈ cs := by
  rw [trimChars_eq_rdropWhile] at hc
  exact (List.dropWhile_suffix isBlank).subset ((List.rdropWhile_prefix isBlank _).subset hc)

/-- A character that passes no test at which dropping goes on stays. -/
theorem mem_dropWhile_of_eq_false {p : Char → Bool} {c : Char} {cs : List Char} (hc : c ∈ cs)
    (hp : p c = false) : c ∈ cs.dropWhile p := by
  rw [← List.takeWhile_append_dropWhile (p := p) (l := cs), List.mem_append] at hc
  refine hc.resolve_left fun htaken => ?_
  rw [List.mem_takeWhile_imp htaken] at hp
  contradiction

/-- Trimming takes nothing away but blanks. -/
theorem mem_trimChars_of_mem {c : Char} {cs : List Char} (hc : c ∈ cs)
    (hblank : isBlank c = false) : c ∈ trimChars cs := by
  have hleft : c ∈ (cs.dropWhile isBlank).reverse :=
    List.mem_reverse.mpr (mem_dropWhile_of_eq_false hc hblank)
  exact List.mem_reverse.mpr (mem_dropWhile_of_eq_false hleft hblank)

/-- A text that was trimmed does not begin with a blank. -/
theorem dropWhile_isBlank_trimChars (cs : List Char) :
    (trimChars cs).dropWhile isBlank = trimChars cs := by
  rw [trimChars_eq_rdropWhile, List.dropWhile_eq_self_iff]
  intro hpos hblank
  have hfront := List.rdropWhile_prefix isBlank (cs.dropWhile isBlank)
  have hlen : 0 < (cs.dropWhile isBlank).length := hpos.trans_le hfront.length_le
  have hhead := (List.dropWhile_eq_self_iff.mp (List.dropWhile_idempotent isBlank cs)) hlen
  rw [hfront.getElem] at hblank
  exact hhead hblank

/-- Trimming a second time changes nothing. -/
theorem trimChars_trimChars (cs : List Char) : trimChars (trimChars cs) = trimChars cs := by
  rw [trimChars_eq_rdropWhile, dropWhile_isBlank_trimChars, trimChars_eq_rdropWhile]
  exact List.rdropWhile_idempotent isBlank _

/-- Trimming a text a second time changes nothing. -/
theorem trim_trim (s : String) : trim (trim s) = trim s := by
  simp only [trim, String.toList_ofList, trimChars_trimChars]

/-- There is nothing to trim where there is no blank. -/
theorem trimChars_of_forall {cs : List Char} (hcs : ∀ c ∈ cs, isBlank c = false) :
    trimChars cs = cs := by
  have hleft : cs.dropWhile isBlank = cs := by
    rw [List.dropWhile_eq_self_iff]
    intro hpos
    simp [hcs _ (List.getElem_mem hpos)]
  rw [trimChars_eq_rdropWhile, hleft, List.rdropWhile_eq_self_iff]
  intro hne
  simp [hcs _ (List.getLast_mem hne)]

end CatalogRecords.Text
