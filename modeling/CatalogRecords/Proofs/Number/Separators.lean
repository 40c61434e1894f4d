import CatalogRecords.Proofs.Number.DecimalText
import CatalogRecords.Proofs.Text.Trimming
import CatalogRecords.Value

/-!
# The separators of numbers

A convention says which of point and comma separates the places of a number. Whatever the type, no
numeral has a comma in it; a text that is to be read with commas is read with points and commas
exchanged. So a text that has one of the two characters is a number by one convention at the most,
and a text that has neither is the same number by both. Fields that always use a point, and fields
whose values are no numbers, do not depend on the convention.
-/

namespace CatalogRecords

namespace Number

/-! What numerals consist of. -/

/-- The characters of numerals. -/
def isNumeralChar (c : Char) : Bool := c.isDigit || ['+', '-', '.', 'e', 'E'].contains c

variable {cs : List Char}

/-- A digit may stand in a numeral. -/
theorem isNumeralChar_of_isDigit {c : Char} (hc : c.isDigit = true) : isNumeralChar c = true := by
  rw [isNumeralChar, hc, Bool.true_or]

/-- Digits may stand in a numeral. -/
theorem areNumeralChars_of_all_isDigit (hcs : cs.all Char.isDigit = true) :
    ∀ c ∈ cs, isNumeralChar c = true :=
  fun c hc => isNumeralChar_of_isDigit (List.all_eq_true.mp hcs c hc)

/-- A numeral character in front of numeral characters. -/
theorem areNumeralChars_cons {c : Char} (hc : isNumeralChar c = true)
    (hcs : ∀ c ∈ cs, isNumeralChar c = true) : ∀ d ∈ c :: cs, isNumeralChar d = true :=
  List.forall_mem_cons.mpr ⟨hc, hcs⟩

/-- A sign may stand in a numeral, so if what follows it may, all of it may. -/
theorem areNumeralChars_of_takeSign {unsigned : List Char} {negative : Bool}
    (h : takeSign cs = (negative, unsigned)) (hunsigned : ∀ c ∈ unsigned, isNumeralChar c = true) :
    ∀ c ∈ cs, isNumeralChar c = true := by
  obtain ⟨sign, rfl, -⟩ := exists_sign_of_takeSign h
  cases sign with
  | none => exact hunsigned
  | some sign => cases sign <;> exact areNumeralChars_cons (by decide) hunsigned

/-- An integer has a sign and digits. -/
theorem areNumeralChars_of_readInteger? {range : IntegerRange} {n : Int}
    (h : readInteger? range cs = some n) : ∀ c ∈ cs, isNumeralChar c = true := by
  have hdigits {negative : Bool} {digits : List Char}
      (hread : (if digits.isEmpty || !digits.all Char.isDigit then none
        else
          let value : Int := if negative then -digitsValue 0 digits else digitsValue 0 digits
          if range.holds value then some value else none) = some n) :
      ∀ c ∈ digits, isNumeralChar c = true := by
    by_cases hall : digits.all Char.isDigit = true
    · exact areNumeralChars_of_all_isDigit hall
    · simp [hall] at hread
  unfold readInteger? at h
  split at h
  rename_i heq
  have hread := hdigits h
  split at heq
  · cases heq
    exact areNumeralChars_cons (by decide) hread
  · split at heq
    · cases heq
      exact areNumeralChars_cons (by decide) hread
    · cases heq
      exact hread
  · cases heq
    exact hread

/-- An exponent has its letter, a sign and digits. -/
theorem areNumeralChars_of_readExponent? {n : Int} (h : readExponent? cs = some n) :
    ∀ c ∈ cs, isNumeralChar c = true := by
  cases cs with
  | nil => exact fun _ hc => absurd hc List.not_mem_nil
  | cons e rest =>
    have hread : readExponent? (e :: rest) =
        if e = 'e' ∨ e = 'E' then
          let digits := (takeSign rest).2
          if digits.isEmpty || !digits.all Char.isDigit then none
          else some (if (takeSign rest).1 then -(digitsValue 0 digits : Int)
            else digitsValue 0 digits)
        else none := rfl
    rw [hread, Option.ite_none_right_eq_some] at h
    obtain ⟨hletter, hdigits⟩ := h
    have hchar : isNumeralChar e = true := by rcases hletter with rfl | rfl <;> decide
    refine areNumeralChars_cons hchar (areNumeralChars_of_takeSign rfl ?_)
    rw [Option.ite_none_left_eq_some, Bool.or_eq_true, not_or, Bool.not_eq_true',
      Bool.not_eq_false] at hdigits
    exact areNumeralChars_of_all_isDigit hdigits.1.2

/-- What stands behind digits decides whether a text has other characters than numerals have. -/
theorem areNumeralChars_of_dropWhile
    (htail : ∀ c ∈ cs.dropWhile Char.isDigit, isNumeralChar c = true) :
    ∀ c ∈ cs, isNumeralChar c = true := by
  intro c hc
  rw [← List.takeWhile_append_dropWhile (p := Char.isDigit) (l := cs), List.mem_append] at hc
  rcases hc with hc | hc
  · exact isNumeralChar_of_isDigit (List.mem_takeWhile_imp hc)
  · exact htail c hc

/-- The digits behind a point at the beginning of a text, and what follows them. -/
def takeFraction : List Char → List Char × List Char
  | '.' :: rest => (rest.takeWhile Char.isDigit, rest.dropWhile Char.isDigit)
  | rest => ([], rest)

/-- A point and the digits after it may stand in a numeral, so if what follows them may, all of it
may. -/
theorem areNumeralChars_of_takeFraction
    (htail : ∀ c ∈ (takeFraction cs).2, isNumeralChar c = true) :
    ∀ c ∈ cs, isNumeralChar c = true := by
  unfold takeFraction at htail
  split at htail
  · exact areNumeralChars_cons (by decide) (areNumeralChars_of_dropWhile htail)
  · exact htail

/-- A binary number has a sign, digits, a point, digits and an exponent. -/
theorem areNumeralChars_of_readBinary? {f : BinaryFormat} {x : Binary}
    (h : readBinary? f cs = some x) : ∀ c ∈ cs, isNumeralChar c = true := by
  have hread : readBinary? f cs =
      let whole := (takeSign cs).2.takeWhile Char.isDigit
      let fraction := (takeFraction ((takeSign cs).2.dropWhile Char.isDigit)).1
      let tail := (takeFraction ((takeSign cs).2.dropWhile Char.isDigit)).2
      if whole.isEmpty && fraction.isEmpty then none
      else (readExponent? tail).bind fun exponent =>
        let magnitude := f.ofDecimal (digitsValue (digitsValue 0 whole) fraction)
          (exponent - fraction.length)
        if magnitude = f.infinity then none else some ⟨(takeSign cs).1, magnitude⟩ := rfl
  rw [hread, Option.ite_none_left_eq_some] at h
  obtain ⟨exponent, hexponent, -⟩ := Option.bind_eq_some_iff.mp h.2
  exact areNumeralChars_of_takeSign rfl (areNumeralChars_of_dropWhile
    (areNumeralChars_of_takeFraction (areNumeralChars_of_readExponent? hexponent)))

/-- A decimal has a sign and digits with a point among them. -/
theorem areNumeralChars_of_read? {d : Decimal} (h : Decimal.read? cs = some d) :
    ∀ c ∈ cs, isNumeralChar c = true := by
  obtain ⟨n, rfl, -⟩ := Decimal.read?_eq_some_iff.mp h
  refine areNumeralChars_of_takeSign n.takeSign_chars fun c hc => ?_
  have hplaces : ∀ c ∈ n.fraction.getD [], isNumeralChar c = true :=
    fun c hc => isNumeralChar_of_isDigit (n.isDigit c (List.mem_append_right _ hc))
  rcases List.mem_append.mp hc with hc | hc
  · exact isNumeralChar_of_isDigit (n.isDigit_of_mem_whole hc)
  · cases hfraction : n.fraction with
    | none =>
      rw [hfraction] at hc
      exact absurd hc List.not_mem_nil
    | some fraction =>
      rw [hfraction] at hc hplaces
      exact areNumeralChars_cons (by decide) hplaces c hc

/-- Reads the numerals of a type as its values; only numbers have numerals. -/
def readNumber? : FieldType → List Char → Option TypedValue
  | .byte, cs => (readInteger? (.unsigned 8) cs).map .byte
  | .int16, cs => (readInteger? (.signed 16) cs).map .int16
  | .int32, cs => (readInteger? (.signed 32) cs).map .int32
  | .int64, cs => (readInteger? (.signed 64) cs).map .int64
  | .float32, cs => (readBinary? .single cs).map .float32
  | .float64, cs => (readBinary? .double cs).map .float64
  | .decimal, cs => (Decimal.read? cs).map .decimal
  | _, _ => none

/-- Whatever the type of number, its numerals consist of numeral characters. -/
theorem areNumeralChars_of_readNumber? {fieldType : FieldType} {value : TypedValue}
    (h : readNumber? fieldType cs = some value) : ∀ c ∈ cs, isNumeralChar c = true := by
  unfold readNumber? at h
  split at h
  case h_8 => cases h
  all_goals obtain ⟨number, hnumber, -⟩ := Option.map_eq_some_iff.mp h
  case h_5 | h_6 => exact areNumeralChars_of_readBinary? hnumber
  case h_7 => exact areNumeralChars_of_read? hnumber
  all_goals exact areNumeralChars_of_readInteger? hnumber

/-- No numeral has a comma. -/
theorem comma_not_mem_of_readNumber? {fieldType : FieldType} {value : TypedValue}
    (h : readNumber? fieldType cs = some value) : ',' ∉ cs :=
  fun hcomma => absurd (areNumeralChars_of_readNumber? h _ hcomma) (by decide)

end Number

/-! Exchanging the separators. -/

/-- A text with points for commas and commas for points. -/
def swapSeparators (text : String) : String := String.ofList (text.toList.map swapSeparator)

/-- Neither separator is a blank, so that blanks stay where they are. -/
theorem isBlank_swapSeparator (c : Char) : Text.isBlank (swapSeparator c) = Text.isBlank c := by
  rw [swapSeparator]
  split
  · next heq => rw [heq]; decide
  · split
    · next heq => rw [heq]; decide
    · rfl

/-- Blanks are trimmed alike before and after the separators are swapped. -/
theorem trimChars_map_swapSeparator (cs : List Char) :
    Text.trimChars (cs.map swapSeparator) = (Text.trimChars cs).map swapSeparator := by
  have hblank : Text.isBlank ∘ swapSeparator = Text.isBlank := funext isBlank_swapSeparator
  simp only [Text.trimChars, List.dropWhile_map, ← List.map_reverse, hblank]

/-- Without separators there is nothing to exchange. -/
theorem map_swapSeparator_of_not_mem {cs : List Char} (hpoint : '.' ∉ cs) (hcomma : ',' ∉ cs) :
    cs.map swapSeparator = cs := by
  have hsame : ∀ c ∈ cs, swapSeparator c = c := by
    intro c hc
    rw [swapSeparator, if_neg (ne_of_mem_of_not_mem hc hcomma),
      if_neg (ne_of_mem_of_not_mem hc hpoint)]
  exact (List.map_congr_left hsame).trans (List.map_id' cs)

namespace SimpleField

variable {field : SimpleField} {convention : DecimalConvention} {text : String}

/-- The value of a text in a field of numbers is that of a numeral. -/
theorem coerce?_of_isNumeric (hnumeric : field.fieldType.isNumeric = true) :
    field.coerce? convention text = Number.readNumber? field.fieldType
      ((if field.usesPointDecimal then .point else convention : DecimalConvention).toPoint
        (Text.trimChars text.toList)) := by
  have htrim : (Text.trim text).toList = Text.trimChars text.toList := String.toList_ofList
  rw [← htrim]
  unfold coerce? Number.readNumber?
  cases htype : field.fieldType
  case boolean | date | time | datetime | string => cases htype ▸ hnumeric
  all_goals rfl

/-- Read with commas, a text is what it is with points and commas exchanged. -/
theorem coerce?_comma (hnumeric : field.fieldType.isNumeric = true)
    (hfree : field.usesPointDecimal = false) :
    field.coerce? .comma text = field.coerce? .point (swapSeparators text) := by
  rw [coerce?_of_isNumeric hnumeric, coerce?_of_isNumeric hnumeric, hfree, swapSeparators,
    String.toList_ofList, trimChars_map_swapSeparator]
  rfl

/-- A text with a comma is no number in point notation. -/
theorem coerce?_point_eq_none (hnumeric : field.fieldType.isNumeric = true)
    (hcomma : ',' ∈ text.toList) : field.coerce? .point text = none := by
  have htrimmed : ',' ∈ Text.trimChars text.toList :=
    Text.mem_trimChars_of_mem hcomma (by decide)
  rw [coerce?_of_isNumeric hnumeric, ite_self, Option.eq_none_iff_forall_ne_some]
  exact fun value hvalue => Number.comma_not_mem_of_readNumber? hvalue htrimmed

/-- A text with a point is no number where the separator is a comma. -/
theorem coerce?_comma_eq_none (hnumeric : field.fieldType.isNumeric = true)
    (hfree : field.usesPointDecimal = false) (hpoint : '.' ∈ text.toList) :
    field.coerce? .comma text = none := by
  have hcomma : ',' ∈ (swapSeparators text).toList := by
    rw [swapSeparators, String.toList_ofList]
    exact List.mem_map.mpr ⟨'.', hpoint, rfl⟩
  rw [coerce?_comma hnumeric hfree, coerce?_point_eq_none hnumeric hcomma]

/-- A text without separators is the same by both conventions. -/
theorem coerce?_comma_of_not_mem (hnumeric : field.fieldType.isNumeric = true)
    (hfree : field.usesPointDecimal = false) (hpoint : '.' ∉ text.toList)
    (hcomma : ',' ∉ text.toList) : field.coerce? .comma text = field.coerce? .point text := by
  rw [coerce?_comma hnumeric hfree, swapSeparators, map_swapSeparator_of_not_mem hpoint hcomma,
    String.ofList_toList]

/-- Fields that always use a point and fields without numbers do not depend on the convention. -/
theorem coerce?_of_not_free
    (hfixed : field.usesPointDecimal = true ∨ field.fieldType.isNumeric = false) :
    field.coerce? .comma text = field.coerce? .point text := by
  rcases hfixed with hpoint | hother
  · unfold coerce?
    rw [hpoint]
    rfl
  · unfold coerce?
    cases htype : field.fieldType
    case boolean | date | time | datetime | string => rfl
    all_goals cases htype ▸ hother

/-- No text is two different numbers. -/
theorem conventions_agree_on_numbers (field : SimpleField) (text : String) :
    (field.fieldType.isNumeric = true → field.usesPointDecimal = false →
      (∀ a b, field.coerce? .point text = some a → field.coerce? .comma text = some b →
        '.' ∉ text.toList ∧ ',' ∉ text.toList ∧ a = b) ∧
      field.coerce? .comma text = field.coerce? .point (swapSeparators text) ∧
      (',' ∈ text.toList → field.coerce? .point text = none) ∧
      ('.' ∈ text.toList → field.coerce? .comma text = none)) ∧
    (field.usesPointDecimal = true ∨ field.fieldType.isNumeric = false →
      field.coerce? .comma text = field.coerce? .point text) := by
  refine ⟨fun hnumeric hfree => ⟨fun a b ha hb => ?_, coerce?_comma hnumeric hfree,
    coerce?_point_eq_none hnumeric, coerce?_comma_eq_none hnumeric hfree⟩, coerce?_of_not_free⟩
  have hpoint : '.' ∉ text.toList := by
    intro hmem
    rw [coerce?_comma_eq_none hnumeric hfree hmem] at hb
    cases hb
  have hcomma : ',' ∉ text.toList := by
    intro hmem
    rw [coerce?_point_eq_none hnumeric hmem] at ha
    cases ha
  refine ⟨hpoint, hcomma, ?_⟩
  rw [coerce?_comma_of_not_mem hnumeric hfree hpoint hcomma, ha] at hb
  exact Option.some.inj hb

/-- A field of exact numbers that may be written with points or with commas. -/
def measure : SimpleField where
  fieldType := .decimal
  validation := none
  extraction := none
  datetimeFormat := none
  usesPointDecimal := false
  length := 0
  fixedLength := false
  dictionary := .none
  media := .none
  unique := false
  uniquenessGroup := 0
  requiredForSaving := false

/-- A number without separators is the same by both conventions; one with a point is none where the
separator is a comma, and with a comma instead it is the number that it was. -/
theorem conventions_agree_on_numbers_measure :
    measure.coerce? .point " +12" = some (.decimal ⟨12, 0⟩) ∧
      measure.coerce? .comma " +12" = some (.decimal ⟨12, 0⟩) ∧ ',' ∉ " +12".toList ∧
      measure.coerce? .point "1.234" = some (.decimal ⟨1234, 3⟩) ∧
      measure.coerce? .comma "1.234" = none ∧
      measure.coerce? .comma "1,234" = measure.coerce? .point "1.234" := by
  have hpoint : measure.coerce? .point " +12" = some (.decimal ⟨12, 0⟩) := rfl
  have hcomma : measure.coerce? .comma " +12" = some (.decimal ⟨12, 0⟩) := rfl
  obtain ⟨hboth, -⟩ := (conventions_agree_on_numbers measure " +12").1 rfl rfl
  obtain ⟨-, -, -, hrefused⟩ := (conventions_agree_on_numbers measure "1.234").1 rfl rfl
  obtain ⟨-, hswapped, -⟩ := (conventions_agree_on_numbers measure "1,234").1 rfl rfl
  exact ⟨hpoint, hcomma, (hboth _ _ hpoint hcomma).2.1, rfl, hrefused (by decide), hswapped⟩

end SimpleField

end CatalogRecords
