import CatalogRecords.Calendar.Date

/-!
# The numbers of days

Years follow one another without a gap, and so do the months of a year. The year that a day lies in
is guessed from the days of four centuries, which are the same wherever they begin; the guess is at
most one year off, and the months of the year are counted up to the day. So a day is found by its
number.
-/

namespace CatalogRecords.Calendar

/-! Years. -/

/-- Up to a year there are the days up to the one before, and those of that one. -/
theorem daysBeforeYear_add_one (year : Int) :
    daysBeforeYear (year + 1) = daysBeforeYear year + daysInYear year := by
  unfold daysBeforeYear daysInYear isLeap
  simp only [Bool.and_eq_true, Bool.or_eq_true, beq_iff_eq, bne_iff_ne]
  split <;> omega

/-- Every year has days. -/
theorem daysBeforeYear_lt_add_one (year : Int) :
    daysBeforeYear year < daysBeforeYear (year + 1) := by
  rw [daysBeforeYear_add_one, daysInYear]
  split <;> omega

/-- Four centuries have 146097 days, so the days before a year are its share of them up to less
than a year. -/
theorem daysBeforeYear_bounds (year : Int) :
    146097 * (year - 1) - 1000 ≤ 400 * daysBeforeYear year ∧
      400 * daysBeforeYear year ≤ 146097 * (year - 1) + 1000 := by
  dsimp only [daysBeforeYear]
  omega

/-- The year of a day is found from the number of the day. -/
theorem yearOfNumber_eq {number year : Int} (hafter : daysBeforeYear year < number)
    (hbefore : number ≤ daysBeforeYear (year + 1)) : Date.yearOfNumber number = year := by
  have hlow := daysBeforeYear_bounds year
  have hhigh := daysBeforeYear_bounds (year + 1)
  have hguess : (number - 1) * 400 / 146097 + 1 = year - 1 ∨
      (number - 1) * 400 / 146097 + 1 = year ∨ (number - 1) * 400 / 146097 + 1 = year + 1 := by
    omega
  unfold Date.yearOfNumber
  rcases hguess with hguess | hguess | hguess
  · have hprevious := daysBeforeYear_lt_add_one (year - 1)
    rw [Int.sub_add_cancel] at hprevious
    simp only [hguess, Int.sub_add_cancel]
    rw [if_neg (by omega), if_pos hafter]
  · simp only [hguess]
    rw [if_neg (by omega), if_neg (by omega)]
  · simp only [hguess]
    rw [if_pos hbefore, Int.add_sub_cancel]

/-! Months. -/

/-- Up to a month there are the days up to the one before, and those of that one. -/
theorem daysBeforeMonth_add_one (year : Int) {month : Nat} (h : 1 ≤ month) :
    daysBeforeMonth year (month + 1) = daysBeforeMonth year month + daysInMonth year month := by
  obtain ⟨month, rfl⟩ := Nat.exists_eq_add_of_le' h
  rw [daysBeforeMonth]
  exact Nat.succ_ne_zero month

/-- Up to a later month there are no fewer days. -/
theorem daysBeforeMonth_mono (year : Int) {first second : Nat} (h : first ≤ second) :
    daysBeforeMonth year first ≤ daysBeforeMonth year second := by
  induction h with
  | refl => exact Nat.le_refl _
  | @step month hle ih =>
    refine Nat.le_trans ih ?_
    cases month with
    | zero => exact Nat.le_refl _
    | succ month =>
      rw [daysBeforeMonth_add_one year (Nat.succ_pos month)]
      exact Nat.le_add_right _ _

/-- The twelve months make the year. -/
theorem daysBeforeMonth_thirteen (year : Int) : daysBeforeMonth year 13 = daysInYear year := by
  simp only [daysBeforeMonth, daysInMonth, daysInYear]
  split <;> rfl

/-- The month of a day is the number of months that begin before it. -/
theorem length_filter_daysBeforeMonth {year : Int} {month ordinal : Nat} (hmonth : month ≤ 12)
    (hafter : daysBeforeMonth year month < ordinal)
    (hbefore : ordinal ≤ daysBeforeMonth year (month + 1)) :
    ((List.range 12).filter fun m => decide ((daysBeforeMonth year (m + 1) : Int) < ordinal)).length
      = month := by
  have hbegins : ∀ m, (daysBeforeMonth year (m + 1) : Int) < ordinal ↔ m < month := by
    intro m
    rcases Nat.lt_or_ge m month with hlt | hge
    · have : daysBeforeMonth year (m + 1) ≤ daysBeforeMonth year month :=
        daysBeforeMonth_mono year hlt
      omega
    · have : daysBeforeMonth year (month + 1) ≤ daysBeforeMonth year (m + 1) :=
        daysBeforeMonth_mono year (Nat.succ_le_succ hge)
      omega
  simp only [hbegins]
  have hcount : ∀ k : Fin 13, ((List.range 12).filter fun m => decide (m < k.val)).length = k := by
    decide
  exact hcount ⟨month, Nat.lt_succ_of_le hmonth⟩

namespace Date

/-- The days that the calendar has. -/
def IsValid (d : Date) : Prop :=
  isReached d.year = true ∧ 1 ≤ d.month ∧ d.month ≤ 12 ∧ 1 ≤ d.day ∧
    d.day ≤ daysInMonth d.year d.month

/-- Whether a date is one of the calendar is decided by its month and day. -/
instance (d : Date) : Decidable d.IsValid := inferInstanceAs (Decidable (_ ∧ _))

/-- A day of the calendar is the one that its parts make. -/
theorem IsValid.ofParts? {d : Date} (h : d.IsValid) : ofParts? d.year d.month d.day = some d := by
  obtain ⟨hyear, hmonth, hmonth', hday, hday'⟩ := h
  have hparts : isReached d.year = true ∧ (1 : Int) ≤ d.month ∧ (d.month : Int) ≤ 12 ∧
      (1 : Int) ≤ d.day ∧ (d.day : Int) ≤ daysInMonth d.year (d.month : Int).toNat := by
    rw [Int.toNat_natCast]
    exact ⟨hyear, by omega, by omega, by omega, by omega⟩
  rw [Date.ofParts?, if_pos hparts]
  rfl

/-- A day lies between the first of its month and the first of the next. -/
theorem IsValid.ordinal_bounds {d : Date} (h : d.IsValid) :
    daysBeforeMonth d.year d.month < d.ordinal ∧
      d.ordinal ≤ daysBeforeMonth d.year (d.month + 1) ∧ d.ordinal ≤ daysInYear d.year := by
  obtain ⟨-, hmonth, hmonth', hday, hday'⟩ := h
  have hlast : daysBeforeMonth d.year (d.month + 1) ≤ daysBeforeMonth d.year 13 :=
    daysBeforeMonth_mono d.year (Nat.succ_le_succ hmonth')
  rw [daysBeforeMonth_thirteen] at hlast
  rw [daysBeforeMonth_add_one d.year hmonth] at hlast ⊢
  rw [ordinal]
  omega

/-- A day is found by its number. -/
theorem IsValid.ofNumber?_number {d : Date} (h : d.IsValid) : ofNumber? d.number = some d := by
  obtain ⟨hafter, hbefore, hlast⟩ := h.ordinal_bounds
  have hyear : yearOfNumber d.number = d.year := by
    apply yearOfNumber_eq
    · rw [number]
      omega
    · rw [number, daysBeforeYear_add_one]
      omega
  have hordinal : d.number - daysBeforeYear d.year = d.ordinal := by
    rw [number]
    omega
  have hyearDay : isReached d.year = true ∧ (1 : Int) ≤ d.ordinal ∧
      (d.ordinal : Int) ≤ daysInYear d.year := ⟨h.1, by omega, by omega⟩
  simp only [ofNumber?, ofOrdinal?, hyear, hordinal, if_pos hyearDay,
    length_filter_daysBeforeMonth h.2.2.1 hafter hbefore]
  have hday : ((d.ordinal : Int) - daysBeforeMonth d.year d.month).toNat = d.day := by
    rw [ordinal]
    omega
  rw [hday]

end Date

end CatalogRecords.Calendar
