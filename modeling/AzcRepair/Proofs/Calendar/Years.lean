import AzcRepair.Proofs.Calendar.Days

/-!
# Years

Which days belong to a year, and that every day number is that of a date of the calendar.

* `Date.newYear` — the day number of the first day of a year.
* `Date.le_year_ofDays_iff` — a day is in a year or a later one when it is no earlier than its first.
* `Date.isValid_ofDays` — the date of a day number has a month of the year and a day of that month.
-/

namespace AzcRepair.Date

/-- The day number of the first of January. -/
def newYear (year : Int) : Int :=
  365 * (year - 1) + (year - 1) / 4 - (year - 1) / 100 + (year - 1) / 400 - 719162

theorem newYear_le {year later : Int} (h : year ≤ later) : newYear year ≤ newYear later := by
  obtain rfl | h := Int.le_iff_eq_or_lt.mp h
  · exact Int.le_refl _
  · unfold newYear
    omega

/-- The days of a year lie between its first day and that of the next one. -/
theorem toDays_bounds {date : Date} (month : 1 ≤ date.month ∧ date.month ≤ 12)
    (day : 1 ≤ date.day ∧ date.day ≤ 31) :
    newYear date.year ≤ date.toDays ∧ date.toDays < newYear (date.year + 1) := by
  obtain ⟨year, month', day'⟩ := date
  simp (disch := decide) only [toDays, Int.fdiv_eq_ediv_of_nonneg]
  unfold newYear
  dsimp only at *
  split <;> omega

/-! ## Days of a month

The day of the year gives the month by a division, and the last month of such a year is February.
Its last day is the only one in question: there is one exactly in the years whose February has 29
days. -/

/-- A year that is counted from March has one day more where the year after it has a leap day. -/
theorem isLeap_of_dayOfYear {day : Int} (first : 0 ≤ day) (last : day ≤ 146096)
    (longest : dayOfYear day = 365) (era : Int) :
    isLeap (yearOfEra day + era * 400 + 1) = true := by
  have bounds := yearOfEra_bounds first last
  have century := yearOfEra_century first last
  -- the days of four years lie within a few of 1460, so the year is one of five
  have year : yearOfEra day = 4 * (day / 1460) - 1 ∨ yearOfEra day = 4 * (day / 1460) ∨
      yearOfEra day = 4 * (day / 1460) + 1 ∨ yearOfEra day = 4 * (day / 1460) + 2 ∨
      yearOfEra day = 4 * (day / 1460) + 3 := by
    unfold yearOfEra at century ⊢
    omega
  have fourth : (yearOfEra day + 1) % 4 = 0 := by
    unfold dayOfYear at longest
    unfold yearOfEra at century year longest ⊢
    rcases year with h | h | h | h | h <;> omega
  -- of the centuries only the last one of the era has a leap day
  have ordinary : yearOfEra day ≠ 99 ∧ yearOfEra day ≠ 199 ∧ yearOfEra day ≠ 299 := by
    unfold dayOfYear at longest
    refine ⟨fun h => ?_, fun h => ?_, fun h => ?_⟩ <;>
      · rw [h] at longest
        unfold yearOfEra at h
        omega
  simp only [isLeap, Bool.and_eq_true, Bool.or_eq_true, decide_eq_true_eq]
  omega

theorem isValid_iff {date : Date} : date.isValid = true ↔
    (1 ≤ date.month ∧ date.month ≤ 12) ∧ 1 ≤ date.day ∧
      date.day ≤ daysInMonth date.year date.month := by
  simp only [isValid, Bool.and_eq_true, decide_eq_true_eq, and_assoc]

theorem daysInMonth_le (year : Int) (month : Nat) : daysInMonth year month ≤ 31 := by
  unfold daysInMonth
  split
  · split <;> decide
  · split <;> decide

/-- A day of a year that is counted from March is a day of the calendar, provided that the year
has a leap day when its last day is asked for. -/
theorem isValid_ofMarch {year day : Int} (first : 0 ≤ day) (last : day ≤ 365)
    (longest : day = 365 → isLeap (year + 1) = true) : (ofMarch year day).isValid = true := by
  rw [isValid_iff]
  unfold ofMarch
  generalize found : (5 * day + 2) / 153 = month
  obtain rfl | early : month = 11 ∨ month ≤ 10 := by omega
  · -- February has its last day only where there is a leap day
    cases leap : isLeap (year + 1) with
    | true =>
      simp [daysInMonth, leap]
      omega
    | false =>
      have short : day ≠ 365 := fun h => by simp [longest h] at leap
      simp [daysInMonth, leap]
      omega
  · have months : month = 0 ∨ month = 1 ∨ month = 2 ∨ month = 3 ∨ month = 4 ∨ month = 5 ∨
        month = 6 ∨ month = 7 ∨ month = 8 ∨ month = 9 ∨ month = 10 := by
      omega
    rcases months with rfl | rfl | rfl | rfl | rfl | rfl | rfl | rfl | rfl | rfl | rfl <;>
      · simp [daysInMonth]
        omega

/-- The date of a day number is one of the calendar. -/
theorem isValid_ofDays (days : Int) : (ofDays days).isValid = true := by
  rw [ofDays_eq]
  have first : 0 ≤ (days + 719468) % 146097 := by omega
  have last : (days + 719468) % 146097 ≤ 146096 := by omega
  obtain ⟨low, high⟩ := dayOfYear_bounds first last
  exact isValid_ofMarch low high fun longest => isLeap_of_dayOfYear first last longest _

/-! ## Years of days

The first day of a year separates the days before it from those of the year and later ones. So a
comparison of years is one of day numbers, and the years that can be shown become a range of
seconds. -/

/-- A day is in the year or a later one exactly when it is no earlier than the first day of the
year. -/
theorem le_year_ofDays_iff {year days : Int} :
    year ≤ (ofDays days).year ↔ newYear year ≤ days := by
  obtain ⟨month, first, last⟩ := isValid_iff.mp (isValid_ofDays days)
  have day := Nat.le_trans last (daysInMonth_le _ _)
  obtain ⟨low, high⟩ := toDays_bounds month ⟨first, day⟩
  rw [toDays_ofDays] at low high
  refine ⟨fun h => Int.le_trans (newYear_le h) low, fun h => ?_⟩
  -- the day of an earlier year would lie before the first day of the next one
  rcases Int.lt_or_le (ofDays days).year year with earlier | later
  · have next := newYear_le (Int.add_one_le_of_lt earlier)
    omega
  · exact later

theorem year_ofDays_le_iff {year days : Int} :
    (ofDays days).year ≤ year ↔ days < newYear (year + 1) := by
  rw [← Int.not_le, ← le_year_ofDays_iff, Int.add_one_le_iff, Int.not_lt]

end AzcRepair.Date
