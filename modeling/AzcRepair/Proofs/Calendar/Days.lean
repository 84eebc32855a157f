import AzcRepair.Calendar

/-!
# Day numbers

A date is found from its day number by way of the 400-year era, the year of the era and the day of
that year, where years are counted from March. Every day number is that of the date that is found.

* `Date.yearOfEra`, `Date.dayOfYear` — the steps on the way, with their bounds.
* `Date.toDays_ofMarch` — the day number of a day of a year that is counted from March.
* `Date.toDays_ofDays` — a date is found from its day number without loss.
-/

namespace AzcRepair.Date

/-- The year of the era that a day of the era is in. -/
def yearOfEra (day : Int) : Int :=
  (day - day / 1460 + day / 36524 - day / 146096) / 365

/-- The day of its year that a day of the era is. -/
def dayOfYear (day : Int) : Int :=
  day - (365 * yearOfEra day + yearOfEra day / 4 - yearOfEra day / 100)

/-- The date of a day of a year that is counted from March. -/
def ofMarch (year day : Int) : Date :=
  let month := (5 * day + 2) / 153
  let day := day - (153 * month + 2) / 5 + 1
  if month < 10 then ⟨year, (month + 3).toNat, day.toNat⟩
  else ⟨year + 1, (month - 9).toNat, day.toNat⟩

theorem ofDays_eq (days : Int) :
    ofDays days = ofMarch (yearOfEra ((days + 719468) % 146097) + (days + 719468) / 146097 * 400)
      (dayOfYear ((days + 719468) % 146097)) := by
  have hrest : days + 719468 - (days + 719468) / 146097 * 146097 = (days + 719468) % 146097 := by
    omega
  simp (disch := decide) only [ofDays, Int.fdiv_eq_ediv_of_nonneg, hrest]
  rfl

/-! ## Bounds

An era has 146097 days and 400 years. The steps from a day to its date stay within these bounds,
so the quotients that are taken on the way never leave their era. Integer division is all there is
to it; `omega` decides it once the century and the year are named. -/

section

variable {day : Int} (first : 0 ≤ day) (last : day ≤ 146096)

include first last

theorem yearOfEra_bounds : 0 ≤ yearOfEra day ∧ yearOfEra day ≤ 399 := by
  unfold yearOfEra
  omega

/-- The century of a year is that of its days, but for the last day of the era. -/
theorem yearOfEra_century : yearOfEra day / 100 = day / 36524 - day / 146096 := by
  have hcentury : day / 36524 = 0 ∨ day / 36524 = 1 ∨ day / 36524 = 2 ∨ day / 36524 = 3 ∨
      day / 36524 = 4 := by
    omega
  unfold yearOfEra
  -- the fifth case is the last day of the era, which the formula moves back by one
  rcases hcentury with h | h | h | h | h <;> omega

theorem dayOfYear_bounds : 0 ≤ dayOfYear day ∧ dayOfYear day ≤ 365 := by
  have hcentury := yearOfEra_century first last
  have hyear : yearOfEra day = 4 * (day / 1460) - 1 ∨ yearOfEra day = 4 * (day / 1460) ∨
      yearOfEra day = 4 * (day / 1460) + 1 ∨ yearOfEra day = 4 * (day / 1460) + 2 ∨
      yearOfEra day = 4 * (day / 1460) + 3 := by
    unfold yearOfEra at hcentury ⊢
    omega
  unfold dayOfYear
  -- apart from the year, all quotients are linear in each of the five cases
  unfold yearOfEra at hcentury hyear ⊢
  rcases hyear with h | h | h | h | h <;> omega

end

/-! ## There and back

A year that is counted from March has its leap day at its end, so the day of the year alone gives
the month and the day. The two halves of the year differ in whether the calendar year has changed.
-/

section

variable {year day : Int} (first : 0 ≤ day) (last : day ≤ 365)

include first last

theorem ofMarch_bounds : (ofMarch year day).month ≤ 12 ∧ (ofMarch year day).day ≤ 31 := by
  unfold ofMarch
  dsimp only
  split <;> constructor <;> dsimp only <;> omega

/-- The day number is found from the era, the year in it and the day of the year, which is what
the way from a day number to a date went through. -/
theorem toDays_ofMarch :
    (ofMarch year day).toDays =
      year / 400 * 146097 + (year % 400 * 365 + year % 400 / 4 - year % 400 / 100 + day) -
        719468 := by
  have hyear : year - year / 400 * 400 = year % 400 := by omega
  simp (disch := decide) only [toDays, Int.fdiv_eq_ediv_of_nonneg]
  unfold ofMarch
  dsimp only
  split
  · next early =>
    have hmonth : ¬ ((5 * day + 2) / 153 + 3).toNat ≤ 2 := by omega
    simp only [if_neg hmonth, hyear]
    omega
  · next late =>
    have hmonth : ((5 * day + 2) / 153 - 9).toNat ≤ 2 := by omega
    have hback : year + 1 - 1 = year := by omega
    simp only [if_pos hmonth, hback, hyear]
    omega

end

theorem ofDays_bounds (days : Int) : (ofDays days).month ≤ 12 ∧ (ofDays days).day ≤ 31 := by
  rw [ofDays_eq]
  generalize hday : (days + 719468) % 146097 = day
  have hera : 0 ≤ day ∧ day ≤ 146096 := by omega
  obtain ⟨hfirst, hlast⟩ := dayOfYear_bounds hera.1 hera.2
  exact ofMarch_bounds hfirst hlast

/-- A date is found from its day number without loss. -/
theorem toDays_ofDays (days : Int) : (ofDays days).toDays = days := by
  rw [ofDays_eq]
  generalize hday : (days + 719468) % 146097 = day
  have hera : 0 ≤ day ∧ day ≤ 146096 := by omega
  obtain ⟨hfirst, hlast⟩ := dayOfYear_bounds hera.1 hera.2
  obtain ⟨hzero, hyears⟩ := yearOfEra_bounds hera.1 hera.2
  -- the year of the era is a remainder, so it can be read off the year
  have hyear : (yearOfEra day + (days + 719468) / 146097 * 400) % 400 = yearOfEra day := by omega
  rw [toDays_ofMarch hfirst hlast, hyear, dayOfYear]
  omega

end AzcRepair.Date
