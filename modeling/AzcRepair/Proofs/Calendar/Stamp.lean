import AzcRepair.Proofs.Calendar.Days
import AzcRepair.Proofs.Text.Digits

/-!
# Stamps tell milliseconds apart

The form of an instant in file names has three parts between underscores: the date, the time of day
and the milliseconds. All but the year and the seconds have a fixed width, so every part can be read
back, also for years with a sign and within leap seconds.

* `Date.yearText_inj` — different years have different texts.
* `Instant.stamp_inj` — instants with one stamp are within one millisecond.
-/

namespace AzcRepair

open Text (padded padded_inj padded_append_inj length_padded isDigit_of_mem_padded parts_inj)

namespace Date

/-! ## Dates

A year of four digits is written without a sign, and any other one with it and with as many digits
as it needs. The month and the day have two digits each, so the year is what is left in front of the
last four characters, however long it is. -/

/-- The year is written without a sign. -/
def IsPlain (year : Int) : Prop :=
  0 ≤ year ∧ year ≤ 9999

def sign (year : Int) : String :=
  if year < 0 then "-" else "+"

theorem yearText_of_isPlain {year : Int} (h : IsPlain year) :
    yearText year = padded 4 year.toNat :=
  if_pos h

theorem yearText_of_not_isPlain {year : Int} (h : ¬ IsPlain year) :
    yearText year = sign year ++ padded 4 year.natAbs :=
  if_neg h

theorem sign_toList (year : Int) : (sign year).toList = [if year < 0 then '-' else '+'] := by
  unfold sign
  split <;> rfl

/-- A number without a sign is not one with a sign. -/
theorem padded_ne_signed (width m n : Nat) (year : Int) :
    padded width m ≠ sign year ++ padded width n := by
  intro h
  have hlists : (padded width m).toList = (sign year).toList ++ (padded width n).toList := by
    rw [h, String.toList_append]
  rw [sign_toList] at hlists
  have hmem : (if year < 0 then '-' else '+') ∈ (padded width m).toList := by
    rw [hlists]
    exact List.mem_cons_self
  have hdigit := isDigit_of_mem_padded hmem
  split at hdigit <;> cases hdigit

/-- A year can be read back from its text, with its sign if it has one. -/
theorem yearText_inj {one other : Int} (h : yearText one = yearText other) : one = other := by
  -- with a sign and without one the texts differ; with the same kind the digits decide
  by_cases hone : IsPlain one
  · by_cases hother : IsPlain other
    · rw [yearText_of_isPlain hone, yearText_of_isPlain hother] at h
      have hsame := padded_inj h
      unfold IsPlain at hone hother
      omega
    · rw [yearText_of_isPlain hone, yearText_of_not_isPlain hother] at h
      exact absurd h (padded_ne_signed _ _ _ _)
  · by_cases hother : IsPlain other
    · rw [yearText_of_not_isPlain hone, yearText_of_isPlain hother] at h
      exact absurd h.symm (padded_ne_signed _ _ _ _)
    · rw [yearText_of_not_isPlain hone, yearText_of_not_isPlain hother] at h
      have hlists := congrArg String.toList h
      rw [String.toList_append, String.toList_append, sign_toList, sign_toList] at hlists
      obtain ⟨hsign, hdigits⟩ := List.cons.inj hlists
      have hsame := padded_inj (String.toList_inj.mp hdigits)
      have hnegative : one < 0 ↔ other < 0 := by
        by_cases hone : one < 0 <;> by_cases hother : other < 0 <;> simp [hone, hother] at hsign ⊢
      unfold IsPlain at hone hother
      omega

/-- The part of a stamp in front of its first underscore. -/
def stampText (date : Date) : List Char :=
  (yearText date.year).toList ++ ((padded 2 date.month).toList ++ (padded 2 date.day).toList)

theorem of_mem_yearText {year : Int} {c : Char} (h : c ∈ (yearText year).toList) :
    c.isDigit = true ∨ c = '-' ∨ c = '+' := by
  by_cases hplain : IsPlain year
  · rw [yearText_of_isPlain hplain] at h
    exact .inl (isDigit_of_mem_padded h)
  · rw [yearText_of_not_isPlain hplain, String.toList_append, sign_toList] at h
    rcases List.mem_append.mp h with hsign | hyear
    · rw [List.mem_singleton.mp hsign]
      split
      · exact .inr (.inl rfl)
      · exact .inr (.inr rfl)
    · exact .inl (isDigit_of_mem_padded hyear)

theorem of_mem_stampText {date : Date} {c : Char} (h : c ∈ date.stampText) :
    c.isDigit = true ∨ c = '-' ∨ c = '+' := by
  rcases List.mem_append.mp h with hyear | h
  · exact of_mem_yearText hyear
  · rcases List.mem_append.mp h with hmonth | hday
    · exact .inl (isDigit_of_mem_padded hmonth)
    · exact .inl (isDigit_of_mem_padded hday)

theorem underscore_notMem_stampText (date : Date) : '_' ∉ date.stampText := by
  intro h
  rcases of_mem_stampText h with hdigit | hsign | hsign
  · cases hdigit
  · cases hsign
  · cases hsign

/-- The month and the day have two digits each, so a date can be read back. -/
theorem stampText_inj {one other : Date} (hone : one.month ≤ 12 ∧ one.day ≤ 31)
    (hother : other.month ≤ 12 ∧ other.day ≤ 31) (h : one.stampText = other.stampText) :
    one = other := by
  have hwidth {date : Date} (small : date.month ≤ 12 ∧ date.day ≤ 31) :
      ((padded 2 date.month).toList ++ (padded 2 date.day).toList).length = 4 := by
    rw [List.length_append, length_padded (by decide) (by omega),
      length_padded (by decide) (by omega)]
  -- the width of the year is not known, that of the rest is
  obtain ⟨hyears, hrest⟩ := List.append_inj' h ((hwidth hone).trans (hwidth hother).symm)
  have hyear := yearText_inj (String.toList_inj.mp hyears)
  obtain ⟨hmonth, hdays⟩ := padded_append_inj (by decide) (by omega) (by omega) hrest
  have hday := padded_inj (String.toList_inj.mp hdays)
  obtain ⟨year, month, day⟩ := one
  obtain ⟨year', month', day'⟩ := other
  obtain rfl : year = year' := hyear
  obtain rfl : month = month' := hmonth
  obtain rfl : day = day' := hday
  rfl

end Date

namespace Instant

/-! ## Instants

The underscores cut a stamp into its three parts, since none of the parts holds one. Each part is
read back on its own: the date gives the day, the time of day the minute and the second that is
shown, and the last part the milliseconds. A leap second is shown as the sixtieth of its minute, so
it is told apart from the second that follows it. -/

/-- The second of the minute that is shown; within a leap second it is one more. -/
def shownSecond (instant : Instant) : Nat :=
  instant.secondOfDay % 60 + instant.nanos / perSecond

/-- The part of a stamp between its underscores. -/
def clockText (instant : Instant) : List Char :=
  (padded 2 (instant.secondOfDay / 3600)).toList ++
    ((padded 2 (instant.secondOfDay / 60 % 60)).toList ++ (padded 2 instant.shownSecond).toList)

theorem stamp_toList (instant : Instant) :
    instant.stamp.toList = instant.date.stampText ++ '_' :: (instant.clockText ++ '_' ::
      (padded 3 (instant.nanos % perSecond / 1000000)).toList) := by
  simp [stamp, Date.stampText, clockText, shownSecond]

theorem secondOfDay_lt (instant : Instant) : instant.secondOfDay < 86400 := by
  unfold secondOfDay
  rw [Int.fmod_eq_emod_of_nonneg _ (by decide)]
  omega

theorem isDigit_of_mem_clockText {instant : Instant} {c : Char} (h : c ∈ instant.clockText) :
    c.isDigit = true := by
  rcases List.mem_append.mp h with hhour | h
  · exact isDigit_of_mem_padded hhour
  · rcases List.mem_append.mp h with hminute | hsecond
    · exact isDigit_of_mem_padded hminute
    · exact isDigit_of_mem_padded hsecond

theorem underscore_notMem_clockText (instant : Instant) : '_' ∉ instant.clockText := fun h => by
  cases isDigit_of_mem_clockText h

/-- A stamp can be part of a file name. -/
theorem slash_notMem_stamp (instant : Instant) : '/' ∉ instant.stamp.toList := by
  rw [stamp_toList]
  intro h
  rcases List.mem_append.mp h with hdate | h
  · rcases Date.of_mem_stampText hdate with hdigit | hsign | hsign
    · cases hdigit
    · cases hsign
    · cases hsign
  · rcases List.mem_append.mp (List.mem_of_ne_of_mem (by decide) h) with hclock | h
    · cases isDigit_of_mem_clockText hclock
    · cases isDigit_of_mem_padded (List.mem_of_ne_of_mem (by decide) h)

/-- The hour and the minute have two digits each, so the time of day can be read back. -/
theorem clockText_inj {one other : Instant} (h : one.clockText = other.clockText) :
    one.secondOfDay / 60 = other.secondOfDay / 60 ∧ one.shownSecond = other.shownSecond := by
  have hone := one.secondOfDay_lt
  have hother := other.secondOfDay_lt
  obtain ⟨hhour, hrest⟩ := padded_append_inj (by decide) (by omega) (by omega) h
  obtain ⟨hminute, hseconds⟩ := padded_append_inj (by decide) (by omega) (by omega) hrest
  exact ⟨by omega, padded_inj (String.toList_inj.mp hseconds)⟩

theorem day_of_date {one other : Instant} (h : one.date = other.date) :
    one.seconds / 86400 = other.seconds / 86400 := by
  have hdays : one.seconds.fdiv 86400 = other.seconds.fdiv 86400 := by
    rw [← Date.toDays_ofDays (one.seconds.fdiv 86400),
      ← Date.toDays_ofDays (other.seconds.fdiv 86400)]
    exact congrArg Date.toDays h
  rwa [Int.fdiv_eq_ediv_of_nonneg _ (by decide), Int.fdiv_eq_ediv_of_nonneg _ (by decide)] at hdays

/-- Instants with one stamp are within one millisecond. -/
theorem stamp_inj {one other : Instant} (h : one.stamp = other.stamp) :
    one.toMillis = other.toMillis := by
  have hlists := congrArg String.toList h
  rw [stamp_toList, stamp_toList] at hlists
  obtain ⟨hdates, hrest⟩ := parts_inj (Date.underscore_notMem_stampText _)
    (Date.underscore_notMem_stampText _) hlists
  obtain ⟨hclocks, hmillis⟩ := parts_inj (underscore_notMem_clockText _)
    (underscore_notMem_clockText _) hrest
  -- the three parts give the day, the second that is shown and the milliseconds in it
  have hday := day_of_date (Date.stampText_inj (Date.ofDays_bounds _) (Date.ofDays_bounds _) hdates)
  obtain ⟨hminute, hsecond⟩ := clockText_inj hclocks
  have hmillis := padded_inj (String.toList_inj.mp hmillis)
  unfold shownSecond secondOfDay perSecond at hsecond
  unfold secondOfDay at hminute
  unfold perSecond at hmillis
  rw [Int.fmod_eq_emod_of_nonneg _ (by decide), Int.fmod_eq_emod_of_nonneg _ (by decide)]
    at hminute hsecond
  unfold toMillis
  omega

/-- Outside leap seconds, instants within one millisecond have one stamp. -/
theorem stamp_eq_iff {one other : Instant} (hone : one.nanos < perSecond)
    (hother : other.nanos < perSecond) :
    one.stamp = other.stamp ↔ one.toMillis = other.toMillis := by
  refine ⟨stamp_inj, fun h => ?_⟩
  unfold toMillis perSecond at *
  have hseconds : one.seconds = other.seconds := by omega
  have hmillis : one.nanos % perSecond / 1000000 = other.nanos % perSecond / 1000000 := by
    unfold perSecond
    omega
  have hleap : one.nanos / perSecond = other.nanos / perSecond := by
    unfold perSecond
    omega
  simp only [stamp, date, secondOfDay, hseconds, hmillis, hleap]

end Instant

end AzcRepair
