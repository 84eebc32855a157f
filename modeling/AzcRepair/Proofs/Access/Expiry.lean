import AzcRepair.Access.Expiry
import AzcRepair.Proofs.Calendar.Stamp
import AzcRepair.Proofs.Calendar.Years
import AzcRepair.Proofs.Text.Classes
import AzcRepair.Proofs.Text.Lines
import Mathlib.Data.List.TakeWhile

/-!
# Written instants are read back

An instant with whole seconds in a year of four digits can be written as a wall-clock time. However
many zeros of a fraction stand behind it, the instant is read back.

* `Instant.wallClock` — the written form.
* `readDigits_append`, `readNumber_padded` — numbers of a fixed width in front of a text.
* `instantOf?_date` — an instant is made of its date and its time of day.
* `readInstant_wallClock` — the written form is read back.
* `isRepresentable_iff` — the seconds that can be given a date are those of the years that can.
-/

namespace AzcRepair

open Text (padded natOfDigits)

namespace Instant

/-- The point of a fraction and so many zeros; without zeros there is no point either. -/
def zeroFraction : Nat → List Char
  | 0 => []
  | zeros + 1 => '.' :: List.replicate (zeros + 1) '0'

/-- The wall-clock form, such as `2025-05-01 13:45:10.000000`. -/
def wallClock (instant : Instant) (zeros : Nat) : String :=
  let date := instant.date
  let second := instant.secondOfDay
  Date.yearText date.year ++ "-" ++ padded 2 date.month ++ "-" ++ padded 2 date.day ++ " " ++
    padded 2 (second / 3600) ++ ":" ++ padded 2 (second / 60 % 60) ++ ":" ++
    padded 2 (second % 60) ++ String.ofList (zeroFraction zeros)

end Instant

namespace Access

variable {rest : List Char}

/-! ## Numbers

The readers take as many digits as they may, and as many as there are. So they are shown to read a
number in front of any text that does not go on with a digit. For the parts of a time that text
begins with the mark behind the number. -/

theorem readDigits_append {most : Nat} {digits : List Char}
    (all : ∀ c ∈ digits, c.isDigit = true) (nonempty : digits ≠ []) (within : digits.length ≤ most)
    (stops : rest.takeWhile Char.isDigit = []) :
    readDigits most (digits ++ rest) = some (digits, rest) := by
  have found : ((digits ++ rest).takeWhile Char.isDigit).take most = digits := by
    rw [List.takeWhile_append_of_pos all, stops, List.append_nil, List.take_of_length_le within]
  rw [readDigits, found, List.drop_left]
  exact if_neg (by simpa using nonempty)

section

variable {width n : Nat} (wide : 0 < width) (small : n < 10 ^ width)

include wide small

/-- A number of a fixed width begins with a digit. -/
theorem padded_eq_cons : ∃ c cs, (padded width n).toList = c :: cs ∧ c.isDigit = true := by
  cases shape : (padded width n).toList with
  | nil =>
    have length := Text.length_padded wide small
    rw [shape] at length
    exact absurd length (Nat.ne_of_lt wide)
  | cons c cs =>
    have mem : c ∈ (padded width n).toList := shape ▸ List.mem_cons_self
    exact ⟨c, cs, rfl, Text.isDigit_of_mem_padded mem⟩

/-- No blank stands before a number of a fixed width. -/
theorem trimStart_padded : Text.trimStart ((padded width n).toList ++ rest) =
    (padded width n).toList ++ rest := by
  obtain ⟨c, cs, shape, digit⟩ := padded_eq_cons wide small
  rw [shape]
  exact List.dropWhile_cons_of_neg (by simp [Text.isBlank_of_isDigit digit])

/-- A number of a fixed width is read digit by digit. -/
theorem readDigits_padded (stops : rest.takeWhile Char.isDigit = []) :
    readDigits width ((padded width n).toList ++ rest) = some ((padded width n).toList, rest) := by
  have length := Text.length_padded wide small
  refine readDigits_append (fun c mem => Text.isDigit_of_mem_padded mem) ?_ ?_ stops
  · exact List.ne_nil_of_length_pos (by rw [length]; exact wide)
  · exact Nat.le_of_eq length

theorem readNumber_padded (stops : rest.takeWhile Char.isDigit = []) :
    readNumber width ((padded width n).toList ++ rest) = some (n, rest) := by
  rw [readNumber, trimStart_padded wide small, readDigits_padded wide small stops, Option.map_some]
  dsimp only
  rw [Text.natOfDigits_padded]

end

theorem readNumber_blank (most : Nat) (text : List Char) :
    readNumber most (' ' :: text) = readNumber most text := by
  have blank : Text.isBlank ' ' = true := by decide
  rw [readNumber, Text.trimStart, List.dropWhile_cons_of_pos blank]
  rfl

/-- A year of four digits is read without a sign. -/
theorem readYear_padded {year : Nat} (small : year < 10 ^ 4)
    (stops : rest.takeWhile Char.isDigit = []) :
    readYear ((padded 4 year).toList ++ rest) = some ((year : Int), rest) := by
  have wide : 0 < 4 := by decide
  obtain ⟨c, cs, shape, digit⟩ := padded_eq_cons wide small
  -- a digit comes first, so neither of the signs does
  have starts (sign : Char) (others : List Char) (notDigit : sign.isDigit = false) :
      (padded 4 year).toList ++ rest ≠ sign :: others := by
    rw [shape]
    rintro same
    obtain ⟨rfl, -⟩ := List.cons.inj same
    cases digit.symm.trans notDigit
  rw [readYear, trimStart_padded wide small]
  split
  · next signed => exact absurd signed (starts '-' _ rfl)
  · next signed => exact absurd signed (starts '+' _ rfl)
  · rw [readDigits_padded wide small stops, Option.map_some]
    dsimp only
    rw [Text.natOfDigits_padded]

/-- Zeros of a fraction count for nothing, however many there are. -/
theorem readFraction_zeroFraction (zeros : Nat) :
    readFraction (Instant.zeroFraction zeros) = some (0, []) := by
  cases zeros with
  | zero => rfl
  | succ zeros =>
    have all : ∀ c ∈ List.replicate (zeros + 1) '0', c.isDigit = true := by
      intro c mem
      rw [List.eq_of_mem_replicate mem]
      rfl
    -- nine digits are read at the most, and those behind them are dropped
    have found : ((List.replicate (zeros + 1) '0').takeWhile Char.isDigit).take 9 =
        List.replicate (min 9 (zeros + 1)) '0' := by
      rw [List.takeWhile_eq_self_iff.mpr all, List.take_replicate]
    have value : Text.natOfDigits (List.replicate (min 9 (zeros + 1)) '0') = 0 := by
      rw [← List.append_nil (List.replicate _ _), Text.natOfDigits_zeros]
      rfl
    have left (count : Nat) :
        ((List.replicate (zeros + 1) '0').drop count).dropWhile Char.isDigit = [] := by
      rw [List.dropWhile_eq_nil_iff]
      exact fun c mem => all c (List.mem_of_mem_drop mem)
    have nonempty : (List.replicate (min 9 (zeros + 1)) '0').isEmpty = false := by
      rw [List.isEmpty_replicate]
      simp
    rw [Instant.zeroFraction, readFraction, readDigits, found, nonempty, if_neg nofun,
      Option.map_some]
    dsimp only
    rw [value, left, Nat.zero_mul]

/-! ## Dates and times of day

An instant is taken apart into the day it falls on and the seconds since midnight, and put
together again. The two are the quotient and the remainder of its seconds by those of a day. -/

/-- The seconds that can be given a date are those of the years that can. -/
theorem isRepresentable_iff (seconds : Int) : isRepresentable seconds = true ↔
    isRepresentableYear (Instant.date ⟨seconds, 0⟩).year = true := by
  simp only [isRepresentable, isRepresentableYear, Bool.and_eq_true, decide_eq_true_eq,
    Instant.date, Date.le_year_ofDays_iff, Date.year_ofDays_le_iff]
  rw [Int.fdiv_eq_ediv_of_nonneg _ (by decide), Date.newYear, Date.newYear]
  omega

/-- An instant with whole seconds is made of its date and its time of day. -/
theorem instantOf?_date {instant : Instant} (whole : instant.nanos = 0)
    (year : isRepresentableYear instant.date.year = true) :
    instantOf? instant.date (instant.secondOfDay / 3600) (instant.secondOfDay / 60 % 60)
      (instant.secondOfDay % 60) 0 = some instant := by
  have valid : instant.date.isValid = true := Date.isValid_ofDays _
  have before := instant.secondOfDay_lt
  have hour : instant.secondOfDay / 3600 < 24 := by omega
  have minute : instant.secondOfDay / 60 % 60 < 60 := by omega
  have second : instant.secondOfDay % 60 ≤ 60 := by omega
  have noLeap : instant.secondOfDay % 60 / 60 = 0 := by omega
  -- quotient and remainder give the seconds back
  have seconds : instant.date.toDays * 86400 + (instant.secondOfDay / 3600 * 3600 +
      instant.secondOfDay / 60 % 60 * 60 + (instant.secondOfDay % 60 - 0) : Nat) =
        instant.seconds := by
    have day : instant.date.toDays = instant.seconds / 86400 := by
      rw [← Int.fdiv_eq_ediv_of_nonneg _ (by decide)]
      exact Date.toDays_ofDays _
    have time : (instant.secondOfDay : Int) = instant.seconds % 86400 := by
      rw [Instant.secondOfDay, Int.fmod_eq_emod_of_nonneg _ (by decide)]
      omega
    omega
  simp only [instantOf?, valid, year, hour, minute, second, decide_true, Bool.and_self, if_true,
    noLeap, seconds, Nat.zero_mul, Nat.add_zero]
  rw [← whole]

/-! ## The written form

A written time is read part by part, and each part leaves the rest of the text behind it. The
zeros come last, and the reader of fractions makes nothing of them. -/

/-- The written form, letter by letter, with the marks set apart from the numbers. -/
theorem wallClock_toList {instant : Instant} (year : Date.IsPlain instant.date.year) (zeros : Nat) :
    (instant.wallClock zeros).toList =
      (padded 4 instant.date.year.toNat).toList ++ '-' ::
        ((padded 2 instant.date.month).toList ++ '-' ::
          ((padded 2 instant.date.day).toList ++ ' ' ::
            ((padded 2 (instant.secondOfDay / 3600)).toList ++ ':' ::
              ((padded 2 (instant.secondOfDay / 60 % 60)).toList ++ ':' ::
                ((padded 2 (instant.secondOfDay % 60)).toList ++
                  Instant.zeroFraction zeros))))) := by
  simp [Instant.wallClock, Date.yearText_of_isPlain year]

/-- What is written is read back. -/
theorem readInstant_wallClock {instant : Instant} (whole : instant.nanos = 0)
    (year : Date.IsPlain instant.date.year) (zeros : Nat) :
    readInstant (instant.wallClock zeros) = some instant := by
  obtain ⟨month, day⟩ : instant.date.month ≤ 12 ∧ instant.date.day ≤ 31 := Date.ofDays_bounds _
  have before := instant.secondOfDay_lt
  have four : instant.date.year.toNat < 10 ^ 4 := by
    unfold Date.IsPlain at year
    omega
  have same : (instant.date.year.toNat : Int) = instant.date.year := Int.toNat_of_nonneg year.1
  have fits : isRepresentableYear instant.date.year = true := by
    obtain ⟨first, last⟩ := year
    simp only [isRepresentableYear, Bool.and_eq_true, decide_eq_true_eq]
    omega
  -- each number but the last ends at a mark that is no digit, whatever follows the mark
  have readsYear (rest : List Char) :
      readYear ((padded 4 instant.date.year.toNat).toList ++ '-' :: rest) =
        some (instant.date.year, '-' :: rest) := by
    rw [readYear_padded four rfl, same]
  have reads (n : Nat) (mark : Char) (small : n < 100) (stops : mark.isDigit = false)
      (rest : List Char) :
      readNumber 2 ((padded 2 n).toList ++ mark :: rest) = some (n, mark :: rest) :=
    readNumber_padded (by decide) small (List.takeWhile_cons_of_neg (by simp [stops]))
  have readsMonth := reads instant.date.month '-' (by omega) rfl
  have readsDay := reads instant.date.day ' ' (by omega) rfl
  have readsHour := reads (instant.secondOfDay / 3600) ':' (by omega) rfl
  have readsMinute := reads (instant.secondOfDay / 60 % 60) ':' (by omega) rfl
  have readsLast : readNumber 2 ((padded 2 (instant.secondOfDay % 60)).toList ++
      Instant.zeroFraction zeros) =
        some (instant.secondOfDay % 60, Instant.zeroFraction zeros) := by
    refine readNumber_padded (by decide) (by omega) ?_
    cases zeros <;> rfl
  simp only [readInstant, wallClock_toList year, readsYear, readMark, readsMonth, readsDay,
    readNumber_blank, readsHour, readsMinute, readsLast, readFraction_zeroFraction,
    Option.bind_eq_bind, Option.bind_some, if_true, List.isEmpty_nil]
  exact instantOf?_date whole fits

end Access

end AzcRepair
