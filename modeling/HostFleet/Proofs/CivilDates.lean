import HostFleet.Instant.Basic
import Mathlib

/-!
# Dates and day numbers

`Instant.dateOfDay` gives a day of the calendar, and `Instant.dayOfDate` gives its number back.
The days of 400 years are counted by centuries, by four years, by years and by days; the last day
of each of these that is longer than the others is where the divisions need care.
-/

namespace HostFleet.Proofs
open Instant

/-- A day within 400 years: its century, its four years, its year and the days before it. Only
the years with a leap day have 366 days. -/
structure EraDay where
  century : Nat
  quad : Nat
  year : Nat
  day : Nat
  century_le : century ≤ 3
  quad_le : quad ≤ 24
  year_le : year ≤ 3
  day_le : day ≤ 365
  leap : day = 365 → year = 3 ∧ (quad = 24 → century = 3)

namespace EraDay

/-- The days before it. -/
def number (e : EraDay) : Nat := 36524 * e.century + 1461 * e.quad + 365 * e.year + e.day

def yearOfEra (e : EraDay) : Nat := 100 * e.century + 4 * e.quad + e.year

/-- Every day within 400 years is one. -/
lemma exists_of_lt {n : Nat} (h : n < 146097) : ∃ e : EraDay, e.number = n := by
  let c := min (n / 36524) 3
  let q := (n - 36524 * c) / 1461
  let y := min ((n - 36524 * c - 1461 * q) / 365) 3
  have hc : c ≤ 3 ∧ 36524 * c ≤ n ∧ (n - 36524 * c ≤ 36523 ∨ c = 3 ∧ n - 36524 * c ≤ 36524) := by
    omega
  have hq : q ≤ 24 ∧ 1461 * q ≤ n - 36524 * c ∧ n - 36524 * c - 1461 * q ≤ 1460 := by omega
  refine ⟨⟨c, q, y, n - 36524 * c - 1461 * q - 365 * y, hc.1, hq.1, ?_, ?_, ?_⟩, ?_⟩
  · omega
  · omega
  · omega
  · simp only [number]
    omega

/-- The days of a century before it do not fill another one, but for the last day of all. -/
lemma within_century (e : EraDay) (h : e.number < 146096) :
    1461 * e.quad + 365 * e.year + e.day < 36524 := by
  obtain ⟨c, q, y, d, hc, hq, hy, hd, hleap⟩ := e
  simp only [number] at h ⊢
  by_cases hd' : d = 365
  · obtain ⟨rfl, hlast⟩ := hleap hd'
    omega
  · omega

/-- The year is found from the number of the day. -/
lemma yearOfEra_eq (e : EraDay) :
    (e.number + e.number / 36524 - e.number / 1460 - e.number / 146096) / 365 = e.yearOfEra := by
  have hcentury := e.within_century
  obtain ⟨c, q, y, d, hc, hq, hy, hd, hleap⟩ := e
  simp only [number, yearOfEra] at hcentury ⊢
  generalize hn : 36524 * c + 1461 * q + 365 * y + d = n at hcentury ⊢
  by_cases hlast : n < 146096
  · have hin := hcentury hlast
    have h₁ : n / 36524 = c := by omega
    have h₂ : n / 146096 = 0 := by omega
    -- Years are counted as 365 days here, and 1460 days are four of them.
    have hrest : n = 1460 * (25 * c + q) + (24 * c + q + 365 * y + d) := by omega
    by_cases hover : 24 * c + q + 365 * y + d < 1460
    · have h₃ : n / 1460 = 25 * c + q := by omega
      have hd' : d ≤ 364 := by omega
      rw [h₁, h₂, h₃]
      omega
    · have h₃ : n / 1460 = 25 * c + q + 1 := by omega
      have hd' : 1 ≤ d := by omega
      rw [h₁, h₂, h₃]
      omega
  · have hall : c = 3 ∧ q = 24 ∧ y = 3 ∧ d = 365 := by omega
    obtain ⟨rfl, rfl, rfl, rfl⟩ := hall
    subst hn
    rfl

lemma yearOfEra_div_four (e : EraDay) : e.yearOfEra / 4 = 25 * e.century + e.quad := by
  have hy := e.year_le
  rw [yearOfEra]
  omega

lemma yearOfEra_div_hundred (e : EraDay) : e.yearOfEra / 100 = e.century := by
  have hq := e.quad_le
  have hy := e.year_le
  rw [yearOfEra]
  omega

/-- The month of the day, counted from March. -/
def shifted (e : EraDay) : Nat := (5 * e.day + 2) / 153

def month (e : EraDay) : Nat := if e.shifted < 10 then e.shifted + 3 else e.shifted - 9

def dayOfMonth (e : EraDay) : Nat := e.day - (153 * e.shifted + 2) / 5 + 1

/-- The year of the calendar in the era, which begins in January. -/
def calendarYear (e : EraDay) (era : Int) : Int :=
  if e.month ≤ 2 then (e.yearOfEra : Int) + era * 400 + 1 else (e.yearOfEra : Int) + era * 400

/-- The number of the day in the era. -/
def dayNumber (e : EraDay) (era : Int) : Int := era * 146097 + e.number - 719468

lemma exists_dayNumber (n : Int) : ∃ (e : EraDay) (era : Int), e.dayNumber era = n := by
  obtain ⟨e, he⟩ := exists_of_lt (n := ((n + 719468) % 146097).toNat) (by omega)
  refine ⟨e, (n + 719468) / 146097, ?_⟩
  rw [dayNumber, he]
  omega

lemma number_lt (e : EraDay) : e.number < 146097 := by
  obtain ⟨c, q, y, d, hc, hq, hy, hd, hleap⟩ := e
  simp only [number]
  by_cases hd' : d = 365
  · have hlast := hleap hd'
    omega
  · omega

lemma shifted_le (e : EraDay) : e.shifted ≤ 11 := by
  have hday := e.day_le
  rw [shifted]
  omega

theorem dateOfDay_dayNumber (e : EraDay) (era : Int) :
    dateOfDay (e.dayNumber era) = (e.calendarYear era, e.month, e.dayOfMonth) := by
  have hlt := e.number_lt
  have hz : e.dayNumber era + 719468 = era * 146097 + e.number := by
    rw [dayNumber]
    omega
  have hera : (era * 146097 + e.number).fdiv 146097 = era := by
    rw [Int.fdiv_eq_ediv_of_nonneg _ (by decide)]
    omega
  have hnumber : (era * 146097 + (e.number : Int) - era * 146097).toNat = e.number := by omega
  have hday : e.number - (365 * e.yearOfEra + e.yearOfEra / 4 - e.yearOfEra / 100) = e.day := by
    rw [yearOfEra_div_four, yearOfEra_div_hundred, number, yearOfEra]
    omega
  simp only [dateOfDay, hz, hera, hnumber, yearOfEra_eq, hday]
  rfl

theorem dayOfDate_dayNumber (e : EraDay) (era : Int) :
    dayOfDate (e.calendarYear era) e.month e.dayOfMonth = e.dayNumber era := by
  have hq := e.quad_le
  have hy := e.year_le
  have hc := e.century_le
  have hs := e.shifted_le
  have hmarch : (if e.month ≤ 2 then e.calendarYear era - 1 else e.calendarYear era) =
      e.yearOfEra + era * 400 := by
    rw [calendarYear]
    split <;> omega
  have hyear : e.yearOfEra < 400 := by
    rw [yearOfEra]
    omega
  have hera : ((e.yearOfEra : Int) + era * 400).fdiv 400 = era := by
    rw [Int.fdiv_eq_ediv_of_nonneg _ (by decide)]
    omega
  have hyears : ((e.yearOfEra : Int) + era * 400 - era * 400).toNat = e.yearOfEra := by omega
  have hmonth : (e.month + 9) % 12 = e.shifted := by
    rw [month]
    split <;> omega
  have hday : (153 * e.shifted + 2) / 5 + e.dayOfMonth - 1 = e.day := by
    have hle : (153 * e.shifted + 2) / 5 ≤ e.day := by
      rw [shifted]
      omega
    rw [dayOfMonth]
    omega
  simp only [dayOfDate, hmarch, hera, hyears, hmonth, hday, dayNumber]
  rw [yearOfEra_div_four, yearOfEra_div_hundred, number, yearOfEra]
  omega

lemma month_bounds (e : EraDay) : 1 ≤ e.month ∧ e.month ≤ 12 := by
  have hs := e.shifted_le
  rw [month]
  split <;> omega

/-- The leap day is in a leap year. -/
lemma isLeapYear_of_leap (e : EraDay) (era : Int) (h : e.day = 365) :
    isLeapYear (e.yearOfEra + era * 400 + 1) = true := by
  obtain ⟨hyear, hquad⟩ := e.leap h
  have hc := e.century_le
  have hq := e.quad_le
  simp only [isLeapYear, yearOfEra, hyear, Bool.and_eq_true, Bool.or_eq_true, beq_iff_eq,
    bne_iff_ne]
  constructor
  · omega
  · by_cases hlast : e.quad = 24
    · have hcentury := hquad hlast
      omega
    · omega

/-- Months from March to January have as many days as lie between their first days. -/
lemma length_of_month {m : Nat} (h : m ≤ 10) (y : Int) :
    (153 * (m + 1) + 2) / 5 - (153 * m + 2) / 5 =
      daysInMonth y (if m < 10 then m + 3 else m - 9) := by
  have hall : ∀ m ≤ 10, (if m < 10 then m + 3 else m - 9) ≠ 2 ∧
      (153 * (m + 1) + 2) / 5 - (153 * m + 2) / 5 =
        daysInMonth 0 (if m < 10 then m + 3 else m - 9) := by decide
  obtain ⟨hne, hlength⟩ := hall m h
  rw [hlength, daysInMonth, if_neg hne, daysInMonth, if_neg hne]

theorem dayOfMonth_le (e : EraDay) (era : Int) :
    e.dayOfMonth ≤ daysInMonth (e.calendarYear era) e.month := by
  have hs := e.shifted_le
  have hday := e.day_le
  have hin : (153 * e.shifted + 2) / 5 ≤ e.day ∧ e.day < (153 * (e.shifted + 1) + 2) / 5 := by
    rw [shifted]
    omega
  by_cases hfebruary : e.shifted = 11
  · have hmonth : e.month = 2 := by rw [month, hfebruary]; rfl
    rw [dayOfMonth, hfebruary, calendarYear, hmonth, if_pos (by decide), daysInMonth, if_pos rfl]
    by_cases hleap : e.day = 365
    · rw [if_pos (e.isLeapYear_of_leap era hleap)]
      omega
    · split <;> omega
  · have hlength := length_of_month (m := e.shifted) (by omega) (e.calendarYear era)
    rw [← month] at hlength
    rw [dayOfMonth, ← hlength]
    omega

lemma month_le_two_iff (e : EraDay) : e.month ≤ 2 ↔ 306 ≤ e.day := by
  have hday := e.day_le
  rw [month, shifted]
  split <;> omega

/-- The days of the calendar lie in its years. -/
lemma calendarYear_bounds (e : EraDay) (era : Int)
    (h : firstDay ≤ e.dayNumber era ∧ e.dayNumber era ≤ lastDay) :
    firstYear ≤ e.calendarYear era ∧ e.calendarYear era ≤ lastYear := by
  have hfirst : firstDay = -656 * 146097 + 93808 - 719468 := by rfl
  have hlast : lastDay = 655 * 146097 + 52169 - 719468 := by rfl
  have hlt := e.number_lt
  have hmonth := e.month_le_two_iff
  rw [hfirst, hlast, dayNumber] at h
  have hera : -656 ≤ era ∧ era ≤ 655 := by omega
  obtain ⟨c, q, y, d, hc, hq, hy, hd, hleap⟩ := e
  simp only [number, calendarYear, yearOfEra, hmonth, firstYear, lastYear] at h ⊢
  constructor
  · by_cases hlow : era = -656
    · split <;> omega
    · split <;> omega
  · by_cases hhigh : era = 655
    · split <;> omega
    · split <;> omega

end EraDay

/-- The date of a day has its number. -/
theorem dayOfDate_dateOfDay (n : Int) :
    dayOfDate (dateOfDay n).1 (dateOfDay n).2.1 (dateOfDay n).2.2 = n := by
  obtain ⟨e, era, rfl⟩ := EraDay.exists_dayNumber n
  rw [EraDay.dateOfDay_dayNumber]
  exact e.dayOfDate_dayNumber era

/-- The date of a day of the calendar is one that the calendar has. -/
theorem dateOfDay_bounds {n : Int} (h : firstDay ≤ n ∧ n ≤ lastDay) :
    (firstYear ≤ (dateOfDay n).1 ∧ (dateOfDay n).1 ≤ lastYear) ∧
      (1 ≤ (dateOfDay n).2.1 ∧ (dateOfDay n).2.1 ≤ 12) ∧
      1 ≤ (dateOfDay n).2.2 ∧
        (dateOfDay n).2.2 ≤ daysInMonth (dateOfDay n).1 (dateOfDay n).2.1 := by
  obtain ⟨e, era, rfl⟩ := EraDay.exists_dayNumber n
  rw [EraDay.dateOfDay_dayNumber]
  exact ⟨e.calendarYear_bounds era h, e.month_bounds, Nat.le_add_left 1 _, e.dayOfMonth_le era⟩

end HostFleet.Proofs
