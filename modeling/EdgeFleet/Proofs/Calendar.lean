import EdgeFleet.Time.Calendar
import Mathlib.Order.Monotone.Basic
import Mathlib.Tactic.IntervalCases
import Mathlib.Tactic.SplitIfs
/-!
# Days of the calendar

Every day is an `EraDay`: a year of an era, a month of the year and a day of the month, with years that
start in March. The date of a day is its `EraDay` with the year moved to January, so what is counted
from a date is the day it is the date of (`Date.toDays_ofDays`), and every date of a day exists
(`Date.isValid_ofDays`).
-/

namespace EdgeFleet

/-- A day in an era of four hundred years that start in March: a year, a month and a day of the month,
each from zero. -/
structure EraDay where
  era : Int
  year : Nat
  month : Nat
  day : Nat

namespace EraDay

/-- The days of an era before a year of it. -/
def yearStart (y : Nat) : Nat := 365 * y + y / 4 - y / 100 + y / 400

/-- The days of a year before a month of it. -/
def monthStart (m : Nat) : Nat := (153 * m + 2) / 5

/-- Whether the era has the year, the year the month, and both the year and the month the day. -/
structure Valid (e : EraDay) : Prop where
  year_lt : e.year < 400
  month_lt : e.month < 12
  lt_month : monthStart e.month + e.day < monthStart (e.month + 1)
  lt_year : yearStart e.year + monthStart e.month + e.day < yearStart (e.year + 1)

/-- Days from 1970-01-01. -/
def days (e : EraDay) : Int :=
  e.era * 146097 + (yearStart e.year + monthStart e.month + e.day : Nat) - 719468

/-- The date, in a year that starts in January. -/
def date (e : EraDay) : Date :=
  if e.month < 10 then ⟨e.era * 400 + e.year, e.month + 3, e.day + 1⟩
  else ⟨e.era * 400 + e.year + 1, e.month - 9, e.day + 1⟩

/-! ## Years and months -/

/-- A year from March has the leap day of the next year from January. -/
theorem yearStart_succ (era : Int) (y : Nat) :
    yearStart (y + 1) = yearStart y + 337 + Date.daysInMonth (era * 400 + y + 1) 2 := by
  have hfour : (era * 400 + (y : Int) + 1) % 4 = ((y + 1) % 4 : Nat) := by omega
  have hhundred : (era * 400 + (y : Int) + 1) % 100 = ((y + 1) % 100 : Nat) := by omega
  have hera : (era * 400 + (y : Int) + 1) % 400 = ((y + 1) % 400 : Nat) := by omega
  have hleap : Date.isLeapYear (era * 400 + y + 1) = true ↔
      (y + 1) % 4 = 0 ∧ ((y + 1) % 100 ≠ 0 ∨ (y + 1) % 400 = 0) := by
    simp only [Date.isLeapYear, hfour, hhundred, hera, Bool.and_eq_true, Bool.or_eq_true, beq_iff_eq, bne_iff_ne]
    omega
  change _ = _ + if Date.isLeapYear (era * 400 + y + 1) then 29 else 28
  unfold yearStart
  rw [Nat.succ_div (b := 4), Nat.succ_div (b := 100), Nat.succ_div (b := 400)]
  by_cases h : Date.isLeapYear (era * 400 + y + 1) = true
  · rw [if_pos h]
    have := hleap.1 h
    split_ifs <;> omega
  · rw [if_neg h]
    have := mt hleap.2 h
    split_ifs <;> omega

theorem yearStart_mono : Monotone yearStart :=
  monotone_nat_of_le_succ (fun y => by rw [yearStart_succ 0]; omega)

theorem yearStart_succ_le (y : Nat) : yearStart (y + 1) ≤ yearStart y + 366 := by
  have hfebruary : Date.daysInMonth (0 * 400 + y + 1) 2 ≤ 29 := by
    unfold Date.daysInMonth
    split_ifs <;> simp_all
  rw [yearStart_succ 0]
  omega

/-- From March to December every month has one length. -/
theorem daysInMonth_of_lt (y : Int) {m : Nat} (h : m < 10) :
    Date.daysInMonth y (m + 3) = monthStart (m + 1) - monthStart m := by
  interval_cases m <;> rfl

/-- The year of a day of an era is the last one that starts by then. -/
theorem yearStart_le {d y : Nat} (hd : d < 146097) (hy : y = (d - d / 1460 + d / 36524 - d / 146096) / 365) :
    y < 400 ∧ yearStart y ≤ d ∧ d < yearStart (y + 1) := by
  have hlt : y < 400 := by omega
  -- The hundreds are told by the day, not by the year, and each century is a case of its own.
  have hcentury : y / 100 = d / 36524 - d / 146096 := by
    have : d / 36524 = 0 ∨ d / 36524 = 1 ∨ d / 36524 = 2 ∨ d / 36524 = 3 ∨ d / 36524 = 4 := by omega
    rcases this with h | h | h | h | h <;> omega
  have hzero : y / 400 = 0 := by omega
  have hera : y = 399 ∨ (y + 1) / 400 = 0 := by omega
  have hfour : y % 4 = 3 ∨ (y + 1) / 4 = y / 4 := by omega
  have hhundred : y % 100 = 99 ∨ (y + 1) / 100 = y / 100 := by omega
  unfold yearStart
  exact ⟨hlt, by omega, by omega⟩

/-- The month of a day of a year is the last one that starts by then. -/
theorem monthStart_le {d m : Nat} (hd : d < 366) (hm : m = (5 * d + 2) / 153) :
    m < 12 ∧ monthStart m ≤ d ∧ d < monthStart (m + 1) := by
  unfold monthStart
  omega

/-! ## Days and dates -/

/-- Every day is a day of an era, and that is how its date is made. -/
theorem exists_days (n : Int) : ∃ e : EraDay, e.Valid ∧ e.days = n ∧ e.date = Date.ofDays n := by
  obtain ⟨d, hd⟩ : ∃ d : Nat, (d : Int) = (n + 719468) % 146097 := ⟨((n + 719468) % 146097).toNat, by omega⟩
  obtain ⟨y, hy⟩ : ∃ y, y = (d - d / 1460 + d / 36524 - d / 146096) / 365 := ⟨_, rfl⟩
  obtain ⟨m, hm⟩ : ∃ m, m = (5 * (d - yearStart y) + 2) / 153 := ⟨_, rfl⟩
  obtain ⟨hylt, hyle, hlty⟩ := yearStart_le (by omega) hy
  have hlen := yearStart_succ_le y
  obtain ⟨hmlt, hmle, hltm⟩ := monthStart_le (by omega) hm
  refine ⟨⟨(n + 719468) / 146097, y, m, d - yearStart y - monthStart m⟩, ⟨hylt, hmlt, ?_, ?_⟩, ?_, ?_⟩
  · change monthStart m + (d - yearStart y - monthStart m) < monthStart (m + 1)
    omega
  · change yearStart y + monthStart m + (d - yearStart y - monthStart m) < yearStart (y + 1)
    omega
  · change (n + 719468) / 146097 * 146097 +
      ((yearStart y + monthStart m + (d - yearStart y - monthStart m) : Nat) : Int) - 719468 = n
    omega
  · have hdayOfEra : ((n + 719468) % 146097).toNat = d := by omega
    have hstart : yearStart y = 365 * y + y / 4 - y / 100 := by unfold yearStart; omega
    unfold Date.ofDays
    simp only [hdayOfEra, ← hy, ← hstart, ← hm]
    unfold date
    simp only [monthStart]
    by_cases hten : m < 10
    · rw [if_pos hten, if_pos hten, if_neg (by omega)]
    · rw [if_neg hten, if_neg hten, if_pos (by omega)]

theorem toDays_date {e : EraDay} (h : e.Valid) : e.date.toDays = e.days := by
  obtain ⟨era, y, m, day⟩ := e
  obtain ⟨hy, hm, -, -⟩ := h
  simp only at hy hm
  have hstart : (yearStart y : Int) = 365 * y + y / 4 - y / 100 := by unfold yearStart; omega
  have hyear : (era * 400 + (y : Int)) % 400 = y := by omega
  have hera : (era * 400 + (y : Int)) / 400 = era := by omega
  unfold date days
  simp only [monthStart]
  by_cases hten : m < 10
  · rw [if_pos hten]
    unfold Date.toDays
    simp only [if_neg (show ¬ m + 3 ≤ 2 by omega), hyear, hera]
    omega
  · rw [if_neg hten]
    unfold Date.toDays
    simp only [if_pos (show m - 9 ≤ 2 by omega), Int.add_sub_cancel, hyear, hera]
    omega

theorem isValid_date {e : EraDay} (h : e.Valid) : e.date.isValid = true := by
  obtain ⟨era, y, m, day⟩ := e
  obtain ⟨-, hm, hday, hyear⟩ := h
  simp only at hm hday hyear
  unfold date Date.isValid
  by_cases hten : m < 10
  · have hlen := daysInMonth_of_lt (era * 400 + y) hten
    simp only [if_pos hten, Bool.and_eq_true, decide_eq_true_eq]
    omega
  · have hlen := yearStart_succ era y
    simp only [if_neg hten, Bool.and_eq_true, decide_eq_true_eq]
    obtain rfl | rfl : m = 10 ∨ m = 11 := by omega
    · have hjanuary : Date.daysInMonth (era * 400 + y + 1) (10 - 9) = 31 := rfl
      simp only [monthStart] at hday
      omega
    · change _ ∧ day + 1 ≤ Date.daysInMonth (era * 400 + y + 1) 2
      simp only [monthStart] at hyear
      omega

/-- From the first day of the year -262143 to the last of the year 262142 the years are these. -/
theorem year_date {e : EraDay} (h : e.Valid) (hl : -96465292 ≤ e.days) (hm : e.days ≤ 95026236) :
    -262143 ≤ e.date.year ∧ e.date.year ≤ 262142 := by
  obtain ⟨era, y, m, day⟩ := e
  obtain ⟨hy, -, hday, hyear⟩ := h
  simp only [days, monthStart] at hy hday hyear hl hm
  have hyears : yearStart (y + 1) ≤ 146097 := yearStart_mono (show y + 1 ≤ 400 from hy)
  have hera : -656 ≤ era ∧ era ≤ 655 := by omega
  -- In the outermost years from March it is the month that decides to which year from January a day belongs.
  have hbefore : 256 ≤ y ∨ yearStart (y + 1) ≤ 93502 :=
    or_iff_not_imp_left.2 (fun h => yearStart_mono (show y + 1 ≤ 256 by omega))
  have hfirst : 257 ≤ y ∨ yearStart y ≤ 93502 := or_iff_not_imp_left.2 (fun h => yearStart_mono (show y ≤ 256 by omega))
  have hlast : y ≤ 141 ∨ 51864 ≤ yearStart y := or_iff_not_imp_left.2 (fun h => yearStart_mono (show 142 ≤ y by omega))
  have hbehind : y ≤ 142 ∨ 52229 ≤ yearStart y :=
    or_iff_not_imp_left.2 (fun h => yearStart_mono (show 143 ≤ y by omega))
  unfold date
  by_cases hten : m < 10
  · simp only [if_pos hten]
    omega
  · simp only [if_neg hten]
    omega

end EraDay

namespace Date

/-- What is counted from the date of a day is the day. -/
theorem toDays_ofDays (n : Int) : (ofDays n).toDays = n := by
  obtain ⟨e, he, rfl, hdate⟩ := EraDay.exists_days n
  rw [← hdate, EraDay.toDays_date he]

theorem isValid_ofDays (n : Int) : (ofDays n).isValid = true := by
  obtain ⟨e, he, -, hdate⟩ := EraDay.exists_days n
  rw [← hdate, EraDay.isValid_date he]

theorem year_ofDays {n : Int} (hl : -96465292 ≤ n) (hm : n ≤ 95026236) :
    -262143 ≤ (ofDays n).year ∧ (ofDays n).year ≤ 262142 := by
  obtain ⟨e, he, rfl, hdate⟩ := EraDay.exists_days n
  rw [← hdate]
  exact EraDay.year_date he hl hm

theorem le_of_isValid {d : Date} (h : d.isValid = true) : d.month ≤ 12 ∧ d.day ≤ 31 := by
  simp only [isValid, Bool.and_eq_true, decide_eq_true_eq] at h
  have hlen : daysInMonth d.year d.month ≤ 31 := by
    unfold daysInMonth
    split_ifs <;> decide
  omega

end Date

end EdgeFleet
