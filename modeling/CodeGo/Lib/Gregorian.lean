import Mathlib.Data.Int.Basic
import Mathlib.Tactic.IntervalCases

set_option autoImplicit false

/- Months of the proleptic Gregorian calendar, counted from January of the year 0, and
   days counted from 1 January 1970. -/

namespace Gregorian

def Leap (year : Int) : Prop := year % 4 = 0 ∧ (year % 100 ≠ 0 ∨ year % 400 = 0)

instance (year : Int) : Decidable (Leap year) := inferInstanceAs (Decidable (_ ∧ _))

-- The days of the years from 0 up to a year: every leap year among them has one more.
def yearStart (year : Int) : Int := 365 * year + (year + 3) / 4 - (year + 99) / 100 + (year + 399) / 400

-- The days of a common year before one of its months.
def commonDays (month : Int) : Int :=
  match month with
  | 1 => 31 | 2 => 59 | 3 => 90 | 4 => 120 | 5 => 151 | 6 => 181 | 7 => 212 | 8 => 243 | 9 => 273 | 10 => 304 | 11 => 334
  | _ => 0

def monthStart (month : Int) : Int :=
  yearStart (month / 12) + commonDays (month % 12) + (if Leap (month / 12) ∧ 2 ≤ month % 12 then 1 else 0) - 719528

-- The month by its mean length, moved by one where the guess is off.
def monthOf (day : Int) : Int :=
  let guess := (day + 719528) * 4800 / 146097
  if day < monthStart guess then guess - 1 else if monthStart (guess + 1) ≤ day then guess + 1 else guess

-- No month starts more than five days off the mean.
theorem month_start_near (month : Int) :
    146097 * month - 24000 ≤ 4800 * (monthStart month + 719528) ∧ 4800 * (monthStart month + 719528) ≤ 146097 * month + 24000 := by
  have leap : (if Leap (month / 12) ∧ 2 ≤ month % 12 then (1 : Int) else 0) ≤ 1 ∧ 0 ≤ (if Leap (month / 12) ∧ 2 ≤ month % 12 then (1 : Int) else 0) := by
    split <;> simp
  have days : 4800 * commonDays (month % 12) ≤ 146097 * (month % 12) + 9600 ∧ 146097 * (month % 12) - 9600 ≤ 4800 * commonDays (month % 12) := by
    have low := Int.emod_nonneg month (by decide : (12 : Int) ≠ 0)
    have high := Int.emod_lt_of_pos month (by decide : (0 : Int) < 12)
    generalize month % 12 = part at *
    interval_cases part <;> decide
  unfold monthStart yearStart
  omega

theorem month_of_spec (day : Int) : monthStart (monthOf day) ≤ day ∧ day < monthStart (monthOf day + 1) := by
  have guess : (day + 719528) * 4800 / 146097 * 146097 ≤ (day + 719528) * 4800 ∧
      (day + 719528) * 4800 < (day + 719528) * 4800 / 146097 * 146097 + 146097 := by omega
  unfold monthOf
  generalize (day + 719528) * 4800 / 146097 = month at *
  have before := month_start_near (month - 1)
  have after := month_start_near (month + 1 + 1)
  dsimp only
  split
  · rename_i early
    rw [Int.sub_add_cancel]
    exact ⟨by omega, early⟩
  · split
    · rename_i late
      exact ⟨late, by omega⟩
    · exact ⟨by omega, by omega⟩

-- A leap day, the end of a century without one, and the epoch.
example : (monthStart (12 * 2024 + 2) - monthStart (12 * 2024 + 1), monthStart (12 * 1900 + 2) - monthStart (12 * 1900 + 1), monthStart (12 * 1970)) =
    (29, 28, 0) := by decide

end Gregorian
