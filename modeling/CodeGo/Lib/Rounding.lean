import Mathlib.Tactic.Linarith

set_option autoImplicit false

namespace Rounding

-- The part of an amount at a ratio, rounded towards zero.
def share (amount num den : Int) : Int := (amount * num).tdiv den

section Shares

variable (total amount num den : Int)

@[simp] theorem share_zero : share 0 num den = 0 := by simp [share]

theorem share_eq_floor (whole : 0 ≤ total) (ratio : 0 ≤ num) : share total num den = total * num / den := by
  rw [share, Int.tdiv_eq_ediv_of_nonneg (Int.mul_nonneg whole ratio)]

-- The bounds that determine a floor.
theorem share_spec (whole : 0 ≤ total) (ratio : 0 ≤ num) (positive : 0 < den) :
    share total num den * den ≤ total * num ∧ total * num < share total num den * den + den := by
  rw [share_eq_floor total num den whole ratio]
  have remainder := Int.emod_nonneg (total * num) (by omega : den ≠ 0)
  have below := Int.emod_lt_of_pos (total * num) positive
  have divided := Int.mul_ediv_add_emod (total * num) den
  rw [Int.mul_comm den] at divided
  omega

-- Consecutive shares never shrink, and a step never exceeds the amount it is taken from.
theorem share_step (whole : 0 ≤ total) (added : 0 ≤ amount) (ratio : 0 ≤ num) (proper : num ≤ den) (positive : 0 < den) :
    0 ≤ share (total + amount) num den - share total num den ∧ share (total + amount) num den - share total num den ≤ amount := by
  obtain ⟨lower, upper⟩ := share_spec total num den whole ratio positive
  obtain ⟨nextLower, nextUpper⟩ := share_spec (total + amount) num den (by omega) ratio positive
  have grown : 0 ≤ amount * num := Int.mul_nonneg added ratio
  have capped : amount * num ≤ amount * den := Int.mul_le_mul_of_nonneg_left proper added
  rw [Int.add_mul] at nextLower nextUpper
  constructor
  · have bound : (share total num den - share (total + amount) num den) * den < 1 * den := by linarith [Int.sub_mul (share total num den) (share (total + amount) num den) den]
    have := Int.lt_of_mul_lt_mul_right bound (by omega)
    omega
  · have bound : (share (total + amount) num den - share total num den) * den < (amount + 1) * den := by
      linarith [Int.sub_mul (share (total + amount) num den) (share total num den) den, Int.add_mul amount 1 den]
    have := Int.lt_of_mul_lt_mul_right bound (by omega)
    omega

theorem share_le (whole : 0 ≤ total) (within : total ≤ den) (ratio : 0 ≤ num) (positive : 0 < den) : share total num den ≤ num := by
  rw [share_eq_floor total num den whole ratio]
  refine Int.ediv_le_of_le_mul positive ?_
  rw [Int.mul_comm num]
  exact Int.mul_le_mul_of_nonneg_right within ratio

end Shares

end Rounding
