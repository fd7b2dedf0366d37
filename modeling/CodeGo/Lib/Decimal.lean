import Mathlib.Algebra.Order.Ring.Rat
import Mathlib.Tactic.FieldSimp
import Mathlib.Tactic.Linarith
import Mathlib.Tactic.Ring

set_option autoImplicit false

/- Decimal fractions as exact rationals. Sums, differences and products are exact; a quotient keeps sixteen places. -/

namespace Decimal

-- One unit of the last place that a quotient keeps, inverted.
def scale : Rat := 10000000000000000

def roundHalfAway (value : Rat) : Int := if 0 ≤ value then (value + 1 / 2).floor else -(-value + 1 / 2).floor

def div (dividend divisor : Rat) : Rat := roundHalfAway (dividend / divisor * scale) / scale

theorem floor_half (value : Int) : ((value : Rat) + 1 / 2).floor = value := by
  have low : value ≤ ((value : Rat) + 1 / 2).floor := Rat.le_floor_iff.mpr (by linarith)
  have high : ((value : Rat) + 1 / 2).floor < value + 1 := by
    rw [Rat.floor_lt_iff]
    push_cast
    linarith
  omega

theorem round_whole (value : Int) : roundHalfAway value = value := by
  unfold roundHalfAway
  split
  · exact floor_half value
  · rw [← Int.cast_neg, floor_half, Int.neg_neg]

-- A quotient with no more places than are kept is exact.
theorem div_of_whole (dividend divisor : Rat) (value : Int) (whole : dividend / divisor * scale = value) :
    div dividend divisor = dividend / divisor := by
  have positive : scale ≠ 0 := by norm_num [scale]
  rw [div, whole, round_whole, ← whole, mul_div_assoc, div_self positive, mul_one]

theorem div_hundred (value : Int) : div value 100 = value / 100 := by
  refine div_of_whole _ _ (value * 100000000000000) ?_
  push_cast [scale]
  ring

theorem quotient_nonneg {dividend divisor : Rat} (above : 0 ≤ dividend) (below : 0 ≤ divisor) : 0 ≤ div dividend divisor := by
  have positive : (0 : Rat) ≤ scale := by norm_num [scale]
  have quotient : 0 ≤ dividend / divisor * scale := mul_nonneg (div_nonneg above below) positive
  have rounded : 0 ≤ roundHalfAway (dividend / divisor * scale) := by
    rw [roundHalfAway, if_pos quotient]
    exact Rat.le_floor_iff.mpr (by push_cast; linarith)
  exact div_nonneg (Int.cast_nonneg rounded) positive

end Decimal
