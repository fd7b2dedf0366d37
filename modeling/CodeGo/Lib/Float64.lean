import Mathlib.Data.Int.Log
import Mathlib.Data.Rat.Floor
import Mathlib.Tactic.FieldSimp
import Mathlib.Tactic.Linarith
import Mathlib.Tactic.Positivity

set_option autoImplicit false

/- Binary64 arithmetic on the finite numbers, each as the rational it stands for. What
   overflows stays finite here; every use compares it with a bound far below. -/

namespace Float64

def nearestEven (value : ℚ) : ℤ :=
  if value - ⌊value⌋ < 1 / 2 ∨ (value - ⌊value⌋ = 1 / 2 ∧ Even ⌊value⌋) then ⌊value⌋ else ⌊value⌋ + 1

-- The distance of two neighbours around a value: 53 bits, and no finer than the least subnormal.
def ulp (value : ℚ) : ℚ := 2 ^ max (Int.log 2 |value| - 52) (-1074)

def nearest (value : ℚ) : ℚ := nearestEven (value / ulp value) * ulp value

def ofInt (value : ℤ) : ℚ := nearest value

def mul (first second : ℚ) : ℚ := nearest (first * second)

-- Half away from zero.
def round (value : ℚ) : ℤ := if 0 ≤ value then ⌊value + 1 / 2⌋ else -⌊-value + 1 / 2⌋

theorem ulp_pos (value : ℚ) : 0 < ulp value := by
  unfold ulp
  exact zpow_pos (by norm_num) _

theorem nearest_even_int (value : ℤ) : nearestEven value = value := by simp [nearestEven]

theorem nearest_even_nonneg {value : ℚ} (nonneg : 0 ≤ value) : 0 ≤ nearestEven value := by
  have low : 0 ≤ ⌊value⌋ := Int.floor_nonneg.mpr nonneg
  unfold nearestEven
  split <;> omega

theorem nearest_nonneg {value : ℚ} (nonneg : 0 ≤ value) : 0 ≤ nearest value := by
  have steps : 0 ≤ nearestEven (value / ulp value) := nearest_even_nonneg (div_nonneg nonneg (ulp_pos value).le)
  have cast : (0 : ℚ) ≤ nearestEven (value / ulp value) := by exact_mod_cast steps
  exact mul_nonneg cast (ulp_pos value).le

-- A significand of 53 bits over a power of two is a number of the format.
theorem nearest_of_representable (significand : ℤ) (exponent : ℕ) (fits : |significand| < 2 ^ 53) (normal : exponent ≤ 1074) :
    nearest (significand / 2 ^ exponent) = significand / 2 ^ exponent := by
  by_cases zero : significand = 0
  · simp [zero, nearest, nearestEven]
  have magnitude : |(significand : ℚ) / 2 ^ exponent| = |significand| / 2 ^ exponent := by
    rw [abs_div, abs_of_pos (by positivity : (0 : ℚ) < 2 ^ exponent), Int.cast_abs]
  have positive : (0 : ℚ) < |(significand : ℚ) / 2 ^ exponent| := by
    rw [magnitude]
    have : (0 : ℚ) < |significand| := by exact_mod_cast abs_pos.mpr zero
    positivity
  -- The binade lies below the 53 bits, so the grid is no coarser than the last bit.
  have binade : Int.log 2 |(significand : ℚ) / 2 ^ exponent| < 53 - exponent := by
    rw [← Int.lt_zpow_iff_log_lt (by decide) positive, magnitude, div_lt_iff₀ (by positivity)]
    have room : ((2 : ℕ) : ℚ) ^ (53 - exponent : ℤ) * 2 ^ exponent = 2 ^ 53 := by
      rw [Nat.cast_ofNat, ← zpow_natCast, ← zpow_add₀ (by norm_num)]
      norm_num
    rw [room]
    exact_mod_cast fits
  have grid : max (Int.log 2 |(significand : ℚ) / 2 ^ exponent| - 52) (-1074) ≤ -(exponent : ℤ) := by omega
  obtain ⟨finer, split⟩ := Int.le.dest grid
  have whole : (significand : ℚ) / 2 ^ exponent / ulp (significand / 2 ^ exponent) = (significand * 2 ^ finer : ℤ) := by
    rw [ulp, div_div, ← zpow_natCast, ← zpow_add₀ (by norm_num)]
    have total : (exponent : ℤ) + max (Int.log 2 |(significand : ℚ) / 2 ^ exponent| - 52) (-1074) = -finer := by omega
    rw [zpow_natCast, total, zpow_neg, zpow_natCast]
    push_cast
    field_simp
  rw [nearest, whole, nearest_even_int, ← whole]
  exact div_mul_cancel₀ _ (ulp_pos _).ne'

theorem of_int_exact {value : ℤ} (fits : |value| < 2 ^ 53) : ofInt value = value := by
  have exact := nearest_of_representable value 0 fits (by decide)
  simpa [ofInt] using exact

theorem le_round_iff {value : ℚ} (nonneg : 0 ≤ value) (whole : ℤ) : whole ≤ round value ↔ whole - 1 / 2 ≤ value := by
  rw [round, if_pos nonneg, Int.le_floor]
  constructor <;> intro bound <;> linarith

end Float64
