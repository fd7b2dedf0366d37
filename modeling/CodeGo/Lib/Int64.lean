import Mathlib.Algebra.BigOperators.Group.List.Basic
import Mathlib.Algebra.Order.Ring.Int

set_option autoImplicit false

namespace Machine

def InInt64 (value : Int) : Prop := -2 ^ 63 ≤ value ∧ value < 2 ^ 63

instance (value : Int) : Decidable (InInt64 value) := inferInstanceAs (Decidable (_ ∧ _))

-- What a signed 64-bit register keeps of an exact result.
def wrap (value : Int) : Int := (value + 2 ^ 63) % 2 ^ 64 - 2 ^ 63

theorem wrap_in (value : Int) : InInt64 (wrap value) := by
  unfold InInt64 wrap
  omega

theorem wrap_of_in {value : Int} (within : InInt64 value) : wrap value = value := by
  unfold InInt64 at within
  unfold wrap
  omega

theorem wrap_eq_iff (value : Int) : wrap value = value ↔ InInt64 value := by
  constructor
  · intro same
    rw [← same]
    exact wrap_in value
  · exact wrap_of_in

-- One turn too high: the register shows the result less 2^64.
theorem wrap_above {value : Int} (high : 2 ^ 63 ≤ value) (low : value < 2 ^ 64 + 2 ^ 63) : wrap value = value - 2 ^ 64 := by
  unfold wrap
  omega

theorem wrap_wrap_add (first second : Int) : wrap (wrap first + second) = wrap (first + second) := by
  unfold wrap
  omega

-- Wrapping after every addition is wrapping once at the end.
theorem wrap_foldl (values : List Int) (start : Int) :
    values.foldl (fun total value => wrap (total + value)) (wrap start) = wrap (start + values.sum) := by
  induction values generalizing start with
  | nil => simp
  | cons value rest ih => rw [List.foldl_cons, wrap_wrap_add, ih, List.sum_cons, Int.add_assoc]

end Machine
