import Mathlib.Data.List.Infix
import Mathlib.Order.Basic

set_option autoImplicit false

/- Searching a text by jumps: the unit behind the window says how far the pattern moves. Which places a search looks at,
   and when none of them passes an occurrence. -/

namespace Jumps

variable {α : Type}

def OccursAt (pattern text : List α) (position : Nat) : Prop := pattern <+: text.drop position

-- The places that the jumps from a start lead to.
inductive RowFrom (pattern text : List α) (shift : α → Nat) : Nat → Nat → Prop where
  | here (start : Nat) : RowFrom pattern text shift start start
  | jump {start position : Nat} (next : α) (behind : text[start + pattern.length]? = some next)
      (later : RowFrom pattern text shift (start + shift next) position) : RowFrom pattern text shift start position

variable {pattern text : List α} {shift : α → Nat}

theorem OccursAt.fits {position : Nat} (nonempty : pattern ≠ []) (occurs : OccursAt pattern text position) :
    position + pattern.length ≤ text.length := by
  have short := occurs.length_le
  have some_ := List.length_pos_of_ne_nil nonempty
  rw [List.length_drop] at short
  omega

theorem infix_iff : pattern <:+: text ↔ ∃ position, OccursAt pattern text position := by
  constructor
  · rintro ⟨front, back, rfl⟩
    refine ⟨front.length, back, ?_⟩
    rw [List.append_assoc, List.drop_left]
  · rintro ⟨position, occurs⟩
    exact occurs.isInfix.trans (List.drop_suffix position text).isInfix

theorem RowFrom.le {start position : Nat} (row : RowFrom pattern text shift start position) : start ≤ position := by
  induction row with
  | here start => exact le_rfl
  | jump next _ _ ih => exact (Nat.le_add_right _ _).trans ih

-- A jump that never passes a unit of the pattern that is equal to the one it looked at.
structure Safe (pattern : List α) (shift : α → Nat) : Prop where
  positive : ∀ unit, 0 < shift unit
  bounded : ∀ unit, shift unit ≤ pattern.length + 1
  meets : ∀ (index : Nat) (unit : α), pattern[index]? = some unit → shift unit + index ≤ pattern.length

theorem Safe.reaches (safe : Safe pattern shift) {start position : Nat} (nonempty : pattern ≠ []) (ahead : start ≤ position)
    (occurs : OccursAt pattern text position) : RowFrom pattern text shift start position := by
  obtain ⟨gap, same⟩ := Nat.exists_eq_add_of_le ahead
  induction gap using Nat.strong_induction_on generalizing start with
  | h gap ih =>
      obtain rfl | apart := Nat.eq_zero_or_pos gap
      · rw [same]
        exact .here start
      · have fits := occurs.fits nonempty
        have inside : start + pattern.length < text.length := by omega
        obtain ⟨next, behind⟩ : ∃ next, text[start + pattern.length]? = some next := ⟨_, List.getElem?_eq_getElem inside⟩
        have short : shift next ≤ gap := by
          by_cases far : pattern.length < gap
          · have bounded := safe.bounded next
            omega
          · -- The unit lies inside the occurrence: the pattern has it, and the jump stops there at the latest.
            have listed : pattern[pattern.length - gap]? = some next := by
              obtain ⟨back, parts⟩ := occurs
              have index : start + pattern.length = position + (pattern.length - gap) := by omega
              rw [index, ← List.getElem?_drop, ← parts, List.getElem?_append_left (by omega)] at behind
              exact behind
            have meets := safe.meets _ next listed
            omega
        have positive := safe.positive next
        exact .jump next behind (ih (gap - shift next) (by omega) (by omega) (by omega))

end Jumps
