import CodeGo.Lib.Text
import Mathlib

set_option autoImplicit false

namespace Text

/- Texts put together with colons are taken apart from the right: a number never holds one. -/

def Plain (text : String) : Prop := ':' ∉ text.toList

instance (text : String) : Decidable (Plain text) := inferInstanceAs (Decidable (¬ _))

theorem last_colon_unique (first second firstTail secondTail : String) (firstPlain : Plain firstTail) (secondPlain : Plain secondTail)
    (same : first ++ ":" ++ firstTail = second ++ ":" ++ secondTail) : first = second ∧ firstTail = secondTail := by
  have colon : ":".toList = [':'] := rfl
  have chars : first.toList ++ ':' :: firstTail.toList = second.toList ++ ':' :: secondTail.toList := by
    have lists := congrArg String.toList same
    rw [String.toList_append, String.toList_append, String.toList_append, String.toList_append, colon] at lists
    simpa using lists
  rcases List.append_eq_append_iff.mp chars with ⟨middle, longer, rest⟩ | ⟨middle, longer, rest⟩
  · cases middle with
    | nil =>
        simp only [List.append_nil, List.nil_append, List.cons.injEq, true_and] at longer rest
        exact ⟨String.toList_inj.mp longer.symm, String.toList_inj.mp rest⟩
    | cons c others =>
        rw [List.cons_append, List.cons.injEq] at rest
        exact (firstPlain (by simp [rest.2])).elim
  · cases middle with
    | nil =>
        simp only [List.append_nil, List.nil_append, List.cons.injEq, true_and] at longer rest
        exact ⟨String.toList_inj.mp longer, String.toList_inj.mp rest.symm⟩
    | cons c others =>
        rw [List.cons_append, List.cons.injEq] at rest
        exact (secondPlain (by simp [rest.2])).elim

theorem digits_of_nat (number : Nat) (c : Char) (member : c ∈ (toString number).toList) : c.isDigit = true := by
  rw [Nat.toString_eq_repr, Nat.repr_eq_ofList_toDigits, String.toList_ofList] at member
  exact Nat.isDigit_of_mem_toDigits (by decide) (by decide) member

theorem plain_nat (number : Nat) : Plain (toString number) := by
  intro member
  have digit := digits_of_nat number ':' member
  revert digit
  decide

theorem plain_int (number : Int) : Plain (toString number) := by
  intro member
  rw [Int.toString_eq_repr, Int.repr_eq_if] at member
  split at member
  · exact plain_nat _ member
  · rw [String.toList_append, List.mem_append] at member
    rcases member with sign | digits
    · revert sign
      decide
    · exact plain_nat _ digits

theorem nat_text_injective (first second : Nat) (same : toString first = toString second) : first = second := Nat.repr_injective same

theorem int_text_injective (first second : Int) (same : toString first = toString second) : first = second := Int.repr_injective same

-- A word with a letter in it is no number.
theorem nat_text_ne (number : Nat) (text : String) (letter : Char) (member : letter ∈ text.toList) (noDigit : letter.isDigit = false) :
    toString number ≠ text := by
  intro same
  have digit := digits_of_nat number letter (same ▸ member)
  simp [noDigit] at digit

theorem digit_solid (c : Char) (digit : c.isDigit = true) : isSpace c = false := by
  simp only [Char.isDigit, Bool.and_eq_true, decide_eq_true_eq, ge_iff_le, UInt32.le_iff_toNat_le] at digit
  simp only [isSpace, Bool.or_eq_false_iff, decide_eq_false_iff_not, List.mem_cons, List.not_mem_nil, or_false, not_or, ← UInt32.toNat_inj,
    Bool.and_eq_false_iff, UInt32.le_iff_toNat_le]
  simp at digit ⊢
  omega

theorem solid_last_nat (number : Nat) : SolidLast (toString number) := by
  unfold SolidLast
  cases last : (toString number).toList.getLast? with
  | none =>
      have empty := List.getLast?_eq_none_iff.mp last
      have filled : 0 < (Nat.repr number).length := Nat.length_repr_pos
      rw [Nat.toString_eq_repr] at empty
      rw [← String.length_toList, empty] at filled
      exact absurd filled (Nat.lt_irrefl 0)
  | some c =>
      have digit := digits_of_nat number c (List.mem_of_getLast? last)
      simp [digit_solid c digit]
end Text
