import Mathlib.Data.List.TakeWhile

set_option autoImplicit false

/- Texts that are cut at a mark. -/

namespace Pattern

section

variable {Unit : Type} [DecidableEq Unit]

-- Two texts that agree up to the first mark agree before it and behind it.
omit [DecidableEq Unit] in
theorem front_unique (mark : Unit) (front other rest back : List Unit) (free : mark ∉ front) (otherFree : mark ∉ other) :
    front ++ mark :: rest = other ++ mark :: back ↔ front = other ∧ rest = back := by
  induction front generalizing other with
  | nil =>
      cases other with
      | nil => simp
      | cons unit other =>
          simp only [List.mem_cons, not_or] at otherFree
          simp [otherFree.1]
  | cons unit front ih =>
      simp only [List.mem_cons, not_or] at free
      cases other with
      | nil => simp [Ne.symm free.1]
      | cons next other =>
          simp only [List.mem_cons, not_or] at otherFree
          simp [ih other free.2 otherFree.2, and_assoc]

end

end Pattern
