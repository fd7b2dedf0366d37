import Mathlib.Data.List.Forall2

set_option autoImplicit false

/- Texts as parts with a mark between them, and replacing the first occurrence of a part's front. -/

namespace Segments

variable {Unit : Type} [DecidableEq Unit] (mark : Unit)

def after (parts : List (List Unit)) : List Unit := parts.flatMap fun part => mark :: part

def join : List (List Unit) → List Unit
  | [] => []
  | first :: rest => first ++ after mark rest

-- What stands before the first occurrence.
def before (needle : List Unit) : List Unit → List Unit
  | [] => []
  | unit :: rest => if needle.isPrefixOf (unit :: rest) then [] else unit :: before needle rest

def replaceFirst (old new : List Unit) : List Unit → List Unit
  | [] => []
  | unit :: rest => if old.isPrefixOf (unit :: rest) then new ++ (unit :: rest).drop old.length else unit :: replaceFirst old new rest

def replacePart (old new : List Unit) : List (List Unit) → List (List Unit)
  | [] => []
  | part :: rest => if old.isPrefixOf part then (new ++ part.drop old.length) :: rest else part :: replacePart old new rest

theorem split_parts (text : List Unit) :
    ∃ first rest, text.splitOn mark = first :: rest ∧ (∀ part ∈ first :: rest, mark ∉ part) ∧ text = first ++ after mark rest := by
  induction text with
  | nil => exact ⟨[], [], rfl, by simp, rfl⟩
  | cons unit text ih =>
      obtain ⟨first, rest, split, free, whole⟩ := ih
      rw [List.splitOn_eq_splitOnP] at split ⊢
      rw [List.splitOnP_cons_eq_if_modifyHead, split]
      by_cases same : unit = mark
      · refine ⟨[], first :: rest, by simp [same], ?_, by rw [whole, same]; rfl⟩
        intro part member
        obtain rfl | inside := List.mem_cons.mp member
        · simp
        · exact free part inside
      · refine ⟨unit :: first, rest, by simp [same], ?_, by rw [whole]; rfl⟩
        intro part member
        obtain rfl | inside := List.mem_cons.mp member
        · rw [List.mem_cons, not_or]
          exact ⟨Ne.symm same, free first List.mem_cons_self⟩
        · exact free part (List.mem_cons_of_mem _ inside)

variable {mark}

-- A text without the mark begins what is joined only if it begins the first part.
theorem prefix_part (old part : List Unit) (rest : List (List Unit)) (free : mark ∉ old) :
    old <+: part ++ after mark rest ↔ old <+: part := by
  induction old generalizing part with
  | nil => simp
  | cons unit old ih =>
      rw [List.mem_cons, not_or] at free
      cases part with
      | nil =>
          cases rest with
          | nil => simp [after]
          | cons next rest => simp [after, Ne.symm free.1]
      | cons first part =>
          rw [List.cons_append, List.cons_prefix_cons, List.cons_prefix_cons, ih part free.2]

theorem replace_first_part (old new part : List Unit) (rest : List Unit) (free : mark ∉ part) :
    replaceFirst (mark :: old) new (part ++ rest) = part ++ replaceFirst (mark :: old) new rest := by
  induction part with
  | nil => rfl
  | cons unit part ih =>
      rw [List.mem_cons, not_or] at free
      have other : ¬ (mark :: old).isPrefixOf (unit :: (part ++ rest)) = true := by
        rw [List.isPrefixOf_iff_prefix, List.cons_prefix_cons]
        exact fun both => free.1 both.1
      rw [List.cons_append, replaceFirst, if_neg other, ih free.2, List.cons_append]

-- Behind marks only the fronts of parts are found.
theorem replace_first_parts (old new first : List Unit) (rest : List (List Unit)) (freeOld : mark ∉ old)
    (free : ∀ part ∈ first :: rest, mark ∉ part) :
    replaceFirst (mark :: old) (mark :: new) (first ++ after mark rest) = first ++ after mark (replacePart old new rest) := by
  rw [replace_first_part old _ first _ (free first List.mem_cons_self)]
  congr 1
  have others : ∀ part ∈ rest, mark ∉ part := fun part member => free part (List.mem_cons_of_mem _ member)
  clear free
  induction rest with
  | nil => rfl
  | cons part rest ih =>
      have later := ih fun other member => others other (List.mem_cons_of_mem _ member)
      have own := others part List.mem_cons_self
      have cut : after mark (part :: rest) = mark :: (part ++ after mark rest) := rfl
      rw [cut, replaceFirst, replacePart]
      by_cases front : old <+: part
      · have here : (mark :: old).isPrefixOf (mark :: (part ++ after mark rest)) = true := by
          rw [List.isPrefixOf_iff_prefix, List.cons_prefix_cons]
          exact ⟨rfl, (prefix_part old part rest freeOld).mpr front⟩
        have short := front.length_le
        rw [if_pos here, if_pos (List.isPrefixOf_iff_prefix.mpr front), List.length_cons, List.drop_succ_cons, List.drop_append_of_le_length short]
        simp [after]
      · have elsewhere : ¬ (mark :: old).isPrefixOf (mark :: (part ++ after mark rest)) = true := by
          rw [List.isPrefixOf_iff_prefix, List.cons_prefix_cons]
          exact fun both => front ((prefix_part old part rest freeOld).mp both.2)
        rw [if_neg elsewhere, if_neg fun is => front (List.isPrefixOf_iff_prefix.mp is), replace_first_part old _ part _ own, later]
        rfl

theorem replace_part_free (old new : List Unit) (parts : List (List Unit)) (freeNew : mark ∉ new) (free : ∀ part ∈ parts, mark ∉ part) :
    ∀ part ∈ replacePart old new parts, mark ∉ part := by
  induction parts with
  | nil => exact free
  | cons first rest ih =>
      have own := free first List.mem_cons_self
      have others : ∀ part ∈ rest, mark ∉ part := fun part member => free part (List.mem_cons_of_mem _ member)
      intro part member
      rw [replacePart] at member
      by_cases front : old.isPrefixOf first = true
      · rw [if_pos front] at member
        obtain rfl | inside := List.mem_cons.mp member
        · rw [List.mem_append, not_or]
          exact ⟨freeNew, fun inside => own (List.mem_of_mem_drop inside)⟩
        · exact others part inside
      · rw [if_neg front] at member
        obtain rfl | inside := List.mem_cons.mp member
        · exact own
        · exact ih others part inside

theorem replace_part_here (old new : List Unit) (front : List (List Unit)) (part : List Unit) (rest : List (List Unit))
    (others : ∀ other ∈ front, ¬ old <+: other) (here : old <+: part) :
    replacePart old new (front ++ part :: rest) = front ++ (new ++ part.drop old.length) :: rest := by
  induction front with
  | nil => rw [List.nil_append, replacePart, if_pos (List.isPrefixOf_iff_prefix.mpr here), List.nil_append]
  | cons first front ih =>
      have apart := others first List.mem_cons_self
      rw [List.cons_append, replacePart, if_neg fun is => apart (List.isPrefixOf_iff_prefix.mp is),
        ih fun other member => others other (List.mem_cons_of_mem _ member), List.cons_append]

-- A part that the replacement leaves is the same, and one that it changes had the front.
theorem replace_part_related (old new : List Unit) (parts : List (List Unit)) :
    List.Forall₂ (fun part result => result = part ∨ (old <+: part ∧ result = new ++ part.drop old.length)) parts (replacePart old new parts) := by
  induction parts with
  | nil => exact .nil
  | cons part rest ih =>
      rw [replacePart]
      by_cases front : old <+: part
      · rw [if_pos (List.isPrefixOf_iff_prefix.mpr front)]
        exact .cons (.inr ⟨front, rfl⟩) (List.forall₂_same.mpr fun _ _ => .inl rfl)
      · rw [if_neg fun is => front (List.isPrefixOf_iff_prefix.mp is)]
        exact .cons (.inl rfl) ih

theorem split_join (first : List Unit) (rest : List (List Unit)) (free : ∀ part ∈ first :: rest, mark ∉ part) :
    (first ++ after mark rest).splitOn mark = first :: rest := by
  induction rest generalizing first with
  | nil =>
      rw [show after mark ([] : List (List Unit)) = [] from rfl, List.append_nil]
      exact List.splitOn_eq_singleton (free first List.mem_cons_self)
  | cons part rest ih =>
      have own := free first List.mem_cons_self
      have others := ih part fun other member => free other (List.mem_cons_of_mem _ member)
      rw [show after mark (part :: rest) = mark :: (part ++ after mark rest) from rfl, List.splitOn_append_cons_self_of_not_mem own, others]

end Segments
