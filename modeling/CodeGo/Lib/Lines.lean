import CodeGo.Lib.Segments
import CodeGo.Lib.Split

set_option autoImplicit false

/- Parts that are joined with a mark between them, read back by trimming the marks at the two ends and splitting. -/

namespace Segments

open Split

variable {Unit : Type} [DecidableEq Unit] {mark : Unit}

def readParts (mark : Unit) (text : List Unit) : List (List Unit) := (trim (fun unit => unit == mark) text).splitOn mark

theorem solid_iff (unit : Unit) : (unit == mark) = false ↔ unit ≠ mark := by
  simp

theorem join_starts {first : List Unit} (rest : List (List Unit)) (nonempty : first ≠ []) (free : mark ∉ first) :
    StartsSolid (fun unit => unit == mark) (join mark (first :: rest)) := by
  intro unit leads
  rw [join, List.head?_append_of_ne_nil _ nonempty] at leads
  rw [solid_iff]
  exact fun same => free (same ▸ List.mem_of_mem_head? leads)

omit [DecidableEq Unit] in
theorem join_cons_cons (first part : List Unit) (rest : List (List Unit)) :
    join mark (first :: part :: rest) = first ++ mark :: join mark (part :: rest) := rfl

omit [DecidableEq Unit] in
theorem join_suffix {parts : List (List Unit)} {last : List Unit} (ends : parts.getLast? = some last) : last <:+ join mark parts := by
  induction parts with
  | nil => cases ends
  | cons first rest ih =>
      cases rest with
      | nil =>
          obtain rfl : first = last := by simpa using ends
          rw [join, show after mark ([] : List (List Unit)) = [] from rfl, List.append_nil]
      | cons part rest =>
          rw [List.getLast?_cons_cons] at ends
          rw [join_cons_cons]
          exact (ih ends).trans ((List.suffix_cons mark _).trans (List.suffix_append first _))

theorem join_ends {parts : List (List Unit)} {last : List Unit} (nonempty : last ≠ []) (free : mark ∉ last)
    (ends : parts.getLast? = some last) : EndsSolid (fun unit => unit == mark) (join mark parts) := by
  obtain ⟨front, whole⟩ := @join_suffix _ mark _ _ ends
  intro unit closes
  rw [← whole, List.getLast?_append_of_ne_nil _ nonempty] at closes
  rw [solid_iff]
  exact fun same => free (same ▸ List.mem_of_getLast? closes)

omit [DecidableEq Unit] in
theorem join_last_empty (first part : List Unit) (rest : List (List Unit)) (ends : (part :: rest).getLast? = some []) :
    (join mark (first :: part :: rest)).getLast? = some mark := by
  induction rest generalizing first part with
  | nil =>
      obtain rfl : part = [] := by simpa using ends
      simp [join, after]
  | cons next rest ih =>
      rw [List.getLast?_cons_cons] at ends
      have behind := ih part next ends
      have nonempty : join mark (part :: next :: rest) ≠ [] := by
        intro empty
        rw [empty] at behind
        cases behind
      rw [join_cons_cons, List.getLast?_append_of_ne_nil _ (List.cons_ne_nil _ _), List.getLast?_cons_of_ne_nil nonempty, behind]

-- What a text that neither starts nor ends with a mark is split into.
theorem split_closed {text : List Unit} (starts : StartsSolid (fun unit => unit == mark) text)
    (ends : EndsSolid (fun unit => unit == mark) text) (nonempty : text ≠ []) :
    (text.splitOn mark).head? ≠ some [] ∧ (text.splitOn mark).getLast? ≠ some [] := by
  obtain ⟨first, rest, split, free, whole⟩ := split_parts mark text
  have joined : text = join mark (first :: rest) := whole
  rw [split]
  constructor
  · intro leads
    obtain rfl : first = [] := by simpa using leads
    cases rest with
    | nil => exact nonempty joined
    | cons part rest =>
        have marked := starts mark (by rw [joined]; rfl)
        simp at marked
  · intro closes
    cases rest with
    | nil =>
        obtain rfl : first = [] := by simpa using closes
        exact nonempty joined
    | cons part rest =>
        rw [List.getLast?_cons_cons] at closes
        have marked := ends mark (by rw [joined, join_last_empty first part rest closes]; rfl)
        simp at marked

theorem trim_closed (text : List Unit) : StartsSolid (fun unit => unit == mark) (trim (fun unit => unit == mark) text) ∧
    EndsSolid (fun unit => unit == mark) (trim (fun unit => unit == mark) text) := by
  obtain ⟨_, _, _, _, _, ends⟩ := trim_parts (fun unit => unit == mark) text
  exact ⟨trim_starts _ text, ends⟩

theorem read_parts_free (text : List Unit) : ∀ part ∈ readParts mark text, mark ∉ part := by
  obtain ⟨first, rest, split, free, _⟩ := split_parts mark (trim (fun unit => unit == mark) text)
  rw [readParts, split]
  exact free

-- Joined parts are read back exactly where none holds a mark and the first and the last are not empty.
theorem read_join {parts : List (List Unit)} (nonempty : parts ≠ []) (more : parts ≠ [[]]) :
    readParts mark (join mark parts) = parts ↔
      (∀ part ∈ parts, mark ∉ part) ∧ parts.head? ≠ some [] ∧ parts.getLast? ≠ some [] := by
  constructor
  · intro same
    have free := @read_parts_free _ _ mark (join mark parts)
    rw [same] at free
    obtain ⟨starts, ends⟩ := @trim_closed _ _ mark (join mark parts)
    have inside : trim (fun unit => unit == mark) (join mark parts) ≠ [] := by
      intro empty
      rw [readParts, empty] at same
      exact more (same.symm.trans (List.splitOn_nil mark))
    have closed := split_closed starts ends inside
    rw [readParts] at same
    rw [same] at closed
    exact ⟨free, closed⟩
  · rintro ⟨free, head, last⟩
    cases parts with
    | nil => exact absurd rfl nonempty
    | cons first rest =>
        have firstSolid : first ≠ [] := fun empty => head (by rw [empty]; rfl)
        obtain ⟨final, ends⟩ : ∃ final, (first :: rest).getLast? = some final := ⟨_, List.getLast?_eq_some_getLast nonempty⟩
        have finalSolid : final ≠ [] := fun empty => last (by rw [ends, empty])
        have starting := @join_starts _ _ mark _ rest firstSolid (free first List.mem_cons_self)
        have ending := @join_ends _ _ mark _ _ finalSolid (free final (List.mem_of_getLast? ends)) ends
        rw [readParts, trim_solid _ _ starting ending]
        exact split_join first rest free

end Segments
