import Mathlib.Data.List.DropRight
import Mathlib.Data.List.Infix
import Mathlib.Data.List.TakeWhile

set_option autoImplicit false

/- Trimming a text at both ends. -/

namespace Split

section

variable {Unit : Type} (blank : Unit → Bool)

def trim (text : List Unit) : List Unit := (text.dropWhile blank).rdropWhile blank

def StartsSolid (text : List Unit) : Prop := ∀ unit ∈ text.head?, blank unit = false

def EndsSolid (text : List Unit) : Prop := ∀ unit ∈ text.getLast?, blank unit = false

theorem trim_parts (text : List Unit) :
    ∃ lead trail, text = lead ++ (trim blank text ++ trail) ∧
      (∀ unit ∈ lead, blank unit = true) ∧ (∀ unit ∈ trail, blank unit = true) ∧
      EndsSolid blank (trim blank text) := by
  refine ⟨text.takeWhile blank, (text.dropWhile blank).rtakeWhile blank, ?_, ?_, ?_, ?_⟩
  · rw [trim, List.rdropWhile_append_rtakeWhile, List.takeWhile_append_dropWhile]
  · exact fun unit member => List.mem_takeWhile_imp member
  · exact fun unit member => List.mem_rtakeWhile_imp member
  · intro unit last
    have nonempty : trim blank text ≠ [] := by
      rintro empty
      simp [empty] at last
    have solid := List.rdropWhile_last_not blank (text.dropWhile blank) nonempty
    rw [List.getLast?_eq_some_getLast nonempty] at last
    exact Bool.eq_false_iff.mpr ((Option.some.inj last) ▸ solid)

theorem trim_starts (text : List Unit) : StartsSolid blank (trim blank text) := by
  intro unit first
  have front : trim blank text <+: text.dropWhile blank := List.rdropWhile_prefix blank _
  obtain ⟨rest, whole⟩ := front
  have head : (text.dropWhile blank).head? = some unit := by
    rw [← whole]
    cases core : trim blank text with
    | nil => simp [core] at first
    | cons next others => simpa [core] using first
  have stopped := List.head?_dropWhile_not blank text
  rw [head] at stopped
  simpa using stopped

theorem trim_solid (text : List Unit) (starts : StartsSolid blank text) (ends : EndsSolid blank text) :
    trim blank text = text := by
  cases text with
  | nil => rfl
  | cons unit rest =>
      have kept : (unit :: rest).dropWhile blank = unit :: rest := by simp [starts unit rfl]
      rw [trim, kept, List.rdropWhile_eq_self_iff]
      exact fun nonempty => Bool.eq_false_iff.mp (ends _ (List.getLast?_eq_some_getLast nonempty))

end

end Split
