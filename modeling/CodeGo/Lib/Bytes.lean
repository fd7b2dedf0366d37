import Mathlib.Data.List.Infix

set_option autoImplicit false

/- Texts as the bytes they are stored in. A character of several bytes is cut away whole or not at all. -/

namespace Bytes

section Codes

variable {β : Type} [DecidableEq β]

-- Codes in front of a text are skipped one after the other; `skip` counts the rest of one that has begun.
def skipCodes (codes : List (List β)) : (skip : Nat) → List β → List β
  | _, [] => []
  | skip + 1, _ :: rest => skipCodes codes skip rest
  | 0, first :: rest =>
      match codes.find? (fun code => code.isPrefixOf (first :: rest)) with
      | some code => skipCodes codes (code.length - 1) rest
      | none => first :: rest

theorem skip_codes_solid (codes : List (List β)) (first : β) (rest : List β) (solid : ∀ code ∈ codes, first ∉ code)
    (filled : ∀ code ∈ codes, code ≠ []) : skipCodes codes 0 (first :: rest) = first :: rest := by
  have missing : codes.find? (fun code => code.isPrefixOf (first :: rest)) = none := by
    rw [List.find?_eq_none]
    intro code listed leads
    cases code with
    | nil => exact filled [] listed rfl
    | cons head tail =>
        have same := (List.cons_prefix_cons.mp (List.isPrefixOf_iff_prefix.mp leads)).1
        exact solid _ listed (by simp [same])
  rw [skipCodes, missing]

-- An element that no code has stops the skipping, wherever it stands.
theorem skip_codes_last (codes : List (List β)) (last : β) (solid : ∀ code ∈ codes, last ∉ code) (filled : ∀ code ∈ codes, code ≠ [])
    (front : List β) (skip : Nat) (short : skip ≤ front.length) : ∃ kept, skipCodes codes skip (front ++ [last]) = kept ++ [last] := by
  induction front generalizing skip with
  | nil =>
      obtain rfl : skip = 0 := Nat.le_zero.mp short
      exact ⟨[], skip_codes_solid codes last [] solid filled⟩
  | cons first front ih =>
      cases skip with
      | succ skip => exact ih skip (Nat.le_of_succ_le_succ short)
      | zero =>
          rw [List.cons_append, skipCodes]
          cases found : codes.find? (fun code => code.isPrefixOf (first :: (front ++ [last]))) with
          | none => exact ⟨first :: front, rfl⟩
          | some code =>
              have leads : code <+: first :: (front ++ [last]) := by
                simpa using List.find?_some found
              have outside := solid code (List.mem_of_find?_eq_some found)
              have within : code <+: first :: front := by
                rw [← List.cons_append, List.prefix_concat_iff] at leads
                rcases leads with whole | inside
                · exact absurd (by simp [whole]) outside
                · exact inside
              apply ih
              have shorter := within.length_le
              rw [List.length_cons] at shorter
              omega

end Codes

-- The white-space characters of Unicode in UTF-8.
def spaces : List (List UInt8) :=
  [[0x09], [0x0A], [0x0B], [0x0C], [0x0D], [0x20], [0xC2, 0x85], [0xC2, 0xA0], [0xE1, 0x9A, 0x80], [0xE2, 0x80, 0x80], [0xE2, 0x80, 0x81],
    [0xE2, 0x80, 0x82], [0xE2, 0x80, 0x83], [0xE2, 0x80, 0x84], [0xE2, 0x80, 0x85], [0xE2, 0x80, 0x86], [0xE2, 0x80, 0x87],
    [0xE2, 0x80, 0x88], [0xE2, 0x80, 0x89], [0xE2, 0x80, 0x8A], [0xE2, 0x80, 0xA8], [0xE2, 0x80, 0xA9], [0xE2, 0x80, 0xAF],
    [0xE2, 0x81, 0x9F], [0xE3, 0x80, 0x80]]

def trimSpace (text : List UInt8) : List UInt8 := (skipCodes (spaces.map List.reverse) 0 (skipCodes spaces 0 text).reverse).reverse

-- Trimming never goes past a byte that no white-space character has.
theorem trim_space_head (first : UInt8) (rest : List UInt8) (solid : ∀ code ∈ spaces, first ∉ code) :
    ∃ kept, trimSpace (first :: rest) = first :: kept := by
  have leads : skipCodes spaces 0 (first :: rest) = first :: rest := skip_codes_solid spaces first rest solid (by decide)
  have turned : ∀ code ∈ spaces.map List.reverse, first ∉ code := by
    intro code listed
    obtain ⟨space, known, rfl⟩ := List.mem_map.mp listed
    simpa using solid space known
  obtain ⟨kept, last⟩ := skip_codes_last (spaces.map List.reverse) first turned (by decide) rest.reverse 0 (Nat.zero_le _)
  refine ⟨kept.reverse, ?_⟩
  rw [trimSpace, leads, List.reverse_cons, last, List.reverse_append]
  rfl

example : trimSpace [0x20, 0xE3, 0x80, 0x80, 0x61, 0x20, 0x62, 0xC2, 0xA0, 0x0D] = [0x61, 0x20, 0x62] := by decide

end Bytes
