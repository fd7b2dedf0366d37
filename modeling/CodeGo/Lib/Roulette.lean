import Mathlib.Data.List.Basic
import Mathlib.Data.List.Nodup
import Mathlib.Algebra.BigOperators.Group.List.Basic
import Mathlib.Algebra.Ring.Nat

set_option autoImplicit false

/- A wheel of weighted items: where a roll lands, and how many of the rolls land on each item. -/

namespace Roulette

variable {α : Type} (weight : α → Nat)

-- The roll goes down by one weight after the other until it falls below zero.
def spin : Int → List α → Option α
  | _, [] => none
  | roll, item :: rest => if roll - weight item < 0 then some item else spin (roll - weight item) rest

def total (items : List α) : Nat := (items.map weight).sum

def share [DecidableEq α] (items : List α) (item : α) : Nat :=
  (List.range (total weight items)).countP fun roll : Nat => decide (spin weight roll items = some item)

variable {weight}

theorem total_cons (item : α) (rest : List α) : total weight (item :: rest) = weight item + total weight rest := by
  rw [total, List.map_cons, List.sum_cons, total]

theorem spin_mem (roll : Int) (items : List α) (item : α) (lands : spin weight roll items = some item) : item ∈ items := by
  induction items generalizing roll with
  | nil => cases lands
  | cons head rest ih =>
      rw [spin] at lands
      split at lands
      · cases lands
        exact List.mem_cons_self
      · exact List.mem_cons_of_mem head (ih _ lands)

theorem spin_lands (roll : Int) (items : List α) (some_ : items ≠ []) (below : roll < total weight items) :
    ∃ item ∈ items, spin weight roll items = some item := by
  induction items generalizing roll with
  | nil => exact absurd rfl some_
  | cons head rest ih =>
      by_cases here : roll - weight head < 0
      · exact ⟨head, List.mem_cons_self, if_pos here⟩
      · rw [total_cons] at below
        have more : rest ≠ [] := by
          rintro rfl
          rw [total, List.map_nil, List.sum_nil] at below
          omega
        obtain ⟨item, listed, lands⟩ := ih (roll - weight head) more (by omega)
        refine ⟨item, List.mem_cons_of_mem head listed, ?_⟩
        rw [spin, if_neg here]
        exact lands

theorem spin_early {roll : Nat} {head : α} (rest : List α) (early : roll < weight head) : spin weight roll (head :: rest) = some head := by
  rw [spin, if_pos (by omega)]

theorem spin_late (roll : Nat) (head : α) (rest : List α) : spin weight ((weight head + roll : Nat) : Int) (head :: rest) = spin weight roll rest := by
  rw [spin, if_neg (by omega)]
  congr 1
  omega

-- Each item gets as many rolls as it weighs.
theorem share_eq [DecidableEq α] (items : List α) (distinct : items.Nodup) (item : α) (listed : item ∈ items) : share weight items item = weight item := by
  induction items with
  | nil => cases listed
  | cons head rest ih =>
      obtain ⟨apart, others⟩ := List.nodup_cons.mp distinct
      rw [share, total_cons, List.range_add, List.countP_append, List.countP_map]
      have late : (List.range (total weight rest)).countP
          ((fun roll : Nat => decide (spin weight roll (head :: rest) = some item)) ∘ fun roll => weight head + roll) = share weight rest item := by
        apply List.countP_congr
        intro roll _
        simp only [Function.comp, spin_late]
      rw [late]
      by_cases same : item = head
      · have early : (List.range (weight head)).countP (fun roll : Nat => decide (spin weight roll (head :: rest) = some item)) = weight head := by
          have all : ∀ roll ∈ List.range (weight head), decide (spin weight (roll : Int) (head :: rest) = some item) = true := by
            intro roll within
            rw [spin_early rest (List.mem_range.mp within), same]
            exact decide_eq_true rfl
          rw [List.countP_eq_length.mpr all, List.length_range]
        have never : share weight rest item = 0 := by
          apply List.countP_eq_zero.mpr
          intro roll _ lands
          exact apart (same ▸ spin_mem _ rest item (of_decide_eq_true lands))
        rw [early, never, same, Nat.add_zero]
      · have deeper := (List.mem_cons.mp listed).resolve_left same
        have never : (List.range (weight head)).countP (fun roll : Nat => decide (spin weight roll (head :: rest) = some item)) = 0 := by
          apply List.countP_eq_zero.mpr
          intro roll within lands
          have landed := of_decide_eq_true lands
          rw [spin_early rest (List.mem_range.mp within)] at landed
          exact same (Option.some.inj landed).symm
        rw [never, ih others deeper, Nat.zero_add]

end Roulette
