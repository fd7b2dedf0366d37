import Mathlib.Data.List.Basic
import Mathlib.Algebra.Order.Ring.Int

set_option autoImplicit false

/- A counter of the misses since the last hit, and what a hit that is forced when the counter is about to reach a limit
   means for every window of that length. -/

namespace Streaks

variable {α : Type} (hit : α → Prop) [DecidablePred hit]

def advance (count : Int) (item : α) : Int := if hit item then 0 else count + 1

def streak : Int → List α → Int
  | count, [] => count
  | count, item :: rest => streak (advance hit count item) rest

-- The item that would fill the streak is a hit.
def Forced (limit : Int) : Int → List α → Prop
  | _, [] => True
  | count, item :: rest => (limit ≤ count + 1 → hit item) ∧ Forced limit (advance hit count item) rest

variable {hit} {limit count : Int}

theorem advance_hit {item : α} (hits : hit item) (count : Int) : advance hit count item = 0 := if_pos hits

theorem advance_missed {item : α} (missed : ¬ hit item) (count : Int) : advance hit count item = count + 1 := if_neg missed

theorem advance_nonneg (item : α) (known : 0 ≤ count) : 0 ≤ advance hit count item := by
  by_cases hits : hit item
  · rw [advance_hit hits]
  · rw [advance_missed hits]
    omega

theorem forced_append (first second : List α) :
    Forced hit limit count (first ++ second) ↔ Forced hit limit count first ∧ Forced hit limit (streak hit count first) second := by
  induction first generalizing count with
  | nil =>
      constructor
      · intro forced
        exact ⟨trivial, forced⟩
      · exact And.right
  | cons item rest ih =>
      simp only [List.cons_append, Forced, streak]
      rw [ih, and_assoc]

theorem streak_nonneg (items : List α) (known : 0 ≤ count) : 0 ≤ streak hit count items := by
  induction items generalizing count with
  | nil => exact known
  | cons item rest ih => exact ih (advance_nonneg item known)

theorem streak_missed (items : List α) (missed : ∀ item ∈ items, ¬ hit item) : streak hit count items = count + items.length := by
  induction items generalizing count with
  | nil => simp [streak]
  | cons item rest ih =>
      obtain ⟨here, others⟩ := List.forall_mem_cons.mp missed
      rw [streak, ih others, advance_missed here, List.length_cons]
      omega

theorem Forced.streak_lt (items : List α) (forced : Forced hit limit count items) (known : 0 ≤ count) (below : count < limit) :
    streak hit count items < limit := by
  induction items generalizing count with
  | nil => exact below
  | cons item rest ih =>
      obtain ⟨here, others⟩ := forced
      apply ih others (advance_nonneg item known)
      by_cases hits : hit item
      · rw [advance_hit hits]
        omega
      · rw [advance_missed hits]
        have room : ¬ limit ≤ count + 1 := fun full => hits (here full)
        omega

theorem Forced.of_full (items : List α) (forced : Forced hit limit count items) (known : 0 ≤ count) (below : count < limit)
    (full : limit ≤ items.length) : ∃ item ∈ items, hit item := by
  by_contra none_
  have missed : ∀ item ∈ items, ¬ hit item := fun item listed hits => none_ ⟨item, listed, hits⟩
  have short := forced.streak_lt items known below
  rw [streak_missed items missed] at short
  omega

theorem Forced.window (before window after : List α) (forced : Forced hit limit count (before ++ window ++ after)) (known : 0 ≤ count)
    (below : count < limit) (full : limit ≤ window.length) : ∃ item ∈ window, hit item := by
  rw [forced_append, forced_append] at forced
  obtain ⟨⟨early, inside⟩, _⟩ := forced
  exact inside.of_full window (streak_nonneg before known) (early.streak_lt before known below) full

end Streaks
