import Mathlib.Algebra.Order.Ring.Defs
import Mathlib.Algebra.Order.Group.Defs
import Mathlib.Tactic.Linarith
import Mathlib.Tactic.Ring

set_option autoImplicit false

/- Spending over time against a level that refills at a bounded rate: what a window of time can spend at most. -/

namespace Budget

variable {σ α K : Type} [CommRing K] [LinearOrder K]

structure Meter (σ α K : Type) where
  step : σ → α → σ
  time : α → K
  spent : σ → α → K
  level : σ → K → K

-- `fits state now` is what is kept of the state between two events, the later of which is at `now`.
structure Meter.Lawful (meter : Meter σ α K) (capacity rate : K) (fits : σ → K → Prop) (admissible : α → Prop) : Prop where
  waits : ∀ state before now, fits state before → before ≤ now → fits state now
  keeps : ∀ state event, fits state (meter.time event) → admissible event → fits (meter.step state event) (meter.time event)
  level_nonneg : ∀ state now, fits state now → 0 ≤ meter.level state now
  level_bounded : ∀ state now, fits state now → meter.level state now ≤ capacity
  refills : ∀ state before now, fits state before → before ≤ now →
    meter.level state now ≤ meter.level state before + rate * (now - before)
  pays : ∀ state event, fits state (meter.time event) → admissible event →
    meter.level (meter.step state event) (meter.time event) + meter.spent state event ≤ meter.level state (meter.time event)

def Meter.spentWithin (meter : Meter σ α K) (opens closes : K) : σ → List α → K
  | _, [] => 0
  | state, event :: rest =>
      (if opens ≤ meter.time event ∧ meter.time event ≤ closes then meter.spent state event else 0) +
        meter.spentWithin opens closes (meter.step state event) rest

variable {meter : Meter σ α K} {capacity rate : K} {fits : σ → K → Prop} {admissible : α → Prop}

theorem Meter.spent_after (opens closes : K) (state : σ) (events : List α)
    (late : ∀ event ∈ events, closes < meter.time event) : meter.spentWithin opens closes state events = 0 := by
  induction events generalizing state with
  | nil => rfl
  | cons event rest ih =>
      obtain ⟨first, others⟩ := List.forall_mem_cons.mp late
      have outside : ¬ (opens ≤ meter.time event ∧ meter.time event ≤ closes) := by
        intro inside
        exact absurd inside.2 (not_le.mpr first)
      rw [Meter.spentWithin, if_neg outside, ih (meter.step state event) others, add_zero]

omit [CommRing K] in
theorem Meter.late_of_first {closes : K} {event : α} {rest : List α} (first : closes < meter.time event)
    (before : ∀ other ∈ rest, meter.time event ≤ meter.time other) : ∀ other ∈ event :: rest, closes < meter.time other := by
  intro other listed
  obtain rfl | deeper := List.mem_cons.mp listed
  · exact first
  · exact lt_of_lt_of_le first (before other deeper)

variable [IsStrictOrderedRing K]

/- Inside the window the level is the potential: what is spent until the window closes is what is there now and what
   refills in the time that is left. -/
theorem Meter.Lawful.spent_from (lawful : meter.Lawful capacity rate fits admissible) (slow : 0 ≤ rate) (opens closes now : K)
    (state : σ) (events : List α) (fit : fits state now) (open_ : opens ≤ now) (soon : now ≤ closes)
    (later : ∀ event ∈ events, now ≤ meter.time event) (ordered : events.Pairwise fun a b => meter.time a ≤ meter.time b)
    (sound : ∀ event ∈ events, admissible event) :
    meter.spentWithin opens closes state events ≤ meter.level state now + rate * (closes - now) := by
  induction events generalizing state now with
  | nil =>
      have there := lawful.level_nonneg state now fit
      have refill := mul_nonneg slow (sub_nonneg.mpr soon)
      exact add_nonneg there refill
  | cons event rest ih =>
      obtain ⟨first, _⟩ := List.forall_mem_cons.mp later
      obtain ⟨admitted, others⟩ := List.forall_mem_cons.mp sound
      obtain ⟨before, tail⟩ := List.pairwise_cons.mp ordered
      by_cases inside : meter.time event ≤ closes
      · have here := lawful.waits state now (meter.time event) fit first
        have kept := lawful.keeps state event here admitted
        have paid := lawful.pays state event here admitted
        have refill := lawful.refills state now (meter.time event) fit first
        have bound := ih (meter.time event) (meter.step state event) kept (le_trans open_ first) inside before tail others
        rw [Meter.spentWithin, if_pos ⟨le_trans open_ first, inside⟩]
        calc meter.spent state event + meter.spentWithin opens closes (meter.step state event) rest
            ≤ meter.spent state event +
                (meter.level (meter.step state event) (meter.time event) + rate * (closes - meter.time event)) := by
              linarith
          _ ≤ meter.level state now + rate * (meter.time event - now) + rate * (closes - meter.time event) := by
              linarith
          _ = meter.level state now + rate * (closes - now) := by ring
      · have late := Meter.late_of_first (not_le.mp inside) before
        rw [Meter.spent_after opens closes state _ late]
        have there := lawful.level_nonneg state now fit
        have refill := mul_nonneg slow (sub_nonneg.mpr soon)
        exact add_nonneg there refill

theorem Meter.Lawful.window (lawful : meter.Lawful capacity rate fits admissible) (slow : 0 ≤ rate) (opens closes : K)
    (room : 0 ≤ capacity) (span : opens ≤ closes) (state : σ) (events : List α)
    (fit : ∀ event ∈ events.head?, fits state (meter.time event))
    (ordered : events.Pairwise fun a b => meter.time a ≤ meter.time b) (sound : ∀ event ∈ events, admissible event) :
    meter.spentWithin opens closes state events ≤ capacity + rate * (closes - opens) := by
  have refill := mul_nonneg slow (sub_nonneg.mpr span)
  induction events generalizing state with
  | nil => exact add_nonneg room refill
  | cons event rest ih =>
      obtain ⟨before, tail⟩ := List.pairwise_cons.mp ordered
      have here : fits state (meter.time event) := fit event rfl
      by_cases early : meter.time event < opens
      · obtain ⟨admitted, others⟩ := List.forall_mem_cons.mp sound
        have kept := lawful.keeps state event here admitted
        have outside : ¬ (opens ≤ meter.time event ∧ meter.time event ≤ closes) := by
          intro inside
          exact absurd early (not_lt.mpr inside.1)
        rw [Meter.spentWithin, if_neg outside, zero_add]
        apply ih (meter.step state event) _ tail others
        intro following leads
        exact lawful.waits _ _ _ kept (before following (List.mem_of_mem_head? leads))
      · have opened : opens ≤ meter.time event := not_lt.mp early
        by_cases inside : meter.time event ≤ closes
        · have later : ∀ other ∈ event :: rest, meter.time event ≤ meter.time other := by
            intro other listed
            obtain rfl | deeper := List.mem_cons.mp listed
            · exact le_refl _
            · exact before other deeper
          have bound := lawful.spent_from slow opens closes (meter.time event) state (event :: rest) here opened inside later
            ordered sound
          have full := lawful.level_bounded state (meter.time event) here
          have shorter := mul_le_mul_of_nonneg_left (sub_le_sub_left opened closes) slow
          exact le_trans bound (add_le_add full shorter)
        · have late := Meter.late_of_first (not_le.mp inside) before
          rw [Meter.spent_after opens closes state _ late]
          exact add_nonneg room refill

end Budget
