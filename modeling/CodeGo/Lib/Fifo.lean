import Mathlib.Algebra.BigOperators.Group.List.Basic
import Mathlib.Algebra.Order.BigOperators.Group.List
import Mathlib.Algebra.Order.Ring.Int

set_option autoImplicit false

namespace Fifo

/- An amount taken from the front of a queue whose items each hold something. -/

section Queue

variable {α : Type} (left : α → Int)

def held (items : List α) : Int := (items.map left).sum

-- An item takes part while the items before it do not cover the amount.
def consume : Int → List α → List (α × Int)
  | _, [] => []
  | amount, item :: rest => if 0 < amount then (item, min (left item) amount) :: consume (amount - left item) rest else []

-- Each item beside what the items before it hold.
def ranked : Int → List α → List (α × Int)
  | _, [] => []
  | prior, item :: rest => (item, prior) :: ranked (prior + left item) rest

-- The same consumption, read off the running totals.
def window (amount : Int) (items : List α) : List (α × Int) :=
  ((ranked left 0 items).filter fun entry => entry.2 < amount).map fun entry => (entry.1, min (left entry.1) (amount - entry.2))

@[simp] theorem held_nil : held left [] = 0 := rfl

@[simp] theorem held_cons (item : α) (rest : List α) : held left (item :: rest) = left item + held left rest := by
  simp [held]

theorem held_append (front back : List α) : held left (front ++ back) = held left front + held left back := by
  simp [held]

theorem held_nonneg (items : List α) (holding : ∀ item ∈ items, 0 < left item) : 0 ≤ held left items := by
  apply List.sum_nonneg
  rw [List.forall_mem_map]
  intro item member
  exact (holding item member).le

theorem consume_none (amount : Int) (covered : amount ≤ 0) (items : List α) : consume left amount items = [] := by
  cases items with
  | nil => rfl
  | cons item rest => rw [consume, if_neg (by omega)]

theorem ranked_prior (prior : Int) (items : List α) (holding : ∀ item ∈ items, 0 < left item) (entry : α × Int)
    (member : entry ∈ ranked left prior items) : prior ≤ entry.2 := by
  induction items generalizing prior with
  | nil => simp [ranked] at member
  | cons item rest ih =>
      rw [ranked, List.mem_cons] at member
      rcases member with rfl | later
      · exact le_refl _
      · have more := ih _ (fun other otherIn => holding other (by simp [otherIn])) later
        have positive := holding item (by simp)
        omega

theorem window_from (amount prior : Int) (items : List α) (holding : ∀ item ∈ items, 0 < left item) :
    (((ranked left prior items).filter fun entry => entry.2 < amount).map fun entry => (entry.1, min (left entry.1) (amount - entry.2))) =
      consume left (amount - prior) items := by
  induction items generalizing prior with
  | nil => simp [ranked, consume]
  | cons item rest ih =>
      have others : ∀ other ∈ rest, 0 < left other := fun other otherIn => holding other (by simp [otherIn])
      by_cases short : prior < amount
      · rw [ranked, List.filter_cons_of_pos (by simpa using short), List.map_cons, ih (prior + left item) others, consume, if_pos (by omega),
          ← Int.sub_sub]
      · -- Nothing behind an item that the amount does not reach is reached either.
        have none : ((ranked left prior (item :: rest)).filter fun entry => entry.2 < amount) = [] := by
          rw [List.filter_eq_nil_iff]
          intro entry member
          have later := ranked_prior left prior (item :: rest) holding entry member
          simp only [decide_eq_true_eq]
          omega
        rw [none, List.map_nil, consume_none left _ (by omega)]

theorem window_eq_consume (amount : Int) (items : List α) (holding : ∀ item ∈ items, 0 < left item) :
    window left amount items = consume left amount items := by
  rw [window, window_from left amount 0 items holding, Int.sub_zero]

theorem consume_append (amount : Int) (front back : List α) (holding : ∀ item ∈ front, 0 < left item) :
    consume left amount (front ++ back) = consume left amount front ++ consume left (amount - held left front) back := by
  induction front generalizing amount with
  | nil => simp [consume]
  | cons item rest ih =>
      have others : ∀ other ∈ rest, 0 < left other := fun other otherIn => holding other (by simp [otherIn])
      rw [List.cons_append, consume, consume]
      split
      · rw [ih _ others, held_cons, List.cons_append, ← Int.sub_sub]
      · rename_i covered
        have more := held_nonneg left (item :: rest) holding
        rw [consume_none left _ (by omega), List.append_nil]

-- An amount the queue does not cover empties it.
theorem consume_all (amount : Int) (items : List α) (holding : ∀ item ∈ items, 0 < left item) (short : held left items ≤ amount) :
    consume left amount items = items.map fun item => (item, left item) := by
  induction items generalizing amount with
  | nil => rfl
  | cons item rest ih =>
      have others : ∀ other ∈ rest, 0 < left other := fun other otherIn => holding other (by simp [otherIn])
      have positive := holding item (by simp)
      have more := held_nonneg left rest others
      rw [held_cons] at short
      rw [consume, if_pos (by omega), min_eq_left (by omega), ih _ others (by omega), List.map_cons]

theorem consume_sum (amount : Int) (positive : 0 ≤ amount) (items : List α) (holding : ∀ item ∈ items, 0 < left item) :
    ((consume left amount items).map Prod.snd).sum = min amount (held left items) := by
  induction items generalizing amount with
  | nil => simpa [consume] using positive
  | cons item rest ih =>
      have others : ∀ other ∈ rest, 0 < left other := fun other otherIn => holding other (by simp [otherIn])
      have more := held_nonneg left rest others
      have full := holding item (by simp)
      rw [consume, held_cons]
      split
      · rw [List.map_cons, List.sum_cons]
        by_cases within : left item ≤ amount
        · rw [ih _ (by omega) others]
          omega
        · rw [consume_none left _ (by omega), List.map_nil, List.sum_nil]
          omega
      · rw [List.map_nil, List.sum_nil]
        omega

-- What is taken from an item is positive and there, and every item in front of it is emptied first.
theorem consume_split (amount : Int) (items : List α) (holding : ∀ item ∈ items, 0 < left item) {front back : List (α × Int)} {item : α}
    {used : Int} (split : consume left amount items = front ++ (item, used) :: back) :
    0 < used ∧ used ≤ left item ∧ (∀ entry ∈ front, entry.2 = left entry.1) ∧ ∃ rest, items = front.map Prod.fst ++ item :: rest := by
  induction items generalizing amount front with
  | nil => simp [consume] at split
  | cons first rest ih =>
      have others : ∀ other ∈ rest, 0 < left other := fun other otherIn => holding other (by simp [otherIn])
      have positive := holding first (by simp)
      rw [consume] at split
      by_cases reached : 0 < amount
      · rw [if_pos reached] at split
        cases front with
        | nil =>
            obtain ⟨⟨rfl, rfl⟩, _⟩ : (first = item ∧ min (left first) amount = used) ∧ consume left (amount - left first) rest = back := by
              simpa using split
            exact ⟨by omega, by omega, by simp, rest, by simp⟩
        | cons entry front =>
            obtain ⟨rfl, later⟩ : (first, min (left first) amount) = entry ∧
                consume left (amount - left first) rest = front ++ (item, used) :: back := by simpa using split
            obtain ⟨taken, there, emptied, behind, same⟩ := ih _ others later
            refine ⟨taken, there, ?_, behind, by simp [same]⟩
            intro other member
            rw [List.mem_cons] at member
            rcases member with rfl | member
            · -- Something is left for a later item, so this one was not enough.
              have short : 0 < amount - left first := by
                by_contra covered
                simp [consume_none left _ (by omega : amount - left first ≤ 0)] at later
              exact min_eq_left (by omega)
            · exact emptied other member
      · simp [if_neg reached] at split

-- The items that take part are a front of the queue.
theorem consume_front (amount : Int) (items : List α) : (consume left amount items).map Prod.fst <+: items := by
  induction items generalizing amount with
  | nil => exact List.prefix_refl []
  | cons item rest ih =>
      rw [consume]
      split
      · rw [List.map_cons, List.prefix_cons_inj]
        exact ih _
      · exact List.nil_prefix

theorem consume_mem (amount : Int) (items : List α) (entry : α × Int) (member : entry ∈ consume left amount items) : entry.1 ∈ items :=
  (consume_front left amount items).subset (List.mem_map_of_mem member)

end Queue

/- The queue that a consumption leaves behind, with `take used item` the item after `used` of it is gone. -/

section Drain

variable {α : Type} (left : α → Int) (take : Int → α → α)

def drain : Int → List α → List α
  | _, [] => []
  | amount, item :: rest => take (min (left item) amount) item :: drain (amount - min (left item) amount) rest

variable {left take}

theorem drain_nothing (whole : ∀ item, take 0 item = item) (items : List α) (holding : ∀ item ∈ items, 0 ≤ left item) :
    drain left take 0 items = items := by
  induction items with
  | nil => rfl
  | cons item rest ih =>
      obtain ⟨here, others⟩ := List.forall_mem_cons.mp holding
      rw [drain, min_eq_right here, sub_zero, whole, ih others]

theorem drain_drain (fewer : ∀ used item, left (take used item) = left item - used)
    (again : ∀ used more item, take more (take used item) = take (used + more) item) (first second : Int) (firstNonneg : 0 ≤ first)
    (secondNonneg : 0 ≤ second) (items : List α) (holding : ∀ item ∈ items, 0 ≤ left item) :
    drain left take second (drain left take first items) = drain left take (first + second) items := by
  induction items generalizing first second with
  | nil => rfl
  | cons item rest ih =>
      obtain ⟨here, others⟩ := List.forall_mem_cons.mp holding
      have taken : min (left item) first + min (left item - min (left item) first) second = min (left item) (first + second) := by
        omega
      have beyond : first - min (left item) first + (second - min (left item - min (left item) first) second) =
          first + second - min (left item) (first + second) := by
        omega
      rw [drain, drain, drain, fewer, again, taken, ih _ _ (by omega) (by omega) others, beyond]

-- Whatever grows by what is taken grows by the amount, or by what the queue holds where that is less.
theorem weight_drain (weight : α → Int) (grows : ∀ used item, weight (take used item) = weight item + used) (amount : Int)
    (nonneg : 0 ≤ amount) (items : List α) (holding : ∀ item ∈ items, 0 ≤ left item) :
    held weight (drain left take amount items) = held weight items + min amount (held left items) := by
  induction items generalizing amount with
  | nil => simp [drain, nonneg]
  | cons item rest ih =>
      obtain ⟨here, others⟩ := List.forall_mem_cons.mp holding
      have more : 0 ≤ held left rest := by
        apply List.sum_nonneg
        rw [List.forall_mem_map]
        exact others
      rw [drain, held_cons, held_cons, held_cons, grows, ih _ (by omega) others]
      omega

theorem drain_pairs (related : α → α → Prop) (steps : ∀ item used, 0 ≤ used → used ≤ left item → related item (take used item))
    (amount : Int) (nonneg : 0 ≤ amount) (items : List α) (holding : ∀ item ∈ items, 0 ≤ left item) :
    List.Forall₂ related items (drain left take amount items) := by
  induction items generalizing amount with
  | nil => exact .nil
  | cons item rest ih =>
      obtain ⟨here, others⟩ := List.forall_mem_cons.mp holding
      exact .cons (steps item _ (by omega) (by omega)) (ih _ (by omega) others)

end Drain

end Fifo
