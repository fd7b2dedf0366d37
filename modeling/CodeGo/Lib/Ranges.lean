import Mathlib.Data.List.Pairwise
import Mathlib.Data.List.Sort
import Mathlib.Order.Basic
import Mathlib.Algebra.Ring.Int.Defs

set_option autoImplicit false

/- Ranges of integers with both ends in them: sorted, merged where they overlap or touch, and scanned. -/

namespace Ranges

structure Range where
  start : Int
  stop : Int
deriving DecidableEq, Repr

def Range.Covers (range : Range) (code : Int) : Prop := range.start ≤ code ∧ code ≤ range.stop

def Range.Filled (range : Range) : Prop := range.start ≤ range.stop

def less (first second : Range) : Bool :=
  if first.start = second.start then decide (first.stop < second.stop) else decide (first.start < second.start)

def sort (ranges : List Range) : List Range := ranges.mergeSort fun first second => !less second first

-- The last range grows as long as the next one overlaps it or touches it.
def mergeInto : Range → List Range → List Range
  | last, [] => [last]
  | last, range :: rest =>
      if range.start ≤ last.stop + 1 then mergeInto { last with stop := if last.stop < range.stop then range.stop else last.stop } rest
      else last :: mergeInto range rest

def merge : List Range → List Range
  | [] => []
  | first :: rest => mergeInto first rest

-- A scan that gives up at the first range that starts above the code.
def scan (code : Int) : List Range → Bool
  | [] => false
  | range :: rest => if code < range.start then false else if code ≤ range.stop then true else scan code rest

def Apart (ranges : List Range) : Prop := ranges.Pairwise fun first second => first.stop + 1 < second.start

def Ascending (ranges : List Range) : Prop := ranges.Pairwise fun first second => first.start ≤ second.start

theorem sort_ascending (ranges : List Range) : Ascending (sort ranges) := by
  have sorted : (sort ranges).Pairwise fun first second => (!less second first) = true := by
    apply List.pairwise_mergeSort
    · intro a b c
      simp only [less, Bool.not_eq_true', Bool.ite_eq_false_distrib]
      grind
    · intro a b
      simp only [less, Bool.or_eq_true, Bool.not_eq_true']
      grind
  apply sorted.imp
  intro first second before
  simp only [less, Bool.not_eq_true'] at before
  by_cases same : second.start = first.start
  · omega
  · rw [if_neg same, decide_eq_false_iff_not] at before
    omega

theorem mem_sort (ranges : List Range) (range : Range) : range ∈ sort ranges ↔ range ∈ ranges := List.mem_mergeSort

theorem merge_into_starts (last : Range) (rest : List Range) (bound : Int) (first : bound ≤ last.start)
    (later : ∀ range ∈ rest, bound ≤ range.start) : ∀ range ∈ mergeInto last rest, bound ≤ range.start := by
  induction rest generalizing last with
  | nil => simpa [mergeInto] using first
  | cons next rest ih =>
      obtain ⟨here, others⟩ := List.forall_mem_cons.mp later
      rw [mergeInto]
      by_cases touching : next.start ≤ last.stop + 1
      · rw [if_pos touching]
        exact ih _ first others
      · rw [if_neg touching]
        exact List.forall_mem_cons.mpr ⟨first, ih next here others⟩

theorem merge_into_apart (last : Range) (rest : List Range) (ascending : Ascending (last :: rest)) : Apart (mergeInto last rest) := by
  induction rest generalizing last with
  | nil => exact List.pairwise_singleton _ _
  | cons next rest ih =>
      obtain ⟨first, later⟩ := List.pairwise_cons.mp ascending
      rw [mergeInto]
      by_cases touching : next.start ≤ last.stop + 1
      · rw [if_pos touching]
        apply ih
        apply List.pairwise_cons.mpr
        exact ⟨fun range member => first range (List.mem_cons_of_mem next member), (List.pairwise_cons.mp later).2⟩
      · rw [if_neg touching]
        apply List.pairwise_cons.mpr
        refine ⟨?_, ih next later⟩
        intro range member
        have above := merge_into_starts next rest next.start (le_refl _) (List.pairwise_cons.mp later).1 range member
        omega

theorem merge_into_covers (last : Range) (rest : List Range) (ascending : Ascending (last :: rest)) (filled : ∀ range ∈ last :: rest, range.Filled)
    (code : Int) : (∃ range ∈ mergeInto last rest, range.Covers code) ↔ ∃ range ∈ last :: rest, range.Covers code := by
  induction rest generalizing last with
  | nil => simp [mergeInto]
  | cons next rest ih =>
      obtain ⟨first, later⟩ := List.pairwise_cons.mp ascending
      obtain ⟨here, others⟩ := List.forall_mem_cons.mp filled
      rw [mergeInto]
      by_cases touching : next.start ≤ last.stop + 1
      · have below := first next List.mem_cons_self
        have nextFilled : next.start ≤ next.stop := others next List.mem_cons_self
        have grown := ih { last with stop := if last.stop < next.stop then next.stop else last.stop }
          (List.pairwise_cons.mpr ⟨fun range member => first range (List.mem_cons_of_mem next member), (List.pairwise_cons.mp later).2⟩)
          (List.forall_mem_cons.mpr ⟨by
            have lastFilled : last.start ≤ last.stop := here
            simp only [Range.Filled]
            split <;> omega, fun range member => others range (List.mem_cons_of_mem next member)⟩)
        have joined : ({ last with stop := if last.stop < next.stop then next.stop else last.stop } : Range).Covers code ↔
            last.Covers code ∨ next.Covers code := by
          simp only [Range.Covers]
          split <;> omega
        rw [if_pos touching, grown]
        simp only [List.exists_mem_cons_iff, joined, or_assoc]
      · rw [if_neg touching]
        simp only [List.exists_mem_cons_iff, ih next later others]

theorem merge_into_filled (last : Range) (rest : List Range) (low high : Int)
    (within : ∀ range ∈ last :: rest, low ≤ range.start ∧ range.Filled ∧ range.stop ≤ high) :
    ∀ range ∈ mergeInto last rest, low ≤ range.start ∧ range.Filled ∧ range.stop ≤ high := by
  induction rest generalizing last with
  | nil => simpa [mergeInto] using within
  | cons next rest ih =>
      obtain ⟨here, others⟩ := List.forall_mem_cons.mp within
      obtain ⟨second, later⟩ := List.forall_mem_cons.mp others
      rw [mergeInto]
      by_cases touching : next.start ≤ last.stop + 1
      · rw [if_pos touching]
        apply ih
        refine List.forall_mem_cons.mpr ⟨?_, later⟩
        unfold Range.Filled at here second ⊢
        simp only
        split <;> omega
      · rw [if_neg touching]
        exact List.forall_mem_cons.mpr ⟨here, ih next others⟩

theorem merge_into_of_apart (last : Range) (rest : List Range) (apart : Apart (last :: rest)) : mergeInto last rest = last :: rest := by
  induction rest generalizing last with
  | nil => rfl
  | cons next rest ih =>
      obtain ⟨first, later⟩ := List.pairwise_cons.mp apart
      have gap := first next List.mem_cons_self
      rw [mergeInto, if_neg (by omega), ih next later]

theorem merge_apart (ranges : List Range) (ascending : Ascending ranges) : Apart (merge ranges) := by
  cases ranges with
  | nil => exact List.Pairwise.nil
  | cons first rest => exact merge_into_apart first rest ascending

theorem merge_covers (ranges : List Range) (ascending : Ascending ranges) (filled : ∀ range ∈ ranges, range.Filled) (code : Int) :
    (∃ range ∈ merge ranges, range.Covers code) ↔ ∃ range ∈ ranges, range.Covers code := by
  cases ranges with
  | nil => exact Iff.rfl
  | cons first rest => exact merge_into_covers first rest ascending filled code

theorem merge_filled (ranges : List Range) (low high : Int) (within : ∀ range ∈ ranges, low ≤ range.start ∧ range.Filled ∧ range.stop ≤ high) :
    ∀ range ∈ merge ranges, low ≤ range.start ∧ range.Filled ∧ range.stop ≤ high := by
  cases ranges with
  | nil => exact within
  | cons first rest => exact merge_into_filled first rest low high within

-- Ranges that stand apart are sorted and merged already.
theorem merge_sort_of_apart (ranges : List Range) (apart : Apart ranges) (filled : ∀ range ∈ ranges, range.Filled) :
    merge (sort ranges) = ranges := by
  have sorted : sort ranges = ranges := by
    apply List.mergeSort_of_pairwise
    apply apart.imp_of_mem
    intro first second member inside gap
    have firstFilled : first.start ≤ first.stop := filled first member
    have apartStarts : second.start ≠ first.start := by omega
    simp only [less, if_neg apartStarts, Bool.not_eq_true', decide_eq_false_iff_not]
    omega
  rw [sorted]
  cases ranges with
  | nil => rfl
  | cons first rest => exact merge_into_of_apart first rest apart

theorem scan_covers (code : Int) (ranges : List Range) (apart : Apart ranges) (filled : ∀ range ∈ ranges, range.Filled) :
    scan code ranges = true ↔ ∃ range ∈ ranges, range.Covers code := by
  induction ranges with
  | nil => simp [scan]
  | cons first rest ih =>
      obtain ⟨gaps, later⟩ := List.pairwise_cons.mp apart
      obtain ⟨here, others⟩ := List.forall_mem_cons.mp filled
      have firstFilled : first.start ≤ first.stop := here
      have above : code ≤ first.stop → ¬ ∃ range ∈ rest, range.Covers code := by
        intro low found
        obtain ⟨range, member, covers⟩ := found
        have gap := gaps range member
        have start := covers.1
        omega
      rw [scan, List.exists_mem_cons_iff, ← ih later others]
      unfold Range.Covers
      by_cases below : code < first.start
      · rw [if_pos below]
        have none := above (by omega)
        rw [← ih later others] at none
        have skipped : ¬ first.start ≤ code := by omega
        simp [skipped, none]
      · rw [if_neg below]
        by_cases inside : code ≤ first.stop
        · simp [inside]
          omega
        · simp [inside]

end Ranges
