import Mathlib.Algebra.BigOperators.Group.List.Basic
import Mathlib.Algebra.Order.BigOperators.Group.List
import Mathlib.Algebra.Order.Ring.Int
import Mathlib.Data.List.Forall2
import Mathlib.Data.List.Pairwise
import Mathlib.Tactic.Abel

set_option autoImplicit false

namespace Relational

-- The columns read by the unique indexes of a row type, and when two rows violate one.
class Indexed (α : Type) where
  Index : Type
  index : α → Index
  clash : Index → Index → Prop
  clash_symm : ∀ first second, clash first second → clash second first
  clashDecidable : DecidableRel clash

-- The clash of two unique columns.
theorem either_symm {α β : Type} (first second : α × β) (clash : first.1 = second.1 ∨ first.2 = second.2) :
    second.1 = first.1 ∨ second.2 = first.2 := clash.imp Eq.symm Eq.symm

def Clash {α : Type} [Indexed α] (first second : α) : Prop :=
  Indexed.clash (Indexed.index first) (Indexed.index second)

instance {α : Type} [Indexed α] : DecidableRel (Clash (α := α)) := fun first second =>
  Indexed.clashDecidable (Indexed.index first) (Indexed.index second)

-- Rows rewritten twice, place by place.
theorem pairs_trans {α : Type} {related : α → α → Prop} (trans : ∀ first second third, related first second → related second third → related first third)
    {first second third : List α} (early : List.Forall₂ related first second) (late : List.Forall₂ related second third) :
    List.Forall₂ related first third := by
  induction early generalizing third with
  | nil => exact late
  | cons pair _ ih =>
      cases late with
      | cons next rest => exact .cons (trans _ _ _ pair next) (ih rest)

section Pairs

variable {α β : Type} {related : α → β → Prop} {first : List α} {second : List β}

theorem pairs_on (pairs : List.Forall₂ related first second) {row : α} (member : row ∈ first) : ∃ other ∈ second, related row other := by
  obtain ⟨place, bound, rfl⟩ := List.getElem_of_mem member
  have late : place < second.length := by rw [← pairs.length_eq]; exact bound
  exact ⟨second[place], List.getElem_mem late, pairs.get bound late⟩

theorem pairs_back (pairs : List.Forall₂ related first second) {other : β} (member : other ∈ second) : ∃ row ∈ first, related row other := by
  obtain ⟨place, bound, rfl⟩ := List.getElem_of_mem member
  have early : place < first.length := by rw [pairs.length_eq]; exact bound
  exact ⟨first[place], List.getElem_mem early, pairs.get early bound⟩

end Pairs

-- A table keeps its rows in insertion order and never holds two rows that clash.
structure Table (α : Type) [Indexed α] where
  rows : List α
  unique : rows.Pairwise fun first second => ¬ Clash first second

namespace Table

variable {α : Type} [Indexed α]

theorem clash_symm (first second : α) (clash : Clash first second) : Clash second first :=
  Indexed.clash_symm _ _ clash

def empty : Table α := ⟨[], .nil⟩

@[ext] theorem ext (first second : Table α) (same : first.rows = second.rows) : first = second := by
  cases first
  cases second
  cases same
  rfl

def find? (table : Table α) (wanted : α → Bool) : Option α := table.rows.find? wanted

def Fresh (table : Table α) (row : α) : Prop := ∀ other ∈ table.rows, ¬ Clash other row

instance (table : Table α) (row : α) : Decidable (Fresh table row) := by
  unfold Fresh
  infer_instance

-- An insert is refused when a unique index already holds one of the row's keys.
def insert? (table : Table α) (row : α) : Option (Table α) :=
  if fresh : Fresh table row then
    some ⟨table.rows ++ [row], by
      rw [List.pairwise_append]
      refine ⟨table.unique, by simp, ?_⟩
      intro other member fresher isRow
      rw [List.mem_singleton] at isRow
      exact isRow ▸ fresh other member⟩
  else none

-- An update writes columns outside the unique indexes of the selected rows.
def update (table : Table α) (selected : α → Bool) (change : α → α)
    (keeps : ∀ row, Indexed.index (change row) = Indexed.index row) : Table α :=
  ⟨table.rows.map fun row => if selected row then change row else row, by
    rw [List.pairwise_map]
    refine table.unique.imp ?_
    intro first second different
    have same : ∀ row : α, Indexed.index (if selected row then change row else row) = Indexed.index row := by
      intro row
      split
      · exact keeps row
      · rfl
    simpa only [Clash, same] using different⟩

def total {M : Type} [AddCommMonoid M] (table : Table α) (weight : α → M) : M := (table.rows.map weight).sum

@[simp] theorem rows_empty : (empty : Table α).rows = [] := rfl

@[simp] theorem rows_update (table : Table α) (selected : α → Bool) (change : α → α)
    (keeps : ∀ row, Indexed.index (change row) = Indexed.index row) :
    (table.update selected change keeps).rows = table.rows.map fun row => if selected row then change row else row := rfl

theorem insert?_eq_some_iff (table next : Table α) (row : α) :
    table.insert? row = some next ↔ Fresh table row ∧ next.rows = table.rows ++ [row] := by
  unfold insert?
  split
  · rename_i fresh
    rw [Option.some.injEq]
    constructor
    · intro same
      exact ⟨fresh, same ▸ rfl⟩
    · intro appended
      exact ext _ _ appended.2.symm
  · rename_i stale
    simp [stale]

theorem insert?_eq_none_iff (table : Table α) (row : α) : table.insert? row = none ↔ ¬ Fresh table row := by
  unfold insert?
  split <;> simp_all

theorem insert?_of_fresh (table : Table α) (row : α) (fresh : Fresh table row) :
    ∃ next, table.insert? row = some next ∧ next.rows = table.rows ++ [row] := by
  obtain ⟨next, inserted⟩ := Option.ne_none_iff_exists'.mp fun none => (insert?_eq_none_iff _ _).mp none fresh
  exact ⟨next, inserted, ((insert?_eq_some_iff _ _ _).mp inserted).2⟩

theorem eq_of_clash (table : Table α) (first second : α) (firstIn : first ∈ table.rows) (secondIn : second ∈ table.rows)
    (clash : Clash first second) : first = second := by
  by_contra different
  have symmetric : Std.Symm fun first second : α => ¬ Clash first second :=
    ⟨fun _ _ apart back => apart (clash_symm _ _ back)⟩
  exact table.unique.forall firstIn secondIn different clash

theorem mem_of_find? (table : Table α) (wanted : α → Bool) (row : α) (found : table.find? wanted = some row) :
    row ∈ table.rows ∧ wanted row = true :=
  ⟨List.mem_of_find?_eq_some found, List.find?_some found⟩

theorem find?_eq_none_iff (table : Table α) (wanted : α → Bool) :
    table.find? wanted = none ↔ ∀ row ∈ table.rows, wanted row = false := by
  simp [find?, List.find?_eq_none]

-- A lookup by a unique key finds the row that carries it.
theorem find?_of_mem (table : Table α) (wanted : α → Bool) (row : α) (member : row ∈ table.rows) (hit : wanted row = true)
    (single : ∀ other, wanted other = true → Clash row other) : table.find? wanted = some row := by
  cases found : table.find? wanted with
  | none =>
      rw [find?_eq_none_iff] at found
      simp [found row member] at hit
  | some other =>
      obtain ⟨otherIn, otherHit⟩ := mem_of_find? table wanted other found
      rw [eq_of_clash table row other member otherIn (single other otherHit)]

-- A filter on a unique key selects the row that carries it.
theorem filter_single (table : Table α) (wanted : α → Bool) (row : α) (member : row ∈ table.rows) (hit : wanted row = true)
    (single : ∀ other ∈ table.rows, wanted other = true → Clash row other) : table.rows.filter wanted = [row] := by
  obtain ⟨before, after, split⟩ := List.append_of_mem member
  have pairs := table.unique
  rw [split, List.pairwise_append] at pairs
  have early : before.filter wanted = [] := by
    rw [List.filter_eq_nil_iff]
    intro other otherIn selected
    exact pairs.2.2 other otherIn row (by simp) (clash_symm _ _ (single other (by simp [split, otherIn]) selected))
  have late : after.filter wanted = [] := by
    rw [List.filter_eq_nil_iff]
    intro other otherIn selected
    exact (List.pairwise_cons.mp pairs.2.1).1 other otherIn (single other (by simp [split, otherIn]) selected)
  rw [split, List.filter_append, early, List.filter_cons_of_pos hit, late, List.nil_append]

theorem mem_update (table : Table α) (selected : α → Bool) (change : α → α)
    (keeps : ∀ row, Indexed.index (change row) = Indexed.index row) (row : α) :
    row ∈ (table.update selected change keeps).rows ↔
      (row ∈ table.rows ∧ selected row = false) ∨ ∃ old ∈ table.rows, selected old = true ∧ change old = row := by
  rw [rows_update, List.mem_map]
  constructor
  · rintro ⟨old, member, rfl⟩
    by_cases hit : selected old = true
    · exact .inr ⟨old, member, hit, by simp [hit]⟩
    · exact .inl ⟨by simpa [hit] using member, by simp [hit]⟩
  · rintro (⟨member, miss⟩ | ⟨old, member, hit, rfl⟩)
    · exact ⟨row, member, by simp [miss]⟩
    · exact ⟨old, member, by simp [hit]⟩

theorem find?_update (table : Table α) (selected wanted : α → Bool) (change : α → α)
    (keeps : ∀ row, Indexed.index (change row) = Indexed.index row)
    (blind : ∀ row, wanted (change row) = wanted row) :
    (table.update selected change keeps).find? wanted =
      (table.find? wanted).map fun row => if selected row then change row else row := by
  have same : (wanted ∘ fun row => if selected row then change row else row) = wanted := by
    funext row
    by_cases hit : selected row = true <;> simp [hit, blind]
  simp only [find?, rows_update, List.find?_map, same]

-- Two tables that differ in one row, which keeps its place.
def Replaced (table next : Table α) (old new : α) : Prop :=
  ∃ before after, table.rows = before ++ old :: after ∧ next.rows = before ++ new :: after

theorem Replaced.old_mem {table next : Table α} {old new : α} (replaced : Replaced table next old new) : old ∈ table.rows := by
  obtain ⟨before, after, split, _⟩ := replaced
  simp [split]

theorem Replaced.new_mem {table next : Table α} {old new : α} (replaced : Replaced table next old new) : new ∈ next.rows := by
  obtain ⟨before, after, _, split⟩ := replaced
  simp [split]

theorem Replaced.mem {table next : Table α} {old new : α} (replaced : Replaced table next old new) (row : α)
    (member : row ∈ next.rows) : row = new ∨ (row ∈ table.rows ∧ ¬ Clash old row) := by
  obtain ⟨before, after, split, nextSplit⟩ := replaced
  have pairs := table.unique
  rw [split, List.pairwise_append] at pairs
  rw [nextSplit, List.mem_append, List.mem_cons] at member
  rcases member with early | same | late
  · exact .inr ⟨by simp [split, early], fun clash => pairs.2.2 row early old (by simp) (clash_symm _ _ clash)⟩
  · exact .inl same
  · exact .inr ⟨by simp [split, late], (List.pairwise_cons.mp pairs.2.1).1 row late⟩

theorem Replaced.kept {table next : Table α} {old new : α} (replaced : Replaced table next old new) (row : α)
    (member : row ∈ table.rows) : row = old ∨ row ∈ next.rows := by
  obtain ⟨before, after, split, nextSplit⟩ := replaced
  rw [split, List.mem_append, List.mem_cons] at member
  rcases member with early | same | late
  · exact .inr (by simp [nextSplit, early])
  · exact .inl same
  · exact .inr (by simp [nextSplit, late])

-- Writing the one row that matches a unique key is a replacement of that row.
theorem replaced_update (table : Table α) (selected : α → Bool) (change : α → α)
    (keeps : ∀ row, Indexed.index (change row) = Indexed.index row) (row : α) (member : row ∈ table.rows)
    (hit : selected row = true) (single : ∀ other, selected other = true → Clash row other) :
    Replaced table (table.update selected change keeps) row (change row) := by
  obtain ⟨before, after, split⟩ := List.append_of_mem member
  have pairs := table.unique
  rw [split, List.pairwise_append] at pairs
  have untouched : ∀ part : List α, (∀ other ∈ part, ¬ Clash row other) →
      part.map (fun other => if selected other then change other else other) = part := by
    intro part apart
    refine (List.map_congr_left ?_).trans (List.map_id part)
    intro other otherIn
    have miss : selected other ≠ true := fun selectedOther => apart other otherIn (single other selectedOther)
    simp [miss]
  have early := untouched before (fun other otherIn clash => pairs.2.2 other otherIn row (by simp) (clash_symm _ _ clash))
  have late := untouched after (fun other otherIn => (List.pairwise_cons.mp pairs.2.1).1 other otherIn)
  refine ⟨before, after, split, ?_⟩
  rw [rows_update, split, List.map_append, List.map_cons, early, late, if_pos hit]

-- Lookups by a column that a unique index covers.

section Totals

variable {M : Type} [AddCommGroup M] (weight : α → M)

@[simp] theorem total_empty : (empty : Table α).total weight = 0 := rfl

theorem total_append (table next : Table α) (rows : List α) (appended : next.rows = table.rows ++ rows) :
    next.total weight = table.total weight + (rows.map weight).sum := by
  simp [total, appended]

theorem total_congr (table : Table α) (other : α → M) (same : ∀ row ∈ table.rows, weight row = other row) :
    table.total weight = table.total other := by
  rw [total, total, List.map_congr_left same]

-- A total in which one row alone counts.
theorem total_single (table : Table α) (row : α) (member : row ∈ table.rows)
    (others : ∀ other ∈ table.rows, ¬ Clash row other → weight other = 0) : table.total weight = weight row := by
  obtain ⟨before, after, split⟩ := List.append_of_mem member
  have pairs := table.unique
  rw [split, List.pairwise_append] at pairs
  have early : (before.map weight).sum = 0 := by
    refine List.sum_eq_zero ?_
    rw [List.forall_mem_map]
    intro other otherIn
    exact others other (by simp [split, otherIn]) fun clash => pairs.2.2 other otherIn row (by simp) (clash_symm _ _ clash)
  have late : (after.map weight).sum = 0 := by
    refine List.sum_eq_zero ?_
    rw [List.forall_mem_map]
    intro other otherIn
    exact others other (by simp [split, otherIn]) ((List.pairwise_cons.mp pairs.2.1).1 other otherIn)
  simp [total, split, early, late]

-- Two totals taken one inside the other may be taken in either order.
theorem total_swap {β : Type} [Indexed β] (table : Table α) (other : Table β) (paired : α → β → M) :
    (table.total fun row => other.total fun column => paired row column) = other.total fun column => table.total fun row => paired row column := by
  unfold total
  induction table.rows with
  | nil => simp
  | cons row rest ih => simp only [List.map_cons, List.sum_cons, ih, List.sum_map_add]

-- A replacement moves a total by the difference of the two rows' weights.
theorem Replaced.total {table next : Table α} {old new : α} (replaced : Replaced table next old new) :
    next.total weight = table.total weight - weight old + weight new := by
  obtain ⟨before, after, split, nextSplit⟩ := replaced
  simp only [Table.total, split, nextSplit, List.map_append, List.map_cons, List.sum_append, List.sum_cons]
  abel

end Totals

section Successors

variable {κ : Type} {weight : α → Int} (key : α → κ) (keyed : ∀ first second : α, key first = key second → Clash first second)

include keyed

-- Rows may be rewritten and added: a total never falls when no row loses weight and no new row has less than none.
theorem sum_le_successors (rows next : List α) (unique : rows.Pairwise fun first second => ¬ Clash first second)
    (distinct : next.Pairwise fun first second => ¬ Clash first second)
    (successor : ∀ row ∈ rows, ∃ later ∈ next, key later = key row ∧ weight row ≤ weight later)
    (fresh : ∀ later ∈ next, (∃ row ∈ rows, key row = key later) ∨ 0 ≤ weight later) : (rows.map weight).sum ≤ (next.map weight).sum := by
  induction rows generalizing next with
  | nil =>
      have nonneg : ∀ later ∈ next, 0 ≤ weight later := fun later member => (fresh later member).resolve_left (by simp)
      simpa using List.sum_nonneg (List.forall_mem_map.mpr nonneg)
  | cons row rest ih =>
      rw [List.pairwise_cons] at unique
      obtain ⟨later, laterIn, sameKey, less⟩ := successor row (by simp)
      obtain ⟨before, after, rfl⟩ := List.append_of_mem laterIn
      -- The successor is taken out on both sides; the other rows have theirs elsewhere.
      have elsewhere : ∀ other ∈ before ++ after, key other ≠ key later := by
        intro other member same
        rw [List.pairwise_append] at distinct
        rw [List.mem_append] at member
        rcases member with early | late
        · exact distinct.2.2 other early later (by simp) (keyed _ _ same)
        · exact (List.pairwise_cons.mp distinct.2.1).1 other late (keyed _ _ same.symm)
      have smaller : (before ++ after).Sublist (before ++ later :: after) := List.Sublist.append_left (List.sublist_cons_self _ _) _
      have others := ih (before ++ after) unique.2 (distinct.sublist smaller) (fun other member => ?_) (fun other member => ?_)
      · simp only [List.map_append, List.map_cons, List.sum_append, List.sum_cons] at others ⊢
        omega
      · obtain ⟨next, nextIn, nextKey, nextLess⟩ := successor other (by simp [member])
        refine ⟨next, ?_, nextKey, nextLess⟩
        simp only [List.mem_append, List.mem_cons] at nextIn ⊢
        rcases nextIn with early | rfl | late
        · exact .inl early
        · exact (unique.1 other member (keyed _ _ (sameKey.symm.trans nextKey))).elim
        · exact .inr late
      · rcases fresh other (smaller.subset member) with ⟨source, sourceIn, sourceKey⟩ | nonneg
        · rw [List.mem_cons] at sourceIn
          rcases sourceIn with rfl | inRest
          · exact (elsewhere other member (sourceKey.symm.trans sameKey.symm)).elim
          · exact .inl ⟨source, inRest, sourceKey⟩
        · exact .inr nonneg

theorem total_le_successors (table next : Table α)
    (successor : ∀ row ∈ table.rows, ∃ later ∈ next.rows, key later = key row ∧ weight row ≤ weight later)
    (fresh : ∀ later ∈ next.rows, (∃ row ∈ table.rows, key row = key later) ∨ 0 ≤ weight later) : table.total weight ≤ next.total weight :=
  sum_le_successors key keyed _ _ table.unique next.unique successor fresh

theorem total_eq_successors (table next : Table α)
    (successor : ∀ row ∈ table.rows, ∃ later ∈ next.rows, key later = key row ∧ weight later = weight row)
    (fresh : ∀ later ∈ next.rows, (∃ row ∈ table.rows, key row = key later) ∨ weight later = 0) : next.total weight = table.total weight := by
  refine Int.le_antisymm ?_ (total_le_successors key keyed table next (fun row member => ?_) fun later member => ?_)
  · have opposite := @sum_le_successors α _ κ (fun row => - weight row) key keyed table.rows next.rows table.unique next.unique
      (fun row member => ?_) (fun later member => ?_)
    · have negated : ∀ rows : List α, (rows.map fun row => - weight row).sum = - (rows.map weight).sum := by
        intro rows
        induction rows with
        | nil => rfl
        | cons row rest ih =>
            simp only [List.map_cons, List.sum_cons, ih]
            omega
      rw [negated, negated] at opposite
      exact Int.neg_le_neg_iff.mp opposite
    · obtain ⟨later, laterIn, sameKey, same⟩ := successor row member
      exact ⟨later, laterIn, sameKey, by omega⟩
    · exact (fresh later member).imp_right fun nothing => by omega
  · obtain ⟨later, laterIn, sameKey, same⟩ := successor row member
    exact ⟨later, laterIn, sameKey, by omega⟩
  · exact (fresh later member).imp_right fun nothing => by omega

end Successors

end Table

end Relational
