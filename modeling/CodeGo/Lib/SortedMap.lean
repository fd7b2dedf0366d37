import Mathlib.Order.Basic
import Mathlib.Data.List.Pairwise
import Mathlib.Data.List.Perm.Basic
import Mathlib.Order.Defs.LinearOrder
import Mathlib.Data.List.Sort
import Mathlib.Algebra.BigOperators.Group.List.Basic
import Mathlib.Algebra.Ring.Int.Defs

set_option autoImplicit false

/- A map that is read by key and gone through in the order of its keys. -/

structure SortedMap (κ β : Type) [LinearOrder κ] where
  entries : List (κ × β) := []
  sorted : entries.Pairwise fun first second => first.1 < second.1 := by exact .nil

namespace SortedMap

variable {κ β : Type} [LinearOrder κ]

def lookup (key : κ) : List (κ × β) → Option β
  | [] => none
  | entry :: rest => if entry.1 = key then some entry.2 else lookup key rest

def get (map : SortedMap κ β) (key : κ) : Option β := lookup key map.entries

def put (key : κ) (value : β) : List (κ × β) → List (κ × β)
  | [] => [(key, value)]
  | entry :: rest =>
      if key < entry.1 then (key, value) :: entry :: rest
      else if key = entry.1 then (key, value) :: rest
      else entry :: put key value rest

theorem put_mem (key : κ) (value : β) (entries : List (κ × β)) (entry : κ × β) (member : entry ∈ put key value entries) :
    entry = (key, value) ∨ entry ∈ entries := by
  induction entries with
  | nil => exact .inl (List.mem_singleton.mp member)
  | cons first rest ih =>
      rw [put] at member
      by_cases before : key < first.1
      · rw [if_pos before] at member
        exact List.mem_cons.mp member
      · by_cases same : key = first.1
        · rw [if_neg before, if_pos same] at member
          exact (List.mem_cons.mp member).imp_right (List.mem_cons_of_mem first)
        · rw [if_neg before, if_neg same] at member
          rcases List.mem_cons.mp member with is | later
          · exact .inr (is ▸ List.mem_cons_self)
          · exact (ih later).imp_right (List.mem_cons_of_mem first)

theorem put_sorted (key : κ) (value : β) (entries : List (κ × β)) (sorted : entries.Pairwise fun first second => first.1 < second.1) :
    (put key value entries).Pairwise fun first second => first.1 < second.1 := by
  induction entries with
  | nil => exact List.pairwise_singleton _ _
  | cons first rest ih =>
      obtain ⟨least, others⟩ := List.pairwise_cons.mp sorted
      rw [put]
      by_cases before : key < first.1
      · rw [if_pos before, List.pairwise_cons]
        refine ⟨fun entry member => ?_, sorted⟩
        rcases List.mem_cons.mp member with rfl | later
        · exact before
        · exact before.trans (least entry later)
      · by_cases same : key = first.1
        · rw [if_neg before, if_pos same, List.pairwise_cons]
          exact ⟨fun entry member => same ▸ least entry member, others⟩
        · rw [if_neg before, if_neg same, List.pairwise_cons]
          refine ⟨fun entry member => ?_, ih others⟩
          rcases put_mem key value rest entry member with rfl | later
          · exact lt_of_le_of_ne (not_lt.mp before) (Ne.symm same)
          · exact least entry later

theorem lookup_some (entries : List (κ × β)) (sorted : entries.Pairwise fun first second => first.1 < second.1) (key : κ) (value : β) :
    lookup key entries = some value ↔ (key, value) ∈ entries := by
  induction entries with
  | nil => simp [lookup]
  | cons first rest ih =>
      obtain ⟨least, others⟩ := List.pairwise_cons.mp sorted
      rw [lookup]
      by_cases same : first.1 = key
      · rw [if_pos same, List.mem_cons]
        constructor
        · intro found
          exact .inl (Prod.ext same.symm (Option.some.inj found).symm)
        · rintro (rfl | later)
          · rfl
          · exact absurd (least _ later) (by simp [same])
      · rw [if_neg same, ih others, List.mem_cons]
        exact ⟨.inr, fun member => member.resolve_left fun is => same (is ▸ rfl)⟩

-- Adding to the value under a key adds as much to every sum over the entries.
theorem sum_put (weight : κ × Int → Int) (key : κ) (value : Int) (entries : List (κ × Int))
    (sorted : entries.Pairwise fun first second => first.1 < second.1)
    (adds : ∀ first second, weight (key, first + second) = weight (key, first) + weight (key, second)) :
    ((put key ((lookup key entries).getD 0 + value) entries).map weight).sum = (entries.map weight).sum + weight (key, value) := by
  induction entries with
  | nil => simp [put, lookup]
  | cons first rest ih =>
      obtain ⟨least, others⟩ := List.pairwise_cons.mp sorted
      rw [put]
      by_cases before : key < first.1
      · have absent : lookup key (first :: rest) = none := by
          cases found : lookup key (first :: rest) with
          | none => rfl
          | some held =>
              rcases List.mem_cons.mp ((lookup_some _ sorted key held).mp found) with here | later
              · exact absurd before (here ▸ lt_irrefl key)
              · exact absurd (before.trans (least _ later)) (lt_irrefl key)
        rw [if_pos before, absent, List.map_cons, List.sum_cons, Option.getD_none, Int.zero_add, Int.add_comm]
      · by_cases same : key = first.1
        · have held : lookup key (first :: rest) = some first.2 := by rw [lookup, if_pos same.symm]
          have joined : weight (key, first.2 + value) = weight first + weight (key, value) := by
            rw [adds]
            exact congrArg (· + weight (key, value)) (congrArg weight (Prod.ext same rfl))
          rw [if_neg before, if_pos same, held, List.map_cons, List.sum_cons, List.map_cons, List.sum_cons, Option.getD_some, joined]
          omega
        · have further : lookup key (first :: rest) = lookup key rest := by rw [lookup, if_neg (Ne.symm same)]
          rw [if_neg before, if_neg same, further, List.map_cons, List.sum_cons, List.map_cons, List.sum_cons, ih others]
          omega

end SortedMap
