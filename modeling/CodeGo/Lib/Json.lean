import Mathlib.Data.List.Infix
import Mathlib.Data.Rat.Defs
import Mathlib.Algebra.Order.Ring.Rat

set_option autoImplicit false

/- JSON documents as trees, and the reading, writing and deleting of the node at a path. A
   number is its value. The entries of an object are listed in any order, which has no meaning. -/

mutual
inductive Json where
  | null
  | bool (value : Bool)
  | number (value : Rat)
  | string (text : String)
  | array (items : JsonItems)
  | object (entries : JsonEntries)

inductive JsonItems where
  | nil
  | cons (item : Json) (rest : JsonItems)

inductive JsonEntries where
  | nil
  | cons (key : String) (value : Json) (rest : JsonEntries)
end

namespace JsonItems

def length : JsonItems → Nat
  | .nil => 0
  | .cons _ rest => rest.length + 1

def get : Nat → JsonItems → Option Json
  | _, .nil => none
  | 0, .cons item _ => some item
  | index + 1, .cons _ rest => rest.get index

-- An index behind the end is reached over nulls.
def put (value : Json) : Nat → JsonItems → JsonItems
  | 0, .nil => .cons value .nil
  | index + 1, .nil => .cons .null (put value index .nil)
  | 0, .cons _ rest => .cons value rest
  | index + 1, .cons item rest => .cons item (put value index rest)

def erase : Nat → JsonItems → JsonItems
  | _, .nil => .nil
  | 0, .cons _ rest => rest
  | index + 1, .cons item rest => .cons item (rest.erase index)

theorem get_put (value : Json) (index : Nat) (items : JsonItems) : (items.put value index).get index = some value := by
  match index, items with
  | 0, .nil => rfl
  | index + 1, .nil => exact get_put value index .nil
  | 0, .cons item rest => rfl
  | index + 1, .cons item rest => exact get_put value index rest

theorem put_get (value : Json) (index : Nat) (items : JsonItems) (found : items.get index = some value) : items.put value index = items := by
  match index, items with
  | 0, .nil => cases found
  | index + 1, .nil => cases found
  | 0, .cons item rest => rw [put, Option.some.inj found]
  | index + 1, .cons item rest => rw [put, put_get value index rest found]

end JsonItems

namespace JsonEntries

def get (key : String) : JsonEntries → Option Json
  | .nil => none
  | .cons name value rest => if name = key then some value else rest.get key

def put (key : String) (value : Json) : JsonEntries → JsonEntries
  | .nil => .cons key value .nil
  | .cons name old rest => if name = key then .cons name value rest else .cons name old (rest.put key value)

def erase (key : String) : JsonEntries → JsonEntries
  | .nil => .nil
  | .cons name value rest => if name = key then rest else .cons name value (rest.erase key)

def keys : JsonEntries → List String
  | .nil => []
  | .cons name _ rest => name :: rest.keys

theorem get_none (key : String) (entries : JsonEntries) : entries.get key = none ↔ key ∉ entries.keys := by
  match entries with
  | .nil => simp [get, keys]
  | .cons name value rest =>
      have later := get_none key rest
      rw [get, keys, List.mem_cons, not_or]
      by_cases same : name = key
      · simp [same]
      · rw [if_neg same, later]
        simp [Ne.symm same]

theorem get_put (key other : String) (value : Json) (entries : JsonEntries) :
    (entries.put key value).get other = if key = other then some value else entries.get other := by
  match entries with
  | .nil => simp [put, get]
  | .cons name old rest =>
      have later := get_put key other value rest
      rw [put]
      by_cases here : name = key
      · rw [if_pos here, get, get, here]
        by_cases same : key = other
        · rw [if_pos same, if_pos same]
        · rw [if_neg same, if_neg same, if_neg same]
      · rw [if_neg here, get, get, later]
        by_cases same : name = other
        · have different : key ≠ other := by
            intro equal
            exact here (same.trans equal.symm)
          rw [if_pos same, if_neg different, if_pos same]
        · rw [if_neg same, if_neg same]

theorem keys_put (key : String) (value : Json) (entries : JsonEntries) :
    (entries.put key value).keys = if key ∈ entries.keys then entries.keys else entries.keys ++ [key] := by
  match entries with
  | .nil => rfl
  | .cons name old rest =>
      have later := keys_put key value rest
      rw [put]
      by_cases here : name = key
      · simp [here, keys]
      · rw [if_neg here, keys, later, keys]
        by_cases member : key ∈ rest.keys
        · simp [member]
        · simp [member, Ne.symm here]

theorem put_distinct (key : String) (value : Json) (entries : JsonEntries) (distinct : entries.keys.Nodup) : (entries.put key value).keys.Nodup := by
  rw [keys_put]
  by_cases member : key ∈ entries.keys
  · rw [if_pos member]
    exact distinct
  · rw [if_neg member, List.nodup_append]
    refine ⟨distinct, by simp, ?_⟩
    intro name inside other single
    rw [List.mem_singleton.mp single]
    intro same
    exact member (same ▸ inside)

theorem erase_other (key other : String) (entries : JsonEntries) (different : key ≠ other) : (entries.erase key).get other = entries.get other := by
  match entries with
  | .nil => rfl
  | .cons name value rest =>
      have later := erase_other key other rest different
      rw [erase]
      by_cases here : name = key
      · rw [if_pos here, get, here, if_neg different]
      · rw [if_neg here, get, get, later]

theorem erase_same (key : String) (entries : JsonEntries) (distinct : entries.keys.Nodup) : (entries.erase key).get key = none := by
  match entries with
  | .nil => rfl
  | .cons name value rest =>
      obtain ⟨fresh, apart⟩ := List.nodup_cons.mp distinct
      have later := erase_same key rest apart
      rw [erase]
      by_cases here : name = key
      · rw [if_pos here, get_none]
        exact here ▸ fresh
      · rw [if_neg here, get, if_neg here, later]

end JsonEntries

namespace Json

-- A segment that counts the items of an array.
def indexOf (segment : String) : Option Nat :=
  if segment ≠ "" ∧ segment.toList.all Char.isDigit = true then some (Nat.ofDigitChars 10 segment.toList 0) else none

def child (segment : String) : Json → Option Json
  | .object entries => entries.get segment
  | .array items => (indexOf segment).bind fun index => items.get index
  | _ => none

def get : List String → Json → Option Json
  | [], node => some node
  | segment :: rest, node => (node.child segment).bind (get rest)

-- What stands in the way is replaced by an object or, for an index, an array; a key cannot be set in an array.
def set (value : Json) : List String → Json → Option Json
  | [], _ => some value
  | segment :: rest, node =>
      (set value rest ((node.child segment).getD .null)).bind fun inner =>
        match node with
        | .object entries => some (.object (entries.put segment inner))
        | .array items => (indexOf segment).map fun index => .array (items.put inner index)
        | _ =>
            match indexOf segment with
            | none => some (.object (.cons segment inner .nil))
            | some index => some (.array (JsonItems.nil.put inner index))

def delete : List String → Json → Json
  | [], node => node
  | [segment], node =>
      match node with
      | .object entries => .object (entries.erase segment)
      | .array items =>
          match indexOf segment with
          | some index => .array (items.erase index)
          | none => .array items
      | leaf => leaf
  | segment :: next :: rest, node =>
      match node.child segment with
      | none => node
      | some inner =>
          match node with
          | .object entries => .object (entries.put segment (delete (next :: rest) inner))
          | .array items =>
              match indexOf segment with
              | some index => .array (items.put (delete (next :: rest) inner) index)
              | none => .array items
          | leaf => leaf

/- Writing. -/

def Keys (path : List String) : Prop := ∀ segment ∈ path, indexOf segment = none

-- One level of a write.
theorem set_child (value : Json) (segment : String) (rest : List String) (node after : Json) (key : indexOf segment = none)
    (written : set value (segment :: rest) node = some after) :
    ∃ inner, set value rest ((node.child segment).getD .null) = some inner ∧
      ∀ other, after.child other = if segment = other then some inner else node.child other := by
  rw [set] at written
  obtain ⟨inner, deeper, built⟩ := Option.bind_eq_some_iff.mp written
  refine ⟨inner, deeper, ?_⟩
  intro other
  cases node with
  | object entries =>
      rw [← Option.some.inj built]
      exact JsonEntries.get_put segment other inner entries
  | array items =>
      rw [key] at built
      cases built
  | null =>
      simp only [key] at built
      rw [← Option.some.inj built]
      rfl
  | bool value =>
      simp only [key] at built
      rw [← Option.some.inj built]
      rfl
  | number value =>
      simp only [key] at built
      rw [← Option.some.inj built]
      rfl
  | string text =>
      simp only [key] at built
      rw [← Option.some.inj built]
      rfl

theorem get_set (value : Json) (path : List String) (node after : Json) (written : set value path node = some after) :
    get path after = some value := by
  induction path generalizing node after with
  | nil =>
      rw [set] at written
      rw [get, ← Option.some.inj written]
  | cons segment rest ih =>
      rw [set] at written
      obtain ⟨inner, deeper, built⟩ := Option.bind_eq_some_iff.mp written
      have below := ih _ inner deeper
      have reached : after.child segment = some inner := by
        have listed (items : JsonItems) (index : Nat) (counted : indexOf segment = some index) :
            (Json.array (items.put inner index)).child segment = some inner := by
          simp [child, counted, JsonItems.get_put]
        have keyed (key : indexOf segment = none) (leaf : (match indexOf segment with
            | none => some (Json.object (.cons segment inner .nil))
            | some index => some (.array (JsonItems.nil.put inner index))) = some after) : after.child segment = some inner := by
          simp only [key] at leaf
          rw [← Option.some.inj leaf]
          simp [child, JsonEntries.get]
        cases counted : indexOf segment with
        | none =>
            cases node with
            | object entries =>
                rw [← Option.some.inj built, child, JsonEntries.get_put, if_pos rfl]
            | array items =>
                rw [counted] at built
                cases built
            | null => exact keyed counted built
            | bool value => exact keyed counted built
            | number value => exact keyed counted built
            | string text => exact keyed counted built
        | some index =>
            simp only [counted] at built
            cases node with
            | object entries =>
                rw [← Option.some.inj built, child, JsonEntries.get_put, if_pos rfl]
            | array items =>
                rw [← Option.some.inj built]
                exact listed items index counted
            | null =>
                rw [← Option.some.inj built]
                exact listed .nil index counted
            | bool value =>
                rw [← Option.some.inj built]
                exact listed .nil index counted
            | number value =>
                rw [← Option.some.inj built]
                exact listed .nil index counted
            | string text =>
                rw [← Option.some.inj built]
                exact listed .nil index counted
      rw [get, reached]
      exact below

theorem get_set_apart (value : Json) (path other : List String) (node after : Json) (keys : Keys path)
    (written : set value path node = some after) (notUnder : ¬ path <+: other) (notAbove : ¬ other <+: path) :
    get other after = get other node := by
  induction path generalizing node after other with
  | nil => exact absurd List.nil_prefix notUnder
  | cons segment rest ih =>
      obtain ⟨key, others⟩ := List.forall_mem_cons.mp keys
      obtain ⟨inner, deeper, children⟩ := set_child value segment rest node after key written
      cases other with
      | nil => exact absurd List.nil_prefix notAbove
      | cons first tail =>
          rw [get, get, children first]
          by_cases same : segment = first
          · subst same
            have under : ¬ rest <+: tail := fun inside => notUnder (List.cons_prefix_cons.mpr ⟨rfl, inside⟩)
            have above : ¬ tail <+: rest := fun inside => notAbove (List.cons_prefix_cons.mpr ⟨rfl, inside⟩)
            rw [if_pos rfl, Option.bind_some, ih tail _ inner others deeper under above]
            cases found : node.child segment with
            | some child => rfl
            | none =>
                cases tail with
                | nil => exact absurd List.nil_prefix above
                | cons next more => rfl
          · rw [if_neg same]

/- Trees whose objects name each key once. -/

mutual
def Distinct : Json → Prop
  | .array items => DistinctItems items
  | .object entries => entries.keys.Nodup ∧ DistinctEntries entries
  | _ => True

def DistinctItems : JsonItems → Prop
  | .nil => True
  | .cons item rest => Distinct item ∧ DistinctItems rest

def DistinctEntries : JsonEntries → Prop
  | .nil => True
  | .cons _ value rest => Distinct value ∧ DistinctEntries rest
end

theorem distinct_get (key : String) (entries : JsonEntries) (value : Json) (distinct : DistinctEntries entries)
    (found : entries.get key = some value) : value.Distinct := by
  match entries with
  | .nil => cases found
  | .cons name first rest =>
      rw [JsonEntries.get] at found
      by_cases here : name = key
      · rw [if_pos here] at found
        rw [← Option.some.inj found]
        exact distinct.1
      · rw [if_neg here] at found
        exact distinct_get key rest value distinct.2 found

theorem distinct_item (index : Nat) (items : JsonItems) (value : Json) (distinct : DistinctItems items)
    (found : items.get index = some value) : value.Distinct := by
  match index, items with
  | 0, .nil => cases found
  | index + 1, .nil => cases found
  | 0, .cons item rest =>
      rw [← Option.some.inj found]
      exact distinct.1
  | index + 1, .cons item rest => exact distinct_item index rest value distinct.2 found

theorem distinct_child (segment : String) (node inner : Json) (distinct : node.Distinct) (found : node.child segment = some inner) :
    inner.Distinct := by
  cases node with
  | object entries => exact distinct_get segment entries inner distinct.2 found
  | array items =>
      obtain ⟨index, _, here⟩ := Option.bind_eq_some_iff.mp found
      exact distinct_item index items inner distinct here
  | null => cases found
  | bool value => cases found
  | number value => cases found
  | string text => cases found

theorem get_distinct (path : List String) (node inner : Json) (distinct : node.Distinct) (found : get path node = some inner) : inner.Distinct := by
  induction path generalizing node with
  | nil => exact Option.some.inj found ▸ distinct
  | cons segment rest ih =>
      obtain ⟨next, here, deeper⟩ := Option.bind_eq_some_iff.mp found
      exact ih next (distinct_child segment node next distinct here) deeper

theorem put_distinct_entries (key : String) (value : Json) (entries : JsonEntries) (distinct : DistinctEntries entries) (own : value.Distinct) :
    DistinctEntries (entries.put key value) := by
  match entries with
  | .nil => exact ⟨own, trivial⟩
  | .cons name old rest =>
      rw [JsonEntries.put]
      by_cases here : name = key
      · rw [if_pos here]
        exact ⟨own, distinct.2⟩
      · rw [if_neg here]
        exact ⟨distinct.1, put_distinct_entries key value rest distinct.2 own⟩

theorem set_distinct (value : Json) (path : List String) (node after : Json) (keys : Keys path) (own : value.Distinct) (distinct : node.Distinct)
    (written : set value path node = some after) : after.Distinct := by
  induction path generalizing node after with
  | nil =>
      rw [set] at written
      rw [← Option.some.inj written]
      exact own
  | cons segment rest ih =>
      obtain ⟨key, others⟩ := List.forall_mem_cons.mp keys
      rw [set] at written
      obtain ⟨inner, deeper, built⟩ := Option.bind_eq_some_iff.mp written
      have innerDistinct : inner.Distinct := by
        apply ih _ inner others _ deeper
        cases found : node.child segment with
        | none => trivial
        | some child => exact distinct_child segment node child distinct found
      have single : (Json.object (.cons segment inner .nil)).Distinct := ⟨by simp [JsonEntries.keys], innerDistinct, trivial⟩
      cases node with
      | object entries =>
          rw [← Option.some.inj built]
          exact ⟨JsonEntries.put_distinct segment inner entries distinct.1, put_distinct_entries segment inner entries distinct.2 innerDistinct⟩
      | array items =>
          rw [key] at built
          cases built
      | null =>
          simp only [key] at built
          rw [← Option.some.inj built]
          exact single
      | bool value =>
          simp only [key] at built
          rw [← Option.some.inj built]
          exact single
      | number value =>
          simp only [key] at built
          rw [← Option.some.inj built]
          exact single
      | string text =>
          simp only [key] at built
          rw [← Option.some.inj built]
          exact single

/- Deleting. -/

theorem delete_last_other (segment : String) (node : Json) (key : indexOf segment = none) (other : String) (different : segment ≠ other) :
    (delete [segment] node).child other = node.child other := by
  cases node with
  | object entries => exact JsonEntries.erase_other segment other entries different
  | array items => simp [delete, key]
  | null => rfl
  | bool value => rfl
  | number value => rfl
  | string text => rfl

theorem delete_last_same (segment : String) (node : Json) (key : indexOf segment = none) (distinct : node.Distinct) :
    (delete [segment] node).child segment = none := by
  cases node with
  | object entries => exact JsonEntries.erase_same segment entries distinct.1
  | array items => simp [delete, child, key]
  | null => rfl
  | bool value => rfl
  | number value => rfl
  | string text => rfl

-- One level of a deletion further down.
theorem delete_inner_child (segment next : String) (more : List String) (node : Json) (key : indexOf segment = none) (other : String) :
    (delete (segment :: next :: more) node).child other =
      if segment = other then (node.child segment).map (delete (next :: more)) else node.child other := by
  rw [delete]
  cases found : node.child segment with
  | none =>
      by_cases same : segment = other
      · subst same
        simp [found]
      · simp [same]
  | some inner =>
      cases node with
      | object entries => exact JsonEntries.get_put segment other (delete (next :: more) inner) entries
      | array items => simp [child, key] at found
      | null => cases found
      | bool value => cases found
      | number value => cases found
      | string text => cases found

theorem get_delete (path : List String) (node : Json) (keys : Keys path) (nonempty : path ≠ []) (distinct : node.Distinct) :
    get path (delete path node) = none := by
  induction path generalizing node with
  | nil => exact absurd rfl nonempty
  | cons segment rest ih =>
      obtain ⟨key, others⟩ := List.forall_mem_cons.mp keys
      cases rest with
      | nil => rw [get, delete_last_same segment node key distinct, Option.bind_none]
      | cons next more =>
          rw [get, delete_inner_child segment next more node key, if_pos rfl]
          cases found : node.child segment with
          | none => rfl
          | some inner => exact ih inner others (by simp) (distinct_child segment node inner distinct found)

theorem get_delete_apart (path other : List String) (node : Json) (keys : Keys path) (notUnder : ¬ path <+: other) (notAbove : ¬ other <+: path) :
    get other (delete path node) = get other node := by
  induction path generalizing node other with
  | nil => exact absurd List.nil_prefix notUnder
  | cons segment rest ih =>
      obtain ⟨key, others⟩ := List.forall_mem_cons.mp keys
      cases other with
      | nil => exact absurd List.nil_prefix notAbove
      | cons first tail =>
          rw [get, get]
          by_cases same : segment = first
          · subst same
            have under : ¬ rest <+: tail := fun inside => notUnder (List.cons_prefix_cons.mpr ⟨rfl, inside⟩)
            have above : ¬ tail <+: rest := fun inside => notAbove (List.cons_prefix_cons.mpr ⟨rfl, inside⟩)
            cases rest with
            | nil => exact absurd List.nil_prefix under
            | cons next more =>
                rw [delete_inner_child segment next more node key, if_pos rfl]
                cases found : node.child segment with
                | none => rfl
                | some inner => exact ih tail inner others under above
          · cases rest with
            | nil => rw [delete_last_other segment node key first same]
            | cons next more => rw [delete_inner_child segment next more node key, if_neg same]

-- Above the path of a deletion stands what was there, with the rest of the path deleted in it.
theorem get_delete_below (front rest : List String) (node : Json) (keys : Keys front) (nonempty : rest ≠ []) :
    get front (delete (front ++ rest) node) = (get front node).map (delete rest) := by
  induction front generalizing node with
  | nil => rfl
  | cons segment front ih =>
      obtain ⟨key, others⟩ := List.forall_mem_cons.mp keys
      rw [List.cons_append, get, get]
      cases tail : front ++ rest with
      | nil => exact absurd (List.append_eq_nil_iff.mp tail).2 nonempty
      | cons next more =>
          rw [delete_inner_child segment next more node key, if_pos rfl]
          cases found : node.child segment with
          | none => rfl
          | some inner =>
              have deeper := ih inner others
              rw [tail] at deeper
              exact deeper

/- A deletion makes a tree smaller, or there was nothing to delete. -/

mutual
def size : Json → Nat
  | .array items => sizeItems items + 1
  | .object entries => sizeEntries entries + 1
  | _ => 1

def sizeItems : JsonItems → Nat
  | .nil => 0
  | .cons item rest => size item + sizeItems rest

def sizeEntries : JsonEntries → Nat
  | .nil => 0
  | .cons _ value rest => size value + sizeEntries rest + 1
end

theorem erase_missing (key : String) (entries : JsonEntries) (missing : entries.get key = none) : entries.erase key = entries := by
  match entries with
  | .nil => rfl
  | .cons name value rest =>
      rw [JsonEntries.get] at missing
      by_cases here : name = key
      · rw [if_pos here] at missing
        cases missing
      · rw [if_neg here] at missing
        rw [JsonEntries.erase, if_neg here, erase_missing key rest missing]

theorem put_same (key : String) (value : Json) (entries : JsonEntries) (found : entries.get key = some value) : entries.put key value = entries := by
  match entries with
  | .nil => cases found
  | .cons name old rest =>
      rw [JsonEntries.get] at found
      rw [JsonEntries.put]
      by_cases here : name = key
      · rw [if_pos here] at found ⊢
        rw [Option.some.inj found]
      · rw [if_neg here] at found ⊢
        rw [put_same key value rest found]

theorem erase_smaller (key : String) (value : Json) (entries : JsonEntries) (found : entries.get key = some value) :
    sizeEntries (entries.erase key) < sizeEntries entries := by
  match entries with
  | .nil => cases found
  | .cons name old rest =>
      rw [JsonEntries.get] at found
      rw [JsonEntries.erase]
      by_cases here : name = key
      · rw [if_pos here, sizeEntries]
        omega
      · rw [if_neg here] at found ⊢
        have later := erase_smaller key value rest found
        rw [sizeEntries, sizeEntries]
        omega

theorem put_smaller (key : String) (value old : Json) (entries : JsonEntries) (found : entries.get key = some old) (smaller : value.size < old.size) :
    sizeEntries (entries.put key value) < sizeEntries entries := by
  match entries with
  | .nil => cases found
  | .cons name first rest =>
      rw [JsonEntries.get] at found
      rw [JsonEntries.put]
      by_cases here : name = key
      · rw [if_pos here] at found ⊢
        rw [sizeEntries, sizeEntries, Option.some.inj found]
        omega
      · rw [if_neg here] at found ⊢
        have later := put_smaller key value old rest found smaller
        rw [sizeEntries, sizeEntries]
        omega

theorem delete_missing (path : List String) (node : Json) (keys : Keys path) (missing : get path node = none) : delete path node = node := by
  induction path generalizing node with
  | nil => cases missing
  | cons segment rest ih =>
      obtain ⟨key, others⟩ := List.forall_mem_cons.mp keys
      rw [get] at missing
      cases rest with
      | nil =>
          cases node with
          | object entries =>
              have absent : entries.get segment = none := by
                cases found : entries.get segment with
                | none => rfl
                | some value => simp [child, found, get] at missing
              rw [delete, erase_missing segment entries absent]
          | array items => simp [delete, key]
          | null => rfl
          | bool value => rfl
          | number value => rfl
          | string text => rfl
      | cons next more =>
          rw [delete]
          cases found : node.child segment with
          | none => rfl
          | some inner =>
              rw [found, Option.bind_some] at missing
              have same := ih inner others missing
              cases node with
              | object entries =>
                  simp only [same]
                  rw [put_same segment inner entries found]
              | array items => simp [key]
              | null => rfl
              | bool value => rfl
              | number value => rfl
              | string text => rfl

theorem delete_smaller (path : List String) (node value : Json) (keys : Keys path) (nonempty : path ≠ []) (found : get path node = some value) :
    (delete path node).size < node.size := by
  induction path generalizing node with
  | nil => exact absurd rfl nonempty
  | cons segment rest ih =>
      obtain ⟨key, others⟩ := List.forall_mem_cons.mp keys
      rw [get] at found
      obtain ⟨inner, here, deeper⟩ := Option.bind_eq_some_iff.mp found
      cases node with
      | object entries =>
          cases rest with
          | nil =>
              have smaller := erase_smaller segment inner entries here
              rw [delete, size, size]
              omega
          | cons next more =>
              have smaller := put_smaller segment _ inner entries here (ih inner others (by simp) deeper)
              rw [delete, here]
              simp only [size]
              omega
      | array items => simp [child, key] at here
      | null => cases here
      | bool value => cases here
      | number value => cases here
      | string text => cases here

-- Writing what is there changes nothing.
theorem set_same (value : Json) (path : List String) (node : Json) (found : get path node = some value) : set value path node = some node := by
  induction path generalizing node with
  | nil =>
      rw [set, Option.some.inj found]
  | cons segment rest ih =>
      rw [get] at found
      obtain ⟨inner, here, deeper⟩ := Option.bind_eq_some_iff.mp found
      rw [set, here, Option.getD_some, ih inner deeper, Option.bind_some]
      cases node with
      | object entries =>
          simp only
          rw [put_same segment inner entries here]
      | array items =>
          obtain ⟨index, counted, item⟩ := Option.bind_eq_some_iff.mp here
          simp only [counted, Option.map_some]
          rw [JsonItems.put_get inner index items item]
      | null => cases here
      | bool value => cases here
      | number value => cases here
      | string text => cases here

-- What is there can be written over.
theorem set_found (value old : Json) (path : List String) (node : Json) (found : get path node = some old) : ∃ after, set value path node = some after := by
  induction path generalizing node with
  | nil => exact ⟨value, rfl⟩
  | cons segment rest ih =>
      rw [get] at found
      obtain ⟨inner, here, deeper⟩ := Option.bind_eq_some_iff.mp found
      obtain ⟨below, written⟩ := ih inner deeper
      rw [set, here, Option.getD_some, written, Option.bind_some]
      cases node with
      | object entries => exact ⟨_, rfl⟩
      | array items =>
          obtain ⟨index, counted, item⟩ := Option.bind_eq_some_iff.mp here
          exact ⟨.array (items.put below index), by simp only [counted, Option.map_some]⟩
      | null => cases here
      | bool value => cases here
      | number value => cases here
      | string text => cases here

/- Numbers read in another precision. -/

mutual
def mapNumbers (read : Rat → Rat) : Json → Json
  | .number value => .number (read value)
  | .array items => .array (mapItems read items)
  | .object entries => .object (mapEntries read entries)
  | .null => .null
  | .bool value => .bool value
  | .string text => .string text

def mapItems (read : Rat → Rat) : JsonItems → JsonItems
  | .nil => .nil
  | .cons item rest => .cons (mapNumbers read item) (mapItems read rest)

def mapEntries (read : Rat → Rat) : JsonEntries → JsonEntries
  | .nil => .nil
  | .cons key value rest => .cons key (mapNumbers read value) (mapEntries read rest)
end

theorem get_map_entries (read : Rat → Rat) (key : String) (entries : JsonEntries) :
    (mapEntries read entries).get key = (entries.get key).map (mapNumbers read) := by
  match entries with
  | .nil => rfl
  | .cons name value rest =>
      have later := get_map_entries read key rest
      rw [mapEntries, JsonEntries.get, JsonEntries.get, later]
      split <;> rfl

theorem get_map_items (read : Rat → Rat) (index : Nat) (items : JsonItems) :
    (mapItems read items).get index = (items.get index).map (mapNumbers read) := by
  match index, items with
  | 0, .nil => rfl
  | index + 1, .nil => rfl
  | 0, .cons item rest => rfl
  | index + 1, .cons item rest => exact get_map_items read index rest

theorem child_map (read : Rat → Rat) (segment : String) (node : Json) :
    (mapNumbers read node).child segment = (node.child segment).map (mapNumbers read) := by
  cases node with
  | object entries => exact get_map_entries read segment entries
  | array items =>
      rw [mapNumbers, child, child]
      cases indexOf segment with
      | none => rfl
      | some index => exact get_map_items read index items
  | null => rfl
  | bool value => rfl
  | number value => rfl
  | string text => rfl

theorem get_map (read : Rat → Rat) (path : List String) (node : Json) : get path (mapNumbers read node) = (get path node).map (mapNumbers read) := by
  induction path generalizing node with
  | nil => rfl
  | cons segment rest ih =>
      rw [get, get, child_map]
      cases node.child segment with
      | none => rfl
      | some inner => exact ih inner

mutual
theorem size_map (read : Rat → Rat) : (node : Json) → (mapNumbers read node).size = node.size
  | .array items => by rw [mapNumbers, size, size, size_map_items read items]
  | .object entries => by rw [mapNumbers, size, size, size_map_entries read entries]
  | .null => rfl
  | .bool _ => rfl
  | .number _ => rfl
  | .string _ => rfl

theorem size_map_items (read : Rat → Rat) : (items : JsonItems) → sizeItems (mapItems read items) = sizeItems items
  | .nil => rfl
  | .cons item rest => by rw [mapItems, sizeItems, sizeItems, size_map read item, size_map_items read rest]

theorem size_map_entries (read : Rat → Rat) : (entries : JsonEntries) → sizeEntries (mapEntries read entries) = sizeEntries entries
  | .nil => rfl
  | .cons _ value rest => by rw [mapEntries, sizeEntries, sizeEntries, size_map read value, size_map_entries read rest]
end

theorem keys_map (read : Rat → Rat) (entries : JsonEntries) : (mapEntries read entries).keys = entries.keys := by
  match entries with
  | .nil => rfl
  | .cons name value rest => rw [mapEntries, JsonEntries.keys, JsonEntries.keys, keys_map read rest]

mutual
theorem distinct_map (read : Rat → Rat) : (node : Json) → node.Distinct → (mapNumbers read node).Distinct
  | .array items, distinct => distinct_map_items read items distinct
  | .object entries, distinct => ⟨by rw [keys_map]; exact distinct.1, distinct_map_entries read entries distinct.2⟩
  | .null, _ => trivial
  | .bool _, _ => trivial
  | .number _, _ => trivial
  | .string _, _ => trivial

theorem distinct_map_items (read : Rat → Rat) : (items : JsonItems) → DistinctItems items → DistinctItems (mapItems read items)
  | .nil, _ => trivial
  | .cons item rest, distinct => ⟨distinct_map read item distinct.1, distinct_map_items read rest distinct.2⟩

theorem distinct_map_entries (read : Rat → Rat) : (entries : JsonEntries) → DistinctEntries entries → DistinctEntries (mapEntries read entries)
  | .nil, _ => trivial
  | .cons _ value rest, distinct => ⟨distinct_map read value distinct.1, distinct_map_entries read rest distinct.2⟩
end

end Json
