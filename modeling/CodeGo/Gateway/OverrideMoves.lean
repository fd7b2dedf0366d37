import CodeGo.Lib.Json

set_option autoImplicit false

open Json

namespace CodeGo.Gateway.Overrides

/- Moving and copying a value between two paths of a request body. Paths are given as their
   segments. A value that is read is decoded, its numbers as 64-bit floats. -/

inductive OverrideError where
  | missingSource (path : List String)
  -- a key is set in an array
  | sjson
deriving DecidableEq, Repr

section
variable (float : Rat → Rat) (data : Json) (fromPath toPath : List String)

def copyValue : Except OverrideError Json :=
  match data.get fromPath with
  | none => .error (.missingSource fromPath)
  | some source =>
      match Json.set (source.mapNumbers float) toPath data with
      | none => .error .sjson
      | some result => .ok result

def moveValue : Except OverrideError Json :=
  match copyValue float data fromPath toPath with
  | .error error => .error error
  | .ok result => .ok (result.delete fromPath)

end

-- No array is met before the end of the path.
def Open : List String → Json → Prop
  | [], _ => True
  | segment :: rest, node =>
      (match node with
        | .array _ => False
        | _ => True) ∧
      match node.child segment with
      | none => True
      | some inner => Open rest inner

def CopyDelivers (float : Rat → Rat) (data value : Json) (fromPath toPath : List String) : Prop :=
  ∃ after, copyValue float data fromPath toPath = .ok after ∧ after.get toPath = some value ∧
    ∀ other, ¬ toPath <+: other → ¬ other <+: toPath → after.get other = data.get other

def MoveDelivers (float : Rat → Rat) (data value : Json) (fromPath toPath : List String) : Prop :=
  ∃ after, moveValue float data fromPath toPath = .ok after ∧ after.get toPath = some value ∧
    (¬ toPath <+: fromPath → after.get fromPath = none) ∧
    ∀ other, ¬ toPath <+: other → ¬ other <+: toPath → ¬ fromPath <+: other → ¬ other <+: fromPath → after.get other = data.get other

theorem set_new (value : Json) (path : List String) (keys : Keys path) : ∃ after, Json.set value path .null = some after := by
  induction path with
  | nil => exact ⟨value, rfl⟩
  | cons segment rest ih =>
      obtain ⟨key, others⟩ := List.forall_mem_cons.mp keys
      obtain ⟨inner, written⟩ := ih others
      exact ⟨.object (.cons segment inner .nil), by simp [Json.set, child, written, key]⟩

theorem set_open (value : Json) (path : List String) (node : Json) (keys : Keys path) (opened : Open path node) :
    ∃ after, Json.set value path node = some after := by
  induction path generalizing node with
  | nil => exact ⟨value, rfl⟩
  | cons segment rest ih =>
      obtain ⟨key, others⟩ := List.forall_mem_cons.mp keys
      obtain ⟨kind, deeper⟩ := opened
      have below : ∃ inner, Json.set value rest ((node.child segment).getD .null) = some inner := by
        cases found : node.child segment with
        | none => exact set_new value rest others
        | some inner =>
            rw [found] at deeper
            exact ih inner others deeper
      obtain ⟨inner, written⟩ := below
      cases node with
      | array items => exact absurd kind id
      | object entries => exact ⟨.object (entries.put segment inner), by rw [Json.set, written]; rfl⟩
      | null => exact ⟨.object (.cons segment inner .nil), by simp [Json.set, written, key]⟩
      | bool value => exact ⟨.object (.cons segment inner .nil), by simp [Json.set, written, key]⟩
      | number value => exact ⟨.object (.cons segment inner .nil), by simp [Json.set, written, key]⟩
      | string text => exact ⟨.object (.cons segment inner .nil), by simp [Json.set, written, key]⟩

section
variable {float : Rat → Rat} {data value : Json} {fromPath toPath : List String}

theorem copied (found : data.get fromPath = some value) (keys : Keys toPath) (opened : Open toPath data) :
    ∃ after, Json.set (value.mapNumbers float) toPath data = some after ∧ copyValue float data fromPath toPath = .ok after ∧
      moveValue float data fromPath toPath = .ok (after.delete fromPath) := by
  obtain ⟨after, written⟩ := set_open (value.mapNumbers float) toPath data keys opened
  have copy : copyValue float data fromPath toPath = .ok after := by simp only [copyValue, found, written]
  exact ⟨after, written, copy, by simp only [moveValue, copy]⟩

-- Deleting below the place written to takes part of the value away, unless there is nothing at that place in it.
theorem unwrapped (rest : List String) (keys : Keys rest) (nonempty : rest ≠ []) :
    (value.mapNumbers float).delete rest = value ↔ value.mapNumbers float = value ∧ value.get rest = none := by
  have same := get_map float rest value
  cases found : value.get rest with
  | none =>
      rw [found] at same
      rw [delete_missing rest _ keys same]
      exact ⟨fun equal => ⟨equal, rfl⟩, fun both => both.1⟩
  | some inner =>
      rw [found] at same
      have smaller := delete_smaller rest _ _ keys nonempty same
      rw [size_map] at smaller
      constructor
      · intro equal
        rw [equal] at smaller
        exact absurd smaller (Nat.lt_irrefl _)
      · intro both
        cases both.2

theorem copy_delivers (found : data.get fromPath = some value) (keys : Keys toPath) (opened : Open toPath data) :
    CopyDelivers float data value fromPath toPath ↔ value.mapNumbers float = value := by
  obtain ⟨after, written, copy, _⟩ := copied found keys opened
  have stored := get_set _ toPath data after written
  constructor
  · intro delivers
    obtain ⟨again, success, read, _⟩ := delivers
    rw [copy] at success
    rw [← Except.ok.inj success, stored] at read
    exact Option.some.inj read
  · intro exact_
    refine ⟨after, copy, by rw [stored, exact_], ?_⟩
    intro other notUnder notAbove
    exact get_set_apart _ toPath other data after keys written notUnder notAbove

theorem move_delivers (distinct : data.Distinct) (found : data.get fromPath = some value) (keys : Keys fromPath) (toKeys : Keys toPath)
    (nonempty : fromPath ≠ []) (outside : ¬ (fromPath <+: toPath ∧ fromPath ≠ toPath)) (opened : Open toPath data) :
    MoveDelivers float data value fromPath toPath ↔ value.mapNumbers float = value ∧ fromPath ≠ toPath ∧
      ∀ rest, rest ≠ [] → fromPath = toPath ++ rest → value.get rest = none := by
  obtain ⟨middle, written, _, moved⟩ := copied found toKeys opened
  have stored := get_set _ toPath data middle written
  have own := get_distinct fromPath data value distinct found
  have middleDistinct := set_distinct _ toPath data middle toKeys (distinct_map float value own) distinct written
  have gone := get_delete fromPath middle keys nonempty middleDistinct
  have others : ∀ other, ¬ toPath <+: other → ¬ other <+: toPath → ¬ fromPath <+: other → ¬ other <+: fromPath →
      (middle.delete fromPath).get other = data.get other := by
    intro other notUnder notAbove notUnderFrom notAboveFrom
    rw [get_delete_apart fromPath other middle keys notUnderFrom notAboveFrom]
    exact get_set_apart _ toPath other data middle toKeys written notUnder notAbove
  have delivers : MoveDelivers float data value fromPath toPath ↔ (middle.delete fromPath).get toPath = some value := by
    constructor
    · intro delivered
      obtain ⟨after, success, read, _⟩ := delivered
      rw [moved] at success
      rw [Except.ok.inj success]
      exact read
    · intro read
      exact ⟨_, moved, read, fun _ => gone, others⟩
  rw [delivers]
  by_cases above : toPath <+: fromPath
  · obtain ⟨rest, rfl⟩ := above
    by_cases whole : rest = []
    · subst whole
      rw [List.append_nil] at gone ⊢
      rw [gone]
      constructor
      · intro none
        cases none
      · intro conditions
        exact absurd rfl conditions.2.1
    · have restKeys : Keys rest := fun segment member => keys segment (List.mem_append_right _ member)
      have different : toPath ++ rest ≠ toPath := fun same => whole (List.append_right_eq_self.mp same)
      rw [get_delete_below toPath rest middle toKeys whole, stored, Option.map_some, Option.some.injEq, unwrapped rest restKeys whole]
      constructor
      · intro both
        refine ⟨both.1, different, ?_⟩
        intro other _ same
        rw [← List.append_cancel_left same]
        exact both.2
      · intro conditions
        exact ⟨conditions.1, conditions.2.2 rest whole rfl⟩
  · have below : ¬ fromPath <+: toPath := by
      intro inside
      by_cases same : fromPath = toPath
      · exact above (same ▸ List.prefix_refl _)
      · exact outside ⟨inside, same⟩
    rw [get_delete_apart fromPath toPath middle keys below above, stored, Option.some.injEq]
    constructor
    · intro same
      refine ⟨same, fun equal => above (equal ▸ List.prefix_refl _), ?_⟩
      intro rest _ equal
      exact absurd ⟨rest, equal.symm⟩ above
    · intro conditions
      exact conditions.1

end

section

def nested : Json := .object (.cons "a" (.object (.cons "b" (.object (.cons "b" (.number 1) .nil)) .nil)) .nil)

end

end CodeGo.Gateway.Overrides
