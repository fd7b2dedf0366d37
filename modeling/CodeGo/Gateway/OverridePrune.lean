import CodeGo.Lib.Json
import CodeGo.Lib.Text

set_option autoImplicit false

open Json

namespace CodeGo.Gateway.Overrides

/- The prune_objects operation with a type string. Paths are given as their segments, the empty
   one stands for no path. A document is decoded with its numbers as 64-bit floats; the text of
   an error of the decoder is the decoder's. -/

section
variable (float : Rat → Except String Rat)

mutual
def decode : Json → Except String Json
  | .number value =>
      match float value with
      | .error error => .error error
      | .ok read => .ok (.number read)
  | .array items =>
      match decodeItems items with
      | .error error => .error error
      | .ok read => .ok (.array read)
  | .object entries =>
      match decodeEntries entries with
      | .error error => .error error
      | .ok read => .ok (.object read)
  | .null => .ok .null
  | .bool value => .ok (.bool value)
  | .string text => .ok (.string text)

def decodeItems : JsonItems → Except String JsonItems
  | .nil => .ok .nil
  | .cons item rest =>
      match decode item, decodeItems rest with
      | .ok read, .ok others => .ok (.cons read others)
      | .error error, _ => .error error
      | _, .error error => .error error

def decodeEntries : JsonEntries → Except String JsonEntries
  | .nil => .ok .nil
  | .cons key value rest =>
      match decode value, decodeEntries rest with
      | .ok read, .ok others => .ok (.cons key read others)
      | .error error, _ => .error error
      | _, .error error => .error error
end

end

def kind : Json → String
  | .null => "Null"
  | .bool true => "True"
  | .bool false => "False"
  | .number _ => "Number"
  | .string _ => "String"
  | .array _ => "JSON"
  | .object _ => "JSON"

-- The target of the comparison is a string.
def compareEqual (value : Json) (target : String) : Except String Bool :=
  match value with
  | .null => .ok false
  | .string text => .ok (text == target)
  | other => .error ("compare for different types, got " ++ kind other ++ " and String")

section
-- the string to match, and the value under "type" in the context of the request
variable (matchType : String) (contextType : Option Json)

def shouldPruneObject (entries : JsonEntries) : Except String Bool :=
  match (entries.get "type").or contextType with
  | none => .ok false
  | some value =>
      match compareEqual value matchType with
      | .error error => .error ("comparison failed for path type: " ++ error)
      | .ok same => .ok same

-- The result is none for an object that is dropped.
mutual
def pruneObjectsNode (isRoot : Bool) : Json → Except String (Option Json)
  | .array items =>
      match pruneItems items with
      | .error error => .error error
      | .ok result => .ok (some (.array result))
  | .object entries =>
      match shouldPruneObject matchType contextType entries with
      | .error error => .error error
      | .ok shouldDrop =>
          if shouldDrop = true ∧ isRoot = false then .ok none
          else
            match pruneEntries entries with
            | .error error => .error error
            | .ok result => .ok (some (.object result))
  | .null => .ok (some .null)
  | .bool value => .ok (some (.bool value))
  | .number value => .ok (some (.number value))
  | .string text => .ok (some (.string text))

def pruneItems : JsonItems → Except String JsonItems
  | .nil => .ok .nil
  | .cons item rest =>
      match pruneObjectsNode false item, pruneItems rest with
      | .ok (some next), .ok result => .ok (.cons next result)
      | .ok none, .ok result => .ok result
      | .error error, _ => .error error
      | _, .error error => .error error

def pruneEntries : JsonEntries → Except String JsonEntries
  | .nil => .ok .nil
  | .cons key value rest =>
      match pruneObjectsNode false value, pruneEntries rest with
      | .ok (some next), .ok result => .ok (.cons key next result)
      | .ok none, .ok result => .ok result
      | .error error, _ => .error error
      | _, .error error => .error error
end

end

section
variable (float : Rat → Except String Rat) (contextType : Option Json)

def pruneObjects (value : String) (path : List String) (data : Json) : Except String Json :=
  if Text.trimSpace value = "" then .error "prune_objects value is required"
  else
    match data.get path with
    | none => .ok data
    | some target =>
        match decode float target with
        | .error error => .error error
        | .ok node =>
            match pruneObjectsNode (Text.trimSpace value) contextType true node with
            | .error error => .error error
            | .ok cleaned =>
                match Json.set (cleaned.getD .null) path data with
                | none => .error "cannot set array element for non-numeric key"
                | some result => .ok result

end

/- The purpose: a node without the objects below it of one type. -/

def typed (matchType : String) : Json → Bool
  | .object entries =>
      match entries.get "type" with
      | some (.string text) => text == matchType
      | _ => false
  | _ => false

mutual
def strip (matchType : String) : Json → Json
  | .array items => .array (stripItems matchType items)
  | .object entries => .object (stripEntries matchType entries)
  | .null => .null
  | .bool value => .bool value
  | .number value => .number value
  | .string text => .string text

def stripItems (matchType : String) : JsonItems → JsonItems
  | .nil => .nil
  | .cons item rest => if typed matchType item then stripItems matchType rest else .cons (strip matchType item) (stripItems matchType rest)

def stripEntries (matchType : String) : JsonEntries → JsonEntries
  | .nil => .nil
  | .cons key value rest =>
      if typed matchType value then stripEntries matchType rest else .cons key (strip matchType value) (stripEntries matchType rest)
end

mutual
def Clean (matchType : String) : Json → Prop
  | .array items => CleanItems matchType items
  | .object entries => CleanEntries matchType entries
  | .null => True
  | .bool _ => True
  | .number _ => True
  | .string _ => True

def CleanItems (matchType : String) : JsonItems → Prop
  | .nil => True
  | .cons item rest => typed matchType item = false ∧ Clean matchType item ∧ CleanItems matchType rest

def CleanEntries (matchType : String) : JsonEntries → Prop
  | .nil => True
  | .cons _ value rest => typed matchType value = false ∧ Clean matchType value ∧ CleanEntries matchType rest
end

section
variable (float : Rat → Except String Rat) (contextType : Option Json)

def PruneDelivers (value : String) (path : List String) (data : Json) : Prop :=
  ∃ after, pruneObjects float contextType value path data = .ok after ∧
    (match data.get path with
      | none => after = data
      | some target => Json.set (strip value target) path data = some after) ∧
    (∀ target, after.get path = some target → Clean value target) ∧
    pruneObjects float contextType value path after = .ok after

end

/- When the comparison answers as meant: the type is a string or null, or there is none and none
   that counts in the context. -/

def Plain : Json → Prop
  | .null => True
  | .string _ => True
  | _ => False

def Answers (matchType : String) (contextType : Option Json) (isRoot : Bool) (entries : JsonEntries) : Prop :=
  (∀ value, (entries.get "type").or contextType = some value → Plain value) ∧
    (isRoot = false → entries.get "type" = none → contextType ≠ some (.string matchType))

mutual
def Comparable (matchType : String) (contextType : Option Json) (isRoot : Bool) : Json → Prop
  | .array items => ComparableItems matchType contextType items
  | .object entries => Answers matchType contextType isRoot entries ∧ ComparableEntries matchType contextType entries
  | .null => True
  | .bool _ => True
  | .number _ => True
  | .string _ => True

def ComparableItems (matchType : String) (contextType : Option Json) : JsonItems → Prop
  | .nil => True
  | .cons item rest => (typed matchType item = false → Comparable matchType contextType false item) ∧ ComparableItems matchType contextType rest

def ComparableEntries (matchType : String) (contextType : Option Json) : JsonEntries → Prop
  | .nil => True
  | .cons _ value rest =>
      (typed matchType value = false → Comparable matchType contextType false value) ∧ ComparableEntries matchType contextType rest
end

theorem typed_iff (matchType : String) (entries : JsonEntries) :
    typed matchType (.object entries) = true ↔ entries.get "type" = some (.string matchType) := by
  rw [typed]
  cases own : entries.get "type" with
  | none => simp
  | some value =>
      cases value with
      | string text => simp
      | null => simp
      | bool value => simp
      | number value => simp
      | array items => simp
      | object entries => simp

section
variable {matchType : String} {contextType : Option Json} {entries : JsonEntries}

theorem compare_plain (value : Json) (plain : Plain value) : ∃ same, compareEqual value matchType = .ok same ∧ (same = true ↔ value = .string matchType) := by
  cases value with
  | null => exact ⟨false, rfl, by simp⟩
  | string text => exact ⟨text == matchType, rfl, by simp⟩
  | bool value => exact absurd plain id
  | number value => exact absurd plain id
  | array items => exact absurd plain id
  | object entries => exact absurd plain id

theorem plain_of_compare (value : Json) (same : Bool) (answer : compareEqual value matchType = .ok same) : Plain value := by
  cases value with
  | null => trivial
  | string text => trivial
  | bool value => cases answer
  | number value => cases answer
  | array items => cases answer
  | object entries => cases answer

-- The comparison answers on a plain value, from the object or from the context.
theorem should_prune_iff (shouldDrop : Bool) :
    shouldPruneObject matchType contextType entries = .ok shouldDrop ↔
      (∀ value, (entries.get "type").or contextType = some value → Plain value) ∧
        (shouldDrop = true ↔ (entries.get "type").or contextType = some (.string matchType)) := by
  rw [shouldPruneObject]
  cases (entries.get "type").or contextType with
  | none =>
      cases shouldDrop with
      | true => simp
      | false => simp
  | some value =>
      simp only [Option.some.injEq]
      constructor
      · intro answer
        cases compared : compareEqual value matchType with
        | error error =>
            rw [compared] at answer
            cases answer
        | ok same =>
            rw [compared] at answer
            have plain := plain_of_compare value same compared
            obtain ⟨other, again, matching⟩ := @compare_plain matchType value plain
            rw [compared] at again
            rw [← Except.ok.inj answer, Except.ok.inj again]
            exact ⟨fun read equal => equal ▸ plain, matching⟩
      · intro both
        obtain ⟨same, compared, matching⟩ := @compare_plain matchType value (both.1 value rfl)
        rw [compared]
        simp only [Except.ok.injEq]
        exact Bool.eq_iff_iff.mpr (matching.trans both.2.symm)

theorem answers (isRoot : Bool) (answering : Answers matchType contextType isRoot entries)
    (kept : isRoot = false → typed matchType (.object entries) = false) :
    ∃ shouldDrop, shouldPruneObject matchType contextType entries = .ok shouldDrop ∧ ¬ (shouldDrop = true ∧ isRoot = false) := by
  obtain ⟨plain, apart⟩ := answering
  have answer : ∃ shouldDrop, shouldPruneObject matchType contextType entries = .ok shouldDrop := by
    cases found : (entries.get "type").or contextType with
    | none => exact ⟨false, by simp [should_prune_iff, found]⟩
    | some value =>
        obtain ⟨same, _, matching⟩ := @compare_plain matchType value (plain value found)
        exact ⟨same, (should_prune_iff same).mpr ⟨plain, by rw [found, Option.some.injEq]; exact matching⟩⟩
  obtain ⟨shouldDrop, success⟩ := answer
  refine ⟨shouldDrop, success, ?_⟩
  intro both
  have value := ((should_prune_iff shouldDrop).mp success).2.mp both.1
  cases found : entries.get "type" with
  | none =>
      rw [found, Option.none_or] at value
      exact apart both.2 found value
  | some own =>
      rw [found, Option.some_or] at value
      have dropped := (typed_iff matchType entries).mpr (found.trans value)
      rw [kept both.2] at dropped
      cases dropped

theorem answered (isRoot shouldDrop : Bool) (answer : shouldPruneObject matchType contextType entries = .ok shouldDrop)
    (kept : ¬ (shouldDrop = true ∧ isRoot = false)) :
    Answers matchType contextType isRoot entries ∧ (isRoot = false → typed matchType (.object entries) = false) := by
  obtain ⟨plain, drops⟩ := (should_prune_iff shouldDrop).mp answer
  refine ⟨⟨plain, ?_⟩, ?_⟩
  · intro child missing inContext
    exact kept ⟨drops.mpr (by rw [missing, inContext]; rfl), child⟩
  · intro child
    cases own : typed matchType (.object entries) with
    | false => rfl
    | true =>
        have found := (typed_iff matchType entries).mp own
        exact absurd ⟨drops.mpr (by rw [found]; rfl), child⟩ kept

-- Dropped is what is of the type, or has none of its own.
theorem dropped_type (text : String) (answer : shouldPruneObject matchType contextType entries = .ok true)
    (own : typed text (.object entries) = true) : text = matchType := by
  have value := ((should_prune_iff true).mp answer).2.mp rfl
  rw [(typed_iff text entries).mp own, Option.some_or] at value
  exact Json.string.inj (Option.some.inj value)

theorem prune_typed (node : Json) (own : typed matchType node = true) : pruneObjectsNode matchType contextType false node = .ok none := by
  cases node with
  | object entries =>
      have found := (typed_iff matchType entries).mp own
      have answer : shouldPruneObject matchType contextType entries = .ok true := by
        apply (should_prune_iff true).mpr
        rw [found, Option.some_or]
        refine ⟨?_, by simp⟩
        intro value same
        rw [← Option.some.inj same]
        trivial
      rw [pruneObjectsNode, answer]
      rfl
  | array items => cases own
  | null => cases own
  | bool value => cases own
  | number value => cases own
  | string text => cases own

end

mutual
theorem prune_comparable (matchType : String) (contextType : Option Json) (isRoot : Bool) : (node : Json) → Comparable matchType contextType isRoot node →
    (isRoot = false → typed matchType node = false) → pruneObjectsNode matchType contextType isRoot node = .ok (some (strip matchType node))
  | .array items, comparable, _ => by
      rw [pruneObjectsNode, prune_comparable_items matchType contextType items comparable]
      rfl
  | .object entries, comparable, kept => by
      obtain ⟨shouldDrop, answer, stays⟩ := answers isRoot comparable.1 kept
      rw [pruneObjectsNode, answer]
      simp only
      rw [if_neg stays, prune_comparable_entries matchType contextType entries comparable.2]
      rfl
  | .null, _, _ => rfl
  | .bool _, _, _ => rfl
  | .number _, _, _ => rfl
  | .string _, _, _ => rfl

theorem prune_comparable_items (matchType : String) (contextType : Option Json) : (items : JsonItems) → ComparableItems matchType contextType items →
    pruneItems matchType contextType items = .ok (stripItems matchType items)
  | .nil, _ => rfl
  | .cons item rest, comparable => by
      have others := prune_comparable_items matchType contextType rest comparable.2
      rw [pruneItems, stripItems, others]
      cases own : typed matchType item with
      | true =>
          rw [prune_typed item own]
          rfl
      | false =>
          rw [prune_comparable matchType contextType false item (comparable.1 own) (fun _ => own)]
          rfl

theorem prune_comparable_entries (matchType : String) (contextType : Option Json) : (entries : JsonEntries) → ComparableEntries matchType contextType entries →
    pruneEntries matchType contextType entries = .ok (stripEntries matchType entries)
  | .nil, _ => rfl
  | .cons key value rest, comparable => by
      have others := prune_comparable_entries matchType contextType rest comparable.2
      rw [pruneEntries, stripEntries, others]
      cases own : typed matchType value with
      | true =>
          rw [prune_typed value own]
          rfl
      | false =>
          rw [prune_comparable matchType contextType false value (comparable.1 own) (fun _ => own)]
          rfl
end

/- A run that leaves no object of the type has removed at least as much as it was to. -/

section
variable {matchType : String} {contextType : Option Json}

-- One turn of each loop.
theorem pruned_item (item : Json) (rest after : JsonItems) (pruned : pruneItems matchType contextType (.cons item rest) = .ok after) :
    ∃ result, pruneItems matchType contextType rest = .ok result ∧
      ((pruneObjectsNode matchType contextType false item = .ok none ∧ after = result) ∨
        ∃ next, pruneObjectsNode matchType contextType false item = .ok (some next) ∧ after = .cons next result) := by
  rw [pruneItems] at pruned
  cases node : pruneObjectsNode matchType contextType false item with
  | error error => simp [node] at pruned
  | ok next =>
      cases others : pruneItems matchType contextType rest with
      | error error => cases next <;> simp [node, others] at pruned
      | ok result =>
          rw [node, others] at pruned
          cases next with
          | none => exact ⟨result, rfl, .inl ⟨rfl, (Except.ok.inj pruned).symm⟩⟩
          | some next => exact ⟨result, rfl, .inr ⟨next, rfl, (Except.ok.inj pruned).symm⟩⟩

theorem pruned_entry (key : String) (value : Json) (rest after : JsonEntries)
    (pruned : pruneEntries matchType contextType (.cons key value rest) = .ok after) :
    ∃ result, pruneEntries matchType contextType rest = .ok result ∧
      ((pruneObjectsNode matchType contextType false value = .ok none ∧ after = result) ∨
        ∃ next, pruneObjectsNode matchType contextType false value = .ok (some next) ∧ after = .cons key next result) := by
  rw [pruneEntries] at pruned
  cases node : pruneObjectsNode matchType contextType false value with
  | error error => simp [node] at pruned
  | ok next =>
      cases others : pruneEntries matchType contextType rest with
      | error error => cases next <;> simp [node, others] at pruned
      | ok result =>
          rw [node, others] at pruned
          cases next with
          | none => exact ⟨result, rfl, .inl ⟨rfl, (Except.ok.inj pruned).symm⟩⟩
          | some next => exact ⟨result, rfl, .inr ⟨next, rfl, (Except.ok.inj pruned).symm⟩⟩

theorem pruned_text (key text : String) (entries after : JsonEntries) (pruned : pruneEntries matchType contextType entries = .ok after)
    (found : entries.get key = some (.string text)) : after.get key = some (.string text) := by
  match entries with
  | .nil => cases found
  | .cons name value rest =>
      obtain ⟨result, others, turn⟩ := pruned_entry name value rest after pruned
      rw [JsonEntries.get] at found
      by_cases here : name = key
      · rw [if_pos here] at found
        rw [Option.some.inj found] at turn
        obtain ⟨dropped, _⟩ | ⟨next, kept, rfl⟩ := turn
        · cases dropped
        · rw [JsonEntries.get, if_pos here, Option.some.inj (Except.ok.inj kept)]
      · rw [if_neg here] at found
        have later := pruned_text key text rest result others found
        obtain ⟨_, rfl⟩ | ⟨next, _, rfl⟩ := turn
        · exact later
        · rw [JsonEntries.get, if_neg here, later]

theorem dropped_object (node : Json) (text : String) (dropped : pruneObjectsNode matchType contextType false node = .ok none)
    (own : typed text node = true) : text = matchType := by
  cases node with
  | object entries =>
      rw [pruneObjectsNode] at dropped
      cases answer : shouldPruneObject matchType contextType entries with
      | error error =>
          rw [answer] at dropped
          cases dropped
      | ok shouldDrop =>
          cases shouldDrop with
          | true => exact dropped_type text answer own
          | false =>
              rw [answer] at dropped
              cases result : pruneEntries matchType contextType entries with
              | error error => simp [result] at dropped
              | ok result => simp [result] at dropped
  | array items => cases own
  | null => cases own
  | bool value => cases own
  | number value => cases own
  | string text => cases own

-- An object that is kept keeps the string that is its type.
theorem kept_object (isRoot : Bool) (entries : JsonEntries) (after : Json)
    (kept : pruneObjectsNode matchType contextType isRoot (.object entries) = .ok (some after)) :
    ∃ result, after = .object result ∧ pruneEntries matchType contextType entries = .ok result ∧
      Answers matchType contextType isRoot entries ∧ (isRoot = false → typed matchType (.object entries) = false) := by
  rw [pruneObjectsNode] at kept
  cases answer : shouldPruneObject matchType contextType entries with
  | error error =>
      rw [answer] at kept
      cases kept
  | ok shouldDrop =>
      rw [answer] at kept
      simp only at kept
      by_cases drops : shouldDrop = true ∧ isRoot = false
      · rw [if_pos drops] at kept
        cases kept
      · rw [if_neg drops] at kept
        cases pruned : pruneEntries matchType contextType entries with
        | error error =>
            rw [pruned] at kept
            cases kept
        | ok result =>
            rw [pruned] at kept
            exact ⟨result, (Option.some.inj (Except.ok.inj kept)).symm, rfl, answered isRoot shouldDrop answer drops⟩

theorem kept_typed (node after : Json) (text : String) (kept : pruneObjectsNode matchType contextType false node = .ok (some after))
    (clean : typed text after = false) : typed text node = false ∧ typed matchType node = false := by
  cases node with
  | object entries =>
      obtain ⟨result, rfl, pruned, _, other⟩ := kept_object false entries after kept
      refine ⟨?_, other rfl⟩
      cases own : typed text (.object entries) with
      | false => rfl
      | true =>
          have found := pruned_text "type" text entries result pruned ((typed_iff text entries).mp own)
          rw [(typed_iff text result).mpr found] at clean
          cases clean
  | array items => exact ⟨rfl, rfl⟩
  | null => exact ⟨rfl, rfl⟩
  | bool value => exact ⟨rfl, rfl⟩
  | number value => exact ⟨rfl, rfl⟩
  | string text => exact ⟨rfl, rfl⟩

theorem size_pos (node : Json) : 0 < node.size := by
  cases node with
  | array items => exact Nat.succ_pos _
  | object entries => exact Nat.succ_pos _
  | null => exact Nat.one_pos
  | bool value => exact Nat.one_pos
  | number value => exact Nat.one_pos
  | string text => exact Nat.one_pos

end

mutual
theorem prune_bounds (matchType text : String) (contextType : Option Json) (isRoot : Bool) : (node after : Json) →
    pruneObjectsNode matchType contextType isRoot node = .ok (some after) → Clean text after →
    after.size ≤ (strip text node).size ∧ (after.size = (strip text node).size →
      Comparable matchType contextType isRoot node ∧ after = strip matchType node ∧ strip matchType node = strip text node)
  | .array items, after, kept, clean => by
      rw [pruneObjectsNode] at kept
      cases pruned : pruneItems matchType contextType items with
      | error error =>
          rw [pruned] at kept
          cases kept
      | ok result =>
          rw [pruned] at kept
          rw [← Option.some.inj (Except.ok.inj kept)] at clean ⊢
          obtain ⟨bound, exactly⟩ := prune_bounds_items matchType text contextType items result pruned clean
          rw [strip, strip, size, size]
          refine ⟨Nat.succ_le_succ bound, ?_⟩
          intro same
          obtain ⟨comparable, removed, equal⟩ := exactly (Nat.succ.inj same)
          exact ⟨comparable, by rw [removed], by rw [equal]⟩
  | .object entries, after, kept, clean => by
      obtain ⟨result, rfl, pruned, answering, _⟩ := kept_object isRoot entries after kept
      obtain ⟨bound, exactly⟩ := prune_bounds_entries matchType text contextType entries result pruned clean
      rw [strip, strip, size, size]
      refine ⟨Nat.succ_le_succ bound, ?_⟩
      intro same
      obtain ⟨comparable, removed, equal⟩ := exactly (Nat.succ.inj same)
      exact ⟨⟨answering, comparable⟩, by rw [removed], by rw [equal]⟩
  | .null, after, kept, _ => by
      rw [← Option.some.inj (Except.ok.inj kept)]
      exact ⟨Nat.le_refl _, fun _ => ⟨trivial, rfl, rfl⟩⟩
  | .bool value, after, kept, _ => by
      rw [← Option.some.inj (Except.ok.inj kept)]
      exact ⟨Nat.le_refl _, fun _ => ⟨trivial, rfl, rfl⟩⟩
  | .number value, after, kept, _ => by
      rw [← Option.some.inj (Except.ok.inj kept)]
      exact ⟨Nat.le_refl _, fun _ => ⟨trivial, rfl, rfl⟩⟩
  | .string value, after, kept, _ => by
      rw [← Option.some.inj (Except.ok.inj kept)]
      exact ⟨Nat.le_refl _, fun _ => ⟨trivial, rfl, rfl⟩⟩

theorem prune_bounds_items (matchType text : String) (contextType : Option Json) : (items after : JsonItems) →
    pruneItems matchType contextType items = .ok after → CleanItems text after →
    sizeItems after ≤ sizeItems (stripItems text items) ∧ (sizeItems after = sizeItems (stripItems text items) →
      ComparableItems matchType contextType items ∧ after = stripItems matchType items ∧ stripItems matchType items = stripItems text items)
  | .nil, after, pruned, _ => by
      rw [← Except.ok.inj pruned]
      exact ⟨Nat.le_refl _, fun _ => ⟨trivial, rfl, rfl⟩⟩
  | .cons item rest, after, pruned, clean => by
      obtain ⟨result, others, turn⟩ := pruned_item item rest after pruned
      obtain ⟨node, rfl⟩ | ⟨next, node, rfl⟩ := turn
      · obtain ⟨bound, exactly⟩ := prune_bounds_items matchType text contextType rest after others clean
        rw [stripItems, stripItems]
        cases own : typed text item with
        | true =>
            have same := dropped_object item text node own
            subst same
            have skipped : typed text item = false → Comparable text contextType false item := by
              intro kept
              rw [own] at kept
              cases kept
            rw [if_pos rfl, if_pos own]
            refine ⟨bound, ?_⟩
            intro equal
            obtain ⟨comparable, removed, _⟩ := exactly equal
            exact ⟨⟨skipped, comparable⟩, removed, rfl⟩
        | false =>
            have more := size_pos (strip text item)
            rw [if_neg Bool.false_ne_true, sizeItems]
            exact ⟨by omega, fun equal => by omega⟩
      · obtain ⟨other, below, others_clean⟩ := clean
        obtain ⟨bound, exactly⟩ := prune_bounds_items matchType text contextType rest result others others_clean
        obtain ⟨own, differs⟩ := kept_typed item next text node other
        obtain ⟨first, first_exactly⟩ := prune_bounds matchType text contextType false item next node below
        rw [stripItems, stripItems, own, differs, if_neg Bool.false_ne_true, if_neg Bool.false_ne_true, sizeItems, sizeItems]
        refine ⟨by omega, ?_⟩
        intro equal
        obtain ⟨comparable, removed, agree⟩ := exactly (by omega)
        obtain ⟨comparable_first, removed_first, agree_first⟩ := first_exactly (by omega)
        exact ⟨⟨fun _ => comparable_first, comparable⟩, by rw [removed, removed_first], by rw [agree, agree_first]⟩

theorem prune_bounds_entries (matchType text : String) (contextType : Option Json) : (entries after : JsonEntries) →
    pruneEntries matchType contextType entries = .ok after → CleanEntries text after →
    sizeEntries after ≤ sizeEntries (stripEntries text entries) ∧ (sizeEntries after = sizeEntries (stripEntries text entries) →
      ComparableEntries matchType contextType entries ∧ after = stripEntries matchType entries ∧
        stripEntries matchType entries = stripEntries text entries)
  | .nil, after, pruned, _ => by
      rw [← Except.ok.inj pruned]
      exact ⟨Nat.le_refl _, fun _ => ⟨trivial, rfl, rfl⟩⟩
  | .cons key value rest, after, pruned, clean => by
      obtain ⟨result, others, turn⟩ := pruned_entry key value rest after pruned
      obtain ⟨node, rfl⟩ | ⟨next, node, rfl⟩ := turn
      · obtain ⟨bound, exactly⟩ := prune_bounds_entries matchType text contextType rest after others clean
        rw [stripEntries, stripEntries]
        cases own : typed text value with
        | true =>
            have same := dropped_object value text node own
            subst same
            have skipped : typed text value = false → Comparable text contextType false value := by
              intro kept
              rw [own] at kept
              cases kept
            rw [if_pos rfl, if_pos own]
            refine ⟨bound, ?_⟩
            intro equal
            obtain ⟨comparable, removed, _⟩ := exactly equal
            exact ⟨⟨skipped, comparable⟩, removed, rfl⟩
        | false =>
            have more := size_pos (strip text value)
            rw [if_neg Bool.false_ne_true, sizeEntries]
            exact ⟨by omega, fun equal => by omega⟩
      · obtain ⟨other, below, others_clean⟩ := clean
        obtain ⟨bound, exactly⟩ := prune_bounds_entries matchType text contextType rest result others others_clean
        obtain ⟨own, differs⟩ := kept_typed value next text node other
        obtain ⟨first, first_exactly⟩ := prune_bounds matchType text contextType false value next node below
        rw [stripEntries, stripEntries, own, differs, if_neg Bool.false_ne_true, if_neg Bool.false_ne_true, sizeEntries, sizeEntries]
        refine ⟨by omega, ?_⟩
        intro equal
        obtain ⟨comparable, removed, agree⟩ := exactly (by omega)
        obtain ⟨comparable_first, removed_first, agree_first⟩ := first_exactly (by omega)
        exact ⟨⟨fun _ => comparable_first, comparable⟩, by rw [removed, removed_first], by rw [agree, agree_first]⟩
end

/- What removing leaves. -/

theorem strip_text (matchType key text : String) (entries : JsonEntries) (distinct : entries.keys.Nodup)
    (found : (stripEntries matchType entries).get key = some (.string text)) : entries.get key = some (.string text) := by
  match entries with
  | .nil => cases found
  | .cons name value rest =>
      obtain ⟨fresh, apart⟩ := List.nodup_cons.mp distinct
      have later := strip_text matchType key text rest apart
      have inside : (stripEntries matchType rest).get key = some (.string text) → name ≠ key := by
        intro there same
        have missing := (JsonEntries.get_none key rest).mpr (same ▸ fresh)
        rw [later there] at missing
        cases missing
      rw [stripEntries] at found
      rw [JsonEntries.get]
      cases own : typed matchType value with
      | true =>
          rw [own, if_pos rfl] at found
          rw [if_neg (inside found), later found]
      | false =>
          rw [own, if_neg Bool.false_ne_true, JsonEntries.get] at found
          by_cases here : name = key
          · rw [if_pos here] at found ⊢
            cases value with
            | string other => exact found
            | null => cases found
            | bool value => cases found
            | number value => cases found
            | array items => cases found
            | object entries => cases found
          · rw [if_neg here] at found ⊢
            exact later found

theorem strip_typed (matchType : String) (node : Json) (distinct : node.Distinct) (own : typed matchType node = false) :
    typed matchType (strip matchType node) = false := by
  cases node with
  | object entries =>
      rw [strip]
      cases after : typed matchType (.object (stripEntries matchType entries)) with
      | false => rfl
      | true =>
          have found := strip_text matchType "type" matchType entries distinct.1 ((typed_iff matchType _).mp after)
          rw [(typed_iff matchType entries).mpr found] at own
          cases own
  | array items => rfl
  | null => rfl
  | bool value => rfl
  | number value => rfl
  | string text => rfl

mutual
theorem strip_clean (matchType : String) : (node : Json) → node.Distinct → Clean matchType (strip matchType node)
  | .array items, distinct => strip_clean_items matchType items distinct
  | .object entries, distinct => strip_clean_entries matchType entries distinct.2
  | .null, _ => trivial
  | .bool _, _ => trivial
  | .number _, _ => trivial
  | .string _, _ => trivial

theorem strip_clean_items (matchType : String) : (items : JsonItems) → DistinctItems items → CleanItems matchType (stripItems matchType items)
  | .nil, _ => trivial
  | .cons item rest, distinct => by
      have others := strip_clean_items matchType rest distinct.2
      rw [stripItems]
      cases own : typed matchType item with
      | true => exact others
      | false => exact ⟨strip_typed matchType item distinct.1 own, strip_clean matchType item distinct.1, others⟩

theorem strip_clean_entries (matchType : String) : (entries : JsonEntries) → DistinctEntries entries →
    CleanEntries matchType (stripEntries matchType entries)
  | .nil, _ => trivial
  | .cons _ value rest, distinct => by
      have others := strip_clean_entries matchType rest distinct.2
      rw [stripEntries]
      cases own : typed matchType value with
      | true => exact others
      | false => exact ⟨strip_typed matchType value distinct.1 own, strip_clean matchType value distinct.1, others⟩
end

mutual
theorem clean_strip (matchType : String) : (node : Json) → Clean matchType node → strip matchType node = node
  | .array items, clean => by rw [strip, clean_strip_items matchType items clean]
  | .object entries, clean => by rw [strip, clean_strip_entries matchType entries clean]
  | .null, _ => rfl
  | .bool _, _ => rfl
  | .number _, _ => rfl
  | .string _, _ => rfl

theorem clean_strip_items (matchType : String) : (items : JsonItems) → CleanItems matchType items → stripItems matchType items = items
  | .nil, _ => rfl
  | .cons item rest, clean => by
      rw [stripItems, clean.1, if_neg Bool.false_ne_true, clean_strip matchType item clean.2.1, clean_strip_items matchType rest clean.2.2]

theorem clean_strip_entries (matchType : String) : (entries : JsonEntries) → CleanEntries matchType entries → stripEntries matchType entries = entries
  | .nil, _ => rfl
  | .cons _ value rest, clean => by
      rw [stripEntries, clean.1, if_neg Bool.false_ne_true, clean_strip matchType value clean.2.1, clean_strip_entries matchType rest clean.2.2]
end

-- A plain type stays, and no type comes up.
theorem strip_plain (matchType key : String) (entries : JsonEntries) (plain : ∀ value, entries.get key = some value → Plain value) :
    (stripEntries matchType entries).get key = entries.get key := by
  match entries with
  | .nil => rfl
  | .cons name value rest =>
      rw [stripEntries, JsonEntries.get]
      by_cases here : name = key
      · have simple := plain value (by rw [JsonEntries.get, if_pos here])
        rw [if_pos here]
        cases value with
        | null => simp [typed, strip, JsonEntries.get, here]
        | string text => simp [typed, strip, JsonEntries.get, here]
        | bool value => exact absurd simple id
        | number value => exact absurd simple id
        | array items => exact absurd simple id
        | object entries => exact absurd simple id
      · have later := strip_plain matchType key rest (fun other found => plain other (by rw [JsonEntries.get, if_neg here, found]))
        rw [if_neg here]
        cases typed matchType value with
        | true => exact later
        | false =>
            rw [if_neg Bool.false_ne_true, JsonEntries.get, if_neg here]
            exact later

mutual
theorem strip_comparable (matchType : String) (contextType : Option Json) (isRoot : Bool) : (node : Json) →
    Comparable matchType contextType isRoot node → Comparable matchType contextType isRoot (strip matchType node)
  | .array items, comparable => strip_comparable_items matchType contextType items comparable
  | .object entries, comparable => by
      have same := strip_plain matchType "type" entries (fun value found => comparable.1.1 value (by rw [found]; rfl))
      refine ⟨?_, strip_comparable_entries matchType contextType entries comparable.2⟩
      rw [Answers, same]
      exact comparable.1
  | .null, _ => trivial
  | .bool _, _ => trivial
  | .number _, _ => trivial
  | .string _, _ => trivial

theorem strip_comparable_items (matchType : String) (contextType : Option Json) : (items : JsonItems) →
    ComparableItems matchType contextType items → ComparableItems matchType contextType (stripItems matchType items)
  | .nil, _ => trivial
  | .cons item rest, comparable => by
      have others := strip_comparable_items matchType contextType rest comparable.2
      rw [stripItems]
      cases own : typed matchType item with
      | true => exact others
      | false => exact ⟨fun _ => strip_comparable matchType contextType false item (comparable.1 own), others⟩

theorem strip_comparable_entries (matchType : String) (contextType : Option Json) : (entries : JsonEntries) →
    ComparableEntries matchType contextType entries → ComparableEntries matchType contextType (stripEntries matchType entries)
  | .nil, _ => trivial
  | .cons _ value rest, comparable => by
      have others := strip_comparable_entries matchType contextType rest comparable.2
      rw [stripEntries]
      cases own : typed matchType value with
      | true => exact others
      | false => exact ⟨fun _ => strip_comparable matchType contextType false value (comparable.1 own), others⟩
end

/- Decoding changes numbers only. -/

section
variable (float : Rat → Except String Rat)

def floatOf (value : Rat) : Rat :=
  match float value with
  | .error _ => value
  | .ok read => read

mutual
theorem decode_map : (node read : Json) → decode float node = .ok read → read = node.mapNumbers (floatOf float)
  | .number value, read, decoded => by
      rw [decode] at decoded
      rw [mapNumbers, floatOf]
      cases converted : float value with
      | error error =>
          rw [converted] at decoded
          cases decoded
      | ok result =>
          rw [converted] at decoded
          exact (Except.ok.inj decoded).symm
  | .array items, read, decoded => by
      rw [decode] at decoded
      cases inner : decodeItems float items with
      | error error =>
          rw [inner] at decoded
          cases decoded
      | ok result =>
          rw [inner] at decoded
          rw [mapNumbers, ← decode_map_items items result inner]
          exact (Except.ok.inj decoded).symm
  | .object entries, read, decoded => by
      rw [decode] at decoded
      cases inner : decodeEntries float entries with
      | error error =>
          rw [inner] at decoded
          cases decoded
      | ok result =>
          rw [inner] at decoded
          rw [mapNumbers, ← decode_map_entries entries result inner]
          exact (Except.ok.inj decoded).symm
  | .null, read, decoded => (Except.ok.inj decoded).symm
  | .bool _, read, decoded => (Except.ok.inj decoded).symm
  | .string _, read, decoded => (Except.ok.inj decoded).symm

theorem decode_map_items : (items read : JsonItems) → decodeItems float items = .ok read → read = mapItems (floatOf float) items
  | .nil, read, decoded => (Except.ok.inj decoded).symm
  | .cons item rest, read, decoded => by
      rw [decodeItems] at decoded
      cases first : decode float item with
      | error error => simp [first] at decoded
      | ok result =>
          cases others : decodeItems float rest with
          | error error => simp [first, others] at decoded
          | ok results =>
              rw [first, others] at decoded
              rw [mapItems, ← decode_map item result first, ← decode_map_items rest results others]
              exact (Except.ok.inj decoded).symm

theorem decode_map_entries : (entries read : JsonEntries) → decodeEntries float entries = .ok read → read = mapEntries (floatOf float) entries
  | .nil, read, decoded => (Except.ok.inj decoded).symm
  | .cons key value rest, read, decoded => by
      rw [decodeEntries] at decoded
      cases first : decode float value with
      | error error => simp [first] at decoded
      | ok result =>
          cases others : decodeEntries float rest with
          | error error => simp [first, others] at decoded
          | ok results =>
              rw [first, others] at decoded
              rw [mapEntries, ← decode_map value result first, ← decode_map_entries rest results others]
              exact (Except.ok.inj decoded).symm
end

theorem typed_map (matchType : String) (read : Rat → Rat) (node : Json) : typed matchType (node.mapNumbers read) = typed matchType node := by
  cases node with
  | object entries =>
      apply Bool.eq_iff_iff.mpr
      rw [mapNumbers, typed_iff, typed_iff, get_map_entries]
      cases entries.get "type" with
      | none => simp
      | some value => cases value <;> simp [mapNumbers]
  | array items => rfl
  | null => rfl
  | bool value => rfl
  | number value => rfl
  | string text => rfl

mutual
theorem strip_map (matchType : String) (read : Rat → Rat) : (node : Json) → strip matchType (node.mapNumbers read) = (strip matchType node).mapNumbers read
  | .array items => by rw [mapNumbers, strip, strip, mapNumbers, strip_map_items matchType read items]
  | .object entries => by rw [mapNumbers, strip, strip, mapNumbers, strip_map_entries matchType read entries]
  | .null => rfl
  | .bool _ => rfl
  | .number _ => rfl
  | .string _ => rfl

theorem strip_map_items (matchType : String) (read : Rat → Rat) : (items : JsonItems) →
    stripItems matchType (mapItems read items) = mapItems read (stripItems matchType items)
  | .nil => rfl
  | .cons item rest => by
      have others := strip_map_items matchType read rest
      rw [mapItems, stripItems, stripItems, typed_map]
      cases typed matchType item with
      | true => exact others
      | false => rw [if_neg Bool.false_ne_true, if_neg Bool.false_ne_true, mapItems, strip_map matchType read item, others]

theorem strip_map_entries (matchType : String) (read : Rat → Rat) : (entries : JsonEntries) →
    stripEntries matchType (mapEntries read entries) = mapEntries read (stripEntries matchType entries)
  | .nil => rfl
  | .cons _ value rest => by
      have others := strip_map_entries matchType read rest
      rw [mapEntries, stripEntries, stripEntries, typed_map]
      cases typed matchType value with
      | true => exact others
      | false => rw [if_neg Bool.false_ne_true, if_neg Bool.false_ne_true, mapEntries, strip_map matchType read value, others]
end

mutual
theorem decode_strip (matchType : String) : (node read : Json) → decode float node = .ok read → decode float (strip matchType node) = .ok (strip matchType read)
  | .array items, read, decoded => by
      rw [decode] at decoded
      cases inner : decodeItems float items with
      | error error =>
          rw [inner] at decoded
          cases decoded
      | ok result =>
          rw [inner] at decoded
          rw [← Except.ok.inj decoded, strip, strip, decode, decode_strip_items matchType items result inner]
  | .object entries, read, decoded => by
      rw [decode] at decoded
      cases inner : decodeEntries float entries with
      | error error =>
          rw [inner] at decoded
          cases decoded
      | ok result =>
          rw [inner] at decoded
          rw [← Except.ok.inj decoded, strip, strip, decode, decode_strip_entries matchType entries result inner]
  | .number value, read, decoded => by
      have leaf := decode_map float (.number value) read decoded
      rw [leaf] at decoded ⊢
      exact decoded
  | .null, read, decoded => by
      rw [← Except.ok.inj decoded]
      rfl
  | .bool _, read, decoded => by
      rw [← Except.ok.inj decoded]
      rfl
  | .string _, read, decoded => by
      rw [← Except.ok.inj decoded]
      rfl

theorem decode_strip_items (matchType : String) : (items read : JsonItems) → decodeItems float items = .ok read →
    decodeItems float (stripItems matchType items) = .ok (stripItems matchType read)
  | .nil, read, decoded => by
      rw [← Except.ok.inj decoded]
      rfl
  | .cons item rest, read, decoded => by
      rw [decodeItems] at decoded
      cases first : decode float item with
      | error error => simp [first] at decoded
      | ok result =>
          cases others : decodeItems float rest with
          | error error => simp [first, others] at decoded
          | ok results =>
              rw [first, others] at decoded
              have later := decode_strip_items matchType rest results others
              have same : typed matchType result = typed matchType item := by rw [decode_map float item result first, typed_map]
              rw [← Except.ok.inj decoded, stripItems, stripItems, same]
              cases typed matchType item with
              | true => exact later
              | false =>
                  rw [if_neg Bool.false_ne_true, if_neg Bool.false_ne_true, decodeItems, decode_strip matchType item result first, later]

theorem decode_strip_entries (matchType : String) : (entries read : JsonEntries) → decodeEntries float entries = .ok read →
    decodeEntries float (stripEntries matchType entries) = .ok (stripEntries matchType read)
  | .nil, read, decoded => by
      rw [← Except.ok.inj decoded]
      rfl
  | .cons key value rest, read, decoded => by
      rw [decodeEntries] at decoded
      cases first : decode float value with
      | error error => simp [first] at decoded
      | ok result =>
          cases others : decodeEntries float rest with
          | error error => simp [first, others] at decoded
          | ok results =>
              rw [first, others] at decoded
              have later := decode_strip_entries matchType rest results others
              have same : typed matchType result = typed matchType value := by rw [decode_map float value result first, typed_map]
              rw [← Except.ok.inj decoded, stripEntries, stripEntries, same]
              cases typed matchType value with
              | true => exact later
              | false =>
                  rw [if_neg Bool.false_ne_true, if_neg Bool.false_ne_true, decodeEntries, decode_strip matchType value result first, later]
end

end

section
variable {float : Rat → Except String Rat} {contextType : Option Json} {value : String} {path : List String}

theorem pruned (data target decoded cleaned after : Json) (solid : Text.trimSpace value ≠ "") (found : data.get path = some target)
    (read : decode float target = .ok decoded) (done : pruneObjectsNode (Text.trimSpace value) contextType true decoded = .ok (some cleaned))
    (written : Json.set cleaned path data = some after) : pruneObjects float contextType value path data = .ok after := by
  rw [pruneObjects, if_neg solid, found]
  simp only [read, done, Option.getD_some, written]

theorem root_kept (matchType : String) (node : Json) (result : Option Json) (done : pruneObjectsNode matchType contextType true node = .ok result) :
    ∃ cleaned, result = some cleaned := by
  cases result with
  | some cleaned => exact ⟨cleaned, rfl⟩
  | none =>
      cases node with
      | array items =>
          rw [pruneObjectsNode] at done
          cases inner : pruneItems matchType contextType items with
          | error error => simp [inner] at done
          | ok items => simp [inner] at done
      | object entries =>
          rw [pruneObjectsNode] at done
          cases answer : shouldPruneObject matchType contextType entries with
          | error error => simp [answer] at done
          | ok shouldDrop =>
              cases inner : pruneEntries matchType contextType entries with
              | error error => simp [answer, inner] at done
              | ok entries => simp [answer, inner] at done
      | null => cases done
      | bool value => cases done
      | number value => cases done
      | string text => cases done

theorem pruned_inv (data target after : Json) (found : data.get path = some target) (success : pruneObjects float contextType value path data = .ok after) :
    ∃ decoded cleaned, decode float target = .ok decoded ∧ pruneObjectsNode (Text.trimSpace value) contextType true decoded = .ok (some cleaned) ∧
      Json.set cleaned path data = some after := by
  rw [pruneObjects] at success
  by_cases blank : Text.trimSpace value = ""
  · rw [if_pos blank] at success
    cases success
  · rw [if_neg blank, found] at success
    cases read : decode float target with
    | error error => simp [read] at success
    | ok decoded =>
        cases done : pruneObjectsNode (Text.trimSpace value) contextType true decoded with
        | error error => simp [read, done] at success
        | ok result =>
            obtain ⟨cleaned, rfl⟩ := root_kept (Text.trimSpace value) decoded result done
            cases written : Json.set cleaned path data with
            | none => simp [read, done, written] at success
            | some result =>
                simp only [read, done, Option.getD_some, written] at success
                exact ⟨decoded, cleaned, rfl, done, Except.ok.inj success ▸ written⟩

end

section

def tool (name : String) : Json := .object (.cons "type" (.string name) .nil)

def tools : Json := .object (.cons "tools" (.array (.cons (tool "web_search") (.cons (tool "function") .nil))) .nil)

-- A schema that describes a field named type.
def schema : Json :=
  .object (.cons "tools" (.array (.cons (.object (.cons "parameters" (.object (.cons "properties" (.object (.cons "type" (tool "string") .nil)) .nil)) .nil)) .nil)) .nil)

end

end CodeGo.Gateway.Overrides
