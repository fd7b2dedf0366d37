import CodeGo.Lib.Lines
import CodeGo.Lib.Text
import Mathlib.Tactic.Ring

set_option autoImplicit false

/- The keys of a channel: read from its key text, kept beside it in the cache, and written back after a deletion. -/

namespace CodeGo.Gateway.MultiKeys

open Text

structure ChannelInfo where
  isMultiKey : Bool := false
  multiKeySize : Int := 0
  multiKeyStatusList : Option (List (Int × Int)) := none
  multiKeyDisabledTime : Option (List (Int × Int)) := none
  multiKeyDisabledReason : Option (List (Int × String)) := none
deriving DecidableEq, Repr

structure Channel where
  key : String
  keys : List String := []
  channelInfo : ChannelInfo := {}
deriving DecidableEq, Repr

def channelStatusEnabled : Int := 1

-- Key texts here are plain.
def decryptSecret (value : String) : Except String String := .ok value

def joinKeys (keys : List String) : String := String.ofList (Segments.join '\n' (keys.map String.toList))

def splitKeys (raw : String) : List String := (Segments.readParts '\n' raw.toList).map String.ofList

def keySource (channel : Channel) : String :=
  if 0 < channel.keys.length then joinKeys channel.keys
  else
    match decryptSecret channel.key with
    | .ok key => key
    | .error _ => ""

section model

-- The raw texts of the elements, where a text is one JSON array.
variable (elements : String → Option (List String))

def array (raw : String) : Option (List String) :=
  let trimmed := trimSpace raw
  if hasPrefix "[" trimmed then elements trimmed else none

def channelKeysFromRaw (raw : String) : List String :=
  if raw = "" then []
  else
    match array elements raw with
    | some keys => keys
    | none => splitKeys raw

def getKeys (channel : Channel) : List String := channelKeysFromRaw elements (keySource channel)

-- What the cache keeps of a channel.
def cacheKeys (channel : Channel) : Channel :=
  if channel.channelInfo.isMultiKey then { channel with keys := getKeys elements channel } else channel

inductive MultiKeyError where
  | channelNotFound
  | notMultiKeyChannel
  | missingKeyIndex
  | keyIndexOutOfRange
  | cannotDeleteLastKey
  | store (problem : String)
deriving DecidableEq, Repr

def requireValidMultiKeyIndex (channel : Channel) : Option Int → Except MultiKeyError Int
  | none => .error .missingKeyIndex
  | some index => if index < 0 ∨ index ≥ channel.channelInfo.multiKeySize then .error .keyIndexOutOfRange else .ok index

def readMultiKeyStatus (channel : Channel) (index : Int) : Int :=
  match channel.channelInfo.multiKeyStatusList with
  | none => channelStatusEnabled
  | some statuses => (statuses.lookup index).getD channelStatusEnabled

structure Remaining where
  keys : List String := []
  statusList : List (Int × Int) := []
  disabledTime : List (Int × Int) := []
  disabledReason : List (Int × String) := []
  nextIndex : Int := 0
deriving DecidableEq, Repr

-- An entry of an optional map under its new index.
def reindexed {α : Type} (entries : Option (List (Int × α))) (index nextIndex : Int) : List (Int × α) :=
  match entries.bind fun entries => entries.lookup index with
  | some entry => [(nextIndex, entry)]
  | none => []

def keepKey (channel : Channel) (currentIndex : Int) (key : String) (remaining : Remaining) : Remaining :=
  let status := readMultiKeyStatus channel currentIndex
  { keys := remaining.keys ++ [key]
    statusList := remaining.statusList ++ if status ≠ channelStatusEnabled then [(remaining.nextIndex, status)] else []
    disabledTime := remaining.disabledTime ++ reindexed channel.channelInfo.multiKeyDisabledTime currentIndex remaining.nextIndex
    disabledReason := remaining.disabledReason ++ reindexed channel.channelInfo.multiKeyDisabledReason currentIndex remaining.nextIndex
    nextIndex := remaining.nextIndex + 1 }

def keepLoop (channel : Channel) (index : Int) : (currentIndex : Int) → List String → Remaining → Remaining
  | _, [], remaining => remaining
  | currentIndex, key :: rest, remaining =>
      if currentIndex = index then keepLoop channel index (currentIndex + 1) rest remaining
      else keepLoop channel index (currentIndex + 1) rest (keepKey channel currentIndex key remaining)

-- An empty key is no update of the stored one; statuses past the number of keys are dropped.
def updateChannel (stored channel : Channel) : Channel :=
  let keyStr := if channel.key = "" then stored.key else channel.key
  let size : Int := (getKeys elements { key := keyStr }).length
  { key := keyStr
    channelInfo :=
      if channel.channelInfo.isMultiKey then
        { channel.channelInfo with
          multiKeySize := size
          multiKeyStatusList := channel.channelInfo.multiKeyStatusList.map fun statuses => statuses.filter fun entry => decide (entry.1 < size) }
      else channel.channelInfo }

-- The answer with the channel as it is stored afterwards; `save` is what the store answers.
def deleteMultiKey (stored : Option Channel) (keyIndex : Option Int) (save : Except String Unit) :
    Except MultiKeyError String × Option Channel :=
  match stored with
  | none => (.error .channelNotFound, stored)
  | some channel =>
      if !channel.channelInfo.isMultiKey then (.error .notMultiKeyChannel, stored)
      else
        match requireValidMultiKeyIndex channel keyIndex with
        | .error problem => (.error problem, stored)
        | .ok index =>
            let keys := getKeys elements channel
            if keys.length = 1 then (.error .cannotDeleteLastKey, stored)
            else
              let remaining := keepLoop channel index 0 keys {}
              let changed : Channel :=
                { channel with
                  key := joinKeys remaining.keys
                  channelInfo :=
                    { channel.channelInfo with
                      multiKeySize := remaining.keys.length
                      multiKeyStatusList := some remaining.statusList
                      multiKeyDisabledTime := some remaining.disabledTime
                      multiKeyDisabledReason := some remaining.disabledReason } }
              match save with
              | .error problem => (.error (.store problem), stored)
              | .ok () => (.ok "密钥已删除", some (updateChannel elements channel changed))

end model

-- What is relied on of the JSON decoder: an array is longer than its elements beside one another, an element is not empty,
-- and several values one after the other are not one.
structure RawArrays (elements : String → Option (List String)) : Prop where
  shorter : ∀ text keys, elements text = some keys → (joinKeys keys).length < text.length
  present : ∀ text keys, elements text = some keys → ∀ key ∈ keys, key ≠ ""
  single : ∀ text keys, elements text = some keys → 2 ≤ keys.length → elements (trimSpace (joinKeys keys)) = none

def Unbroken (key : String) : Prop := '\n' ∉ key.toList

-- A list of keys that is the one its joined text is read as.
structure Rejoins (elements : String → Option (List String)) (keys : List String) : Prop where
  unbroken : ∀ key ∈ keys, Unbroken key
  first : keys.head? ≠ some ""
  last : keys.getLast? ≠ some ""
  plain : array elements (joinKeys keys) = none

theorem trimChars_padded (lead core trail : List Char) (before : ∀ c ∈ lead, isSpace c = true) (behind : ∀ c ∈ trail, isSpace c = true) :
    trimChars (lead ++ (core ++ trail)) = trimChars core := by
  have leadDropped : lead.dropWhile isSpace = [] := List.dropWhile_eq_nil_iff.mpr before
  have trailDropped : trail.dropWhile isSpace = [] := List.dropWhile_eq_nil_iff.mpr behind
  have reversed : trail.reverse.dropWhile isSpace = [] := by
    rw [List.dropWhile_eq_nil_iff]
    intro c listed
    exact behind c (List.mem_reverse.mp listed)
  rw [trimChars, trimChars, List.dropWhile_append, leadDropped, List.isEmpty_nil, if_pos rfl, List.dropWhile_append]
  split
  · rename_i empty
    rw [trailDropped, List.isEmpty_iff.mp empty]
  · rw [List.rdropWhile, List.reverse_append, List.dropWhile_append, reversed, List.isEmpty_nil, if_pos rfl, List.rdropWhile]

theorem trimSpace_length (text : String) : (trimSpace text).length ≤ text.length := by
  rw [trimSpace, ← String.length_toList, ← String.length_toList, String.toList_ofList, trimChars]
  exact ((List.rdropWhile_prefix _ _).length_le).trans (List.dropWhile_sublist _).length_le

theorem newline_space (c : Char) (newline : (c == '\n') = true) : isSpace c = true := by
  rw [beq_iff_eq] at newline
  rw [newline]
  decide

theorem joinKeys_splitKeys (raw : String) :
    (joinKeys (splitKeys raw)).toList = Split.trim (fun c => c == '\n') raw.toList := by
  obtain ⟨first, rest, split, _, whole⟩ := Segments.split_parts '\n' (Split.trim (fun c => c == '\n') raw.toList)
  have texts : (splitKeys raw).map String.toList = first :: rest := by
    rw [splitKeys, Segments.readParts, split, List.map_map]
    have same : String.toList ∘ String.ofList = id := by
      funext chars
      exact String.toList_ofList
    rw [same, List.map_id]
  rw [joinKeys, String.toList_ofList, texts, whole]
  rfl

-- Lines are no array after they were joined again if they were none before.
theorem array_lines (elements : String → Option (List String)) (raw : String) :
    array elements (joinKeys (splitKeys raw)) = array elements raw := by
  obtain ⟨lead, trail, whole, before, behind, _⟩ := Split.trim_parts (fun c => c == '\n') raw.toList
  have same : trimSpace (joinKeys (splitKeys raw)) = trimSpace raw := by
    rw [trimSpace, joinKeys_splitKeys, trimSpace]
    congr 1
    conv => rhs; rw [whole]
    exact (trimChars_padded lead _ trail (fun c listed => newline_space c (before c listed))
      fun c listed => newline_space c (behind c listed)).symm
  simp only [array, same]

theorem joinKeys_empty {keys : List String} (some : keys ≠ []) (empty : joinKeys keys = "") : keys = [""] := by
  cases keys with
  | nil => exact absurd rfl some
  | cons first rest =>
      have chars : Segments.join '\n' ((first :: rest).map String.toList) = [] := by
        rw [← String.toList_ofList (l := Segments.join '\n' ((first :: rest).map String.toList)), ← joinKeys, empty]
        rfl
      rw [List.map_cons, Segments.join, List.append_eq_nil_iff] at chars
      cases rest with
      | nil => rw [String.toList_eq_nil_iff.mp chars.1]
      | cons part rest => simp [Segments.after] at chars

theorem map_toList_ofList (parts : List (List Char)) : (parts.map String.ofList).map String.toList = parts := by
  rw [List.map_map]
  have same : String.toList ∘ String.ofList = id := by
    funext chars
    exact String.toList_ofList
  rw [same, List.map_id]

theorem map_ofList_toList (keys : List String) : (keys.map String.toList).map String.ofList = keys := by
  rw [List.map_map]
  have same : String.ofList ∘ String.toList = id := by
    funext key
    exact String.ofList_toList
  rw [same, List.map_id]

theorem splitKeys_join {keys : List String} (some : keys ≠ []) (more : keys ≠ [""]) :
    splitKeys (joinKeys keys) = keys ↔
      (∀ key ∈ keys, Unbroken key) ∧ keys.head? ≠ Option.some "" ∧ keys.getLast? ≠ Option.some "" := by
  have parts : splitKeys (joinKeys keys) = keys ↔
      Segments.readParts '\n' (Segments.join '\n' (keys.map String.toList)) = keys.map String.toList := by
    rw [splitKeys, joinKeys, String.toList_ofList]
    constructor
    · intro same
      rw [← map_toList_ofList (Segments.readParts '\n' (Segments.join '\n' (keys.map String.toList))), same]
    · intro same
      rw [same, map_ofList_toList]
  have inhabited : keys.map String.toList ≠ [] := by simpa using some
  have several : keys.map String.toList ≠ [[]] := by
    intro single
    apply more
    rw [← map_ofList_toList keys, single]
    rfl
  have blank (key : Option String) : key.map String.toList ≠ Option.some [] ↔ key ≠ Option.some "" := by
    cases key with
    | none => simp
    | some key => simp
  rw [parts, Segments.read_join inhabited several, List.head?_map, List.getLast?_map, blank, blank, List.forall_mem_map]
  rfl

section laws

variable {elements : String → Option (List String)}

theorem read_empty : channelKeysFromRaw elements "" = [] := by
  rw [channelKeysFromRaw, if_pos rfl]

theorem read_array {raw : String} (nonempty : raw ≠ "") {keys : List String} (decoded : array elements raw = some keys) :
    channelKeysFromRaw elements raw = keys := by
  rw [channelKeysFromRaw, if_neg nonempty, decoded]

theorem read_lines {raw : String} (nonempty : raw ≠ "") (plain : array elements raw = none) :
    channelKeysFromRaw elements raw = splitKeys raw := by
  rw [channelKeysFromRaw, if_neg nonempty, plain]

theorem array_elements {raw : String} {keys : List String} (decoded : array elements raw = some keys) :
    elements (trimSpace raw) = some keys := by
  simp only [array] at decoded
  split at decoded
  · exact decoded
  · cases decoded

-- A list that is written back is read as itself exactly where it rejoins.
theorem reread_iff (decoder : RawArrays elements) {keys : List String} (nonempty : keys ≠ []) :
    channelKeysFromRaw elements (joinKeys keys) = keys ↔ Rejoins elements keys := by
  by_cases empty : joinKeys keys = ""
  · have single := joinKeys_empty nonempty empty
    constructor
    · intro same
      rw [empty, read_empty] at same
      exact absurd same.symm nonempty
    · intro rejoins
      exact absurd (by rw [single]; rfl) rejoins.first
  · have more : keys ≠ [""] := by
      intro single
      exact empty (by rw [single]; rfl)
    cases decoded : array elements (joinKeys keys) with
    | some others =>
        constructor
        · intro same
          rw [read_array empty decoded] at same
          have shorter := decoder.shorter _ others (array_elements decoded)
          have within := trimSpace_length (joinKeys keys)
          rw [same] at shorter
          omega
        · intro rejoins
          rw [rejoins.plain] at decoded
          cases decoded
    | none =>
        rw [read_lines empty decoded, splitKeys_join nonempty more]
        constructor
        · rintro ⟨unbroken, first, last⟩
          exact ⟨unbroken, first, last, decoded⟩
        · rintro ⟨unbroken, first, last, _⟩
          exact ⟨unbroken, first, last⟩

theorem keySource_raw {channel : Channel} (uncached : channel.keys = []) : keySource channel = channel.key := by
  rw [keySource, uncached, if_neg (by simp)]
  rfl

theorem keySource_cached {channel : Channel} (cached : channel.keys ≠ []) : keySource channel = joinKeys channel.keys := by
  rw [keySource, if_pos (List.length_pos_iff.mpr cached)]

theorem cached_iff (decoder : RawArrays elements) {channel : Channel} (uncached : channel.keys = [])
    (multi : channel.channelInfo.isMultiKey = true) :
    getKeys elements (cacheKeys elements channel) = getKeys elements channel ↔
      (getKeys elements channel = [] ∨ Rejoins elements (getKeys elements channel)) := by
  have cached : cacheKeys elements channel = { channel with keys := getKeys elements channel } := by
    rw [cacheKeys, if_pos multi]
  by_cases empty : getKeys elements channel = []
  · have same : getKeys elements { channel with keys := getKeys elements channel } = getKeys elements channel := by
      rw [getKeys, keySource_raw (by exact empty), getKeys, keySource_raw uncached]
    rw [cached, same]
    simp [empty]
  · have source : getKeys elements { channel with keys := getKeys elements channel } =
        channelKeysFromRaw elements (joinKeys (getKeys elements channel)) := by
      rw [getKeys, keySource_cached (by exact empty)]
    rw [cached, source, reread_iff decoder empty]
    simp [empty]

/- Which key texts survive the cache -/

def SurvivesCache (elements : String → Option (List String)) (raw : String) : Prop :=
  match array elements raw with
  | some keys => (∀ key ∈ keys, Unbroken key) ∧ ∀ key, keys = [key] → array elements key = none
  | none => raw = "" ∨ ∃ c ∈ raw.toList, c ≠ '\n'

theorem array_empty : array elements "" = none := by
  have blank : hasPrefix "[" (trimSpace "") = false := by decide
  simp only [array, blank]
  rfl

theorem array_survives (decoder : RawArrays elements) {raw : String} {keys : List String} (decoded : array elements raw = some keys) :
    (keys = [] ∨ Rejoins elements keys) ↔ (∀ key ∈ keys, Unbroken key) ∧ ∀ key, keys = [key] → array elements key = none := by
  have present := decoder.present _ keys (array_elements decoded)
  constructor
  · rintro (rfl | rejoins)
    · simp
    · refine ⟨rejoins.unbroken, ?_⟩
      rintro key rfl
      have plain := rejoins.plain
      rw [joinKeys, List.map_singleton, Segments.join, show Segments.after '\n' ([] : List (List Char)) = [] from rfl,
        List.append_nil, String.ofList_toList] at plain
      exact plain
  · rintro ⟨unbroken, lone⟩
    cases keys with
    | nil => exact Or.inl rfl
    | cons first rest =>
        refine Or.inr ⟨unbroken, ?_, ?_, ?_⟩
        · intro blank
          exact present first List.mem_cons_self (by simpa using blank)
        · intro blank
          exact present "" (List.mem_of_getLast? blank) rfl
        · cases rest with
          | nil =>
              rw [joinKeys, List.map_singleton, Segments.join, show Segments.after '\n' ([] : List (List Char)) = [] from rfl,
                List.append_nil, String.ofList_toList]
              exact lone first rfl
          | cons second others =>
              have none := decoder.single _ _ (array_elements decoded) (by simp)
              simp only [array, none, ite_self]

theorem lines_ends {raw : String} (inside : Split.trim (fun c => c == '\n') raw.toList ≠ []) :
    (splitKeys raw).head? ≠ some "" ∧ (splitKeys raw).getLast? ≠ some "" := by
  obtain ⟨starts, ends⟩ := @Segments.trim_closed _ _ '\n' raw.toList
  have closed := Segments.split_closed starts ends inside
  have blank (part : Option (List Char)) : part.map String.ofList ≠ some "" ↔ part ≠ some [] := by
    cases part with
    | none => simp
    | some part => simp
  rw [splitKeys, List.head?_map, List.getLast?_map, blank, blank]
  exact closed

theorem lines_blank {raw : String} (nothing : Split.trim (fun c => c == '\n') raw.toList = []) : splitKeys raw = [""] := by
  rw [splitKeys, Segments.readParts, nothing, List.splitOn_nil]
  rfl

theorem lines_survive {raw : String} (plain : array elements raw = none) :
    (splitKeys raw = [] ∨ Rejoins elements (splitKeys raw)) ↔ ∃ c ∈ raw.toList, c ≠ '\n' := by
  have some : splitKeys raw ≠ [] := by
    obtain ⟨first, rest, split, _⟩ := Segments.split_parts '\n' (Split.trim (fun c => c == '\n') raw.toList)
    simp [splitKeys, Segments.readParts, split]
  by_cases blank : Split.trim (fun c => c == '\n') raw.toList = []
  · have single := lines_blank blank
    constructor
    · rintro (nothing | rejoins)
      · exact absurd nothing some
      · exact absurd (by rw [single]; rfl) rejoins.first
    · rintro ⟨c, listed, other⟩
      obtain ⟨lead, trail, whole, before, behind, _⟩ := Split.trim_parts (fun c => c == '\n') raw.toList
      rw [blank, List.nil_append] at whole
      rw [whole] at listed
      obtain early | late := List.mem_append.mp listed
      · exact absurd (beq_iff_eq.mp (before c early)) other
      · exact absurd (beq_iff_eq.mp (behind c late)) other
  · have ends := lines_ends blank
    have rejoins : Rejoins elements (splitKeys raw) := by
      refine ⟨?_, ends.1, ends.2, ?_⟩
      · intro key listed
        obtain ⟨part, among, rfl⟩ := List.mem_map.mp listed
        rw [Unbroken, String.toList_ofList]
        exact Segments.read_parts_free raw.toList part among
      · rw [array_lines, plain]
    constructor
    · intro _
      by_contra none
      apply blank
      have all : ∀ c ∈ raw.toList, (c == '\n') = true := by
        intro c listed
        by_contra other
        exact none ⟨c, listed, by simpa using other⟩
      rw [Split.trim, List.dropWhile_eq_nil_iff.mpr all]
      rfl
    · intro _
      exact Or.inr rejoins

theorem survives_iff (decoder : RawArrays elements) (raw : String) :
    (channelKeysFromRaw elements raw = [] ∨ Rejoins elements (channelKeysFromRaw elements raw)) ↔ SurvivesCache elements raw := by
  by_cases empty : raw = ""
  · rw [SurvivesCache, empty, array_empty, read_empty]
    simp
  · cases decoded : array elements raw with
    | some keys =>
        rw [SurvivesCache, decoded, read_array empty decoded]
        exact array_survives decoder decoded
    | none =>
        rw [SurvivesCache, decoded, read_lines empty decoded, lines_survive decoded]
        simp [empty]

/- Deletions -/

variable {channel : Channel}

theorem keep_past (index current : Int) (past : index < current) (keys : List String) (remaining : Remaining) :
    (keepLoop channel index current keys remaining).keys = remaining.keys ++ keys := by
  induction keys generalizing current remaining with
  | nil => rw [keepLoop, List.append_nil]
  | cons key rest ih =>
      rw [keepLoop, if_neg (by omega), ih (current + 1) (by omega), keepKey, List.append_assoc]
      rfl

theorem keep_loop (place : ℕ) (current : Int) (keys : List String) (remaining : Remaining) :
    (keepLoop channel (current + place) current keys remaining).keys = remaining.keys ++ keys.eraseIdx place := by
  induction keys generalizing place current remaining with
  | nil => rw [keepLoop, List.eraseIdx_nil, List.append_nil]
  | cons key rest ih =>
      cases place with
      | zero =>
          rw [keepLoop, if_pos (by simp), keep_past _ _ (by simp), List.eraseIdx_zero, List.tail_cons]
      | succ place =>
          have moved : current + ((place + 1 : ℕ) : Int) = current + 1 + place := by
            push_cast
            ring
          rw [keepLoop, if_neg (by omega), moved, ih place (current + 1), keepKey, List.append_assoc, List.eraseIdx_cons_succ]
          rfl

-- Several keys that are read start and end with one that is not empty.
theorem several_ends (decoder : RawArrays elements) {raw : String} (several : 2 ≤ (channelKeysFromRaw elements raw).length) :
    (channelKeysFromRaw elements raw).head? ≠ some "" ∧ (channelKeysFromRaw elements raw).getLast? ≠ some "" := by
  by_cases empty : raw = ""
  · rw [empty, read_empty] at several
    simp at several
  · cases decoded : array elements raw with
    | some keys =>
        have present := decoder.present _ keys (array_elements decoded)
        rw [read_array empty decoded]
        exact ⟨fun blank => present "" (List.mem_of_mem_head? blank) rfl, fun blank => present "" (List.mem_of_getLast? blank) rfl⟩
    | none =>
        rw [read_lines empty decoded] at several ⊢
        apply lines_ends
        intro nothing
        rw [lines_blank nothing] at several
        simp at several

-- A key that is left after a deletion is written back as more than nothing.
theorem remaining_present (keys : List String) (place : ℕ) (single : keys.length ≠ 1)
    (ends : 2 ≤ keys.length → keys.head? ≠ some "" ∧ keys.getLast? ≠ some "") (left : keys.eraseIdx place ≠ []) :
    joinKeys (keys.eraseIdx place) ≠ "" := by
  intro empty
  have lone := joinKeys_empty left empty
  match keys, place with
  | [], _ => exact left (by simp)
  | [_], _ => exact single rfl
  | [first, second], 0 =>
      obtain rfl : second = "" := by simpa using lone
      exact (ends (by simp)).2 rfl
  | [first, second], 1 =>
      obtain rfl : first = "" := by simpa using lone
      exact (ends (by simp)).1 rfl
  | [first, second], place + 2 => simp at lone
  | first :: second :: third :: rest, place =>
      have length := congrArg List.length lone
      have erased := List.length_eraseIdx_add_one (l := first :: second :: third :: rest) (i := place)
      by_cases inside : place < (first :: second :: third :: rest).length
      · have fewer := erased inside
        simp only [List.length_cons, List.length_nil] at length fewer
        omega
      · rw [List.eraseIdx_of_length_le (by omega)] at length
        simp at length

-- What an accepted deletion stores.
theorem deleted_key {index : Int} {save : Except String Unit} {message : String} {saved : Channel}
    (accepted : deleteMultiKey elements (some channel) (some index) save = (.ok message, some saved)) :
    channel.channelInfo.isMultiKey = true ∧ (getKeys elements channel).length ≠ 1 ∧ saved.keys = [] ∧
      saved.key = if joinKeys ((getKeys elements channel).eraseIdx index.toNat) = "" then channel.key
        else joinKeys ((getKeys elements channel).eraseIdx index.toNat) := by
  unfold deleteMultiKey at accepted
  dsimp only at accepted
  cases multi : channel.channelInfo.isMultiKey with
  | false => simp [multi] at accepted
  | true =>
      rw [multi, Bool.not_true, if_neg Bool.false_ne_true, requireValidMultiKeyIndex] at accepted
      by_cases outside : index < 0 ∨ index ≥ channel.channelInfo.multiKeySize
      · rw [if_pos outside] at accepted
        cases accepted
      · rw [if_neg outside] at accepted
        dsimp only at accepted
        by_cases single : (getKeys elements channel).length = 1
        · rw [if_pos single] at accepted
          cases accepted
        · rw [if_neg single] at accepted
          cases save with
          | error problem => cases accepted
          | ok _ =>
              have loop := @keep_loop channel index.toNat 0 (getKeys elements channel) {}
              rw [show (0 : Int) + index.toNat = index by omega, List.nil_append] at loop
              rw [loop] at accepted
              obtain ⟨-, written⟩ := Prod.mk.inj accepted
              obtain rfl := Option.some.inj written
              exact ⟨rfl, single, rfl, rfl⟩

theorem deleted_iff (decoder : RawArrays elements) (uncached : channel.keys = []) {index : Int} {save : Except String Unit}
    {message : String} {saved : Channel}
    (accepted : deleteMultiKey elements (some channel) (some index) save = (.ok message, some saved)) :
    getKeys elements saved = (getKeys elements channel).eraseIdx index.toNat ↔
      ((getKeys elements channel).eraseIdx index.toNat = [] ∨ Rejoins elements ((getKeys elements channel).eraseIdx index.toNat)) := by
  obtain ⟨_, single, blank, key⟩ := deleted_key accepted
  have reading : getKeys elements channel = channelKeysFromRaw elements channel.key := by
    rw [getKeys, keySource_raw uncached]
  by_cases left : (getKeys elements channel).eraseIdx index.toNat = []
  · have none : getKeys elements channel = [] := by
      by_contra some
      have length := List.length_pos_iff.mpr some
      have erased := congrArg List.length left
      rw [List.length_eraseIdx] at erased
      split at erased <;> simp only [List.length_nil] at erased <;> omega
    rw [left, if_pos (show joinKeys [] = "" from rfl)] at key
    rw [getKeys, keySource_raw blank, key, ← reading, none]
    simp
  · have written := remaining_present _ index.toNat single (fun several => by
      rw [reading] at several ⊢
      exact several_ends decoder several) left
    rw [if_neg written] at key
    rw [getKeys, keySource_raw blank, key, reread_iff decoder left]
    simp [left]

-- The key text of a channel keeps its list through the cache and through a deletion exactly where the joined list is read back.
theorem keys_survive_iff (decoder : RawArrays elements) (channel : Channel) (uncached : channel.keys = [])
    (multi : channel.channelInfo.isMultiKey = true) :
    (getKeys elements (cacheKeys elements channel) = getKeys elements channel ↔ SurvivesCache elements channel.key) ∧
      ∀ index save message saved, deleteMultiKey elements (some channel) (some index) save = (.ok message, some saved) →
        (getKeys elements saved = (getKeys elements channel).eraseIdx index.toNat ↔
          ((getKeys elements channel).eraseIdx index.toNat = [] ∨
            Rejoins elements ((getKeys elements channel).eraseIdx index.toNat))) := by
  constructor
  · have reading : getKeys elements channel = channelKeysFromRaw elements channel.key := by
      rw [getKeys, keySource_raw uncached]
    rw [cached_iff decoder uncached multi, reading, survives_iff decoder]
  · intro index save message saved accepted
    exact deleted_iff decoder uncached accepted

end laws

/- A pretty-printed array of one object. -/

def prettyKey : String := "\x7b\n  \"a\": 1\n\x7d"

def prettyChannel : Channel := { key := "[\n" ++ prettyKey ++ "\n]", channelInfo := { isMultiKey := true, multiKeySize := 1 } }

def prettyElements (text : String) : Option (List String) := if text = prettyChannel.key then some [prettyKey] else none

theorem pretty_decoder : RawArrays prettyElements := by
  constructor
  · intro text keys decoded
    unfold prettyElements at decoded
    split at decoded
    · rename_i same
      obtain rfl := Option.some.inj decoded
      rw [same]
      decide +kernel
    · cases decoded
  · intro text keys decoded
    unfold prettyElements at decoded
    split at decoded
    · obtain rfl := Option.some.inj decoded
      decide +kernel
    · cases decoded
  · intro text keys decoded several
    unfold prettyElements at decoded
    split at decoded
    · obtain rfl := Option.some.inj decoded
      simp at several
    · cases decoded

theorem keys_survive_iff_pretty :
    getKeys prettyElements (cacheKeys prettyElements prettyChannel) = getKeys prettyElements prettyChannel ↔
      SurvivesCache prettyElements prettyChannel.key :=
  (keys_survive_iff pretty_decoder prettyChannel rfl rfl).1

-- The one key becomes three in the cache.
theorem pretty_key_breaks :
    ¬ ∀ (elements : String → Option (List String)) (channel : Channel), RawArrays elements → channel.keys = [] →
      channel.channelInfo.isMultiKey = true → getKeys elements (cacheKeys elements channel) = getKeys elements channel := by
  intro same
  have kept := same prettyElements prettyChannel pretty_decoder rfl rfl
  revert kept
  decide +kernel

end CodeGo.Gateway.MultiKeys
