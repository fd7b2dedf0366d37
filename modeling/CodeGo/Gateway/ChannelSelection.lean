import CodeGo.Gateway.UpstreamModels
import CodeGo.Lib.Ranks
import CodeGo.Lib.Roulette

set_option autoImplicit false

/- Choosing a channel for a group and a model, from the memory cache and from the abilities table. Weights are small
   enough that no sum of their hundredfolds leaves the machine's integers. -/

namespace CodeGo.Gateway.ChannelSelection

open Text

def channelStatusEnabled : Int := 1

structure Channel where
  id : Int
  status : Int := 1
  models : String
  group : String
  priority : Option Int := none
  weight : Option Nat := none
  tag : Option String := none
deriving DecidableEq, Repr

-- The two name columns are read the same way.
def namesOf (column : String) : List String := UpstreamModels.getModels { models := column }

def getModels (channel : Channel) : List String := namesOf channel.models

def getGroups (channel : Channel) : List String := namesOf channel.group

def getPriority (channel : Channel) : Int := channel.priority.getD 0

def getWeight (channel : Channel) : Nat := channel.weight.getD 0

def containsText (part text : String) : Bool := part.toList <:+: text.toList

def handleThinkingBudgetModel (name front wildcard : String) : String :=
  if hasPrefix front name && containsText "-thinking-" name then wildcard else name

def formatMatchingModelName (name : String) : String :=
  let name :=
    if name = "gpt-5.4-2026-03-05" then "gpt-5.4"
    else if name = "gpt-5.4-pro-2026-03-05" then "gpt-5.4-pro"
    else name
  let name :=
    if hasPrefix "gemini-2.5-flash-lite" name then handleThinkingBudgetModel name "gemini-2.5-flash-lite" "gemini-2.5-flash-lite-thinking-*"
    else if hasPrefix "gemini-2.5-flash" name then handleThinkingBudgetModel name "gemini-2.5-flash" "gemini-2.5-flash-thinking-*"
    else if hasPrefix "gemini-2.5-pro" name then handleThinkingBudgetModel name "gemini-2.5-pro" "gemini-2.5-pro-thinking-*"
    else name
  let name := if hasPrefix "gpt-4-gizmo" name then "gpt-4-gizmo-*" else name
  if hasPrefix "gpt-4o-gizmo" name then "gpt-4o-gizmo-*" else name

section Abilities

-- A missing priority is stored as the default of its column.
structure Ability where
  group : String
  model : String
  channelID : Int
  enabled : Bool
  priority : Int
  weight : Nat
  tag : Option String
deriving DecidableEq, Repr

def abilityKey (groupName modelName : String) : String := groupName ++ "|" ++ modelName

def abilityOf (channel : Channel) (groupName modelName : String) : Ability :=
  { group := groupName, model := modelName, channelID := channel.id, enabled := channel.status = channelStatusEnabled,
    priority := getPriority channel, weight := getWeight channel, tag := channel.tag }

-- The pairs of the nested loops with the keys that were seen.
def buildLoop (channel : Channel) : List String → List (String × String) → List Ability
  | _, [] => []
  | abilitySet, (groupName, modelName) :: rest =>
      if abilityKey groupName modelName ∈ abilitySet then buildLoop channel abilitySet rest
      else abilityOf channel groupName modelName :: buildLoop channel (abilityKey groupName modelName :: abilitySet) rest

def buildChannelAbilities (channel : Channel) : List Ability :=
  buildLoop channel [] ((getModels channel).flatMap fun modelName => (getGroups channel).map fun groupName => (groupName, modelName))

-- No two of these rows have the primary key of group, model and channel in common, so none is left out on a conflict.
def abilitiesTable (channels : List Channel) : List Ability := channels.flatMap buildChannelAbilities

end Abilities

-- A sort that leaves the order of equal items open.
structure Sorter (α : Type) where
  sort : (α → α → Bool) → List α → List α
  perm : ∀ before items, (sort before items).Perm items

-- The answer for each outcome of the one random number that is drawn.
structure Selection where
  bound : Nat
  choose : Nat → Except String (Option Channel)

-- An answer that draws nothing.
def Selection.fixed (answer : Except String (Option Channel)) : Selection := ⟨1, fun _ => answer⟩

section Cached

structure Cache where
  group2model2channels : String → String → List Int
  channelsIDM : Int → Option Channel

-- The ids that the loops over the enabled channels append to the entry of a group and a model.
def appendedIDs (channels : List Channel) (group modelName : String) : List Int :=
  channels.flatMap fun channel =>
    if channel.status ≠ channelStatusEnabled then []
    else (getGroups channel).flatMap fun groupName => (getModels channel).flatMap fun name =>
      if groupName = group ∧ name = modelName then [channel.id] else []

def cachedPriority (channelsIDM : Int → Option Channel) (channelID : Int) : Int := ((channelsIDM channelID).map getPriority).getD 0

def initChannelCache (slice : Sorter Int) (channels : List Channel) : Cache :=
  let channelsIDM := fun channelID => channels.reverse.find? fun channel => channel.id = channelID
  { group2model2channels := fun group modelName =>
      slice.sort (fun first second => decide (cachedPriority channelsIDM second < cachedPriority channelsIDM first))
        (appendedIDs channels group modelName)
    channelsIDM }

def missingChannel (channelID : Int) : String := "数据库一致性错误，渠道# " ++ toString channelID ++ " 不存在，请联系管理员修复"

def cachedChannel (cache : Cache) (channelID : Int) : Except String Channel :=
  match cache.channelsIDM channelID with
  | some channel => .ok channel
  | none => .error (missingChannel channelID)

structure Smoothing where
  sumWeight : Nat
  factor : Nat := 1
  adjustment : Nat := 0
deriving DecidableEq, Repr

def smoothing (sumWeight count : Nat) : Smoothing :=
  if sumWeight = 0 then { sumWeight := count * 100, adjustment := 100 }
  else if sumWeight / count < 10 then { sumWeight, factor := 100 }
  else { sumWeight }

def Smoothing.weight (smooth : Smoothing) (channel : Channel) : Nat := getWeight channel * smooth.factor + smooth.adjustment

def chooseTarget (smooth : Smoothing) (targetChannels : List Channel) (randomWeight : Nat) : Except String (Option Channel) :=
  match Roulette.spin smooth.weight randomWeight targetChannels with
  | some channel => .ok (some channel)
  | none => .error "channel not found"

def noChannel (group modelName : String) (targetPriority : Int) : String :=
  "no channel found, group: " ++ group ++ ", model: " ++ modelName ++ ", priority: " ++ toString targetPriority

def chooseAmong (channels : List Channel) (group modelName : String) (retry : Nat) : Selection :=
  let sortedPriorities := Ranks.descending (channels.map getPriority)
  let retry := if sortedPriorities.length ≤ retry then sortedPriorities.length - 1 else retry
  let targetPriority := sortedPriorities.getD retry 0
  let targetChannels := channels.filter fun channel => getPriority channel = targetPriority
  if targetChannels.length = 0 then .fixed (.error (noChannel group modelName targetPriority))
  else
    let smooth := smoothing (targetChannels.map getWeight).sum targetChannels.length
    { bound := smooth.sumWeight * smooth.factor, choose := chooseTarget smooth targetChannels }

def getRandomSatisfiedChannel (cache : Cache) (group modelName : String) (retry : Nat) : Selection :=
  let named := cache.group2model2channels group modelName
  let channelIDs := if named.length = 0 then cache.group2model2channels group (formatMatchingModelName modelName) else named
  match channelIDs with
  | [] => .fixed (.ok none)
  | [channelID] => .fixed ((cachedChannel cache channelID).map some)
  | _ =>
      match channelIDs.mapM (cachedChannel cache) with
      | .error problem => .fixed (.error problem)
      | .ok channels => chooseAmong channels group modelName retry

end Cached

section Stored

def enabledAbilities (abilities : List Ability) (group modelName : String) : List Ability :=
  abilities.filter fun ability => ability.group = group ∧ ability.model = modelName ∧ ability.enabled

def loadChannelPriority (abilities : List Ability) (group modelName : String) (retry : Nat) : Except String Int :=
  let priorities := Ranks.descending ((enabledAbilities abilities group modelName).map Ability.priority)
  if priorities.length = 0 then .error "数据库一致性被破坏"
  else if priorities.length ≤ retry then .ok (priorities.getD (priorities.length - 1) 0)
  else .ok (priorities.getD retry 0)

-- The rows that the query selects.
def buildChannelQuery (abilities : List Ability) (group modelName : String) (retry : Nat) : Except String (List Ability) :=
  let enabled := enabledAbilities abilities group modelName
  if retry = 0 then .ok (enabled.filter fun ability => some ability.priority = (enabled.map Ability.priority).max?)
  else
    match loadChannelPriority abilities group modelName retry with
    | .error problem => .error problem
    | .ok priority => .ok (enabled.filter fun ability => ability.priority = priority)

def heavier (first second : Ability) : Bool := second.weight < first.weight

-- The channel id stays zero where no row is reached.
def pickAbility : Int → List Ability → Int
  | _, [] => 0
  | weight, ability :: rest =>
      if weight - ((ability.weight : Int) + 10) ≤ 0 then ability.channelID else pickAbility (weight - ((ability.weight : Int) + 10)) rest

def loadChannel (channels : List Channel) (channelID : Int) : Except String (Option Channel) :=
  match channels.find? fun channel => channel.id = channelID with
  | some channel => .ok (some channel)
  | none => .error "record not found"

def loadRandomSatisfiedChannelFromDB (order : Sorter Ability) (channels : List Channel) (abilities : List Ability) (group modelName : String)
    (retry : Nat) : Selection :=
  match buildChannelQuery abilities group modelName retry with
  | .error problem => .fixed (.error problem)
  | .ok rows =>
      match order.sort heavier rows with
      | [] => .fixed (.ok none)
      | first :: rest =>
          { bound := Roulette.total (fun ability => ability.weight + 10) (first :: rest)
            choose := fun weight =>
              let channelID := pickAbility weight (first :: rest)
              loadChannel channels (if channelID = 0 then first.channelID else channelID) }

end Stored

end CodeGo.Gateway.ChannelSelection
