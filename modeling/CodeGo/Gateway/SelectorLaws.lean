import CodeGo.Gateway.ChannelSelection
import Mathlib.Tactic.Ring
import Mathlib.Algebra.Order.BigOperators.Group.List
import Mathlib.Algebra.Order.Group.Nat

set_option autoImplicit false

/- What the two selectors choose from, and when both choose as they should. -/

namespace CodeGo.Gateway.ChannelSelection

open Ranks Roulette

def Serves (group modelName : String) (channel : Channel) : Prop :=
  channel.status = channelStatusEnabled ∧ group ∈ getGroups channel ∧ modelName ∈ getModels channel

instance (group modelName : String) (channel : Channel) : Decidable (Serves group modelName channel) := inferInstanceAs (Decidable (_ ∧ _))

def serving (channels : List Channel) (group modelName : String) : List Channel := channels.filter fun channel => Serves group modelName channel

-- The normalised name counts where no channel serves the name itself.
def candidates (channels : List Channel) (group modelName : String) : List Channel :=
  match serving channels group modelName with
  | [] => serving channels group (formatMatchingModelName modelName)
  | first :: rest => first :: rest

def topRanked (served : List Channel) (retry : Nat) : List Channel :=
  served.filter fun channel => AtRank (served.map getPriority) retry (getPriority channel)

-- Nothing where no channel serves, else a channel of the tier, whatever is drawn.
structure Chooses (selection : Selection) (served tier : List Channel) : Prop where
  drawn : 0 < selection.bound
  absent : served = [] → ∀ roll < selection.bound, selection.choose roll = .ok none
  present : served ≠ [] → ∀ roll < selection.bound, ∃ channel ∈ tier, selection.choose roll = .ok (some channel)

def shareOf (selection : Selection) (channel : Channel) : Nat :=
  (List.range selection.bound).countP fun roll => decide (selection.choose roll = .ok (some channel))

structure Proportional (selection : Selection) (tier : List Channel) : Prop where
  weighted : total getWeight tier ≠ 0 → ∀ channel ∈ tier, shareOf selection channel * total getWeight tier = getWeight channel * selection.bound
  uniform : total getWeight tier = 0 → ∀ channel ∈ tier, shareOf selection channel * tier.length = selection.bound

-- The ids are keys, and the name lists of a channel repeat nothing.
structure Catalog (channels : List Channel) : Prop where
  unique : (channels.map Channel.id).Nodup
  models : ∀ channel ∈ channels, (getModels channel).Nodup
  groups : ∀ channel ∈ channels, (getGroups channel).Nodup

theorem flat_map_once {α β : Type} [DecidableEq α] (items : List α) (distinct : items.Nodup) (item : α) (found : List β) :
    (items.flatMap fun other => if other = item then found else []) = if item ∈ items then found else [] := by
  induction items with
  | nil => rfl
  | cons head rest ih =>
      obtain ⟨apart, others⟩ := List.nodup_cons.mp distinct
      rw [List.flatMap_cons, ih others]
      by_cases same : head = item
      · subst same
        rw [if_pos rfl, if_neg apart, if_pos List.mem_cons_self, List.append_nil]
      · have deeper : item ∈ head :: rest ↔ item ∈ rest := by
          rw [List.mem_cons]
          exact or_iff_right (Ne.symm same)
        rw [if_neg same, List.nil_append]
        exact (if_congr deeper rfl rfl).symm

section Cached

variable {channels : List Channel}

theorem appended_one {channel : Channel} (models : (getModels channel).Nodup) (groups : (getGroups channel).Nodup) (group modelName : String) :
    appendedIDs [channel] group modelName = if Serves group modelName channel then [channel.id] else [] := by
  rw [appendedIDs, List.flatMap_singleton]
  by_cases enabled : channel.status = channelStatusEnabled
  · have inner : ∀ groupName, ((getModels channel).flatMap fun name => if groupName = group ∧ name = modelName then [channel.id] else []) =
        if groupName = group then if modelName ∈ getModels channel then [channel.id] else [] else [] := by
      intro groupName
      by_cases same : groupName = group
      · rw [if_pos same, ← flat_map_once _ models modelName [channel.id]]
        simp only [same, true_and]
      · simp [same]
    rw [if_neg (not_not.mpr enabled)]
    simp only [inner]
    rw [flat_map_once _ groups, ← ite_and]
    exact if_congr ⟨fun both => ⟨enabled, both⟩, fun serves => serves.2⟩ rfl rfl
  · rw [if_pos enabled, if_neg fun serves => enabled serves.1]

theorem appended_ids (catalog : Catalog channels) (group modelName : String) :
    appendedIDs channels group modelName = (serving channels group modelName).map Channel.id := by
  have each : ∀ some ⊆ channels, appendedIDs some group modelName = (serving some group modelName).map Channel.id := by
    intro some inside
    induction some with
    | nil => rfl
    | cons channel rest ih =>
        have here := inside List.mem_cons_self
        have split : appendedIDs (channel :: rest) group modelName = appendedIDs [channel] group modelName ++ appendedIDs rest group modelName := by
          simp only [appendedIDs, List.flatMap_cons, List.flatMap_nil, List.append_nil]
        rw [split, appended_one (catalog.models channel here) (catalog.groups channel here), ih fun _ listed => inside (List.mem_cons_of_mem _ listed),
          serving, serving, List.filter_cons]
        by_cases serves : Serves group modelName channel
        · rw [if_pos serves, if_pos (decide_eq_true serves)]
          rfl
        · rw [if_neg serves, if_neg (by simpa using serves)]
          rfl
  exact each channels (List.Subset.refl _)

theorem find_listed (unique : (channels.map Channel.id).Nodup) {channel : Channel} (listed : channel ∈ channels) :
    channels.find? (fun other => decide (other.id = channel.id)) = some channel := by
  induction channels with
  | nil => cases listed
  | cons head rest ih =>
      rw [List.map_cons, List.nodup_cons] at unique
      obtain rfl | deeper := List.mem_cons.mp listed
      · exact List.find?_cons_of_pos (decide_eq_true rfl)
      · have differs : ¬ head.id = channel.id := fun same => unique.1 (same ▸ List.mem_map_of_mem deeper)
        rw [List.find?_cons_of_neg (by simpa using differs)]
        exact ih unique.2 deeper

theorem map_looked (lookup : Int → Option Channel) (ids : List Int) (known : ∀ channelID ∈ ids, ∃ channel, lookup channelID = some channel ∧ channel.id = channelID) :
    (ids.filterMap lookup).map Channel.id = ids := by
  induction ids with
  | nil => rfl
  | cons channelID rest ih =>
      obtain ⟨channel, found, same⟩ := known channelID List.mem_cons_self
      rw [List.filterMap_cons_some found, List.map_cons, same, ih fun other listed => known other (List.mem_cons_of_mem _ listed)]

theorem looked_map (lookup : Int → Option Channel) (served : List Channel) (known : ∀ channel ∈ served, lookup channel.id = some channel) :
    (served.map Channel.id).filterMap lookup = served := by
  induction served with
  | nil => rfl
  | cons channel rest ih =>
      rw [List.map_cons, List.filterMap_cons_some (known channel List.mem_cons_self), ih fun other listed => known other (List.mem_cons_of_mem _ listed)]

theorem map_cached (cache : Cache) (loaded : List Channel) (known : ∀ channel ∈ loaded, cache.channelsIDM channel.id = some channel) :
    (loaded.map Channel.id).mapM (cachedChannel cache) = .ok loaded := by
  induction loaded with
  | nil => rfl
  | cons channel rest ih =>
      have here : cachedChannel cache channel.id = .ok channel := by rw [cachedChannel, known channel List.mem_cons_self]
      rw [List.map_cons, List.mapM_cons, here, ih fun other listed => known other (List.mem_cons_of_mem _ listed)]
      rfl

-- The ids of a sorted entry are those of the channels it was filled from.
theorem ids_loaded (cache : Cache) (ids : List Int) (served : List Channel) (known : ∀ channel ∈ served, cache.channelsIDM channel.id = some channel)
    (perm : ids.Perm (served.map Channel.id)) : ∃ loaded : List Channel, loaded.Perm served ∧ ids = loaded.map Channel.id := by
  refine ⟨ids.filterMap cache.channelsIDM, ?_, ?_⟩
  · have moved := perm.filterMap cache.channelsIDM
    rwa [looked_map _ _ known] at moved
  · have each : ∀ channelID ∈ ids, ∃ channel, cache.channelsIDM channelID = some channel ∧ channel.id = channelID := by
      intro channelID listed
      obtain ⟨channel, inside, same⟩ := List.mem_map.mp (perm.mem_iff.mp listed)
      exact ⟨channel, same ▸ known channel inside, same⟩
    exact (map_looked _ _ each).symm

end Cached

section Wheel

-- The draw among the channels of one priority.
def wheel (target : List Channel) : Selection :=
  let smooth := smoothing (target.map getWeight).sum target.length
  { bound := smooth.sumWeight * smooth.factor, choose := chooseTarget smooth target }

variable {target : List Channel}

theorem total_smooth (smooth : Smoothing) (items : List Channel) :
    total smooth.weight items = total getWeight items * smooth.factor + items.length * smooth.adjustment := by
  induction items with
  | nil => simp [total]
  | cons channel rest ih =>
      rw [total_cons, total_cons, ih, List.length_cons, Smoothing.weight]
      ring

theorem smoothing_total (weight count : Nat) :
    (smoothing weight count).sumWeight * (smoothing weight count).factor =
      weight * (smoothing weight count).factor + count * (smoothing weight count).adjustment := by
  by_cases weightless : weight = 0
  · simp [smoothing, weightless]
  · by_cases light : weight / count < 10
    · simp [smoothing, weightless, light]
    · simp [smoothing, weightless, light]

theorem smoothing_positive (weight count : Nat) (filled : 0 < count) : 0 < (smoothing weight count).sumWeight * (smoothing weight count).factor := by
  by_cases weightless : weight = 0
  · simp [smoothing, weightless, filled]
  · by_cases light : weight / count < 10
    · simp [smoothing, weightless, light, Nat.pos_of_ne_zero weightless]
    · simp [smoothing, weightless, light, Nat.pos_of_ne_zero weightless]

theorem wheel_total (target : List Channel) : (wheel target).bound = total (smoothing (total getWeight target) target.length).weight target := by
  rw [total_smooth, ← smoothing_total]
  rfl

theorem wheel_drawn (filled : target ≠ []) : 0 < (wheel target).bound := smoothing_positive _ _ (List.length_pos_iff.mpr filled)

theorem choose_target_iff (smooth : Smoothing) (roll : Nat) (channel : Channel) :
    chooseTarget smooth target roll = .ok (some channel) ↔ spin smooth.weight roll target = some channel := by
  rw [chooseTarget]
  cases spin smooth.weight roll target with
  | none => simp
  | some found => simp

theorem wheel_lands (filled : target ≠ []) (roll : Nat) (below : roll < (wheel target).bound) :
    ∃ channel ∈ target, (wheel target).choose roll = .ok (some channel) := by
  rw [wheel_total] at below
  obtain ⟨channel, listed, lands⟩ := spin_lands (roll : Int) target filled (Int.ofNat_lt.mpr below)
  exact ⟨channel, listed, (choose_target_iff _ _ _).mpr lands⟩

theorem wheel_share (distinct : target.Nodup) (channel : Channel) (listed : channel ∈ target) :
    shareOf (wheel target) channel = (smoothing (total getWeight target) target.length).weight channel := by
  rw [← @share_eq _ (smoothing (total getWeight target) target.length).weight _ target distinct channel listed, shareOf, share, wheel_total]
  apply List.countP_congr
  intro roll _
  rw [decide_eq_true_eq, decide_eq_true_eq]
  exact choose_target_iff _ _ _

theorem weightless (none : total getWeight target = 0) (channel : Channel) (listed : channel ∈ target) : getWeight channel = 0 := by
  have least : getWeight channel ≤ total getWeight target := List.single_le_sum (fun _ _ => Nat.zero_le _) _ (List.mem_map_of_mem listed)
  omega

theorem wheel_proportional (distinct : target.Nodup) : Proportional (wheel target) target := by
  refine ⟨fun weighs channel listed => ?_, fun none channel listed => ?_⟩
  · rw [wheel_share distinct channel listed, wheel_total, total_smooth, Smoothing.weight]
    have plain : (smoothing (total getWeight target) target.length).adjustment = 0 := by
      rw [smoothing, if_neg weighs]
      split <;> rfl
    rw [plain]
    ring
  · rw [wheel_share distinct channel listed, wheel_total, total_smooth, Smoothing.weight, weightless none channel listed, none]
    ring

theorem Proportional.perm {selection : Selection} {tier : List Channel} (proportional : Proportional selection target) (perm : target.Perm tier) :
    Proportional selection tier := by
  have weights : total getWeight target = total getWeight tier := (perm.map getWeight).sum_eq
  refine ⟨fun weighs channel listed => ?_, fun none channel listed => ?_⟩
  · rw [← weights] at weighs ⊢
    exact proportional.weighted weighs channel (perm.mem_iff.mpr listed)
  · rw [← perm.length_eq]
    exact proportional.uniform (weights.trans none) channel (perm.mem_iff.mpr listed)

end Wheel

section Tiers

variable {served : List Channel}

theorem choose_among {loaded : List Channel} (perm : loaded.Perm served) (filled : served ≠ []) (group modelName : String) (retry : Nat) :
    ∃ target : List Channel, target.Perm (topRanked served retry) ∧ target ≠ [] ∧ chooseAmong loaded group modelName retry = wheel target := by
  have prios : (loaded.map getPriority).Perm (served.map getPriority) := perm.map getPriority
  have some_ : loaded.map getPriority ≠ [] := by
    intro none
    rw [List.map_eq_nil_iff.mp none] at perm
    exact filled perm.nil_eq.symm
  have ranked := (nth_at_rank (loaded.map getPriority) retry 0 some_).congr fun _ => prios.mem_iff
  generalize chosen : (descending (loaded.map getPriority)).getD
    (if (descending (loaded.map getPriority)).length ≤ retry then (descending (loaded.map getPriority)).length - 1 else retry) 0 = priority at ranked
  have tiers : (loaded.filter fun channel => getPriority channel = priority).Perm (topRanked served retry) := by
    have moved := perm.filter fun channel => decide (getPriority channel = priority)
    have same : ∀ channel ∈ served,
        decide (getPriority channel = priority) = decide (AtRank (served.map getPriority) retry (getPriority channel)) := by
      intro channel _
      exact decide_eq_decide.mpr ⟨fun same => same ▸ ranked, fun other => other.unique ranked⟩
    rwa [List.filter_congr same] at moved
  obtain ⟨channel, listed, same⟩ := List.mem_map.mp ranked.1
  have inside : channel ∈ loaded.filter fun channel => getPriority channel = priority :=
    List.mem_filter.mpr ⟨perm.mem_iff.mpr listed, decide_eq_true same⟩
  refine ⟨_, tiers, List.ne_nil_of_mem inside, ?_⟩
  have counted : ¬ (loaded.filter fun channel => getPriority channel = priority).length = 0 := by
    rw [List.length_eq_zero_iff]
    exact List.ne_nil_of_mem inside
  simp only [chooseAmong, chosen, if_neg counted, wheel]

-- Among one candidate there is one priority.
theorem top_ranked_single (channel : Channel) (retry : Nat) : topRanked [channel] retry = [channel] := by
  obtain ⟨target, tiers, filled, _⟩ := choose_among (List.Perm.refl [channel]) (List.cons_ne_nil _ _) "" "" retry
  have some_ : topRanked [channel] retry ≠ [] := fun none => filled (List.perm_nil.mp (none ▸ tiers))
  rw [topRanked] at some_ ⊢
  rw [List.filter_eq_self]
  intro other listed
  obtain rfl := List.mem_singleton.mp listed
  by_contra dropped
  apply some_
  rw [List.filter_eq_nil_iff]
  intro same inside
  obtain rfl := List.mem_singleton.mp inside
  exact dropped

theorem fixed_none (retry : Nat) : Chooses (.fixed (.ok none)) [] (topRanked [] retry) ∧ Proportional (.fixed (.ok none)) (topRanked [] retry) :=
  ⟨⟨Nat.one_pos, fun _ _ _ => rfl, fun filled => absurd rfl filled⟩, ⟨fun _ _ listed => absurd listed List.not_mem_nil, fun _ _ listed => absurd listed List.not_mem_nil⟩⟩

theorem fixed_single (channel : Channel) (retry : Nat) :
    Chooses (.fixed (.ok (some channel))) [channel] (topRanked [channel] retry) ∧
      Proportional (.fixed (.ok (some channel))) (topRanked [channel] retry) := by
  rw [top_ranked_single]
  have share : shareOf (.fixed (.ok (some channel))) channel = 1 := by simp [shareOf, Selection.fixed, List.range_succ]
  have weight : total getWeight [channel] = getWeight channel := by simp [total]
  refine ⟨⟨Nat.one_pos, fun none => absurd none (List.cons_ne_nil _ _), fun _ _ _ => ⟨channel, List.mem_cons_self, rfl⟩⟩, ?_, ?_⟩
  · intro _ other listed
    obtain rfl := List.mem_singleton.mp listed
    rw [share, weight, Nat.one_mul]
    exact (Nat.mul_one _).symm
  · intro _ other listed
    obtain rfl := List.mem_singleton.mp listed
    rw [share]
    rfl

variable {channels : List Channel}

theorem Catalog.distinct (catalog : Catalog channels) : channels.Nodup := catalog.unique.of_map Channel.id

theorem serving_sublist (channels : List Channel) (group modelName : String) : (serving channels group modelName).Sublist channels :=
  List.filter_sublist

theorem candidates_sublist (channels : List Channel) (group modelName : String) : (candidates channels group modelName).Sublist channels := by
  unfold candidates
  split
  · exact serving_sublist channels group _
  · rename_i named
    exact named ▸ serving_sublist channels group modelName

theorem Catalog.cached (catalog : Catalog channels) (slice : Sorter Int) {channel : Channel} (listed : channel ∈ channels) :
    (initChannelCache slice channels).channelsIDM channel.id = some channel := by
  have unique : (channels.reverse.map Channel.id).Nodup := by
    rw [List.map_reverse, List.nodup_reverse]
    exact catalog.unique
  exact find_listed unique (List.mem_reverse.mpr listed)

theorem Catalog.entry (catalog : Catalog channels) (slice : Sorter Int) (group modelName : String) :
    ((initChannelCache slice channels).group2model2channels group modelName).Perm ((serving channels group modelName).map Channel.id) := by
  rw [← appended_ids catalog]
  exact slice.perm _ _

theorem Catalog.entries (catalog : Catalog channels) (slice : Sorter Int) (group modelName : String) :
    let cache := initChannelCache slice channels
    let named := cache.group2model2channels group modelName
    (if named.length = 0 then cache.group2model2channels group (formatMatchingModelName modelName) else named).Perm
      ((candidates channels group modelName).map Channel.id) := by
  intro cache named
  have perm : named.Perm ((serving channels group modelName).map Channel.id) := catalog.entry slice group modelName
  cases serves : serving channels group modelName with
  | nil =>
      rw [serves] at perm
      rw [if_pos (by rw [perm.length_eq]; rfl), candidates, serves]
      exact catalog.entry slice group _
  | cons first rest =>
      rw [serves] at perm
      have filled : ¬ named.length = 0 := by
        rw [perm.length_eq, List.length_map, List.length_cons]
        omega
      rw [if_neg filled, candidates, serves]
      exact perm

def firstIn {α : Type} : Sorter α :=
  ⟨fun before items => items.insertionSort fun first second => before second first = false, fun _ _ => List.perm_insertionSort _ _⟩

def twoChannels : List Channel :=
  [{ id := 1, models := "gpt-4o", group := "default", weight := some 30 },
    { id := 2, models := "gpt-4o,gpt-4-gizmo-*", group := "default,vip", weight := some 10 }]

theorem two_catalog : Catalog twoChannels := ⟨by decide, by decide +kernel, by decide +kernel⟩

end Tiers

section Rows

def namePairs (channel : Channel) : List (String × String) :=
  (getModels channel).flatMap fun modelName => (getGroups channel).map fun groupName => (groupName, modelName)

-- The pair of a channel has a row unless an earlier pair of the same channel has the same key.
def HasRow (group modelName : String) (channel : Channel) : Prop :=
  (namePairs channel).find? (fun pair => decide (abilityKey pair.1 pair.2 = abilityKey group modelName)) = some (group, modelName)

instance (group modelName : String) (channel : Channel) : Decidable (HasRow group modelName channel) := inferInstanceAs (Decidable (_ = _))

-- The enabled channels with a row for the group and the model.
def rowed (channels : List Channel) (group modelName : String) : List Channel :=
  (serving channels group modelName).filter fun channel => HasRow group modelName channel

theorem filter_row (channel : Channel) (groupName name group modelName : String) (others : List Ability) :
    ((abilityOf channel groupName name :: others).filter fun ability => ability.group = group ∧ ability.model = modelName) =
      (if groupName = group ∧ name = modelName then [abilityOf channel group modelName] else []) ++
        others.filter fun ability => ability.group = group ∧ ability.model = modelName := by
  by_cases pair : groupName = group ∧ name = modelName
  · obtain ⟨rfl, rfl⟩ := pair
    simp [abilityOf]
  · rw [if_neg pair, List.nil_append, List.filter_cons]
    exact if_neg fun both => pair (of_decide_eq_true both)

theorem build_loop_rows (channel : Channel) (group modelName : String) (pairs : List (String × String)) (abilitySet : List String) :
    ((buildLoop channel abilitySet pairs).filter fun ability => ability.group = group ∧ ability.model = modelName) =
      if abilityKey group modelName ∉ abilitySet ∧
          pairs.find? (fun pair => decide (abilityKey pair.1 pair.2 = abilityKey group modelName)) = some (group, modelName) then
        [abilityOf channel group modelName]
      else [] := by
  induction pairs generalizing abilitySet with
  | nil => simp [buildLoop]
  | cons pair rest ih =>
      obtain ⟨groupName, name⟩ := pair
      by_cases same : abilityKey groupName name = abilityKey group modelName
      · have found : ((groupName, name) :: rest).find? (fun pair => decide (abilityKey pair.1 pair.2 = abilityKey group modelName)) =
            some (groupName, name) := List.find?_cons_of_pos (decide_eq_true same)
        rw [buildLoop, found, same]
        by_cases seen : abilityKey group modelName ∈ abilitySet
        · rw [if_pos seen, ih, if_neg fun both => both.1 seen, if_neg fun both => both.1 seen]
        · have later := ih (abilityKey group modelName :: abilitySet)
          rw [if_neg (not_and_of_not_left _ (not_not_intro List.mem_cons_self))] at later
          have pair : (groupName = group ∧ name = modelName) ↔
              abilityKey group modelName ∉ abilitySet ∧ some (groupName, name) = some (group, modelName) := by
            rw [Option.some_inj, Prod.mk.injEq]
            exact (and_iff_right seen).symm
          rw [if_neg seen, filter_row, later, List.append_nil]
          exact if_congr pair rfl rfl
      · have found : ((groupName, name) :: rest).find? (fun pair => decide (abilityKey pair.1 pair.2 = abilityKey group modelName)) =
            rest.find? fun pair => decide (abilityKey pair.1 pair.2 = abilityKey group modelName) :=
          List.find?_cons_of_neg fun equal => same (of_decide_eq_true equal)
        rw [buildLoop, found]
        by_cases seen : abilityKey groupName name ∈ abilitySet
        · rw [if_pos seen, ih]
        · have pair : ¬ (groupName = group ∧ name = modelName) := by
            rintro ⟨rfl, rfl⟩
            exact same rfl
          rw [if_neg seen, filter_row, if_neg pair, List.nil_append, ih]
          have set : abilityKey group modelName ∉ abilityKey groupName name :: abilitySet ↔ abilityKey group modelName ∉ abilitySet := by
            rw [List.mem_cons, not_or]
            exact and_iff_right (Ne.symm same)
          exact if_congr (and_congr_left' set) rfl rfl

theorem HasRow.named {group modelName : String} {channel : Channel} (row : HasRow group modelName channel) :
    group ∈ getGroups channel ∧ modelName ∈ getModels channel := by
  obtain ⟨name, named, inside⟩ := List.mem_flatMap.mp (List.mem_of_find?_eq_some row)
  obtain ⟨groupName, grouped, same⟩ := List.mem_map.mp inside
  cases same
  exact ⟨grouped, named⟩

theorem enabled_one (channel : Channel) (group modelName : String) :
    enabledAbilities (buildChannelAbilities channel) group modelName =
      if Serves group modelName channel ∧ HasRow group modelName channel then [abilityOf channel group modelName] else [] := by
  have rows := build_loop_rows channel group modelName (namePairs channel) []
  have pointwise : enabledAbilities (buildChannelAbilities channel) group modelName =
      ((buildChannelAbilities channel).filter fun ability => ability.group = group ∧ ability.model = modelName).filter Ability.enabled := by
    rw [enabledAbilities, List.filter_filter]
    apply List.filter_congr
    intro ability _
    by_cases first : ability.group = group <;> by_cases second : ability.model = modelName <;> simp [first, second]
  rw [pointwise, buildChannelAbilities]
  change (List.filter _ (buildLoop channel [] (namePairs channel))).filter _ = _
  rw [rows]
  by_cases row : HasRow group modelName channel
  · rw [if_pos ⟨List.not_mem_nil, row⟩]
    by_cases enabled : channel.status = channelStatusEnabled
    · have marked : (abilityOf channel group modelName).enabled = true := decide_eq_true enabled
      rw [if_pos ⟨⟨enabled, row.named⟩, row⟩, List.filter_cons_of_pos marked]
      rfl
    · have unmarked : ¬ (abilityOf channel group modelName).enabled = true := fun marked => enabled (of_decide_eq_true marked)
      rw [if_neg fun both => enabled both.1.1, List.filter_cons_of_neg unmarked]
      rfl
  · rw [if_neg fun both => row both.2, if_neg fun both => row both.2]
    rfl

theorem enabled_rows (channels : List Channel) (group modelName : String) :
    enabledAbilities (abilitiesTable channels) group modelName = (rowed channels group modelName).map fun channel => abilityOf channel group modelName := by
  induction channels with
  | nil => rfl
  | cons channel rest ih =>
      have split : enabledAbilities (abilitiesTable (channel :: rest)) group modelName =
          enabledAbilities (buildChannelAbilities channel) group modelName ++ enabledAbilities (abilitiesTable rest) group modelName := by
        rw [abilitiesTable, List.flatMap_cons, enabledAbilities, List.filter_append]
        rfl
      rw [split, enabled_one, ih, rowed, rowed, serving, serving, List.filter_filter, List.filter_filter, List.filter_cons]
      by_cases both : Serves group modelName channel ∧ HasRow group modelName channel
      · rw [if_pos both, if_pos (by simp [both.1, both.2])]
        rfl
      · rw [if_neg both, if_neg (by simpa [and_comm] using both)]
        rfl

end Rows

section Stored

variable {channels : List Channel} {group modelName : String} {retry : Nat}

theorem enabled_priorities : (enabledAbilities (abilitiesTable channels) group modelName).map Ability.priority = (rowed channels group modelName).map getPriority := by
  rw [enabled_rows, List.map_map]
  rfl

def tierRows (channels : List Channel) (group modelName : String) (priority : Int) : List Ability :=
  (enabledAbilities (abilitiesTable channels) group modelName).filter fun ability => ability.priority = priority

theorem query_filled (filled : rowed channels group modelName ≠ []) :
    ∃ priority, AtRank ((rowed channels group modelName).map getPriority) retry priority ∧
      buildChannelQuery (abilitiesTable channels) group modelName retry = .ok (tierRows channels group modelName priority) := by
  have some_ : (rowed channels group modelName).map getPriority ≠ [] := fun none => filled (List.map_eq_nil_iff.mp none)
  by_cases first : retry = 0
  · subst first
    cases greatest : ((rowed channels group modelName).map getPriority).max? with
    | none => exact absurd (List.max?_eq_none_iff.mp greatest) some_
    | some priority =>
        obtain ⟨listed, above⟩ := List.max?_eq_some_iff.mp greatest
        refine ⟨priority, at_rank_max _ _ listed above, ?_⟩
        simp only [tierRows, buildChannelQuery, if_true, enabled_priorities, greatest, Option.some_inj]
  · refine ⟨_, nth_at_rank _ retry 0 some_, ?_⟩
    have counted : ¬ (descending ((rowed channels group modelName).map getPriority)).length = 0 := by
      obtain ⟨value, listed⟩ := List.exists_mem_of_ne_nil _ some_
      exact (List.length_pos_of_mem (mem_descending.mpr listed)).ne'
    by_cases last : (descending ((rowed channels group modelName).map getPriority)).length ≤ retry
    · simp only [tierRows, buildChannelQuery, if_neg first, loadChannelPriority, enabled_priorities, if_neg counted, if_pos last]
    · simp only [tierRows, buildChannelQuery, if_neg first, loadChannelPriority, enabled_priorities, if_neg counted, if_neg last]

theorem query_empty (nobody : rowed channels group modelName = []) (order : Sorter Ability) :
    loadRandomSatisfiedChannelFromDB order channels (abilitiesTable channels) group modelName retry =
      .fixed (if retry = 0 then .ok none else .error "数据库一致性被破坏") := by
  have none : enabledAbilities (abilitiesTable channels) group modelName = [] := by
    rw [enabled_rows, nobody, List.map_nil]
  by_cases first : retry = 0
  · have empty : order.sort heavier [] = [] := List.perm_nil.mp (order.perm _ _)
    simp [loadRandomSatisfiedChannelFromDB, buildChannelQuery, first, none, empty]
  · simp [loadRandomSatisfiedChannelFromDB, buildChannelQuery, loadChannelPriority, first, none, descending]

theorem pick_listed (weight : Int) (rows : List Ability) : pickAbility weight rows = 0 ∨ ∃ ability ∈ rows, pickAbility weight rows = ability.channelID := by
  induction rows generalizing weight with
  | nil => exact .inl rfl
  | cons ability rest ih =>
      rw [pickAbility]
      split
      · exact .inr ⟨ability, List.mem_cons_self, rfl⟩
      · exact (ih _).imp_right fun found => found.imp fun _ both => ⟨List.mem_cons_of_mem _ both.1, both.2⟩

theorem stored_filled (catalog : Catalog channels) (order : Sorter Ability) (filled : rowed channels group modelName ≠ []) :
    let stored := loadRandomSatisfiedChannelFromDB order channels (abilitiesTable channels) group modelName retry
    0 < stored.bound ∧ ∀ roll, ∃ channel ∈ topRanked (rowed channels group modelName) retry, stored.choose roll = .ok (some channel) := by
  intro stored
  obtain ⟨priority, ranked, query⟩ := @query_filled channels group modelName retry filled
  have rows : ∀ ability ∈ order.sort heavier (tierRows channels group modelName priority),
      ∃ channel ∈ topRanked (rowed channels group modelName) retry, ability.channelID = channel.id := by
    intro ability listed
    obtain ⟨enabled, same⟩ := List.mem_filter.mp ((order.perm _ _).mem_iff.mp listed)
    rw [enabled_rows] at enabled
    obtain ⟨channel, row, rfl⟩ := List.mem_map.mp enabled
    have rank : getPriority channel = priority := of_decide_eq_true same
    exact ⟨channel, List.mem_filter.mpr ⟨row, decide_eq_true (rank ▸ ranked)⟩, rfl⟩
  have loads : ∀ channel ∈ topRanked (rowed channels group modelName) retry, loadChannel channels channel.id = .ok (some channel) := by
    intro channel listed
    have inside : channel ∈ channels := (serving_sublist channels group modelName).subset (List.mem_filter.mp (List.mem_filter.mp listed).1).1
    rw [loadChannel, find_listed catalog.unique inside]
  simp only [stored, loadRandomSatisfiedChannelFromDB, query]
  cases sorted : order.sort heavier (tierRows channels group modelName priority) with
  | nil =>
      -- The channel that has the priority has a row.
      obtain ⟨channel, row, rank⟩ := List.mem_map.mp ranked.1
      have inside : abilityOf channel group modelName ∈ tierRows channels group modelName priority := by
        rw [tierRows, enabled_rows]
        exact List.mem_filter.mpr ⟨List.mem_map_of_mem row, decide_eq_true rank⟩
      have listed := (order.perm heavier _).mem_iff.mpr inside
      rw [sorted] at listed
      cases listed
  | cons first rest =>
      rw [sorted] at rows
      refine ⟨?_, fun roll => ?_⟩
      · dsimp only
        rw [total_cons]
        omega
      · dsimp only
        have picked : ∃ ability ∈ first :: rest,
            (if pickAbility roll (first :: rest) = 0 then first.channelID else pickAbility roll (first :: rest)) = ability.channelID := by
          rcases pick_listed roll (first :: rest) with zero | ⟨ability, listed, same⟩
          · exact ⟨first, List.mem_cons_self, if_pos zero⟩
          · by_cases zero : pickAbility roll (first :: rest) = 0
            · exact ⟨first, List.mem_cons_self, if_pos zero⟩
            · exact ⟨ability, listed, (if_neg zero).trans same⟩
        obtain ⟨ability, listed, same⟩ := picked
        obtain ⟨channel, top, named⟩ := rows ability listed
        exact ⟨channel, top, by rw [same, named, loads channel top]⟩

end Stored

end CodeGo.Gateway.ChannelSelection
