import CodeGo.BlindBox.Simulator
import CodeGo.BlindBox.InventoryRuns

set_option autoImplicit false

namespace CodeGo.BlindBox

open Relational Text Billing

/- The simulator beside real openings of current boxes that are fed the same outcomes. -/

section Counters

-- A draw reads nothing of the pity row but its two counters.
structure SameCounters (first second : BalanceBlindBoxPityState) : Prop where
  small : first.consecutiveUnder6USD = second.consecutiveUnder6USD
  big : first.consecutiveUnder35USD = second.consecutiveUnder35USD

variable {setting : Setting} {first second third : BalanceBlindBoxPityState}

theorem SameCounters.trans (early : SameCounters first second) (late : SameCounters second third) : SameCounters first third :=
  ⟨early.small.trans late.small, early.big.trans late.big⟩

theorem SameCounters.draw (same : SameCounters first second) (drawn : Draw) : draw setting first drawn = draw setting second drawn := by
  have resolved : resolveBalanceBlindBoxGuarantee first drawn.first setting = resolveBalanceBlindBoxGuarantee second drawn.first setting := by
    rw [resolveBalanceBlindBoxGuarantee, resolveBalanceBlindBoxGuarantee, same.small, same.big]
  unfold BlindBox.draw drawBalanceBlindBoxReward
  rw [resolved]

theorem SameCounters.drawn (same : SameCounters first second) (drawn : Draw) :
    SameCounters (drawnOn setting first drawn) (drawnOn setting second drawn) := by
  rw [drawnOn, drawnOn, same.draw drawn, advanced_cases, advanced_cases]
  split
  · exact ⟨rfl, rfl⟩
  · split
    · exact ⟨rfl, congrArg (· + 1) same.big⟩
    · exact ⟨congrArg (· + 1) same.small, congrArg (· + 1) same.big⟩

theorem SameCounters.rewards (same : SameCounters first second) (draws : List Draw) :
    rewards setting first draws = rewards setting second draws := by
  induction draws generalizing first second with
  | nil => rfl
  | cons drawn rest ih => rw [BlindBox.rewards, BlindBox.rewards, same.draw drawn, ih (same.drawn drawn)]

theorem SameCounters.after (same : SameCounters first second) (draws : List Draw) :
    SameCounters (pityAfter setting first draws) (pityAfter setting second draws) := by
  induction draws generalizing first second with
  | nil => exact same
  | cons drawn rest ih =>
      rw [pity_after_cons, pity_after_cons]
      exact ih (same.drawn drawn)

theorem pity_after_single (pity : BalanceBlindBoxPityState) (drawn : Draw) :
    pityAfter setting pity [drawn] =
      advanceBalanceBlindBoxPity pity (draw setting pity drawn).rewardType (draw setting pity drawn).rewardUSD setting := by
  simp only [pityAfter, List.foldl_cons, List.foldl_nil, drawnOn, advancedBy]

theorem drawn_on_id (pity : BalanceBlindBoxPityState) (drawn : Draw) : (drawnOn setting pity drawn).id = pity.id := by
  rw [drawnOn, advanced_cases]
  split
  · rfl
  · split <;> rfl

theorem pity_after_id (pity : BalanceBlindBoxPityState) (draws : List Draw) : (pityAfter setting pity draws).id = pity.id := by
  induction draws generalizing pity with
  | nil => rfl
  | cons drawn rest ih => rw [pity_after_cons, ih, drawn_on_id]

end Counters

section Openings

variable {store after : BoxStore} {userID : Int}

def pityOf (userID : Int) (store : BoxStore) : BalanceBlindBoxPityState :=
  (store.pity.find? fun pity => pity.userID = userID).getD { userID }

theorem loaded_pity (answer : BalanceBlindBoxPityState) (ran : loadPity userID store = (.ok answer, after)) :
    ∃ pity, after = { store with pity } ∧ answer ∈ pity.rows ∧ answer.userID = userID ∧ SameCounters answer (pityOf userID store) := by
  simp only [loadPity, Tx.ran_bind, Tx.ran_view] at ran
  obtain ⟨_, _, ⟨rfl, rfl⟩, continued⟩ := ran
  rw [pityOf]
  cases found : store.pity.find? fun pity => pity.userID = userID with
  | some pity =>
      simp only [found, Tx.ran_pure] at continued
      obtain ⟨rfl, rfl⟩ := continued
      obtain ⟨member, hit⟩ := Table.mem_of_find? _ _ _ found
      exact ⟨store.pity, rfl, member, of_decide_eq_true hit, rfl, rfl⟩
  | none =>
      simp only [found, Tx.ran_bind, Tx.ran_view, ran_add_row, Tx.ran_pure] at continued
      obtain ⟨_, _, ⟨rfl, rfl⟩, _, _, ⟨pity, inserted, rfl⟩, rfl, rfl⟩ := continued
      obtain ⟨_, rows⟩ := (Table.insert?_eq_some_iff _ _ _).mp inserted
      refine ⟨pity, rfl, ?_, rfl, rfl, rfl⟩
      rw [rows]
      exact List.mem_append_right _ (List.mem_singleton_self _)

theorem pity_keyed (first second : BalanceBlindBoxPityState) (same : first.userID = second.userID) : Clash first second := .inr same

theorem saved_pity (row last : BalanceBlindBoxPityState) (member : row ∈ store.pity.rows) (owner : row.userID = userID) (same : last.id = row.id)
    (ran : savePity last store = (.ok (), after)) : SameCounters (pityOf userID after) last := by
  obtain rfl := (Tx.ran_edit _ _ _ _).mp ran
  have found : store.pity.find? (fun pity => pity.userID = userID) = some row := by
    apply Table.find?_of_mem _ _ _ member (decide_eq_true owner)
    intro other hit
    exact pity_keyed row other (owner.trans (of_decide_eq_true hit).symm)
  have selected : decide (row.id = last.id) = true := decide_eq_true same.symm
  have updated := Table.find?_update store.pity (fun row => decide (row.id = last.id)) (fun pity => decide (pity.userID = userID))
    (fun row => { last with id := row.id, userID := row.userID }) (fun _ => rfl) (fun _ => rfl)
  rw [found, Option.map_some, if_pos selected] at updated
  rw [pityOf, updated]
  exact ⟨rfl, rfl⟩

theorem paid_keeps_pity (env : WalletEnv) (item : BalanceBlindBoxItem) (reward : SealedReward) (created record : BlindBoxOpenRecord)
    (ran : payRewardTx env userID item reward created store = (.ok record, after)) : after.pity = store.pity := by
  unfold payRewardTx at ran
  by_cases extra : reward.rewardType = some .prop ∧ reward.rewardTitle = extraDrawTitle
  · rw [if_pos extra, Tx.ran_bind] at ran
    obtain ⟨_, middle, bonus, answered⟩ := ran
    obtain ⟨_, rfl⟩ := (Tx.ran_pure _ _ _ _).mp answered
    obtain ⟨items, _, rfl⟩ := ran_create_item _ bonus
    rfl
  · rw [if_neg extra] at ran
    by_cases prop : reward.rewardType = some .prop
    · rw [if_pos prop, Tx.ran_bind] at ran
      obtain ⟨card, middle, made, answered⟩ := ran
      obtain ⟨_, rfl⟩ := (Tx.ran_pure _ _ _ _).mp answered
      unfold createBlindBoxPropTx at made
      cases known : getBlindBoxPropSpecByTitle reward.rewardTitle with
      | none => simp only [known, Tx.ran_fail] at made
      | some spec =>
          simp only [known] at made
          obtain ⟨props, _, _, rfl⟩ := ran_create_prop _ _ made
          rfl
    · simp only [if_neg prop, Tx.ran_bind, Tx.ran_reject, applyBlindBoxWalletRewardTx, ran_on_wallet, Tx.ran_pure] at ran
      obtain ⟨_, _, ⟨_, rfl⟩, _, _, ⟨_, _, ⟨_, rfl⟩, wallet, _, rfl⟩, _, rfl⟩ := ran
      rfl

-- A box of the current pool, or one whose reward was never drawn.
def Current (item : BalanceBlindBoxItem) : Prop := item.reward.poolVersion = balanceBlindBoxPoolVersion ∨ item.reward.rewardType = none

structure Drew (setting : Setting) (pity : BalanceBlindBoxPityState) (draws : List Draw) (userID : Int) (store : BoxStore)
    (records : List BlindBoxOpenRecord) (last : BalanceBlindBoxPityState) (after : BoxStore) : Prop where
  shown : List.Forall₂ Describes records (rewards setting pity draws)
  counters : last = pityAfter setting pity draws
  pity : after.pity = store.pity
  counted : openedCount userID after = openedCount userID store + records.length

theorem opened_draw (env : WalletEnv) (setting : Setting) (requestID : String) (item : BalanceBlindBoxItem) (pity : BalanceBlindBoxPityState)
    (first : Bool) (rolls : Rolls) (now : Int) (answer : BlindBoxOpenRecord × BalanceBlindBoxPityState) (current : Current item)
    (ran : openSealedBalanceBlindBoxItemTx env setting userID requestID item pity first rolls now store = (.ok answer, after)) :
    Drew setting pity [⟨first, rolls⟩] userID store [answer.1] answer.2 after := by
  simp only [openSealedBalanceBlindBoxItemTx, markOpened, Tx.ran_bind, Tx.ran_view, Tx.ran_pure] at ran
  obtain ⟨created, _, made, record, middle, rewarded, _, final, ⟨_, _, ⟨rfl, rfl⟩, marked⟩, rfl, rfl⟩ := ran
  obtain ⟨records, rewardWalletType, shape, _, rows, rfl⟩ := ran_create_record _ _ made
  have paid := paid_reward env userID item _ created record rewarded
  have kept := paid_keeps_pity env item _ created record rewarded
  have revealed : revealedReward setting item pity first rolls = draw setting pity ⟨first, rolls⟩ := if_pos current
  rw [revealed] at shape
  have facts := congrArg (fun columns => (columns.rewardType, columns.rewardTier, columns.rewardUSD, columns.creditAmount, columns.rewardTitle))
    paid.columns
  have named := congrArg (fun columns => (columns.userID, columns.poolType)) paid.columns
  simp only [BlindBoxOpenRecord.columns, shape, drawnRecord, Prod.mk.injEq] at facts named
  have left : final.pity = middle.pity ∧ final.records = middle.records := by
    cases found : middle.items.find? fun row => row.id = item.id ∧ row.ownerUserID = userID ∧ row.status = .available with
    | none => simp only [found, Tx.ran_fail] at marked
    | some row =>
        simp only [found, Tx.ran_edit] at marked
        subst marked
        exact ⟨rfl, rfl⟩
  refine ⟨?_, ?_, left.1.trans kept, ?_⟩
  · rw [rewards, rewards]
    exact .cons ⟨facts.1, facts.2.1, facts.2.2.1, facts.2.2.2.1, facts.2.2.2.2⟩ .nil
  · rw [revealed, pity_after_single]
  · have counts : ([created.columns].filter fun record => record.userID = userID ∧ record.poolType = .unified) = [created.columns] := by
      rw [List.filter_eq_self, List.forall_mem_singleton, shape]
      exact decide_eq_true ⟨rfl, rfl⟩
    rw [openedCount, left.2, paid.records, rows, List.filter_append, List.length_append, counts]
    rfl

theorem Drew.append {setting : Setting} {pity last final : BalanceBlindBoxPityState} {early late : List Draw} {middle : BoxStore}
    {records more : List BlindBoxOpenRecord} (one : Drew setting pity early userID store records last middle)
    (others : Drew setting last late userID middle more final after) : Drew setting pity (early ++ late) userID store (records ++ more) final after where
  shown := by
    rw [rewards_append, ← one.counters]
    exact List.rel_append one.shown others.shown
  counters := by rw [others.counters, one.counters, pity_after_append]
  pity := others.pity.trans one.pity
  counted := by rw [others.counted, one.counted, List.length_append, Nat.add_assoc]

theorem first_draw (opened index : Nat) : decide (opened + index = 0) = (decide (opened = 0) && index == 0) := by
  cases opened with
  | zero => simp [beq_eq_decide]
  | succ opened => simp

theorem opened_draws (env : WalletEnv) (setting : Setting) (requestID : String) (opened : Nat) (rolls : Nat → Rolls) (now : Int) (index : Nat)
    (pity : BalanceBlindBoxPityState) (items : List BalanceBlindBoxItem) (answer : List BlindBoxOpenRecord × BalanceBlindBoxPityState)
    (current : ∀ item ∈ items, Current item)
    (ran : openItemsTx env setting userID requestID opened rolls now index pity items store = (.ok answer, after)) :
    Drew setting pity (drawsFrom (decide (opened = 0)) rolls index items.length) userID store answer.1 answer.2 after := by
  induction items generalizing store index pity answer with
  | nil =>
      rw [openItemsTx, Tx.ran_pure] at ran
      obtain ⟨rfl, rfl⟩ := ran
      exact ⟨.nil, rfl, rfl, rfl⟩
  | cons item rest ih =>
      simp only [openItemsTx, Tx.ran_bind, Tx.ran_pure] at ran
      obtain ⟨first, middle, one, others, _, more, rfl, rfl⟩ := ran
      obtain ⟨here, later⟩ := List.forall_mem_cons.mp current
      have drew := opened_draw env setting _ item _ _ _ _ _ here one
      rw [first_draw] at drew
      exact drew.append (ih (index + 1) first.2 others later more)

theorem shifted_draws (early late : Bool) (rolls : Nat → Rolls) (start count : Nat) (same : ∀ index, (early && index == 0) = (late && start + index == 0)) :
    drawsFrom early (fun index => rolls (start + index)) 0 count = drawsFrom late rolls start count := by
  rw [drawsFrom, drawsFrom, List.range'_eq_map_range, List.range'_eq_map_range, List.map_map, List.map_map]
  apply List.map_congr_left
  intro index _
  simp only [Function.comp, Nat.zero_add, same]

-- One accepted request: the rewards it shows and the counters it leaves.
structure ServedDraws (setting : Setting) (userID : Int) (rolls : Nat → Rolls) (store : BoxStore) (records : List BlindBoxOpenRecord)
    (after : BoxStore) : Prop where
  shown : List.Forall₂ Describes records
    (rewards setting (pityOf userID store) (drawsFrom (decide (openedCount userID store = 0)) rolls 0 records.length))
  counters : SameCounters (pityOf userID after)
    (pityAfter setting (pityOf userID store) (drawsFrom (decide (openedCount userID store = 0)) rolls 0 records.length))
  counted : openedCount userID after = openedCount userID store + records.length

theorem served_draws (env : WalletEnv) (setting : Setting) (requestID : String) (count : Int) (rolls : Nat → Rolls) (now : Int)
    (records : List BlindBoxOpenRecord) (current : ∀ item ∈ (availableItems userID store).take count.toNat, Current item)
    (ran : openAvailableTx env setting userID requestID count rolls now store = (.ok records, after)) :
    ServedDraws setting userID rolls store records after := by
  simp only [openAvailableTx, loadBalanceBlindBoxOpenStateTx, Tx.ran_bind, Tx.ran_view, Tx.ran_reject, Tx.ran_pure] at ran
  obtain ⟨_, _, ⟨rfl, rfl⟩, _, _, ⟨_, rfl⟩, state, _, ⟨pity, _, loaded, _, _, ⟨rfl, rfl⟩, rfl, rfl⟩, answer, final, opened, _, last, saved, rfl, rfl⟩ := ran
  obtain ⟨table, rfl, member, owner, same⟩ := loaded_pity _ loaded
  have drew := opened_draws env setting requestID _ rolls now 0 pity _ answer current opened
  have size : answer.1.length = ((availableItems userID store).take count.toNat).length := by
    rw [drew.shown.length_eq, length_rewards, length_draws_from]
  rw [← size] at drew
  have still : pity ∈ final.pity.rows := drew.pity ▸ member
  have identified : answer.2.id = pity.id := by rw [drew.counters, pity_after_id]
  have kept := saved_pity pity answer.2 still owner identified saved
  have recorded : openedCount userID last = openedCount userID final := by
    obtain rfl := (Tx.ran_edit _ _ _ _).mp saved
    rfl
  refine ⟨?_, ?_, recorded.trans drew.counted⟩
  · rw [← same.rewards]
    exact drew.shown
  · rw [drew.counters] at kept
    exact kept.trans (same.after _)

/- Requests of one user, each accepted and new, that draw on one row of outcomes. Between two of them anything may happen
   that leaves the counters and the records of the user alone. -/
inductive Openings (env : WalletEnv) (setting : Setting) (userID : Int) (rolls : Nat → Rolls) :
    Nat → BoxStore → List BlindBoxOpenRecord → BoxStore → Prop where
  | done (index : Nat) (store : BoxStore) : Openings env setting userID rolls index store [] store
  | wait {index : Nat} {store middle after : BoxStore} {records : List BlindBoxOpenRecord} (pity : pityOf userID middle = pityOf userID store)
      (counted : openedCount userID middle = openedCount userID store) (rest : Openings env setting userID rolls index middle records after) :
      Openings env setting userID rolls index store records after
  | call {index : Nat} {store middle after : BoxStore} {records more : List BlindBoxOpenRecord} (requestID : String) (count now : Int)
      (fresh : (replayedRecords userID (trimSpace requestID) count store).length = 0)
      (current : ∀ item ∈ (availableItems userID store).take count.toNat, Current item)
      (ran : openBalanceBlindBox env setting userID requestID count (fun offset => rolls (index + offset)) now store = (.ok records, middle))
      (rest : Openings env setting userID rolls (index + records.length) middle more after) :
      Openings env setting userID rolls index store (records ++ more) after

theorem openings_draw {env : WalletEnv} {setting : Setting} {rolls : Nat → Rolls} {index : Nat} {records : List BlindBoxOpenRecord} (base : Nat)
    (openings : Openings env setting userID rolls index store records after) (counted : openedCount userID store = base + index) :
    List.Forall₂ Describes records (rewards setting (pityOf userID store) (drawsFrom (decide (base = 0)) rolls index records.length)) ∧
      SameCounters (pityOf userID after) (pityAfter setting (pityOf userID store) (drawsFrom (decide (base = 0)) rolls index records.length)) := by
  induction openings with
  | done index store => exact ⟨.nil, rfl, rfl⟩
  | wait pity same _ ih =>
      rw [← pity]
      exact ih (same.trans counted)
  | call requestID count now fresh current ran _ ih =>
      rename_i index store middle after records more _
      obtain ⟨_, _, replayed | ⟨_, opened⟩⟩ := (ran_open _ _).mp ran
      · rw [replayed.2.2.1] at fresh
        exact absurd fresh (by omega)
      · have here := served_draws env setting _ count _ now records current opened
        have shifted : drawsFrom (decide (openedCount userID store = 0)) (fun offset => rolls (index + offset)) 0 records.length =
            drawsFrom (decide (base = 0)) rolls index records.length := by
          apply shifted_draws
          intro offset
          rw [counted, ← first_draw, ← first_draw, Nat.add_assoc]
        obtain ⟨shown, counters, total⟩ := here
        rw [shifted] at shown counters
        obtain ⟨laterShown, laterCounters⟩ := ih (by omega)
        rw [counters.rewards] at laterShown
        rw [List.length_append, ← draws_from_append, rewards_append, pity_after_append]
        exact ⟨List.rel_append shown laterShown, laterCounters.trans (counters.after _)⟩

end Openings

section Agreement

variable {setting : Setting} {pity : BalanceBlindBoxPityState} {balanceQuota count : Int} {rolls : Nat → Rolls} {fuel : Nat}

-- The record shows what the simulator drew.
structure Shows (record : BlindBoxOpenRecord) (drawn : BalanceBlindBoxSimulationDraw) : Prop where
  rewardType : record.rewardType = drawn.rewardType
  rewardTier : record.rewardTier = drawn.rewardTier
  rewardUSD : record.rewardUSD = drawn.rewardUSD
  creditAmount : record.creditAmount = drawn.creditAmount
  rewardTitle : record.rewardTitle = drawn.rewardTitle

theorem shows_of_describes {record : BlindBoxOpenRecord} {reward : SealedReward} (describes : Describes record reward) :
    Shows record (simulationDraw reward) :=
  ⟨describes.rewardType, describes.rewardTier, describes.rewardUSD, describes.creditAmount, describes.rewardTitle⟩

def BlindBoxOpenRecord.extra (record : BlindBoxOpenRecord) : Bool := isExtraDraw record.rewardType record.rewardTitle

structure AcceptedSimulation (setting : Setting) (balanceQuota count : Int) : Prop where
  enabled : setting.enabled ∧ setting.balanceBlindBoxEnabled
  valid : ¬ InvalidSimulation setting balanceQuota count
  funded : ¬ balanceQuota < quotaUnitsFromBlindBoxUSD setting setting.balanceBlindBoxPriceUSD * count

def simulationState (pity : BalanceBlindBoxPityState) (firstDrawEligible : Bool) : BalanceBlindBoxSimulationState :=
  ⟨pity.consecutiveUnder6USD, pity.consecutiveUnder35USD, firstDrawEligible⟩

theorem simulation_accepted (accepted : AcceptedSimulation setting balanceQuota count) (known : InRange setting pity) (firstDrawEligible : Bool) :
    simulateBalanceBlindBoxes setting balanceQuota count [simulationState pity firstDrawEligible] rolls fuel =
      (simulateDraws setting firstDrawEligible rolls fuel (startedSimulation (simulationState pity firstDrawEligible) count)).map fun answer =>
        answer.map (simulationResult setting balanceQuota count) := by
  have progress : ¬ InvalidProgress setting ([simulationState pity firstDrawEligible].head?.getD { firstDrawEligible := true }) := by
    obtain ⟨⟨smallLow, smallHigh⟩, ⟨bigLow, bigHigh⟩⟩ := known
    rintro (low | low | high | high)
    · exact absurd low (not_lt.mpr smallLow)
    · exact absurd low (not_lt.mpr bigLow)
    · exact absurd high (not_lt.mpr smallHigh.le)
    · exact absurd high (not_lt.mpr bigHigh.le)
  rw [simulateBalanceBlindBoxes]
  rw [if_neg (not_not.mpr accepted.enabled), if_neg accepted.valid, if_neg progress, if_neg accepted.funded]
  rfl

theorem started_few (state : BalanceBlindBoxSimulationState) (count : Int) : (startedSimulation state count).draws.length < simulationDrawLimit := by
  change 0 < 10000
  decide

theorem simulation_ends (setting : Setting) (balanceQuota count : Int) (states : List BalanceBlindBoxSimulationState) (rolls : Nat → Rolls) :
    ∃ answer, ∀ fuel, simulationDrawLimit ≤ fuel → simulateBalanceBlindBoxes setting balanceQuota count states rolls fuel = some answer := by
  have few := started_few (states.head?.getD { firstDrawEligible := true }) count
  obtain ⟨answer, answered⟩ := @simulate_ends setting (states.head?.getD { firstDrawEligible := true }).firstDrawEligible rolls simulationDrawLimit
    (startedSimulation (states.head?.getD { firstDrawEligible := true }) count) few (by omega)
  simp only [simulateBalanceBlindBoxes]
  split
  · exact ⟨_, fun _ _ => rfl⟩
  · split
    · exact ⟨_, fun _ _ => rfl⟩
    · split
      · exact ⟨_, fun _ _ => rfl⟩
      · split
        · exact ⟨_, fun _ _ => rfl⟩
        · refine ⟨answer.map (simulationResult setting balanceQuota count), fun fuel enough => ?_⟩
          rw [simulate_mono simulationDrawLimit fuel _ answer answered enough, Option.map_some]

-- As many boxes opened for real as the simulator draws: the same rewards and the same counters, or too many draws.
def SimulationAgrees (setting : Setting) (userID balanceQuota count : Int) (rolls : Nat → Rolls) (fuel : Nat) (store : BoxStore)
    (records : List BlindBoxOpenRecord) (after : BoxStore) : Prop :=
  let answer := simulateBalanceBlindBoxes setting balanceQuota count [simulationState (pityOf userID store) (decide (openedCount userID store = 0))]
    rolls fuel
  if records.length < simulationDrawLimit then
    ∃ result, answer = some (.ok result) ∧ List.Forall₂ Shows records result.draws ∧
      result.smallPityProgress = (pityOf userID after).consecutiveUnder6USD ∧ result.pityProgress = (pityOf userID after).consecutiveUnder35USD
  else answer = some (.error tooManyDraws)

theorem simulation_agrees {env : WalletEnv} {userID : Int} {store after : BoxStore} {records : List BlindBoxOpenRecord}
    (accepted : AcceptedSimulation setting balanceQuota count) (known : InRange setting (pityOf userID store))
    (openings : Openings env setting userID rolls 0 store records after) (finishes : Finishes count (records.map BlindBoxOpenRecord.extra))
    (enough : simulationDrawLimit ≤ fuel) : SimulationAgrees setting userID balanceQuota count rolls fuel store records after := by
  obtain ⟨shown, counters⟩ := openings_draw (openedCount userID store) openings rfl
  let first := decide (openedCount userID store = 0)
  let run := startedSimulation (simulationState (pityOf userID store) first) count
  have same : SameCounters run.pity (pityOf userID store) := ⟨rfl, rfl⟩
  have drawn : rewards setting run.pity (drawsFrom first rolls 0 records.length) =
      rewards setting (pityOf userID store) (drawsFrom first rolls 0 records.length) := same.rewards _
  have flags : records.map BlindBoxOpenRecord.extra =
      (rewards setting run.pity (drawsFrom first rolls 0 records.length)).map SealedReward.extra := by
    rw [drawn, ← List.forall₂_eq_eq_eq, List.forall₂_map_left_iff, List.forall₂_map_right_iff]
    apply shown.imp
    intro record reward describes
    rw [BlindBoxOpenRecord.extra, SealedReward.extra, describes.rewardType, describes.rewardTitle]
  rw [flags] at finishes
  have few : run.draws.length < simulationDrawLimit := started_few _ count
  have answered := simulated records.length fuel run few (by omega) finishes
  have started : run.draws = [] ∧ run.drawIndex = 0 := ⟨rfl, rfl⟩
  rw [SimulationAgrees, simulation_accepted accepted known]
  rw [started.1, started.2, List.length_nil, Nat.zero_add] at answered
  by_cases room : records.length < simulationDrawLimit
  · rw [if_pos room] at answered ⊢
    obtain ⟨final, ran, draws, pity⟩ := answered
    refine ⟨simulationResult setting balanceQuota count final, ?_, ?_, ?_, ?_⟩
    · rw [ran]
      rfl
    · change List.Forall₂ Shows records final.draws
      rw [draws, List.nil_append, drawn, List.forall₂_map_right_iff]
      exact shown.imp fun _ _ describes => shows_of_describes describes
    · change final.pity.consecutiveUnder6USD = _
      rw [pity, (same.after _).small, counters.small]
    · change final.pity.consecutiveUnder35USD = _
      rw [pity, (same.after _).big, counters.big]
  · rw [if_neg room] at answered ⊢
    rw [answered]
    rfl

-- What holds from given counters on, whatever the outcomes.
structure PityLaw (env : WalletEnv) (setting : Setting) (pity : BalanceBlindBoxPityState) : Prop where
  small : ∀ draws, Windows setting.balanceBlindBoxSmallPityThreshold setting.balanceBlindBoxSmallPityGuaranteeUSD (rewards setting pity draws)
  big : ∀ draws, Windows setting.balanceBlindBoxPityThreshold setting.balanceBlindBoxPityGuaranteeUSD (rewards setting pity draws)
  range : ∀ draws, InRange setting (pityAfter setting pity draws)
  ends : ∀ balanceQuota count states rolls, ∃ answer, ∀ fuel, simulationDrawLimit ≤ fuel →
    simulateBalanceBlindBoxes setting balanceQuota count states rolls fuel = some answer
  agrees : ∀ userID balanceQuota count rolls fuel store records after, AcceptedSimulation setting balanceQuota count →
    SameCounters (pityOf userID store) pity → Openings env setting userID rolls 0 store records after →
    Finishes count (records.map BlindBoxOpenRecord.extra) → simulationDrawLimit ≤ fuel →
    SimulationAgrees setting userID balanceQuota count rolls fuel store records after

theorem pity_guaranteed (env : WalletEnv) (current : Setting) (userID : Int) (earlier : List Draw)
    (ordered : (get current).balanceBlindBoxSmallPityGuaranteeUSD ≤ (get current).balanceBlindBoxPityGuaranteeUSD)
    (smallTiers : WithoutProps (get current).balanceBlindBoxSmallPityTiers) (bigTiers : WithoutProps (get current).balanceBlindBoxPityTiers) :
    PityLaw env (get current) (pityAfter (get current) { userID } earlier) := by
  have guaranteed := guaranteed_get current ordered smallTiers bigTiers
  have fresh := in_range_fresh guaranteed { userID } rfl rfl
  have reached : InRange (get current) (pityAfter (get current) { userID } earlier) := fresh.after guaranteed earlier
  refine ⟨small_windows guaranteed reached, big_windows guaranteed reached, reached.after guaranteed, simulation_ends (get current), ?_⟩
  intro userID balanceQuota count rolls fuel store records after accepted same openings finishes enough
  have known : InRange (get current) (pityOf userID store) := by
    obtain ⟨small, big⟩ := reached
    rw [← same.small] at small
    rw [← same.big] at big
    exact ⟨small, big⟩
  exact simulation_agrees accepted known openings finishes enough

end Agreement

def pitySetting : Setting :=
  { boxSetting [extraDrawTier, quotaTier] with
    balanceBlindBoxFirstDrawTiers := [quotaTier], balanceBlindBoxSmallPityTiers := [quotaTier], balanceBlindBoxPityTiers := [quotaTier] }

def boughtBoxes (setting : Setting) : BoxStore := (step boxEnv setting ⟨emptyBoxes, []⟩ (.purchase 1 "p" 1 0 100)).store

-- The first draw of a user gives another box, the second one quota.
theorem pity_guaranteed_plain :
    PityLaw boxEnv (get pitySetting) (pityAfter (get pitySetting) { userID := 1 } [⟨true, {}⟩, ⟨false, { tier := 3 / 4 }⟩]) :=
  pity_guaranteed boxEnv pitySetting 1 [⟨true, {}⟩, ⟨false, { tier := 3 / 4 }⟩] (by decide +kernel) (by decide +kernel) (by decide +kernel)

section Refusals

def unknownCard : TierSetting := { name := "谜", probability := 1, rewardType := "prop" }

def unknownSetting : Setting := { boxSetting [unknownCard] with balanceBlindBoxFirstDrawTiers := [unknownCard] }

-- Both thresholds are high enough for a long row of extra draws.
def patientSetting : Setting :=
  { boxSetting [extraDrawTier] with
    balanceBlindBoxPityThreshold := 10000, balanceBlindBoxSmallPityThreshold := 10000, balanceBlindBoxSmallPityTiers := [quotaTier],
    balanceBlindBoxPityTiers := [quotaTier] }

theorem patient_extra (pity : BalanceBlindBoxPityState) (small : pity.consecutiveUnder6USD < 9999) (big : pity.consecutiveUnder35USD < 9999) :
    (draw (get patientSetting) pity ⟨false, {}⟩).extra = true ∧
      drawnOn (get patientSetting) pity ⟨false, {}⟩ =
        { pity with consecutiveUnder6USD := pity.consecutiveUnder6USD + 1, consecutiveUnder35USD := pity.consecutiveUnder35USD + 1 } := by
  have early : ∀ progress : Int, progress < 9999 → ¬ balanceBlindBoxPityReady progress 10000 = true := by
    intro progress below
    simp only [balanceBlindBoxPityReady, decide_eq_true_eq]
    omega
  have resolved : resolveBalanceBlindBoxGuarantee pity false (get patientSetting) = (.none, 0) := by
    have thresholds : (get patientSetting).balanceBlindBoxPityThreshold = 10000 ∧ (get patientSetting).balanceBlindBoxSmallPityThreshold = 10000 := by
      decide
    rw [resolveBalanceBlindBoxGuarantee, thresholds.1, thresholds.2, if_neg (early _ big), if_neg (early _ small), if_neg (by simp)]
  have drawn : draw (get patientSetting) pity ⟨false, {}⟩ = draw (get patientSetting) { userID := 0 } ⟨false, {}⟩ := by
    have fresh : resolveBalanceBlindBoxGuarantee { userID := 0 } false (get patientSetting) = (.none, 0) := by decide +kernel
    unfold draw drawBalanceBlindBoxReward
    rw [resolved, fresh]
  have worthless : ¬ Worth (get patientSetting).balanceBlindBoxPityGuaranteeUSD (draw (get patientSetting) { userID := 0 } ⟨false, {}⟩) ∧
      ¬ Worth (get patientSetting).balanceBlindBoxSmallPityGuaranteeUSD (draw (get patientSetting) { userID := 0 } ⟨false, {}⟩) := by
    decide +kernel
  constructor
  · rw [drawn]
    decide +kernel
  · rw [drawnOn, advanced_cases, drawn, if_neg worthless.1, if_neg worthless.2]

theorem patient_last (pity : BalanceBlindBoxPityState) (big : pity.consecutiveUnder35USD = 9999) :
    (draw (get patientSetting) pity ⟨false, {}⟩).extra = false := by
  have ready : balanceBlindBoxPityReady pity.consecutiveUnder35USD (get patientSetting).balanceBlindBoxPityThreshold = true := by
    rw [big]
    decide
  have resolved : resolveBalanceBlindBoxGuarantee pity false (get patientSetting) =
      resolveBalanceBlindBoxGuarantee { userID := 0, consecutiveUnder35USD := 9999 } false (get patientSetting) := by
    rw [resolveBalanceBlindBoxGuarantee, if_pos ready, resolveBalanceBlindBoxGuarantee, if_pos (by decide)]
  have same : draw (get patientSetting) pity ⟨false, {}⟩ = draw (get patientSetting) { userID := 0, consecutiveUnder35USD := 9999 } ⟨false, {}⟩ := by
    unfold draw drawBalanceBlindBoxReward
    rw [resolved]
  rw [same]
  decide +kernel

theorem patient_finishes (more index : Nat) (pity : BalanceBlindBoxPityState) (small : pity.consecutiveUnder6USD + more = 9999)
    (big : pity.consecutiveUnder35USD + more = 9999) :
    Finishes 1 ((rewards (get patientSetting) pity (drawsFrom false (fun _ => {}) index (more + 1))).map SealedReward.extra) := by
  induction more generalizing index pity with
  | zero =>
      rw [draws_from_succ, rewards, List.map_cons]
      refine ⟨by decide, ?_⟩
      have last := patient_last pity (by omega)
      change Finishes (pendingAfter 1 (draw (get patientSetting) pity ⟨false, {}⟩).extra) []
      rw [last]
      rfl
  | succ more ih =>
      rw [draws_from_succ, rewards, List.map_cons]
      refine ⟨by decide, ?_⟩
      obtain ⟨extra, next⟩ := patient_extra pity (by omega) (by omega)
      change Finishes (pendingAfter 1 (draw (get patientSetting) pity ⟨false, {}⟩).extra)
        ((rewards (get patientSetting) (drawnOn (get patientSetting) pity ⟨false, {}⟩) (drawsFrom false (fun _ => {}) (index + 1) (more + 1))).map
          SealedReward.extra)
      rw [extra, next]
      exact ih (index + 1) _ (by change pity.consecutiveUnder6USD + 1 + more = 9999; omega)
        (by change pity.consecutiveUnder35USD + 1 + more = 9999; omega)

theorem patient_simulation :
    simulateBalanceBlindBoxes (get patientSetting) 5000000 1 [⟨0, 0, false⟩] (fun _ => {}) simulationDrawLimit = some (.error tooManyDraws) := by
  have accepted : AcceptedSimulation (get patientSetting) 5000000 1 := ⟨by decide +kernel, by decide +kernel, by decide +kernel⟩
  have known : InRange (get patientSetting) { userID := 0 } := ⟨by decide +kernel, by decide +kernel⟩
  have answer := simulated simulationDrawLimit simulationDrawLimit (startedSimulation (simulationState { userID := 0 } false) 1) (started_few _ 1)
    (Nat.le_add_left _ _) (patient_finishes 9999 0 { userID := 0 } rfl rfl)
  rw [if_neg (by omega)] at answer
  have accepts := @simulation_accepted (get patientSetting) { userID := 0 } 5000000 1 (fun _ => {}) simulationDrawLimit accepted known false
  rw [answer] at accepts
  exact accepts

/- A card that nothing knows is drawn by the simulator and refused at a real opening; and 9,999 extra draws in a row are
   too many for the simulator, whose boxes would run out at the next draw. -/
theorem simulation_differs :
    (((simulateBalanceBlindBoxes (get unknownSetting) 5000000 1 [⟨0, 0, true⟩] (fun _ => {}) simulationDrawLimit).bind Except.toOption).map
          (fun result => result.draws.length) = some 1 ∧
        (openBalanceBlindBox boxEnv (get unknownSetting) 1 "a" 1 (fun _ => {}) 200 (boughtBoxes (get unknownSetting))).1 =
          .error (.message "unsupported blind box prop reward")) ∧
      Finishes 1 ((rewards (get patientSetting) { userID := 1 } (drawsFrom false (fun _ => {}) 0 simulationDrawLimit)).map SealedReward.extra) ∧
      simulateBalanceBlindBoxes (get patientSetting) 5000000 1 [⟨0, 0, false⟩] (fun _ => {}) simulationDrawLimit = some (.error tooManyDraws) := by
  refine ⟨⟨?_, ?_⟩, ?_, ?_⟩
  · decide +kernel
  · decide +kernel
  · exact patient_finishes 9999 0 { userID := 1 } rfl rfl
  · exact patient_simulation

end Refusals

end CodeGo.BlindBox
