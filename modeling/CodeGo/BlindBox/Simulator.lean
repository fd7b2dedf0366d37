import CodeGo.BlindBox.Pity
import CodeGo.BlindBox.Opening

set_option autoImplicit false

namespace CodeGo.BlindBox

open Relational Text

/- The simulator. The loop runs on fuel; its cap on the draws bounds the fuel it can need. -/

def maxBlindBoxSimulationBalanceUSD : Int := 1000000

structure BalanceBlindBoxSimulationDraw where
  rewardType : Option RewardType
  rewardTier : String
  rewardUSD : Rat
  creditAmount : Int
  rewardTitle : String
  guaranteeType : GuaranteeType
deriving DecidableEq, Repr

structure BalanceBlindBoxSimulationState where
  smallPityProgress : Int := 0
  pityProgress : Int := 0
  firstDrawEligible : Bool
deriving DecidableEq, Repr

structure BalanceBlindBoxSimulationResult where
  priceQuota : Int
  balanceBefore : Int
  costQuota : Int
  rewardQuota : Int
  balanceAfter : Int
  draws : List BalanceBlindBoxSimulationDraw
  smallPityProgress : Int
  pityProgress : Int
  firstDrawEligible : Bool
deriving DecidableEq, Repr

-- The variables of the loop.
structure Simulation where
  pity : BalanceBlindBoxPityState
  pendingDraws : Int
  drawIndex : Nat := 0
  draws : List BalanceBlindBoxSimulationDraw := []
  rewardQuota : Int := 0
deriving DecidableEq, Repr

def simulationDraw (item : SealedReward) : BalanceBlindBoxSimulationDraw :=
  { rewardType := item.rewardType, rewardTier := item.rewardTier, rewardUSD := item.rewardUSD, creditAmount := item.creditAmount,
    rewardTitle := item.rewardTitle, guaranteeType := item.guaranteeType }

def isExtraDraw (rewardType : Option RewardType) (rewardTitle : String) : Bool := rewardType = some .prop ∧ rewardTitle = extraDrawTitle

-- The boxes at hand after one of them gave this.
def pendingAfter (pending : Int) (extra : Bool) : Int := if extra then pending - 1 + 1 else pending - 1

def simulateDraw (setting : Setting) (firstDrawEligible : Bool) (rolls : Nat → Rolls) (run : Simulation) : Simulation :=
  let item := drawBalanceBlindBoxReward setting run.pity (firstDrawEligible && run.drawIndex == 0) (rolls run.drawIndex)
  { pity := advanceBalanceBlindBoxPity run.pity item.rewardType item.rewardUSD setting
    pendingDraws := pendingAfter run.pendingDraws (isExtraDraw item.rewardType item.rewardTitle)
    drawIndex := run.drawIndex + 1
    draws := run.draws ++ [simulationDraw item]
    rewardQuota := run.rewardQuota + item.creditAmount }

def simulationDrawLimit : Nat := 10000

def tooManyDraws : BoxError := .message "模拟抽盒触发次数过多，请重试"

def simulateDraws (setting : Setting) (firstDrawEligible : Bool) (rolls : Nat → Rolls) : Nat → Simulation → Option (Except BoxError Simulation)
  | 0, run => if 0 < run.pendingDraws then none else some (.ok run)
  | fuel + 1, run =>
      if 0 < run.pendingDraws then
        let next := simulateDraw setting firstDrawEligible rolls run
        if simulationDrawLimit ≤ next.draws.length then some (.error tooManyDraws)
        else simulateDraws setting firstDrawEligible rolls fuel next
      else some (.ok run)

def InvalidSimulation (setting : Setting) (balanceQuota count : Int) : Prop :=
  balanceQuota < quotaUnitsFromBlindBoxUSD setting setting.balanceBlindBoxPriceUSD ∨
    maxBlindBoxSimulationBalanceUSD * setting.quotaPerUnit < balanceQuota ∨ count < 1 ∨ balanceBlindBoxMaxBatch < count

instance (setting : Setting) (balanceQuota count : Int) : Decidable (InvalidSimulation setting balanceQuota count) :=
  inferInstanceAs (Decidable (_ ∨ _))

def InvalidProgress (setting : Setting) (state : BalanceBlindBoxSimulationState) : Prop :=
  state.smallPityProgress < 0 ∨ state.pityProgress < 0 ∨ setting.balanceBlindBoxSmallPityThreshold < state.smallPityProgress ∨
    setting.balanceBlindBoxPityThreshold < state.pityProgress

instance (setting : Setting) (state : BalanceBlindBoxSimulationState) : Decidable (InvalidProgress setting state) :=
  inferInstanceAs (Decidable (_ ∨ _))

def simulationResult (setting : Setting) (balanceQuota count : Int) (run : Simulation) : BalanceBlindBoxSimulationResult :=
  let priceQuota := quotaUnitsFromBlindBoxUSD setting setting.balanceBlindBoxPriceUSD
  let costQuota := priceQuota * count
  { priceQuota, balanceBefore := balanceQuota, costQuota, rewardQuota := run.rewardQuota,
    balanceAfter := balanceQuota - costQuota + run.rewardQuota, draws := run.draws, smallPityProgress := run.pity.consecutiveUnder6USD,
    pityProgress := run.pity.consecutiveUnder35USD, firstDrawEligible := false }

def startedSimulation (state : BalanceBlindBoxSimulationState) (count : Int) : Simulation :=
  { pity := { userID := 0, consecutiveUnder6USD := state.smallPityProgress, consecutiveUnder35USD := state.pityProgress }, pendingDraws := count }

def simulateBalanceBlindBoxes (setting : Setting) (balanceQuota count : Int) (states : List BalanceBlindBoxSimulationState) (rolls : Nat → Rolls)
    (fuel : Nat) : Option (Except BoxError BalanceBlindBoxSimulationResult) :=
  let costQuota := quotaUnitsFromBlindBoxUSD setting setting.balanceBlindBoxPriceUSD * count
  let state := states.head?.getD { firstDrawEligible := true }
  if ¬ (setting.enabled ∧ setting.balanceBlindBoxEnabled) then some (.error (.message "统一盲盒当前不可用"))
  else if InvalidSimulation setting balanceQuota count then
    some (.error (.message "模拟抽盒参数无效，初始额度最高为 1,000,000，单次最多抽取 100 个"))
  else if InvalidProgress setting state then some (.error (.message "模拟保底进度无效"))
  else if balanceQuota < costQuota then some (.error (.message "模拟额度不足"))
  else
    (simulateDraws setting state.firstDrawEligible rolls fuel (startedSimulation state count)).map fun answer =>
      answer.map (simulationResult setting balanceQuota count)

section Loop

variable {setting : Setting} {firstDrawEligible : Bool} {rolls : Nat → Rolls}

-- The boxes run out at the end and not before.
def Finishes : Int → List Bool → Prop
  | pending, [] => pending = 0
  | pending, extra :: rest => 0 < pending ∧ Finishes (pendingAfter pending extra) rest

def SealedReward.extra (reward : SealedReward) : Bool := isExtraDraw reward.rewardType reward.rewardTitle

-- The draws from `index` on.
def drawsFrom (firstDrawEligible : Bool) (rolls : Nat → Rolls) (index count : Nat) : List Draw :=
  (List.range' index count).map fun index => ⟨firstDrawEligible && index == 0, rolls index⟩

theorem draws_from_succ (index count : Nat) :
    drawsFrom firstDrawEligible rolls index (count + 1) =
      ⟨firstDrawEligible && index == 0, rolls index⟩ :: drawsFrom firstDrawEligible rolls (index + 1) count := rfl

theorem length_draws_from (index count : Nat) : (drawsFrom firstDrawEligible rolls index count).length = count := by
  rw [drawsFrom, List.length_map, List.length_range']

theorem draws_from_append (index first second : Nat) :
    drawsFrom firstDrawEligible rolls index first ++ drawsFrom firstDrawEligible rolls (index + first) second =
      drawsFrom firstDrawEligible rolls index (first + second) := by
  rw [drawsFrom, drawsFrom, ← List.map_append, List.range'_append_1, drawsFrom]

-- The draw of the next turn.
def Simulation.drawn (run : Simulation) (firstDrawEligible : Bool) (rolls : Nat → Rolls) : Draw :=
  ⟨firstDrawEligible && run.drawIndex == 0, rolls run.drawIndex⟩

theorem next_pity (run : Simulation) :
    (simulateDraw setting firstDrawEligible rolls run).pity = drawnOn setting run.pity (run.drawn firstDrawEligible rolls) := by
  simp only [simulateDraw, drawnOn, advancedBy, draw, Simulation.drawn]

theorem next_pending (run : Simulation) :
    (simulateDraw setting firstDrawEligible rolls run).pendingDraws =
      pendingAfter run.pendingDraws (draw setting run.pity (run.drawn firstDrawEligible rolls)).extra := by
  simp only [simulateDraw, SealedReward.extra, draw, Simulation.drawn]

theorem next_index (run : Simulation) : (simulateDraw setting firstDrawEligible rolls run).drawIndex = run.drawIndex + 1 := rfl

theorem next_draws (run : Simulation) :
    (simulateDraw setting firstDrawEligible rolls run).draws =
      run.draws ++ [simulationDraw (draw setting run.pity (run.drawn firstDrawEligible rolls))] := by
  simp only [simulateDraw, draw, Simulation.drawn]

theorem length_next_draws (run : Simulation) : (simulateDraw setting firstDrawEligible rolls run).draws.length = run.draws.length + 1 := by
  rw [next_draws, List.length_append, List.length_singleton]

theorem simulate_done (fuel : Nat) (run : Simulation) (done : ¬ 0 < run.pendingDraws) :
    simulateDraws setting firstDrawEligible rolls fuel run = some (.ok run) := by
  cases fuel with
  | zero => rw [simulateDraws, if_neg done]
  | succ fuel => rw [simulateDraws, if_neg done]

theorem simulate_mono (fuel more : Nat) (run : Simulation) (answer : Except BoxError Simulation)
    (answered : simulateDraws setting firstDrawEligible rolls fuel run = some answer) (enough : fuel ≤ more) :
    simulateDraws setting firstDrawEligible rolls more run = some answer := by
  induction fuel generalizing more run with
  | zero =>
      by_cases pending : 0 < run.pendingDraws
      · rw [simulateDraws, if_pos pending] at answered
        cases answered
      · rw [simulateDraws, if_neg pending] at answered
        rw [simulate_done more run pending]
        exact answered
  | succ fuel ih =>
      obtain ⟨more, rfl⟩ := Nat.exists_eq_add_of_le' (show 1 ≤ more by omega)
      by_cases pending : 0 < run.pendingDraws
      · rw [simulateDraws, if_pos pending] at answered ⊢
        by_cases full : simulationDrawLimit ≤ (simulateDraw setting firstDrawEligible rolls run).draws.length
        · rw [if_pos full] at answered ⊢
          exact answered
        · rw [if_neg full] at answered ⊢
          exact ih more _ answered (by omega)
      · rw [simulate_done _ run pending] at answered ⊢
        exact answered

-- Every turn draws once, so the cap on the draws ends the loop.
theorem simulate_ends (fuel : Nat) (run : Simulation) (few : run.draws.length < simulationDrawLimit)
    (enough : simulationDrawLimit ≤ run.draws.length + fuel) : ∃ answer, simulateDraws setting firstDrawEligible rolls fuel run = some answer := by
  induction fuel generalizing run with
  | zero => omega
  | succ fuel ih =>
      by_cases pending : 0 < run.pendingDraws
      · rw [simulateDraws, if_pos pending]
        have size := @length_next_draws setting firstDrawEligible rolls run
        by_cases full : simulationDrawLimit ≤ (simulateDraw setting firstDrawEligible rolls run).draws.length
        · exact ⟨_, if_pos full⟩
        · rw [if_neg full]
          exact ih _ (by omega) (by omega)
      · exact ⟨_, simulate_done _ run pending⟩

-- What the loop answers when the boxes run out after `count` more draws.
theorem simulated (count fuel : Nat) (run : Simulation) (few : run.draws.length < simulationDrawLimit)
    (enough : simulationDrawLimit ≤ run.draws.length + fuel)
    (finishes : Finishes run.pendingDraws ((rewards setting run.pity (drawsFrom firstDrawEligible rolls run.drawIndex count)).map SealedReward.extra)) :
    if run.draws.length + count < simulationDrawLimit then
      ∃ final, simulateDraws setting firstDrawEligible rolls fuel run = some (.ok final) ∧
        final.draws = run.draws ++ (rewards setting run.pity (drawsFrom firstDrawEligible rolls run.drawIndex count)).map simulationDraw ∧
        final.pity = pityAfter setting run.pity (drawsFrom firstDrawEligible rolls run.drawIndex count)
    else simulateDraws setting firstDrawEligible rolls fuel run = some (.error tooManyDraws) := by
  induction count generalizing run fuel with
  | zero =>
      have done : ¬ 0 < run.pendingDraws := by
        have none_ : run.pendingDraws = 0 := finishes
        omega
      rw [Nat.add_zero, if_pos few]
      exact ⟨run, simulate_done fuel run done, (List.append_nil _).symm, rfl⟩
  | succ count ih =>
      rw [draws_from_succ, rewards, List.map_cons] at finishes
      obtain ⟨pending, later⟩ := finishes
      obtain ⟨fuel, rfl⟩ := Nat.exists_eq_add_of_le' (show 1 ≤ fuel by omega)
      have size := @length_next_draws setting firstDrawEligible rolls run
      rw [simulateDraws, if_pos pending]
      by_cases full : simulationDrawLimit ≤ (simulateDraw setting firstDrawEligible rolls run).draws.length
      · rw [if_neg (by omega), if_pos full]
      · have after : Finishes (simulateDraw setting firstDrawEligible rolls run).pendingDraws
            ((rewards setting (simulateDraw setting firstDrawEligible rolls run).pity
              (drawsFrom firstDrawEligible rolls (simulateDraw setting firstDrawEligible rolls run).drawIndex count)).map SealedReward.extra) := by
          rw [next_pending, next_pity, next_index]
          exact later
        have continued := ih fuel (simulateDraw setting firstDrawEligible rolls run) (by omega) (by omega) after
        rw [size, Nat.add_assoc, Nat.add_comm 1 count, next_draws, next_pity, next_index, List.append_assoc, List.singleton_append] at continued
        rw [if_neg full, draws_from_succ, rewards, List.map_cons, pity_after_cons]
        exact continued

end Loop

end CodeGo.BlindBox
