import CodeGo.BlindBox.Draw
import CodeGo.Lib.Streaks
import Mathlib.Tactic.Linarith

set_option autoImplicit false

namespace CodeGo.BlindBox

open Relational Text Streaks

/- The pity guarantees over a run of draws of current boxes: what every window of draws holds and how far the two
   counters can get. -/

def defaultPityThreshold (threshold standard : Int) : Int := if threshold ≤ 0 ∨ 1000000 ≤ threshold then standard else threshold

def defaultAmount (amount standard : Rat) : Rat := if amount ≤ 0 then standard else amount

-- Get, but for the tier lists: they may be any lists.
def get (current : Setting) : Setting :=
  { current with
    unitPrice := defaultAmount current.unitPrice (5 / 2)
    balanceBlindBoxPriceUSD := defaultAmount current.balanceBlindBoxPriceUSD (5 / 2)
    balanceBlindBoxDailyPurchaseLimit := if current.balanceBlindBoxDailyPurchaseLimit ≤ 0 then 10 else current.balanceBlindBoxDailyPurchaseLimit
    balanceBlindBoxPityThreshold := defaultPityThreshold current.balanceBlindBoxPityThreshold 50
    balanceBlindBoxPityGuaranteeUSD := defaultAmount current.balanceBlindBoxPityGuaranteeUSD 35
    balanceBlindBoxSmallPityThreshold := defaultPityThreshold current.balanceBlindBoxSmallPityThreshold 10
    balanceBlindBoxSmallPityGuaranteeUSD := defaultAmount current.balanceBlindBoxSmallPityGuaranteeUSD 10
    balanceBlindBoxFirstDrawGuaranteeUSD := defaultAmount current.balanceBlindBoxFirstDrawGuaranteeUSD 10 }

theorem default_threshold_pos (threshold standard : Int) (positive : 0 < standard) : 0 < defaultPityThreshold threshold standard := by
  unfold defaultPityThreshold
  split <;> omega

theorem default_amount_pos (amount standard : Rat) (positive : 0 < standard) : 0 < defaultAmount amount standard := by
  unfold defaultAmount
  split
  · exact positive
  · exact not_le.mp ‹_›

def WithoutProps (tiers : List TierSetting) : Prop := ∀ tier ∈ tiers, normalizeRewardType tier.rewardType ≠ .prop

instance (tiers : List TierSetting) : Decidable (WithoutProps tiers) := List.decidableBAll _ _

-- What the window law takes of the settings.
structure Guaranteed (setting : Setting) : Prop where
  smallThreshold : 0 < setting.balanceBlindBoxSmallPityThreshold
  bigThreshold : 0 < setting.balanceBlindBoxPityThreshold
  small : 0 < setting.balanceBlindBoxSmallPityGuaranteeUSD
  ordered : setting.balanceBlindBoxSmallPityGuaranteeUSD ≤ setting.balanceBlindBoxPityGuaranteeUSD
  smallTiers : WithoutProps setting.balanceBlindBoxSmallPityTiers
  bigTiers : WithoutProps setting.balanceBlindBoxPityTiers

theorem guaranteed_get (current : Setting)
    (ordered : (get current).balanceBlindBoxSmallPityGuaranteeUSD ≤ (get current).balanceBlindBoxPityGuaranteeUSD)
    (smallTiers : WithoutProps (get current).balanceBlindBoxSmallPityTiers) (bigTiers : WithoutProps (get current).balanceBlindBoxPityTiers) :
    Guaranteed (get current) where
  smallThreshold := default_threshold_pos _ 10 (by decide)
  bigThreshold := default_threshold_pos _ 50 (by decide)
  small := default_amount_pos _ 10 (by decide)
  ordered := ordered
  smallTiers := smallTiers
  bigTiers := bigTiers

-- The outcome of the random source at one draw, and whether it is the first of its user.
structure Draw where
  first : Bool
  rolls : Rolls
deriving DecidableEq, Repr

def draw (setting : Setting) (pity : BalanceBlindBoxPityState) (drawn : Draw) : SealedReward :=
  drawBalanceBlindBoxReward setting pity drawn.first drawn.rolls

def advancedBy (setting : Setting) (pity : BalanceBlindBoxPityState) (reward : SealedReward) : BalanceBlindBoxPityState :=
  advanceBalanceBlindBoxPity pity reward.rewardType reward.rewardUSD setting

-- The counters that a draw leaves.
def drawnOn (setting : Setting) (pity : BalanceBlindBoxPityState) (drawn : Draw) : BalanceBlindBoxPityState :=
  advancedBy setting pity (draw setting pity drawn)

def rewards (setting : Setting) : BalanceBlindBoxPityState → List Draw → List SealedReward
  | _, [] => []
  | pity, drawn :: rest => draw setting pity drawn :: rewards setting (drawnOn setting pity drawn) rest

def pityAfter (setting : Setting) (pity : BalanceBlindBoxPityState) (draws : List Draw) : BalanceBlindBoxPityState :=
  draws.foldl (drawnOn setting) pity

def SealedReward.value (reward : SealedReward) : Rat := balanceBlindBoxEquivalentValue (reward.rewardType.getD .quota) reward.rewardUSD

-- Worth a guarantee.
def Worth (guaranteeUSD : Rat) (reward : SealedReward) : Prop := guaranteeUSD ≤ reward.value

instance (guaranteeUSD : Rat) : DecidablePred (Worth guaranteeUSD) := fun _ => inferInstanceAs (Decidable (_ ≤ _))

theorem pity_after_cons (setting : Setting) (pity : BalanceBlindBoxPityState) (drawn : Draw) (rest : List Draw) :
    pityAfter setting pity (drawn :: rest) = pityAfter setting (drawnOn setting pity drawn) rest := List.foldl_cons

theorem length_rewards (setting : Setting) (pity : BalanceBlindBoxPityState) (draws : List Draw) :
    (rewards setting pity draws).length = draws.length := by
  induction draws generalizing pity with
  | nil => rfl
  | cons drawn rest ih => rw [rewards, List.length_cons, ih, List.length_cons]

theorem rewards_append (setting : Setting) (pity : BalanceBlindBoxPityState) (first second : List Draw) :
    rewards setting pity (first ++ second) = rewards setting pity first ++ rewards setting (pityAfter setting pity first) second := by
  induction first generalizing pity with
  | nil => rfl
  | cons drawn rest ih => rw [List.cons_append, rewards, ih, rewards, pity_after_cons, List.cons_append]

theorem pity_after_append (setting : Setting) (pity : BalanceBlindBoxPityState) (first second : List Draw) :
    pityAfter setting pity (first ++ second) = pityAfter setting (pityAfter setting pity first) second := List.foldl_append

section Value

variable {setting : Setting}

theorem pick_from_mem (roll cumulative : Rat) (tiers : List TierSetting) (tier : TierSetting) (picked : pickFrom roll cumulative tiers = some tier) :
    tier ∈ tiers := by
  induction tiers generalizing cumulative with
  | nil => cases picked
  | cons head rest ih =>
      rw [pickFrom] at picked
      split at picked
      · cases picked
        exact List.mem_cons_self
      · exact List.mem_cons_of_mem head (ih _ picked)

theorem picked_tier (tiers : List TierSetting) (roll : Rat) :
    pickBlindBoxTierForRoll tiers roll = fallbackTier ∨ pickBlindBoxTierForRoll tiers roll ∈ tiers := by
  simp only [pickBlindBoxTierForRoll]
  generalize max roll 0 * _ = scaled
  split
  · exact .inl rfl
  · rename_i last eligible
    right
    cases picked : pickFrom scaled 0 (tiers.filter fun tier => 0 < tier.probability) with
    | none => exact List.mem_of_mem_filter (List.mem_of_getLast? eligible)
    | some tier => exact List.mem_of_mem_filter (pick_from_mem _ _ _ _ picked)

theorem picked_without_props (tiers : List TierSetting) (roll : Rat) (without : WithoutProps tiers) :
    normalizeRewardType (pickBlindBoxTierForRoll tiers roll).rewardType ≠ .prop := by
  rcases picked_tier tiers roll with fallback | listed
  · rw [fallback]
    decide
  · exact without _ listed

-- The minimum is counted in the type of the tier, which is worth no more than the type the reward gets.
theorem minimum_value (rewardUSD guaranteeUSD : Rat) (rewardType : RewardType) (positive : 0 < guaranteeUSD) (plain : rewardType ≠ .prop) :
    guaranteeUSD ≤ applyBalanceBlindBoxGuaranteeMinimum rewardUSD rewardType guaranteeUSD * 4 := by
  have applies : ¬ (guaranteeUSD ≤ 0 ∨ rewardType = .prop) := by
    rintro (small | prop)
    · exact absurd small (not_le.mpr positive)
    · exact plain prop
  have multiplier : balanceBlindBoxEquivalentValue rewardType 1 = 4 ∨ balanceBlindBoxEquivalentValue rewardType 1 = 1 := by
    cases rewardType with
    | claudeQuota => exact .inl (by norm_num [balanceBlindBoxEquivalentValue])
    | prop => exact absurd rfl plain
    | quota => exact .inr rfl
    | subscription => exact .inr rfl
  rw [applyBalanceBlindBoxGuaranteeMinimum, if_neg applies]
  rcases multiplier with four | one
  · rw [four, if_neg (by norm_num)]
    split <;> linarith
  · rw [one, if_neg (by norm_num)]
    split <;> linarith

theorem guaranteed_value (pity : BalanceBlindBoxPityState) (drawn : Draw) (guaranteeType : GuaranteeType) (guaranteeUSD : Rat)
    (resolved : resolveBalanceBlindBoxGuarantee pity drawn.first setting = (guaranteeType, guaranteeUSD)) (positive : 0 < guaranteeUSD)
    (without : WithoutProps (balanceBlindBoxGuaranteeTiers setting guaranteeType)) : Worth guaranteeUSD (draw setting pity drawn) := by
  have plain := picked_without_props _ drawn.rolls.tier without
  have enough := minimum_value (randomTierRewardUSD (pickBlindBoxTierForRoll (balanceBlindBoxGuaranteeTiers setting guaranteeType) drawn.rolls.tier)
    drawn.rolls.amount) guaranteeUSD _ positive plain
  unfold draw drawBalanceBlindBoxReward
  rw [resolved]
  simp only [if_pos positive]
  exact enough

theorem ready_of_full {progress threshold : Int} (positive : 0 < threshold) (full : threshold ≤ progress + 1) :
    balanceBlindBoxPityReady progress threshold = true := by
  simp only [balanceBlindBoxPityReady, decide_eq_true_eq]
  omega

theorem big_value (guaranteed : Guaranteed setting) (pity : BalanceBlindBoxPityState) (drawn : Draw)
    (full : setting.balanceBlindBoxPityThreshold ≤ pity.consecutiveUnder35USD + 1) :
    Worth setting.balanceBlindBoxPityGuaranteeUSD (draw setting pity drawn) := by
  have ready := ready_of_full guaranteed.bigThreshold full
  apply guaranteed_value pity drawn .big
  · rw [resolveBalanceBlindBoxGuarantee, if_pos ready]
  · exact lt_of_lt_of_le guaranteed.small guaranteed.ordered
  · exact guaranteed.bigTiers

-- A big guarantee that is due at the same draw is worth as much.
theorem small_value (guaranteed : Guaranteed setting) (pity : BalanceBlindBoxPityState) (drawn : Draw)
    (full : setting.balanceBlindBoxSmallPityThreshold ≤ pity.consecutiveUnder6USD + 1) :
    Worth setting.balanceBlindBoxSmallPityGuaranteeUSD (draw setting pity drawn) := by
  by_cases big : setting.balanceBlindBoxPityThreshold ≤ pity.consecutiveUnder35USD + 1
  · exact guaranteed.ordered.trans (big_value guaranteed pity drawn big)
  · have notReady : ¬ balanceBlindBoxPityReady pity.consecutiveUnder35USD setting.balanceBlindBoxPityThreshold = true := by
      simp only [balanceBlindBoxPityReady, decide_eq_true_eq]
      omega
    have ready := ready_of_full guaranteed.smallThreshold full
    apply guaranteed_value pity drawn .small
    · rw [resolveBalanceBlindBoxGuarantee, if_neg notReady, if_pos ready]
    · exact guaranteed.small
    · exact guaranteed.smallTiers

end Value

section Windows

variable {setting : Setting}

theorem advanced_cases (pity : BalanceBlindBoxPityState) (reward : SealedReward) :
    advancedBy setting pity reward =
      if Worth setting.balanceBlindBoxPityGuaranteeUSD reward then { pity with consecutiveUnder6USD := 0, consecutiveUnder35USD := 0 }
      else if Worth setting.balanceBlindBoxSmallPityGuaranteeUSD reward then
        { pity with consecutiveUnder6USD := 0, consecutiveUnder35USD := pity.consecutiveUnder35USD + 1 }
      else { pity with consecutiveUnder6USD := pity.consecutiveUnder6USD + 1, consecutiveUnder35USD := pity.consecutiveUnder35USD + 1 } := rfl

-- Each counter is a streak of its own: what resets the big one resets the small one too.
theorem advanced_small (guaranteed : Guaranteed setting) (pity : BalanceBlindBoxPityState) (reward : SealedReward) :
    (advancedBy setting pity reward).consecutiveUnder6USD =
      advance (Worth setting.balanceBlindBoxSmallPityGuaranteeUSD) pity.consecutiveUnder6USD reward := by
  rw [advanced_cases]
  by_cases big : Worth setting.balanceBlindBoxPityGuaranteeUSD reward
  · have small : Worth setting.balanceBlindBoxSmallPityGuaranteeUSD reward := guaranteed.ordered.trans big
    rw [if_pos big, advance_hit small]
  · rw [if_neg big]
    by_cases small : Worth setting.balanceBlindBoxSmallPityGuaranteeUSD reward
    · rw [if_pos small, advance_hit small]
    · rw [if_neg small, advance_missed small]

theorem advanced_big (pity : BalanceBlindBoxPityState) (reward : SealedReward) :
    (advancedBy setting pity reward).consecutiveUnder35USD =
      advance (Worth setting.balanceBlindBoxPityGuaranteeUSD) pity.consecutiveUnder35USD reward := by
  rw [advanced_cases]
  by_cases big : Worth setting.balanceBlindBoxPityGuaranteeUSD reward
  · rw [if_pos big, advance_hit big]
  · rw [if_neg big, advance_missed big]
    by_cases small : Worth setting.balanceBlindBoxSmallPityGuaranteeUSD reward
    · rw [if_pos small]
    · rw [if_neg small]

theorem small_streak (guaranteed : Guaranteed setting) (pity : BalanceBlindBoxPityState) (draws : List Draw) :
    (pityAfter setting pity draws).consecutiveUnder6USD =
        streak (Worth setting.balanceBlindBoxSmallPityGuaranteeUSD) pity.consecutiveUnder6USD
          (rewards setting pity draws) ∧
      Forced (Worth setting.balanceBlindBoxSmallPityGuaranteeUSD) setting.balanceBlindBoxSmallPityThreshold
        pity.consecutiveUnder6USD (rewards setting pity draws) := by
  induction draws generalizing pity with
  | nil => exact ⟨rfl, trivial⟩
  | cons drawn rest ih =>
      obtain ⟨counted, forced⟩ := ih (drawnOn setting pity drawn)
      rw [drawnOn, advanced_small guaranteed] at counted forced
      rw [pity_after_cons, rewards, streak, Forced]
      exact ⟨counted, small_value guaranteed pity drawn, forced⟩

theorem big_streak (guaranteed : Guaranteed setting) (pity : BalanceBlindBoxPityState) (draws : List Draw) :
    (pityAfter setting pity draws).consecutiveUnder35USD =
        streak (Worth setting.balanceBlindBoxPityGuaranteeUSD) pity.consecutiveUnder35USD
          (rewards setting pity draws) ∧
      Forced (Worth setting.balanceBlindBoxPityGuaranteeUSD) setting.balanceBlindBoxPityThreshold
        pity.consecutiveUnder35USD (rewards setting pity draws) := by
  induction draws generalizing pity with
  | nil => exact ⟨rfl, trivial⟩
  | cons drawn rest ih =>
      obtain ⟨counted, forced⟩ := ih (drawnOn setting pity drawn)
      rw [drawnOn, advanced_big] at counted forced
      rw [pity_after_cons, rewards, streak, Forced]
      exact ⟨counted, big_value guaranteed pity drawn, forced⟩

structure InRange (setting : Setting) (pity : BalanceBlindBoxPityState) : Prop where
  small : 0 ≤ pity.consecutiveUnder6USD ∧ pity.consecutiveUnder6USD < setting.balanceBlindBoxSmallPityThreshold
  big : 0 ≤ pity.consecutiveUnder35USD ∧ pity.consecutiveUnder35USD < setting.balanceBlindBoxPityThreshold

theorem in_range_fresh (guaranteed : Guaranteed setting) (pity : BalanceBlindBoxPityState) (small : pity.consecutiveUnder6USD = 0)
    (big : pity.consecutiveUnder35USD = 0) : InRange setting pity := by
  have smallThreshold := guaranteed.smallThreshold
  have bigThreshold := guaranteed.bigThreshold
  exact ⟨by omega, by omega⟩

theorem InRange.after {pity : BalanceBlindBoxPityState} (guaranteed : Guaranteed setting) (known : InRange setting pity) (draws : List Draw) :
    InRange setting (pityAfter setting pity draws) := by
  obtain ⟨smallCount, smallForced⟩ := small_streak guaranteed pity draws
  obtain ⟨bigCount, bigForced⟩ := big_streak guaranteed pity draws
  constructor
  · rw [smallCount]
    exact ⟨streak_nonneg _ known.small.1, smallForced.streak_lt _ known.small.1 known.small.2⟩
  · rw [bigCount]
    exact ⟨streak_nonneg _ known.big.1, bigForced.streak_lt _ known.big.1 known.big.2⟩

-- Among as many consecutive rewards as the threshold says, one is worth the guarantee.
def Windows (threshold : Int) (guaranteeUSD : Rat) (drawn : List SealedReward) : Prop :=
  ∀ before window after, drawn = before ++ window ++ after → (window.length : Int) = threshold → ∃ reward ∈ window, Worth guaranteeUSD reward

theorem small_windows {pity : BalanceBlindBoxPityState} (guaranteed : Guaranteed setting) (known : InRange setting pity) (draws : List Draw) :
    Windows setting.balanceBlindBoxSmallPityThreshold setting.balanceBlindBoxSmallPityGuaranteeUSD (rewards setting pity draws) := by
  intro before window after parts full
  have forced := (small_streak guaranteed pity draws).2
  rw [parts] at forced
  exact forced.window before window after known.small.1 known.small.2 full.ge

theorem big_windows {pity : BalanceBlindBoxPityState} (guaranteed : Guaranteed setting) (known : InRange setting pity) (draws : List Draw) :
    Windows setting.balanceBlindBoxPityThreshold setting.balanceBlindBoxPityGuaranteeUSD (rewards setting pity draws) := by
  intro before window after parts full
  have forced := (big_streak guaranteed pity draws).2
  rw [parts] at forced
  exact forced.window before window after known.big.1 known.big.2 full.ge

end Windows

end CodeGo.BlindBox
