import CodeGo.BlindBox.Schema

set_option autoImplicit false

namespace CodeGo.BlindBox

open Relational Text
open Checkout (roundHalfAway roundCents)

def balanceBlindBoxPoolVersion : String := "unified-box-v4-open-draw"

def balanceBlindBoxMaxBatch : Int := 100

structure TierSetting where
  name : String
  minUSD : Rat := 0
  maxUSD : Rat := 0
  probability : Rat
  rewardType : String
deriving DecidableEq, Repr

-- The normalised settings that these functions read.
structure Setting where
  enabled : Bool
  unitPrice : Rat
  balanceBlindBoxEnabled : Bool
  balanceBlindBoxPriceUSD : Rat
  balanceBlindBoxDailyPurchaseLimit : Int
  balanceBlindBoxTiers : List TierSetting
  balanceBlindBoxPityThreshold : Int
  balanceBlindBoxPityGuaranteeUSD : Rat
  balanceBlindBoxSmallPityThreshold : Int
  balanceBlindBoxSmallPityGuaranteeUSD : Rat
  balanceBlindBoxFirstDrawGuaranteeUSD : Rat
  balanceBlindBoxFirstDrawTiers : List TierSetting
  balanceBlindBoxSmallPityTiers : List TierSetting
  balanceBlindBoxPityTiers : List TierSetting
  quotaPerUnit : Int := 500000
deriving DecidableEq, Repr

def normalizeRewardType (rewardType : String) : RewardType :=
  match trimSpace rewardType with
  | "claude_quota" => .claudeQuota
  | "prop" => .prop
  | "subscription" => .subscription
  | _ => .quota

def quotaUnitsFromBlindBoxUSD (setting : Setting) (amount : Rat) : Int :=
  if amount ≤ 0 then 0 else roundHalfAway (amount * setting.quotaPerUnit)

def normalizeBlindBoxRewardWalletType (value : String) : BlindBoxRewardWalletType :=
  if value = BlindBoxRewardWalletType.claude.text then .claude else .default

-- The two numbers from [0, 1) that a draw may use: one picks the tier, one the amount.
structure Rolls where
  tier : Rat := 0
  amount : Rat := 0
deriving DecidableEq, Repr

def fallbackTier : TierSetting := { name := "fallback", minUSD := 1, maxUSD := 1, probability := 1, rewardType := "" }

def pickFrom (roll : Rat) : Rat → List TierSetting → Option TierSetting
  | _, [] => none
  | cumulative, tier :: rest => if roll ≤ cumulative + tier.probability then some tier else pickFrom roll (cumulative + tier.probability) rest

-- A roll is below one, so it needs no other bound than zero.
def pickBlindBoxTierForRoll (tiers : List TierSetting) (roll : Rat) : TierSetting :=
  let eligible := tiers.filter fun tier => 0 < tier.probability
  match eligible.getLast? with
  | none => fallbackTier
  | some last => (pickFrom (max roll 0 * (eligible.map TierSetting.probability).sum) 0 eligible).getD last

def randomTierRewardUSD (tier : TierSetting) (roll : Rat) : Rat :=
  if tier.maxUSD ≤ tier.minUSD then roundCents tier.minUSD else roundCents (tier.minUSD + roll * (tier.maxUSD - tier.minUSD))

def balanceBlindBoxPityReady (progress threshold : Int) : Bool := 0 < threshold ∧ threshold - 1 ≤ progress

def resolveBalanceBlindBoxGuarantee (pity : BalanceBlindBoxPityState) (first : Bool) (setting : Setting) : GuaranteeType × Rat :=
  if balanceBlindBoxPityReady pity.consecutiveUnder35USD setting.balanceBlindBoxPityThreshold then (.big, setting.balanceBlindBoxPityGuaranteeUSD)
  else if balanceBlindBoxPityReady pity.consecutiveUnder6USD setting.balanceBlindBoxSmallPityThreshold then
    (.small, setting.balanceBlindBoxSmallPityGuaranteeUSD)
  else if first ∧ 0 < setting.balanceBlindBoxFirstDrawGuaranteeUSD then (.first, setting.balanceBlindBoxFirstDrawGuaranteeUSD)
  else (.none, 0)

def balanceBlindBoxGuaranteeTiers (setting : Setting) : GuaranteeType → List TierSetting
  | .first => setting.balanceBlindBoxFirstDrawTiers
  | .small => setting.balanceBlindBoxSmallPityTiers
  | .big => setting.balanceBlindBoxPityTiers
  | .none => setting.balanceBlindBoxTiers

def balanceBlindBoxEquivalentValue (rewardType : RewardType) (rewardUSD : Rat) : Rat :=
  match rewardType with
  | .claudeQuota => rewardUSD * 4
  | .prop => 0
  | _ => rewardUSD

def applyBalanceBlindBoxGuaranteeMinimum (rewardUSD : Rat) (rewardType : RewardType) (guaranteeUSD : Rat) : Rat :=
  if guaranteeUSD ≤ 0 ∨ rewardType = .prop then rewardUSD
  else if balanceBlindBoxEquivalentValue rewardType 1 ≤ 0 then rewardUSD
  else if rewardUSD < guaranteeUSD / balanceBlindBoxEquivalentValue rewardType 1 then guaranteeUSD / balanceBlindBoxEquivalentValue rewardType 1
  else rewardUSD

-- An item whose type was never set counts like any plain value.
def advanceBalanceBlindBoxPity (pity : BalanceBlindBoxPityState) (rewardType : Option RewardType) (rewardUSD : Rat) (setting : Setting) :
    BalanceBlindBoxPityState :=
  let rewardValue := balanceBlindBoxEquivalentValue (rewardType.getD .quota) rewardUSD
  if setting.balanceBlindBoxPityGuaranteeUSD ≤ rewardValue then { pity with consecutiveUnder6USD := 0, consecutiveUnder35USD := 0 }
  else if setting.balanceBlindBoxSmallPityGuaranteeUSD ≤ rewardValue then
    { pity with consecutiveUnder6USD := 0, consecutiveUnder35USD := pity.consecutiveUnder35USD + 1 }
  else { pity with consecutiveUnder6USD := pity.consecutiveUnder6USD + 1, consecutiveUnder35USD := pity.consecutiveUnder35USD + 1 }

def roundHalfEven (value : Rat) : Int :=
  if value - value.floor < 1 / 2 ∨ (value - value.floor = 1 / 2 ∧ value.floor % 2 = 0) then value.floor else value.floor + 1

-- The %.2f form.
def formatCents (amount : Rat) : String :=
  let cents := (roundHalfEven (amount * 100)).natAbs
  (if amount < 0 then "-" else "") ++ toString (cents / 100) ++ "." ++ toString (cents % 100 / 10) ++ toString (cents % 10)

def newUnrevealedBalanceBlindBoxItem (purchaseID purchaserID ownerID : Int) : BalanceBlindBoxItem :=
  { purchaseID, purchaseUserID := purchaserID, ownerUserID := ownerID, reward := { poolVersion := balanceBlindBoxPoolVersion } }

def drawBalanceBlindBoxReward (setting : Setting) (pity : BalanceBlindBoxPityState) (first : Bool) (rolls : Rolls) : SealedReward :=
  let (guaranteeType, guaranteeUSD) := resolveBalanceBlindBoxGuarantee pity first setting
  let tiers := if 0 < guaranteeUSD then balanceBlindBoxGuaranteeTiers setting guaranteeType else setting.balanceBlindBoxTiers
  let tier := pickBlindBoxTierForRoll tiers rolls.tier
  let rewardType := normalizeRewardType tier.rewardType
  let drawnUSD := randomTierRewardUSD tier rolls.amount
  let rewardUSD := if 0 < guaranteeUSD then applyBalanceBlindBoxGuaranteeMinimum drawnUSD rewardType guaranteeUSD else drawnUSD
  let drawn : SealedReward :=
    { poolVersion := balanceBlindBoxPoolVersion, rewardTier := tier.name, isPity := guaranteeType ≠ .none, guaranteeType }
  match rewardType with
  | .prop => { drawn with rewardType := some .prop, rewardTitle := tier.name }
  | _ => { drawn with
      rewardType := some .claudeQuota, rewardUSD, creditAmount := quotaUnitsFromBlindBoxUSD setting rewardUSD,
      rewardTitle := formatCents rewardUSD ++ " 统一额度奖励", rewardWalletType := BlindBoxRewardWalletType.claude.text }

end CodeGo.BlindBox
