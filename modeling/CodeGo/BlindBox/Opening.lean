import CodeGo.BlindBox.Inventory

set_option autoImplicit false

namespace CodeGo.BlindBox

open Relational Text Billing
open Checkout (nextID)

-- One open stores a record for each box, under ids derived from the request id.
def drawRequestID (requestID : String) (index : Nat) : String :=
  if index = 0 then requestID else requestID ++ ":" ++ toString index

def drawRequestIDs (requestID : String) (count : Int) : List String := (List.range count.toNat).map (drawRequestID requestID)

-- The records of a user that an earlier open left under these ids.
def replayedRecords (userID : Int) (requestID : String) (count : Int) (store : BoxStore) : List BlindBoxOpenRecord :=
  store.records.rows.filter fun record =>
    record.userID = userID ∧ (record.poolType = .unified ∨ record.poolType = .balance15) ∧ record.requestID ∈ drawRequestIDs requestID count

def loadBalanceBlindBoxOpenReplay (userID : Int) (requestID : String) (count : Int) : BoxTx (List BlindBoxOpenRecord) := do
  let records ← Tx.view (replayedRecords userID requestID count)
  if records.length = 0 then return records
  else
    Tx.reject ((records.length : Int) ≠ count) (.message "统一盲盒开启请求冲突")
    return records

def loadPity (userID : Int) : BoxTx BalanceBlindBoxPityState := do
  match ← Tx.view fun store => store.pity.find? fun pity => pity.userID = userID with
  | some pity => return pity
  | none =>
      let id ← Tx.view fun store => nextID store.pity
      addRow BoxStore.pity (fun store pity => { store with pity }) { id, userID }
      return { id, userID }

def openedCount (userID : Int) (store : BoxStore) : Nat :=
  (store.records.rows.filter fun record => record.userID = userID ∧ record.poolType = .unified).length

def loadBalanceBlindBoxOpenStateTx (userID : Int) : BoxTx (BalanceBlindBoxPityState × Nat) := do
  let pity ← loadPity userID
  let opened ← Tx.view (openedCount userID)
  return (pity, opened)

def savePity (pity : BalanceBlindBoxPityState) : BoxTx Unit :=
  Tx.edit fun store => { store with
    pity := store.pity.update (fun row => row.id = pity.id) (fun row => { pity with id := row.id, userID := row.userID }) fun _ => rfl }

def rewardKey (openRecordID : Int) (walletType : BlindBoxRewardWalletType) : String :=
  "blind-box:reward:" ++ toString openRecordID ++ ":" ++ walletType.text

-- Both wallet types are paid into the unified wallet.
def applyBlindBoxWalletRewardTx (env : WalletEnv) (userID openRecordID amount : Int) (walletType : BlindBoxRewardWalletType) : BoxTx Unit := do
  Tx.reject (amount ≤ 0) (.message "invalid blind box reward amount")
  onWallet .ledger (creditUserWalletQuotaTx env userID amount (rewardKey openRecordID walletType) "blind_box_reward")

def createBlindBoxPropTx (userID openRecordID : Int) (rewardTitle : String) : BoxTx BlindBoxProp := do
  match getBlindBoxPropSpecByTitle rewardTitle with
  | none => Tx.fail (.message "unsupported blind box prop reward")
  | some spec =>
      createProp
        { userID, openRecordID, propType := spec.propType, title := spec.title, discountRate := spec.discountRate, multiplier := spec.multiplier,
          durationSeconds := spec.durationSeconds, maxDiscountQuota := spec.maxDiscountQuota }

def extraDrawTitle : String := "再来一抽"

-- Boxes sealed under an older pool keep the reward they were issued with.
def revealedReward (setting : Setting) (item : BalanceBlindBoxItem) (pity : BalanceBlindBoxPityState) (first : Bool) (rolls : Rolls) : SealedReward :=
  if item.reward.poolVersion = balanceBlindBoxPoolVersion ∨ item.reward.rewardType = none then drawBalanceBlindBoxReward setting pity first rolls
  else item.reward

def drawnRecord (userID : Int) (requestID : String) (reward : SealedReward) (now : Int) : BlindBoxOpenRecord :=
  { userID, requestID, poolType := .unified, rewardType := reward.rewardType, rewardTier := reward.rewardTier, rewardUSD := reward.rewardUSD,
    creditAmount := reward.creditAmount, rewardTitle := reward.rewardTitle, rewardWalletType := reward.rewardWalletType,
    isPity := reward.isPity, createTime := now }

-- The reward of one box: another box, a card or quota.
def payRewardTx (env : WalletEnv) (userID : Int) (item : BalanceBlindBoxItem) (reward : SealedReward) (record : BlindBoxOpenRecord) :
    BoxTx BlindBoxOpenRecord := do
  if reward.rewardType = some .prop ∧ reward.rewardTitle = extraDrawTitle then
    createItem (newUnrevealedBalanceBlindBoxItem item.purchaseID userID userID)
    return { record with propType := some .extraDraw, propStatus := some .used }
  else if reward.rewardType = some .prop then
    let prop ← createBlindBoxPropTx userID record.id reward.rewardTitle
    return { record with propID := prop.id, propType := some prop.propType, propStatus := some prop.status, propExpiresAt := prop.expiresAt }
  else
    Tx.reject (reward.creditAmount ≤ 0) (.message ("余额盲盒 " ++ toString item.id ++ " 的封存奖励无效"))
    applyBlindBoxWalletRewardTx env userID record.id reward.creditAmount (normalizeBlindBoxRewardWalletType reward.rewardWalletType)
    return record

def markOpened (userID : Int) (item : BalanceBlindBoxItem) (reward : SealedReward) (openRecordID now : Int) : BoxTx Unit := do
  match ← Tx.view fun store => store.items.find? fun row => row.id = item.id ∧ row.ownerUserID = userID ∧ row.status = .available with
  | none => Tx.fail .recordNotFound
  | some _ => Tx.edit fun store => { store with
      items := store.items.update (fun row => row.id = item.id)
        (fun row => { row with reward, status := .opened, openRecordID, openedAt := now }) fun _ => rfl }

def openSealedBalanceBlindBoxItemTx (env : WalletEnv) (setting : Setting) (userID : Int) (requestID : String) (item : BalanceBlindBoxItem)
    (pity : BalanceBlindBoxPityState) (first : Bool) (rolls : Rolls) (now : Int) : BoxTx (BlindBoxOpenRecord × BalanceBlindBoxPityState) := do
  let reward := revealedReward setting item pity first rolls
  let created ← createRecord (drawnRecord userID requestID reward now)
  let record ← payRewardTx env userID item reward created
  markOpened userID item reward record.id now
  return (record, advanceBalanceBlindBoxPity pity reward.rewardType reward.rewardUSD setting)

-- The boxes from `index` on; each draw sees the pity its predecessors left.
def openItemsTx (env : WalletEnv) (setting : Setting) (userID : Int) (requestID : String) (opened : Nat) (rolls : Nat → Rolls) (now : Int) :
    Nat → BalanceBlindBoxPityState → List BalanceBlindBoxItem → BoxTx (List BlindBoxOpenRecord × BalanceBlindBoxPityState)
  | _, pity, [] => return ([], pity)
  | index, pity, item :: rest => do
      let (record, pity) ← openSealedBalanceBlindBoxItemTx env setting userID (drawRequestID requestID index) item pity (opened + index = 0)
        (rolls index) now
      let (records, pity) ← openItemsTx env setting userID requestID opened rolls now (index + 1) pity rest
      return (record :: records, pity)

def openAvailableTx (env : WalletEnv) (setting : Setting) (userID : Int) (requestID : String) (count : Int) (rolls : Nat → Rolls) (now : Int) :
    BoxTx (List BlindBoxOpenRecord) := do
  let items ← Tx.view fun store => (availableItems userID store).take count.toNat
  Tx.reject ((items.length : Int) ≠ count) (.message ("统一盲盒库存不足，当前可开启 " ++ toString items.length ++ " 个"))
  let (pity, opened) ← loadBalanceBlindBoxOpenStateTx userID
  let (records, pity) ← openItemsTx env setting userID requestID opened rolls now 0 pity items
  savePity pity
  return records

def openBalanceBlindBoxTx (env : WalletEnv) (setting : Setting) (userID : Int) (requestID : String) (count : Int) (rolls : Nat → Rolls)
    (now : Int) : BoxTx (List BlindBoxOpenRecord) := do
  let replayed ← loadBalanceBlindBoxOpenReplay userID requestID count
  if 0 < replayed.length then return replayed
  else openAvailableTx env setting userID requestID count rolls now

def InvalidOpen (userID : Int) (requestID : String) (count : Int) : Prop :=
  userID ≤ 0 ∨ requestID = "" ∨ 61 < requestID.utf8ByteSize ∨ count ≤ 0 ∨ balanceBlindBoxMaxBatch < count

instance (userID : Int) (requestID : String) (count : Int) : Decidable (InvalidOpen userID requestID count) := inferInstanceAs (Decidable (_ ∨ _))

def openBalanceBlindBox (env : WalletEnv) (setting : Setting) (userID : Int) (requestID : String) (count : Int) (rolls : Nat → Rolls)
    (now : Int) : BoxTx (List BlindBoxOpenRecord) := do
  let requestID := trimSpace requestID
  Tx.reject (InvalidOpen userID requestID count) (.message "统一盲盒开启参数无效，单次最多开启 100 个")
  Tx.reject (¬ (setting.enabled ∧ setting.balanceBlindBoxEnabled)) .blindBoxDisabled
  Tx.atomic (openBalanceBlindBoxTx env setting userID requestID count rolls now)

end CodeGo.BlindBox
