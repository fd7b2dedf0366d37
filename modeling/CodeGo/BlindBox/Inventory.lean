import CodeGo.BlindBox.Draw

set_option autoImplicit false

namespace CodeGo.BlindBox

open Relational Text Billing

-- The day of the purchase limit starts at midnight in UTC+8.
def currentBalanceBlindBoxDate (now : Int) : Int := (now + 8 * 60 * 60) / (24 * 60 * 60)

def findPurchase (requestID : String) : BoxTx (Option BalanceBlindBoxPurchase) :=
  Tx.view fun store => store.purchases.find? fun purchase => purchase.requestID = requestID

-- Orders that are paid for but not issued yet count towards the limit.
def countBalanceBlindBoxPurchases (userID pendingPaid now : Int) (store : BoxStore) : Int :=
  (store.purchases.total fun purchase =>
    if purchase.userID = userID ∧ purchase.purchaseDate = currentBalanceBlindBoxDate now then purchase.quantity else 0) + pendingPaid

def issueItems (purchase : BalanceBlindBoxPurchase) : Nat → BoxTx Unit
  | 0 => pure ()
  | count + 1 => do
      createItem (newUnrevealedBalanceBlindBoxItem purchase.id purchase.userID purchase.userID)
      issueItems purchase count

def issueBalanceBlindBoxBatchTx (purchase : BalanceBlindBoxPurchase) : BoxTx Unit := issueItems purchase purchase.quantity.toNat

def purchaseOperation (requestID : String) : String := "unified-blind-box-purchase:" ++ requestID

def purchaseError : LedgerError → BoxError
  | .insufficientBalance => .message "统一额度不足，无法购买盲盒"
  | problem => .ledger problem

def dailyLimitText (limit purchasedToday : Int) : String :=
  "统一盲盒每日最多购买 " ++ toString limit ++ " 个，今日还可购买 " ++ toString (max 0 (limit - purchasedToday)) ++ " 个"

def payBalanceBlindBoxesTx (env : WalletEnv) (setting : Setting) (userID : Int) (requestID : String) (count pendingPaid now : Int) :
    BoxTx BalanceBlindBoxPurchase := do
  let priceQuota := quotaUnitsFromBlindBoxUSD setting setting.balanceBlindBoxPriceUSD
  lockUser userID
  let purchasedToday ← Tx.view (countBalanceBlindBoxPurchases userID pendingPaid now)
  Tx.reject (setting.balanceBlindBoxDailyPurchaseLimit < purchasedToday + count)
    (.message (dailyLimitText setting.balanceBlindBoxDailyPurchaseLimit purchasedToday))
  onWallet purchaseError
    (debitClaudeWalletQuotaAmountTx env userID (priceQuota * count) (purchaseOperation requestID) "unified_blind_box_purchase")
  let purchase ← createPurchase
    { userID, requestID, quantity := count, unitPriceUSD := setting.balanceBlindBoxPriceUSD, totalQuota := priceQuota * count,
      purchaseDate := currentBalanceBlindBoxDate now }
  issueBalanceBlindBoxBatchTx purchase
  return purchase

def purchaseBalanceBlindBoxesTx (env : WalletEnv) (setting : Setting) (userID : Int) (requestID : String) (count pendingPaid now : Int) :
    BoxTx BalanceBlindBoxPurchase := do
  match ← findPurchase requestID with
  | some purchase =>
      Tx.reject (purchase.userID ≠ userID ∨ purchase.quantity ≠ count) (.message "统一盲盒购买请求冲突")
      return purchase
  | none => payBalanceBlindBoxesTx env setting userID requestID count pendingPaid now

def purchaseBalanceBlindBoxes (env : WalletEnv) (setting : Setting) (userID : Int) (requestID : String) (count pendingPaid now : Int) :
    BoxTx BalanceBlindBoxPurchase := do
  let requestID := trimSpace requestID
  Tx.reject (userID ≤ 0 ∨ requestID = "" ∨ 64 < requestID.utf8ByteSize ∨ count ≤ 0 ∨ balanceBlindBoxMaxBatch < count)
    (.message "统一盲盒购买参数无效")
  Tx.reject (¬ (setting.enabled ∧ setting.balanceBlindBoxEnabled)) .blindBoxDisabled
  Tx.atomic (purchaseBalanceBlindBoxesTx env setting userID requestID count pendingPaid now)

structure BlindBoxOrder where
  id : Int
  userID : Int
  quantity : Int
  money : Rat
  tradeNo : String
deriving DecidableEq, Repr

def paidBlindBoxInventoryRequestID (env : WalletEnv) (tradeNo : String) : String := "cash:" ++ env.digest 24 (trimSpace tradeNo)

def issuePaidBlindBoxOrderInventoryTx (env : WalletEnv) (setting : Setting) (order : BlindBoxOrder) (now : Int) : BoxTx Unit := do
  Tx.reject (order.id ≤ 0 ∨ order.quantity ≤ 0) (.message "invalid paid blind box order")
  let requestID := paidBlindBoxInventoryRequestID env order.tradeNo
  match ← findPurchase requestID with
  | some existing =>
      Tx.reject (existing.userID ≠ order.userID ∨ existing.quantity ≠ order.quantity) (.message "paid blind box inventory request conflict")
  | none =>
      let unitPriceUSD := if 0 < order.money then order.money / order.quantity else setting.unitPrice
      let purchase ← createPurchase
        { userID := order.userID, requestID, quantity := order.quantity, unitPriceUSD, totalQuota := 0,
          purchaseDate := currentBalanceBlindBoxDate now }
      issueBalanceBlindBoxBatchTx purchase

structure GiftBalanceBlindBoxRequest where
  recipientExternalID : String
  requestID : String
  count : Int
deriving DecidableEq, Repr

def balanceBlindBoxGiftCoolingSeconds : Int := 72 * 60 * 60

def externalUserIDLength : Nat := 6

def availableItems (userID : Int) (store : BoxStore) : List BalanceBlindBoxItem :=
  store.items.rows.filter fun item => item.ownerUserID = userID ∧ item.status = .available

def lockBalanceBlindBoxGiftItems (senderUserID count : Int) : BoxTx (List BalanceBlindBoxItem) := do
  let items ← Tx.view fun store => (availableItems senderUserID store).take count.toNat
  Tx.reject ((items.length : Int) ≠ count) (.message ("余额盲盒库存不足，当前可赠送 " ++ toString items.length ++ " 个"))
  return items

-- Boxes that a new account bought stay with it for three days.
def ensureBalanceBlindBoxGiftCoolingPassed (items : List BalanceBlindBoxItem) (now : Int) : BoxTx Unit := do
  let cooling ← Tx.view fun store => store.wallet.users.rows.any fun user =>
    (items.any fun item => 0 < item.purchaseUserID ∧ item.purchaseUserID = user.id) ∧ now - balanceBlindBoxGiftCoolingSeconds < user.createdAt
  Tx.reject (cooling = true) .giftCooling

def changeOwner (itemID senderUserID recipientUserID : Int) : BoxTx Unit := do
  match ← Tx.view fun store => store.items.find? fun item => item.id = itemID ∧ item.ownerUserID = senderUserID ∧ item.status = .available with
  | none => Tx.fail .recordNotFound
  | some _ => Tx.edit fun store => { store with
      items := store.items.update (fun item => item.id = itemID) (fun item => { item with ownerUserID := recipientUserID }) fun _ => rfl }

def transferBalanceBlindBoxItemsTx (giftID senderUserID recipientUserID : Int) : List BalanceBlindBoxItem → BoxTx Unit
  | [] => pure ()
  | item :: rest => do
      createGiftItem { giftID, itemID := item.id, fromUserID := senderUserID, toUserID := recipientUserID }
      changeOwner item.id senderUserID recipientUserID
      transferBalanceBlindBoxItemsTx giftID senderUserID recipientUserID rest

def executeBalanceBlindBoxGiftTx (senderUserID : Int) (request : GiftBalanceBlindBoxRequest) (now : Int) : BoxTx BalanceBlindBoxGift := do
  let recipient ← findRecipient request.recipientExternalID
  Tx.reject (recipient.userID = senderUserID) .transferSelf
  let (senderExternalID, recipientExternalID) ← lockTransferUsers senderUserID recipient.userID
  let items ← lockBalanceBlindBoxGiftItems senderUserID request.count
  ensureBalanceBlindBoxGiftCoolingPassed items now
  let gift ← createGift
    { requestID := request.requestID, senderUserID, recipientUserID := recipient.userID, senderExternalID, recipientExternalID,
      quantity := request.count }
  transferBalanceBlindBoxItemsTx gift.id senderUserID recipient.userID items
  return gift

def giftBalanceBlindBoxesTx (senderUserID : Int) (request : GiftBalanceBlindBoxRequest) (now : Int) : BoxTx BalanceBlindBoxGift := do
  match ← Tx.view fun store => store.gifts.find? fun gift => gift.requestID = request.requestID with
  | some gift =>
      Tx.reject (gift.senderUserID ≠ senderUserID ∨ gift.recipientExternalID ≠ request.recipientExternalID ∨ gift.quantity ≠ request.count)
        (.message "余额盲盒赠送请求冲突")
      return gift
  | none => executeBalanceBlindBoxGiftTx senderUserID request now

def giftBalanceBlindBoxes (senderUserID : Int) (request : GiftBalanceBlindBoxRequest) (now : Int) : BoxTx BalanceBlindBoxGift := do
  let request :=
    { request with recipientExternalID := (trimSpace request.recipientExternalID).toUpper, requestID := trimSpace request.requestID }
  Tx.reject (senderUserID ≤ 0 ∨ request.recipientExternalID.utf8ByteSize ≠ externalUserIDLength ∨ request.requestID = "" ∨
    64 < request.requestID.utf8ByteSize ∨ request.count ≤ 0 ∨ balanceBlindBoxMaxBatch < request.count) (.message "余额盲盒赠送参数无效")
  Tx.atomic (giftBalanceBlindBoxesTx senderUserID request now)

end CodeGo.BlindBox
