import CodeGo.Subscription.Renewal

set_option autoImplicit false

namespace CodeGo.Subscription

open Relational Text Billing Machine Renewal

/- The grants, the holds and the corrections that may be the first to write to the account of
   a subscription. -/

-- What the projection has left is credited once, while the account has no entry yet.
def bootstrapProjection (env : LedgerEnv) (sub : UserSubscription) (accountID operatorType operatorID : String) : LedgerTx Unit := do
  let ledgerBacked ← subscriptionLedgerHasEntriesTx accountID
  if ledgerBacked = false ∧ 0 < sub.amountTotal - sub.amountUsed then
    let _ ← creditAccountTx env
      { accountID, amount := sub.amountTotal - sub.amountUsed, idempotencyKey := bootstrapKey sub.id,
        reasonCode := "subscription_balance_bootstrap", referenceType := "user_subscription", referenceID := toString sub.id, operatorType,
        operatorID }
  else
    return ()

def bonusKey (subscriptionID : Int) (grantKey : String) : String := "subscription-bonus:" ++ toString subscriptionID ++ ":" ++ grantKey

-- Answers whether the projection has to take the grant as well.
def creditMaterializedSubscriptionBonusTx (env : LedgerEnv) (sub : UserSubscription) (bonusQuota : Int) (grantKey : String) : LedgerTx Bool := do
  let account ← ensureBillingAccountTx env (subscriptionAccountParams sub.id)
  match ← findLedgerEntryByIdempotency (bonusKey sub.id grantKey) with
  | some existing =>
      Tx.reject (existing.accountID ≠ account.accountID ∨ existing.amount ≠ bonusQuota ∨ existing.entryType ≠ .grantCredit) .ledgerConflict
      return false
  | none =>
      bootstrapProjection env sub account.accountID "commerce" "subscription_bonus"
      let _ ← creditAccountTx env
        { accountID := account.accountID, amount := bonusQuota, idempotencyKey := bonusKey sub.id grantKey, reasonCode := "subscription_bonus",
          referenceType := "user_subscription", referenceID := toString sub.id, operatorType := "commerce", operatorID := "subscription_bonus" }
      return true

def addSubscriptionBonusTx (env : LedgerEnv) (subscriptionID bonusQuota : Int) (grantKey : String) : SubscriptionTx Unit := do
  if bonusQuota ≤ 0 then
    return ()
  else
    Tx.reject (Blank grantKey) (.message "subscription bonus grant key is empty")
    let current ← lockUserSubscriptionRecordTx subscriptionID
    if ← onLedger (creditMaterializedSubscriptionBonusTx env current bonusQuota (trimSpace grantKey)) then
      saveSubscription { current with
        amountTotal := wrap (current.amountTotal + bonusQuota)
        periodAmount := if 0 < current.periodAmount then wrap (current.periodAmount + bonusQuota) else current.periodAmount }
    else
      return ()

structure FuelOrder where
  id : Int
  userID : Int
  tradeNo : String
  -- The purchase type of the order is that of a fuel order.
  fuel : Bool
  targetSubscriptionID : Int
  fuelQuota : Int
  fuelExpiresAt : Int
deriving DecidableEq, Repr

def subscriptionFuelUnavailable : SubscriptionError := .message "subscription fuel is unavailable"

def fuelKey (tradeNo : String) : String := "subscription-fuel:" ++ tradeNo

def creditSubscriptionFuel (env : LedgerEnv) (sub : UserSubscription) (order : FuelOrder) : LedgerTx Bool := do
  let account ← ensureBillingAccountTx env (subscriptionAccountParams sub.id)
  match ← findLedgerEntryByIdempotency (fuelKey order.tradeNo) with
  | some existing =>
      Tx.reject (existing.accountID ≠ account.accountID ∨ existing.amount ≠ order.fuelQuota ∨ existing.entryType ≠ .grantCredit) .ledgerConflict
      return false
  | none =>
      bootstrapProjection env sub account.accountID "commerce" order.tradeNo
      let _ ← creditAccountTx env
        { accountID := account.accountID, amount := order.fuelQuota, idempotencyKey := fuelKey order.tradeNo, reasonCode := "subscription_fuel",
          referenceType := "subscription_fuel_order", referenceID := order.tradeNo, operatorType := "commerce", operatorID := toString order.id }
      return true

-- The sum is the database's own: one that leaves the column fails there.
def fulfillSubscriptionFuelTx (env : LedgerEnv) (order : FuelOrder) (now : Int) : SubscriptionTx Unit := do
  Tx.reject (order.fuel = false ∨ order.targetSubscriptionID ≤ 0 ∨ order.fuelQuota ≤ 0 ∨ Blank order.tradeNo) subscriptionFuelUnavailable
  match ← Tx.view fun store => store.subscriptions.find? fun row => row.id = order.targetSubscriptionID ∧ row.userID = order.userID with
  | none => Tx.fail subscriptionFuelUnavailable
  | some sub =>
      Tx.reject (sub.status ≠ .active ∨ sub.endTime ≤ now ∨ sub.endTime ≠ order.fuelExpiresAt) subscriptionFuelUnavailable
      if ← onLedger (creditSubscriptionFuel env sub order) then
        Tx.reject (maxInt64 < sub.amountTotal + order.fuelQuota) (.message "bigint out of range")
        saveSubscription { sub with amountTotal := sub.amountTotal + order.fuelQuota }
      else
        return ()

structure ConversionEnv extends RenewalEnv where
  -- The digest of a text, in hexadecimal digits.
  sha256 : String → String

def conversionRequestID (env : ConversionEnv) (requestID : String) : String :=
  String.ofList (("monthly-pass-conversion:" ++ env.sha256 requestID).toList.take 64)

def conversionReserveKey (requestID : String) : String := "monthly-pass-conversion:" ++ requestID ++ ":reserve"

def conversionSettleKey (requestID : String) : String := "monthly-pass-conversion:" ++ requestID ++ ":settle"

def consumeMonthlyPassConversionQuotaTx (env : ConversionEnv) (sub : UserSubscription) (amount : Int) (requestID : String) : LedgerTx Unit := do
  let account ← ensureBillingAccountTx env.toLedgerEnv (subscriptionAccountParams sub.id)
  bootstrapProjection env.toLedgerEnv sub account.accountID "monthly_pass_conversion" requestID
  let reservation ← createReservationTx env.toLedgerEnv
    { accountID := account.accountID, requestID := conversionRequestID env requestID, reservedAmount := amount,
      idempotencyKey := conversionReserveKey requestID }
  let _ ← settleReservationTx env.toLedgerEnv
    { reservationID := reservation.reservationID, actualAmount := amount, idempotencyKey := conversionSettleKey requestID }

def converted (plan : SubscriptionPlan) (sub : UserSubscription) (amount now : Int) : UserSubscription :=
  if sub.amountTotal ≤ sub.amountUsed + amount then
    { sub with
      amountUsed := sub.amountTotal
      periodUsed := if 0 < getSubscriptionPeriodAmount plan sub then getSubscriptionPeriodAmount plan sub else sub.periodUsed
      status := .cancelled
      endTime := now }
  else { sub with amountUsed := sub.amountUsed + amount }

def subscriptionConversionNoTarget : SubscriptionError := .message "当前套餐不可转换"

def conversionProblem : SubscriptionError → SubscriptionError
  | .ledger .insufficientBalance => subscriptionConversionNoTarget
  | problem => problem

-- A permanent pack has no resets.
def resetBeforeConversion (env : SubscriptionEnv) (sub : UserSubscription) (plan : SubscriptionPlan) (now : Int) : SubscriptionTx UserSubscription :=
  if sub.CreditPack ∨ plan.creditPack = true then return sub else maybeResetUserSubscriptionWithPlanTx env sub plan now

-- The part of a conversion that touches the subscription: what it reads before only refuses,
-- and the credits after it are on the account of the wallet. The amount is that of the quote.
def convertSubscription (env : ConversionEnv) (subscriptionID userID amount : Int) (requestID : String) (now : Int) : SubscriptionTx Unit := do
  match ← Tx.view fun store => store.subscriptions.find? fun row => row.id = subscriptionID ∧ row.userID = userID with
  | none => Tx.fail subscriptionConversionNoTarget
  | some locked =>
      let plan ← (getSubscriptionPlanRecordTx locked.planID).withError fun _ => subscriptionConversionNoTarget
      let sub ← resetBeforeConversion env.toSubscriptionEnv locked plan now
      Tx.reject (amount ≤ 0) subscriptionConversionNoTarget
      (onLedger (consumeMonthlyPassConversionQuotaTx env sub amount requestID)).withError conversionProblem
      saveSubscription (converted plan sub amount now)

def refundReserveKey (refundNo : String) : String := "payment-refund:" ++ refundNo ++ ":reserve"

-- A projection with nothing left has nothing to credit, and the credit of nothing is refused.
def bootstrapRefund (env : LedgerEnv) (sub : UserSubscription) (accountID refundNo : String) : LedgerTx Unit := do
  if ← subscriptionLedgerHasEntriesTx accountID then
    return ()
  else
    let _ ← creditAccountTx env
      { accountID, amount := max (sub.amountTotal - sub.amountUsed) 0, idempotencyKey := bootstrapKey sub.id,
        reasonCode := "subscription_balance_bootstrap", referenceType := "user_subscription", referenceID := toString sub.id,
        operatorType := "subscription_projection", operatorID := refundNo }

def reserveSubscriptionRefundTx (env : LedgerEnv) (sub : UserSubscription) (amount : Int) (refundNo : String) : LedgerTx Unit := do
  let account ← ensureBillingAccountTx env (subscriptionAccountParams sub.id)
  bootstrapRefund env sub account.accountID refundNo
  let snapshot ← lockBalanceSnapshot account.accountID
  Tx.reject (amount ≤ 0 ∨ snapshot.reservedBalance ≠ 0 ∨ snapshot.availableBalance < amount) (.message "套餐存在待结算请求或可退款余额不足")
  let _ ← createReservationTx env
    { accountID := account.accountID, workflowID := refundNo, reservedAmount := amount, idempotencyKey := refundReserveKey refundNo }

-- The part of a refund request that touches the subscription.
def holdSubscriptionRefund (env : LedgerEnv) (subscriptionID userID amount : Int) (refundNo : String) : SubscriptionTx Unit := do
  match ← Tx.view fun store => store.subscriptions.find? fun row => row.id = subscriptionID ∧ row.userID = userID with
  | none => Tx.fail .recordNotFound
  | some sub =>
      Tx.reject (sub.status ≠ .active) (.message "套餐当前不可退款")
      onLedger (reserveSubscriptionRefundTx env sub amount refundNo)
      saveSubscription { sub with status := .refundPending }

def creditSubscriptionQuotaTx (env : LedgerEnv) (subscriptionID : Int) (modelName : String) (amount : Int) (idempotencyKey reasonCode : String) :
    SubscriptionTx Unit := do
  Tx.reject (subscriptionID ≤ 0 ∨ amount ≤ 0 ∨ Blank idempotencyKey) (.message "subscription id, amount and idempotency key are required")
  match ← onLedger (findLedgerEntryByIdempotency idempotencyKey) with
  | some existing => Tx.reject (existing.amount ≠ amount ∨ existing.entryType ≠ .grantCredit) (.ledger .ledgerConflict)
  | none =>
      let sub ← lockUserSubscriptionRecordTx subscriptionID
      let plan ← getSubscriptionPlanRecordTx sub.planID
      let used ← Tx.lift (applySubscriptionUsageDelta plan sub modelName (-amount))
      let account ← onLedger (ensureBillingAccountTx env (subscriptionAccountParams subscriptionID))
      let _ ← onLedger (creditAccountTx env
        { accountID := account.accountID, amount, idempotencyKey, reasonCode, reasonDetail := "marketplace multiplier correction",
          referenceType := "marketplace_settlement", referenceID := idempotencyKey, operatorType := "system",
          operatorID := "marketplace-multiplier-correction" })
      saveSubscription used

end CodeGo.Subscription
