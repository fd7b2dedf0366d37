import CodeGo.Subscription.PreConsume

set_option autoImplicit false

namespace CodeGo.Subscription

open Relational Text Billing

def usageAdjustKey (operationKey : String) : String := "subscription-usage-adjust:" ++ operationKey

def lockSubscriptionSnapshot (env : SubscriptionEnv) (subscriptionID : Int) : LedgerTx (BillingAccount × BillingBalanceSnapshot) := do
  let account ← ensureBillingAccountTx env.toLedgerEnv (subscriptionAccountParams subscriptionID)
  let snapshot ← lockBalanceSnapshot account.accountID
  return (account, snapshot)

-- The metadata column of the entry is written after the entry itself.
def noteEvidence (entryID : String) (evidence : UsageEvidence) : SubscriptionTx Unit :=
  Tx.edit fun store => { store with evidence := (entryID, evidence) :: store.evidence }

def adjustUnlimitedUsage (env : SubscriptionEnv) (sub : UserSubscription) (plan : SubscriptionPlan) (account : BillingAccount)
    (modelName : String) (delta : Int) (key : String) : SubscriptionTx Unit := do
  Tx.reject (sub.amountUsed < 0 ∨ (0 < delta ∧ maxInt64 - delta < sub.amountUsed) ∨ (delta < 0 ∧ sub.amountUsed < -delta))
    (.message "unlimited subscription usage adjustment is out of range")
  let used ← Tx.lift (applySubscriptionUsageDelta plan sub modelName delta)
  let entry ← onLedger (recordAdjustmentTx env.toLedgerEnv
    { accountID := account.accountID, idempotencyKey := key, reasonCode := "subscription_unlimited_usage_adjustment",
      referenceType := "user_subscription", referenceID := toString sub.id })
  noteEvidence entry.entryID { delta, model := modelName }
  saveSubscription used

def bootstrapReceipt (env : SubscriptionEnv) (sub : UserSubscription) (account : BillingAccount) (operatorType : String) : LedgerTx Unit := do
  if 0 < sub.amountTotal - sub.amountUsed then
    let _ ← creditAccountTx env.toLedgerEnv
      { accountID := account.accountID, amount := sub.amountTotal - sub.amountUsed, idempotencyKey := bootstrapKey sub.id,
        reasonCode := "subscription_balance_bootstrap", referenceType := "user_subscription", referenceID := toString sub.id, operatorType }
  else
    let _ ← recordAdjustmentTx env.toLedgerEnv
      { accountID := account.accountID, idempotencyKey := bootstrapKey sub.id, reasonCode := "subscription_balance_bootstrap",
        referenceType := "user_subscription", referenceID := toString sub.id, operatorType }

-- An adjustment needs a ledger to adjust: what the projection says is brought into it.
def backSubscription (env : SubscriptionEnv) (sub : UserSubscription) (account : BillingAccount) : SubscriptionTx Unit := do
  let backed ← onLedger (subscriptionLedgerHasEntriesTx account.accountID)
  if backed then
    return ()
  else
    Tx.reject (sub.amountTotal ≤ 0 ∨ sub.amountUsed < 0 ∨ sub.amountTotal < sub.amountUsed)
      (.message "subscription balance is invalid for a ledger adjustment")
    onLedger (bootstrapReceipt env sub account "")

def adjustLimitedUsage (env : SubscriptionEnv) (sub : UserSubscription) (plan : SubscriptionPlan) (account : BillingAccount)
    (modelName : String) (delta : Int) (key : String) : SubscriptionTx Unit := do
  backSubscription env sub account
  let balance ← onLedger (lockBalanceSnapshot account.accountID)
  Tx.reject (sub.amountTotal ≤ 0 ∨ balance.availableBalance < 0 ∨ balance.reservedBalance < 0 ∨ sub.amountTotal < balance.availableBalance ∨
    sub.amountTotal - balance.availableBalance < balance.reservedBalance) (.message "subscription ledger balance is inconsistent")
  let synced := { sub with amountUsed := sub.amountTotal - balance.availableBalance }
  -- A refund returns settled consumption and never another request's hold.
  Tx.reject (delta < 0 ∧ synced.amountUsed - balance.reservedBalance < -delta) (.message "subscription refund exceeds settled usage")
  Tx.reject (0 < delta ∧ balance.availableBalance < delta) (.ledger .insufficientBalance)
  let used ← Tx.lift (applySubscriptionUsageDelta plan synced modelName delta)
  let entry ← onLedger (adjustAvailableBalanceTx env.toLedgerEnv
    { accountID := account.accountID, usageAmount := delta, idempotencyKey := key, reasonCode := "subscription_usage_adjustment",
      referenceType := "user_subscription", referenceID := toString sub.id })
  noteEvidence ((entry.map BillingLedgerEntry.entryID).getD "") { delta, model := modelName }
  saveSubscription used

def storedEvidence (entryID : String) : SubscriptionTx UsageEvidence :=
  Tx.view fun store => (store.evidence.lookup entryID).getD {}

def adjustUsage (env : SubscriptionEnv) (sub : UserSubscription) (account : BillingAccount) (modelName : String) (delta : Int) (key : String) :
    SubscriptionTx Unit := do
  let found ← getSubscriptionPlanRecordTx sub.planID
  let plan := creditPackSnapshotPlan found sub
  if sub.amountTotal = 0 then
    adjustUnlimitedUsage env sub plan account modelName delta key
  else
    adjustLimitedUsage env sub plan account modelName delta key

-- Answers whether the adjustment was applied by this call.
def adjustUserSubscriptionUsageDeltaTx (env : SubscriptionEnv) (subscriptionID : Int) (modelName : String) (delta : Int) (operationKey : String) :
    SubscriptionTx Bool := do
  Tx.reject (subscriptionID ≤ 0 ∨ Blank operationKey ∨ delta = -2 ^ 63) (.message "valid transaction, subscription and adjustment identity are required")
  if delta = 0 then
    return false
  else
    let sub ← lockUserSubscriptionRecordTx subscriptionID
    let account ← onLedger (ensureBillingAccountTx env.toLedgerEnv (subscriptionAccountParams subscriptionID))
    match ← onLedger (findLedgerEntryByIdempotency (usageAdjustKey operationKey)) with
    | some prior =>
        let evidence ← storedEvidence prior.entryID
        Tx.reject (prior.accountID ≠ account.accountID ∨ evidence.delta ≠ delta ∨ evidence.model ≠ modelName) (.ledger .ledgerConflict)
        return false
    | none =>
        adjustUsage env sub account modelName delta (usageAdjustKey operationKey)
        return true

-- `created_at asc, reservation_id asc`
def ReservationBefore (first second : BillingReservation) : Prop :=
  first.createdAt < second.createdAt ∨ first.createdAt = second.createdAt ∧ first.reservationID ≤ second.reservationID

instance (first second : BillingReservation) : Decidable (ReservationBefore first second) := inferInstanceAs (Decidable (_ ∨ _))

def findOpenSubscriptionReservationsTx (requestID : String) : LedgerTx (List BillingReservation) :=
  Tx.view fun ledger => (ledger.reservations.rows.filter fun row => row.requestID = requestID ∧ row.status = .opened).mergeSort
    fun first second => ReservationBefore first second

def reservedTotal (reservations : List BillingReservation) : Int := (reservations.map BillingReservation.reservedAmount).sum

-- Each hold takes its own amount while it lasts, and the last one the rest.
def settleEach (env : LedgerEnv) (evidenceID : String) (key : String → String) : Int → List BillingReservation → LedgerTx Unit
  | _, [] => return ()
  | remaining, [last] => do
      let _ ← settleReservationTx env
        { reservationID := last.reservationID, usageEvidenceID := evidenceID, actualAmount := remaining, idempotencyKey := key last.reservationID }
  | remaining, reservation :: next :: rest => do
      let _ ← settleReservationTx env
        { reservationID := reservation.reservationID, usageEvidenceID := evidenceID, actualAmount := min remaining reservation.reservedAmount,
          idempotencyKey := key reservation.reservationID }
      settleEach env evidenceID key (remaining - min remaining reservation.reservedAmount) (next :: rest)

def releaseEach (env : LedgerEnv) (key : String → String) (reasonCode : String) : List BillingReservation → LedgerTx Unit
  | [] => return ()
  | reservation :: rest => do
      let _ ← releaseReservationTx env { reservationID := reservation.reservationID, idempotencyKey := key reservation.reservationID, reasonCode }
      releaseEach env key reasonCode rest

def settleKey (requestID reservationID : String) : String := "subscription:" ++ requestID ++ ":settle:" ++ reservationID

def releaseKey (requestID reservationID : String) : String := "subscription:" ++ requestID ++ ":release:" ++ reservationID

def postConsumeUserSubscriptionUsageDeltaTx (subscriptionID : Int) (modelName : String) (delta : Int) : SubscriptionTx Unit := do
  let sub ← lockUserSubscriptionRecordTx subscriptionID
  let plan ← getSubscriptionPlanRecordTx sub.planID
  let used ← Tx.lift (applySubscriptionUsageDelta plan sub modelName delta)
  saveSubscription used

def settleFiniteReservationTx (env : SubscriptionEnv) (record : SubscriptionPreConsumeRecord) (actualAmount : Int) : SubscriptionTx Unit := do
  let reservations ← onLedger (findOpenSubscriptionReservationsTx record.requestID)
  if reservations = [] then
    let settled ← Tx.view fun store =>
      (store.ledger.reservations.find? fun row => row.requestID = record.requestID ∧ row.status = .settled).isSome
    Tx.reject (settled = false) (.message "subscription ledger reservation is missing")
  else
    onLedger (settleEach env.toLedgerEnv record.requestID (settleKey record.requestID) actualAmount reservations)
    if actualAmount = reservedTotal reservations then
      return ()
    else
      postConsumeUserSubscriptionUsageDeltaTx record.userSubscriptionID record.modelName (actualAmount - reservedTotal reservations)

def settleUnlimitedReservationTx (env : SubscriptionEnv) (record : SubscriptionPreConsumeRecord) (modelName : String) (actualAmount : Int) :
    SubscriptionTx Unit := do
  Tx.reject (record.modelName ≠ trimSpace modelName ∨ record.preConsumed < 0) (.message "unlimited subscription settlement evidence mismatch")
  if record.status = .settled then
    Tx.reject (record.preConsumed ≠ actualAmount) (.ledger .ledgerConflict)
  else
    Tx.reject (record.status ≠ .consumed) (.message "unlimited subscription usage hold is unavailable")
    let _ ← adjustUserSubscriptionUsageDeltaTx env record.userSubscriptionID modelName (actualAmount - record.preConsumed)
      ("relay-settle:" ++ record.requestID)
    saveRecord { record with preConsumed := actualAmount, status := .settled }

def settleSubscriptionReservationTx (env : SubscriptionEnv) (requestID : String) (subscriptionID : Int) (modelName : String) (actualAmount : Int) :
    SubscriptionTx Unit := do
  Tx.reject (Blank requestID) (.message "requestId is empty")
  Tx.reject (subscriptionID ≤ 0) (.message "invalid userSubscriptionId")
  Tx.reject (actualAmount < 0) (.message "actual amount cannot be negative")
  let record ← lockRecord requestID
  Tx.reject (record.userSubscriptionID ≠ subscriptionID) (.message "subscription reservation ownership mismatch")
  Tx.reject (record.status = .refunded) (.message "subscription pre-consume already refunded")
  let sub ← lockUserSubscriptionRecordTx record.userSubscriptionID
  if sub.amountTotal = 0 then
    settleUnlimitedReservationTx env record modelName actualAmount
  else
    settleFiniteReservationTx env record actualAmount

def refundFinite (env : SubscriptionEnv) (record : SubscriptionPreConsumeRecord) : SubscriptionTx Unit := do
  let reservations ← onLedger (findOpenSubscriptionReservationsTx record.requestID)
  Tx.reject (reservations = []) (.message "subscription ledger reservation is missing")
  onLedger (releaseEach env.toLedgerEnv (releaseKey record.requestID) "relay_failed_before_settlement" reservations)
  postConsumeUserSubscriptionUsageDeltaTx record.userSubscriptionID record.modelName (-reservedTotal reservations)
  saveRecord { record with status := .refunded }

def refundUnlimited (env : SubscriptionEnv) (record : SubscriptionPreConsumeRecord) : SubscriptionTx Unit := do
  let _ ← adjustUserSubscriptionUsageDeltaTx env record.userSubscriptionID record.modelName (-record.preConsumed)
    ("relay-cancel:" ++ record.requestID)
  saveRecord { record with status := .refunded }

def refundSubscriptionPreConsume (env : SubscriptionEnv) (requestID : String) : SubscriptionTx Unit := do
  Tx.reject (Blank requestID) (.message "requestId is empty")
  let record ← lockRecord requestID
  if record.status = .refunded ∨ record.status = .settled then
    return ()
  else if record.preConsumed ≤ 0 then
    saveRecord { record with status := .refunded }
  else
    let sub ← lockUserSubscriptionRecordTx record.userSubscriptionID
    if sub.amountTotal = 0 then
      refundUnlimited env record
    else
      refundFinite env record

def reserveExtraKey (requestID : String) (amountUsed : Int) : String := "subscription:" ++ requestID ++ ":reserve-extra:" ++ toString amountUsed

def holdExtra (env : SubscriptionEnv) (requestID : String) (sub : UserSubscription) (modelName : String) (amount : Int) : SubscriptionTx Unit := do
  let plan ← getSubscriptionPlanRecordTx sub.planID
  let (account, snapshot) ← onLedger (lockSubscriptionSnapshot env sub.id)
  Tx.reject (snapshot.availableBalance < amount) (.ledger .insufficientBalance)
  let used ← Tx.lift ((applySubscriptionUsageDelta plan sub modelName amount).mapError .insufficientUsage)
  saveSubscription used
  let expiresAt ← onLedger subscriptionReservationExpiry
  let _ ← onLedger (createReservationTx env.toLedgerEnv
    { accountID := account.accountID, requestID, reservedAmount := amount, idempotencyKey := reserveExtraKey requestID used.amountUsed, expiresAt })

-- Answers whether the subscription is unlimited, which a second transaction takes care of.
def reserveAdditionalSubscriptionQuota (env : SubscriptionEnv) (requestID : String) (subscriptionID : Int) (modelName : String) (amount now : Int) :
    SubscriptionTx Bool := do
  Tx.reject (Blank requestID ∨ subscriptionID ≤ 0 ∨ amount ≤ 0) (.message "requestId, subscriptionId and amount are required")
  let sub ← lockUserSubscriptionRecordTx subscriptionID
  if sub.amountTotal = 0 then
    return true
  else
    Tx.reject (¬ sub.Active now) (.message "subscription is no longer active")
    holdExtra env requestID sub modelName amount
    return false

end CodeGo.Subscription
