import CodeGo.Subscription.Usage

set_option autoImplicit false

namespace CodeGo.Subscription

open Relational Text Billing

structure SubscriptionPreConsumeResult where
  userSubscriptionID : Int
  preConsumed : Int
  amountTotal : Int
  amountUsedBefore : Int
  amountUsedAfter : Int
  planID : Int
  planTitle : String
  creditPackGrantedQuota : Int
  creditPackPaidQuota : Int
  creditPackChannelShareBPS : Int
  reservationID : String := ""
  accountID : String := ""
deriving DecidableEq, Repr

def reserveKey (requestID : String) : String := "subscription:" ++ requestID ++ ":reserve"

def bootstrapKey (subscriptionID : Int) : String := "subscription-bootstrap:" ++ toString subscriptionID

def subscriptionReservationExpiry : LedgerTx (Option Int) := Tx.view fun ledger => some (ledger.clock + 24 * 3600)

-- The ledger available to a subscription once its account has entries. With nothing held,
-- the projection is brought back in line with the account on the way.
def subscriptionLedgerAvailableQuotaTx (sub : UserSubscription) : LedgerTx (UserSubscription × Option (BillingAccount × Int)) := do
  if sub.id ≤ 0 ∨ sub.amountTotal ≤ 0 then
    return (sub, none)
  else
    match ← findSubscriptionAccount sub.id with
    | none => return (sub, none)
    | some account =>
        if ← subscriptionLedgerHasEntriesTx account.accountID then
          let snapshot ← lockBalanceSnapshot account.accountID
          let synced := if snapshot.reservedBalance = 0 then
            { sub with amountUsed := min (max (sub.amountTotal - snapshot.availableBalance) 0) sub.amountTotal } else sub
          return (synced, some (account, snapshot.availableBalance))
        else
          return (sub, none)

def LedgerAdmits (sub : UserSubscription) (ledger : Option (BillingAccount × Int)) (amount : Int) : Prop :=
  0 < sub.amountTotal → amount ≤ match ledger with
    | some (_, available) => available
    | none => sub.amountTotal - sub.amountUsed

instance (sub : UserSubscription) (ledger : Option (BillingAccount × Int)) (amount : Int) : Decidable (LedgerAdmits sub ledger amount) :=
  inferInstanceAs (Decidable (_ → _))

def PeriodAdmits (plan : SubscriptionPlan) (sub : UserSubscription) (amount : Int) : Prop :=
  UsesLegacySubscriptionPeriodicQuota plan sub ∨ getSubscriptionPeriodAmount plan sub ≤ 0 ∨
    amount ≤ getSubscriptionPeriodAmount plan sub - sub.periodUsed

instance (plan : SubscriptionPlan) (sub : UserSubscription) (amount : Int) : Decidable (PeriodAdmits plan sub amount) :=
  inferInstanceAs (Decidable (_ ∨ _))

def ModelAdmits (sub : UserSubscription) (modelName : String) (amount : Int) : Prop :=
  modelName = "" ∨ (modelQuota sub.modelLimits modelName).getD 0 ≤ 0 ∨
    (modelQuota sub.modelUsage modelName).getD 0 + amount ≤ (modelQuota sub.modelLimits modelName).getD 0

instance (sub : UserSubscription) (modelName : String) (amount : Int) : Decidable (ModelAdmits sub modelName amount) :=
  inferInstanceAs (Decidable (_ ∨ _))

-- Answers the subscription as synchronised and the locked account of a backed one, or
-- nothing when the subscription cannot take the amount.
def subscriptionCanPreConsume (sub : UserSubscription) (plan : SubscriptionPlan) (modelName : String) (amount : Int) :
    LedgerTx (Option (UserSubscription × Option BillingAccount)) := do
  let (synced, ledger) ← subscriptionLedgerAvailableQuotaTx sub
  if LedgerAdmits synced ledger amount ∧ PeriodAdmits plan synced amount ∧ ModelAdmits synced modelName amount then
    return some (synced, ledger.map Prod.fst)
  else
    return none

def findSubscriptionReservationTx (requestID : String) : LedgerTx (Option BillingReservation) :=
  Tx.view fun ledger => ledger.reservations.find? fun row => row.idempotencyKey = reserveKey requestID

def subscriptionPreConsumeResultFromRecord (record : SubscriptionPreConsumeRecord) : SubscriptionTx SubscriptionPreConsumeResult := do
  Tx.reject (record.userSubscriptionID ≤ 0) (.message "invalid subscription pre-consume record")
  let sub ← lockUserSubscriptionRecordTx record.userSubscriptionID
  let plan ← getSubscriptionPlanRecordTx sub.planID
  let reservation ← onLedger (findSubscriptionReservationTx record.requestID)
  return { userSubscriptionID := sub.id, preConsumed := record.preConsumed, amountTotal := sub.amountTotal, amountUsedBefore := sub.amountUsed,
           amountUsedAfter := sub.amountUsed, planID := plan.id, planTitle := plan.title, creditPackGrantedQuota := sub.creditPackGrantedQuota,
           creditPackPaidQuota := sub.creditPackPaidQuota, creditPackChannelShareBPS := sub.creditPackChannelShareBPS,
           reservationID := (reservation.map BillingReservation.reservationID).getD "",
           accountID := (reservation.map BillingReservation.accountID).getD "" }

-- The first hold of a legacy subscription brings what is left of it into the ledger.
def bootstrapSubscription (env : SubscriptionEnv) (sub : UserSubscription) (requestID : String) : LedgerTx BillingAccount := do
  let account ← ensureBillingAccountTx env.toLedgerEnv (subscriptionAccountParams sub.id)
  let backed ← subscriptionLedgerHasEntriesTx account.accountID
  if backed = true ∨ sub.amountTotal - sub.amountUsed ≤ 0 then
    return account
  else
    let _ ← creditAccountTx env.toLedgerEnv
      { accountID := account.accountID, amount := sub.amountTotal - sub.amountUsed, idempotencyKey := bootstrapKey sub.id,
        reasonCode := "subscription_balance_bootstrap", referenceType := "user_subscription", referenceID := toString sub.id,
        operatorType := "subscription_projection", operatorID := requestID }
    return account

def fundingAccount (env : SubscriptionEnv) (sub : UserSubscription) (requestID : String) : Option BillingAccount → LedgerTx BillingAccount
  | some account => return account
  | none => bootstrapSubscription env sub requestID

def reserveSubscriptionLedgerTx (env : SubscriptionEnv) (sub : UserSubscription) (record : SubscriptionPreConsumeRecord)
    (lockedLedgerAccount : Option BillingAccount) : LedgerTx (Option BillingReservation) := do
  if sub.amountTotal ≤ 0 then
    return none
  else
    let account ← fundingAccount env sub record.requestID lockedLedgerAccount
    let expiresAt ← subscriptionReservationExpiry
    let reservation ← createReservationTx env.toLedgerEnv
      { accountID := account.accountID, requestID := record.requestID, reservedAmount := record.preConsumed,
        idempotencyKey := reserveKey record.requestID, expiresAt }
    return some reservation

-- What the candidate discovery asks of a row, asked again under its lock.
def UserSubscription.Active (sub : UserSubscription) (now : Int) : Prop :=
  sub.status = .active ∧ (now < sub.endTime ∨ (sub.endTime = 0 ∧ sub.CreditPack))

instance (sub : UserSubscription) (now : Int) : Decidable (sub.Active now) := inferInstanceAs (Decidable (_ ∧ _))

structure PreConsumeRequest where
  requestID : String
  userID : Int
  modelName : String
  amount : Int
  now : Int
deriving DecidableEq, Repr

def PreConsumeRequest.record (request : PreConsumeRequest) (sub : UserSubscription) : SubscriptionPreConsumeRecord :=
  { requestID := request.requestID, userID := request.userID, userSubscriptionID := sub.id, modelName := request.modelName,
    preConsumed := request.amount, status := .consumed }

def lockCandidate (request : PreConsumeRequest) (subscriptionID : Int) : SubscriptionTx UserSubscription := do
  match ← Tx.view fun store => store.subscriptions.find? fun row =>
      row.id = subscriptionID ∧ row.userID = request.userID ∧ row.Active request.now with
  | some sub => return sub
  | none => Tx.fail .candidateUnavailable

-- The plan found with the candidate serves as long as the row still names it.
def candidatePlan (known : Option SubscriptionPlan) (sub : UserSubscription) : SubscriptionTx SubscriptionPlan :=
  match known with
  | some plan => if plan.id = sub.planID then return plan else getSubscriptionPlanRecordTx sub.planID
  | none => getSubscriptionPlanRecordTx sub.planID

-- The new hold: the record, its reservation and the usage they stand for.
def holdSubscription (env : SubscriptionEnv) (request : PreConsumeRequest) (plan : SubscriptionPlan) (sub : UserSubscription)
    (lockedLedgerAccount : Option BillingAccount) : SubscriptionTx SubscriptionPreConsumeResult := do
  createRecord (request.record sub)
  let reservation ← onLedger (reserveSubscriptionLedgerTx env sub (request.record sub) lockedLedgerAccount)
  let used ← Tx.lift (applySubscriptionUsageDelta plan sub request.modelName request.amount)
  saveSubscription used
  return { userSubscriptionID := used.id, preConsumed := request.amount, amountTotal := used.amountTotal, amountUsedBefore := sub.amountUsed,
           amountUsedAfter := used.amountUsed, planID := plan.id, planTitle := plan.title,
           creditPackGrantedQuota := used.creditPackGrantedQuota, creditPackPaidQuota := used.creditPackPaidQuota,
           creditPackChannelShareBPS := used.creditPackChannelShareBPS,
           reservationID := (reservation.map BillingReservation.reservationID).getD "",
           accountID := (reservation.map BillingReservation.accountID).getD "" }

def preConsumeCandidateTx (env : SubscriptionEnv) (request : PreConsumeRequest) (subscriptionID : Int) (known : Option SubscriptionPlan) :
    SubscriptionTx SubscriptionPreConsumeResult := do
  match ← findRecord request.requestID with
  | some existing =>
      Tx.reject (existing.status = .refunded ∨ existing.userID ≠ request.userID) (.message "subscription pre-consume already refunded")
      subscriptionPreConsumeResultFromRecord existing
  | none =>
      let locked ← lockCandidate request subscriptionID
      let found ← candidatePlan known locked
      let plan := creditPackSnapshotPlan found locked
      let sub ← maybeResetUserSubscriptionWithPlanTx env locked plan request.now
      match ← onLedger (subscriptionCanPreConsume sub plan request.modelName request.amount) with
      | none => Tx.fail .candidateUnavailable
      | some (synced, lockedLedgerAccount) => holdSubscription env request plan synced lockedLedgerAccount

def planOf (plans : List SubscriptionPlan) (planID : Int) : Option SubscriptionPlan :=
  if planID ≤ 0 then none else plans.find? fun plan => plan.id = planID

end CodeGo.Subscription
