import CodeGo.Lib.Int64
import CodeGo.Subscription.Settlement

set_option autoImplicit false

namespace CodeGo.Subscription

open Relational Text Billing Machine

/- Resets, the edits of an administrator and the recovery of holds that were left open. -/

def DueForReset (sub : UserSubscription) (now : Int) : Prop :=
  0 < sub.nextResetTime ∧ sub.nextResetTime ≤ now ∧ sub.status = .active ∧ sub.creditPackGrantedQuota = 0

instance (sub : UserSubscription) (now : Int) : Decidable (DueForReset sub now) := inferInstanceAs (Decidable (_ ∧ _))

-- One transaction of the periodic task; a row that is no longer due is passed over.
def resetDueSubscription (env : SubscriptionEnv) (subscriptionID now : Int) : SubscriptionTx Unit := do
  match ← Tx.view fun store => store.subscriptions.find? fun row => row.id = subscriptionID ∧ DueForReset row now with
  | none => return ()
  | some sub =>
      let plan ← getSubscriptionPlanRecordTx sub.planID
      let _ ← maybeResetUserSubscriptionWithPlanTx env sub plan now

def adminResetKey (subscriptionID now : Int) : String := "admin:" ++ toString subscriptionID ++ ":" ++ toString now

def adminResetTimes (env : SubscriptionEnv) (plan : SubscriptionPlan) (sub : UserSubscription) (advanceResetTime : Bool) (now : Int) : UserSubscription :=
  let from_ (base : Int) := { sub with
    lastResetTime := base, nextResetTime := calcNextSubscriptionResetTime env.calendar base plan sub.endTime }
  if plan.quotaResetPeriod = .never then { sub with lastResetTime := 0, nextResetTime := 0 }
  else if advanceResetTime then from_ now
  else if sub.lastResetTime ≤ 0 then from_ (max sub.startTime now)
  else sub

def resetAdminUserSubscriptionQuotaRuntime (env : SubscriptionEnv) (subscriptionID : Int) (advanceResetTime : Bool) (now : Int) : SubscriptionTx Unit := do
  Tx.reject (subscriptionID ≤ 0) (.message "invalid userSubscriptionId")
  let sub ← lockUserSubscriptionRecordTx subscriptionID
  Tx.reject sub.CreditPack (.message "permanent credit packs cannot be refreshed")
  let plan ← getSubscriptionPlanRecordTx sub.planID
  let cleared := { sub with amountUsed := 0, periodUsed := 0, modelUsage := [] }
  onLedger (restoreSubscriptionLedgerBalanceAfterResetTx env cleared (adminResetKey sub.id now))
  saveSubscription (adminResetTimes env plan cleared advanceResetTime now)

structure AdminUpdate where
  amountTotal : Int
  amountUsed : Int
  periodAmount : Int
  periodUsed : Int
  modelLimits : ModelQuota
  startTime : Int
  endTime : Int
  -- A blank status keeps the one of the row.
  status : Option SubscriptionStatus
deriving DecidableEq, Repr

def adminQuotaKey (uuid : String) : String := "subscription-admin-quota:" ++ uuid

-- An edit that keeps both amounts leaves a subscription alone that has no ledger balance yet.
def metadataOnly (sub : UserSubscription) (total used : Int) : LedgerTx Bool := do
  if total = sub.amountTotal ∧ used = sub.amountUsed then
    match ← findSubscriptionAccount sub.id with
    | none => return true
    | some existing => return !(← subscriptionLedgerHasEntriesTx existing.accountID)
  else
    return false

-- The available balance the adjustment starts from.
def adminBackedBalance (env : SubscriptionEnv) (sub : UserSubscription) (account : BillingAccount) (snapshot : BillingBalanceSnapshot) :
    SubscriptionTx Int := do
  let backed ← onLedger (subscriptionLedgerHasEntriesTx account.accountID)
  if backed then
    return snapshot.availableBalance
  else
    Tx.reject (snapshot.availableBalance ≠ 0 ∨ snapshot.reservedBalance ≠ 0 ∨ snapshot.grantedTotal ≠ 0 ∨ snapshot.consumedTotal ≠ 0 ∨
      snapshot.refundedTotal ≠ 0) (.message "subscription balance without ledger entries requires reconciliation")
    Tx.reject (sub.amountTotal ≤ 0 ∨ sub.amountUsed < 0 ∨ sub.amountTotal < sub.amountUsed) (.message "invalid existing subscription quota")
    onLedger (bootstrapReceipt env sub account "subscription_admin")
    return sub.amountTotal - sub.amountUsed

def moveAdminBalance (env : SubscriptionEnv) (sub : UserSubscription) (total used : Int) (uuid : String) : SubscriptionTx Unit := do
  let (account, snapshot) ← onLedger (lockSubscriptionSnapshot env sub.id)
  Tx.reject (used < snapshot.reservedBalance) (.message "amount_used cannot be less than reserved subscription quota")
  let available ← adminBackedBalance env sub account snapshot
  if available = total - used then
    return ()
  else
    let _ ← onLedger (adjustAvailableBalanceTx env.toLedgerEnv
      { accountID := account.accountID, usageAmount := available - (total - used), idempotencyKey := adminQuotaKey uuid,
        reasonCode := "subscription_admin_quota_adjustment", referenceType := "user_subscription", referenceID := toString sub.id })

-- `AmountUsed` counts the holds of running requests, so `total - used` is what is left available.
def adjustAdminSubscriptionQuotaTx (env : SubscriptionEnv) (sub : UserSubscription) (total used : Int) (uuid : String) : SubscriptionTx Unit := do
  Tx.reject (total < 0 ∨ used < 0 ∨ (0 < total ∧ total < used)) (.message "invalid subscription quota")
  Tx.reject (sub.CreditPack ∧ total ≠ sub.amountTotal) (.message "permanent credit pack purchased quota cannot be changed")
  Tx.reject (¬ (total = 0 ↔ sub.amountTotal = 0))
    (.message "switching between limited and unlimited subscription quota is unsupported")
  if total = 0 then
    return ()
  else if ← onLedger (metadataOnly sub total used) then
    return ()
  else
    moveAdminBalance env sub total used uuid

def adminResetColumns (env : SubscriptionEnv) (plan : SubscriptionPlan) (sub : UserSubscription) : UserSubscription :=
  if plan.quotaResetPeriod = .never then { sub with lastResetTime := 0, nextResetTime := 0 }
  else if sub.lastResetTime < sub.startTime then
    { sub with lastResetTime := sub.startTime, nextResetTime := calcNextSubscriptionResetTime env.calendar sub.startTime plan sub.endTime }
  else sub

def adminStatus (sub : UserSubscription) (status : Option SubscriptionStatus) (now : Int) : SubscriptionStatus :=
  let chosen := status.getD sub.status
  if chosen = .active ∧ 0 < sub.endTime ∧ sub.endTime ≤ now then .expired else chosen

def AdminUpdate.apply (env : SubscriptionEnv) (input : AdminUpdate) (plan : SubscriptionPlan) (sub : UserSubscription) (now : Int) : UserSubscription :=
  let edited := adminResetColumns env plan { sub with
    startTime := input.startTime, endTime := input.endTime, amountTotal := input.amountTotal, amountUsed := input.amountUsed,
    periodAmount := input.periodAmount, periodUsed := input.periodUsed, modelLimits := input.modelLimits }
  { edited with status := adminStatus edited input.status now }

def updateAdminUserSubscriptionRuntime (env : SubscriptionEnv) (subscriptionID : Int) (input : AdminUpdate) (uuid : String) (now : Int) :
    SubscriptionTx Unit := do
  Tx.reject (subscriptionID ≤ 0) (.message "invalid userSubscriptionId")
  let sub ← lockUserSubscriptionRecordTx subscriptionID
  let plan ← getSubscriptionPlanRecordTx sub.planID
  adjustAdminSubscriptionQuotaTx env sub input.amountTotal input.amountUsed uuid
  let reset ← maybeResetUserSubscriptionWithPlanTx env (input.apply env plan sub now) plan now
  saveSubscription reset

def recoverySettleKey (reservationID : String) : String := "stale-recovery:" ++ reservationID ++ ":settle"

-- What was used beyond the holds is taken as far as the balance reaches. The sum of the
-- holds and the capacity are int64; the answer is the capped count and the settled amount.
def settleRecoveredReservations (env : LedgerEnv) (accountID : String) (reservations : List BillingReservation) (actual : Int) (evidenceID : String) :
    LedgerTx (Int × Int) := do
  let snapshot ← lockBalanceSnapshot accountID
  let reserved := (reservations.map BillingReservation.reservedAmount).foldl (fun total amount => wrap (total + amount)) 0
  let claimed := if actual < 0 then 0 else actual
  let capacity := wrap (reserved + snapshot.availableBalance)
  let settled := if capacity < claimed then capacity else claimed
  let capped := if capacity < claimed then 1 else 0
  settleEach env evidenceID recoverySettleKey settled reservations
  return (capped, settled)

end CodeGo.Subscription
