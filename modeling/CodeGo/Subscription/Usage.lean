import CodeGo.Subscription.Schema

set_option autoImplicit false

namespace CodeGo.Subscription

open Relational Text Billing

def modelQuota (quota : ModelQuota) (model : String) : Option Int := quota.lookup model

-- Writing the map back drops a model without usage.
def setModelQuota (quota : ModelQuota) (model : String) (value : Int) : ModelQuota :=
  let others := quota.filter fun entry => entry.1 ≠ model
  if 0 < value then (model, value) :: others else others

def UserSubscription.CreditPack (sub : UserSubscription) : Prop := 0 < sub.creditPackGrantedQuota

instance (sub : UserSubscription) : Decidable sub.CreditPack := inferInstanceAs (Decidable (_ < _))

def UsesLegacySubscriptionPeriodicQuota (plan : SubscriptionPlan) (sub : UserSubscription) : Prop :=
  ¬ sub.CreditPack ∧ plan.quotaResetPeriod ≠ .never ∧ sub.periodAmount ≤ 0 ∧ 0 < sub.amountTotal

instance (plan : SubscriptionPlan) (sub : UserSubscription) : Decidable (UsesLegacySubscriptionPeriodicQuota plan sub) :=
  inferInstanceAs (Decidable (_ ∧ _))

def getSubscriptionPeriodAmount (plan : SubscriptionPlan) (sub : UserSubscription) : Int :=
  if sub.CreditPack then 0
  else if 0 < sub.periodAmount then sub.periodAmount
  else if UsesLegacySubscriptionPeriodicQuota plan sub then sub.amountTotal
  else if 0 < plan.periodAmount then plan.periodAmount
  else 0

def applyTotalUsage (sub : UserSubscription) (delta : Int) : Except SubscriptionError UserSubscription :=
  let amountUsed := max (sub.amountUsed + delta) 0
  if 0 < sub.amountTotal ∧ sub.amountTotal < amountUsed then
    .error (.message ("subscription used exceeds total, used=" ++ toString amountUsed ++ " total=" ++ toString sub.amountTotal))
  else .ok { sub with amountUsed }

def applyPeriodUsage (plan : SubscriptionPlan) (sub : UserSubscription) (delta : Int) : Except SubscriptionError UserSubscription :=
  let periodAmount := getSubscriptionPeriodAmount plan sub
  if UsesLegacySubscriptionPeriodicQuota plan sub ∨ periodAmount ≤ 0 then .ok sub
  else
    let periodUsed := max (sub.periodUsed + delta) 0
    if periodAmount < periodUsed then
      .error (.message ("subscription period quota exceeded, used=" ++ toString periodUsed ++ " period=" ++ toString periodAmount))
    else .ok { sub with periodUsed }

def applyModelUsage (sub : UserSubscription) (modelName : String) (delta : Int) : Except SubscriptionError UserSubscription :=
  let model := trimSpace modelName
  let limit := (modelQuota sub.modelLimits model).getD 0
  if model = "" ∨ limit ≤ 0 then .ok sub
  else
    let usage := max ((modelQuota sub.modelUsage model).getD 0 + delta) 0
    if limit < usage then
      .error (.message ("subscription model quota exceeded, model=" ++ model ++ " used=" ++ toString usage ++ " limit=" ++ toString limit))
    else .ok { sub with modelUsage := setModelQuota sub.modelUsage model usage }

def applySubscriptionUsageDelta (plan : SubscriptionPlan) (sub : UserSubscription) (modelName : String) (delta : Int) :
    Except SubscriptionError UserSubscription :=
  if delta = 0 then .ok sub
  else do
    let total ← applyTotalUsage sub delta
    let period ← applyPeriodUsage plan total delta
    applyModelUsage period modelName delta

-- A permanent pack is read under its own purchase snapshot and not under the plan of today.
def creditPackSnapshotPlan (plan : SubscriptionPlan) (sub : UserSubscription) : SubscriptionPlan :=
  if sub.CreditPack then
    { plan with
      creditPack := true, durationUnit := .permanent, durationValue := 1, quotaResetPeriod := .never, quotaResetCustomSeconds := 0,
      totalAmount := sub.creditPackGrantedQuota, periodAmount := 0 }
  else plan

-- Exact while a custom period's nanoseconds fit 64 bits. The clock of the resets takes longer ones.
def SubscriptionPlan.nextReset (calendar : Calendar) (plan : SubscriptionPlan) (base : Int) : Int :=
  match plan.quotaResetPeriod with
  | .never => 0
  | .daily => calendar.nextDay base
  | .weekly => calendar.nextWeek base
  | .monthly => calendar.nextMonth base
  | .custom => if plan.quotaResetCustomSeconds ≤ 0 then 0 else base + plan.quotaResetCustomSeconds

def calcNextSubscriptionResetTime (calendar : Calendar) (base : Int) (plan : SubscriptionPlan) (endUnix : Int) : Int :=
  if 0 < endUnix ∧ endUnix < plan.nextReset calendar base then 0 else plan.nextReset calendar base

theorem next_reset_later (calendar : Calendar) (base : Int) (plan : SubscriptionPlan) (endUnix : Int) :
    calcNextSubscriptionResetTime calendar base plan endUnix = 0 ∨ base < calcNextSubscriptionResetTime calendar base plan endUnix := by
  obtain ⟨day, week, month⟩ := calendar.later base
  unfold calcNextSubscriptionResetTime
  split
  · exact .inl rfl
  · unfold SubscriptionPlan.nextReset
    split
    · exact .inl rfl
    · exact .inr day
    · exact .inr week
    · exact .inr month
    · split
      · exact .inl rfl
      · rename_i positive
        exact .inr (by omega)

-- The last reset time that has passed, and the one after it.
def advanceReset (calendar : Calendar) (plan : SubscriptionPlan) (endUnix now base next : Int) : Int × Int :=
  if 0 < next ∧ next ≤ now then advanceReset calendar plan endUnix now next (calcNextSubscriptionResetTime calendar next plan endUnix)
  else (base, next)
termination_by if 0 < next then (now + 1 - next).toNat else 0
decreasing_by
  rename_i due
  rcases next_reset_later calendar next plan endUnix with none | later
  · simp only [none, lt_self_iff_false, if_false]
    rw [if_pos due.1]
    omega
  · rw [if_pos due.1, if_pos (by omega)]
    omega

def resetBase (sub : UserSubscription) : Int :=
  if sub.lastResetTime ≤ 0 ∨ (0 < sub.startTime ∧ sub.lastResetTime < sub.startTime) then sub.startTime else sub.lastResetTime

-- The reset a subscription owes, if it owes one: when it fell due and when the next one will.
def dueReset (calendar : Calendar) (plan : SubscriptionPlan) (sub : UserSubscription) (now : Int) : Option (Int × Int) :=
  let next := calcNextSubscriptionResetTime calendar (resetBase sub) plan sub.endTime
  if sub.CreditPack ∨ plan.quotaResetPeriod = .never ∨ next ≤ 0 ∨ now < next then none
  else some (advanceReset calendar plan sub.endTime now (resetBase sub) next)

def subscriptionAccountParams (subscriptionID : Int) : EnsureAccountParams :=
  { accountType := "subscription", ownerType := "user_subscription", ownerID := subscriptionID, quotaUnit := "quota" }

-- The account a subscription is funded from.
def FundedBy (account : BillingAccount) (subscriptionID : Int) : Prop :=
  account.accountType = "subscription" ∧ account.ownerType = "user_subscription" ∧ account.ownerID = subscriptionID ∧ account.quotaUnit = "quota"

instance (account : BillingAccount) (subscriptionID : Int) : Decidable (FundedBy account subscriptionID) := inferInstanceAs (Decidable (_ ∧ _))

def findSubscriptionAccount (subscriptionID : Int) : LedgerTx (Option BillingAccount) :=
  Tx.view fun ledger => ledger.accounts.find? fun row => FundedBy row subscriptionID

def lockBalanceSnapshot (accountID : String) : LedgerTx BillingBalanceSnapshot := do
  match ← findSnapshot accountID with
  | some snapshot => return snapshot
  | none => Tx.fail .recordNotFound

def subscriptionLedgerHasEntriesTx (accountID : String) : LedgerTx Bool :=
  Tx.view fun ledger => !Blank accountID && (ledger.entries.find? fun entry => entry.accountID = accountID).isSome

def restoreSubscriptionLedgerBalanceAfterResetTx (env : SubscriptionEnv) (sub : UserSubscription) (operationKey : String) : LedgerTx Unit := do
  if sub.id ≤ 0 ∨ sub.amountTotal ≤ 0 then
    return ()
  else
    let account ← ensureBillingAccountTx env.toLedgerEnv (subscriptionAccountParams sub.id)
    let snapshot ← lockBalanceSnapshot account.accountID
    let targetAvailable := sub.amountTotal - sub.amountUsed - snapshot.reservedBalance
    if targetAvailable ≤ snapshot.availableBalance then
      return ()
    else
      let _ ← creditAccountTx env.toLedgerEnv
        { accountID := account.accountID, amount := targetAvailable - snapshot.availableBalance,
          idempotencyKey := "subscription-reset-balance:" ++ toString sub.id ++ ":" ++ operationKey, reasonCode := "subscription_quota_reset",
          reasonDetail := "subscription quota reset restored available balance", referenceType := "user_subscription",
          referenceID := toString sub.id, operatorType := "subscription_reset", operatorID := operationKey }

def periodicResetKey (subscriptionID base : Int) : String := "periodic:" ++ toString subscriptionID ++ ":" ++ toString base

-- A subscription whose period is its whole quota gives everything back; the others only
-- empty their period.
def clearPeriod (env : SubscriptionEnv) (sub : UserSubscription) (plan : SubscriptionPlan) (base : Int) : SubscriptionTx UserSubscription := do
  if UsesLegacySubscriptionPeriodicQuota plan sub then
    let cleared := { sub with amountUsed := 0 }
    onLedger (restoreSubscriptionLedgerBalanceAfterResetTx env cleared (periodicResetKey sub.id base))
    return cleared
  else
    return { sub with periodUsed := 0 }

-- Answers the subscription as the rest of the transaction sees it.
def maybeResetUserSubscriptionWithPlanTx (env : SubscriptionEnv) (sub : UserSubscription) (plan : SubscriptionPlan) (now : Int) :
    SubscriptionTx UserSubscription := do
  let base := resetBase sub
  let next := calcNextSubscriptionResetTime env.calendar base plan sub.endTime
  match dueReset env.calendar plan sub now with
  | some (passed, following) =>
      let cleared ← clearPeriod env sub plan passed
      let reset := { cleared with modelUsage := [], lastResetTime := passed, nextResetTime := following }
      saveSubscription reset
      return reset
  | none =>
      if ¬ sub.CreditPack ∧ plan.quotaResetPeriod ≠ .never ∧ (next = 0 ∨ now < next) ∧ (sub.lastResetTime ≠ base ∨ sub.nextResetTime ≠ next) then
        let noted := { sub with lastResetTime := base, nextResetTime := next }
        saveSubscription noted
        return noted
      else
        return sub

end CodeGo.Subscription
