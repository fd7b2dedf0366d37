import CodeGo.Ledger.Credits
import CodeGo.Subscription.ResetClock

set_option autoImplicit false

namespace CodeGo.Subscription.Renewal

open Relational Text Billing Machine

/- A purchase of the plan a subscription is on, or of a larger one, begins a new cycle of it:
   the row is written anew and the account is topped up to the quota of the cycle. -/

structure TargetPlan extends SubscriptionPlan where
  customSeconds : Int := 0
  modelLimits : ModelQuota := []
deriving DecidableEq, Repr

structure RenewalEnv extends SubscriptionEnv where
  -- The same clock time years and months on, in the zone of the process.
  addDate : Int → Int → Int → Int

def calcSubscriptionPlanEndTime (env : RenewalEnv) (start : Int) (plan : TargetPlan) : Except SubscriptionError Int :=
  if plan.durationValue ≤ 0 ∧ plan.durationUnit ≠ .custom then .error (.message "duration_value must be > 0")
  else
    match plan.durationUnit with
    | .year => .ok (env.addDate start plan.durationValue 0)
    | .month => .ok (env.addDate start 0 plan.durationValue)
    | .day => .ok (start + Clock.customStride (plan.durationValue * 24 * 3600))
    | .hour => .ok (start + Clock.customStride (plan.durationValue * 3600))
    | .custom =>
        if plan.customSeconds ≤ 0 then .error (.message "custom_seconds must be > 0")
        else .ok (start + Clock.customStride plan.customSeconds)
    | .permanent => .error (.message "invalid duration_unit: permanent")

def cycleCreditKey (cycle : String) (subscriptionID startTime amountTotal amountUsed : Int) : String :=
  "subscription-cycle:" ++ cycle ++ ":" ++ toString subscriptionID ++ ":" ++ toString startTime ++ ":" ++ toString amountTotal ++ ":" ++
    toString amountUsed

def replenishSubscriptionLedgerForCycleTx (env : LedgerEnv) (sub : UserSubscription) (cycle : String) : LedgerTx Unit := do
  Tx.reject (sub.id ≤ 0) (.message "invalid subscription ledger reconciliation args")
  let targetAvailable := sub.amountTotal - sub.amountUsed
  if targetAvailable ≤ 0 then
    return ()
  else
    let account ← ensureBillingAccountTx env (subscriptionAccountParams sub.id)
    let snapshot ← lockBalanceSnapshot account.accountID
    if targetAvailable ≤ snapshot.availableBalance then
      return ()
    else
      let _ ← creditAccountTx env
        { accountID := account.accountID, amount := targetAvailable - snapshot.availableBalance,
          idempotencyKey := cycleCreditKey cycle sub.id sub.startTime sub.amountTotal sub.amountUsed,
          reasonCode := "subscription_cycle_" ++ cycle, referenceType := "user_subscription", referenceID := toString sub.id,
          operatorType := "commerce", operatorID := cycle }

-- The group of the user is a column of the user and not of this store.
def lockPurchased (subscriptionID userID : Int) (refusal : String) : SubscriptionTx UserSubscription := do
  match ← Tx.view fun store => store.subscriptions.find? fun row => row.id = subscriptionID ∧ row.userID = userID with
  | none => Tx.fail .recordNotFound
  | some current =>
      Tx.reject (current.status = .refundPending ∨ current.status = .settledCancelled) (.message refusal)
      return current

def cycleTimes (env : RenewalEnv) (plan : TargetPlan) (now : Int) (sub : UserSubscription) : SubscriptionTx UserSubscription :=
  if plan.quotaResetPeriod = .never then return { sub with lastResetTime := 0, nextResetTime := 0 }
  else
    maybeResetUserSubscriptionWithPlanTx env.toSubscriptionEnv
      { sub with
        lastResetTime := now, nextResetTime := calcNextSubscriptionResetTime env.calendar now plan.toSubscriptionPlan sub.endTime }
      plan.toSubscriptionPlan now

def beginCycle (env : RenewalEnv) (plan : TargetPlan) (cycle : String) (now : Int) (sub : UserSubscription) : SubscriptionTx UserSubscription := do
  let timed ← cycleTimes env plan now sub
  saveSubscription timed
  onLedger (replenishSubscriptionLedgerForCycleTx env.toLedgerEnv timed cycle)
  return timed

def renewUserSubscriptionWithPlanTx (env : RenewalEnv) (subscriptionID userID : Int) (plan : TargetPlan) (now : Int) :
    SubscriptionTx UserSubscription := do
  let current ← lockPurchased subscriptionID userID "套餐退款处理中或已结算取消，无法续费"
  let endTime ← Tx.lift (calcSubscriptionPlanEndTime env now plan)
  beginCycle env plan "renewal" now { current with
    startTime := now, endTime, status := .active, amountTotal := plan.totalAmount, amountUsed := 0, periodAmount := plan.periodAmount,
    periodUsed := 0, modelLimits := plan.modelLimits, modelUsage := [] }

def remainingQuota (current : UserSubscription) (preserveRemainingQuota : Bool) : Int :=
  if preserveRemainingQuota then max (wrap (current.amountTotal - current.amountUsed)) 0 else 0

def upgradeUserSubscriptionWithPlanTx (env : RenewalEnv) (subscriptionID userID : Int) (plan : TargetPlan) (now : Int)
    (preserveRemainingQuota : Bool) : SubscriptionTx UserSubscription := do
  let current ← lockPurchased subscriptionID userID "套餐退款处理中或已结算取消，无法升级"
  let endTime ← Tx.lift (calcSubscriptionPlanEndTime env now plan)
  beginCycle env plan "upgrade" now { current with
    planID := plan.id, status := .active, modelLimits := plan.modelLimits, startTime := now, endTime,
    amountTotal := wrap (plan.totalAmount + remainingQuota current preserveRemainingQuota), amountUsed := 0,
    periodAmount := plan.periodAmount, periodUsed := 0 }

inductive Purchase where
  | renew
  | upgrade (preserveRemainingQuota : Bool)
deriving DecidableEq, Repr

def Purchase.applyTx (env : RenewalEnv) (subscriptionID userID : Int) (plan : TargetPlan) (now : Int) : Purchase → SubscriptionTx UserSubscription
  | .renew => renewUserSubscriptionWithPlanTx env subscriptionID userID plan now
  | .upgrade preserve => upgradeUserSubscriptionWithPlanTx env subscriptionID userID plan now preserve

def Purchase.cycle : Purchase → String
  | .renew => "renewal"
  | .upgrade _ => "upgrade"

def Purchase.total (plan : TargetPlan) (current : UserSubscription) : Purchase → Int
  | .renew => plan.totalAmount
  | .upgrade preserve => wrap (plan.totalAmount + remainingQuota current preserve)

-- An upgrade writes over every column of the usage but this one.
def Purchase.usage (current : UserSubscription) : Purchase → ModelQuota
  | .renew => []
  | .upgrade _ => current.modelUsage

-- The account a subscription has or is going to have.
def fundingAccountID (env : LedgerEnv) (ledger : Ledger) (subscriptionID : Int) : String :=
  match ledger.accounts.find? fun row => FundedBy row subscriptionID with
  | some account => account.accountID
  | none => env.uuid ledger.drawn

theorem ensured_id {env : LedgerEnv} {params : EnsureAccountParams} {ledger after : Ledger} {account : BillingAccount}
    (ran : ensureBillingAccountTx env params ledger = (.ok account, after)) :
    (∃ existing, (ledger.accounts.find? fun row => row.ownerType = trimSpace params.ownerType ∧ row.ownerID = params.ownerID ∧
        row.accountType = trimSpace params.accountType ∧
          row.quotaUnit = if Blank params.quotaUnit then "quota" else trimSpace params.quotaUnit) = some existing ∧
      account.accountID = existing.accountID) ∨
    ((ledger.accounts.find? fun row => row.ownerType = trimSpace params.ownerType ∧ row.ownerID = params.ownerID ∧
        row.accountType = trimSpace params.accountType ∧
          row.quotaUnit = if Blank params.quotaUnit then "quota" else trimSpace params.quotaUnit) = none ∧
      account.accountID = env.uuid ledger.drawn) := by
  simp only [ensureBillingAccountTx, Tx.ran_bind, Tx.ran_reject, Tx.ran_view] at ran
  obtain ⟨_, _, ⟨_, rfl⟩, _, _, ⟨_, rfl⟩, found, _, ⟨looked, rfl⟩, ran⟩ := ran
  cases found with
  | some existing =>
      simp only [Tx.ran_bind, Tx.ran_pure] at ran
      obtain ⟨_, _, _, rfl, _⟩ := ran
      exact .inl ⟨_, looked, rfl⟩
  | none =>
      simp only [createAccount, Tx.ran_bind, Tx.ran_pure] at ran
      obtain ⟨_, _, ⟨_, _, filled, inserted⟩, _, _, _, rfl, _⟩ := ran
      rw [fill_value, Prod.mk.injEq, Except.ok.injEq] at filled
      obtain ⟨rfl, rfl⟩ := filled
      obtain ⟨rfl, _⟩ := ran_insert_row _ _ _ _ _ _ inserted
      exact .inr ⟨looked, rfl⟩

theorem ensured_funding {env : LedgerEnv} {subscriptionID : Int} {ledger after : Ledger} {account : BillingAccount}
    (ran : ensureBillingAccountTx env (subscriptionAccountParams subscriptionID) ledger = (.ok account, after)) :
    account.accountID = fundingAccountID env ledger subscriptionID := by
  have sameRows : ∀ row : BillingAccount, FundedBy row subscriptionID ↔ row.ownerType = trimSpace "user_subscription" ∧
      row.ownerID = subscriptionID ∧ row.accountType = trimSpace "subscription" ∧
      row.quotaUnit = if Blank "quota" then "quota" else trimSpace "quota" := by
    intro row
    rw [owner_type_trimmed, account_type_trimmed, quota_trimmed, FundedBy]
    tauto
  rw [fundingAccountID]
  obtain ⟨existing, looked, names⟩ | ⟨looked, names⟩ := ensured_id ran
  · have found : (ledger.accounts.find? fun row => FundedBy row subscriptionID) = some existing := by
      rw [← looked]
      congr 1
      funext row
      rw [decide_eq_decide]
      exact sameRows row
    rw [found, names]
  · have missing : (ledger.accounts.find? fun row => FundedBy row subscriptionID) = none := by
      rw [← looked]
      congr 1
      funext row
      rw [decide_eq_decide]
      exact sameRows row
    rw [missing, names]

-- The top-up meets an account below the quota of the cycle, and its key has not been used.
def TopsUp (ledger : Ledger) (accountID cycle : String) (sub : UserSubscription) : Prop :=
  (ledger.balance accountID).availableBalance < sub.amountTotal - sub.amountUsed ∧
    ∀ entry ∈ ledger.entries.rows, entry.idempotencyKey ≠ cycleCreditKey cycle sub.id sub.startTime sub.amountTotal sub.amountUsed

instance (ledger : Ledger) (accountID cycle : String) (sub : UserSubscription) : Decidable (TopsUp ledger accountID cycle sub) :=
  inferInstanceAs (Decidable (_ ∧ _))

structure Replenished (ledger after : Ledger) (accountID cycle : String) (sub : UserSubscription) : Prop where
  account : ∃ account ∈ after.accounts.rows, FundedBy account sub.id ∧ account.accountID = accountID
  carried : Carried ledger after
  reserved : (after.balance accountID).reservedBalance = (ledger.balance accountID).reservedBalance
  available : (after.balance accountID).availableBalance =
    if TopsUp ledger accountID cycle sub then sub.amountTotal - sub.amountUsed else (ledger.balance accountID).availableBalance

-- What is held on the account counts for nothing, whether it is topped up or not.
theorem replenished_of_replenish {env : LedgerEnv} {sub : UserSubscription} {cycle : String} {ledger after : Ledger}
    (owed : 0 < sub.amountTotal - sub.amountUsed) (ran : replenishSubscriptionLedgerForCycleTx env sub cycle ledger = (.ok (), after)) :
    Replenished ledger after (fundingAccountID env ledger sub.id) cycle sub := by
  simp only [replenishSubscriptionLedgerForCycleTx, if_neg (not_le.mpr owed), Tx.ran_bind, Tx.ran_reject] at ran
  obtain ⟨_, _, ⟨_, rfl⟩, account, opened, ensured, snapshot, _, locked, ran⟩ := ran
  obtain ⟨carried, balances, entries, reservations, member, funds⟩ := account_of_ensure env _ _ _ _ ensured
  obtain ⟨rfl, rfl⟩ := ran_lock_balance _ _ _ _ locked
  rw [← ensured_funding ensured]
  simp only [balances] at ran
  split at ran
  · rename_i level
    simp only [Tx.ran_pure] at ran
    obtain ⟨_, rfl⟩ := ran
    have enough : ¬ TopsUp ledger account.accountID cycle sub := fun tops => by
      have short := tops.1
      omega
    exact ⟨⟨account, member, funds, rfl⟩, carried, by rw [balances], by rw [if_neg enough, balances]⟩
  · rename_i short
    simp only [Tx.ran_bind, Tx.ran_pure] at ran
    obtain ⟨entry, _, granted, _, rfl⟩ := ran
    obtain ⟨later, _⟩ := carried_of_credit env _ _ _ _ granted
    obtain ⟨rfl, entryIn, key, _⟩ | credited := credited_of_credit env _ _ _ _ granted
    · have used : ¬ TopsUp ledger account.accountID cycle sub := fun tops => tops.2 entry (entries ▸ entryIn) key
      exact ⟨⟨account, member, funds, rfl⟩, carried, by rw [balances], by rw [if_neg used, balances]⟩
    · have tops : TopsUp ledger account.accountID cycle sub := ⟨not_le.mp short, fun row rowIn => credited.unknown row (entries ▸ rowIn)⟩
      have shifted := shifted_of_posted credited.posted account.accountID (by simp [creditFunds])
      refine ⟨⟨account, later.accounts account member, funds, rfl⟩, carried.trans later, ?_, ?_⟩
      · rw [shifted.held, balances]
        simp [creditFunds]
      · rw [if_pos tops, shifted.available]
        simp only [creditFunds, balances]
        omega

-- A cycle that begins now owes no reset yet.
theorem cycle_owes_nothing (env : SubscriptionEnv) (sub : UserSubscription) (plan : SubscriptionPlan) (now : Int) (store : SubscriptionStore)
    (started : sub.startTime = now) (last : sub.lastResetTime = now)
    (next : sub.nextResetTime = calcNextSubscriptionResetTime env.calendar now plan sub.endTime) :
    maybeResetUserSubscriptionWithPlanTx env sub plan now store = (.ok sub, store) := by
  have base : resetBase sub = now := by
    rw [resetBase, started, last]
    split <;> rfl
  have owes : dueReset env.calendar plan sub now = none := by
    obtain none | later := next_reset_later env.calendar now plan sub.endTime
    · rw [dueReset, base, none]
      simp
    · rw [dueReset, base]
      simp [later]
  have noted : ¬ (sub.lastResetTime ≠ now ∨ sub.nextResetTime ≠ calcNextSubscriptionResetTime env.calendar now plan sub.endTime) := by
    simp [last, next]
  rw [maybeResetUserSubscriptionWithPlanTx, owes, base]
  simp only [noted, and_false, if_false]
  rfl

-- The row of the cycle, as far as its top-up reads it.
def Purchase.opened (plan : TargetPlan) (now : Int) (current : UserSubscription) (purchase : Purchase) : UserSubscription :=
  { current with startTime := now, amountTotal := purchase.total plan current, amountUsed := 0 }

structure Begun (env : RenewalEnv) (plan : TargetPlan) (now : Int) (current : UserSubscription) (purchase : Purchase)
    (store : SubscriptionStore) (result : UserSubscription) (after : SubscriptionStore) : Prop where
  id : result.id = current.id
  started : result.startTime = now
  total : result.amountTotal = purchase.total plan current
  used : result.amountUsed = 0
  period : result.periodUsed = 0
  models : result.modelUsage = purchase.usage current
  written : ∃ ledger, after = { saved store result with ledger } ∧
    replenishSubscriptionLedgerForCycleTx env.toLedgerEnv result purchase.cycle store.ledger = (.ok (), ledger)

section Purchases

variable {env : RenewalEnv} {plan : TargetPlan} {now : Int} {store after : SubscriptionStore} {result : UserSubscription}

theorem cycle_begun {cycle : String} {sub : UserSubscription} (started : sub.startTime = now)
    (ran : beginCycle env plan cycle now sub store = (.ok result, after)) :
    (∃ last next, result = { sub with lastResetTime := last, nextResetTime := next }) ∧
      ∃ ledger, after = { saved store result with ledger } ∧
        replenishSubscriptionLedgerForCycleTx env.toLedgerEnv result cycle store.ledger = (.ok (), ledger) := by
  simp only [beginCycle, Tx.ran_bind, ran_save_subscription, ran_on_ledger, Tx.ran_pure] at ran
  obtain ⟨timed, _, times, _, _, rfl, _, _, ⟨ledger, replenished, rfl⟩, rfl, rfl⟩ := ran
  rw [cycleTimes] at times
  split at times
  · simp only [Tx.ran_pure] at times
    obtain ⟨rfl, rfl⟩ := times
    exact ⟨⟨_, _, rfl⟩, ledger, rfl, replenished⟩
  · have unowed := cycle_owes_nothing env.toSubscriptionEnv
      { sub with
        lastResetTime := now, nextResetTime := calcNextSubscriptionResetTime env.calendar now plan.toSubscriptionPlan sub.endTime }
      plan.toSubscriptionPlan now store started rfl rfl
    rw [unowed, Prod.mk.injEq, Except.ok.injEq] at times
    obtain ⟨rfl, rfl⟩ := times
    exact ⟨⟨_, _, rfl⟩, ledger, rfl, replenished⟩

theorem purchased_row {subscriptionID userID : Int} {refusal : String} {current : UserSubscription}
    (ran : lockPurchased subscriptionID userID refusal store = (.ok current, after)) :
    store = after ∧ store.subscription subscriptionID = some current ∧ current.id = subscriptionID := by
  simp only [lockPurchased, Tx.ran_bind, Tx.ran_view] at ran
  obtain ⟨_, _, ⟨rfl, rfl⟩, ran⟩ := ran
  cases looked : store.subscriptions.find? fun row => row.id = subscriptionID ∧ row.userID = userID with
  | none => simp only [looked, Tx.ran_fail] at ran
  | some found =>
      simp only [looked, Tx.ran_bind, Tx.ran_reject, Tx.ran_pure] at ran
      obtain ⟨_, _, ⟨_, rfl⟩, rfl, rfl⟩ := ran
      obtain ⟨member, matched⟩ := Table.mem_of_find? _ _ _ looked
      have named : found.id = subscriptionID := (of_decide_eq_true matched).1
      refine ⟨rfl, ?_, named⟩
      apply Table.find?_of_mem _ _ found member (decide_eq_true named)
      intro other same
      exact named.trans (of_decide_eq_true same).symm

theorem begun_of_purchase {purchase : Purchase} {subscriptionID userID : Int} {current : UserSubscription}
    (row : store.subscription subscriptionID = some current)
    (ran : purchase.applyTx env subscriptionID userID plan now store = (.ok result, after)) :
    current.id = subscriptionID ∧ Begun env plan now current purchase store result after := by
  cases purchase with
  | renew =>
      simp only [Purchase.applyTx, renewUserSubscriptionWithPlanTx, Tx.ran_bind, Tx.ran_lift] at ran
      obtain ⟨found, _, locked, endTime, _, ⟨_, rfl⟩, ran⟩ := ran
      obtain ⟨rfl, same, id⟩ := purchased_row locked
      obtain rfl : found = current := Option.some.inj (same.symm.trans row)
      obtain ⟨⟨last, next, rfl⟩, written⟩ := cycle_begun rfl ran
      exact ⟨id, rfl, rfl, rfl, rfl, rfl, rfl, written⟩
  | upgrade preserve =>
      simp only [Purchase.applyTx, upgradeUserSubscriptionWithPlanTx, Tx.ran_bind, Tx.ran_lift] at ran
      obtain ⟨found, _, locked, endTime, _, ⟨_, rfl⟩, ran⟩ := ran
      obtain ⟨rfl, same, id⟩ := purchased_row locked
      obtain rfl : found = current := Option.some.inj (same.symm.trans row)
      obtain ⟨⟨last, next, rfl⟩, written⟩ := cycle_begun rfl ran
      exact ⟨id, rfl, rfl, rfl, rfl, rfl, rfl, written⟩

end Purchases

theorem holds_nonneg {ledger : Ledger} (solvent : Solvent ledger) (accountID : String) : 0 ≤ (ledger.balance accountID).reservedBalance := by
  rw [solvent.reserved, openHolds, Table.total]
  apply List.sum_nonneg
  intro amount member
  obtain ⟨row, rowIn, rfl⟩ := List.mem_map.mp member
  have positive := solvent.positive row rowIn
  split <;> omega

-- Holds that are settled or released later come out of what is available and held now.
theorem consumed_within (env : LedgerEnv) {ledger : Ledger} (sound : Sound ledger) (accountID : String) (ops : List LedgerOp) :
    let later := (run (step env) ledger ops).balance accountID
    let now := ledger.balance accountID
    later.consumedTotal - now.consumedTotal ≤
      now.availableBalance + now.reservedBalance + (later.grantedTotal - now.grantedTotal) + directReturns env accountID ledger ops := by
  have moved := surplus_run env ledger ops accountID
  have kept : Sound (run (step env) ledger ops) :=
    run_keeps (step env) Sound (fun _ => True) (fun ledger op _ kept => kept.effect (step_effect env ledger op)) ledger sound ops fun _ _ => trivial
  have available := kept.solvent.available accountID
  have held := holds_nonneg kept.solvent accountID
  simp only [surplus, balanceSurplus] at moved
  omega

structure FreshCycle (env : LedgerEnv) (store : SubscriptionStore) (sub : UserSubscription) : Prop where
  stored : store.subscription sub.id = some sub
  used : sub.amountUsed = 0
  period : sub.periodUsed = 0
  models : sub.modelUsage = []
  funded : ∃ account ∈ store.ledger.accounts.rows, FundedBy account sub.id ∧
    (store.ledger.balance account.accountID).availableBalance + (store.ledger.balance account.accountID).reservedBalance = sub.amountTotal ∧
    ∀ ops, ((run (step env) store.ledger ops).balance account.accountID).consumedTotal -
        (store.ledger.balance account.accountID).consumedTotal ≤
      sub.amountTotal + (((run (step env) store.ledger ops).balance account.accountID).grantedTotal -
        (store.ledger.balance account.accountID).grantedTotal) + directReturns env account.accountID store.ledger ops

-- A top-up takes no account of what is held, so nothing may be held; where none is made
-- the account has to stand at the quota of the cycle by itself.
def CycleLevel (env : LedgerEnv) (ledger : Ledger) (plan : TargetPlan) (now : Int) (current : UserSubscription) (purchase : Purchase) : Prop :=
  let accountID := fundingAccountID env ledger current.id
  if TopsUp ledger accountID purchase.cycle (purchase.opened plan now current) then (ledger.balance accountID).reservedBalance = 0
  else (ledger.balance accountID).availableBalance + (ledger.balance accountID).reservedBalance = purchase.total plan current

instance (env : LedgerEnv) (ledger : Ledger) (plan : TargetPlan) (now : Int) (current : UserSubscription) (purchase : Purchase) :
    Decidable (CycleLevel env ledger plan now current purchase) := by
  unfold CycleLevel
  infer_instance

theorem purchase_total_nonzero (purchase : Purchase) {plan : TargetPlan} (current : UserSubscription) (positive : 0 < plan.totalAmount)
    (fits : InInt64 plan.totalAmount) : purchase.total plan current ≠ 0 := by
  obtain ⟨_, upper⟩ := fits
  cases purchase with
  | renew =>
      rw [Purchase.total]
      omega
  | upgrade preserve =>
      obtain ⟨_, remaining⟩ := wrap_in (current.amountTotal - current.amountUsed)
      have low : 0 ≤ remainingQuota current preserve := by
        rw [remainingQuota]
        split <;> omega
      have high : remainingQuota current preserve < 2 ^ 63 := by
        rw [remainingQuota]
        split <;> omega
      rw [Purchase.total, wrap]
      omega

section Fresh

variable {env : RenewalEnv} {plan : TargetPlan} {now : Int} {store after : SubscriptionStore} {result : UserSubscription}
  {purchase : Purchase} {subscriptionID userID : Int} {current : UserSubscription}

theorem tops_up_begun (begun : Begun env plan now current purchase store result after) (accountID : String) :
    TopsUp store.ledger accountID purchase.cycle result ↔ TopsUp store.ledger accountID purchase.cycle (purchase.opened plan now current) := by
  simp only [TopsUp, Purchase.opened, begun.id, begun.started, begun.total, begun.used]

-- The level of the account after the purchase, when the quota of the cycle is positive.
theorem level_begun (begun : Begun env plan now current purchase store result after) (positive : 0 < purchase.total plan current) :
    ∃ account ∈ after.ledger.accounts.rows, FundedBy account result.id ∧ Carried store.ledger after.ledger ∧
      ((after.ledger.balance account.accountID).availableBalance + (after.ledger.balance account.accountID).reservedBalance =
        result.amountTotal ↔ CycleLevel env.toLedgerEnv store.ledger plan now current purchase) := by
  obtain ⟨ledger, rfl, ran⟩ := begun.written
  have owed : 0 < result.amountTotal - result.amountUsed := by
    rw [begun.total, begun.used]
    omega
  have replenished := replenished_of_replenish owed ran
  obtain ⟨account, member, funds, names⟩ := replenished.account
  refine ⟨account, member, funds, replenished.carried, ?_⟩
  rw [names, replenished.available, replenished.reserved, CycleLevel, begun.id]
  simp only [tops_up_begun begun]
  rw [begun.total, begun.used]
  split <;> omega

-- The sum of a whole plan and what is left of another may not fit the column. Then nothing is topped up.
theorem level_unfunded (begun : Begun env plan now current purchase store result after) (negative : purchase.total plan current ≤ 0) :
    after.ledger = store.ledger := by
  obtain ⟨ledger, rfl, ran⟩ := begun.written
  have nothing : result.amountTotal - result.amountUsed ≤ 0 := by
    rw [begun.total, begun.used]
    omega
  simp only [replenishSubscriptionLedgerForCycleTx, if_pos nothing, Tx.ran_bind, Tx.ran_reject, Tx.ran_pure] at ran
  obtain ⟨_, _, ⟨_, rfl⟩, _, rfl⟩ := ran
  rfl

end Fresh

theorem cycle_fresh_iff (env : RenewalEnv) (purchase : Purchase) (subscriptionID userID : Int) (plan : TargetPlan) (now : Int)
    (store after : SubscriptionStore) (current result : UserSubscription) (sound : Sound store.ledger) (positive : 0 < plan.totalAmount)
    (fits : InInt64 plan.totalAmount) (row : store.subscription subscriptionID = some current)
    (ran : purchase.applyTx env subscriptionID userID plan now store = (.ok result, after)) :
    FreshCycle env.toLedgerEnv after result ↔
      purchase.usage current = [] ∧ CycleLevel env.toLedgerEnv store.ledger plan now current purchase := by
  obtain ⟨named, begun⟩ := begun_of_purchase row ran
  have nonzero := purchase_total_nonzero purchase current positive fits
  have stored : after.subscription result.id = some result := by
    obtain ⟨ledger, rfl, _⟩ := begun.written
    have updated := saved_subscription store result result.id
    rw [if_pos rfl, begun.id, named, row] at updated
    rw [begun.id, named]
    exact updated
  by_cases quota : 0 < purchase.total plan current
  · obtain ⟨account, member, funds, carried, level⟩ := level_begun begun quota
    constructor
    · intro fresh
      obtain ⟨other, otherIn, otherFunds, filled, _⟩ := fresh.funded
      obtain rfl := account_unique otherIn member otherFunds funds
      exact ⟨begun.models.symm.trans fresh.models, level.mp filled⟩
    · rintro ⟨spared, ready⟩
      have filled := level.mpr ready
      refine ⟨stored, begun.used, begun.period, begun.models.trans spared, account, member, funds, filled, fun ops => ?_⟩
      have within := consumed_within env.toLedgerEnv (carried.sound sound) account.accountID ops
      simp only [filled] at within
      exact within
  · have unmoved := level_unfunded begun (by omega)
    have filled (accountID : String) : (store.ledger.balance accountID).availableBalance + (store.ledger.balance accountID).reservedBalance ≠
        purchase.total plan current := by
      have available := sound.solvent.available accountID
      have held := holds_nonneg sound.solvent accountID
      omega
    constructor
    · intro fresh
      obtain ⟨account, _, _, level, _⟩ := fresh.funded
      rw [unmoved, begun.total] at level
      exact (filled account.accountID level).elim
    · rintro ⟨_, ready⟩
      rw [CycleLevel, if_neg fun tops => ?_] at ready
      · exact (filled _ ready).elim
      · have short := tops.1
        have available := sound.solvent.available (fundingAccountID env.toLedgerEnv store.ledger current.id)
        simp only [Purchase.opened] at short
        omega

-- A subscription of 100 with one open hold on its account.
def heldLedger (held : Int) : Ledger :=
  run (step tallyEnv) Ledger.empty
    [.ensureBillingAccount (subscriptionAccountParams 1),
      .creditAccount { accountID := tallyEnv.uuid 0, amount := 100, idempotencyKey := "first" },
      .createReservation { accountID := tallyEnv.uuid 0, reservedAmount := held, idempotencyKey := "hold" }]

def heldSubscription : UserSubscription :=
  { id := 1, userID := 1, planID := 1, amountTotal := 100, amountUsed := 10, startTime := 0, endTime := 10 }

def heldStore (held : Int) : SubscriptionStore :=
  { ledger := heldLedger held, plans := [{ id := 1 }], subscriptions := ⟨[heldSubscription], by simp⟩, records := .empty, evidence := []
    opportunities := .empty, opportunityUses := [] }

def hourlyPlan : TargetPlan := { id := 1, durationUnit := .hour, totalAmount := 100 }

def tallyRenewalEnv : RenewalEnv := ⟨⟨tallyEnv, Clock.fixedZone 0⟩, fun start _ _ => start⟩

theorem held_store_row (held : Int) : (heldStore held).subscription 1 = some heldSubscription := by rfl

theorem held_store_renews (held : Int)
    (renews : (Purchase.applyTx tallyRenewalEnv 1 1 hourlyPlan 5 .renew (heldStore held)).1.toBool = true) :
    ∃ result after, Purchase.applyTx tallyRenewalEnv 1 1 hourlyPlan 5 .renew (heldStore held) = (.ok result, after) := by
  cases ran : Purchase.applyTx tallyRenewalEnv 1 1 hourlyPlan 5 .renew (heldStore held) with
  | mk outcome after =>
      cases outcome with
      | error problem => simp [ran, Except.toBool] at renews
      | ok result => exact ⟨result, after, rfl⟩

-- Nothing is held, and the account starts the cycle at its quota.
theorem cycle_fresh_hundred : ∃ after result, Purchase.applyTx tallyRenewalEnv 1 1 hourlyPlan 5 .renew (heldStore 0) = (.ok result, after) ∧
    (FreshCycle tallyEnv after result ↔
      Purchase.usage heldSubscription .renew = [] ∧ CycleLevel tallyEnv (heldStore 0).ledger hourlyPlan 5 heldSubscription .renew) := by
  obtain ⟨result, after, ran⟩ := held_store_renews 0 (by decide +kernel)
  exact ⟨after, result, ran, cycle_fresh_iff tallyRenewalEnv .renew 1 1 hourlyPlan 5 (heldStore 0) after heldSubscription result
    (sound_run tallyEnv _) (by decide) (by decide) (held_store_row 0) ran⟩

-- A hold of 10 stays on top of the 100 that are made available.
theorem open_hold_outlives_renewal : ¬ ∀ (env : RenewalEnv) (purchase : Purchase) (subscriptionID userID : Int) (plan : TargetPlan) (now : Int)
    (store after : SubscriptionStore) (current result : UserSubscription), Sound store.ledger → 0 < plan.totalAmount → InInt64 plan.totalAmount →
    store.subscription subscriptionID = some current →
    purchase.applyTx env subscriptionID userID plan now store = (.ok result, after) → FreshCycle env.toLedgerEnv after result := by
  intro every
  obtain ⟨result, after, ran⟩ := held_store_renews 10 (by decide +kernel)
  have fresh := every tallyRenewalEnv .renew 1 1 hourlyPlan 5 (heldStore 10) after heldSubscription result (sound_run tallyEnv _) (by decide)
    (by decide) (held_store_row 10) ran
  obtain ⟨_, begun⟩ := begun_of_purchase (held_store_row 10) ran
  obtain ⟨account, member, funds, _, level⟩ := level_begun begun (by decide)
  obtain ⟨other, otherIn, otherFunds, filled, _⟩ := fresh.funded
  obtain rfl := account_unique otherIn member otherFunds funds
  have ready := level.mp filled
  revert ready
  decide +kernel

end CodeGo.Subscription.Renewal
