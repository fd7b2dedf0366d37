import CodeGo.Subscription.Bootstrap

set_option autoImplicit false

namespace CodeGo.Subscription

open Relational Text Billing Machine Renewal

/- The operations that may write the first entry to the account of a subscription. -/

inductive LedgerWrite where
  | preConsume (request : PreConsumeRequest) (known : Option SubscriptionPlan)
  | usageAdjustment (modelName : String) (delta : Int) (operationKey : String)
  | bonus (bonusQuota : Int) (grantKey : String)
  | fuel (order : FuelOrder) (now : Int)
  | conversion (userID amount : Int) (requestID : String) (now : Int)
  | refundHold (userID amount : Int) (refundNo : String)
  | periodicReset (now : Int)
  | adminReset (advanceResetTime : Bool) (now : Int)
  | adminEdit (input : AdminUpdate) (uuid : String) (now : Int)
  | renewal (purchase : Purchase) (userID : Int) (plan : TargetPlan) (now : Int)
  | credit (modelName : String) (amount : Int) (idempotencyKey reasonCode : String)
deriving DecidableEq, Repr

def LedgerWrite.applyTx (env : ConversionEnv) (subscriptionID : Int) : LedgerWrite → SubscriptionTx Unit
  | .preConsume request known => do let _ ← preConsumeCandidateTx env.toSubscriptionEnv request subscriptionID known
  | .usageAdjustment modelName delta operationKey => do
      let _ ← adjustUserSubscriptionUsageDeltaTx env.toSubscriptionEnv subscriptionID modelName delta operationKey
  | .bonus bonusQuota grantKey => addSubscriptionBonusTx env.toLedgerEnv subscriptionID bonusQuota grantKey
  | .fuel order now => fulfillSubscriptionFuelTx env.toLedgerEnv { order with targetSubscriptionID := subscriptionID } now
  | .conversion userID amount requestID now => convertSubscription env subscriptionID userID amount requestID now
  | .refundHold userID amount refundNo => holdSubscriptionRefund env.toLedgerEnv subscriptionID userID amount refundNo
  | .periodicReset now => resetDueSubscription env.toSubscriptionEnv subscriptionID now
  | .adminReset advanceResetTime now => resetAdminUserSubscriptionQuotaRuntime env.toSubscriptionEnv subscriptionID advanceResetTime now
  | .adminEdit input uuid now => updateAdminUserSubscriptionRuntime env.toSubscriptionEnv subscriptionID input uuid now
  | .renewal purchase userID plan now => do let _ ← purchase.applyTx env.toRenewalEnv subscriptionID userID plan now
  | .credit modelName amount idempotencyKey reasonCode =>
      creditSubscriptionQuotaTx env.toLedgerEnv subscriptionID modelName amount idempotencyKey reasonCode

-- What the reset that is owed gives back on the way.
def givenBack (env : SubscriptionEnv) (sub : UserSubscription) (now : Int) : Option SubscriptionPlan → Int
  | some plan => if (legacyReset env plan sub now).isSome then sub.amountUsed else 0
  | none => 0

def knownPlan (plans : List SubscriptionPlan) (known : Option SubscriptionPlan) (sub : UserSubscription) : Option SubscriptionPlan :=
  match known with
  | some plan => if plan.id = sub.planID then some plan else planOf plans sub.planID
  | none => planOf plans sub.planID

-- The plan a conversion resets under.
def resettingPlan (plans : List SubscriptionPlan) (sub : UserSubscription) : Option SubscriptionPlan :=
  (planOf plans sub.planID).bind fun plan => if sub.CreditPack ∨ plan.creditPack = true then none else some plan

-- How far the operation itself moves what the subscription can spend and what it holds.
def LedgerWrite.effect (env : ConversionEnv) (plans : List SubscriptionPlan) (sub : UserSubscription) : LedgerWrite → Int
  | .preConsume request known =>
      givenBack env.toSubscriptionEnv sub request.now ((knownPlan plans known sub).map fun plan => creditPackSnapshotPlan plan sub)
  | .usageAdjustment _ delta _ => -delta
  | .bonus bonusQuota _ => bonusQuota
  | .fuel order _ => order.fuelQuota
  | .conversion _ amount _ now =>
      givenBack env.toSubscriptionEnv sub now (resettingPlan plans sub) - amount
  | .refundHold _ _ _ => 0
  | .periodicReset now => givenBack env.toSubscriptionEnv sub now (planOf plans sub.planID)
  | .adminReset _ _ => sub.amountUsed
  | .adminEdit input _ now =>
      input.amountTotal - input.amountUsed - (sub.amountTotal - sub.amountUsed) +
        match planOf plans sub.planID with
        | some plan => givenBack env.toSubscriptionEnv (input.apply env.toSubscriptionEnv plan sub now) now (some plan)
        | none => 0
  | .renewal purchase _ plan _ => purchase.total plan sub - (sub.amountTotal - sub.amountUsed)
  | .credit _ amount _ _ => amount

-- The credit is the one operation that brings nothing along.
def LedgerWrite.Bootstraps (ledger : Ledger) (sub : UserSubscription) : LedgerWrite → Prop
  | .credit _ _ idempotencyKey _ => sub.amountUsed = sub.amountTotal ∨ ∃ entry ∈ ledger.entries.rows, entry.idempotencyKey = idempotencyKey
  | _ => True

-- A finite subscription whose account has no entry.
structure Unbacked (env : LedgerEnv) (store : SubscriptionStore) (sub : UserSubscription) : Prop where
  sound : Sound store.ledger
  traced : Traced store.ledger
  row : store.subscription sub.id = some sub
  finite : 0 < sub.amountTotal
  nonneg : 0 ≤ sub.amountUsed
  within : sub.amountUsed ≤ sub.amountTotal
  unwritten : ∀ entry ∈ store.ledger.entries.rows, entry.accountID ≠ fundingAccountID env store.ledger sub.id

theorem Unbacked.stage {env : LedgerEnv} {store : SubscriptionStore} {sub : UserSubscription} (unbacked : Unbacked env store sub) :
    Stage store.ledger (fundingAccountID env store.ledger sub.id) 0 [] :=
  stage_vacant unbacked.sound unbacked.traced unbacked.unwritten

theorem row_of_find {store : SubscriptionStore} {subscriptionID : Int} {found : UserSubscription} {p : UserSubscription → Prop} [DecidablePred p]
    (looked : (store.subscriptions.find? fun row => row.id = subscriptionID ∧ p row) = some found) :
    store.subscription subscriptionID = some found ∧ p found := by
  obtain ⟨member, matched⟩ := Table.mem_of_find? _ _ _ looked
  obtain ⟨named, holds⟩ := of_decide_eq_true matched
  refine ⟨?_, holds⟩
  apply Table.find?_of_mem _ _ found member (decide_eq_true named)
  intro other same
  exact named.trans (of_decide_eq_true same).symm

theorem bonus_key_front (subscriptionID : Int) (grantKey : String) : ∃ rest, bonusKey subscriptionID grantKey = "subscription-bonus:" ++ rest :=
  ⟨_, String.append_assoc.trans String.append_assoc⟩

theorem reset_key_front (subscriptionID : Int) (operationKey : String) :
    ∃ rest, resetCreditKey subscriptionID operationKey = "subscription-reset-balance:" ++ rest :=
  ⟨_, String.append_assoc.trans String.append_assoc⟩

theorem whole_of_unwritten {env : LedgerEnv} {sub : UserSubscription} {effect : Int} {ledger after : Ledger}
    (none : ∀ entry ∈ after.entries.rows, entry.accountID ≠ fundingAccountID env ledger sub.id) : Whole env sub effect ledger after := by
  rintro ⟨entry, member, same⟩
  exact (none entry member same).elim

section Operations

variable {env : ConversionEnv} {store after : SubscriptionStore} {sub : UserSubscription}

theorem bootstrapped_of_back {env : SubscriptionEnv} {account : BillingAccount} (stage : Stage store.ledger account.accountID 0 [])
    (within : sub.amountUsed ≤ sub.amountTotal) (ran : backSubscription env sub account store = (.ok (), after)) :
    Bootstrapped after.ledger account.accountID sub := by
  simp only [backSubscription, Tx.ran_bind, ran_on_ledger] at ran
  obtain ⟨backed, _, ⟨_, asked, rfl⟩, ran⟩ := ran
  obtain ⟨rfl, rfl⟩ := stage.backed asked
  simp only [Bool.false_eq_true, if_false, Tx.ran_bind, Tx.ran_reject, ran_on_ledger] at ran
  obtain ⟨_, _, ⟨_, rfl⟩, ledger, receipt, rfl⟩ := ran
  exact bootstrapped_of_receipt stage within receipt

theorem whole_of_adjustment {modelName operationKey : String} {delta : Int} {applied : Bool} (unbacked : Unbacked env.toLedgerEnv store sub)
    (ran : adjustUserSubscriptionUsageDeltaTx env.toSubscriptionEnv sub.id modelName delta operationKey store = (.ok applied, after)) :
    Whole env.toLedgerEnv sub (-delta) store.ledger after.ledger := by
  by_cases zero : delta = 0
  · simp only [adjustUserSubscriptionUsageDeltaTx, if_pos zero, Tx.ran_bind, Tx.ran_reject, Tx.ran_pure] at ran
    obtain ⟨_, _, ⟨_, rfl⟩, _, rfl⟩ := ran
    exact whole_of_unwritten unbacked.unwritten
  · simp only [adjustUserSubscriptionUsageDeltaTx, if_neg zero, findLedgerEntryByIdempotency, Tx.ran_bind, Tx.ran_reject, ran_on_ledger,
      Tx.ran_view] at ran
    obtain ⟨_, _, ⟨_, rfl⟩, found, _, locked, account, _, ⟨ledger, ensured, rfl⟩, prior, _, ⟨_, ⟨_, rfl⟩, rfl⟩, ran⟩ := ran
    obtain ⟨rfl, row, _⟩ := ran_lock_subscription _ _ locked
    obtain rfl : found = sub := Option.some.inj (row.symm.trans unbacked.row)
    obtain ⟨names, stage, _⟩ := unbacked.stage.opened ensured
    cases prior with
    | some entry =>
        simp only [storedEvidence, Tx.ran_bind, Tx.ran_view, Tx.ran_reject, Tx.ran_pure] at ran
        obtain ⟨_, _, ⟨_, rfl⟩, _, _, ⟨_, rfl⟩, _, rfl⟩ := ran
        apply whole_of_unwritten
        rw [← names]
        exact stage.unwritten
    | none =>
        have limited : found.amountTotal ≠ 0 := by
          have finite := unbacked.finite
          omega
        simp only [adjustUsage, if_neg limited, adjustLimitedUsage, noteEvidence, Tx.ran_bind, Tx.ran_reject, Tx.ran_lift, Tx.ran_edit, Tx.ran_pure,
          ran_on_ledger, ran_save_subscription] at ran
        obtain ⟨_, _, ⟨plan, _, planned, _, _, backed, balance, _, ⟨_, lock, rfl⟩, _, _, ⟨_, rfl⟩, _, _, ⟨_, rfl⟩, _, _, ⟨_, rfl⟩, used, _, ⟨_, rfl⟩,
          result, _, ⟨later, adjusted, rfl⟩, _, _, rfl, rfl⟩, _, rfl⟩ := ran
        obtain ⟨rfl, _⟩ := ran_plan _ _ planned
        obtain ⟨keys, whole, only⟩ := bootstrapped_of_back stage unbacked.within backed
        obtain ⟨rfl, rfl⟩ := ran_lock_balance _ _ _ _ lock
        obtain ⟨more, moved, _⟩ := whole.adjusted rfl (Bootstrapped.fresh only (by decide) operationKey) adjusted
        intro _
        rw [← names]
        exact moved.funds

theorem whole_of_credit_bonus {bonusQuota : Int} {grantKey : String} {credited : Bool} {ledger : Ledger} (unbacked : Unbacked env.toLedgerEnv store sub)
    (ran : creditMaterializedSubscriptionBonusTx env.toLedgerEnv sub bonusQuota grantKey store.ledger = (.ok credited, ledger)) :
    Whole env.toLedgerEnv sub bonusQuota store.ledger ledger := by
  simp only [creditMaterializedSubscriptionBonusTx, findLedgerEntryByIdempotency, Tx.ran_bind, Tx.ran_view] at ran
  obtain ⟨account, _, ensured, prior, _, ⟨_, rfl⟩, ran⟩ := ran
  obtain ⟨names, stage, _⟩ := unbacked.stage.opened ensured
  cases prior with
  | some existing =>
      simp only [Tx.ran_bind, Tx.ran_reject, Tx.ran_pure] at ran
      obtain ⟨_, _, ⟨_, rfl⟩, _, rfl⟩ := ran
      apply whole_of_unwritten
      rw [← names]
      exact stage.unwritten
  | none =>
      simp only [Tx.ran_bind, Tx.ran_pure] at ran
      obtain ⟨_, _, bootstrapped, entry, _, granted, _, rfl⟩ := ran
      obtain ⟨keys, whole, only⟩ := bootstrapped_of_projection stage unbacked.within bootstrapped
      have fresh : bonusKey sub.id grantKey ∉ keys := by
        obtain ⟨rest, front⟩ := bonus_key_front sub.id grantKey
        rw [front]
        exact Bootstrapped.fresh only (by decide) rest
      -- The key of the credit is read off its run first.
      obtain ⟨moved, _⟩ := whole.credited rfl (by exact fresh) granted
      intro _
      rw [← names]
      exact moved.funds

theorem whole_of_bonus {bonusQuota : Int} {grantKey : String} (unbacked : Unbacked env.toLedgerEnv store sub)
    (ran : addSubscriptionBonusTx env.toLedgerEnv sub.id bonusQuota grantKey store = (.ok (), after)) :
    Whole env.toLedgerEnv sub bonusQuota store.ledger after.ledger := by
  rw [addSubscriptionBonusTx] at ran
  split at ran
  · simp only [Tx.ran_pure] at ran
    obtain ⟨_, rfl⟩ := ran
    exact whole_of_unwritten unbacked.unwritten
  · simp only [Tx.ran_bind, Tx.ran_reject, ran_on_ledger] at ran
    obtain ⟨_, _, ⟨_, rfl⟩, current, _, locked, credited, _, ⟨ledger, granted, rfl⟩, ran⟩ := ran
    obtain ⟨rfl, row, _⟩ := ran_lock_subscription _ _ locked
    obtain rfl : current = sub := Option.some.inj (row.symm.trans unbacked.row)
    have whole := whole_of_credit_bonus unbacked granted
    cases credited with
    | true =>
        simp only [if_true, ran_save_subscription] at ran
        obtain rfl := ran
        exact whole
    | false =>
        simp only [Bool.false_eq_true, if_false, Tx.ran_pure] at ran
        obtain ⟨_, rfl⟩ := ran
        exact whole

theorem whole_of_credit_fuel {order : FuelOrder} {credited : Bool} {ledger : Ledger} (unbacked : Unbacked env.toLedgerEnv store sub)
    (ran : creditSubscriptionFuel env.toLedgerEnv sub order store.ledger = (.ok credited, ledger)) :
    Whole env.toLedgerEnv sub order.fuelQuota store.ledger ledger := by
  simp only [creditSubscriptionFuel, findLedgerEntryByIdempotency, Tx.ran_bind, Tx.ran_view] at ran
  obtain ⟨account, _, ensured, prior, _, ⟨_, rfl⟩, ran⟩ := ran
  obtain ⟨names, stage, _⟩ := unbacked.stage.opened ensured
  cases prior with
  | some existing =>
      simp only [Tx.ran_bind, Tx.ran_reject, Tx.ran_pure] at ran
      obtain ⟨_, _, ⟨_, rfl⟩, _, rfl⟩ := ran
      apply whole_of_unwritten
      rw [← names]
      exact stage.unwritten
  | none =>
      simp only [Tx.ran_bind, Tx.ran_pure] at ran
      obtain ⟨_, _, bootstrapped, entry, _, granted, _, rfl⟩ := ran
      obtain ⟨keys, whole, only⟩ := bootstrapped_of_projection stage unbacked.within bootstrapped
      obtain ⟨moved, _⟩ := whole.credited rfl (Bootstrapped.fresh only (by decide) order.tradeNo) granted
      intro _
      rw [← names]
      exact moved.funds

theorem whole_of_fuel {order : FuelOrder} {now : Int} (unbacked : Unbacked env.toLedgerEnv store sub)
    (ran : fulfillSubscriptionFuelTx env.toLedgerEnv { order with targetSubscriptionID := sub.id } now store = (.ok (), after)) :
    Whole env.toLedgerEnv sub order.fuelQuota store.ledger after.ledger := by
  simp only [fulfillSubscriptionFuelTx, Tx.ran_bind, Tx.ran_reject, Tx.ran_view] at ran
  obtain ⟨_, _, ⟨_, rfl⟩, found, _, ⟨looked, rfl⟩, ran⟩ := ran
  cases found with
  | none => simp only [Tx.ran_fail] at ran
  | some current =>
      obtain ⟨row, _⟩ := row_of_find looked
      obtain rfl : current = sub := Option.some.inj (row.symm.trans unbacked.row)
      simp only [Tx.ran_bind, Tx.ran_reject, ran_on_ledger] at ran
      obtain ⟨_, _, ⟨_, rfl⟩, credited, _, ⟨ledger, granted, rfl⟩, ran⟩ := ran
      have whole := whole_of_credit_fuel unbacked granted
      cases credited with
      | true =>
          simp only [if_true, Tx.ran_bind, Tx.ran_reject, ran_save_subscription] at ran
          obtain ⟨_, _, ⟨_, rfl⟩, rfl⟩ := ran
          exact whole
      | false =>
          simp only [Bool.false_eq_true, if_false, Tx.ran_pure] at ran
          obtain ⟨_, rfl⟩ := ran
          exact whole

-- What a reset leaves behind: the ledger as it was, or an account at the whole quota.
structure ResetFirst (env : LedgerEnv) (back : Int) (sub : UserSubscription) (store : SubscriptionStore) (result : UserSubscription)
    (after : SubscriptionStore) : Prop where
  id : result.id = sub.id
  total : result.amountTotal = sub.amountTotal
  quota : (after.ledger = store.ledger ∧
      (result.amountUsed = sub.amountUsed ∧ back = 0 ∨ ¬ 0 < sub.id)) ∨
    (result.amountUsed = 0 ∧ back = sub.amountUsed ∧ 0 < sub.id ∧
      ∃ account ∈ after.ledger.accounts.rows, FundedBy account sub.id ∧
        account.accountID = fundingAccountID env store.ledger sub.id ∧ ¬ Blank account.accountID ∧
        (∃ entry ∈ after.ledger.entries.rows, entry.accountID = account.accountID) ∧
        ∃ keys, Stage after.ledger account.accountID sub.amountTotal keys)

theorem reset_first {env : SubscriptionEnv} {plan : SubscriptionPlan} {now : Int} {result : UserSubscription} (finite : 0 < sub.amountTotal)
    (stage : Stage store.ledger (fundingAccountID env.toLedgerEnv store.ledger sub.id) 0 [])
    (ran : maybeResetUserSubscriptionWithPlanTx env sub plan now store = (.ok result, after)) :
    ResetFirst env.toLedgerEnv (givenBack env sub now (some plan)) sub store result after := by
  obtain ⟨same, _, _, _, quota⟩ := reset_of_maybe_reset env sub plan now store after result ran
  refine ⟨same.id, same.total, ?_⟩
  obtain ⟨nothing, ledger, used⟩ | ⟨operationKey, owed, cleared, restored⟩ := quota
  · exact .inl ⟨ledger, .inl ⟨used, by rw [givenBack, nothing]; rfl⟩⟩
  · by_cases identified : 0 < sub.id
    · obtain ⟨account, member, funded, names, keys, later, entered⟩ :=
        @Stage.restored _ _ { sub with amountUsed := 0 } env operationKey 0 [] stage identified finite (by simp) restored
      obtain ⟨entry, entryIn, owner, named⟩ := entered (by dsimp only; omega)
      refine .inr ⟨cleared, by rw [givenBack, owed]; rfl, identified, account, member, funded, names, named, ⟨entry, entryIn, owner⟩, keys, ?_⟩
      have level : max 0 (sub.amountTotal - 0) = sub.amountTotal := by omega
      rw [← level]
      exact later
    · exact .inl ⟨(restored_unidentified (by exact identified) restored).symm, .inr identified⟩

theorem whole_of_reset {env : LedgerEnv} {back : Int} {result : UserSubscription}
    (unwritten : ∀ entry ∈ store.ledger.entries.rows, entry.accountID ≠ fundingAccountID env store.ledger sub.id)
    (first : ResetFirst env back sub store result after) : Whole env sub back store.ledger after.ledger := by
  obtain ⟨same, _⟩ | ⟨_, back, _, account, _, _, names, _, _, keys, stage⟩ := first.quota
  · apply whole_of_unwritten
    rw [same]
    exact unwritten
  · intro _
    rw [← names, stage.funds, back]
    omega

theorem whole_of_periodic_reset {env : SubscriptionEnv} {now : Int} (unbacked : Unbacked env.toLedgerEnv store sub)
    (ran : resetDueSubscription env sub.id now store = (.ok (), after)) :
    Whole env.toLedgerEnv sub (givenBack env sub now (planOf store.plans sub.planID)) store.ledger after.ledger := by
  simp only [resetDueSubscription, Tx.ran_bind, Tx.ran_view] at ran
  obtain ⟨found, _, ⟨looked, rfl⟩, ran⟩ := ran
  cases found with
  | none =>
      simp only [Tx.ran_pure] at ran
      obtain ⟨_, rfl⟩ := ran
      exact whole_of_unwritten unbacked.unwritten
  | some current =>
      obtain ⟨row, _⟩ := row_of_find looked
      obtain rfl : current = sub := Option.some.inj (row.symm.trans unbacked.row)
      simp only [Tx.ran_bind, Tx.ran_pure] at ran
      obtain ⟨plan, _, planned, result, _, reset, _, rfl⟩ := ran
      obtain ⟨rfl, known⟩ := ran_plan _ _ planned
      rw [known]
      exact whole_of_reset unbacked.unwritten (reset_first unbacked.finite unbacked.stage reset)

theorem whole_of_admin_reset {env : SubscriptionEnv} {advanceResetTime : Bool} {now : Int} (unbacked : Unbacked env.toLedgerEnv store sub)
    (ran : resetAdminUserSubscriptionQuotaRuntime env sub.id advanceResetTime now store = (.ok (), after)) :
    Whole env.toLedgerEnv sub sub.amountUsed store.ledger after.ledger := by
  simp only [resetAdminUserSubscriptionQuotaRuntime, Tx.ran_bind, Tx.ran_reject, ran_on_ledger, ran_save_subscription] at ran
  obtain ⟨_, _, ⟨identified, rfl⟩, current, _, locked, _, _, ⟨_, rfl⟩, plan, _, planned, _, _, ⟨ledger, restored, rfl⟩, rfl⟩ := ran
  obtain ⟨rfl, row, _⟩ := ran_lock_subscription _ _ locked
  obtain rfl : current = sub := Option.some.inj (row.symm.trans unbacked.row)
  obtain ⟨rfl, _⟩ := ran_plan _ _ planned
  obtain ⟨account, _, _, names, keys, stage, _⟩ :=
    @Stage.restored _ _ { current with amountUsed := 0, periodUsed := 0, modelUsage := [] } env (adminResetKey current.id now) 0 [] unbacked.stage
      (not_le.mp identified) unbacked.finite (by simp) restored
  have finite := unbacked.finite
  intro _
  have level := stage.funds
  rw [names] at level
  dsimp only at level
  exact level.trans (by omega)

-- What the reading of the ledger answers: the account when it has entries, else the row alone.
structure Quoted (ledger : Ledger) (sub synced : UserSubscription) (locked : Option BillingAccount) : Prop where
  id : synced.id = sub.id
  total : synced.amountTotal = sub.amountTotal
  account : (locked = none ∧ synced = sub ∧ (0 < sub.id → 0 < sub.amountTotal → ∀ account ∈ ledger.accounts.rows, FundedBy account sub.id →
      ¬ Blank account.accountID → ∀ entry ∈ ledger.entries.rows, entry.accountID ≠ account.accountID)) ∨
    ∃ account ∈ ledger.accounts.rows, FundedBy account sub.id ∧ locked = some account ∧
      ∃ entry ∈ ledger.entries.rows, entry.accountID = account.accountID

theorem quoted_of_available {ledger later : Ledger} {synced : UserSubscription} {found : Option (BillingAccount × Int)}
    (ran : subscriptionLedgerAvailableQuotaTx sub ledger = (.ok (synced, found), later)) :
    ledger = later ∧ Quoted ledger sub synced (found.map Prod.fst) := by
  rw [subscriptionLedgerAvailableQuotaTx] at ran
  split at ran
  · rename_i absent
    simp only [Tx.ran_pure, Prod.mk.injEq] at ran
    obtain ⟨⟨rfl, rfl⟩, rfl⟩ := ran
    exact ⟨rfl, rfl, rfl, .inl ⟨rfl, rfl, fun identified finite => by omega⟩⟩
  · simp only [findSubscriptionAccount, Tx.ran_bind, Tx.ran_view] at ran
    obtain ⟨account, _, ⟨looked, rfl⟩, ran⟩ := ran
    cases account with
    | none =>
        simp only [Tx.ran_pure, Prod.mk.injEq] at ran
        obtain ⟨⟨rfl, rfl⟩, rfl⟩ := ran
        refine ⟨rfl, rfl, rfl, .inl ⟨rfl, rfl, fun _ _ account member funded => ?_⟩⟩
        have miss := (Table.find?_eq_none_iff _ _).mp looked account member
        exact (of_decide_eq_false miss funded).elim
    | some account =>
        obtain ⟨member, funded⟩ := Table.mem_of_find? _ _ _ looked
        have funded := of_decide_eq_true funded
        simp only [Tx.ran_bind] at ran
        obtain ⟨backed, _, asked, ran⟩ := ran
        obtain ⟨rfl, answer⟩ := ran_has_entries _ _ _ _ asked
        cases backed with
        | true =>
            simp only [if_true, Tx.ran_bind, Tx.ran_pure, Prod.mk.injEq] at ran
            obtain ⟨snapshot, _, lock, ⟨rfl, rfl⟩, rfl⟩ := ran
            obtain ⟨rfl, rfl⟩ := ran_lock_balance _ _ _ _ lock
            refine ⟨rfl, ?_, ?_, .inr ⟨account, member, funded, rfl, (answer.mp rfl).2⟩⟩
            · split <;> rfl
            · split <;> rfl
        | false =>
            simp only [Bool.false_eq_true, if_false, Tx.ran_pure, Prod.mk.injEq] at ran
            obtain ⟨⟨rfl, rfl⟩, rfl⟩ := ran
            refine ⟨rfl, rfl, rfl, .inl ⟨rfl, rfl, fun _ _ other otherIn otherFunds named entry entryIn same => ?_⟩⟩
            obtain rfl := account_unique otherIn member otherFunds funded
            simpa using answer.mpr ⟨named, entry, entryIn, same⟩

theorem quoted_of_can_pre_consume {ledger later : Ledger} {plan : SubscriptionPlan} {modelName : String} {amount : Int} {synced : UserSubscription}
    {locked : Option BillingAccount} (ran : subscriptionCanPreConsume sub plan modelName amount ledger = (.ok (some (synced, locked)), later)) :
    ledger = later ∧ Quoted ledger sub synced locked := by
  simp only [subscriptionCanPreConsume, Tx.ran_bind] at ran
  obtain ⟨⟨row, found⟩, _, available, ran⟩ := ran
  obtain ⟨rfl, quoted⟩ := quoted_of_available available
  split at ran
  · simp only [Tx.ran_pure, Option.some.injEq, Prod.mk.injEq] at ran
    obtain ⟨⟨rfl, rfl⟩, rfl⟩ := ran
    exact ⟨rfl, quoted⟩
  · simp at ran

-- A hold out of the account that funds the row leaves the sum of both balances alone.
theorem funds_of_reserve {env : SubscriptionEnv} {ledger later : Ledger} {record : SubscriptionPreConsumeRecord} {locked : Option BillingAccount}
    {reservation : Option BillingReservation} {accountID : String} {level : Int} (finite : 0 < sub.amountTotal)
    (funding : ∀ account middle, fundingAccount env sub record.requestID locked ledger = (.ok account, middle) →
      account.accountID = accountID ∧ ∃ keys, Stage middle accountID level keys)
    (ran : reserveSubscriptionLedgerTx env sub record locked ledger = (.ok reservation, later)) : funds later accountID = level := by
  simp only [reserveSubscriptionLedgerTx, if_neg (not_le.mpr finite), subscriptionReservationExpiry, Tx.ran_bind, Tx.ran_view, Tx.ran_pure] at ran
  obtain ⟨account, middle, funded, _, _, ⟨_, rfl⟩, reservation, _, created, _, rfl⟩ := ran
  obtain ⟨names, keys, stage⟩ := funding account middle funded
  obtain ⟨_, available, held, _⟩ := stage.held names created
  rw [funds, available, held]
  dsimp only
  omega

theorem candidate_row {request : PreConsumeRequest} {subscriptionID : Int} {locked : UserSubscription}
    (ran : lockCandidate request subscriptionID store = (.ok locked, after)) : store = after ∧ store.subscription subscriptionID = some locked := by
  simp only [lockCandidate, Tx.ran_bind, Tx.ran_view] at ran
  obtain ⟨found, _, ⟨looked, rfl⟩, ran⟩ := ran
  cases found with
  | none => simp only [Tx.ran_fail] at ran
  | some row =>
      simp only [Tx.ran_pure] at ran
      obtain ⟨rfl, rfl⟩ := ran
      obtain ⟨held, _⟩ := row_of_find looked
      exact ⟨rfl, held⟩

theorem candidate_plan {known : Option SubscriptionPlan} {plan : SubscriptionPlan} (ran : candidatePlan known sub store = (.ok plan, after)) :
    store = after ∧ knownPlan store.plans known sub = some plan := by
  cases known with
  | none => exact ran_plan _ _ ran
  | some found =>
      rw [candidatePlan] at ran
      rw [knownPlan]
      split at ran
      · rename_i same
        simp only [Tx.ran_pure] at ran
        obtain ⟨rfl, rfl⟩ := ran
        exact ⟨rfl, if_pos same⟩
      · rename_i other
        rw [if_neg other]
        exact ran_plan _ _ ran

theorem ensured_identified {env : LedgerEnv} {subscriptionID : Int} {ledger later : Ledger} {account : BillingAccount}
    (ran : ensureBillingAccountTx env (subscriptionAccountParams subscriptionID) ledger = (.ok account, later)) : 0 < subscriptionID := by
  simp only [ensureBillingAccountTx, Tx.ran_bind, Tx.ran_reject] at ran
  obtain ⟨_, _, ⟨owner, _⟩, _⟩ := ran
  exact not_le.mp owner

-- The account a hold is taken from, once the reset that was owed has been made.
theorem funding_of_quoted {env : SubscriptionEnv} {back : Int} {reset synced : UserSubscription} {locked : Option BillingAccount}
    {requestID : String} (unbacked : Unbacked env.toLedgerEnv store sub) (first : ResetFirst env.toLedgerEnv back sub store reset after)
    (quoted : Quoted after.ledger reset synced locked) (account : BillingAccount) (middle : Ledger)
    (ran : fundingAccount env synced requestID locked after.ledger = (.ok account, middle)) :
    account.accountID = fundingAccountID env.toLedgerEnv store.ledger sub.id ∧
      ∃ keys, Stage middle (fundingAccountID env.toLedgerEnv store.ledger sub.id)
        (sub.amountTotal - sub.amountUsed + back) keys := by
  obtain ⟨id, total, quota⟩ := first
  obtain ⟨rfl, rfl, bare⟩ | ⟨found, foundIn, foundFunds, rfl, entry, entryIn, owner⟩ := quoted.account
  · rw [fundingAccount] at ran
    obtain ⟨same, cause⟩ | ⟨_, _, identified, restored, restoredIn, funded, _, named, ⟨entry, entryIn, owner⟩, _⟩ := quota
    · have identified : 0 < synced.id := by
        simp only [bootstrapSubscription, Tx.ran_bind] at ran
        obtain ⟨_, _, ensured, _⟩ := ran
        exact ensured_identified ensured
      obtain ⟨used, nothing⟩ := cause.resolve_right (by omega)
      rw [same] at ran
      have stage := unbacked.stage
      rw [← id] at stage
      have within := unbacked.within
      obtain ⟨names, keys, whole, _⟩ := bootstrapped_of_subscription stage (by omega) ran
      rw [names, id, total, used] at whole
      rw [nothing, Int.add_zero]
      exact ⟨names.trans (by rw [id]), keys, whole⟩
    · have finite := unbacked.finite
      exact (bare (by omega) (by omega) restored restoredIn (id ▸ funded) named entry entryIn owner).elim
  · rw [fundingAccount, Tx.ran_pure] at ran
    obtain ⟨rfl, rfl⟩ := ran
    rw [id] at foundFunds
    obtain ⟨same, _⟩ | ⟨_, whole, _, restored, restoredIn, funded, names, _, _, keys, stage⟩ := quota
    · rw [same] at foundIn entryIn
      have names := @funding_of_member env.toLedgerEnv _ _ _ foundIn foundFunds
      exact (unbacked.unwritten entry entryIn (owner.trans names.symm)).elim
    · obtain rfl := account_unique foundIn restoredIn foundFunds funded
      refine ⟨names, keys, ?_⟩
      have level : sub.amountTotal - sub.amountUsed + back = sub.amountTotal := by omega
      rw [level, ← names]
      exact stage

theorem whole_of_pre_consume {env : SubscriptionEnv} {request : PreConsumeRequest} {known : Option SubscriptionPlan}
    {result : SubscriptionPreConsumeResult} (unbacked : Unbacked env.toLedgerEnv store sub)
    (ran : preConsumeCandidateTx env request sub.id known store = (.ok result, after)) :
    Whole env.toLedgerEnv sub
      (givenBack env sub request.now ((knownPlan store.plans known sub).map fun plan => creditPackSnapshotPlan plan sub)) store.ledger after.ledger := by
  simp only [preConsumeCandidateTx, Tx.ran_bind, ran_find_record] at ran
  obtain ⟨existing, _, ⟨_, rfl⟩, ran⟩ := ran
  cases existing with
  | some existing =>
      simp only [subscriptionPreConsumeResultFromRecord, findSubscriptionReservationTx, Tx.ran_bind, Tx.ran_reject, ran_on_ledger, Tx.ran_view,
        Tx.ran_pure] at ran
      obtain ⟨_, _, ⟨_, rfl⟩, _, _, ⟨_, rfl⟩, row, _, locked, plan, _, planned, _, _, ⟨_, ⟨_, rfl⟩, rfl⟩, _, rfl⟩ := ran
      obtain ⟨rfl, _⟩ := ran_lock_subscription _ _ locked
      obtain ⟨rfl, _⟩ := ran_plan _ _ planned
      exact whole_of_unwritten unbacked.unwritten
  | none =>
      simp only [Tx.ran_bind, ran_on_ledger] at ran
      obtain ⟨locked, _, candidate, found, _, planned, reset, middle, restored, answer, _, ⟨ledger, asked, rfl⟩, ran⟩ := ran
      obtain ⟨rfl, row⟩ := candidate_row candidate
      obtain rfl : locked = sub := Option.some.inj (row.symm.trans unbacked.row)
      obtain ⟨rfl, planKnown⟩ := candidate_plan planned
      have first := reset_first unbacked.finite unbacked.stage restored
      cases answer with
      | none => simp only [Tx.ran_fail] at ran
      | some pair =>
          obtain ⟨synced, account⟩ := pair
          obtain ⟨rfl, quoted⟩ := quoted_of_can_pre_consume asked
          simp only [holdSubscription, Tx.ran_bind, ran_on_ledger, Tx.ran_lift, ran_save_subscription, Tx.ran_pure] at ran
          obtain ⟨_, _, created, reservation, _, ⟨later, reserved, rfl⟩, used, _, ⟨_, rfl⟩, _, _, rfl, _, rfl⟩ := ran
          obtain ⟨records, rfl, _⟩ := ran_create_record _ _ created
          have finite : 0 < synced.amountTotal := by
            rw [quoted.total, first.total]
            exact unbacked.finite
          intro _
          rw [planKnown]
          exact funds_of_reserve finite (funding_of_quoted unbacked first quoted) reserved

-- The same account where the bootstrap is asked for in so many words.
theorem funding_of_projection {env : LedgerEnv} {back : Int} {reset : UserSubscription} {account : BillingAccount} {opened middle : Ledger}
    {operatorType operatorID : String} (unbacked : Unbacked env store sub) (first : ResetFirst env back sub store reset after)
    (ensured : ensureBillingAccountTx env (subscriptionAccountParams reset.id) after.ledger = (.ok account, opened))
    (ran : bootstrapProjection env reset account.accountID operatorType operatorID opened = (.ok (), middle)) :
    account.accountID = fundingAccountID env store.ledger sub.id ∧ ∃ keys, Stage middle account.accountID (sub.amountTotal - sub.amountUsed + back) keys := by
  have identified := ensured_identified ensured
  obtain ⟨id, total, quota⟩ := first
  rw [id] at ensured identified
  have within := unbacked.within
  obtain ⟨same, cause⟩ | ⟨_, whole, _, restored, restoredIn, funded, names, named, ⟨entry, entryIn, owner⟩, keys, stage⟩ := quota
  · obtain ⟨used, nothing⟩ := cause.resolve_right fun unidentified => unidentified identified
    rw [same] at ensured
    obtain ⟨names, stage, _⟩ := unbacked.stage.opened ensured
    obtain ⟨keys, whole, _⟩ := bootstrapped_of_projection stage (by omega) ran
    rw [total, used] at whole
    rw [nothing, Int.add_zero]
    exact ⟨names, keys, whole⟩
  · have stood := @funding_of_member env _ _ _ restoredIn funded
    rw [← stood] at stage
    obtain ⟨same, stage, _⟩ := stage.opened ensured
    have entered : entry ∈ opened.entries.rows := by
      rw [(ensured_account env _ _ _ _ ensured).unmoved.entries]
      exact entryIn
    simp only [bootstrapProjection, Tx.ran_bind] at ran
    obtain ⟨backed, _, asked, ran⟩ := ran
    obtain ⟨rfl, answer⟩ := ran_has_entries _ _ _ _ asked
    have account : account.accountID = restored.accountID := same.trans stood
    have known : backed = true := answer.mpr (by rw [account]; exact ⟨named, entry, entered, owner⟩)
    rw [known] at ran
    simp only [Bool.true_eq_false, false_and, if_false, Tx.ran_pure] at ran
    obtain ⟨_, rfl⟩ := ran
    have level : sub.amountTotal - sub.amountUsed + back = sub.amountTotal := by omega
    rw [level]
    exact ⟨account.trans names, keys, stage⟩

theorem funds_of_conversion {back amount : Int} {reset : UserSubscription} {requestID : String} {later : Ledger}
    (unbacked : Unbacked env.toLedgerEnv store sub) (first : ResetFirst env.toLedgerEnv back sub store reset after)
    (ran : consumeMonthlyPassConversionQuotaTx env reset amount requestID after.ledger = (.ok (), later)) :
    funds later (fundingAccountID env.toLedgerEnv store.ledger sub.id) = sub.amountTotal - sub.amountUsed + (back - amount) := by
  simp only [consumeMonthlyPassConversionQuotaTx, Tx.ran_bind, Tx.ran_pure] at ran
  obtain ⟨account, opened, ensured, _, middle, projected, reservation, holding, created, settlement, _, settled, _, rfl⟩ := ran
  obtain ⟨names, keys, stage⟩ := funding_of_projection unbacked first ensured projected
  obtain ⟨sound, available, held, member, opened, owner, amounts⟩ := stage.held rfl created
  obtain ⟨_, _, shifted, _⟩ := carried_of_settle env.toLedgerEnv _ _ _ _ sound reservation member opened rfl settled
  rw [owner] at shifted
  rw [← names, funds, shifted.available, shifted.held, available, held, amounts]
  dsimp only
  omega

theorem whole_of_conversion {userID amount now : Int} {requestID : String} (unbacked : Unbacked env.toLedgerEnv store sub)
    (ran : convertSubscription env sub.id userID amount requestID now store = (.ok (), after)) :
    Whole env.toLedgerEnv sub (givenBack env.toSubscriptionEnv sub now (resettingPlan store.plans sub) - amount) store.ledger after.ledger := by
  simp only [convertSubscription, Tx.ran_bind, Tx.ran_view] at ran
  obtain ⟨found, _, ⟨looked, rfl⟩, ran⟩ := ran
  cases found with
  | none => simp only [Tx.ran_fail] at ran
  | some locked =>
      obtain ⟨row, _⟩ := row_of_find looked
      obtain rfl : locked = sub := Option.some.inj (row.symm.trans unbacked.row)
      simp only [Tx.ran_bind, Tx.ran_with_error, Tx.ran_reject, ran_on_ledger, ran_save_subscription] at ran
      obtain ⟨plan, _, planned, reset, middle, entered, _, _, ⟨_, rfl⟩, _, _, ⟨later, consumed, rfl⟩, rfl⟩ := ran
      obtain ⟨rfl, known⟩ := ran_plan _ _ planned
      intro _
      rw [resettingPlan, known, Option.bind_some]
      rw [resetBeforeConversion] at entered
      split at entered
      · rename_i pack
        simp only [Tx.ran_pure] at entered
        obtain ⟨rfl, rfl⟩ := entered
        rw [if_pos pack]
        exact funds_of_conversion unbacked ⟨rfl, rfl, .inl ⟨rfl, .inl ⟨rfl, rfl⟩⟩⟩ consumed
      · rename_i pass
        rw [if_neg pass]
        exact funds_of_conversion unbacked (reset_first unbacked.finite unbacked.stage entered) consumed

theorem whole_of_refund_hold {env : LedgerEnv} {userID amount : Int} {refundNo : String} (unbacked : Unbacked env store sub)
    (ran : holdSubscriptionRefund env sub.id userID amount refundNo store = (.ok (), after)) : Whole env sub 0 store.ledger after.ledger := by
  simp only [holdSubscriptionRefund, Tx.ran_bind, Tx.ran_view] at ran
  obtain ⟨found, _, ⟨looked, rfl⟩, ran⟩ := ran
  cases found with
  | none => simp only [Tx.ran_fail] at ran
  | some locked =>
      obtain ⟨row, _⟩ := row_of_find looked
      obtain rfl : locked = sub := Option.some.inj (row.symm.trans unbacked.row)
      simp only [reserveSubscriptionRefundTx, Tx.ran_bind, Tx.ran_reject, ran_on_ledger, ran_save_subscription, Tx.ran_pure] at ran
      obtain ⟨_, _, ⟨_, rfl⟩, _, _, ⟨later, ⟨account, _, ensured, _, _, bootstrapped, snapshot, _, locked, _, _, ⟨_, rfl⟩, reservation, _, created,
        _, rfl⟩, rfl⟩, rfl⟩ := ran
      obtain ⟨names, stage, _⟩ := unbacked.stage.opened ensured
      obtain ⟨keys, whole, _⟩ := bootstrapped_of_refund stage unbacked.within bootstrapped
      obtain ⟨rfl, _⟩ := ran_lock_balance _ _ _ _ locked
      obtain ⟨_, available, held, _⟩ := whole.held rfl created
      intro _
      rw [← names, funds, saved, available, held]
      dsimp only
      omega

theorem metadata_only {ledger later : Ledger} {total used : Int} {answer : Bool}
    (ran : metadataOnly sub total used ledger = (.ok answer, later)) :
    ledger = later ∧ (answer = true → total = sub.amountTotal ∧ used = sub.amountUsed) := by
  rw [metadataOnly] at ran
  split at ran
  · rename_i same
    simp only [findSubscriptionAccount, Tx.ran_bind, Tx.ran_view] at ran
    obtain ⟨found, _, ⟨_, rfl⟩, ran⟩ := ran
    cases found with
    | none =>
        simp only [Tx.ran_pure] at ran
        obtain ⟨_, rfl⟩ := ran
        exact ⟨rfl, fun _ => same⟩
    | some existing =>
        simp only [Tx.ran_bind, Tx.ran_pure] at ran
        obtain ⟨_, _, asked, _, rfl⟩ := ran
        obtain ⟨rfl, _⟩ := ran_has_entries _ _ _ _ asked
        exact ⟨rfl, fun _ => same⟩
  · simp only [Tx.ran_pure] at ran
    obtain ⟨rfl, rfl⟩ := ran
    exact ⟨rfl, fun wrong => absurd wrong (by simp)⟩

-- The account of an edited subscription before the reset that may follow.
structure Moved (env : LedgerEnv) (sub : UserSubscription) (level : Int) (store after : SubscriptionStore) : Prop where
  account : ∃ account ∈ after.ledger.accounts.rows, FundedBy account sub.id ∧ account.accountID = fundingAccountID env store.ledger sub.id ∧
    ∃ keys, Stage after.ledger account.accountID level keys ∧ ∀ operationKey, resetCreditKey sub.id operationKey ∉ keys

theorem accounts_of_receipt {env : SubscriptionEnv} {account : BillingAccount} {operatorType : String} {ledger later : Ledger}
    (ran : bootstrapReceipt env sub account operatorType ledger = (.ok (), later)) : ∀ row ∈ ledger.accounts.rows, row ∈ later.accounts.rows := by
  simp only [bootstrapReceipt] at ran
  split at ran
  · simp only [Tx.ran_bind, Tx.ran_pure] at ran
    obtain ⟨entry, _, credited, _, rfl⟩ := ran
    exact (carried_of_credit env.toLedgerEnv _ _ _ _ credited).1.accounts
  · simp only [Tx.ran_bind, Tx.ran_pure] at ran
    obtain ⟨entry, _, recorded, _, rfl⟩ := ran
    exact (carried_of_record env.toLedgerEnv _ _ _ _ recorded).1.accounts

theorem bootstrapped_of_admin {env : SubscriptionEnv} {account : BillingAccount} {snapshot : BillingBalanceSnapshot} {available : Int}
    (stage : Stage store.ledger account.accountID 0 []) (within : sub.amountUsed ≤ sub.amountTotal)
    (ran : adminBackedBalance env sub account snapshot store = (.ok available, after)) :
    available = sub.amountTotal - sub.amountUsed ∧ Bootstrapped after.ledger account.accountID sub ∧
      ∀ row ∈ store.ledger.accounts.rows, row ∈ after.ledger.accounts.rows := by
  simp only [adminBackedBalance, Tx.ran_bind, ran_on_ledger] at ran
  obtain ⟨backed, _, ⟨_, asked, rfl⟩, ran⟩ := ran
  obtain ⟨rfl, rfl⟩ := stage.backed asked
  simp only [Bool.false_eq_true, if_false, Tx.ran_bind, Tx.ran_reject, ran_on_ledger, Tx.ran_pure] at ran
  obtain ⟨_, _, ⟨_, rfl⟩, _, _, ⟨_, rfl⟩, _, _, ⟨ledger, receipt, rfl⟩, rfl, rfl⟩ := ran
  exact ⟨rfl, bootstrapped_of_receipt stage within receipt, accounts_of_receipt receipt⟩

theorem moved_of_admin {env : SubscriptionEnv} {total used : Int} {uuid : String} (unbacked : Unbacked env.toLedgerEnv store sub)
    (ran : moveAdminBalance env sub total used uuid store = (.ok (), after)) : Moved env.toLedgerEnv sub (total - used) store after := by
  simp only [moveAdminBalance, Tx.ran_bind, Tx.ran_reject, ran_on_ledger] at ran
  obtain ⟨⟨account, snapshot⟩, _, ⟨ledger, locked, rfl⟩, _, _, ⟨_, rfl⟩, available, _, backed, ran⟩ := ran
  simp only [lockSubscriptionSnapshot, Tx.ran_bind, Tx.ran_pure, Prod.mk.injEq] at locked
  obtain ⟨_, _, ensured, _, _, lock, ⟨rfl, rfl⟩, rfl⟩ := locked
  obtain ⟨rfl, _⟩ := ran_lock_balance _ _ _ _ lock
  obtain ⟨names, stage, member, funded⟩ := unbacked.stage.opened ensured
  obtain ⟨rfl, ⟨keys, whole, only⟩, accounts⟩ := bootstrapped_of_admin stage unbacked.within backed
  have member := accounts _ member
  have bare : ∀ operationKey, resetCreditKey sub.id operationKey ∉ keys := by
    intro operationKey
    obtain ⟨rest, front⟩ := reset_key_front sub.id operationKey
    rw [front]
    exact Bootstrapped.fresh only (by decide) rest
  split at ran
  · rename_i level
    simp only [Tx.ran_pure] at ran
    obtain ⟨_, rfl⟩ := ran
    rw [level] at whole
    exact ⟨_, member, funded, names, keys, whole, bare⟩
  · simp only [Tx.ran_bind, ran_on_ledger, Tx.ran_pure] at ran
    obtain ⟨result, _, ⟨later, adjusted, rfl⟩, _, rfl⟩ := ran
    obtain ⟨more, moved, listed⟩ := whole.adjusted rfl (Bootstrapped.fresh only (by decide) uuid) adjusted
    refine ⟨_, (carried_of_adjust env.toLedgerEnv _ _ _ _ adjusted).1.accounts _ member, funded, names, more, ?_, fun operationKey bad => ?_⟩
    · have level : sub.amountTotal - sub.amountUsed - (sub.amountTotal - sub.amountUsed - (total - used)) = total - used := by omega
      rw [← level]
      exact moved
    · obtain old | new := listed _ bad
      · exact bare operationKey old
      · obtain ⟨rest, front⟩ := reset_key_front sub.id operationKey
        rw [front] at new
        exact (show Apart "subscription-admin-quota:" "subscription-reset-balance:" by decide).trim_ne (by decide) uuid rest new.symm

-- The reset after an edit meets the moved balance.
theorem whole_of_moved {env : SubscriptionEnv} {plan : SubscriptionPlan} {now level : Int} {edited result : UserSubscription} {middle : SubscriptionStore}
    (moved : Moved env.toLedgerEnv sub level store middle) (id : edited.id = sub.id) (identified : 0 < sub.id) (finite : 0 < edited.amountTotal)
    (projected : level = edited.amountTotal - edited.amountUsed) (within : 0 ≤ edited.amountUsed)
    (ran : maybeResetUserSubscriptionWithPlanTx env edited plan now middle = (.ok result, after)) :
    funds after.ledger (fundingAccountID env.toLedgerEnv store.ledger sub.id) = level + givenBack env edited now (some plan) := by
  obtain ⟨account, member, funded, names, keys, stage, bare⟩ := moved
  obtain ⟨_, _, _, _, quota⟩ := reset_of_maybe_reset env edited plan now middle after result ran
  obtain ⟨nothing, ledger, _⟩ | ⟨operationKey, owed, _, restored⟩ := quota
  · rw [ledger, ← names, stage.funds, givenBack, nothing]
    simp
  · have stood := @funding_of_member env.toLedgerEnv _ _ _ member funded
    rw [← stood, ← id] at stage
    obtain ⟨other, _, _, same, more, later, _⟩ :=
      @Stage.restored _ _ { edited with amountUsed := 0 } env operationKey level keys stage (by rw [id]; exact identified) finite
        (by dsimp only; rw [id]; exact bare operationKey) restored
    dsimp only at same
    rw [id, stood, names] at same
    have settled := later.funds
    rw [same] at settled
    rw [settled, givenBack, owed]
    dsimp only [Option.isSome_some]
    rw [if_pos rfl]
    omega

theorem whole_of_admin_edit {env : SubscriptionEnv} {input : AdminUpdate} {uuid : String} {now : Int} (unbacked : Unbacked env.toLedgerEnv store sub)
    (ran : updateAdminUserSubscriptionRuntime env sub.id input uuid now store = (.ok (), after)) :
    Whole env.toLedgerEnv sub
      (input.amountTotal - input.amountUsed - (sub.amountTotal - sub.amountUsed) +
        match planOf store.plans sub.planID with
        | some plan => givenBack env (input.apply env plan sub now) now (some plan)
        | none => 0) store.ledger after.ledger := by
  simp only [updateAdminUserSubscriptionRuntime, Tx.ran_bind, Tx.ran_reject, ran_save_subscription] at ran
  obtain ⟨_, _, ⟨identified, rfl⟩, current, _, locked, plan, _, planned, _, middle, edited, result, _, reset, rfl⟩ := ran
  obtain ⟨rfl, row, _⟩ := ran_lock_subscription _ _ locked
  obtain rfl : current = sub := Option.some.inj (row.symm.trans unbacked.row)
  obtain ⟨rfl, known⟩ := ran_plan _ _ planned
  have columns : (input.apply env plan current now).id = current.id ∧ (input.apply env plan current now).amountTotal = input.amountTotal ∧
      (input.apply env plan current now).amountUsed = input.amountUsed := by
    simp only [AdminUpdate.apply, adminResetColumns]
    split_ifs <;> exact ⟨rfl, rfl, rfl⟩
  obtain ⟨id, total, used⟩ := columns
  rw [known]
  dsimp only
  simp only [adjustAdminSubscriptionQuotaTx, Tx.ran_bind, Tx.ran_reject] at edited
  obtain ⟨_, _, ⟨valid, rfl⟩, _, _, ⟨_, rfl⟩, _, _, ⟨switched, rfl⟩, edited⟩ := edited
  have limited : current.amountTotal ≠ 0 := by
    have finite := unbacked.finite
    omega
  have kept : input.amountTotal ≠ 0 := fun zero => switched fun same => limited (same.mp zero)
  push Not at valid
  rw [if_neg kept] at edited
  simp only [Tx.ran_bind, ran_on_ledger] at edited
  obtain ⟨metadata, _, ⟨ledger, asked, rfl⟩, edited⟩ := edited
  obtain ⟨rfl, same⟩ := metadata_only asked
  cases metadata with
  | true =>
      simp only [if_true, Tx.ran_pure] at edited
      obtain ⟨_, rfl⟩ := edited
      obtain ⟨sameTotal, sameUsed⟩ := same rfl
      have stage := unbacked.stage
      have unwritten := unbacked.unwritten
      rw [← id] at stage unwritten
      have whole := whole_of_reset unwritten (reset_first (by omega) stage reset)
      intro entered
      rw [← id] at entered ⊢
      rw [saved]
      exact (whole entered).trans (by omega)
  | false =>
      simp only [Bool.false_eq_true, if_false] at edited
      intro _
      have level := whole_of_moved (moved_of_admin unbacked edited) id (not_le.mp identified) (by omega) (by omega) (by omega) reset
      rw [saved]
      dsimp only
      rw [level]
      omega

theorem whole_of_renewal {env : RenewalEnv} {purchase : Purchase} {userID now : Int} {plan : TargetPlan} {result : UserSubscription}
    (unbacked : Unbacked env.toLedgerEnv store sub) (ran : purchase.applyTx env sub.id userID plan now store = (.ok result, after)) :
    Whole env.toLedgerEnv sub (purchase.total plan sub - (sub.amountTotal - sub.amountUsed)) store.ledger after.ledger := by
  obtain ⟨_, begun⟩ := begun_of_purchase unbacked.row ran
  obtain ⟨ledger, rfl, replenished⟩ := begun.written
  simp only [replenishSubscriptionLedgerForCycleTx, Tx.ran_bind, Tx.ran_reject] at replenished
  obtain ⟨_, _, ⟨_, rfl⟩, replenished⟩ := replenished
  split at replenished
  · simp only [Tx.ran_pure] at replenished
    obtain ⟨_, rfl⟩ := replenished
    exact whole_of_unwritten unbacked.unwritten
  · rename_i owed
    simp only [Tx.ran_bind] at replenished
    obtain ⟨account, _, ensured, snapshot, _, lock, replenished⟩ := replenished
    rw [begun.id] at ensured
    obtain ⟨names, stage, _⟩ := unbacked.stage.opened ensured
    obtain ⟨rfl, rfl⟩ := ran_lock_balance _ _ _ _ lock
    rw [stage.available, if_neg owed] at replenished
    simp only [Tx.ran_bind, Tx.ran_pure] at replenished
    obtain ⟨entry, _, credited, _, rfl⟩ := replenished
    obtain ⟨moved, _⟩ := stage.credited rfl (by simp) credited
    intro _
    rw [← names]
    have total := begun.total
    have used := begun.used
    apply moved.funds.trans
    dsimp only
    omega

-- A credit under a new key is all there is on the account afterwards.
theorem credit_outcome {env : LedgerEnv} {modelName idempotencyKey reasonCode : String} {amount : Int} (unbacked : Unbacked env store sub)
    (ran : creditSubscriptionQuotaTx env sub.id modelName amount idempotencyKey reasonCode store = (.ok (), after)) :
    ((∃ entry ∈ store.ledger.entries.rows, entry.idempotencyKey = idempotencyKey) ∧ after = store) ∨
    ((¬ ∃ entry ∈ store.ledger.entries.rows, entry.idempotencyKey = idempotencyKey) ∧
      funds after.ledger (fundingAccountID env store.ledger sub.id) = amount ∧
      ∃ entry ∈ after.ledger.entries.rows, entry.accountID = fundingAccountID env store.ledger sub.id) := by
  simp only [creditSubscriptionQuotaTx, findLedgerEntryByIdempotency, Tx.ran_bind, Tx.ran_reject, ran_on_ledger, Tx.ran_view] at ran
  obtain ⟨_, _, ⟨_, rfl⟩, prior, _, ⟨_, ⟨looked, rfl⟩, rfl⟩, ran⟩ := ran
  cases prior with
  | some existing =>
      simp only [Tx.ran_reject] at ran
      obtain ⟨_, rfl⟩ := ran
      obtain ⟨member, key⟩ := Table.mem_of_find? _ _ _ looked
      exact .inl ⟨⟨existing, member, of_decide_eq_true key⟩, rfl⟩
  | none =>
      simp only [Tx.ran_bind, Tx.ran_lift, ran_on_ledger, ran_save_subscription] at ran
      obtain ⟨current, _, locked, plan, _, planned, used, _, ⟨_, rfl⟩, account, _, ⟨_, ensured, rfl⟩, entry, _, ⟨later, credited, rfl⟩, rfl⟩ := ran
      obtain ⟨rfl, row, _⟩ := ran_lock_subscription _ _ locked
      obtain ⟨rfl, _⟩ := ran_plan _ _ planned
      obtain ⟨names, stage, _⟩ := unbacked.stage.opened ensured
      obtain ⟨moved, _, entryIn, owner⟩ := stage.credited rfl (by simp) credited
      refine .inr ⟨?_, ?_, entry, entryIn, owner.trans names⟩
      · rintro ⟨known, member, key⟩
        exact of_decide_eq_false ((Table.find?_eq_none_iff _ _).mp looked known member) key
      · rw [← names]
        exact moved.funds.trans (Int.zero_add amount)

end Operations

theorem first_write_whole_iff (env : ConversionEnv) (write : LedgerWrite) (store after : SubscriptionStore) (sub : UserSubscription)
    (unbacked : Unbacked env.toLedgerEnv store sub) (ran : write.applyTx env sub.id store = (.ok (), after)) :
    Whole env.toLedgerEnv sub (write.effect env store.plans sub) store.ledger after.ledger ↔ write.Bootstraps store.ledger sub := by
  cases write with
  | credit modelName amount idempotencyKey reasonCode =>
      obtain ⟨known, rfl⟩ | ⟨unknown, level, written⟩ := credit_outcome unbacked ran
      · exact ⟨fun _ => .inr known, fun _ => whole_of_unwritten unbacked.unwritten⟩
      · constructor
        · intro whole
          have level' := (whole written).symm.trans level
          simp only [LedgerWrite.effect] at level'
          exact .inl (by omega)
        · rintro (spent | known) _
          · rw [level, spent]
            simp [LedgerWrite.effect]
          · exact (unknown known).elim
  | preConsume request known =>
      simp only [LedgerWrite.applyTx, Tx.ran_bind, Tx.ran_pure] at ran
      obtain ⟨_, _, ran, _, rfl⟩ := ran
      exact iff_of_true (whole_of_pre_consume unbacked ran) trivial
  | usageAdjustment modelName delta operationKey =>
      simp only [LedgerWrite.applyTx, Tx.ran_bind, Tx.ran_pure] at ran
      obtain ⟨_, _, ran, _, rfl⟩ := ran
      exact iff_of_true (whole_of_adjustment unbacked ran) trivial
  | bonus bonusQuota grantKey => exact iff_of_true (whole_of_bonus unbacked ran) trivial
  | fuel order now => exact iff_of_true (whole_of_fuel unbacked ran) trivial
  | conversion userID amount requestID now => exact iff_of_true (whole_of_conversion unbacked ran) trivial
  | refundHold userID amount refundNo => exact iff_of_true (whole_of_refund_hold unbacked ran) trivial
  | periodicReset now => exact iff_of_true (whole_of_periodic_reset unbacked ran) trivial
  | adminReset advanceResetTime now => exact iff_of_true (whole_of_admin_reset unbacked ran) trivial
  | adminEdit input uuid now => exact iff_of_true (whole_of_admin_edit unbacked ran) trivial
  | renewal purchase userID plan now =>
      simp only [LedgerWrite.applyTx, Tx.ran_bind, Tx.ran_pure] at ran
      obtain ⟨_, _, ran, _, rfl⟩ := ran
      exact iff_of_true (whole_of_renewal unbacked ran) trivial

-- A subscription of 100 with 10 used, from before the ledger.
def legacyStore : SubscriptionStore :=
  { heldStore 0 with ledger := Ledger.empty }

theorem legacy_store_unbacked : Unbacked tallyEnv legacyStore heldSubscription where
  sound := sound_run tallyEnv []
  traced := traced_run tallyEnv []
  row := by rfl
  finite := by decide
  nonneg := by decide
  within := by decide
  unwritten entry member := by simp [legacyStore, Ledger.empty] at member

def tallyConversionEnv : ConversionEnv := ⟨tallyRenewalEnv, id⟩

theorem legacy_store_writes (write : LedgerWrite) (writes : (write.applyTx tallyConversionEnv 1 legacyStore).1.toBool = true) :
    ∃ after, write.applyTx tallyConversionEnv 1 legacyStore = (.ok (), after) := by
  cases ran : write.applyTx tallyConversionEnv 1 legacyStore with
  | mk outcome after =>
      cases outcome with
      | error problem => simp [ran, Except.toBool] at writes
      | ok result => exact ⟨after, rfl⟩

-- A bonus of 20 finds the 90 that are left.
theorem first_write_whole_bonus : ∃ after, LedgerWrite.applyTx tallyConversionEnv 1 (.bonus 20 "grant") legacyStore = (.ok (), after) ∧
    (Whole tallyEnv heldSubscription 20 legacyStore.ledger after.ledger ↔
      LedgerWrite.Bootstraps legacyStore.ledger heldSubscription (.bonus 20 "grant")) := by
  obtain ⟨after, ran⟩ := legacy_store_writes (.bonus 20 "grant") (by decide +kernel)
  exact ⟨after, ran, first_write_whole_iff tallyConversionEnv (.bonus 20 "grant") legacyStore after heldSubscription legacy_store_unbacked ran⟩

-- A correction of 5 is all the account has, and the 90 are gone.
theorem correction_loses_remainder : ¬ ∀ (env : ConversionEnv) (write : LedgerWrite) (store after : SubscriptionStore) (sub : UserSubscription),
    Unbacked env.toLedgerEnv store sub → write.applyTx env sub.id store = (.ok (), after) →
      Whole env.toLedgerEnv sub (write.effect env store.plans sub) store.ledger after.ledger := by
  intro every
  obtain ⟨after, ran⟩ := legacy_store_writes (.credit "" 5 "correction" "multiplier") (by decide +kernel)
  have whole := every tallyConversionEnv _ legacyStore after heldSubscription legacy_store_unbacked ran
  obtain ⟨⟨entry, member, _⟩, _⟩ | ⟨_, level, written⟩ := credit_outcome legacy_store_unbacked ran
  · simp [legacyStore, Ledger.empty] at member
  · have lost := (whole written).symm.trans level
    simp only [LedgerWrite.effect, heldSubscription] at lost
    omega

end CodeGo.Subscription
