import CodeGo.Subscription.Carry
import Mathlib.Logic.Relation

set_option autoImplicit false

namespace CodeGo.Subscription

open Relational Text Billing

/- The invariant of the store, the alignment of one subscription with its account, and what
   the reads and writes of the transactions do to both. -/

def SubscriptionStore.subscription (store : SubscriptionStore) (subscriptionID : Int) : Option UserSubscription :=
  store.subscriptions.find? fun row => row.id = subscriptionID

def SubscriptionStore.record (store : SubscriptionStore) (requestID : String) : Option SubscriptionPreConsumeRecord :=
  store.records.find? fun row => row.requestID = requestID

theorem saved_index (sub row : UserSubscription) : Indexed.index { sub with id := row.id } = Indexed.index row := rfl

def saved (store : SubscriptionStore) (sub : UserSubscription) : SubscriptionStore :=
  { store with subscriptions := store.subscriptions.update (fun row => row.id = sub.id) (fun row => { sub with id := row.id }) (saved_index sub) }

theorem saved_record_index (record row : SubscriptionPreConsumeRecord) :
    Indexed.index { record with requestID := row.requestID } = Indexed.index row := rfl

def savedRecord (store : SubscriptionStore) (record : SubscriptionPreConsumeRecord) : SubscriptionStore :=
  { store with
    records := store.records.update (fun row => row.requestID = record.requestID)
      (fun row => { record with requestID := row.requestID }) (saved_record_index record) }

section Reads

variable {store after : SubscriptionStore}

theorem ran_on_ledger {α : Type} (work : LedgerTx α) (result : α) :
    onLedger work store = (.ok result, after) ↔ ∃ ledger, work store.ledger = (.ok result, ledger) ∧ after = { store with ledger } := by
  rw [onLedger, Tx.ran_zoom]
  simp only [Tx.ran_with_error]
  exact exists_congr fun ledger => and_congr_right fun _ => eq_comm

@[simp] theorem ran_save_subscription (sub : UserSubscription) (result : Unit) :
    saveSubscription sub store = (.ok result, after) ↔ saved store sub = after := by
  simp [saveSubscription, saved]

@[simp] theorem ran_save_record (record : SubscriptionPreConsumeRecord) (result : Unit) :
    saveRecord record store = (.ok result, after) ↔ savedRecord store record = after := by
  simp [saveRecord, savedRecord]

@[simp] theorem ran_find_record (requestID : String) (found : Option SubscriptionPreConsumeRecord) :
    findRecord requestID store = (.ok found, after) ↔ store.record requestID = found ∧ store = after := by
  simp [findRecord, SubscriptionStore.record]

theorem ran_lock_subscription (subscriptionID : Int) (sub : UserSubscription)
    (ran : lockUserSubscriptionRecordTx subscriptionID store = (.ok sub, after)) :
    store = after ∧ store.subscription subscriptionID = some sub ∧ sub.id = subscriptionID := by
  simp only [lockUserSubscriptionRecordTx, Tx.ran_bind, Tx.ran_view] at ran
  obtain ⟨_, _, ⟨rfl, rfl⟩, ran⟩ := ran
  cases looked : store.subscriptions.find? fun row => row.id = subscriptionID with
  | none => simp only [looked, Tx.ran_fail] at ran
  | some found =>
      simp only [looked, Tx.ran_pure] at ran
      obtain ⟨rfl, rfl⟩ := ran
      exact ⟨rfl, looked, by simpa using (Table.mem_of_find? _ _ _ looked).2⟩

theorem ran_lock_record (requestID : String) (record : SubscriptionPreConsumeRecord)
    (ran : lockRecord requestID store = (.ok record, after)) :
    store = after ∧ store.record requestID = some record ∧ record.requestID = requestID := by
  simp only [lockRecord, Tx.ran_bind, ran_find_record] at ran
  obtain ⟨found, _, ⟨looked, rfl⟩, ran⟩ := ran
  cases found with
  | none => simp only [Tx.ran_fail] at ran
  | some record =>
      simp only [Tx.ran_pure] at ran
      obtain ⟨rfl, rfl⟩ := ran
      exact ⟨rfl, looked, by simpa using (Table.mem_of_find? _ _ _ looked).2⟩

theorem ran_plan (planID : Int) (plan : SubscriptionPlan) (ran : getSubscriptionPlanRecordTx planID store = (.ok plan, after)) :
    store = after ∧ planOf store.plans planID = some plan := by
  simp only [getSubscriptionPlanRecordTx, Tx.ran_bind, Tx.ran_reject, Tx.ran_view] at ran
  obtain ⟨_, _, ⟨positive, rfl⟩, _, _, ⟨rfl, rfl⟩, ran⟩ := ran
  cases looked : store.plans.find? fun plan => plan.id = planID with
  | none => simp only [looked, Tx.ran_fail] at ran
  | some found =>
      simp only [looked, Tx.ran_pure] at ran
      obtain ⟨rfl, rfl⟩ := ran
      exact ⟨rfl, by rw [planOf, if_neg positive, looked]⟩

theorem ran_create_record (record : SubscriptionPreConsumeRecord) (result : Unit)
    (ran : createRecord record store = (.ok result, after)) :
    ∃ records, after = { store with records } ∧ records.rows = store.records.rows ++ [record] := by
  simp only [createRecord, Tx.ran_bind, Tx.ran_view] at ran
  obtain ⟨_, _, ⟨rfl, rfl⟩, ran⟩ := ran
  cases inserted : store.records.insert? record with
  | none => simp only [inserted, Tx.ran_fail] at ran
  | some records =>
      simp only [inserted, Tx.ran_edit] at ran
      exact ⟨records, ran.symm, ((Table.insert?_eq_some_iff _ _ _).mp inserted).2⟩

theorem ran_lock_balance (accountID : String) (ledger later : Ledger) (snapshot : BillingBalanceSnapshot)
    (ran : lockBalanceSnapshot accountID ledger = (.ok snapshot, later)) : ledger = later ∧ snapshot = ledger.balance accountID := by
  simp only [lockBalanceSnapshot, findSnapshot, Tx.ran_bind, Tx.ran_view] at ran
  obtain ⟨_, _, ⟨rfl, rfl⟩, ran⟩ := ran
  cases looked : ledger.snapshots.find? fun row => row.accountID = accountID with
  | none => simp only [looked, Tx.ran_fail] at ran
  | some found =>
      simp only [looked, Tx.ran_pure] at ran
      obtain ⟨rfl, rfl⟩ := ran
      exact ⟨rfl, by simp [Ledger.balance, balanceOf, looked]⟩

theorem ran_has_entries (accountID : String) (ledger later : Ledger) (result : Bool)
    (ran : subscriptionLedgerHasEntriesTx accountID ledger = (.ok result, later)) :
    ledger = later ∧ (result = true ↔ ¬ Blank accountID ∧ ∃ entry ∈ ledger.entries.rows, entry.accountID = accountID) := by
  simp only [subscriptionLedgerHasEntriesTx, Tx.ran_view] at ran
  obtain ⟨rfl, rfl⟩ := ran
  refine ⟨rfl, ?_⟩
  simp [Table.find?, List.find?_isSome]

end Reads

theorem saved_subscription (store : SubscriptionStore) (sub : UserSubscription) (subscriptionID : Int) :
    (saved store sub).subscription subscriptionID =
      if subscriptionID = sub.id then (store.subscription subscriptionID).map fun _ => sub else store.subscription subscriptionID := by
  have updated := Table.find?_update store.subscriptions (fun row => row.id = sub.id) (fun row => row.id = subscriptionID)
    (fun row => { sub with id := row.id }) (fun _ => rfl) (fun _ => rfl)
  rw [SubscriptionStore.subscription, saved, updated]
  cases looked : store.subscription subscriptionID with
  | none =>
      rw [SubscriptionStore.subscription] at looked
      simp [looked]
  | some row =>
      have names : row.id = subscriptionID := by simpa using (Table.mem_of_find? _ _ _ looked).2
      rw [SubscriptionStore.subscription] at looked
      subst names
      simp only [looked, Option.map_some, decide_eq_true_eq]
      split_ifs with same
      · rw [same]
      · rfl

section Projection

variable {plan : SubscriptionPlan} {sub used : UserSubscription} {modelName : String} {delta : Int}

-- Each part of the projection changes its own columns.
theorem used_of_total (applied : applyTotalUsage sub delta = .ok used) : used = { sub with amountUsed := max (sub.amountUsed + delta) 0 } := by
  rw [applyTotalUsage] at applied
  split at applied
  · exact nomatch applied
  · exact (Except.ok.inj applied).symm

theorem used_of_period (applied : applyPeriodUsage plan sub delta = .ok used) : used = { sub with periodUsed := used.periodUsed } := by
  rw [applyPeriodUsage] at applied
  split at applied
  · rw [← Except.ok.inj applied]
  · dsimp only at applied
    split at applied
    · exact nomatch applied
    · rw [← Except.ok.inj applied]

theorem used_of_model (applied : applyModelUsage sub modelName delta = .ok used) : used = { sub with modelUsage := used.modelUsage } := by
  rw [applyModelUsage] at applied
  dsimp only at applied
  split at applied
  · rw [← Except.ok.inj applied]
  · split at applied
    · exact nomatch applied
    · rw [← Except.ok.inj applied]

theorem used_of_delta (applied : applySubscriptionUsageDelta plan sub modelName delta = .ok used) :
    used = { sub with
      amountUsed := if delta = 0 then sub.amountUsed else max (sub.amountUsed + delta) 0,
      periodUsed := used.periodUsed, modelUsage := used.modelUsage } := by
  rw [applySubscriptionUsageDelta] at applied
  split at applied
  · rename_i still
    rw [← Except.ok.inj applied, if_pos still]
  · rename_i moves
    simp only [Bind.bind, Except.bind] at applied
    split at applied
    · exact nomatch applied
    · rename_i total counted
      split at applied
      · exact nomatch applied
      · rename_i period timed
        rw [used_of_model applied, used_of_period timed, used_of_total counted, if_neg moves]

end Projection

section Reads

variable {store : SubscriptionStore} {planID : Int}

theorem plan_ran {plan : SubscriptionPlan} (found : planOf store.plans planID = some plan) : getSubscriptionPlanRecordTx planID store = (.ok plan, store) := by
  rw [planOf] at found
  split at found
  · exact nomatch found
  · rename_i positive
    rw [getSubscriptionPlanRecordTx, Tx.bind_accepted positive, Tx.bind_view, found]
    rfl

theorem plan_missing (missing : planOf store.plans planID = none) : ∃ problem, getSubscriptionPlanRecordTx planID store = (.error problem, store) := by
  rw [planOf] at missing
  rw [getSubscriptionPlanRecordTx]
  split at missing
  · rename_i invalid
    exact ⟨_, Tx.bind_rejected invalid _ _ _⟩
  · rename_i positive
    rw [Tx.bind_accepted positive, Tx.bind_view, missing]
    exact ⟨_, rfl⟩

theorem subscription_ran {subscriptionID : Int} {sub : UserSubscription} (found : store.subscription subscriptionID = some sub) :
    lockUserSubscriptionRecordTx subscriptionID store = (.ok sub, store) := by
  rw [SubscriptionStore.subscription] at found
  rw [lockUserSubscriptionRecordTx, Tx.bind_view, found]
  rfl

end Reads

-- How the projection takes a charge that differs from its holds: it is saved, or nothing is written.
theorem post_consume_outcome {store : SubscriptionStore} {subscriptionID : Int} {sub : UserSubscription}
    (found : store.subscription subscriptionID = some sub) (modelName : String) (delta : Int) :
    (∃ plan used, planOf store.plans sub.planID = some plan ∧ applySubscriptionUsageDelta plan sub modelName delta = .ok used ∧
      postConsumeUserSubscriptionUsageDeltaTx subscriptionID modelName delta store = (.ok (), saved store used)) ∨
    ((∀ plan, planOf store.plans sub.planID = some plan → ∃ problem, applySubscriptionUsageDelta plan sub modelName delta = .error problem) ∧
      ∃ problem, postConsumeUserSubscriptionUsageDeltaTx subscriptionID modelName delta store = (.error problem, store)) := by
  rw [postConsumeUserSubscriptionUsageDeltaTx, Tx.bind_ran (subscription_ran found)]
  cases planned : planOf store.plans sub.planID with
  | none =>
      obtain ⟨problem, failed⟩ := plan_missing planned
      exact .inr ⟨by simp, problem, Tx.bind_failed failed _⟩
  | some plan =>
      rw [Tx.bind_ran (plan_ran planned)]
      cases applied : applySubscriptionUsageDelta plan sub modelName delta with
      | error problem =>
          refine .inr ⟨fun other same => ⟨problem, ?_⟩, problem, rfl⟩
          rw [← Option.some.inj same, applied]
      | ok used => exact .inl ⟨plan, used, rfl, applied, rfl⟩

-- The account that backs a subscription once its first entry is written.
structure Backed (ledger : Ledger) (account : BillingAccount) (subscriptionID : Int) : Prop where
  member : account ∈ ledger.accounts.rows
  funds : FundedBy account subscriptionID
  named : ¬ Blank account.accountID
  entered : ∃ entry ∈ ledger.entries.rows, entry.accountID = account.accountID

theorem Backed.carried {ledger after : Ledger} {account : BillingAccount} {subscriptionID : Int} (backed : Backed ledger account subscriptionID)
    (accounts : ∀ account ∈ ledger.accounts.rows, account ∈ after.accounts.rows) (entries : ∀ entry ∈ ledger.entries.rows, entry ∈ after.entries.rows) :
    Backed after account subscriptionID := by
  obtain ⟨entry, entryIn, names⟩ := backed.entered
  exact ⟨accounts account backed.member, backed.funds, backed.named, entry, entries entry entryIn, names⟩

end CodeGo.Subscription
