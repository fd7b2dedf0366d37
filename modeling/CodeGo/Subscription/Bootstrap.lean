import CodeGo.Subscription.Stages

set_option autoImplicit false

namespace CodeGo.Subscription

open Relational Text Billing Machine Renewal

/- Whichever operation writes to the account of a subscription first has to bring along what
   the projection has left. -/

def funds (ledger : Ledger) (accountID : String) : Int :=
  (ledger.balance accountID).availableBalance + (ledger.balance accountID).reservedBalance

-- With an entry on the account, the account carries what the projection had left and the effect.
def Whole (env : LedgerEnv) (sub : UserSubscription) (effect : Int) (ledger after : Ledger) : Prop :=
  (∃ entry ∈ after.entries.rows, entry.accountID = fundingAccountID env ledger sub.id) →
    funds after (fundingAccountID env ledger sub.id) = sub.amountTotal - sub.amountUsed + effect

-- The account after what the projection has left has been brought in, and nothing else.
def Bootstrapped (ledger : Ledger) (accountID : String) (sub : UserSubscription) : Prop :=
  ∃ keys, Stage ledger accountID (sub.amountTotal - sub.amountUsed) keys ∧
    ∀ key ∈ keys, key = bootstrapKey sub.id ∨ key = trimSpace (bootstrapKey sub.id)

theorem bootstrap_key_apart {front : String} (apart : Apart "subscription-bootstrap:" front) (subscriptionID : Int) (rest : String) :
    ¬ (front ++ rest = bootstrapKey subscriptionID ∨ front ++ rest = trimSpace (bootstrapKey subscriptionID)) := by
  rintro (same | same)
  · exact apart.ne _ _ same.symm
  · exact apart.trim_ne (by decide) _ _ same.symm

theorem Bootstrapped.fresh {keys : List String} {sub : UserSubscription} {front : String}
    (only : ∀ key ∈ keys, key = bootstrapKey sub.id ∨ key = trimSpace (bootstrapKey sub.id)) (apart : Apart "subscription-bootstrap:" front)
    (rest : String) : front ++ rest ∉ keys :=
  fun member => bootstrap_key_apart apart sub.id rest (only _ member)

theorem Stage.funds {ledger : Ledger} {accountID : String} {available : Int} {keys : List String} (stage : Stage ledger accountID available keys) :
    funds ledger accountID = available := by
  rw [Subscription.funds, stage.available, stage.reserved, Int.add_zero]

section Bootstraps

variable {env : LedgerEnv} {ledger after : Ledger} {accountID : String} {sub : UserSubscription}

theorem bootstrapped_of_credit {params : CreditAccountParams} {entry : BillingLedgerEntry} (stage : Stage ledger accountID 0 [])
    (on : params.accountID = accountID) (whole : params.amount = sub.amountTotal - sub.amountUsed)
    (key : params.idempotencyKey = bootstrapKey sub.id) (ran : creditAccountTx env params ledger = (.ok entry, after)) :
    Bootstrapped after accountID sub := by
  obtain ⟨credited, _⟩ := stage.credited on (by simp) ran
  rw [whole, key, Int.zero_add] at credited
  refine ⟨_, credited, fun listed member => .inr ?_⟩
  rwa [List.mem_singleton] at member

theorem bootstrapped_of_nothing (stage : Stage ledger accountID 0 []) (within : sub.amountUsed ≤ sub.amountTotal)
    (nothing : ¬ 0 < sub.amountTotal - sub.amountUsed) : Bootstrapped ledger accountID sub := by
  have spent : sub.amountTotal - sub.amountUsed = 0 := by omega
  refine ⟨[], ?_, fun key member => by simp at member⟩
  rw [spent]
  exact stage

theorem bootstrapped_of_projection {operatorType operatorID : String} (stage : Stage ledger accountID 0 [])
    (within : sub.amountUsed ≤ sub.amountTotal) (ran : bootstrapProjection env sub accountID operatorType operatorID ledger = (.ok (), after)) :
    Bootstrapped after accountID sub := by
  simp only [bootstrapProjection, Tx.ran_bind] at ran
  obtain ⟨backed, _, asked, ran⟩ := ran
  obtain ⟨rfl, rfl⟩ := stage.backed asked
  split at ran
  · simp only [Tx.ran_bind, Tx.ran_pure] at ran
    obtain ⟨entry, _, credited, _, rfl⟩ := ran
    exact bootstrapped_of_credit stage rfl rfl rfl credited
  · rename_i nothing
    simp only [Tx.ran_pure] at ran
    obtain ⟨_, rfl⟩ := ran
    exact bootstrapped_of_nothing stage within fun left => nothing ⟨rfl, left⟩

theorem bootstrapped_of_subscription {env : SubscriptionEnv} {requestID : String} {account : BillingAccount}
    (stage : Stage ledger (fundingAccountID env.toLedgerEnv ledger sub.id) 0 []) (within : sub.amountUsed ≤ sub.amountTotal)
    (ran : bootstrapSubscription env sub requestID ledger = (.ok account, after)) :
    account.accountID = fundingAccountID env.toLedgerEnv ledger sub.id ∧ Bootstrapped after account.accountID sub := by
  simp only [bootstrapSubscription, Tx.ran_bind] at ran
  obtain ⟨opened, _, ensured, backed, _, asked, ran⟩ := ran
  obtain ⟨names, stage, _⟩ := stage.opened ensured
  obtain ⟨rfl, rfl⟩ := stage.backed asked
  split at ran
  · rename_i nothing
    simp only [Tx.ran_pure] at ran
    obtain ⟨rfl, rfl⟩ := ran
    exact ⟨names, bootstrapped_of_nothing stage within (by simpa using nothing)⟩
  · simp only [Tx.ran_bind, Tx.ran_pure] at ran
    obtain ⟨entry, _, credited, rfl, rfl⟩ := ran
    exact ⟨names, bootstrapped_of_credit stage rfl rfl rfl credited⟩

theorem bootstrapped_of_receipt {env : SubscriptionEnv} {account : BillingAccount} {operatorType : String}
    (stage : Stage ledger account.accountID 0 []) (within : sub.amountUsed ≤ sub.amountTotal)
    (ran : bootstrapReceipt env sub account operatorType ledger = (.ok (), after)) : Bootstrapped after account.accountID sub := by
  simp only [bootstrapReceipt] at ran
  split at ran
  · simp only [Tx.ran_bind, Tx.ran_pure] at ran
    obtain ⟨entry, _, credited, _, rfl⟩ := ran
    exact bootstrapped_of_credit stage rfl rfl rfl credited
  · rename_i nothing
    simp only [Tx.ran_bind, Tx.ran_pure] at ran
    obtain ⟨entry, _, recorded, _, rfl⟩ := ran
    have spent : sub.amountTotal - sub.amountUsed = 0 := by omega
    obtain ⟨keys, stage, only⟩ := stage.recorded recorded
    refine ⟨keys, ?_, fun key member => .inl ((only key member).resolve_left (by simp))⟩
    rw [spent]
    exact stage

theorem bootstrapped_of_refund {refundNo : String} (stage : Stage ledger accountID 0 []) (within : sub.amountUsed ≤ sub.amountTotal)
    (ran : bootstrapRefund env sub accountID refundNo ledger = (.ok (), after)) : Bootstrapped after accountID sub := by
  simp only [bootstrapRefund, Tx.ran_bind] at ran
  obtain ⟨backed, _, asked, ran⟩ := ran
  obtain ⟨rfl, rfl⟩ := stage.backed asked
  simp only [Bool.false_eq_true, if_false, Tx.ran_bind, Tx.ran_pure] at ran
  obtain ⟨entry, _, credited, _, rfl⟩ := ran
  exact bootstrapped_of_credit stage rfl (by dsimp only; omega) rfl credited

-- A reset of a stage that stands below the quota takes it up to the quota.
theorem Stage.restored {env : SubscriptionEnv} {operationKey : String} {available : Int} {keys : List String}
    (stage : Stage ledger (fundingAccountID env.toLedgerEnv ledger sub.id) available keys) (identified : 0 < sub.id) (finite : 0 < sub.amountTotal)
    (fresh : resetCreditKey sub.id operationKey ∉ keys) (ran : restoreSubscriptionLedgerBalanceAfterResetTx env sub operationKey ledger = (.ok (), after)) :
    ∃ account ∈ after.accounts.rows, FundedBy account sub.id ∧ account.accountID = fundingAccountID env.toLedgerEnv ledger sub.id ∧
      ∃ more, Stage after account.accountID (max available (sub.amountTotal - sub.amountUsed)) more ∧
        (available < sub.amountTotal - sub.amountUsed → ∃ entry ∈ after.entries.rows, entry.accountID = account.accountID ∧ ¬ Blank account.accountID) := by
  simp only [restoreSubscriptionLedgerBalanceAfterResetTx, if_neg (show ¬ (sub.id ≤ 0 ∨ sub.amountTotal ≤ 0) by omega), Tx.ran_bind] at ran
  obtain ⟨account, _, ensured, snapshot, _, locked, ran⟩ := ran
  obtain ⟨names, stage, member, funded⟩ := stage.opened ensured
  obtain ⟨rfl, rfl⟩ := ran_lock_balance _ _ _ _ locked
  simp only [stage.available, stage.reserved] at ran
  split at ran
  · rename_i level
    simp only [Tx.ran_pure] at ran
    obtain ⟨_, rfl⟩ := ran
    refine ⟨account, member, funded, names, keys, ?_, fun short => by omega⟩
    rw [max_eq_left (by omega)]
    exact stage
  · rename_i short
    simp only [Tx.ran_bind, Tx.ran_pure] at ran
    obtain ⟨entry, _, credited, _, rfl⟩ := ran
    have named : ¬ Blank account.accountID := by
      have posted := credited
      simp only [creditAccountTx, Tx.ran_bind, Tx.ran_reject] at posted
      obtain ⟨_, _, ⟨present, _⟩, _⟩ := posted
      exact fun blank => present (.inl blank)
    obtain ⟨stage, accounts, entryIn, owner⟩ := stage.credited rfl fresh credited
    refine ⟨account, accounts ▸ member, funded, names, trimSpace (resetCreditKey sub.id operationKey) :: keys, ?_,
      fun _ => ⟨entry, entryIn, owner, named⟩⟩
    have target : available + (sub.amountTotal - sub.amountUsed - 0 - available) = max available (sub.amountTotal - sub.amountUsed) := by omega
    rw [← target]
    exact stage

theorem restored_unidentified {env : SubscriptionEnv} {operationKey : String} (unidentified : ¬ 0 < sub.id)
    (ran : restoreSubscriptionLedgerBalanceAfterResetTx env sub operationKey ledger = (.ok (), after)) : ledger = after := by
  rw [restoreSubscriptionLedgerBalanceAfterResetTx, if_pos (.inl (not_lt.mp unidentified))] at ran
  exact (Prod.mk.inj ran).2

end Bootstraps

end CodeGo.Subscription
