import CodeGo.Subscription.Books

set_option autoImplicit false

namespace CodeGo.Subscription

open Relational Text Billing

/- Resets lower the projection first and restore the balance of the account up to what the
   lowered projection leaves besides the open holds. -/

def resetCreditKey (subscriptionID : Int) (operationKey : String) : String :=
  "subscription-reset-balance:" ++ toString subscriptionID ++ ":" ++ operationKey

-- The operation key of the reset that gives a whole quota back, when one is owed.
def legacyReset (env : SubscriptionEnv) (plan : SubscriptionPlan) (sub : UserSubscription) (now : Int) : Option String :=
  if UsesLegacySubscriptionPeriodicQuota plan sub then (dueReset env.calendar plan sub now).map fun due => periodicResetKey sub.id due.1
  else none

-- The columns a reset leaves alone, as far as anything here reads them again.
structure SameSubscription (first second : UserSubscription) : Prop where
  id : second.id = first.id
  userID : second.userID = first.userID
  planID : second.planID = first.planID
  granted : second.creditPackGrantedQuota = first.creditPackGrantedQuota
  total : second.amountTotal = first.amountTotal
  limits : second.modelLimits = first.modelLimits

theorem SameSubscription.refl (sub : UserSubscription) : SameSubscription sub sub := ⟨rfl, rfl, rfl, rfl, rfl, rfl⟩

structure Reset (env : SubscriptionEnv) (plan : SubscriptionPlan) (sub : UserSubscription) (now : Int) (store : SubscriptionStore)
    (result : UserSubscription) (after : SubscriptionStore) : Prop where
  same : SameSubscription sub result
  records : after.records = store.records
  plans : after.plans = store.plans
  rows : (after.subscriptions = store.subscriptions ∧ result = sub) ∨ after.subscriptions = (saved store result).subscriptions
  quota : (legacyReset env plan sub now = none ∧ after.ledger = store.ledger ∧ result.amountUsed = sub.amountUsed) ∨
    ∃ operationKey, legacyReset env plan sub now = some operationKey ∧ result.amountUsed = 0 ∧
      restoreSubscriptionLedgerBalanceAfterResetTx env { sub with amountUsed := 0 } operationKey store.ledger = (.ok (), after.ledger)

theorem reset_of_maybe_reset (env : SubscriptionEnv) (sub : UserSubscription) (plan : SubscriptionPlan) (now : Int)
    (store after : SubscriptionStore) (result : UserSubscription)
    (ran : maybeResetUserSubscriptionWithPlanTx env sub plan now store = (.ok result, after)) : Reset env plan sub now store result after := by
  simp only [maybeResetUserSubscriptionWithPlanTx] at ran
  cases due : dueReset env.calendar plan sub now with
  | none =>
      have nothing : legacyReset env plan sub now = none := by simp [legacyReset, due]
      simp only [due] at ran
      split at ran
      · simp only [Tx.ran_bind, ran_save_subscription, Tx.ran_pure] at ran
        obtain ⟨_, _, rfl, rfl, rfl⟩ := ran
        exact ⟨⟨rfl, rfl, rfl, rfl, rfl, rfl⟩, rfl, rfl, .inr rfl, .inl ⟨nothing, rfl, rfl⟩⟩
      · simp only [Tx.ran_pure] at ran
        obtain ⟨rfl, rfl⟩ := ran
        exact ⟨.refl _, rfl, rfl, .inl ⟨rfl, rfl⟩, .inl ⟨nothing, rfl, rfl⟩⟩
  | some passed =>
      obtain ⟨base, following⟩ := passed
      simp only [due, clearPeriod, Tx.ran_bind, ran_save_subscription, Tx.ran_pure] at ran
      obtain ⟨cleared, middle, emptied, _, _, rfl, rfl, rfl⟩ := ran
      split at emptied
      · rename_i legacy
        simp only [Tx.ran_bind, ran_on_ledger, Tx.ran_pure] at emptied
        obtain ⟨_, _, ⟨ledger, restored, rfl⟩, rfl, rfl⟩ := emptied
        have owed : legacyReset env plan sub now = some (periodicResetKey sub.id base) := by simp [legacyReset, due, legacy]
        exact ⟨⟨rfl, rfl, rfl, rfl, rfl, rfl⟩, rfl, rfl, .inr rfl, .inr ⟨_, owed, rfl, restored⟩⟩
      · rename_i other
        simp only [Tx.ran_pure] at emptied
        obtain ⟨rfl, rfl⟩ := emptied
        have nothing : legacyReset env plan sub now = none := by simp [legacyReset, other]
        exact ⟨⟨rfl, rfl, rfl, rfl, rfl, rfl⟩, rfl, rfl, .inr rfl, .inl ⟨nothing, rfl, rfl⟩⟩

end CodeGo.Subscription
