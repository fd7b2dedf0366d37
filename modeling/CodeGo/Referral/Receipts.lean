import CodeGo.Lib.Rounding
import CodeGo.Marketplace.Pending
import CodeGo.Referral.Rebate
import CodeGo.Wallet.Attribution

set_option autoImplicit false

namespace CodeGo.Referral

open Relational Text Rounding Billing Marketplace

abbrev ReferralStore.ledger (store : ReferralStore) : Ledger := store.market.wallet.ledger

@[simp] theorem ran_on_market {α : Type} (work : MarketTx α) (store after : ReferralStore) (result : α) :
    onMarket work store = (.ok result, after) ↔ ∃ market, work store.market = (.ok result, market) ∧ { store with market } = after := by
  rw [onMarket, Tx.ran_zoom]
  simp only [Tx.ran_with_error]

@[simp] theorem ran_first {α : Type} (select : ReferralStore → Option α) (store after : ReferralStore) (row : α) :
    first select store = (.ok row, after) ↔ select store = some row ∧ store = after := by
  simp only [first, Tx.ran_bind, Tx.ran_view]
  constructor
  · rintro ⟨_, _, ⟨rfl, rfl⟩, answered⟩
    cases looked : select store with
    | none => simp [looked] at answered
    | some found => simpa [looked] using answered
  · rintro ⟨looked, rfl⟩
    exact ⟨_, _, ⟨rfl, rfl⟩, by simp [looked]⟩

-- What the checks in front of a receipt have established about its subject.
structure Qualified (store : ReferralStore) (event : BillingOutboxEvent) (subject : ReferralSubject) : Prop where
  named : subject.settlement.settlementID = event.aggregateID
  settled : subject.settlement ∈ store.ledger.settlements.rows
  positive : 0 < subject.settlement.actualAmount
  reserved : subject.reservation ∈ store.ledger.reservations.rows
  linked : subject.reservation.reservationID = subject.settlement.reservationID
  closed : subject.reservation.status = .settled
  held : subject.account ∈ store.ledger.accounts.rows
  holder : subject.account.accountID = subject.reservation.accountID
  pack : subject.account.ownerType = "user_subscription" →
    (store.market.subscriptions.find? fun row => row.id = subject.account.ownerID) = some subject.subscription
  rate : 0 < subject.program.rateBPS ∧ subject.program.rateBPS ≤ 10000
  unpaid : ∀ receipt ∈ store.receipts.rows, receipt.settlementID ≠ subject.settlement.settlementID

theorem ran_settled_use (event : BillingOutboxEvent) (store after : ReferralStore) (settlement : BillingSettlement)
    (reservation : BillingReservation) (account : BillingAccount)
    (ran : settledUse event store = (.ok (some (settlement, reservation, account)), after)) :
    store = after ∧ settlement.settlementID = event.aggregateID ∧ settlement ∈ store.ledger.settlements.rows ∧ 0 < settlement.actualAmount ∧
      reservation ∈ store.ledger.reservations.rows ∧ reservation.reservationID = settlement.reservationID ∧ reservation.status = .settled ∧
      account ∈ store.ledger.accounts.rows ∧ account.accountID = reservation.accountID := by
  unfold settledUse at ran
  split at ran
  · simp at ran
  · simp only [Tx.ran_bind, ran_first] at ran
    obtain ⟨found, _, ⟨settled, rfl⟩, ran⟩ := ran
    split at ran
    · simp at ran
    · rename_i completed
      simp only [Tx.ran_bind, ran_first] at ran
      obtain ⟨held, _, ⟨reserved, rfl⟩, ran⟩ := ran
      split at ran
      · simp at ran
      · rename_i closed
        simp only [Tx.ran_bind, ran_first, Tx.ran_pure, Option.some.injEq, Prod.mk.injEq] at ran
        obtain ⟨owner, _, ⟨owned, rfl⟩, ⟨rfl, rfl, rfl⟩, rfl⟩ := ran
        have settledRow := Table.mem_of_find? _ _ _ settled
        have reservedRow := Table.mem_of_find? _ _ _ reserved
        have ownedRow := Table.mem_of_find? _ _ _ owned
        push Not at completed closed
        exact ⟨rfl, of_decide_eq_true settledRow.2, settledRow.1, completed.2, reservedRow.1, of_decide_eq_true reservedRow.2, closed,
          ownedRow.1, of_decide_eq_true ownedRow.2⟩

theorem ran_relay_invitee (account : BillingAccount) (settlement : BillingSettlement) (store after : ReferralStore) (inviteeID : Int)
    (subscription : UserSubscription) (ran : relayInvitee account settlement store = (.ok (some (inviteeID, subscription)), after)) :
    store = after ∧ (account.ownerType = "user_subscription" →
      (store.market.subscriptions.find? fun row => row.id = account.ownerID) = some subscription) := by
  unfold relayInvitee at ran
  split at ran
  · rename_i wallet
    rw [Tx.ran_pure] at ran
    refine ⟨ran.2, fun pack => ?_⟩
    rw [wallet.1] at pack
    exact absurd pack (by decide)
  · split at ran
    · simp only [Tx.ran_bind, ran_first, Tx.ran_pure, Option.some.injEq, Prod.mk.injEq] at ran
      obtain ⟨found, _, ⟨looked, rfl⟩, ⟨_, rfl⟩, rfl⟩ := ran
      exact ⟨rfl, fun _ => looked⟩
    · simp at ran

theorem ran_active_program (consumedAt : Int) (store after : ReferralStore) (program : ReferralRebateProgram)
    (ran : activeProgram consumedAt store = (.ok (some program), after)) : store = after ∧ 0 < program.rateBPS ∧ program.rateBPS ≤ 10000 := by
  simp only [activeProgram, Tx.ran_bind, Tx.ran_view] at ran
  obtain ⟨_, _, ⟨rfl, rfl⟩, ran⟩ := ran
  cases looked : store.program with
  | none => simp [looked] at ran
  | some found =>
      simp only [looked, Tx.ran_bind, Tx.ran_reject] at ran
      obtain ⟨_, _, ⟨valid, rfl⟩, ran⟩ := ran
      push Not at valid
      split at ran
      · simp at ran
      · simp only [Tx.ran_pure, Option.some.injEq] at ran
        obtain ⟨rfl, rfl⟩ := ran
        exact ⟨rfl, valid.1, valid.2.1⟩

theorem read_only_first {α : Type} (select : ReferralStore → Option α) : Tx.ReadOnly (first select) := by
  refine Tx.read_only_bind (Tx.read_only_view _) fun found => ?_
  cases found with
  | none => exact Tx.read_only_fail _
  | some row => exact Tx.read_only_pure _

theorem read_only_settled_use (event : BillingOutboxEvent) : Tx.ReadOnly (settledUse event) := by
  unfold settledUse
  split
  · exact Tx.read_only_pure _
  · refine Tx.read_only_bind (read_only_first _) fun settlement => ?_
    split
    · exact Tx.read_only_pure _
    · refine Tx.read_only_bind (read_only_first _) fun reservation => ?_
      split
      · exact Tx.read_only_pure _
      · exact Tx.read_only_bind (read_only_first _) fun account => Tx.read_only_pure _

theorem read_only_relay_invitee (account : BillingAccount) (settlement : BillingSettlement) : Tx.ReadOnly (relayInvitee account settlement) := by
  unfold relayInvitee
  split
  · exact Tx.read_only_pure _
  · split
    · exact Tx.read_only_bind (read_only_first _) fun subscription => Tx.read_only_pure _
    · exact Tx.read_only_pure _

theorem read_only_active_program (consumedAt : Int) : Tx.ReadOnly (activeProgram consumedAt) := by
  refine Tx.read_only_bind (Tx.read_only_view _) fun found => ?_
  cases found with
  | none => exact Tx.read_only_fail _
  | some program =>
      refine Tx.read_only_bind (Tx.read_only_reject _ _) fun _ => ?_
      split <;> exact Tx.read_only_pure _

theorem read_only_lock_users (invitee : User) : Tx.ReadOnly (lockReferralUsers invitee) := by
  refine Tx.read_only_bind (Tx.read_only_view _) fun lockedUsers => ?_
  split
  · exact Tx.read_only_pure _
  · exact Tx.read_only_bind (Tx.read_only_reject _ _) fun _ => Tx.read_only_pure _

theorem read_only_subject (event : BillingOutboxEvent) : Tx.ReadOnly (referralSubject event) := by
  refine Tx.read_only_bind (read_only_settled_use event) fun use => ?_
  cases use with
  | none => exact Tx.read_only_pure _
  | some use =>
      refine Tx.read_only_bind (read_only_relay_invitee _ _) fun relay => ?_
      cases relay with
      | none => exact Tx.read_only_pure _
      | some relay =>
          refine Tx.read_only_bind (Tx.read_only_view _) fun found => ?_
          cases found with
          | none => exact Tx.read_only_pure _
          | some invitee =>
              dsimp only
              split
              · exact Tx.read_only_pure _
              · refine Tx.read_only_bind (read_only_active_program _) fun program => ?_
                cases program with
                | none => exact Tx.read_only_pure _
                | some program =>
                    refine Tx.read_only_bind (read_only_lock_users _) fun locked => ?_
                    split
                    · refine Tx.read_only_bind (Tx.read_only_view _) fun existing => ?_
                      cases existing <;> exact Tx.read_only_pure _
                    · exact Tx.read_only_pure _

theorem qualified_subject (event : BillingOutboxEvent) (store after : ReferralStore) (subject : ReferralSubject)
    (ran : referralSubject event store = (.ok (some subject), after)) : Qualified store event subject := by
  simp only [referralSubject, Tx.ran_bind] at ran
  obtain ⟨use, middle, used, ran⟩ := ran
  have same := (read_only_settled_use event).same used
  subst same
  cases use with
  | none => simp at ran
  | some use =>
      obtain ⟨settlement, reservation, account⟩ := use
      obtain ⟨_, named, settled, positive, reserved, linked, closed, held, holder⟩ := ran_settled_use event _ _ _ _ _ used
      simp only [Tx.ran_bind] at ran
      obtain ⟨relay, middle, relayed, ran⟩ := ran
      have same := (read_only_relay_invitee account settlement).same relayed
      subst same
      cases relay with
      | none => simp at ran
      | some relay =>
          obtain ⟨inviteeID, subscription⟩ := relay
          obtain ⟨_, pack⟩ := ran_relay_invitee account settlement _ _ _ _ relayed
          simp only [Tx.ran_bind, Tx.ran_view] at ran
          obtain ⟨found, _, ⟨_, rfl⟩, ran⟩ := ran
          cases found with
          | none => simp at ran
          | some invitee =>
              dsimp only at ran
              split at ran
              · simp at ran
              · rw [Tx.ran_bind] at ran
                obtain ⟨active, middle, loaded, ran⟩ := ran
                have same := (read_only_active_program settlement.settledAt).same loaded
                subst same
                cases active with
                | none => simp at ran
                | some program =>
                    obtain ⟨_, rate⟩ := ran_active_program _ _ _ _ loaded
                    rw [Tx.ran_bind] at ran
                    obtain ⟨locked, middle, lock, ran⟩ := ran
                    have same := (read_only_lock_users invitee).same lock
                    subst same
                    split at ran
                    · simp only [Tx.ran_bind, Tx.ran_view] at ran
                      obtain ⟨existing, _, ⟨looked, rfl⟩, ran⟩ := ran
                      cases existing with
                      | some receipt => simp at ran
                      | none =>
                          simp only [Tx.ran_pure, Option.some.injEq] at ran
                          obtain ⟨rfl, _⟩ := ran
                          rw [Table.find?_eq_none_iff] at looked
                          exact ⟨named, settled, positive, reserved, linked, closed, held, holder, pack, rate,
                            fun receipt member => by simpa using looked receipt member⟩
                    · simp at ran

-- What is eligible is part of what is allocated.
def Counted (tally : AllocationTally) : Prop := 0 ≤ tally.eligible ∧ tally.eligible ≤ tally.allocated

theorem counted_allocation (settlement : BillingSettlement) (account : BillingAccount) (tally next : AllocationTally)
    (allocation : FundingAllocation) (store after : ReferralStore) (ran : tallyAllocation settlement account tally allocation store = (.ok next, after))
    (counted : Counted tally) : Counted next ∧ store = after := by
  simp only [tallyAllocation, Tx.ran_bind, Tx.ran_reject, ran_first] at ran
  obtain ⟨_, _, ⟨accepted, rfl⟩, lot, _, ⟨_, rfl⟩, ran⟩ := ran
  push Not at accepted
  obtain ⟨low, high⟩ := counted
  -- An allocation that does not count only raises the allocated side.
  have skipped : ∀ reason : String, Counted { tally with allocated := tally.allocated + allocation.amount, reason } := fun _ => ⟨low, by dsimp only; omega⟩
  split at ran
  · rw [Tx.ran_pure] at ran
    exact ⟨ran.1 ▸ skipped tally.reason, ran.2⟩
  · split at ran
    · rw [Tx.ran_pure] at ran
      exact ⟨ran.1 ▸ skipped _, ran.2⟩
    · split at ran
      · rw [Tx.ran_pure] at ran
        exact ⟨ran.1 ▸ skipped _, ran.2⟩
      · simp only [Tx.ran_bind, Tx.ran_view] at ran
        obtain ⟨found, _, ⟨_, rfl⟩, ran⟩ := ran
        cases found with
        | none =>
            rw [Tx.ran_pure] at ran
            exact ⟨ran.1 ▸ skipped _, ran.2⟩
        | some order =>
            dsimp only at ran
            split at ran
            · rw [Tx.ran_pure] at ran
              exact ⟨ran.1 ▸ skipped _, ran.2⟩
            · simp only [Tx.ran_bind, Tx.ran_reject, Tx.ran_pure] at ran
              obtain ⟨_, _, ⟨paid, rfl⟩, rfl, rfl⟩ := ran
              push Not at paid
              exact ⟨⟨by dsimp only; omega, by dsimp only; omega⟩, rfl⟩

theorem counted_allocations (settlement : BillingSettlement) (account : BillingAccount) (allocations : List FundingAllocation)
    (tally final : AllocationTally) (store after : ReferralStore)
    (ran : tallyAllocations settlement account tally allocations store = (.ok final, after)) (counted : Counted tally) :
    Counted final ∧ store = after := by
  induction allocations generalizing tally store with
  | nil =>
      simp only [tallyAllocations, Tx.ran_pure] at ran
      exact ⟨ran.1 ▸ counted, ran.2⟩
  | cons allocation rest ih =>
      simp only [tallyAllocations, Tx.ran_bind] at ran
      obtain ⟨next, middle, counting, ran⟩ := ran
      obtain ⟨nextCounted, rfl⟩ := counted_allocation settlement account tally next allocation store middle counting counted
      exact ih next store ran nextCounted

-- A pack whose purchase is proven by its snapshot and a paid order.
def PaidPack (store : ReferralStore) (subscription : UserSubscription) : Prop :=
  ¬ SnapshotInvalid subscription ∧ (store.orders.find? (paidOrder subscription)).isSome = true

instance (store : ReferralStore) (subscription : UserSubscription) : Decidable (PaidPack store subscription) :=
  inferInstanceAs (Decidable (_ ∧ _))

-- The part of a pack's first `gross` units that counts for the inviter.
def packShare (store : ReferralStore) (subscription : UserSubscription) (gross : Int) : Int :=
  if PaidPack store subscription then floorPaidQuota gross subscription.creditPackPaidQuota subscription.creditPackGrantedQuota else 0

structure Attributed (store : ReferralStore) (subject : ReferralSubject) (eligible : Int) (after : ReferralStore) : Prop where
  frame : ∃ wallet, Reallocated store.market.wallet wallet ∧ after = { store with market := { store.market with wallet } }
  bounds : 0 ≤ eligible ∧ eligible ≤ subject.settlement.actualAmount
  pack : subject.account.ownerType = "user_subscription" →
    eligible = packShare store subject.subscription (priorGross subject.account.accountID store + subject.settlement.actualAmount) -
      packShare store subject.subscription (priorGross subject.account.accountID store)
  covered : subject.account.ownerType = "user_subscription" → PaidPack store subject.subscription →
    priorGross subject.account.accountID store + subject.settlement.actualAmount ≤ subject.subscription.creditPackGrantedQuota

theorem attributed_subject (env : WalletEnv) (event : BillingOutboxEvent) (subject : ReferralSubject) (store after : ReferralStore)
    (eligible : Int) (reason : String) (ran : referralEligibleQuotaTx env subject store = (.ok (eligible, reason), after))
    (qualified : Qualified store event subject) : Attributed store subject eligible after := by
  unfold referralEligibleQuotaTx at ran
  have positive := qualified.positive
  split at ran
  · rename_i isPack
    unfold packEligibleQuota at ran
    have untouched : ∃ wallet, Reallocated store.market.wallet wallet ∧ store = { store with market := { store.market with wallet } } :=
      ⟨_, .refl _, rfl⟩
    split at ran
    · rename_i invalid
      simp only [Tx.ran_pure, Prod.mk.injEq] at ran
      obtain ⟨⟨rfl, _⟩, rfl⟩ := ran
      have unpaid : ¬ PaidPack store subject.subscription := fun paid => paid.1 invalid
      exact ⟨untouched, ⟨by omega, by omega⟩, fun _ => by simp [packShare, unpaid], fun _ paid => (unpaid paid).elim⟩
    · rename_i valid
      simp only [Tx.ran_bind, Tx.ran_view] at ran
      obtain ⟨found, _, ⟨looked, rfl⟩, ran⟩ := ran
      cases found with
      | none =>
          simp only [Tx.ran_pure, Prod.mk.injEq] at ran
          obtain ⟨⟨rfl, _⟩, rfl⟩ := ran
          have unpaid : ¬ PaidPack store subject.subscription := by simp [PaidPack, looked]
          exact ⟨untouched, ⟨by omega, by omega⟩, fun _ => by simp [packShare, unpaid], fun _ paid => (unpaid paid).elim⟩
      | some order =>
          simp only [Tx.ran_bind, Tx.ran_view, Tx.ran_reject, Tx.ran_pure, Prod.mk.injEq] at ran
          obtain ⟨_, _, ⟨rfl, rfl⟩, _, _, ⟨within, rfl⟩, _, _, ⟨_, rfl⟩, ⟨rfl, _⟩, rfl⟩ := ran
          have paid : PaidPack store subject.subscription := ⟨valid, by simp [looked]⟩
          unfold SnapshotInvalid at valid
          push Not at within valid
          refine ⟨untouched, ?_, fun _ => by simp [packShare, paid], fun _ _ => by omega⟩
          exact share_step _ _ _ _ within.1 (by omega) (by omega) (by omega) (by omega)
  · rename_i isWallet
    simp only [walletEligibleQuota, Tx.ran_bind, Tx.ran_view, Tx.ran_reject, Tx.ran_pure, ran_on_market, ran_on_wallet, Prod.mk.injEq] at ran
    obtain ⟨_, _, ⟨_, ⟨wallet, allocated, rfl⟩, rfl⟩, _, _, ⟨rfl, rfl⟩, tally, _, tallied, _, _, ⟨complete, rfl⟩, ⟨rfl, _⟩, rfl⟩ := ran
    obtain ⟨counted, rfl⟩ := counted_allocations _ _ _ _ _ _ _ tallied ⟨by simp, by simp⟩
    push Not at complete
    exact ⟨⟨wallet, reallocated_by_fifo env _ _ _ _ _ allocated, rfl⟩, ⟨counted.1, complete ▸ counted.2⟩, fun isPack => (isWallet isPack).elim,
      fun isPack => (isWallet isPack).elim⟩

end CodeGo.Referral
