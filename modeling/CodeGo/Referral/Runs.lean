import CodeGo.Marketplace.Runs
import CodeGo.Referral.Books

set_option autoImplicit false

namespace CodeGo.Referral

open Relational Text Rounding Billing Marketplace

theorem ran_create_receipt (receipt : ReferralConsumptionRebate) (store after : ReferralStore)
    (ran : createReceipt receipt store = (.ok (), after)) :
    ∃ receipts, after = { store with receipts } ∧ receipts.rows = store.receipts.rows ++ [receipt] := by
  simp only [createReceipt, Tx.ran_bind, Tx.ran_view] at ran
  obtain ⟨_, _, ⟨rfl, rfl⟩, ran⟩ := ran
  cases accepted : store.receipts.insert? receipt with
  | none => simp [accepted] at ran
  | some receipts =>
      simp only [accepted, Tx.ran_edit] at ran
      exact ⟨receipts, ran.symm, ((Table.insert?_eq_some_iff _ _ _).mp accepted).2⟩

-- Charging the channel writes no rebate key: its entries are those of a reservation.
theorem grown_by_debit (env : WalletEnv) (item charged : Settlement) (financialSettlementID : String) (amount : Int) (market after : Market)
    (ran : debitCreditPackReferralTx env item financialSettlementID amount market = (.ok charged, after)) (bound : amount ≤ maxInt64)
    (allowed : String → Prop) :
    Grown allowed market.wallet.ledger after.wallet.ledger ∧ after.subscriptions = market.subscriptions := by
  have unchanged : Grown allowed market.wallet.ledger market.wallet.ledger := grown_unmoved (.refl _)
  simp only [debitCreditPackReferralTx, Tx.ran_bind, Tx.ran_reject] at ran
  obtain ⟨_, _, ⟨_, rfl⟩, ran⟩ := ran
  split at ran
  · rw [Tx.ran_pure] at ran
    obtain ⟨_, rfl⟩ := ran
    exact ⟨unchanged, rfl⟩
  · simp only [findSettlementByIdempotency, Tx.ran_bind, Tx.ran_reject, ran_on_wallet, ran_on_ledger, Tx.ran_view] at ran
    obtain ⟨_, _, ⟨_, rfl⟩, _, _, ⟨_, ⟨_, ⟨rfl, rfl⟩, rfl⟩, rfl⟩, ran⟩ := ran
    cases looked : market.wallet.ledger.settlements.find? fun row => row.idempotencyKey = referralKey financialSettlementID ++ ":settle" with
    | some existing =>
        simp only [looked, Tx.ran_bind, Tx.ran_reject, Tx.ran_pure] at ran
        obtain ⟨_, _, ⟨_, rfl⟩, _, rfl⟩ := ran
        exact ⟨unchanged, rfl⟩
    | none =>
        simp only [looked, updateSettlement, Tx.ran_bind, Tx.ran_reject, Tx.ran_edit, ran_on_wallet, ran_on_ledger, Tx.ran_pure] at ran
        obtain ⟨reservation, _, ⟨_, ⟨middle, created, rfl⟩, rfl⟩, settlement, _, ⟨_, ⟨ledger, settled, rfl⟩, rfl⟩, _, _, ⟨_, rfl⟩,
          _, _, rfl, _, rfl⟩ := ran
        have moves := Moves.cons (create_effect env.toLedgerEnv _ _ _ _ created) (.single (settle_effect env.toLedgerEnv _ _ _ _ settled))
        have apart : Apart "entry:" "referral-consumption:" := by decide
        refine ⟨grown_of_moves moves fun op opIn => ?_, rfl⟩
        simp only [List.mem_cons, List.not_mem_nil, or_false] at opIn
        rcases opIn with rfl | rfl
        · refine ⟨fun key keyIn settlementID isKey => ?_, by simp⟩
          rw [LedgerOp.entryKeys, List.mem_singleton] at keyIn
          exact (apart.ne _ _ (keyIn.symm.trans isKey)).elim
        · refine ⟨fun key keyIn settlementID isKey => ?_, fun params same => ?_⟩
          · rw [LedgerOp.entryKeys, List.mem_singleton] at keyIn
            exact (apart.ne _ _ (keyIn.symm.trans isKey)).elim
          · cases same
            exact bound

theorem tight_rebate_key (settlementID : String) (tight : Tight settlementID) : Tight (rebateKey settlementID) :=
  tight_append _ _ (by decide) tight.2

theorem grown_by_credit {wallet after : Wallet} {credit : WalletCredit} {account : BillingAccount} {settlementID : String}
    (credited : WalletCredited wallet credit account after) (key : credit.idempotencyKey = rebateKey settlementID) (tight : Tight settlementID) :
    Grown (· = settlementID) wallet.ledger after.ledger := by
  refine grown_of_moves credited.moves fun op opIn => ?_
  simp only [List.mem_cons, List.not_mem_nil, or_false] at opIn
  rcases opIn with rfl | rfl | rfl | rfl
  · simp [LedgerOp.Within, LedgerOp.entryKeys]
  · refine ⟨fun other otherIn sid isKey => ?_, by simp⟩
    rw [LedgerOp.entryKeys, List.mem_singleton] at otherIn
    exact (mirror_key_ne credit.userID (by decide) sid (otherIn.symm.trans isKey)).elim
  · refine ⟨fun other otherIn sid isKey => ?_, by simp⟩
    rw [LedgerOp.entryKeys, List.mem_singleton] at otherIn
    have same : rebateKey settlementID = rebateKey sid := by
      rw [← trim_space_tight _ (tight_rebate_key settlementID tight), ← key]
      exact otherIn.symm.trans isKey
    exact (append_left_injective _ _ _ same).symm
  · simp [LedgerOp.Within, LedgerOp.entryKeys]

theorem Receipts.eligible_nonneg {store : ReferralStore} (receipts : Receipts store) (inviteeID inviterID rateBPS : Int) :
    0 ≤ eligibleTotal store inviteeID inviterID rateBPS := by
  refine List.sum_nonneg ?_
  rw [List.forall_mem_map]
  intro receipt member
  split
  · exact (receipts.amounts receipt member).1
  · exact le_refl 0

-- The next rebate lies between nothing and the eligible amount it is for.
theorem Receipts.next_rebate {store : ReferralStore} (receipts : Receipts store) (inviteeID inviterID rateBPS eligible : Int)
    (rate : 0 < rateBPS ∧ rateBPS ≤ 10000) (counted : 0 ≤ eligible) :
    0 ≤ ((eligibleTotal store inviteeID inviterID rateBPS + eligible) * rateBPS).tdiv 10000 - rebateTotal store inviteeID inviterID rateBPS ∧
      ((eligibleTotal store inviteeID inviterID rateBPS + eligible) * rateBPS).tdiv 10000 - rebateTotal store inviteeID inviterID rateBPS ≤
        eligible := by
  rw [receipts.rounded]
  exact share_step _ eligible rateBPS 10000 (receipts.eligible_nonneg _ _ _) counted (by omega) rate.2 (by omega)

theorem grown_by_fund (env : WalletEnv) (settlementID : String) (rebate : Int) (funder : Option Settlement) (store after : ReferralStore)
    (ran : fundRebate env settlementID rebate funder store = (.ok (), after)) (bound : rebate ≤ maxInt64) (allowed : String → Prop) :
    Grown allowed store.ledger after.ledger ∧ ∃ market, after = { store with market } ∧ market.subscriptions = store.market.subscriptions := by
  cases funder with
  | none =>
      simp only [fundRebate, Tx.ran_pure] at ran
      obtain ⟨_, rfl⟩ := ran
      exact ⟨grown_unmoved (.refl _), _, rfl, rfl⟩
  | some item =>
      simp only [fundRebate, Tx.ran_bind, ran_on_market, Tx.ran_pure] at ran
      obtain ⟨charged, _, ⟨market, debited, rfl⟩, _, rfl⟩ := ran
      obtain ⟨grown, subscriptions⟩ := grown_by_debit env item charged settlementID rebate store.market market debited bound allowed
      exact ⟨grown, market, rfl, subscriptions⟩

theorem Receipts.record (env : WalletEnv) (event : BillingOutboxEvent) (subject : ReferralSubject) (eligible : Int) (reason : String)
    (funder : Option Settlement) (store middle after : ReferralStore)
    (ran : recordReferralRebate env subject eligible reason funder middle = (.ok (), after)) (receipts : Receipts store)
    (qualified : Qualified store event subject) (attributed : Attributed store subject eligible middle) (tight : Tight event.aggregateID) :
    Receipts after := by
  obtain ⟨wallet, ⟨drawn, lots, allocations, rfl⟩, rfl⟩ := attributed.frame
  simp only [recordReferralRebate, Tx.ran_bind, Tx.ran_view, Tx.ran_reject] at ran
  obtain ⟨_, _, ⟨rfl, rfl⟩, _, _, ⟨rfl, rfl⟩, _, _, ⟨valid, rfl⟩, _, _, created, ran⟩ := ran
  obtain ⟨rows, rfl, appended⟩ := ran_create_receipt _ _ _ created
  push Not at valid
  have named : Tight subject.settlement.settlementID := qualified.named ▸ tight
  have drawnOnly : Grown (· = subject.settlement.settlementID) store.ledger { store.ledger with drawn } := grown_unmoved (.drawn _ _)
  -- The receipt is in order once the ledger behind it has grown by the payment and nothing else.
  have close : ∀ final : ReferralStore, final.receipts = rows → final.orders = store.orders →
      final.market.subscriptions = store.market.subscriptions → Grown (· = subject.settlement.settlementID) store.ledger final.ledger → _ →
      Receipts final := fun final receiptRows orders subscriptions grown paid =>
    receipts.recorded _ subject.settlement subject.reservation subject.account subject.subscription grown (by rw [receiptRows]; exact appended)
      orders subscriptions (fun other member => qualified.unpaid other member) ⟨attributed.bounds.1, valid.2⟩ rfl
      ⟨qualified.settled, rfl, qualified.positive, qualified.reserved, qualified.linked, qualified.closed, qualified.held, qualified.holder⟩ paid
      qualified.pack attributed.pack attributed.covered
  split at ran
  · simp only [Tx.ran_bind, ran_on_market, ran_on_wallet] at ran
    obtain ⟨_, _, funded, _, ⟨wallet, credited, rfl⟩, rfl⟩ := ran
    obtain ⟨fundGrown, market, rfl, subscriptions⟩ := grown_by_fund env _ _ funder _ _ funded valid.1 (· = subject.settlement.settlementID)
    obtain ⟨_, account, credit⟩ := marketplace_credited env _ _ _ _ _ _ credited
    have creditGrown := grown_by_credit credit rfl named
    obtain ⟨entry, entryIn, owner, kind, amount, key⟩ := credit.entry
    rw [trim_space_tight _ (tight_rebate_key _ named), or_self] at key
    exact close _ rfl rfl subscriptions (drawnOnly.trans (fundGrown.trans creditGrown))
      (.inr ⟨entry, entryIn, account, credit.member, key, kind, amount, owner, credit.owner⟩)
  · rename_i zero
    rw [Tx.ran_pure] at ran
    obtain ⟨_, rfl⟩ := ran
    refine close _ rfl rfl rfl drawnOnly (.inl ⟨?_, fun entry entryIn isKey => ?_⟩)
    · exact Int.le_antisymm (Int.not_lt.mp zero) valid.2
    · obtain ⟨receipt, receiptIn, sameID⟩ := receipts.named entry entryIn _ isKey
      exact qualified.unpaid receipt receiptIn sameID

theorem Receipts.consumed (env : WalletEnv) (event : BillingOutboxEvent) (funder : Option Settlement) (store after : ReferralStore)
    (ran : consumeReferralSettlementCoreTx env event funder store = (.ok (), after)) (receipts : Receipts store) (tight : Tight event.aggregateID) :
    Receipts after := by
  simp only [consumeReferralSettlementCoreTx, Tx.ran_bind] at ran
  obtain ⟨subject, middle, checked, ran⟩ := ran
  have same := (read_only_subject event).same checked
  subst same
  cases subject with
  | none =>
      rw [Tx.ran_pure] at ran
      exact ran.2 ▸ receipts
  | some subject =>
      rw [Tx.ran_bind] at ran
      obtain ⟨⟨eligible, reason⟩, middle, counted, ran⟩ := ran
      have qualified := qualified_subject event _ _ _ checked
      exact receipts.record env event subject eligible reason funder store middle after ran qualified
        (attributed_subject env event subject _ _ _ _ counted qualified) tight

section Cumulative

abbrev NeverCumulative {α : Type} (work : ReferralTx α) : Prop := Tx.Avoids cumulativeInvalid work

theorem never_cumulative_on_market {α : Type} (work : MarketTx α) : NeverCumulative (onMarket work) := by
  intro store after failed
  obtain ⟨inner, problem⟩ := Tx.failed_zoom _ _ _ _ _ _ failed
  cases ran : work store.market with
  | mk outcome market => cases outcome <;> simp [Tx.withError, ran, cumulativeInvalid] at problem

theorem never_cumulative_first {α : Type} (select : ReferralStore → Option α) : NeverCumulative (first select) := by
  refine Tx.avoids_bind (Tx.avoids_view _) fun found => ?_
  cases found with
  | none => exact Tx.avoids_fail (by simp [cumulativeInvalid])
  | some row => exact Tx.avoids_pure _

theorem never_cumulative_reject (condition : Prop) [Decidable condition] (text : String)
    (other : text ≠ "referral rebate cumulative amount is invalid") :
    NeverCumulative (Tx.reject condition (.message text) : ReferralTx Unit) :=
  Tx.avoids_reject condition fun same => other (ReferralError.message.inj same)

theorem never_cumulative_use (event : BillingOutboxEvent) : NeverCumulative (settledUse event) := by
  unfold settledUse
  split
  · exact Tx.avoids_pure _
  · refine Tx.avoids_bind (never_cumulative_first _) fun settlement => ?_
    split
    · exact Tx.avoids_pure _
    · refine Tx.avoids_bind (never_cumulative_first _) fun reservation => ?_
      split
      · exact Tx.avoids_pure _
      · exact Tx.avoids_bind (never_cumulative_first _) fun account => Tx.avoids_pure _

theorem never_cumulative_invitee (account : BillingAccount) (settlement : BillingSettlement) :
    NeverCumulative (relayInvitee account settlement) := by
  unfold relayInvitee
  split
  · exact Tx.avoids_pure _
  · split
    · exact Tx.avoids_bind (never_cumulative_first _) fun subscription => Tx.avoids_pure _
    · exact Tx.avoids_pure _

theorem never_cumulative_program (consumedAt : Int) : NeverCumulative (activeProgram consumedAt) := by
  refine Tx.avoids_bind (Tx.avoids_view _) fun found => ?_
  cases found with
  | none => exact Tx.avoids_fail (by decide)
  | some program =>
      refine Tx.avoids_bind (never_cumulative_reject _ _ (by decide)) fun _ => ?_
      split <;> exact Tx.avoids_pure _

theorem never_cumulative_lock (invitee : User) : NeverCumulative (lockReferralUsers invitee) := by
  refine Tx.avoids_bind (Tx.avoids_view _) fun lockedUsers => ?_
  split
  · exact Tx.avoids_pure _
  · exact Tx.avoids_bind (never_cumulative_reject _ _ (by decide)) fun _ => Tx.avoids_pure _

theorem never_cumulative_subject (event : BillingOutboxEvent) : NeverCumulative (referralSubject event) := by
  refine Tx.avoids_bind (never_cumulative_use event) fun use => ?_
  cases use with
  | none => exact Tx.avoids_pure _
  | some use =>
      refine Tx.avoids_bind (never_cumulative_invitee _ _) fun relay => ?_
      cases relay with
      | none => exact Tx.avoids_pure _
      | some relay =>
          refine Tx.avoids_bind (Tx.avoids_view _) fun found => ?_
          cases found with
          | none => exact Tx.avoids_pure _
          | some invitee =>
              dsimp only
              split
              · exact Tx.avoids_pure _
              · refine Tx.avoids_bind (never_cumulative_program _) fun program => ?_
                cases program with
                | none => exact Tx.avoids_pure _
                | some program =>
                    refine Tx.avoids_bind (never_cumulative_lock _) fun locked => ?_
                    split
                    · refine Tx.avoids_bind (Tx.avoids_view _) fun existing => ?_
                      cases existing <;> exact Tx.avoids_pure _
                    · exact Tx.avoids_pure _

theorem never_cumulative_tally (settlement : BillingSettlement) (account : BillingAccount) (tally : AllocationTally)
    (allocation : FundingAllocation) : NeverCumulative (tallyAllocation settlement account tally allocation) := by
  refine Tx.avoids_bind (never_cumulative_reject _ _ (by decide)) fun _ => Tx.avoids_bind (never_cumulative_first _) fun lot => ?_
  dsimp only
  split
  · exact Tx.avoids_pure _
  · split
    · exact Tx.avoids_pure _
    · split
      · exact Tx.avoids_pure _
      · refine Tx.avoids_bind (Tx.avoids_view _) fun found => ?_
        cases found with
        | none => exact Tx.avoids_pure _
        | some order =>
            dsimp only
            split
            · exact Tx.avoids_pure _
            · exact Tx.avoids_bind (never_cumulative_reject _ _ (by decide)) fun _ => Tx.avoids_pure _

theorem never_cumulative_tallies (settlement : BillingSettlement) (account : BillingAccount) (tally : AllocationTally)
    (allocations : List FundingAllocation) : NeverCumulative (tallyAllocations settlement account tally allocations) := by
  induction allocations generalizing tally with
  | nil => exact Tx.avoids_pure _
  | cons allocation rest ih => exact Tx.avoids_bind (never_cumulative_tally _ _ _ _) fun next => ih next

theorem never_cumulative_eligible (env : WalletEnv) (subject : ReferralSubject) : NeverCumulative (referralEligibleQuotaTx env subject) := by
  unfold referralEligibleQuotaTx
  split
  · unfold packEligibleQuota
    split
    · exact Tx.avoids_pure _
    · refine Tx.avoids_bind (Tx.avoids_view _) fun found => ?_
      cases found with
      | none => exact Tx.avoids_pure _
      | some order =>
          exact Tx.avoids_bind (Tx.avoids_view _) fun gross => Tx.avoids_bind (never_cumulative_reject _ _ (by decide)) fun _ =>
            Tx.avoids_bind (never_cumulative_reject _ _ (by decide)) fun _ => Tx.avoids_pure _
  · have apart : Apart "referral funding allocation incomplete: " "referral rebate cumulative amount is invalid" := by decide
    refine Tx.avoids_bind (never_cumulative_on_market _) fun _ => Tx.avoids_bind (Tx.avoids_view _) fun allocations =>
      Tx.avoids_bind (never_cumulative_tallies _ _ _ _) fun tally => Tx.avoids_bind (never_cumulative_reject _ _ ?_) fun _ => Tx.avoids_pure _
    have different := apart.ne (toString tally.allocated ++ " of " ++ toString subject.settlement.actualAmount) ""
    rwa [String.append_empty] at different

theorem never_cumulative_record (env : WalletEnv) (subject : ReferralSubject) (eligible : Int) (reason : String) (funder : Option Settlement)
    (store after : ReferralStore)
    (low : 0 ≤ ((eligibleTotal store subject.invitee.id subject.invitee.inviterID subject.program.rateBPS + eligible) *
      subject.program.rateBPS).tdiv 10000 - rebateTotal store subject.invitee.id subject.invitee.inviterID subject.program.rateBPS)
    (high : ((eligibleTotal store subject.invitee.id subject.invitee.inviterID subject.program.rateBPS + eligible) *
      subject.program.rateBPS).tdiv 10000 - rebateTotal store subject.invitee.id subject.invitee.inviterID subject.program.rateBPS ≤ maxInt64) :
    recordReferralRebate env subject eligible reason funder store ≠ (.error cumulativeInvalid, after) := by
  intro failed
  rw [recordReferralRebate, Tx.failed_bind] at failed
  rcases failed with failed | ⟨_, _, read, failed⟩
  · exact Tx.avoids_view _ _ _ failed
  obtain ⟨rfl, rfl⟩ := (Tx.ran_view _ _ _ _).mp read
  rw [Tx.failed_bind] at failed
  rcases failed with failed | ⟨_, _, read, failed⟩
  · exact Tx.avoids_view _ _ _ failed
  obtain ⟨rfl, rfl⟩ := (Tx.ran_view _ _ _ _).mp read
  rw [Tx.failed_bind] at failed
  rcases failed with failed | ⟨_, _, _, failed⟩
  · rw [Tx.failed_reject] at failed
    rcases failed.1 with above | under
    · exact absurd high (Int.not_le.mpr above)
    · exact absurd low (Int.not_le.mpr under)
  -- Past the check only the database, the ledger and the wallet can refuse.
  refine Tx.avoids_bind ?_ (fun _ => ?_) _ _ failed
  · refine Tx.avoids_bind (Tx.avoids_view _) fun inserted => ?_
    cases inserted with
    | none => exact Tx.avoids_fail (by simp [cumulativeInvalid])
    | some rows => exact Tx.avoids_edit _
  · split
    · refine Tx.avoids_bind ?_ fun _ => never_cumulative_on_market _
      cases funder with
      | none => exact Tx.avoids_pure _
      | some item => exact Tx.avoids_bind (never_cumulative_on_market _) fun _ => Tx.avoids_pure _
    · exact Tx.avoids_pure _

-- In a store whose receipts are in order the next rebate always passes its check.
theorem Receipts.never_cumulative {store : ReferralStore} (receipts : Receipts store) (env : WalletEnv) (event : BillingOutboxEvent)
    (funder : Option Settlement) : (consumeReferralSettlementCoreTx env event funder store).1 ≠ .error cumulativeInvalid := by
  intro problem
  have failed : consumeReferralSettlementCoreTx env event funder store =
      (.error cumulativeInvalid, (consumeReferralSettlementCoreTx env event funder store).2) := Prod.ext problem rfl
  rw [consumeReferralSettlementCoreTx, Tx.failed_bind] at failed
  rcases failed with failed | ⟨subject, middle, checked, failed⟩
  · exact never_cumulative_subject event _ _ failed
  · have same := (read_only_subject event).same checked
    subst same
    cases subject with
    | none => exact Tx.avoids_pure _ _ _ failed
    | some subject =>
        have qualified := qualified_subject event _ _ _ checked
        rw [Tx.failed_bind] at failed
        rcases failed with failed | ⟨⟨eligible, reason⟩, middle, counted, failed⟩
        · exact never_cumulative_eligible env subject _ _ failed
        · have attributed := attributed_subject env event subject _ _ _ _ counted qualified
          obtain ⟨wallet, _, rfl⟩ := attributed.frame
          have bounds := receipts.next_rebate subject.invitee.id subject.invitee.inviterID subject.program.rateBPS eligible qualified.rate
            attributed.bounds.1
          have limit := receipts.bounded _ qualified.settled
          exact never_cumulative_record env subject eligible reason funder _ _ (by simpa [eligibleTotal, rebateTotal] using bounds.1)
            (by simpa [eligibleTotal, rebateTotal] using bounds.2.trans (attributed.bounds.2.trans limit)) failed

end Cumulative

section Credits

instance (accountType ownerType : String) (ownerID : Int) (account : BillingAccount) : Decidable (AccountOf accountType ownerType ownerID account) :=
  decidable_of_iff (account.accountType = accountType ∧ account.ownerType = ownerType ∧ account.ownerID = ownerID ∧ account.quotaUnit = "quota")
    ⟨fun ⟨kind, owner, ownerID, unit⟩ => ⟨kind, owner, ownerID, unit⟩, fun of => ⟨of.kind, of.ownerType, of.owner, of.unit⟩⟩

-- A grant to the inviter's wallet that belongs to a receipt of the invitee at the rate.
def PaysRebate (store : ReferralStore) (inviteeID inviterID rateBPS : Int) (entry : BillingLedgerEntry) : Prop :=
  entry.entryType = .grantCredit ∧
    (∃ account ∈ store.ledger.accounts.rows, entry.accountID = account.accountID ∧ ClaudeWalletOf inviterID account) ∧
    ∃ receipt ∈ store.receipts.rows, receipt.Of inviteeID inviterID rateBPS ∧ entry.idempotencyKey = rebateKey receipt.settlementID

instance (store : ReferralStore) (inviteeID inviterID rateBPS : Int) : DecidablePred (PaysRebate store inviteeID inviterID rateBPS) :=
  fun _ => inferInstanceAs (Decidable (_ ∧ _ ∧ _))

def creditedTotal (store : ReferralStore) (inviteeID inviterID rateBPS : Int) : Int :=
  store.ledger.entries.total fun entry => if PaysRebate store inviteeID inviterID rateBPS entry then entry.amount else 0

variable {store : ReferralStore}

-- The entry and the receipt of one settlement determine each other by the key.
theorem Receipts.pays_of_key (receipts : Receipts store) (receipt : ReferralConsumptionRebate) (member : receipt ∈ store.receipts.rows)
    (entry : BillingLedgerEntry) (entryIn : entry ∈ store.ledger.entries.rows) (key : entry.idempotencyKey = rebateKey receipt.settlementID) :
    entry.amount = receipt.rebateQuota ∧ PaysRebate store receipt.inviteeID receipt.inviterID receipt.rateBPS entry := by
  rcases receipts.paid receipt member with ⟨_, absent⟩ | ⟨found, foundIn, account, accountIn, foundKey, kind, amount, owner, isWallet⟩
  · exact (absent entry entryIn key).elim
  · have same : found = entry := entry_key_unique store.ledger found entry foundIn entryIn (foundKey.trans key.symm)
    subst same
    exact ⟨amount, kind, ⟨account, accountIn, owner, isWallet⟩, receipt, member, ⟨rfl, rfl, rfl⟩, key⟩

theorem Receipts.credited_total (receipts : Receipts store) (inviteeID inviterID rateBPS : Int) :
    creditedTotal store inviteeID inviterID rateBPS = rebateTotal store inviteeID inviterID rateBPS := by
  have byEntry : ∀ entry ∈ store.ledger.entries.rows, (if PaysRebate store inviteeID inviterID rateBPS entry then entry.amount else 0) =
      store.receipts.total fun receipt =>
        if receipt.Of inviteeID inviterID rateBPS ∧ entry.idempotencyKey = rebateKey receipt.settlementID then entry.amount else (0 : Int) := by
    intro entry entryIn
    by_cases pays : PaysRebate store inviteeID inviterID rateBPS entry
    · obtain ⟨_, _, receipt, member, mine, key⟩ := pays
      rw [if_pos ⟨‹_›, ‹_›, receipt, member, mine, key⟩, Table.total_single _ _ receipt member, if_pos ⟨mine, key⟩]
      intro other _ apart
      refine if_neg fun matched => apart ?_
      exact append_left_injective _ _ _ (key.symm.trans matched.2)
    · rw [if_neg pays, Table.total_congr _ _ (fun _ => 0)]
      · simp [Table.total]
      · intro receipt member
        refine if_neg fun matched => pays ?_
        obtain ⟨⟨rfl, rfl, rfl⟩, key⟩ := matched
        exact (receipts.pays_of_key receipt member entry entryIn key).2
  have byReceipt : ∀ receipt ∈ store.receipts.rows, (if receipt.Of inviteeID inviterID rateBPS then receipt.rebateQuota else 0) =
      store.ledger.entries.total fun entry =>
        if receipt.Of inviteeID inviterID rateBPS ∧ entry.idempotencyKey = rebateKey receipt.settlementID then entry.amount else (0 : Int) := by
    intro receipt member
    by_cases mine : receipt.Of inviteeID inviterID rateBPS
    · rw [if_pos mine]
      rcases receipts.paid receipt member with ⟨zero, absent⟩ | ⟨entry, entryIn, _, _, key, _, amount, _⟩
      · rw [zero, Table.total_congr _ _ (fun _ => 0)]
        · simp [Table.total]
        · intro entry entryIn
          exact if_neg fun matched => absent entry entryIn matched.2
      · rw [Table.total_single _ _ entry entryIn, if_pos ⟨mine, key⟩, amount]
        intro other otherIn apart
        exact if_neg fun matched => apart (.inr (key.trans matched.2.symm))
    · simp [mine, Table.total]
  rw [creditedTotal, Table.total_congr _ _ _ byEntry, Table.total_swap, rebateTotal, Table.total_congr _ _ _ byReceipt]

end Credits

-- Between two events the ledger and the attribution of other requests go on.
inductive ReferralOp where
  | consume (event : BillingOutboxEvent) (funder : Option Settlement)
  | ledger (op : LedgerOp)
  | allocate (requestID accountID : String) (amount : Int)

def referralStep (env : WalletEnv) (store : ReferralStore) : ReferralOp → ReferralStore
  | .consume event funder => (Tx.atomic (consumeReferralSettlementCoreTx env event funder) store).2
  | .ledger op =>
      { store with market := { store.market with wallet := { store.market.wallet with ledger := step env.toLedgerEnv store.ledger op } } }
  | .allocate requestID accountID amount =>
      { store with market := { store.market with wallet := (allocateSettledFundingFIFO env requestID accountID amount store.market.wallet).2 } }

-- Event rows carry trimmed aggregate ids, amounts are int64, and nobody else uses the rebate keys.
def ReferralOp.Plain : ReferralOp → Prop
  | .consume event _ => Tight event.aggregateID
  | .ledger op => LedgerOp.Within (fun _ => False) op
  | .allocate _ _ _ => True

theorem Reallocated.grown {wallet after : Wallet} {allowed : String → Prop} (reallocated : Reallocated wallet after) :
    Grown allowed wallet.ledger after.ledger := by
  obtain ⟨drawn, lots, allocations, rfl⟩ := reallocated
  exact grown_unmoved (.drawn _ _)

theorem reallocated_by_allocate (env : WalletEnv) (requestID accountID : String) (amount : Int) (wallet : Wallet) :
    Reallocated wallet (allocateSettledFundingFIFO env requestID accountID amount wallet).2 := by
  unfold allocateSettledFundingFIFO
  split
  · exact .refl wallet
  · rcases Tx.atomic_store (allocateSettledFundingFIFOTx env requestID accountID amount) wallet with ⟨_, ran⟩ | ⟨_, same⟩
    · exact reallocated_by_fifo env _ _ _ _ _ ran
    · rw [same]
      exact .refl wallet

theorem Receipts.step (env : WalletEnv) (store : ReferralStore) (op : ReferralOp) (plain : op.Plain) (receipts : Receipts store) :
    Receipts (referralStep env store op) := by
  cases op with
  | consume event funder =>
      rcases Tx.atomic_store (consumeReferralSettlementCoreTx env event funder) store with ⟨_, ran⟩ | ⟨_, same⟩
      · exact receipts.consumed env event funder store _ ran plain
      · rw [referralStep, same]
        exact receipts
  | ledger op =>
      refine receipts.kept (grown_of_moves (.single (step_effect env.toLedgerEnv store.ledger op)) ?_) rfl rfl rfl
      intro other otherIn
      rw [List.mem_singleton] at otherIn
      exact otherIn ▸ plain
  | allocate requestID accountID amount =>
      exact receipts.kept (Reallocated.grown (reallocated_by_allocate env requestID accountID amount store.market.wallet)) rfl rfl rfl

-- The store on rollout: any ledger, but no receipt and no rebate yet.
structure Rollout (store : ReferralStore) : Prop where
  receipts : store.receipts.rows = []
  unpaid : ∀ entry ∈ store.ledger.entries.rows, ∀ settlementID, entry.idempotencyKey ≠ rebateKey settlementID
  bounded : ∀ settlement ∈ store.ledger.settlements.rows, settlement.actualAmount ≤ maxInt64

theorem Rollout.in_order {store : ReferralStore} (rollout : Rollout store) : Receipts store := by
  have totals : ∀ accountID value, packTotal store accountID value = 0 := by
    intro accountID value
    simp [packTotal, Table.total, rollout.receipts]
  refine ⟨by simp [rollout.receipts], ?_, by simp [rollout.receipts], by simp [rollout.receipts], ?_, ?_, rollout.bounded⟩
  · intro inviteeID inviterID rateBPS
    simp [rebateTotal, eligibleTotal, Table.total, rollout.receipts]
  · intro entry member settlementID isKey
    exact (rollout.unpaid entry member settlementID isKey).elim
  · intro account _ _ subscription _
    refine ⟨?_, fun paid => ?_⟩
    · rw [packEligible, prior_gross_eq, totals, totals]
      simp [packShare, floorPaidQuota]
    · have valid := paid.1
      unfold SnapshotInvalid at valid
      rw [prior_gross_eq, totals]
      omega

theorem receipts_run (env : WalletEnv) (start : ReferralStore) (rollout : Rollout start) (ops : List ReferralOp) (plain : ∀ op ∈ ops, op.Plain) :
    Receipts (run (referralStep env) start ops) :=
  run_keeps (referralStep env) Receipts ReferralOp.Plain (fun store op plainOp kept => kept.step env store op plainOp) start rollout.in_order ops plain

theorem Receipts.prior_gross_nonneg {store : ReferralStore} (receipts : Receipts store) (accountID : String) : 0 ≤ priorGross accountID store := by
  refine List.sum_nonneg ?_
  rw [List.forall_mem_map]
  intro receipt member
  obtain ⟨settlement, reservation, account, backing⟩ := receipts.backed receipt member
  rw [backing.settled_on]
  split
  · simpa using backing.positive.le
  · simp

theorem Receipts.pack_within_paid {store : ReferralStore} (receipts : Receipts store) (account : BillingAccount)
    (member : account ∈ store.ledger.accounts.rows) (isPack : account.ownerType = "user_subscription") (subscription : UserSubscription)
    (found : (store.market.subscriptions.find? fun row => row.id = account.ownerID) = some subscription) (paid : PaidPack store subscription) :
    packEligible store account.accountID =
        priorGross account.accountID store * subscription.creditPackPaidQuota / subscription.creditPackGrantedQuota ∧
      packEligible store account.accountID ≤ subscription.creditPackPaidQuota := by
  have books := receipts.packs account member isPack subscription found
  have gross := receipts.prior_gross_nonneg account.accountID
  have covered := books.covered paid
  have eligible := books.eligible
  have valid := paid.1
  unfold SnapshotInvalid at valid
  push Not at valid
  rw [packShare, if_pos paid] at eligible
  have asShare : packEligible store account.accountID = share (priorGross account.accountID store) subscription.creditPackPaidQuota
      subscription.creditPackGrantedQuota := eligible
  rw [asShare]
  exact ⟨share_eq_floor _ _ _ gross (by omega), share_le _ _ _ gross covered (by omega) (by omega)⟩

/- Rebates do not depend on the order or the splitting of the settlements: the receipts of an
   invitee, an inviter and a rate always add up to the floor of the rate on what was eligible. -/
theorem rebates_are_cumulative (env : WalletEnv) (start : ReferralStore) (rollout : Rollout start) (ops : List ReferralOp)
    (plain : ∀ op ∈ ops, op.Plain) :
    ((run (referralStep env) start ops).receipts.rows.map ReferralConsumptionRebate.settlementID).Nodup ∧
      (∀ receipt ∈ (run (referralStep env) start ops).receipts.rows, 0 ≤ receipt.rebateQuota) ∧
      (∀ event funder, (consumeReferralSettlementCoreTx env event funder (run (referralStep env) start ops)).1 ≠ .error cumulativeInvalid) ∧
      (∀ inviteeID inviterID rateBPS, 1 ≤ rateBPS → rateBPS ≤ 10000 →
        rebateTotal (run (referralStep env) start ops) inviteeID inviterID rateBPS =
            rateBPS * eligibleTotal (run (referralStep env) start ops) inviteeID inviterID rateBPS / 10000 ∧
          creditedTotal (run (referralStep env) start ops) inviteeID inviterID rateBPS =
            rebateTotal (run (referralStep env) start ops) inviteeID inviterID rateBPS) ∧
      ∀ account ∈ (run (referralStep env) start ops).ledger.accounts.rows, account.ownerType = "user_subscription" → ∀ subscription,
        ((run (referralStep env) start ops).market.subscriptions.find? fun row => row.id = account.ownerID) = some subscription →
        (PaidPack (run (referralStep env) start ops) subscription →
          packEligible (run (referralStep env) start ops) account.accountID =
              priorGross account.accountID (run (referralStep env) start ops) * subscription.creditPackPaidQuota /
                subscription.creditPackGrantedQuota ∧
            packEligible (run (referralStep env) start ops) account.accountID ≤ subscription.creditPackPaidQuota) ∧
        (¬ PaidPack (run (referralStep env) start ops) subscription →
          packEligible (run (referralStep env) start ops) account.accountID = 0) := by
  have receipts := receipts_run env start rollout ops plain
  refine ⟨?_, fun receipt member => (receipts.amounts receipt member).2, fun event funder => receipts.never_cumulative env event funder, ?_, ?_⟩
  · rw [List.Nodup, List.pairwise_map]
    exact (run (referralStep env) start ops).receipts.unique
  · intro inviteeID inviterID rateBPS low _
    refine ⟨?_, receipts.credited_total inviteeID inviterID rateBPS⟩
    rw [receipts.rounded, share_eq_floor _ _ _ (receipts.eligible_nonneg _ _ _) (by omega), Int.mul_comm]
  · intro account member isPack subscription found
    refine ⟨receipts.pack_within_paid account member isPack subscription found, fun unpaid => ?_⟩
    rw [(receipts.packs account member isPack subscription found).eligible, packShare, if_neg unpaid]

def packOrder : SubscriptionOrder :=
  { targetSubscriptionID := 7, userID := 2, status := .success, creditPackQuota := 100, creditPackPaidQuota := 50, money := 5 }

def samplePack : UserSubscription :=
  { id := 7, userID := 2, creditPackGrantedQuota := 100, creditPackPaidQuota := 50, creditPackChannelShareBPS := 0 }

def sampleUsers : Table User := ⟨[{ id := 1 }, { id := 2, inviterID := 1, createdAt := 100 }], by decide⟩

def rolloutStore (orders : List SubscriptionOrder) : ReferralStore :=
  { market := ⟨⟨Ledger.empty, sampleUsers, .empty, .empty⟩, .empty, [], [], [samplePack]⟩, receipts := .empty,
    program := some ⟨1000, 50⟩, orders, topups := [] }

def settledEvent (settlementID : String) : BillingOutboxEvent :=
  { accountID := "a0f", aggregateType := "settlement", aggregateID := settlementID, eventType := "billing.reservation_settled",
    idempotencyKey := "outbox" }

def packUse : List ReferralOp :=
  [.ledger (.tick 200),
    .ledger (.ensureBillingAccount { accountType := "subscription", ownerType := "user_subscription", ownerID := 7 }),
    .ledger (.creditAccount { accountID := "a0f", amount := 100, idempotencyKey := "grant" }),
    .ledger (.createReservation { accountID := "a0f", requestID := "r", reservedAmount := 100, idempotencyKey := "hold" }),
    .ledger (.settleReservation { reservationID := "a3f", actualAmount := 100, idempotencyKey := "subscription:7:settle:r" }),
    .consume (settledEvent "a6f") none]

def packAccount : BillingAccount :=
  { accountID := "a0f", accountType := "subscription", ownerType := "user_subscription", ownerID := 7, quotaUnit := "quota" }

theorem rollout_sample (orders : List SubscriptionOrder) : Rollout (rolloutStore orders) :=
  ⟨rfl, by simp [rolloutStore, ReferralStore.ledger, Ledger.empty], by simp [rolloutStore, ReferralStore.ledger, Ledger.empty]⟩

theorem key_ne_of_apart (key : String) (apart : Apart key "referral-consumption:") (settlementID : String) : key ≠ rebateKey settlementID := by
  have different := apart.ne "" settlementID
  rwa [String.append_empty] at different

theorem plain_pack_use : ∀ op ∈ packUse, op.Plain := by
  have grant := key_ne_of_apart (trimSpace "grant") (by decide)
  have hold := key_ne_of_apart ("entry:" ++ trimSpace "hold") (by decide)
  have settle := key_ne_of_apart ("entry:" ++ trimSpace "subscription:7:settle:r") (by decide)
  intro op member
  simp only [packUse, List.mem_cons, List.not_mem_nil, or_false] at member
  rcases member with rfl | rfl | rfl | rfl | rfl | rfl
  · exact ⟨by simp [LedgerOp.entryKeys], by simp⟩
  · exact ⟨by simp [LedgerOp.entryKeys], by simp⟩
  · exact ⟨fun key keyIn => by rw [List.mem_singleton.mp keyIn]; exact grant, by simp⟩
  · exact ⟨fun key keyIn => by rw [List.mem_singleton.mp keyIn]; exact hold, by simp⟩
  · refine ⟨fun key keyIn => by rw [List.mem_singleton.mp keyIn]; exact settle, fun params same => ?_⟩
    cases same
    decide
  · exact (by decide : Tight "a6f")

-- Half of the pack was paid for, and the inviter gets a tenth of that.
theorem rebates_are_cumulative_after_pack_use :
    rebateTotal (run (referralStep (sampleWalletEnv true)) (rolloutStore [packOrder]) packUse) 2 1 1000 = 5 ∧
      creditedTotal (run (referralStep (sampleWalletEnv true)) (rolloutStore [packOrder]) packUse) 2 1 1000 = 5 := by
  have sums := (rebates_are_cumulative (sampleWalletEnv true) (rolloutStore [packOrder]) (rollout_sample _) packUse plain_pack_use).2.2.2.1 2 1 1000
    (by decide) (by decide)
  have eligible : eligibleTotal (run (referralStep (sampleWalletEnv true)) (rolloutStore [packOrder]) packUse) 2 1 1000 = 50 := by decide +kernel
  rw [eligible] at sums
  exact ⟨sums.1, sums.2.trans sums.1⟩

-- Without a paid order the pack's use is recorded as not eligible, although half of it would be the floor.
theorem unordered_pack_not_eligible :
    packAccount ∈ (run (referralStep (sampleWalletEnv true)) (rolloutStore []) packUse).ledger.accounts.rows ∧
      packEligible (run (referralStep (sampleWalletEnv true)) (rolloutStore []) packUse) "a0f" = 0 ∧
      priorGross "a0f" (run (referralStep (sampleWalletEnv true)) (rolloutStore []) packUse) * samplePack.creditPackPaidQuota /
        samplePack.creditPackGrantedQuota = 50 := by
  decide +kernel

end CodeGo.Referral
