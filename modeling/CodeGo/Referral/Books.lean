import CodeGo.Referral.Receipts

set_option autoImplicit false

namespace CodeGo.Referral

open Relational Text Rounding Billing Marketplace

-- The settled debit behind a receipt.
structure Backing (ledger : Ledger) (receipt : ReferralConsumptionRebate) (settlement : BillingSettlement) (reservation : BillingReservation)
    (account : BillingAccount) : Prop where
  settled : settlement ∈ ledger.settlements.rows
  named : settlement.settlementID = receipt.settlementID
  positive : 0 < settlement.actualAmount
  reserved : reservation ∈ ledger.reservations.rows
  linked : reservation.reservationID = settlement.reservationID
  closed : reservation.status = .settled
  held : account ∈ ledger.accounts.rows
  holder : account.accountID = reservation.accountID

-- A rebate of zero leaves no entry; any other is one grant to the inviter's wallet.
def RebatePaid (ledger : Ledger) (receipt : ReferralConsumptionRebate) : Prop :=
  (receipt.rebateQuota = 0 ∧ ∀ entry ∈ ledger.entries.rows, entry.idempotencyKey ≠ rebateKey receipt.settlementID) ∨
    ∃ entry ∈ ledger.entries.rows, ∃ account ∈ ledger.accounts.rows, entry.idempotencyKey = rebateKey receipt.settlementID ∧
      entry.entryType = .grantCredit ∧ entry.amount = receipt.rebateQuota ∧ entry.accountID = account.accountID ∧
      ClaudeWalletOf receipt.inviterID account

def packTotal (store : ReferralStore) (accountID : String) (value : ReferralConsumptionRebate → BillingSettlement → Int) : Int :=
  store.receipts.total fun receipt => ((settledOn store.ledger accountID receipt.settlementID).map (value receipt)).sum

theorem prior_gross_eq (store : ReferralStore) (accountID : String) :
    priorGross accountID store = packTotal store accountID fun _ settlement => settlement.actualAmount := rfl

def packEligible (store : ReferralStore) (accountID : String) : Int := packTotal store accountID fun receipt _ => receipt.eligibleQuota

structure PackBooks (store : ReferralStore) (account : BillingAccount) (subscription : UserSubscription) : Prop where
  eligible : packEligible store account.accountID = packShare store subscription (priorGross account.accountID store)
  covered : PaidPack store subscription → priorGross account.accountID store ≤ subscription.creditPackGrantedQuota

structure Receipts (store : ReferralStore) : Prop where
  amounts : ∀ receipt ∈ store.receipts.rows, 0 ≤ receipt.eligibleQuota ∧ 0 ≤ receipt.rebateQuota
  rounded : ∀ inviteeID inviterID rateBPS,
    rebateTotal store inviteeID inviterID rateBPS = share (eligibleTotal store inviteeID inviterID rateBPS) rateBPS 10000
  backed : ∀ receipt ∈ store.receipts.rows, ∃ settlement reservation account, Backing store.ledger receipt settlement reservation account
  paid : ∀ receipt ∈ store.receipts.rows, RebatePaid store.ledger receipt
  named : ∀ entry ∈ store.ledger.entries.rows, ∀ settlementID, entry.idempotencyKey = rebateKey settlementID →
    ∃ receipt ∈ store.receipts.rows, receipt.settlementID = settlementID
  packs : ∀ account ∈ store.ledger.accounts.rows, account.ownerType = "user_subscription" → ∀ subscription,
    (store.market.subscriptions.find? fun row => row.id = account.ownerID) = some subscription → PackBooks store account subscription
  bounded : ∀ settlement ∈ store.ledger.settlements.rows, settlement.actualAmount ≤ maxInt64

-- The ledger has grown, and the rebate keys among its new entries are allowed ones.
structure Grown (allowed : String → Prop) (ledger after : Ledger) : Prop where
  extends_ : Extends ledger after
  accounts : ∀ account ∈ ledger.accounts.rows, account ∈ after.accounts.rows
  entries : ∀ entry ∈ after.entries.rows, entry ∈ ledger.entries.rows ∨
    ∀ settlementID, entry.idempotencyKey = rebateKey settlementID → allowed settlementID
  settlements : ∀ settlement ∈ after.settlements.rows, settlement ∈ ledger.settlements.rows ∨ settlement.actualAmount ≤ maxInt64

theorem Grown.trans {allowed : String → Prop} {ledger middle after : Ledger} (early : Grown allowed ledger middle)
    (late : Grown allowed middle after) : Grown allowed ledger after := by
  refine ⟨early.extends_.trans late.extends_, fun account member => late.accounts account (early.accounts account member), ?_, ?_⟩
  · intro entry member
    rcases late.entries entry member with old | fresh
    · exact early.entries entry old
    · exact .inr fresh
  · intro settlement member
    rcases late.settlements settlement member with old | bounded
    · exact early.settlements settlement old
    · exact .inr bounded

-- The operations of a transaction that stay within the allowed rebate keys.
def LedgerOp.Within (allowed : String → Prop) (op : LedgerOp) : Prop :=
  (∀ key ∈ op.entryKeys, ∀ settlementID, key = rebateKey settlementID → allowed settlementID) ∧
    ∀ params, op = .settleReservation params → params.actualAmount ≤ maxInt64

theorem grown_of_moves {allowed : String → Prop} {ops : List LedgerOp} {ledger after : Ledger} (moves : Moves ops ledger after)
    (within : ∀ op ∈ ops, LedgerOp.Within allowed op) : Grown allowed ledger after := by
  refine ⟨moves.extends, fun account member => moves.accounts account member, ?_, ?_⟩
  · intro entry member
    rcases moves.entry_key entry member with old | ⟨op, opIn, key⟩
    · exact .inl old
    · exact .inr fun settlementID isKey => (within op opIn).1 _ key settlementID isKey
  · intro settlement member
    rcases moves.settlement_origin settlement member with old | ⟨params, opIn, amount⟩
    · exact .inl old
    · exact .inr (amount ▸ (within _ opIn).2 params rfl)

theorem grown_unmoved {allowed : String → Prop} {ledger after : Ledger} (same : Unmoved ledger after) : Grown allowed ledger after :=
  grown_of_moves (.unmoved (.tick 0) same) (by simp [LedgerOp.Within, LedgerOp.entryKeys])

theorem Backing.grown {allowed : String → Prop} {ledger after : Ledger} {receipt : ReferralConsumptionRebate} {settlement : BillingSettlement}
    {reservation : BillingReservation} {account : BillingAccount} (backing : Backing ledger receipt settlement reservation account)
    (grown : Grown allowed ledger after) : Backing after receipt settlement reservation account :=
  ⟨grown.extends_.settlements settlement backing.settled, backing.named, backing.positive,
    grown.extends_.closed reservation backing.reserved (by simp [backing.closed]), backing.linked, backing.closed,
    grown.accounts account backing.held, backing.holder⟩

theorem RebatePaid.grown {ledger after : Ledger} {receipt : ReferralConsumptionRebate} {allowed : String → Prop}
    (paid : RebatePaid ledger receipt) (grown : Grown allowed ledger after) (other : ¬ allowed receipt.settlementID) : RebatePaid after receipt := by
  rcases paid with ⟨zero, absent⟩ | ⟨entry, entryIn, account, accountIn, facts⟩
  · refine .inl ⟨zero, fun entry entryIn isKey => ?_⟩
    rcases grown.entries entry entryIn with old | fresh
    · exact absent entry old isKey
    · exact other (fresh _ isKey)
  · exact .inr ⟨entry, grown.extends_.entries entry entryIn, account, grown.accounts account accountIn, facts⟩

-- The join of a backed receipt has its one settlement, on the account that settled it.
theorem Backing.settled_on {ledger : Ledger} {receipt : ReferralConsumptionRebate} {settlement : BillingSettlement}
    {reservation : BillingReservation} {account : BillingAccount} (backing : Backing ledger receipt settlement reservation account)
    (accountID : String) :
    settledOn ledger accountID receipt.settlementID = if account.accountID = accountID then [settlement] else [] := by
  have one := Table.filter_single ledger.settlements (fun settled => decide (settled.settlementID = receipt.settlementID)) settlement
    backing.settled (by simp [backing.named]) fun other _ hit => .inl (backing.named.trans (of_decide_eq_true hit).symm)
  rw [settledOn, one, List.flatMap_singleton]
  split
  · rename_i here
    have held := Table.filter_single ledger.reservations
      (fun reserved => decide (reserved.reservationID = settlement.reservationID ∧ reserved.accountID = accountID)) reservation backing.reserved
      (by simp [backing.linked, ← backing.holder, here]) fun other _ hit => .inl (backing.linked.trans (of_decide_eq_true hit).1.symm)
    rw [held, List.map_singleton]
  · rename_i elsewhere
    have none : (ledger.reservations.rows.filter fun reserved =>
        decide (reserved.reservationID = settlement.reservationID ∧ reserved.accountID = accountID)) = [] := by
      rw [List.filter_eq_nil_iff]
      intro other otherIn hit
      obtain ⟨sameID, sameAccount⟩ := of_decide_eq_true hit
      have isReservation : other = reservation := Table.eq_of_clash ledger.reservations other reservation otherIn backing.reserved
        (.inl (sameID.trans backing.linked.symm))
      exact elsewhere (backing.holder.trans (isReservation ▸ sameAccount))
    rw [none, List.map_nil]

section Recording

variable {store after : ReferralStore} {allowed : String → Prop}

theorem pack_total_grown (receipts : Receipts store) (grown : Grown allowed store.ledger after.ledger)
    (added : List ReferralConsumptionRebate) (appended : after.receipts.rows = store.receipts.rows ++ added) (accountID : String)
    (value : ReferralConsumptionRebate → BillingSettlement → Int) :
    packTotal after accountID value = packTotal store accountID value +
      (added.map fun receipt => ((settledOn after.ledger accountID receipt.settlementID).map (value receipt)).sum).sum := by
  rw [packTotal, Table.total_append _ _ _ _ appended, packTotal]
  congr 1
  refine Table.total_congr _ _ _ fun receipt member => ?_
  obtain ⟨settlement, reservation, account, backing⟩ := receipts.backed receipt member
  rw [backing.settled_on, (backing.grown grown).settled_on]

-- An account that was opened after the last receipt has no receipts.
theorem pack_total_opened (receipts : Receipts store) (grown : Grown allowed store.ledger after.ledger) (account : BillingAccount)
    (member : account ∈ after.ledger.accounts.rows) (opened : account ∉ store.ledger.accounts.rows)
    (value : ReferralConsumptionRebate → BillingSettlement → Int) : packTotal store account.accountID value = 0 := by
  have empty : ∀ receipt ∈ store.receipts.rows,
      ((settledOn store.ledger account.accountID receipt.settlementID).map (value receipt)).sum = (0 : Int) := by
    intro receipt receiptIn
    obtain ⟨settlement, reservation, other, backing⟩ := receipts.backed receipt receiptIn
    have different : other.accountID ≠ account.accountID := by
      intro same
      have isAccount : other = account := Table.eq_of_clash after.ledger.accounts other account (grown.accounts other backing.held) member
        (clash_of_account_id _ _ same)
      exact opened (isAccount ▸ backing.held)
    rw [backing.settled_on, if_neg different]
    rfl
  rw [packTotal, Table.total_congr _ _ _ empty]
  simp [Table.total]

theorem share_of_same_orders (orders : after.orders = store.orders) (subscription : UserSubscription) (gross : Int) :
    packShare after subscription gross = packShare store subscription gross := by
  simp [packShare, PaidPack, orders]

theorem Receipts.bounded_grown (receipts : Receipts store) (grown : Grown allowed store.ledger after.ledger) :
    ∀ settlement ∈ after.ledger.settlements.rows, settlement.actualAmount ≤ maxInt64 := by
  intro settlement member
  rcases grown.settlements settlement member with old | bounded
  · exact receipts.bounded settlement old
  · exact bounded

-- A pack without a new receipt, whether its account is an old one or has been opened since.
theorem Receipts.pack_kept (receipts : Receipts store) (grown : Grown allowed store.ledger after.ledger) (orders : after.orders = store.orders)
    (account : BillingAccount) (member : account ∈ after.ledger.accounts.rows) (isPack : account.ownerType = "user_subscription")
    (subscription : UserSubscription) (found : (store.market.subscriptions.find? fun row => row.id = account.ownerID) = some subscription)
    (totals : ∀ value, packTotal after account.accountID value = packTotal store account.accountID value) :
    PackBooks after account subscription := by
  by_cases known : account ∈ store.ledger.accounts.rows
  · have books := receipts.packs account known isPack subscription found
    refine ⟨?_, fun paid => ?_⟩
    · rw [packEligible, prior_gross_eq, totals, totals, share_of_same_orders orders]
      exact books.eligible
    · rw [prior_gross_eq, totals]
      exact books.covered (by simpa [PaidPack, orders] using paid)
  · have none := fun value => pack_total_opened receipts grown account member known value
    refine ⟨?_, fun paid => ?_⟩
    · rw [packEligible, prior_gross_eq, totals, totals, none, none]
      simp [packShare, floorPaidQuota]
    · rw [prior_gross_eq, totals, none]
      have valid := paid.1
      unfold SnapshotInvalid at valid
      omega

-- Whatever else the ledger does, the receipts stay in order.
theorem Receipts.kept (receipts : Receipts store) (grown : Grown (fun _ => False) store.ledger after.ledger)
    (same : after.receipts = store.receipts) (orders : after.orders = store.orders)
    (subscriptions : after.market.subscriptions = store.market.subscriptions) : Receipts after := by
  have totals := fun accountID value => pack_total_grown receipts grown [] (by simp [same]) accountID value
  simp only [List.map_nil, List.sum_nil, Int.add_zero] at totals
  refine ⟨by rw [same]; exact receipts.amounts, ?_, ?_, ?_, ?_, ?_, receipts.bounded_grown grown⟩
  · intro inviteeID inviterID rateBPS
    simpa only [rebateTotal, eligibleTotal, same] using receipts.rounded inviteeID inviterID rateBPS
  · intro receipt member
    obtain ⟨settlement, reservation, account, backing⟩ := receipts.backed receipt (by rwa [same] at member)
    exact ⟨settlement, reservation, account, backing.grown grown⟩
  · intro receipt member
    exact (receipts.paid receipt (by rwa [same] at member)).grown grown (by simp)
  · intro entry member settlementID isKey
    rcases grown.entries entry member with old | fresh
    · rw [same]
      exact receipts.named entry old settlementID isKey
    · exact (fresh settlementID isKey).elim
  · intro account member isPack subscription found
    exact receipts.pack_kept grown orders account member isPack subscription (by rwa [subscriptions] at found) fun value => totals _ value

theorem total_of_appended (receipt : ReferralConsumptionRebate) (appended : after.receipts.rows = store.receipts.rows ++ [receipt])
    (inviteeID inviterID rateBPS : Int) :
    eligibleTotal after inviteeID inviterID rateBPS = eligibleTotal store inviteeID inviterID rateBPS +
        (if receipt.Of inviteeID inviterID rateBPS then receipt.eligibleQuota else 0) ∧
      rebateTotal after inviteeID inviterID rateBPS = rebateTotal store inviteeID inviterID rateBPS +
        (if receipt.Of inviteeID inviterID rateBPS then receipt.rebateQuota else 0) := by
  simp [eligibleTotal, rebateTotal, Table.total_append _ _ _ _ appended]

-- One more receipt: its rebate closes the gap to the rounded total, and its pack's share moves with the gross amount.
theorem Receipts.recorded (receipts : Receipts store) (receipt : ReferralConsumptionRebate) (settlement : BillingSettlement)
    (reservation : BillingReservation) (account : BillingAccount) (subscription : UserSubscription)
    (grown : Grown (· = receipt.settlementID) store.ledger after.ledger)
    (appended : after.receipts.rows = store.receipts.rows ++ [receipt]) (orders : after.orders = store.orders)
    (subscriptions : after.market.subscriptions = store.market.subscriptions)
    (fresh : ∀ other ∈ store.receipts.rows, other.settlementID ≠ receipt.settlementID)
    (amounts : 0 ≤ receipt.eligibleQuota ∧ 0 ≤ receipt.rebateQuota)
    (rebate : receipt.rebateQuota = share (eligibleTotal store receipt.inviteeID receipt.inviterID receipt.rateBPS + receipt.eligibleQuota)
      receipt.rateBPS 10000 - rebateTotal store receipt.inviteeID receipt.inviterID receipt.rateBPS)
    (backing : Backing store.ledger receipt settlement reservation account) (paid : RebatePaid after.ledger receipt)
    (packed : account.ownerType = "user_subscription" →
      (store.market.subscriptions.find? fun row => row.id = account.ownerID) = some subscription)
    (pack : account.ownerType = "user_subscription" → receipt.eligibleQuota =
      packShare store subscription (priorGross account.accountID store + settlement.actualAmount) -
        packShare store subscription (priorGross account.accountID store))
    (covered : account.ownerType = "user_subscription" → PaidPack store subscription →
      priorGross account.accountID store + settlement.actualAmount ≤ subscription.creditPackGrantedQuota) : Receipts after := by
  have rowOf : ∀ row ∈ after.receipts.rows, row ∈ store.receipts.rows ∨ row = receipt := by
    intro row member
    simpa [appended] using member
  have totals := fun accountID value => pack_total_grown receipts grown [receipt] appended accountID value
  simp only [List.map_singleton, List.sum_singleton, (backing.grown grown).settled_on] at totals
  refine ⟨?_, ?_, ?_, ?_, ?_, ?_, receipts.bounded_grown grown⟩
  · intro row member
    rcases rowOf row member with old | rfl
    · exact receipts.amounts row old
    · exact amounts
  · intro inviteeID inviterID rateBPS
    obtain ⟨eligible, rebated⟩ := total_of_appended receipt appended inviteeID inviterID rateBPS
    rw [eligible, rebated]
    by_cases mine : receipt.Of inviteeID inviterID rateBPS
    · obtain ⟨rfl, rfl, rfl⟩ := mine
      rw [if_pos ⟨rfl, rfl, rfl⟩, if_pos ⟨rfl, rfl, rfl⟩, rebate]
      omega
    · rw [if_neg mine, if_neg mine, Int.add_zero, Int.add_zero]
      exact receipts.rounded inviteeID inviterID rateBPS
  · intro row member
    rcases rowOf row member with old | rfl
    · obtain ⟨settlement, reservation, account, backing⟩ := receipts.backed row old
      exact ⟨settlement, reservation, account, backing.grown grown⟩
    · exact ⟨settlement, reservation, account, backing.grown grown⟩
  · intro row member
    rcases rowOf row member with old | rfl
    · exact (receipts.paid row old).grown grown (fresh row old)
    · exact paid
  · intro entry member settlementID isKey
    rcases grown.entries entry member with old | allowed
    · obtain ⟨row, rowIn, rowNamed⟩ := receipts.named entry old settlementID isKey
      exact ⟨row, by simp [appended, rowIn], rowNamed⟩
    · exact ⟨receipt, by simp [appended], (allowed settlementID isKey).symm⟩
  · intro other member isPack row found
    rw [subscriptions] at found
    by_cases here : account.accountID = other.accountID
    · have isAccount : account = other := Table.eq_of_clash after.ledger.accounts account other (grown.accounts account backing.held) member
        (clash_of_account_id _ _ here)
      subst isAccount
      have isSubscription : subscription = row := Option.some.inj ((packed isPack).symm.trans found)
      subst isSubscription
      have books := receipts.packs account backing.held isPack subscription found
      have gross : priorGross account.accountID after = priorGross account.accountID store + settlement.actualAmount := by
        rw [prior_gross_eq, totals, if_pos rfl, prior_gross_eq]
        simp
      refine ⟨?_, fun paidPack => ?_⟩
      · rw [gross, share_of_same_orders orders, packEligible, totals, if_pos rfl]
        have before := books.eligible
        have moved := pack isPack
        rw [packEligible] at before
        simp only [List.map_singleton, List.sum_singleton]
        omega
      · rw [gross]
        exact covered isPack (by simpa [PaidPack, orders] using paidPack)
    · refine receipts.pack_kept grown orders other member isPack row found fun value => ?_
      rw [totals, if_neg here]
      simp

end Recording

end CodeGo.Referral
