import CodeGo.Wallet.Effects
import CodeGo.Marketplace.Referral

set_option autoImplicit false

namespace CodeGo.Marketplace

open Relational Text Billing

def pendingAccountType : String := "marketplace_owner_pending"

abbrev PendingAccountOf (ownerUserID : Int) (account : BillingAccount) : Prop := AccountOf pendingAccountType "user" ownerUserID account

-- What a settlement still promises to its owner.
def Settlement.due (item : Settlement) : Int := if item.status = .pending then item.ownerNetAmount else 0

def pendingTotal (settlements : Table Settlement) (ownerUserID : Int) : Int :=
  settlements.total fun item => if item.ownerUserID = ownerUserID then item.due else 0

def releaseKey (settlementID : String) : String := "marketplace-release-reserve:" ++ settlementID

def forfeitKey (settlementID : String) : String := "marketplace-forfeit:" ++ settlementID ++ ":reserve"

def debitKey (financialSettlementID : String) : String := referralKey financialSettlementID ++ ":reserve"

def pendingKey (requestID : String) : String := "marketplace-pending:" ++ requestID

def ClosesKey (key settlementID : String) : Prop := key = releaseKey settlementID ∨ key = forfeitKey settlementID

-- Money only sits on accounts that exist.
def Backed (ledger : Ledger) : Prop :=
  ∀ accountID, (∀ account ∈ ledger.accounts.rows, account.accountID ≠ accountID) → ledger.balance accountID = { accountID := accountID }

/- The invariant of the marketplace books. The last four fields tie the idempotency keys in
   the ledger to the settlement rows: a key that could make a later ledger call a replay is
   only there when the row says that the money has moved. -/
structure Books (market : Market) : Prop where
  sound : Sound market.wallet.ledger
  backed : Backed market.wallet.ledger
  owned : ∀ item ∈ market.settlements.rows, ∃ account ∈ market.wallet.ledger.accounts.rows,
    account.accountID = item.pendingAccountID ∧ PendingAccountOf item.ownerUserID account
  promised : ∀ item ∈ market.settlements.rows, 0 ≤ item.ownerNetAmount
  balanced : ∀ ownerUserID, ∀ account ∈ market.wallet.ledger.accounts.rows, PendingAccountOf ownerUserID account →
    (market.wallet.ledger.balance account.accountID).availableBalance = pendingTotal market.settlements ownerUserID ∧
      (market.wallet.ledger.balance account.accountID).reservedBalance = 0
  named : ∀ item ∈ market.settlements.rows, Tight item.id
  closed : ∀ reservation ∈ market.wallet.ledger.reservations.rows, ∀ settlementID, ClosesKey reservation.idempotencyKey settlementID →
    ∃ item ∈ market.settlements.rows, item.id = settlementID ∧ item.status ≠ .pending
  recorded : ∀ entry ∈ market.wallet.ledger.entries.rows, ∀ requestID, entry.idempotencyKey = pendingKey requestID →
    ∃ item ∈ market.settlements.rows, item.requestID = requestID
  debited : ∀ reservation ∈ market.wallet.ledger.reservations.rows, ∀ financialSettlementID,
    reservation.idempotencyKey = debitKey financialSettlementID →
      ∃ settlement ∈ market.wallet.ledger.settlements.rows, settlement.idempotencyKey = referralKey financialSettlementID ++ ":settle"

-- A payment out of a pending account, whatever else it does to the wallets of users.
structure Payout (ledger after : Ledger) (accountID : String) (amount : Int) (reserveKey : String) : Prop where
  sound : Sound after
  kept : ∀ account ∈ ledger.accounts.rows, account ∈ after.accounts.rows
  opened : ∀ account ∈ after.accounts.rows, account ∈ ledger.accounts.rows ∨ account.accountType ≠ pendingAccountType
  here : after.balance accountID = consumeFunds (ledger.balance accountID) amount
  elsewhere : ∀ other, other ≠ accountID →
    (∀ account ∈ after.accounts.rows, account.accountID = other → account.accountType = pendingAccountType) →
    after.balance other = ledger.balance other
  reservations : ∀ reservation ∈ after.reservations.rows,
    (∃ before ∈ ledger.reservations.rows, before.idempotencyKey = reservation.idempotencyKey) ∨ reservation.idempotencyKey = reserveKey
  entries : ∀ entry ∈ after.entries.rows, entry ∈ ledger.entries.rows ∨ ∀ requestID, entry.idempotencyKey ≠ pendingKey requestID
  settlements : ∀ settlement ∈ ledger.settlements.rows, settlement ∈ after.settlements.rows

theorem Payout.refl (ledger : Ledger) (accountID reserveKey : String) (sound : Sound ledger) : Payout ledger ledger accountID 0 reserveKey :=
  ⟨sound, fun _ member => member, fun _ member => .inl member, by simp, fun _ _ _ => rfl,
    fun reservation member => .inl ⟨reservation, member, rfl⟩, fun _ member => .inl member, fun _ member => member⟩

theorem Payout.backed {ledger after : Ledger} {accountID reserveKey : String} {amount : Int} (payout : Payout ledger after accountID amount reserveKey)
    (backed : Backed ledger) (account : BillingAccount) (member : account ∈ ledger.accounts.rows) (same : account.accountID = accountID) :
    Backed after := by
  intro other unknown
  have different : other ≠ accountID := by
    intro isHere
    exact unknown account (payout.kept account member) (same.trans isHere.symm)
  rw [payout.elsewhere other different fun row rowIn isOther => (unknown row rowIn isOther).elim]
  exact backed other fun row rowIn => unknown row (payout.kept row rowIn)

theorem due_replaced {settlements next : Table Settlement} {item new : Settlement} (replaced : Table.Replaced settlements next item new)
    (sameOwner : new.ownerUserID = item.ownerUserID) (ownerUserID : Int) :
    pendingTotal next ownerUserID =
      pendingTotal settlements ownerUserID - if item.ownerUserID = ownerUserID then item.due - new.due else 0 := by
  rw [pendingTotal, replaced.total, sameOwner, pendingTotal]
  by_cases mine : item.ownerUserID = ownerUserID
  · simp only [mine, if_true]
    omega
  · simp [mine]

-- A settlement row changes together with the payment of what it no longer promises.
theorem Books.paid {market after : Market} {item new : Settlement} {reserveKey : String} (books : Books market)
    (replaced : Table.Replaced market.settlements after.settlements item new) (pending : item.status = .pending)
    (sameID : new.id = item.id) (sameRequest : new.requestID = item.requestID) (sameOwner : new.ownerUserID = item.ownerUserID)
    (sameAccount : new.pendingAccountID = item.pendingAccountID) (promised : 0 ≤ new.ownerNetAmount)
    (payout : Payout market.wallet.ledger after.wallet.ledger item.pendingAccountID (item.due - new.due) reserveKey)
    (closes : ∀ settlementID, ClosesKey reserveKey settlementID → new.id = settlementID ∧ new.status ≠ .pending)
    (debits : ∀ financialSettlementID, reserveKey = debitKey financialSettlementID →
      ∃ settlement ∈ after.wallet.ledger.settlements.rows, settlement.idempotencyKey = referralKey financialSettlementID ++ ":settle") :
    Books after := by
  have member := replaced.old_mem
  obtain ⟨account, accountIn, accountID, accountOf⟩ := books.owned item member
  have rowOf : ∀ row ∈ after.settlements.rows, row = new ∨ row ∈ market.settlements.rows := fun row rowIn =>
    (replaced.mem row rowIn).imp_right And.left
  refine ⟨payout.sound, payout.backed books.backed account accountIn accountID, ?_, ?_, ?_, ?_, ?_, ?_, ?_⟩
  · intro row rowIn
    rcases rowOf row rowIn with rfl | old
    · exact ⟨account, payout.kept account accountIn, accountID.trans sameAccount.symm, by rwa [sameOwner]⟩
    · obtain ⟨other, otherIn, otherFacts⟩ := books.owned row old
      exact ⟨other, payout.kept other otherIn, otherFacts⟩
  · intro row rowIn
    rcases rowOf row rowIn with rfl | old
    · exact promised
    · exact books.promised row old
  · intro ownerUserID other otherIn otherOf
    rcases payout.opened other otherIn with otherOld | wrongKind
    · have before := books.balanced ownerUserID other otherOld otherOf
      rw [due_replaced replaced sameOwner]
      by_cases isHere : other.accountID = item.pendingAccountID
      · have sameRow : other = account := Table.eq_of_clash _ _ _ otherOld accountIn
          (clash_of_account_id _ _ (isHere.trans accountID.symm))
        have owner : item.ownerUserID = ownerUserID := by
          rw [← otherOf.owner, sameRow, accountOf.owner]
        rw [isHere] at before ⊢
        rw [payout.here, if_pos owner]
        exact ⟨by simp only [consumeFunds]; omega, by simpa [consumeFunds] using before.2⟩
      · have foreign : item.ownerUserID ≠ ownerUserID := by
          intro same
          rw [← same] at otherOf
          exact isHere ((congrArg BillingAccount.accountID (otherOf.unique accountOf otherOld accountIn)).trans accountID)
        have untouched := payout.elsewhere other.accountID isHere fun row rowIn sameRow =>
          Table.eq_of_clash _ _ _ rowIn otherIn (clash_of_account_id _ _ sameRow) ▸ otherOf.kind
        rw [untouched, if_neg foreign]
        simpa using before
    · exact (wrongKind otherOf.kind).elim
  · intro row rowIn
    rcases rowOf row rowIn with rfl | old
    · exact sameID ▸ books.named item member
    · exact books.named row old
  · intro reservation reservationIn settlementID closesRow
    rcases payout.reservations reservation reservationIn with ⟨before, beforeIn, sameKey⟩ | fresh
    · obtain ⟨row, rowIn, rowID, rowClosed⟩ := books.closed before beforeIn settlementID (by rwa [sameKey])
      rcases replaced.kept row rowIn with rfl | kept
      · exact (rowClosed pending).elim
      · exact ⟨row, kept, rowID, rowClosed⟩
    · exact ⟨new, replaced.new_mem, closes settlementID (by rwa [fresh] at closesRow)⟩
  · intro entry entryIn requestID isPending
    rcases payout.entries entry entryIn with old | never
    · obtain ⟨row, rowIn, rowRequest⟩ := books.recorded entry old requestID isPending
      rcases replaced.kept row rowIn with rfl | kept
      · exact ⟨new, replaced.new_mem, sameRequest.trans rowRequest⟩
      · exact ⟨row, kept, rowRequest⟩
    · exact (never requestID isPending).elim
  · intro reservation reservationIn financialSettlementID isDebit
    rcases payout.reservations reservation reservationIn with ⟨before, beforeIn, sameKey⟩ | fresh
    · obtain ⟨settlement, settlementIn, key⟩ := books.debited before beforeIn financialSettlementID (by rwa [sameKey])
      exact ⟨settlement, payout.settlements settlement settlementIn, key⟩
    · exact debits financialSettlementID (by rwa [fresh] at isDebit)

theorem payout_of_spend (env : LedgerEnv) (create : CreateReservationParams) (settle : SettleReservationParams)
    (ledger middle after : Ledger) (reservation : BillingReservation) (settlement : BillingSettlement)
    (created : createReservationTx env create ledger = (.ok reservation, middle))
    (settled : settleReservationTx env settle middle = (.ok settlement, after)) (names : settle.reservationID = reservation.reservationID)
    (full : settle.actualAmount = create.reservedAmount) (sound : Sound ledger)
    (unused : ∀ row ∈ ledger.reservations.rows, row.idempotencyKey ≠ create.idempotencyKey) (tight : Tight create.idempotencyKey) :
    Payout ledger after create.accountID create.reservedAmount create.idempotencyKey := by
  have spent := spent_of_create_settle env create settle ledger middle after reservation settlement sound unused created names full settled
  have moves : Moves [.createReservation create, .settleReservation settle] ledger after :=
    .cons (create_effect env _ _ _ _ created) (.single (settle_effect env _ _ _ _ settled))
  have entryApart : Apart "entry:" "marketplace-pending:" := by decide
  refine ⟨moves.sound sound, fun account member => by rwa [spent.accounts], fun account member => .inl (by rwa [spent.accounts] at member),
    spent.here, fun other different _ => spent.elsewhere other different, fun row rowIn => ?_, fun entry entryIn => ?_, moves.extends.settlements⟩
  · refine (moves.reservation_key row rowIn).imp_right ?_
    rintro ⟨op, opIn, key⟩
    simp only [List.mem_cons, List.not_mem_nil, or_false] at opIn
    rcases opIn with rfl | rfl
    · simpa [LedgerOp.reservationKeys, trim_space_tight _ tight] using key
    · simp [LedgerOp.reservationKeys] at key
  · refine (moves.entry_key entry entryIn).imp_right ?_
    rintro ⟨op, opIn, key⟩ requestID
    simp only [List.mem_cons, List.not_mem_nil, or_false] at opIn
    rcases opIn with rfl | rfl
    · rw [LedgerOp.entryKeys, List.mem_singleton] at key
      exact key ▸ entryApart.ne _ _
    · rw [LedgerOp.entryKeys, List.mem_singleton] at key
      exact key ▸ entryApart.ne _ _

-- Crediting somebody's unified wallet afterwards does not touch the pending accounts.
theorem Payout.credited {ledger : Ledger} {wallet after : Wallet} {accountID reserveKey : String} {amount : Int} {credit : WalletCredit}
    {account pendingAccount : BillingAccount} (payout : Payout ledger wallet.ledger accountID amount reserveKey)
    (credited : WalletCredited wallet credit account after) (apart : ∀ requestID, trimSpace credit.idempotencyKey ≠ pendingKey requestID)
    (pendingIn : pendingAccount ∈ ledger.accounts.rows) (named : pendingAccount.accountID = accountID)
    (pendingKind : pendingAccount.accountType = pendingAccountType) : Payout ledger after.ledger accountID amount reserveKey := by
  have walletKind : account.accountType ≠ pendingAccountType := by
    rw [credited.owner.kind]
    decide
  have kept : ∀ row ∈ wallet.ledger.accounts.rows, row ∈ after.ledger.accounts.rows := fun row rowIn => credited.moves.accounts row rowIn
  have notHere : accountID ≠ account.accountID := by
    rw [← named]
    exact account_id_ne_of_kind (kept _ (payout.kept _ pendingIn)) credited.member fun same => walletKind (same ▸ pendingKind)
  refine ⟨credited.moves.sound payout.sound, fun row rowIn => kept row (payout.kept row rowIn), fun row rowIn => ?_, ?_, ?_, fun row rowIn => ?_,
    fun entry entryIn => ?_, fun settlement member => by rw [credited.settlements]; exact payout.settlements settlement member⟩
  · rcases credited.opened with same | appended
    · exact payout.opened row (same ▸ rowIn)
    · rw [appended, List.mem_append, List.mem_singleton] at rowIn
      rcases rowIn with old | rfl
      · exact payout.opened row old
      · exact .inr walletKind
  · rw [credited.elsewhere accountID notHere, payout.here]
  · intro other different onlyPending
    have notWallet : other ≠ account.accountID := fun same => walletKind (onlyPending account credited.member same.symm)
    rw [credited.elsewhere other notWallet]
    exact payout.elsewhere other different fun row rowIn => onlyPending row (kept row rowIn)
  · exact payout.reservations row (by rwa [credited.reservations] at rowIn)
  · rcases credited.moves.entry_key entry entryIn with old | ⟨op, opIn, key⟩
    · exact payout.entries entry old
    · refine .inr fun requestID => ?_
      simp only [List.mem_cons, List.not_mem_nil, or_false] at opIn
      rcases opIn with rfl | rfl | rfl | rfl
      · simp [LedgerOp.entryKeys] at key
      · rw [LedgerOp.entryKeys, List.mem_singleton] at key
        exact key ▸ mirror_key_ne credit.userID (by decide) requestID
      · rw [LedgerOp.entryKeys, List.mem_singleton] at key
        exact key ▸ apart requestID
      · simp [LedgerOp.entryKeys] at key

-- The earnings of one request on their way into the pending account of the owner.
structure Collected (ledger after : Ledger) (account : BillingAccount) (amount : Int) (requestID : String) : Prop where
  sound : Sound after
  kept : ∀ row ∈ ledger.accounts.rows, row ∈ after.accounts.rows
  member : account ∈ after.accounts.rows
  here : after.balance account.accountID = creditFunds (ledger.balance account.accountID) amount
  elsewhere : ∀ other, other ≠ account.accountID →
    (∀ row ∈ after.accounts.rows, row.accountID = other → row.accountType = pendingAccountType) → after.balance other = ledger.balance other
  entries : ∀ entry ∈ after.entries.rows, entry ∈ ledger.entries.rows ∨ ∀ other, entry.idempotencyKey = pendingKey other → other = requestID
  reservations : after.reservations = ledger.reservations
  settlements : after.settlements = ledger.settlements

theorem Books.no_account_no_items {market : Market} (books : Books market) (ownerUserID : Int)
    (absent : ∀ account ∈ market.wallet.ledger.accounts.rows, ¬ PendingAccountOf ownerUserID account) :
    pendingTotal market.settlements ownerUserID = 0 := by
  have foreign : ∀ item ∈ market.settlements.rows, (if item.ownerUserID = ownerUserID then item.due else 0) = (0 : Int) := by
    intro item member
    obtain ⟨account, accountIn, _, accountOf⟩ := books.owned item member
    rw [if_neg]
    intro mine
    exact absent account accountIn (mine ▸ accountOf)
  rw [pendingTotal, Table.total_congr _ _ _ foreign]
  simp [Table.total]

-- A pending account that is opened now was empty, and its owner had no earnings.
theorem Books.balance_of_opened {market : Market} {after : Ledger} {account : BillingAccount} {ownerUserID : Int} (books : Books market)
    (accountOf : PendingAccountOf ownerUserID account) (accountIn : account ∈ after.accounts.rows)
    (kept : ∀ row ∈ market.wallet.ledger.accounts.rows, row ∈ after.accounts.rows) :
    (market.wallet.ledger.balance account.accountID).availableBalance = pendingTotal market.settlements ownerUserID ∧
      (market.wallet.ledger.balance account.accountID).reservedBalance = 0 := by
  by_cases known : account ∈ market.wallet.ledger.accounts.rows
  · exact books.balanced ownerUserID account known accountOf
  · have unknown : ∀ row ∈ market.wallet.ledger.accounts.rows, row.accountID ≠ account.accountID := by
      intro row rowIn same
      exact known (Table.eq_of_clash after.accounts row account (kept row rowIn) accountIn (clash_of_account_id _ _ same) ▸ rowIn)
    have absent : ∀ row ∈ market.wallet.ledger.accounts.rows, ¬ PendingAccountOf ownerUserID row := by
      intro row rowIn rowOf
      exact known (rowOf.unique accountOf (kept row rowIn) accountIn ▸ rowIn)
    rw [books.backed account.accountID unknown, books.no_account_no_items ownerUserID absent]
    exact ⟨rfl, rfl⟩

theorem Books.collected {market after : Market} {item : Settlement} {account : BillingAccount} (books : Books market)
    (appended : after.settlements.rows = market.settlements.rows ++ [item]) (pending : item.status = .pending)
    (promised : 0 ≤ item.ownerNetAmount) (named : Tight item.id) (isAccount : account.accountID = item.pendingAccountID)
    (accountOf : PendingAccountOf item.ownerUserID account)
    (collected : Collected market.wallet.ledger after.wallet.ledger account item.ownerNetAmount item.requestID) : Books after := by
  have rowOf : ∀ row ∈ after.settlements.rows, row ∈ market.settlements.rows ∨ row = item := by
    intro row rowIn
    simpa [appended] using rowIn
  have itemIn : item ∈ after.settlements.rows := by simp [appended]
  have totals : ∀ ownerUserID, pendingTotal after.settlements ownerUserID =
      pendingTotal market.settlements ownerUserID + if item.ownerUserID = ownerUserID then item.ownerNetAmount else 0 := by
    intro ownerUserID
    rw [pendingTotal, Table.total_append _ _ _ _ appended, pendingTotal]
    simp [Settlement.due, pending]
  refine ⟨collected.sound, ?_, ?_, ?_, ?_, ?_, ?_, ?_, ?_⟩
  · intro other unknown
    have different : other ≠ account.accountID := fun same => unknown account collected.member same.symm
    rw [collected.elsewhere other different fun row rowIn isOther => (unknown row rowIn isOther).elim]
    exact books.backed other fun row rowIn => unknown row (collected.kept row rowIn)
  · intro row rowIn
    rcases rowOf row rowIn with old | rfl
    · obtain ⟨owned, ownedIn, facts⟩ := books.owned row old
      exact ⟨owned, collected.kept owned ownedIn, facts⟩
    · exact ⟨account, collected.member, isAccount, accountOf⟩
  · intro row rowIn
    rcases rowOf row rowIn with old | rfl
    · exact books.promised row old
    · exact promised
  · intro ownerUserID other otherIn otherOf
    rw [totals]
    by_cases isHere : other.accountID = account.accountID
    · have sameRow : other = account := Table.eq_of_clash _ _ _ otherIn collected.member (clash_of_account_id _ _ isHere)
      have owner : item.ownerUserID = ownerUserID := by rw [← otherOf.owner, sameRow, accountOf.owner]
      have before := books.balance_of_opened accountOf collected.member collected.kept
      rw [isHere, collected.here, if_pos owner, ← owner]
      exact ⟨by simp only [creditFunds]; omega, by simpa [creditFunds] using before.2⟩
    · have foreign : item.ownerUserID ≠ ownerUserID := by
        intro same
        rw [← same] at otherOf
        exact isHere (congrArg BillingAccount.accountID (otherOf.unique accountOf otherIn collected.member))
      have untouched := collected.elsewhere other.accountID isHere fun row rowIn sameRow =>
        Table.eq_of_clash _ _ _ rowIn otherIn (clash_of_account_id _ _ sameRow) ▸ otherOf.kind
      rw [untouched, if_neg foreign]
      simpa using books.balance_of_opened otherOf otherIn collected.kept
  · intro row rowIn
    rcases rowOf row rowIn with old | rfl
    · exact books.named row old
    · exact named
  · intro reservation reservationIn settlementID closes
    rw [collected.reservations] at reservationIn
    obtain ⟨row, rowIn, facts⟩ := books.closed reservation reservationIn settlementID closes
    exact ⟨row, by simp [appended, rowIn], facts⟩
  · intro entry entryIn requestID isPending
    rcases collected.entries entry entryIn with old | fresh
    · obtain ⟨row, rowIn, rowRequest⟩ := books.recorded entry old requestID isPending
      exact ⟨row, by simp [appended, rowIn], rowRequest⟩
    · exact ⟨item, itemIn, (fresh requestID isPending).symm⟩
  · intro reservation reservationIn financialSettlementID isDebit
    rw [collected.reservations] at reservationIn
    rw [collected.settlements]
    exact books.debited reservation reservationIn financialSettlementID isDebit

end CodeGo.Marketplace
