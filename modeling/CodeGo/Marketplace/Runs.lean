import CodeGo.Marketplace.Pending

set_option autoImplicit false

namespace CodeGo.Marketplace

open Relational Text Billing

theorem ran_find_by_request (requestID : String) (market after : Market) (found : Option Settlement)
    (ran : findSettlementByRequest requestID market = (.ok found, after)) :
    market = after ∧ ∀ item, found = some item → item ∈ market.settlements.rows := by
  rw [findSettlementByRequest, Tx.ran_view] at ran
  obtain ⟨rfl, rfl⟩ := ran
  exact ⟨rfl, fun item isItem => (Table.mem_of_find? _ _ _ isItem).1⟩

theorem books_of_debits (env : WalletEnv) (debits : List (String × Int)) (item charged : Settlement) (market after : Market)
    (ran : debitReferrals env item debits market = (.ok charged, after)) (books : Books market) (member : item ∈ market.settlements.rows) :
    Books after ∧ charged ∈ after.settlements.rows := by
  induction debits generalizing item market with
  | nil =>
      rw [debitReferrals, Tx.ran_pure] at ran
      obtain ⟨rfl, rfl⟩ := ran
      exact ⟨books, member⟩
  | cons debit rest ih =>
      obtain ⟨financialSettlementID, amount⟩ := debit
      rw [debitReferrals, Tx.ran_bind] at ran
      obtain ⟨next, middle, first, later⟩ := ran
      obtain ⟨middleBooks, nextIn⟩ := charged_by_debit env item next financialSettlementID amount market middle first books member
      exact ih next middle later middleBooks nextIn

-- A pending row is rewritten without moving what it promises.
theorem Books.relabelled {market : Market} {settlements : Table Settlement} {item new : Settlement} (books : Books market)
    (replaced : Table.Replaced market.settlements settlements item new) (pending : item.status = .pending) (sameID : new.id = item.id)
    (sameRequest : new.requestID = item.requestID) (sameOwner : new.ownerUserID = item.ownerUserID)
    (sameAccount : new.pendingAccountID = item.pendingAccountID) (sameNet : new.ownerNetAmount = item.ownerNetAmount)
    (sameStatus : new.status = item.status) : Books { market with settlements } := by
  have due : item.due - new.due = 0 := by simp [Settlement.due, sameNet, sameStatus]
  -- No reservation is made, so a key that closes and debits nothing serves as the payout's key.
  have release : Apart "untouched" "marketplace-release-reserve:" := by decide
  have forfeit : Apart "untouched" "marketplace-forfeit:" := by decide
  have referral : Apart "untouched" "marketplace-referral:" := by decide
  have plain : "untouched" ++ "" = "untouched" := String.append_empty
  have payout := Payout.refl market.wallet.ledger item.pendingAccountID "untouched" books.sound
  have promised : 0 ≤ new.ownerNetAmount := sameNet ▸ books.promised item replaced.old_mem
  refine @Books.paid market { market with settlements } item new "untouched" books replaced pending sameID sameRequest sameOwner sameAccount
    promised (by exact due ▸ payout) ?_ ?_
  · rintro settlementID (same | same)
    · exact (release.ne _ _ (plain.trans same)).elim
    · exact (forfeit.ne _ _ (plain.trans (same.trans String.append_assoc))).elim
  · intro financialSettlementID same
    exact (referral.ne _ _ (plain.trans (same.trans String.append_assoc))).elim

theorem books_of_complete (item : Settlement) (market after : Market) (ran : completeCreditPackReferralTx item market = (.ok (), after))
    (books : Books market) (member : item ∈ market.settlements.rows) : Books after := by
  rw [completeCreditPackReferralTx, Tx.ran_bind] at ran
  obtain ⟨_, _, passed, updated⟩ := ran
  rw [Tx.ran_reject] at passed
  obtain ⟨pending, rfl⟩ := passed
  rw [Decidable.not_not] at pending
  obtain ⟨replaced, settlements, rfl⟩ := replaced_settlement market after item _ _ member updated
  exact books.relabelled replaced pending rfl rfl rfl rfl rfl rfl

theorem books_of_date (log : UsageLog) (item dated : Settlement) (market after : Market)
    (ran : dateRecovered log item market = (.ok dated, after)) (books : Books market) (member : item ∈ market.settlements.rows) :
    Books after := by
  unfold dateRecovered at ran
  split at ran
  · rename_i pending
    rw [Tx.ran_bind] at ran
    obtain ⟨_, middle, updated, answered⟩ := ran
    rw [Tx.ran_pure] at answered
    obtain ⟨_, rfl⟩ := answered
    obtain ⟨replaced, settlements, rfl⟩ := replaced_settlement market _ item _ _ member updated
    exact books.relabelled replaced pending rfl rfl rfl rfl rfl rfl
  · rw [Tx.ran_pure] at ran
    exact ran.2 ▸ books

theorem books_of_referral (env : WalletEnv) (params : RecordParams) (debits : List (String × Int)) (completes : Bool) (market after : Market)
    (ran : referralTx env params debits completes market = (.ok (), after)) (books : Books market) (ids : ∀ number, Tight (env.uuid number))
    (last : SolidLast params.requestID) : Books after := by
  simp only [referralTx, lockCreditPackReferralTx, Tx.ran_bind, Tx.ran_reject] at ran
  obtain ⟨item, middle, ⟨_, _, ⟨_, rfl⟩, _, recorded, record, found, _, find, answered⟩, charged, final, debited, ran⟩ := ran
  have recordedBooks := books_of_record env params _ _ record books ids last
  obtain ⟨rfl, members⟩ := ran_find_by_request _ _ _ _ find
  cases found with
  | none => simp at answered
  | some row =>
      simp only [Tx.ran_bind, Tx.ran_reject, Tx.ran_pure] at answered
      obtain ⟨_, _, ⟨_, rfl⟩, _, _, ⟨_, rfl⟩, rfl, rfl⟩ := answered
      obtain ⟨finalBooks, chargedIn⟩ := books_of_debits env debits row charged _ _ debited recordedBooks (members row rfl)
      split at ran
      · exact books_of_complete charged final after ran finalBooks chargedIn
      · rw [Tx.ran_pure] at ran
        exact ran.2 ▸ finalBooks

theorem read_only_funding_account (log : UsageLog) (frozen : FrozenUsage) (account : BillingAccount) :
    Tx.ReadOnly (checkFundingAccount log frozen account) := by
  unfold checkFundingAccount
  split
  · exact Tx.read_only_reject _ _
  · refine Tx.read_only_bind (Tx.read_only_reject _ _) fun _ => Tx.read_only_bind (Tx.read_only_view _) fun found => ?_
    cases found with
    | none => exact Tx.read_only_fail _
    | some subscription => exact Tx.read_only_bind (Tx.read_only_reject _ _) fun _ => Tx.read_only_reject _ _

theorem read_only_confirmed_debit (log : UsageLog) (frozen : FrozenUsage) (total : Int) (reservations : List BillingReservation) :
    Tx.ReadOnly (confirmedDebit log frozen total reservations) := by
  induction reservations generalizing total with
  | nil => exact Tx.read_only_pure _
  | cons reservation rest ih =>
      refine Tx.read_only_bind (Tx.read_only_reject _ _) fun _ => Tx.read_only_bind (Tx.read_only_view _) fun found => ?_
      cases found with
      | none => exact Tx.read_only_fail _
      | some account =>
          refine Tx.read_only_bind (read_only_funding_account log frozen account) fun _ => Tx.read_only_bind (Tx.read_only_view _) fun native => ?_
          cases native with
          | none => exact Tx.read_only_fail _
          | some settlement => exact Tx.read_only_bind (Tx.read_only_reject _ _) fun _ => ih _

theorem read_only_recovery_owner (log : UsageLog) (frozen : FrozenUsage) : Tx.ReadOnly (findRecoveryOwner log frozen) := by
  refine Tx.read_only_bind (Tx.read_only_view _) fun group => ?_
  cases group with
  | none => exact Tx.read_only_fail _
  | some group =>
      refine Tx.read_only_bind (Tx.read_only_view _) fun channel => ?_
      cases channel with
      | none => exact Tx.read_only_fail _
      | some channel => exact Tx.read_only_bind (Tx.read_only_reject _ _) fun _ => Tx.read_only_pure _

-- What recovery asks to be recorded.
def recoveryParams (log : UsageLog) (frozen : FrozenUsage) (group : Group) : RecordParams :=
  { requestID := log.requestID, groupID := group.id, ownerUserID := group.ownerUserID, consumerUserID := log.userID,
    billingSource := frozen.billingSource, consumerDebitAmount := log.quota, settlementGrossAmount := recoveredGross frozen log.quota,
    walletMultiplier := frozen.multiplier, subscriptionMultiplier := frozen.revenueMultiplier,
    creditPackGrantedQuota := frozen.creditPackGrantedQuota, creditPackPaidQuota := frozen.creditPackPaidQuota,
    creditPackChannelShareBPS := frozen.creditPackChannelShareBPS.getD 0, feePolicyVersion := frozen.feePolicyVersion }

theorem ran_recovery_owner (log : UsageLog) (frozen : FrozenUsage) (market after : Market) (group : Group)
    (ran : findRecoveryOwner log frozen market = (.ok group, after)) :
    market = after ∧ group ∈ market.groups ∧ group.id = frozen.groupID := by
  refine ⟨(read_only_recovery_owner log frozen).same ran, ?_⟩
  simp only [findRecoveryOwner, Tx.ran_bind, Tx.ran_view] at ran
  obtain ⟨_, _, ⟨rfl, rfl⟩, continued⟩ := ran
  cases looked : market.groups.find? fun group => group.id = frozen.groupID with
  | none => simp [looked] at continued
  | some row =>
      simp only [looked, Tx.ran_bind, Tx.ran_view] at continued
      obtain ⟨_, _, ⟨rfl, rfl⟩, continued⟩ := continued
      cases channel : market.channels.find? fun channel => channel.id = row.channelID with
      | none => simp [channel] at continued
      | some channelRow =>
          simp only [channel, Tx.ran_bind, Tx.ran_reject, Tx.ran_pure] at continued
          obtain ⟨_, _, ⟨_, rfl⟩, rfl, _⟩ := continued
          exact ⟨List.mem_of_find?_eq_some looked, by simpa using List.find?_some looked⟩

-- A committed recovery found the row or recorded it: everything else in it only reads.
inductive RecoveryRan (env : WalletEnv) (log : UsageLog) (market : Market) (row : Settlement) : Market → Prop where
  | found (member : row ∈ market.settlements.rows) (named : row.requestID = log.requestID) : RecoveryRan env log market row market
  | rebuilt (frozen : FrozenUsage) (group : Group) (recorded after : Market) (item : Settlement) (identified : log.requestID ≠ "")
      (evidence : log.other = some frozen) (unknown : ∀ item ∈ market.settlements.rows, item.requestID ≠ log.requestID)
      (groupIn : group ∈ market.groups) (isGroup : group.id = frozen.groupID) (income : 0 < recoveredGross frozen log.quota)
      (record : recordTx env (recoveryParams log frozen group) market = (.ok (), recorded)) (member : item ∈ recorded.settlements.rows)
      (named : item.requestID = log.requestID) (dated : dateRecovered log item recorded = (.ok row, after)) : RecoveryRan env log market row after

theorem ran_recover (env : WalletEnv) (log : UsageLog) (market after : Market) (row : Settlement)
    (ran : recoverUsageTx env log market = (.ok row, after)) : RecoveryRan env log market row after := by
  simp only [recoverUsageTx, Tx.ran_bind, Tx.ran_reject] at ran
  obtain ⟨_, _, ⟨accepted, rfl⟩, found, _, find, continued⟩ := ran
  have identified : log.requestID ≠ "" := fun nameless => accepted (.inr (.inl nameless))
  rw [findSettlementByRequest, Tx.ran_view] at find
  obtain ⟨looked, rfl⟩ := find
  cases found with
  | some existing =>
      rw [Tx.ran_pure] at continued
      obtain ⟨rfl, rfl⟩ := continued
      obtain ⟨member, named⟩ := Table.mem_of_find? _ _ _ looked
      exact .found member (of_decide_eq_true named)
  | none =>
      have unknown : ∀ item ∈ market.settlements.rows, item.requestID ≠ log.requestID := by
        intro item member same
        rw [Table.find?_eq_none_iff] at looked
        simpa [same] using looked item member
      cases evidence : log.other with
      | none => simp [evidence] at continued
      | some frozen =>
          simp only [evidence, Tx.ran_bind, Tx.ran_reject, Tx.ran_view] at continued
          obtain ⟨_, _, ⟨_, rfl⟩, group, _, owner, _, _, ⟨_, rfl⟩, _, _, ⟨_, rfl⟩, reservations, _, ⟨_, rfl⟩, _, _, ⟨_, rfl⟩, total, _,
            confirmed, _, _, ⟨full, rfl⟩, _, _, ⟨income, rfl⟩, _, recorded, record, again, _, refind, answered⟩ := continued
          obtain ⟨rfl, groupIn, isGroup⟩ := ran_recovery_owner log frozen _ _ _ owner
          obtain rfl := (read_only_confirmed_debit log frozen 0 reservations).same confirmed
          rw [Decidable.not_not] at full
          subst full
          rw [findSettlementByRequest, Tx.ran_view] at refind
          obtain ⟨looked, rfl⟩ := refind
          cases again with
          | none => simp at answered
          | some item =>
              obtain ⟨member, named⟩ := Table.mem_of_find? _ _ _ looked
              exact .rebuilt frozen group recorded after item identified evidence unknown groupIn isGroup (Int.not_le.mp income) record member
                (of_decide_eq_true named) answered

theorem books_of_recover (env : WalletEnv) (log : UsageLog) (market after : Market) (item : Settlement)
    (ran : recoverUsageTx env log market = (.ok item, after)) (books : Books market) (ids : ∀ number, Tight (env.uuid number))
    (last : SolidLast log.requestID) : Books after := by
  cases ran_recover env log market after item ran with
  | found _ _ => exact books
  | rebuilt frozen group recorded after row _ _ _ _ _ _ record member _ dated =>
      exact books_of_date log row item _ after dated (books_of_record env _ _ _ record books ids last) member

def MarketOp.requestID : MarketOp → String
  | .record params => params.requestID
  | .recoverUsage log => log.requestID
  | .referral params _ _ => params.requestID
  | _ => ""

-- Request ids as the gateway makes them: no white space at the end.
def MarketOp.Plain (op : MarketOp) : Prop := op.requestID = "" ∨ SolidLast op.requestID

instance (op : MarketOp) : Decidable op.Plain := inferInstanceAs (Decidable (_ ∨ _))

theorem Books.step (env : WalletEnv) (ids : ∀ number, Tight (env.uuid number)) (market : Market) (op : MarketOp) (plain : op.Plain)
    (books : Books market) : Books (marketStep env market op) := by
  rcases Tx.atomic_store (executeMarket env op) market with ⟨_, committed⟩ | ⟨_, rolledBack⟩
  · cases op with
    | record params =>
        rcases plain with nameless | last
        · have idle : executeMarket env (.record params) market = (.ok (), market) := by
            rw [executeMarket, recordTx, if_pos (.inl nameless)]
            rfl
          rw [marketStep, Tx.atomic, idle]
          exact books
        · exact books_of_record env params market _ committed books ids last
    | recoverUsage log =>
        simp only [executeMarket, Tx.ran_bind, Tx.ran_pure] at committed
        obtain ⟨item, final, recovered, _, same⟩ := committed
        have last : SolidLast log.requestID := by
          refine plain.resolve_left fun nameless => ?_
          simp only [recoverUsageTx, Tx.ran_bind, Tx.ran_reject] at recovered
          obtain ⟨_, _, ⟨accepted, _⟩, _⟩ := recovered
          exact accepted (.inr (.inl nameless))
        have finalBooks := books_of_recover env log market final item recovered books ids last
        rw [same] at finalBooks
        exact finalBooks
    | referral params debits completes =>
        have last : SolidLast params.requestID := by
          refine plain.resolve_left fun nameless => ?_
          simp only [executeMarket, referralTx, lockCreditPackReferralTx, Tx.ran_bind, Tx.ran_reject] at committed
          obtain ⟨_, _, ⟨_, _, ⟨accepted, _⟩, _⟩, _⟩ := committed
          exact accepted (.inl nameless)
        exact books_of_referral env params debits completes market _ committed books ids last
    | release settlementID => exact closed_by_release env settlementID market _ books committed
    | forfeit settlementID =>
        simp only [executeMarket, forfeitOne, Tx.ran_bind] at committed
        obtain ⟨item, _, lock, forfeited⟩ := committed
        obtain ⟨rfl, member⟩ := ran_lock_settlement _ _ _ _ lock
        exact (closed_by_forfeit env item market _ books member forfeited).books
    | forfeitChannel channelID => exact books_of_forfeit_channel env channelID market _ books committed
  · rw [marketStep, rolledBack]
    exact books

-- A store before its first settlement, with whatever the rest of the ledger already holds.
structure Opening (market : Market) : Prop where
  unsettled : market.settlements.rows = []
  sound : Sound market.wallet.ledger
  backed : Backed market.wallet.ledger
  empty : ∀ account ∈ market.wallet.ledger.accounts.rows, account.accountType = pendingAccountType →
    (market.wallet.ledger.balance account.accountID).availableBalance = 0 ∧ (market.wallet.ledger.balance account.accountID).reservedBalance = 0
  entries : ∀ entry ∈ market.wallet.ledger.entries.rows, ∀ requestID, entry.idempotencyKey ≠ pendingKey requestID
  reservations : ∀ reservation ∈ market.wallet.ledger.reservations.rows, ∀ name,
    ¬ ClosesKey reservation.idempotencyKey name ∧ reservation.idempotencyKey ≠ debitKey name

theorem Opening.books {market : Market} (opening : Opening market) : Books market := by
  have none : ∀ item, item ∉ market.settlements.rows := by simp [opening.unsettled]
  refine ⟨opening.sound, opening.backed, fun item member => (none item member).elim, fun item member => (none item member).elim, ?_,
    fun item member => (none item member).elim, ?_, ?_, ?_⟩
  · intro ownerUserID account accountIn accountOf
    have nothing : pendingTotal market.settlements ownerUserID = 0 := by simp [pendingTotal, Table.total, opening.unsettled]
    rw [nothing]
    exact opening.empty account accountIn accountOf.kind
  · intro reservation member settlementID closes
    exact ((opening.reservations reservation member settlementID).1 closes).elim
  · intro entry member requestID isPending
    exact (opening.entries entry member requestID isPending).elim
  · intro reservation member financialSettlementID isDebit
    exact ((opening.reservations reservation member financialSettlementID).2 isDebit).elim

theorem books_run (env : WalletEnv) (ids : ∀ number, Tight (env.uuid number)) (start : Market) (opening : Opening start) (ops : List MarketOp)
    (plain : ∀ op ∈ ops, op.Plain) : Books (run (marketStep env) start ops) :=
  run_keeps (marketStep env) Books MarketOp.Plain (fun market op plainOp books => books.step env ids market op plainOp) start opening.books ops plain

-- The pending account covers every pending settlement of its owner.
theorem Books.covered {market : Market} (books : Books market) (item : Settlement) (member : item ∈ market.settlements.rows)
    (pending : item.status = .pending) : item.ownerNetAmount ≤ (market.wallet.ledger.balance item.pendingAccountID).availableBalance := by
  obtain ⟨account, accountIn, accountID, accountOf⟩ := books.owned item member
  rw [← accountID, (books.balanced item.ownerUserID account accountIn accountOf).1]
  have listed : item.ownerNetAmount ∈ market.settlements.rows.map fun row => if row.ownerUserID = item.ownerUserID then row.due else 0 :=
    List.mem_map.mpr ⟨item, member, by simp [Settlement.due, pending]⟩
  refine List.single_le_sum ?_ _ listed
  rw [List.forall_mem_map]
  intro row rowIn
  have promised := books.promised row rowIn
  unfold Settlement.due
  split_ifs <;> omega

theorem never_short_mark (settlementID : String) (status : SettlementStatus) : NeverShort (markStatus settlementID status) := by
  unfold markStatus updateSettlement
  exact Tx.avoids_edit _

theorem never_short_close (market after : Market) (item : Settlement) (status : SettlementStatus) (pay : WalletTx Unit)
    (pays : item.status = .pending → ∀ paid, pay market.wallet ≠ (.error .insufficientBalance, paid)) :
    closePending item status pay market ≠ (.error .insufficientBalance, after) := by
  intro failed
  unfold closePending at failed
  split at failed
  · exact Tx.avoids_pure _ market after failed
  · rename_i isPending
    rw [Tx.failed_bind] at failed
    rcases failed with failed | ⟨_, _, passed, failed⟩
    · simp [Tx.failed_reject] at failed
    rw [Tx.ran_reject] at passed
    obtain ⟨_, rfl⟩ := passed
    split at failed
    · exact never_short_mark _ _ market after failed
    · rw [Tx.failed_bind] at failed
      rcases failed with failed | ⟨_, middle, _, failed⟩
      · obtain ⟨inner, failed⟩ := Tx.failed_zoom _ _ _ _ _ _ failed
        exact pays (by simpa using isPending) inner failed
      · exact never_short_mark _ _ middle after failed

theorem never_short_lock_settlement (settlementID : String) : NeverShort (lockSettlement settlementID) := by
  refine Tx.avoids_bind (Tx.avoids_view _) fun found => ?_
  cases found with
  | some item => exact Tx.avoids_pure _
  | none => exact Tx.avoids_fail (by decide)

-- A hold of the full amount on a covered account and its settlement are never short of funds.
theorem never_short_spend (env : LedgerEnv) (create : CreateReservationParams) (settle : BillingReservation → SettleReservationParams)
    (finish : WalletTx Unit) (wallet after : Wallet)
    (failed : (do
      let reservation ← onLedger (createReservationTx env create)
      let _ ← onLedger (settleReservationTx env (settle reservation))
      finish : WalletTx Unit) wallet = (.error .insufficientBalance, after))
    (names : ∀ reservation, (settle reservation).reservationID = reservation.reservationID)
    (full : ∀ reservation, (settle reservation).actualAmount = create.reservedAmount)
    (covered : create.reservedAmount ≤ (wallet.ledger.balance create.accountID).availableBalance) (last : NeverShort finish) : False := by
  rw [Tx.failed_bind] at failed
  rcases failed with failed | ⟨reservation, middle, created, failed⟩
  · obtain ⟨inner, failed⟩ := Tx.failed_zoom _ _ _ _ _ _ failed
    have short := short_of_create env create wallet.ledger inner failed
    omega
  rw [ran_on_ledger] at created
  obtain ⟨ledger, created, rfl⟩ := created
  rw [Tx.failed_bind] at failed
  rcases failed with failed | ⟨_, final, _, failed⟩
  · obtain ⟨inner, failed⟩ := Tx.failed_zoom _ _ _ _ _ _ failed
    exact never_short_full_settle env create _ _ ledger inner reservation created (names reservation) (full reservation) failed
  · exact last final after failed

theorem never_short_release (env : WalletEnv) (settlementID : String) (market after : Market) (books : Books market) :
    releaseOne env settlementID market ≠ (.error .insufficientBalance, after) := by
  intro failed
  rw [releaseOne, Tx.failed_bind] at failed
  rcases failed with failed | ⟨item, _, lock, failed⟩
  · exact never_short_lock_settlement _ market after failed
  obtain ⟨rfl, member⟩ := ran_lock_settlement _ _ _ _ lock
  refine never_short_close market after item _ _ (fun pending paid short => ?_) failed
  exact never_short_spend env.toLedgerEnv _ _ _ market.wallet paid short (fun _ => rfl) (fun _ => rfl) (books.covered item member pending)
    (never_short_marketplace_credit env _ _ _ _)

theorem never_short_forfeit (env : WalletEnv) (settlementID : String) (market after : Market) (books : Books market) :
    forfeitOne env settlementID market ≠ (.error .insufficientBalance, after) := by
  intro failed
  rw [forfeitOne, Tx.failed_bind] at failed
  rcases failed with failed | ⟨item, _, lock, failed⟩
  · exact never_short_lock_settlement _ market after failed
  obtain ⟨rfl, member⟩ := ran_lock_settlement _ _ _ _ lock
  refine never_short_close market after item _ _ (fun pending paid short => ?_) failed
  exact never_short_spend env.toLedgerEnv _ _ _ market.wallet paid short (fun _ => rfl) (fun _ => rfl) (books.covered item member pending)
    (never_short_marketplace_credit env _ _ _ _)

-- In every run the pending account of an owner holds exactly what the pending settlements
-- of that owner promise, so paying one of them out never lacks the funds.
theorem pending_account_matches (env : WalletEnv) (ids : ∀ number, Tight (env.uuid number)) (start : Market) (opening : Opening start)
    (ops : List MarketOp) (plain : ∀ op ∈ ops, op.Plain) :
    (∀ ownerUserID, ∀ account ∈ (run (marketStep env) start ops).wallet.ledger.accounts.rows, PendingAccountOf ownerUserID account →
      ((run (marketStep env) start ops).wallet.ledger.balance account.accountID).availableBalance =
          pendingTotal (run (marketStep env) start ops).settlements ownerUserID ∧
        ((run (marketStep env) start ops).wallet.ledger.balance account.accountID).reservedBalance = 0) ∧
    (∀ item ∈ (run (marketStep env) start ops).settlements.rows, ∃ account ∈ (run (marketStep env) start ops).wallet.ledger.accounts.rows,
      account.accountID = item.pendingAccountID ∧ PendingAccountOf item.ownerUserID account) ∧
    ∀ settlementID,
      (Tx.atomic (executeMarket env (.release settlementID)) (run (marketStep env) start ops)).1 ≠ .error .insufficientBalance ∧
        (Tx.atomic (executeMarket env (.forfeit settlementID)) (run (marketStep env) start ops)).1 ≠ .error .insufficientBalance := by
  have books := books_run env ids start opening ops plain
  refine ⟨books.balanced, books.owned, fun settlementID => ⟨fun failed => ?_, fun failed => ?_⟩⟩
  · rw [Tx.atomic_outcome] at failed
    exact never_short_release env settlementID _ _ books (Prod.ext failed rfl)
  · rw [Tx.atomic_outcome] at failed
    exact never_short_forfeit env settlementID _ _ books (Prod.ext failed rfl)

def sampleWalletEnv (postgres : Bool) : WalletEnv :=
  { postgres, uuid := fun number => "a" ++ toString number ++ "f", digest := fun _ text => text }

def emptyMarket : Market := ⟨⟨Ledger.empty, .empty, .empty, .empty⟩, .empty, [], [], []⟩

theorem opening_empty : Opening emptyMarket := by
  refine ⟨rfl, sound_empty, ?_, ?_, ?_, ?_⟩
  · intro accountID _
    rfl
  · simp [emptyMarket, Ledger.empty]
  · simp [emptyMarket, Ledger.empty]
  · simp [emptyMarket, Ledger.empty]

def sampleRecord (requestID : String) : RecordParams :=
  { requestID, groupID := "g", ownerUserID := 7, consumerUserID := 9, billingSource := "wallet", consumerDebitAmount := 100,
    settlementGrossAmount := 100 }

def sampleOps : List MarketOp :=
  [.record (sampleRecord "req1"), .record (sampleRecord "req2"), .forfeit "a2f"]

def sampleAccount : BillingAccount :=
  { accountID := "a0f", accountType := pendingAccountType, ownerType := "user", ownerID := 7, quotaUnit := "quota" }

theorem pending_account_matches_after_forfeit :
    pendingTotal (run (marketStep (sampleWalletEnv true)) emptyMarket sampleOps).settlements 7 = 95 ∧
      ((run (marketStep (sampleWalletEnv true)) emptyMarket sampleOps).wallet.ledger.balance "a0f").availableBalance = 95 := by
  obtain ⟨promised, listed⟩ : pendingTotal (run (marketStep (sampleWalletEnv true)) emptyMarket sampleOps).settlements 7 = 95 ∧
      sampleAccount ∈ (run (marketStep (sampleWalletEnv true)) emptyMarket sampleOps).wallet.ledger.accounts.rows := by decide +kernel
  have agreed := (pending_account_matches (sampleWalletEnv true) (fun _ => tight_wrapped _ _ _ (by decide) (by decide)) emptyMarket
    opening_empty sampleOps (by decide)).1 7 sampleAccount listed ⟨rfl, rfl, rfl, rfl⟩
  exact ⟨promised, agreed.1.trans promised⟩

-- The key of the second credit is the first one's after trimming, so no money follows the second settlement.
def paddedRun : Market :=
  run (marketStep (sampleWalletEnv false)) emptyMarket [.record (sampleRecord "req1 "), .record (sampleRecord "req1")]

theorem padded_request_id_drifts :
    sampleAccount ∈ paddedRun.wallet.ledger.accounts.rows ∧ (paddedRun.wallet.ledger.balance "a0f").availableBalance = 95 ∧
      pendingTotal paddedRun.settlements 7 = 190 ∧
      (executeMarket (sampleWalletEnv false) (.release "a7f") (marketStep (sampleWalletEnv false) paddedRun (.release "a2f"))).1 =
        .error .insufficientBalance := by
  decide +kernel

end CodeGo.Marketplace
