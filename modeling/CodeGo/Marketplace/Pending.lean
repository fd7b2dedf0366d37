import CodeGo.Marketplace.Books

set_option autoImplicit false

namespace CodeGo.Marketplace

open Relational Text Billing

@[simp] theorem ran_on_wallet {α : Type} (work : WalletTx α) (market after : Market) (result : α) :
    onWallet work market = (.ok result, after) ↔ ∃ wallet, work market.wallet = (.ok result, wallet) ∧ { market with wallet } = after :=
  Tx.ran_zoom _ _ _ _ _ _

theorem ran_lock_settlement (settlementID : String) (market after : Market) (item : Settlement)
    (ran : lockSettlement settlementID market = (.ok item, after)) : market = after ∧ item ∈ market.settlements.rows := by
  simp only [lockSettlement, Tx.ran_bind, Tx.ran_view] at ran
  obtain ⟨_, _, ⟨rfl, rfl⟩, continued⟩ := ran
  cases looked : market.settlements.find? fun row => row.id = settlementID with
  | none => simp [looked] at continued
  | some row =>
      simp only [looked, Tx.ran_pure] at continued
      obtain ⟨rfl, rfl⟩ := continued
      exact ⟨rfl, (Table.mem_of_find? _ _ _ looked).1⟩

theorem clash_of_settlement_id (first second : Settlement) (same : first.id = second.id) : Clash first second := .inl same

theorem replaced_settlement (market after : Market) (item : Settlement) (change : Settlement → Settlement)
    (keeps : ∀ row, Indexed.index (change row) = Indexed.index row) (member : item ∈ market.settlements.rows)
    (ran : updateSettlement item.id change keeps market = (.ok (), after)) :
    Table.Replaced market.settlements after.settlements item (change item) ∧ ∃ settlements, after = { market with settlements } := by
  rw [updateSettlement, Tx.ran_edit] at ran
  subst ran
  refine ⟨Table.replaced_update _ _ _ keeps _ member (by simp) fun other hit => clash_of_settlement_id _ _ ?_, _, rfl⟩
  exact (of_decide_eq_true hit).symm

-- A close key of a pending settlement is not in use, so its payout cannot be a replay.
theorem Books.unclosed {market : Market} (books : Books market) {item : Settlement} (member : item ∈ market.settlements.rows)
    (pending : item.status = .pending) (key : String) (closes : ClosesKey key item.id) :
    ∀ reservation ∈ market.wallet.ledger.reservations.rows, reservation.idempotencyKey ≠ key := by
  intro reservation reservationIn sameKey
  obtain ⟨row, rowIn, sameID, rowClosed⟩ := books.closed reservation reservationIn item.id (by rwa [sameKey])
  have same : row = item := Table.eq_of_clash _ _ _ rowIn member (clash_of_settlement_id _ _ sameID)
  exact rowClosed (same ▸ pending)

theorem tight_release_key (settlementID : String) (tight : Tight settlementID) : Tight (releaseKey settlementID) :=
  tight_append _ _ (by decide) tight.2

theorem tight_wrapped (front middle back : String) (head : SolidHead front) (last : SolidLast back) : Tight (front ++ middle ++ back) :=
  tight_append _ _ (solid_head_append _ _ head) last

theorem payout_of_release (env : WalletEnv) (market : Market) (wallet : Wallet) (item : Settlement)
    (ran : releasePayout env item market.wallet = (.ok (), wallet)) (books : Books market) (member : item ∈ market.settlements.rows)
    (pending : item.status = .pending) :
    Payout market.wallet.ledger wallet.ledger item.pendingAccountID item.ownerNetAmount (releaseKey item.id) := by
  simp only [releasePayout, Tx.ran_bind, ran_on_ledger] at ran
  obtain ⟨reservation, _, ⟨middle, created, rfl⟩, settlement, _, ⟨ledger, settled, rfl⟩, credited⟩ := ran
  obtain ⟨account, accountIn, accountID, accountOf⟩ := books.owned item member
  have spent := payout_of_spend env.toLedgerEnv _ _ _ _ _ _ _ created settled rfl rfl books.sound
    (books.unclosed member pending (releaseKey item.id) (.inl rfl)) (tight_release_key item.id (books.named item member))
  obtain ⟨_, owner, paid⟩ := marketplace_credited env _ _ _ _ _ _ credited
  have apart : Apart "marketplace-release-credit:" "marketplace-pending:" := by decide
  exact spent.credited paid (fun requestID => apart.trim_ne (by decide) item.id requestID) accountIn accountID accountOf.kind

theorem payout_of_forfeit (env : WalletEnv) (market : Market) (wallet : Wallet) (item : Settlement)
    (ran : forfeitMarketplacePendingEarningsTx env item.pendingAccountID 1 item.ownerNetAmount ("marketplace-forfeit:" ++ item.id) market.wallet =
      (.ok (), wallet))
    (books : Books market) (member : item ∈ market.settlements.rows) (pending : item.status = .pending) :
    Payout market.wallet.ledger wallet.ledger item.pendingAccountID item.ownerNetAmount (forfeitKey item.id) := by
  simp only [forfeitMarketplacePendingEarningsTx, Tx.ran_bind, ran_on_ledger] at ran
  obtain ⟨reservation, _, ⟨middle, created, rfl⟩, settlement, _, ⟨ledger, settled, rfl⟩, credited⟩ := ran
  obtain ⟨account, accountIn, accountID, accountOf⟩ := books.owned item member
  have spent := payout_of_spend env.toLedgerEnv _ _ _ _ _ _ _ created settled rfl rfl books.sound
    (books.unclosed member pending (forfeitKey item.id) (.inr rfl)) (tight_wrapped _ _ _ (by decide) (by decide))
  obtain ⟨_, owner, paid⟩ := marketplace_credited env _ _ _ _ _ _ credited
  have apart : Apart "marketplace-forfeit:" "marketplace-pending:" := by decide
  refine spent.credited paid (fun requestID => ?_) accountIn accountID accountOf.kind
  intro same
  exact apart.trim_ne (by decide) (item.id ++ ":credit") requestID ((congrArg trimSpace String.append_assoc.symm).trans same)

theorem close_keys_apart (settlementID financialSettlementID key : String) (closes : ClosesKey key settlementID) :
    key ≠ debitKey financialSettlementID := by
  have release : Apart "marketplace-release-reserve:" "marketplace-referral:" := by decide
  have forfeit : Apart "marketplace-forfeit:" "marketplace-referral:" := by decide
  rcases closes with rfl | rfl
  · exact fun same => release.ne _ _ (same.trans String.append_assoc)
  · exact fun same => forfeit.ne _ _ (String.append_assoc.symm.trans (same.trans String.append_assoc))

theorem closes_key_injective (first second key : String) (firstCloses : ClosesKey key first) (secondCloses : ClosesKey key second) :
    first = second := by
  have apart : Apart "marketplace-release-reserve:" "marketplace-forfeit:" := by decide
  rcases firstCloses with rfl | rfl
  · rcases secondCloses with same | same
    · exact append_left_injective _ _ _ same
    · exact (apart.ne _ _ (same.trans String.append_assoc)).elim
  · rcases secondCloses with same | same
    · exact (apart.ne _ _ (same.symm.trans String.append_assoc)).elim
    · exact append_left_injective _ _ _ (append_right_injective _ _ _ same)

-- Rows with other ids are what a loop over several settlements goes on with.
structure Closed (market after : Market) (item : Settlement) : Prop where
  books : Books after
  others : ∀ row ∈ market.settlements.rows, row.id ≠ item.id → row ∈ after.settlements.rows

theorem close_pending (market after : Market) (item : Settlement) (status : SettlementStatus) (pay : WalletTx Unit) (key : String)
    (ran : closePending item status pay market = (.ok (), after)) (books : Books market) (member : item ∈ market.settlements.rows)
    (final : status ≠ .pending) (closes : ClosesKey key item.id)
    (pays : item.status = .pending → ∀ wallet, pay market.wallet = (.ok (), wallet) →
      Payout market.wallet.ledger wallet.ledger item.pendingAccountID item.ownerNetAmount key) : Closed market after item := by
  unfold closePending at ran
  split at ran
  · rw [Tx.ran_pure] at ran
    obtain ⟨_, rfl⟩ := ran
    exact ⟨books, fun row rowIn _ => rowIn⟩
  · rename_i isPending
    have pending : item.status = .pending := by simpa using isPending
    rw [Tx.ran_bind] at ran
    obtain ⟨_, _, passed, ran⟩ := ran
    rw [Tx.ran_reject] at passed
    obtain ⟨_, rfl⟩ := passed
    have finish : ∀ middle : Market, middle.settlements = market.settlements → ∀ amount,
        Payout market.wallet.ledger middle.wallet.ledger item.pendingAccountID amount key → amount = item.ownerNetAmount →
        markStatus item.id status middle = (.ok (), after) → Closed market after item := by
      intro middle sameRows amount payout isNet marked
      obtain ⟨replaced, settlements, rfl⟩ := replaced_settlement middle after item _ _ (by rwa [sameRows]) marked
      rw [sameRows] at replaced
      have due : item.due - Settlement.due { item with status } = amount := by simp [Settlement.due, pending, final, isNet]
      refine ⟨books.paid replaced pending rfl rfl rfl rfl (books.promised item member) (by rwa [due]) ?_ ?_, ?_⟩
      · intro settlementID closesOther
        exact ⟨closes_key_injective _ _ _ closes closesOther, final⟩
      · intro financialSettlementID isDebit
        exact (close_keys_apart _ _ _ closes isDebit).elim
      · intro row rowIn different
        rcases replaced.kept row rowIn with rfl | kept
        · exact (different rfl).elim
        · exact kept
    split at ran
    · rename_i nothing
      exact finish market rfl 0 (.refl _ _ _ books.sound) nothing.symm ran
    · simp only [Tx.ran_bind, ran_on_wallet] at ran
      obtain ⟨_, _, ⟨wallet, paying, rfl⟩, marked⟩ := ran
      exact finish { market with wallet } rfl _ (pays pending wallet paying) rfl marked

theorem closed_by_release (env : WalletEnv) (settlementID : String) (market after : Market) (books : Books market)
    (ran : releaseOne env settlementID market = (.ok (), after)) : Books after := by
  rw [releaseOne, Tx.ran_bind] at ran
  obtain ⟨item, _, lock, ran⟩ := ran
  obtain ⟨rfl, member⟩ := ran_lock_settlement _ _ _ _ lock
  exact (close_pending _ _ item _ _ _ ran books member (by decide) (.inl rfl) fun pending wallet paying =>
    payout_of_release env _ wallet item paying books member pending).books

theorem closed_by_forfeit (env : WalletEnv) (item : Settlement) (market after : Market) (books : Books market)
    (member : item ∈ market.settlements.rows) (ran : forfeitOneTx env item market = (.ok (), after)) : Closed market after item :=
  close_pending _ _ item _ _ _ ran books member (by decide) (.inr rfl) fun pending wallet paying =>
    payout_of_forfeit env _ wallet item paying books member pending

theorem books_of_forfeit_all (env : WalletEnv) (items : List Settlement) (market after : Market)
    (ran : forfeitAll env items market = (.ok (), after)) (books : Books market) (members : ∀ item ∈ items, item ∈ market.settlements.rows)
    (distinct : items.Pairwise fun first second => first.id ≠ second.id) : Books after := by
  induction items generalizing market with
  | nil =>
      rw [forfeitAll, Tx.ran_pure] at ran
      exact ran.2 ▸ books
  | cons item rest ih =>
      rw [forfeitAll, Tx.ran_bind] at ran
      obtain ⟨_, middle, first, later⟩ := ran
      have closed := closed_by_forfeit env item market middle books (members item (by simp)) first
      rw [List.pairwise_cons] at distinct
      refine ih middle later closed.books (fun row rowIn => ?_) distinct.2
      exact closed.others row (members row (by simp [rowIn])) fun same => distinct.1 row rowIn same.symm

theorem books_of_forfeit_channel (env : WalletEnv) (channelID : String) (market after : Market) (books : Books market)
    (ran : forfeitChannelPendingTx env channelID market = (.ok (), after)) : Books after := by
  rw [forfeitChannelPendingTx, Tx.ran_bind] at ran
  obtain ⟨items, _, listed, ran⟩ := ran
  rw [Tx.ran_view] at listed
  obtain ⟨rfl, rfl⟩ := listed
  refine books_of_forfeit_all env _ market after ran books (fun item itemIn => (List.mem_filter.mp itemIn).1) ?_
  refine (market.settlements.unique.imp ?_).filter _
  intro first second apart same
  exact apart (clash_of_settlement_id first second same)

def debitReserve (item : Settlement) (financialSettlementID : String) (amount : Int) : CreateReservationParams :=
  { accountID := item.pendingAccountID, requestID := referralKey financialSettlementID, reservedAmount := amount,
    idempotencyKey := debitKey financialSettlementID }

def debitSettlement (reservationID financialSettlementID : String) (amount : Int) : SettleReservationParams :=
  { reservationID, actualAmount := amount, idempotencyKey := referralKey financialSettlementID ++ ":settle" }

-- A committed referral debit: nothing to charge, or the row charged with its payment.
inductive DebitRan (env : WalletEnv) (item : Settlement) (financialSettlementID : String) (amount : Int) (market : Market) :
    Settlement → Market → Prop where
  | idle : DebitRan env item financialSettlementID amount market item market
  | charged (reservation : BillingReservation) (settlement : BillingSettlement) (middle ledger : Ledger) (settlements : Table Settlement)
      (positive : 0 < amount) (pending : item.status = .pending) (covered : amount ≤ item.ownerNetAmount)
      (unsettled : ∀ row ∈ market.wallet.ledger.settlements.rows, row.idempotencyKey ≠ referralKey financialSettlementID ++ ":settle")
      (created : createReservationTx env.toLedgerEnv (debitReserve item financialSettlementID amount) market.wallet.ledger = (.ok reservation, middle))
      (settled : settleReservationTx env.toLedgerEnv (debitSettlement reservation.reservationID financialSettlementID amount) middle =
        (.ok settlement, ledger))
      (replaced : Table.Replaced market.settlements settlements item (chargeReferral item amount)) :
      DebitRan env item financialSettlementID amount market (chargeReferral item amount)
        { market with wallet := { market.wallet with ledger }, settlements }

theorem ran_debit (env : WalletEnv) (item charged : Settlement) (financialSettlementID : String) (amount : Int) (market after : Market)
    (ran : debitCreditPackReferralTx env item financialSettlementID amount market = (.ok charged, after))
    (member : item ∈ market.settlements.rows) : DebitRan env item financialSettlementID amount market charged after := by
  simp only [debitCreditPackReferralTx, Tx.ran_bind, Tx.ran_reject] at ran
  obtain ⟨_, _, ⟨valid, rfl⟩, ran⟩ := ran
  split at ran
  · rw [Tx.ran_pure] at ran
    obtain ⟨rfl, rfl⟩ := ran
    exact .idle
  · rename_i present
    simp only [findSettlementByIdempotency, Tx.ran_bind, Tx.ran_reject, ran_on_wallet, ran_on_ledger, Tx.ran_view] at ran
    obtain ⟨_, _, ⟨usable, rfl⟩, _, _, ⟨_, ⟨_, ⟨rfl, rfl⟩, rfl⟩, rfl⟩, continued⟩ := ran
    push Not at usable valid
    cases looked : market.wallet.ledger.settlements.find? fun row => row.idempotencyKey = referralKey financialSettlementID ++ ":settle" with
    | some existing =>
        simp only [looked, Tx.ran_bind, Tx.ran_reject, Tx.ran_pure] at continued
        obtain ⟨_, _, ⟨_, rfl⟩, rfl, rfl⟩ := continued
        exact .idle
    | none =>
        simp only [looked, Tx.ran_bind, Tx.ran_reject, ran_on_wallet, ran_on_ledger, Tx.ran_pure] at continued
        obtain ⟨reservation, _, ⟨_, ⟨middle, created, rfl⟩, rfl⟩, settlement, _, ⟨_, ⟨ledger, settled, rfl⟩, rfl⟩, _, _, ⟨_, rfl⟩,
          _, _, updated, rfl, rfl⟩ := continued
        obtain ⟨replaced, settlements, rfl⟩ := replaced_settlement _ _ item _ _ (by exact member) updated
        have unsettled : ∀ row ∈ market.wallet.ledger.settlements.rows, row.idempotencyKey ≠ referralKey financialSettlementID ++ ":settle" := by
          intro row rowIn same
          rw [Table.find?_eq_none_iff] at looked
          simpa [same] using looked row rowIn
        exact .charged reservation settlement middle ledger settlements (by omega) usable.2.1 usable.2.2 unsettled created settled replaced

theorem charged_by_debit (env : WalletEnv) (item charged : Settlement) (financialSettlementID : String) (amount : Int) (market after : Market)
    (ran : debitCreditPackReferralTx env item financialSettlementID amount market = (.ok charged, after)) (books : Books market)
    (member : item ∈ market.settlements.rows) : Books after ∧ charged ∈ after.settlements.rows := by
  cases ran_debit env item charged financialSettlementID amount market after ran member with
  | idle => exact ⟨books, member⟩
  | charged reservation settlement middle ledger settlements _ pending covered unsettled created settled replaced =>
      -- A debit that is not settled yet has no reservation either.
      have unused : ∀ row ∈ market.wallet.ledger.reservations.rows, row.idempotencyKey ≠ debitKey financialSettlementID := by
        intro row rowIn isDebit
        obtain ⟨found, foundIn, key⟩ := books.debited row rowIn financialSettlementID isDebit
        exact unsettled found foundIn key
      have payout := payout_of_spend env.toLedgerEnv _ _ _ _ _ _ _ created settled rfl rfl books.sound unused
        (tight_wrapped _ _ _ (by decide) (by decide))
      obtain ⟨settlementIn, settlementKey⟩ := settlement_of_settle env.toLedgerEnv _ _ _ _ settled
      have settleTight : Tight (referralKey financialSettlementID ++ ":settle") := tight_wrapped _ _ _ (by decide) (by decide)
      have keyed : settlement.idempotencyKey = referralKey financialSettlementID ++ ":settle" := by
        simpa [debitSettlement, trim_space_tight _ settleTight] using settlementKey
      have due : item.due - (chargeReferral item amount).due = amount := by
        simp [Settlement.due, chargeReferral, pending]
      refine ⟨books.paid replaced pending rfl rfl rfl rfl (by simpa [chargeReferral] using covered) (by exact due ▸ payout) ?_ ?_,
        replaced.new_mem⟩
      · intro settlementID closes
        exact (close_keys_apart _ financialSettlementID _ closes rfl).elim
      · intro other isDebit
        have same : financialSettlementID = other := append_left_injective _ _ _ (append_right_injective _ _ _ isDebit)
        exact ⟨settlement, settlementIn, same ▸ keyed⟩

theorem ran_create_settlement_row (env : WalletEnv) (given row : Settlement) (market after : Market)
    (ran : createSettlementRow env given market = (.ok row, after)) (unnamed : given.id = "") :
    ∃ number drawn settlements, row = { given with id := env.uuid number, createdAt := market.wallet.ledger.clock } ∧
      after = { market with wallet := { market.wallet with ledger := { market.wallet.ledger with drawn } }, settlements } ∧
      settlements.rows = market.settlements.rows ++ [row] := by
  simp only [createSettlementRow, unnamed, if_true, Tx.ran_bind, Tx.ran_view, ran_on_wallet, ran_on_ledger, ran_get_uuid] at ran
  obtain ⟨id, _, ⟨_, ⟨_, ⟨rfl, rfl⟩, rfl⟩, rfl⟩, _, _, ⟨rfl, rfl⟩, _, _, ⟨rfl, rfl⟩, continued⟩ := ran
  cases accepted : market.settlements.insert?
      { given with id := env.uuid market.wallet.ledger.drawn, createdAt := market.wallet.ledger.clock } with
  | none => simp [accepted] at continued
  | some settlements =>
      simp only [accepted, Tx.ran_bind, Tx.ran_edit, Tx.ran_pure] at continued
      obtain ⟨_, _, rfl, rfl, rfl⟩ := continued
      exact ⟨_, _, settlements, rfl, rfl, ((Table.insert?_eq_some_iff _ _ _).mp accepted).2⟩

-- The optional commission goes to the platform account, which is never a pending account.
theorem Collected.platform {ledger middle after : Ledger} {account platform : BillingAccount} {amount : Int} {requestID : String}
    {params : CreditAccountParams} {env : LedgerEnv} {entry : BillingLedgerEntry} (collected : Collected ledger middle account amount requestID)
    (ran : creditAccountTx env params middle = (.ok entry, after)) (platformIn : platform ∈ middle.accounts.rows)
    (named : params.accountID = platform.accountID) (kind : platform.accountType ≠ pendingAccountType)
    (accountKind : account.accountType = pendingAccountType)
    (apart : ∀ other, trimSpace params.idempotencyKey ≠ pendingKey other) : Collected ledger after account amount requestID := by
  have moves := Moves.single (credit_effect env params middle after entry ran)
  obtain ⟨rfl, _⟩ | credited := credited_of_credit env params middle after entry ran
  · exact collected
  have notHere : account.accountID ≠ platform.accountID :=
    account_id_ne_of_kind collected.member platformIn fun same => kind (same ▸ accountKind)
  refine ⟨moves.sound collected.sound, fun row rowIn => moves.accounts row (collected.kept row rowIn), moves.accounts account collected.member,
    ?_, ?_, ?_, credited.reservations.trans collected.reservations, credited.settlements.trans collected.settlements⟩
  · rw [credited.balance, named, if_neg notHere, collected.here]
  · intro other different onlyPending
    have notPlatform : other ≠ platform.accountID := fun same =>
      kind (onlyPending platform (moves.accounts platform platformIn) same.symm)
    rw [credited.balance, named, if_neg notPlatform]
    exact collected.elsewhere other different fun row rowIn => onlyPending row (moves.accounts row rowIn)
  · intro row rowIn
    rcases moves.entry_key row rowIn with old | ⟨op, opIn, key⟩
    · exact collected.entries row old
    · rw [List.mem_singleton] at opIn
      subst opIn
      rw [LedgerOp.entryKeys, List.mem_singleton] at key
      exact .inr fun other isPending => (apart other (key ▸ isPending)).elim

theorem collected_of_credit (env : LedgerEnv) (ledger middle after : Ledger) (account : BillingAccount) (params : CreditAccountParams)
    (entry : BillingLedgerEntry) (requestID : String) (ran : creditAccountTx env params middle = (.ok entry, after))
    (sound : Sound middle) (unmoved : Unmoved ledger middle) (member : account ∈ middle.accounts.rows)
    (named : params.accountID = account.accountID) (keyed : params.idempotencyKey = pendingKey requestID) (last : SolidLast requestID)
    (unused : ∀ row ∈ ledger.entries.rows, row.idempotencyKey ≠ pendingKey requestID) :
    Collected ledger after account params.amount requestID := by
  have moves := Moves.single (credit_effect env params middle after entry ran)
  have tight : Tight (pendingKey requestID) := tight_append _ _ (by decide) last
  obtain ⟨_, entryIn, key, _⟩ | credited := credited_of_credit env params middle after entry ran
  · rw [unmoved.entries] at entryIn
    exact (unused entry entryIn (key.trans keyed)).elim
  refine ⟨moves.sound sound, fun row rowIn => moves.accounts row (unmoved.kept row rowIn), moves.accounts account member, ?_, ?_, ?_,
    credited.reservations.trans unmoved.reservations, credited.settlements.trans unmoved.settlements⟩
  · rw [credited.balance, named, if_pos rfl, unmoved.balances]
  · intro other different _
    rw [credited.balance, named, if_neg different, unmoved.balances]
  · intro row rowIn
    rcases moves.entry_key row rowIn with old | ⟨op, opIn, key⟩
    · exact .inl (unmoved.entries ▸ old)
    · rw [List.mem_singleton] at opIn
      subst opIn
      rw [LedgerOp.entryKeys, List.mem_singleton, keyed, trim_space_tight _ tight] at key
      exact .inr fun other isPending => (append_left_injective _ _ _ (key.symm.trans isPending)).symm

-- What a committed record has done: nothing, or a row with its one or two credits.
inductive RecordRan (env : WalletEnv) (params : RecordParams) (market : Market) : Market → Prop where
  | idle (nothing : params.requestID = "" ∨ params.groupID = "" ∨ params.ownerUserID ≤ 0 ∨ params.settlementGrossAmount ≤ 0 ∨
      ∃ item ∈ market.settlements.rows, item.requestID = params.requestID) : RecordRan env params market market
  | recorded (discount fee : Int) (account platform : BillingAccount) (first second third after : Ledger) (number drawn : Nat)
      (settlements : Table Settlement) (item : Settlement) (entry : BillingLedgerEntry)
      (wanted : ¬ (params.requestID = "" ∨ params.groupID = "" ∨ params.ownerUserID ≤ 0 ∨ params.settlementGrossAmount ≤ 0))
      (unknown : ∀ row ∈ market.settlements.rows, row.requestID ≠ params.requestID)
      (charges : creditPackCharges params = .ok (discount, fee))
      (affordable : fee ≤ params.settlementGrossAmount - percentage params.settlementGrossAmount 5)
      (pendingOpened : ensureBillingAccountTx env.toLedgerEnv (pendingAccountParams params.ownerUserID) market.wallet.ledger = (.ok account, first))
      (platformOpened : ensureBillingAccountTx env.toLedgerEnv platformAccountParams first = (.ok platform, second))
      (isItem : item = { recordedSettlement params (percentage params.settlementGrossAmount 5) discount fee
        (params.settlementGrossAmount - percentage params.settlementGrossAmount 5 - fee) account.accountID with
          id := env.uuid number, createdAt := second.clock })
      (appended : settlements.rows = market.settlements.rows ++ [item])
      (credited : creditAccountTx env.toLedgerEnv (settlementCredit account.accountID item.ownerNetAmount ("marketplace-pending:" ++ params.requestID)
        "marketplace_owner_pending" item.id) { second with drawn } = (.ok entry, third))
      (finished : (percentage params.settlementGrossAmount 5 + fee ≤ 0 ∧ after = third) ∨
        (0 < percentage params.settlementGrossAmount 5 + fee ∧ ∃ paid, creditAccountTx env.toLedgerEnv
          (settlementCredit platform.accountID (percentage params.settlementGrossAmount 5 + fee) ("marketplace-platform:" ++ params.requestID)
            "marketplace_platform_revenue" item.id) third = (.ok paid, after))) :
      RecordRan env params market { market with wallet := { market.wallet with ledger := after }, settlements }

theorem ran_record (env : WalletEnv) (params : RecordParams) (market after : Market) (ran : recordTx env params market = (.ok (), after)) :
    RecordRan env params market after := by
  unfold recordTx at ran
  split at ran
  · rename_i unwanted
    rw [Tx.ran_pure] at ran
    obtain ⟨_, rfl⟩ := ran
    exact .idle (by tauto)
  · rename_i wanted
    simp only [findSettlementByRequest, Tx.ran_bind, Tx.ran_view] at ran
    obtain ⟨_, _, ⟨rfl, rfl⟩, continued⟩ := ran
    cases looked : market.settlements.find? fun item => item.requestID = params.requestID with
    | some existing =>
        simp only [looked, Tx.ran_pure] at continued
        obtain ⟨_, rfl⟩ := continued
        obtain ⟨member, same⟩ := Table.mem_of_find? _ _ _ looked
        exact .idle (.inr (.inr (.inr (.inr ⟨existing, member, of_decide_eq_true same⟩))))
    | none =>
        simp only [looked, Tx.ran_bind, Tx.ran_reject, Tx.ran_lift, ran_on_wallet, ran_on_ledger] at continued
        obtain ⟨⟨discount, fee⟩, _, ⟨charges, rfl⟩, _, _, ⟨affordable, rfl⟩, account, _, ⟨_, ⟨first, pendingOpened, rfl⟩, rfl⟩, platform, _,
          ⟨_, ⟨second, platformOpened, rfl⟩, rfl⟩, item, _, created, entry, _, ⟨_, ⟨third, credited, rfl⟩, rfl⟩, finish⟩ := continued
        obtain ⟨number, drawn, settlements, isItem, rfl, appended⟩ := ran_create_settlement_row env _ _ _ _ created rfl
        have unknown : ∀ row ∈ market.settlements.rows, row.requestID ≠ params.requestID := by
          intro row rowIn same
          rw [Table.find?_eq_none_iff] at looked
          simpa [same] using looked row rowIn
        have net : item.ownerNetAmount = params.settlementGrossAmount - percentage params.settlementGrossAmount 5 - fee := by
          simp [isItem, recordedSettlement]
        split at finish
        · rename_i free
          rw [Tx.ran_pure] at finish
          obtain ⟨_, rfl⟩ := finish
          exact .recorded discount fee account platform first second third third number drawn settlements item entry wanted unknown charges
            (Int.not_lt.mp affordable) pendingOpened platformOpened isItem appended (by rw [net]; exact credited) (.inl ⟨free, rfl⟩)
        · rename_i charged
          simp only [Tx.ran_bind, ran_on_wallet, ran_on_ledger, Tx.ran_pure] at finish
          obtain ⟨paid, _, ⟨_, ⟨fourth, payment, rfl⟩, rfl⟩, _, rfl⟩ := finish
          exact .recorded discount fee account platform first second third fourth number drawn settlements item entry wanted unknown charges
            (Int.not_lt.mp affordable) pendingOpened platformOpened isItem appended (by rw [net]; exact credited)
            (.inr ⟨Int.not_le.mp charged, paid, payment⟩)

theorem books_of_record (env : WalletEnv) (params : RecordParams) (market after : Market) (ran : recordTx env params market = (.ok (), after))
    (books : Books market) (ids : ∀ number, Tight (env.uuid number)) (last : SolidLast params.requestID) : Books after := by
  cases ran_record env params market after ran with
  | idle _ => exact books
  | recorded discount fee account platform first second third after number drawn settlements item entry _ unknown _ affordable pendingOpened
      platformOpened isItem appended credited finished =>
      have pendingEnsured := ensured_account _ _ _ _ _ pendingOpened
      have platformEnsured := ensured_account _ _ _ _ _ platformOpened
      have accountOf : PendingAccountOf params.ownerUserID account := pendingEnsured.account_of (by decide) (by decide)
      have platformOf : AccountOf "marketplace_platform_revenue" "system" 1 platform := platformEnsured.account_of (by decide) (by decide)
      have unmoved : Unmoved market.wallet.ledger { second with drawn } :=
        (pendingEnsured.unmoved.trans platformEnsured.unmoved).trans (.drawn second drawn)
      -- An entry with this key would have left a settlement with this request id behind.
      have unused : ∀ row ∈ market.wallet.ledger.entries.rows, row.idempotencyKey ≠ pendingKey params.requestID := by
        intro row rowIn isPending
        obtain ⟨found, foundIn, same⟩ := books.recorded row rowIn params.requestID isPending
        exact unknown found foundIn same
      have collected := collected_of_credit env.toLedgerEnv market.wallet.ledger _ third account _ entry params.requestID credited
        ((Moves.unmoved (.tick 0) unmoved).sound books.sound) unmoved (platformEnsured.unmoved.kept account pendingEnsured.member) rfl rfl
        last unused
      subst isItem
      have promised : 0 ≤ params.settlementGrossAmount - percentage params.settlementGrossAmount 5 - fee := by omega
      rcases finished with ⟨_, rfl⟩ | ⟨_, paid, payment⟩
      · exact books.collected appended rfl promised (ids number) rfl accountOf collected
      · have apart : Apart "marketplace-platform:" "marketplace-pending:" := by decide
        have platformKind : platform.accountType ≠ pendingAccountType := by
          rw [platformOf.kind]
          decide
        have complete := collected.platform payment ((Moves.single (credit_effect _ _ _ _ _ credited)).accounts platform platformEnsured.member)
          rfl platformKind accountOf.kind fun other => apart.trim_ne (by decide) params.requestID other
        exact books.collected appended rfl promised (ids number) rfl accountOf complete

end CodeGo.Marketplace
