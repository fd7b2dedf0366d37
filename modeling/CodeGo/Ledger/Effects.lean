import CodeGo.Ledger.Writes

set_option autoImplicit false

namespace CodeGo.Billing

open Relational Text

-- The columns of an entry that carry its meaning for balances and replays.
structure Line (entry : BillingLedgerEntry) (accountID : String) (kind : LedgerEntryType) (amount : Int)
    (referenceType referenceID key : String) : Prop where
  account : entry.accountID = accountID
  kind : entry.entryType = kind
  amount : entry.amount = amount
  referenceType : entry.referenceType = referenceType
  referenceID : entry.referenceID = referenceID
  key : entry.idempotencyKey = key

structure Posted (ledger after : Ledger) (balance : BillingBalanceSnapshot) (entries : List BillingLedgerEntry) : Prop where
  balances : Rebalanced ledger.snapshots after.snapshots balance.accountID balance
  entries : after.entries.rows = ledger.entries.rows ++ entries
  accounts : after.accounts = ledger.accounts

structure Unmoved (ledger after : Ledger) : Prop where
  balances : ∀ accountID, after.balance accountID = ledger.balance accountID
  entries : after.entries = ledger.entries
  reservations : after.reservations = ledger.reservations
  settlements : after.settlements = ledger.settlements
  accounts : ∃ opened, after.accounts.rows = ledger.accounts.rows ++ opened

structure Audited (ledger : Ledger) (params : RecordAdjustmentParams) (entry : BillingLedgerEntry) (after : Ledger) : Prop where
  balances : ∀ accountID, after.balance accountID = ledger.balance accountID
  entries : after.entries.rows = ledger.entries.rows ++ [entry]
  kind : entry.entryType = .adjustment
  key : entry.idempotencyKey = params.idempotencyKey
  reservations : after.reservations = ledger.reservations
  settlements : after.settlements = ledger.settlements
  accounts : after.accounts = ledger.accounts

def creditFunds (snapshot : BillingBalanceSnapshot) (amount : Int) : BillingBalanceSnapshot :=
  { snapshot with availableBalance := snapshot.availableBalance + amount, grantedTotal := snapshot.grantedTotal + amount }

structure Credited (ledger : Ledger) (params : CreditAccountParams) (entry : BillingLedgerEntry) (after : Ledger) : Prop where
  positive : 0 < params.amount
  unknown : ∀ row ∈ ledger.entries.rows, row.idempotencyKey ≠ params.idempotencyKey
  posted : Posted ledger after (creditFunds (ledger.balance params.accountID) params.amount) [entry]
  line : Line entry params.accountID .grantCredit params.amount (defaultIfEmpty (trimSpace params.referenceType) "migration")
    (defaultIfEmpty (trimSpace params.referenceID) params.accountID) (trimSpace params.idempotencyKey)
  reservations : after.reservations = ledger.reservations
  settlements : after.settlements = ledger.settlements

structure Held (ledger : Ledger) (params : CreateReservationParams) (reservation : BillingReservation) (after : Ledger) : Prop where
  positive : 0 < params.reservedAmount
  covered : params.reservedAmount ≤ (ledger.balance params.accountID).availableBalance
  opened : ∃ reservationID now, reservation = { openReservation params now with reservationID }
  posted : ∃ entry, Posted ledger after (holdFunds (ledger.balance params.accountID) params.reservedAmount) [entry] ∧
    Line entry params.accountID .reserveHold params.reservedAmount "reservation" reservation.reservationID
      ("entry:" ++ trimSpace params.idempotencyKey)
  reservations : after.reservations.rows = ledger.reservations.rows ++ [reservation]
  settlements : after.settlements = ledger.settlements

-- The three ways to write an existing reservation all start from its open row.
structure Raised (ledger : Ledger) (params : IncreaseReservationParams) (current : BillingReservation) (after : Ledger) : Prop where
  positive : 0 < params.amount
  covered : params.amount ≤ (ledger.balance current.accountID).availableBalance
  opened : current.status = .opened
  named : current.reservationID = params.reservationID
  posted : ∃ entry, Posted ledger after (holdFunds (ledger.balance current.accountID) params.amount) [entry] ∧
    Line entry current.accountID .reserveHold params.amount "reservation" current.reservationID (trimSpace params.idempotencyKey)
  reservations : Table.Replaced ledger.reservations after.reservations current
    { current with reservedAmount := current.reservedAmount + params.amount }
  settlements : after.settlements = ledger.settlements

structure Released (ledger : Ledger) (params : ReleaseReservationParams) (current : BillingReservation) (after : Ledger) : Prop where
  covered : current.reservedAmount ≤ (ledger.balance current.accountID).reservedBalance
  opened : current.status = .opened
  named : current.reservationID = params.reservationID
  posted : ∃ entry, Posted ledger after (freeFunds (ledger.balance current.accountID) current.reservedAmount) [entry] ∧
    Line entry current.accountID .reserveRelease current.reservedAmount "reservation" current.reservationID (trimSpace params.idempotencyKey)
  reservations : Table.Replaced ledger.reservations after.reservations current { current with status := .released }
  settlements : after.settlements = ledger.settlements

-- The branch that marks a reservation released without a posting.
structure Dropped (ledger : Ledger) (params : ReleaseReservationParams) (current : BillingReservation) (after : Ledger) : Prop where
  opened : current.status = .opened
  named : current.reservationID = params.reservationID
  released : ∃ entry ∈ ledger.entries.rows, entry.referenceID = current.reservationID ∧ entry.entryType = .reserveRelease
  reservations : Table.Replaced ledger.reservations after.reservations current { current with status := .released }
  balances : ∀ accountID, after.balance accountID = ledger.balance accountID
  entries : after.entries = ledger.entries
  settlements : after.settlements = ledger.settlements
  accounts : after.accounts = ledger.accounts

structure Settled (ledger : Ledger) (params : SettleReservationParams) (current : BillingReservation) (settlement : BillingSettlement)
    (after : Ledger) : Prop where
  actual : 0 ≤ params.actualAmount
  covered : current.reservedAmount ≤ (ledger.balance current.accountID).reservedBalance
  affordable : params.actualAmount - current.reservedAmount ≤ 0 ∨
    params.actualAmount - current.reservedAmount ≤ (ledger.balance current.accountID).availableBalance
  opened : current.status = .opened
  named : current.reservationID = params.reservationID
  posted : ∃ entries, Posted ledger after (settleFunds (ledger.balance current.accountID) current.reservedAmount params.actualAmount) entries ∧
    ((params.actualAmount = current.reservedAmount ∧ entries = []) ∨
      (params.actualAmount ≠ current.reservedAmount ∧ ∃ entry entryID metadata balanceAfter, entries = [entry] ∧
        entry = { settlementEntry current.accountID settlement.settlementID settlement.idempotencyKey
          (params.actualAmount - current.reservedAmount) balanceAfter with entryID, metadata }))
  completed : ∃ settlementID settledAt, settlement =
    { settlementID, reservationID := current.reservationID, usageEvidenceID := trimSpace params.usageEvidenceID,
      actualAmount := params.actualAmount, deltaAmount := params.actualAmount - current.reservedAmount, status := .completed,
      idempotencyKey := trimSpace params.idempotencyKey, settledAt }
  settlements : after.settlements.rows = ledger.settlements.rows ++ [settlement]
  reservations : Table.Replaced ledger.reservations after.reservations current { current with status := .settled }

structure Adjusted (ledger : Ledger) (params : AdjustAvailableBalanceParams) (entry : BillingLedgerEntry) (after : Ledger) : Prop where
  nonzero : params.usageAmount ≠ 0
  affordable : params.usageAmount ≤ 0 ∨ params.usageAmount ≤ (ledger.balance params.accountID).availableBalance
  posted : Posted ledger after (adjustFunds (ledger.balance params.accountID) params.usageAmount) [entry]
  line : Line entry params.accountID (if params.usageAmount < 0 then .settleCredit else .settleDebit)
    (if params.usageAmount < 0 then -params.usageAmount else params.usageAmount)
    (defaultIfEmpty (trimSpace params.referenceType) "quota") (defaultIfEmpty (trimSpace params.referenceID) params.accountID)
    (trimSpace params.idempotencyKey)
  reservations : after.reservations = ledger.reservations
  settlements : after.settlements = ledger.settlements

@[simp] theorem settle_funds_account (snapshot : BillingBalanceSnapshot) (held actual : Int) :
    (settleFunds snapshot held actual).accountID = snapshot.accountID := by
  unfold settleFunds
  dsimp only
  split_ifs <;> rfl

@[simp] theorem adjust_funds_account (snapshot : BillingBalanceSnapshot) (usage : Int) :
    (adjustFunds snapshot usage).accountID = snapshot.accountID := by
  unfold adjustFunds
  split_ifs <;> rfl

theorem Unmoved.refl (ledger : Ledger) : Unmoved ledger ledger :=
  ⟨fun _ => rfl, rfl, rfl, rfl, [], by simp⟩

theorem Seeded.unmoved {ledger after : Ledger} {accountID : String} (seeded : Seeded ledger after accountID) : Unmoved ledger after := by
  obtain ⟨snapshots, rfl⟩ := seeded.frame
  exact ⟨seeded.same, rfl, rfl, rfl, [], by simp⟩

-- The account of an owner is found or opened; it has the normalised columns of the request.
structure Ensured (ledger : Ledger) (params : EnsureAccountParams) (account : BillingAccount) (after : Ledger) : Prop where
  unmoved : Unmoved ledger after
  member : account ∈ after.accounts.rows
  owner : account.ownerType = trimSpace params.ownerType ∧ account.ownerID = params.ownerID
  kind : account.accountType = trimSpace params.accountType
  unit : account.quotaUnit = if Blank params.quotaUnit then "quota" else trimSpace params.quotaUnit
  opened : after.accounts.rows = ledger.accounts.rows ∨ after.accounts.rows = ledger.accounts.rows ++ [account]

theorem normal_unit (unit : String) :
    (if Blank (if Blank unit then "quota" else trimSpace unit) then "quota" else if Blank unit then "quota" else trimSpace unit) =
      if Blank unit then "quota" else trimSpace unit := by
  by_cases blank : Blank unit
  · simp [blank]
  · have solid := not_blank_of_tight _ (tight_trim_space unit blank)
    simp [blank, solid]

theorem ensured_account (env : LedgerEnv) (params : EnsureAccountParams) (ledger after : Ledger) (account : BillingAccount)
    (ran : ensureBillingAccountTx env params ledger = (.ok account, after)) : Ensured ledger params account after := by
  simp only [ensureBillingAccountTx, Tx.ran_bind, Tx.ran_reject, Tx.ran_view] at ran
  obtain ⟨_, _, ⟨_, rfl⟩, _, _, ⟨_, rfl⟩, _, _, ⟨rfl, rfl⟩, continued⟩ := ran
  cases looked : ledger.accounts.find? fun row => row.ownerType = trimSpace params.ownerType ∧ row.ownerID = params.ownerID ∧
      row.accountType = trimSpace params.accountType ∧
        row.quotaUnit = if Blank params.quotaUnit then "quota" else trimSpace params.quotaUnit with
  | some existing =>
      simp only [looked, Tx.ran_bind, Tx.ran_pure] at continued
      obtain ⟨_, _, ensured, rfl, rfl⟩ := continued
      have seeded := ran_ensure_snapshot _ _ _ ensured
      obtain ⟨snapshots, rfl⟩ := seeded.frame
      have hit := Table.mem_of_find? _ _ _ looked
      obtain ⟨owner, ownerID, kind, unit⟩ := of_decide_eq_true hit.2
      exact ⟨seeded.unmoved, hit.1, ⟨owner, ownerID⟩, kind, unit, .inl rfl⟩
  | none =>
      simp only [looked, Tx.ran_bind, Tx.ran_pure] at continued
      obtain ⟨_, _, created, _, _, ensured, rfl, rfl⟩ := continued
      obtain ⟨⟨_, rfl⟩, accounts, drawn, rfl, appended⟩ := ran_create_account env _ _ _ _ created
      have seeded := ran_ensure_snapshot _ _ _ ensured
      obtain ⟨snapshots, rfl⟩ := seeded.frame
      refine ⟨⟨seeded.same, rfl, rfl, rfl, _, appended⟩, ?_, ⟨rfl, rfl⟩, rfl, ?_, .inr appended⟩
      · simp [appended]
      · dsimp only
        rw [normal_unit]

theorem audited_of_record (env : LedgerEnv) (params : RecordAdjustmentParams) (ledger after : Ledger) (entry : BillingLedgerEntry)
    (ran : recordAdjustmentTx env params ledger = (.ok entry, after)) :
    (after = ledger ∧ entry ∈ ledger.entries.rows) ∨ Audited ledger params entry after := by
  simp only [recordAdjustmentTx, findLedgerEntryByIdempotency, Tx.ran_bind, Tx.ran_reject, Tx.ran_view] at ran
  obtain ⟨_, _, ⟨_, rfl⟩, _, _, ⟨rfl, rfl⟩, continued⟩ := ran
  cases looked : ledger.entries.find? fun row => row.idempotencyKey = params.idempotencyKey with
  | some existing =>
      simp only [looked, Tx.ran_bind, Tx.ran_reject, Tx.ran_pure] at continued
      obtain ⟨_, _, ⟨_, rfl⟩, rfl, rfl⟩ := continued
      exact .inl ⟨rfl, (Table.mem_of_find? _ _ _ looked).1⟩
  | none =>
      simp only [looked, Tx.ran_bind, Tx.ran_pure] at continued
      obtain ⟨row, _, created, _, _, recorded, rfl, rfl⟩ := continued
      obtain ⟨⟨_, _, stamped⟩, entries, _, rfl, appended⟩ := ran_create_entry env _ _ _ _ created
      obtain ⟨outbox, _, rfl⟩ := ran_record_outbox env _ _ _ recorded
      exact .inr ⟨fun _ => rfl, appended, by simp [stamped], by simp [stamped], rfl, rfl, rfl⟩

-- Either the key was known, and the stored grant is answered again, or the grant is posted.
theorem credited_of_credit (env : LedgerEnv) (params : CreditAccountParams) (ledger after : Ledger) (entry : BillingLedgerEntry)
    (ran : creditAccountTx env params ledger = (.ok entry, after)) :
    (after = ledger ∧ entry ∈ ledger.entries.rows ∧ entry.idempotencyKey = params.idempotencyKey ∧ entry.entryType = .grantCredit ∧
      entry.accountID = params.accountID ∧ entry.amount = params.amount) ∨ Credited ledger params entry after := by
  simp only [creditAccountTx, findLedgerEntryByIdempotency, Tx.ran_bind, Tx.ran_reject, Tx.ran_view] at ran
  obtain ⟨_, _, ⟨accepted, rfl⟩, _, _, ⟨rfl, rfl⟩, continued⟩ := ran
  cases looked : ledger.entries.find? fun row => row.idempotencyKey = params.idempotencyKey with
  | some existing =>
      simp only [looked, Tx.ran_bind, Tx.ran_reject, Tx.ran_pure] at continued
      obtain ⟨_, _, ⟨matched, rfl⟩, rfl, rfl⟩ := continued
      have hit := Table.mem_of_find? _ _ _ looked
      push Not at matched
      exact .inl ⟨rfl, hit.1, by simpa using hit.2, matched.2.2, matched.1, matched.2.1⟩
  | none =>
      simp only [looked, saveSnapshot, Tx.ran_bind, Tx.ran_reject, Tx.ran_edit, Tx.ran_pure] at continued
      obtain ⟨_, locked, lock, _, _, ⟨_, rfl⟩, _, _, rfl, row, _, created, _, _, recorded, rfl, rfl⟩ := continued
      obtain ⟨rfl, seeded⟩ := ran_ensure_and_lock _ _ _ _ lock
      obtain ⟨snapshots, rfl⟩ := seeded.frame
      obtain ⟨⟨_, _, stamped⟩, entries, _, rfl, appended⟩ := ran_create_entry env _ _ _ _ created
      obtain ⟨outbox, _, rfl⟩ := ran_record_outbox env _ _ _ recorded
      have written := seeded.saved (creditFunds (ledger.balance params.accountID) params.amount) (balance_account_id _ _)
      push Not at accepted
      rw [Table.find?_eq_none_iff] at looked
      exact .inr ⟨accepted.2.1, fun row member => by simpa using looked row member,
        ⟨by simpa [creditFunds, Ledger.balance] using written, appended, rfl⟩, by constructor <;> simp [stamped], rfl, rfl⟩

theorem ran_write_outbox_postgres (event : BillingOutboxEvent) (ledger after : Ledger) (observed : Option BillingOutboxEvent)
    (ran : writeOutboxEventPostgres event ledger = (.ok observed, after)) :
    observed.isSome ∧ ∃ outbox, after = { ledger with outbox } := by
  simp only [writeOutboxEventPostgres, findOutboxEvent, Tx.ran_bind, Tx.ran_view] at ran
  obtain ⟨_, _, ⟨rfl, rfl⟩, continued⟩ := ran
  cases looked : ledger.outbox.find? fun row => row.idempotencyKey = event.idempotencyKey with
  | some existing =>
      simp only [looked, Tx.ran_pure] at continued
      obtain ⟨rfl, rfl⟩ := continued
      exact ⟨rfl, _, rfl⟩
  | none =>
      simp only [looked, Tx.ran_bind, Tx.ran_pure] at continued
      obtain ⟨_, _, inserted, rfl, rfl⟩ := continued
      obtain ⟨_, outbox, _, rfl⟩ := ran_insert_row _ _ _ _ _ _ inserted
      exact ⟨rfl, outbox, rfl⟩

-- With the snapshot locked and the reservation writable, the statement chain runs to its end.
theorem ran_postgres_writes (snapshot old : BillingBalanceSnapshot) (reservation : BillingReservation) (release : Bool)
    (entry : BillingLedgerEntry) (event : BillingOutboxEvent) (ledger after : Ledger) (observed : Option BillingOutboxEvent)
    (ran : postgresReservationWrites snapshot reservation release entry event ledger = (.ok observed, after))
    (found : ledger.snapshots.find? (fun row => row.accountID = reservation.accountID) = some old)
    (writable : ∀ middle stored, writeReservationRowPostgres release reservation middle = (.ok false, stored) →
      middle.reservations = ledger.reservations → False) :
    observed.isSome ∧ ∃ snapshots middle entries outbox,
      Rebalanced ledger.snapshots snapshots reservation.accountID
        { old with availableBalance := snapshot.availableBalance, reservedBalance := snapshot.reservedBalance } ∧
      writeReservationRowPostgres release reservation { ledger with snapshots } = (.ok true, middle) ∧
      after = { middle with entries, outbox } ∧ entries.rows = middle.entries.rows ++ [entry] := by
  simp only [postgresReservationWrites, findSnapshot, Tx.ran_bind, Tx.ran_view] at ran
  obtain ⟨_, _, ⟨rfl, rfl⟩, continued⟩ := ran
  simp only [found, Tx.ran_bind, Tx.ran_edit] at continued
  obtain ⟨_, _, rfl, wrote, middle, written, continued⟩ := continued
  have rebalanced := rebalanced_update ledger.snapshots reservation.accountID old
    (fun row => { row with availableBalance := snapshot.availableBalance, reservedBalance := snapshot.reservedBalance }) (fun _ => rfl) found
  cases wrote with
  | false => exact (writable _ _ written rfl).elim
  | true =>
      simp only [if_true, Tx.ran_bind] at continued
      obtain ⟨_, _, inserted, recorded⟩ := continued
      obtain ⟨_, entries, accepted, rfl⟩ := ran_insert_row _ _ _ _ _ _ inserted
      obtain ⟨some, outbox, rfl⟩ := ran_write_outbox_postgres _ _ _ _ recorded
      exact ⟨some, _, middle, entries, outbox, rebalanced, written, rfl, ((Table.insert?_eq_some_iff _ _ _).mp accepted).2⟩

theorem ran_write_reservation_postgres (env : LedgerEnv) (snapshot old : BillingBalanceSnapshot) (reservation : BillingReservation)
    (release : Bool) (entryKey reasonCode eventKey : String) (ledger after : Ledger)
    (ran : writeReservationPostgres env snapshot reservation release entryKey reasonCode eventKey ledger = (.ok (), after))
    (found : ledger.snapshots.find? (fun row => row.accountID = reservation.accountID) = some old)
    (writable : ∀ middle stored, writeReservationRowPostgres release reservation middle = (.ok false, stored) →
      middle.reservations = ledger.reservations → False) :
    ∃ snapshots middle entries outbox drawn entry,
      Rebalanced ledger.snapshots snapshots reservation.accountID
        { old with availableBalance := snapshot.availableBalance, reservedBalance := snapshot.reservedBalance } ∧
      writeReservationRowPostgres release reservation { ledger with snapshots, drawn } = (.ok true, middle) ∧
      after = { middle with entries, outbox } ∧ entries.rows = middle.entries.rows ++ [entry] ∧
      Line entry reservation.accountID (if release then .reserveRelease else .reserveHold) reservation.reservedAmount "reservation"
        reservation.reservationID entryKey := by
  simp only [writeReservationPostgres, Tx.ran_bind, ran_get_uuid] at ran
  obtain ⟨_, _, ⟨rfl, rfl⟩, _, _, ⟨rfl, rfl⟩, observed, stored, written, continued⟩ := ran
  obtain ⟨some, snapshots, middle, entries, outbox, rebalanced, row, rfl, appended⟩ :=
    ran_postgres_writes _ _ _ _ _ _ _ _ _ written found writable
  cases observed with
  | none => simp at some
  | some event =>
      rw [ran_validate_outbox _ _ _ _ continued]
      exact ⟨snapshots, middle, entries, outbox, _, _, rebalanced, row, rfl, appended, ⟨rfl, rfl, rfl, rfl, rfl, rfl⟩⟩

theorem not_insert_writes_false (reservation : BillingReservation) (ledger after : Ledger)
    (ran : writeReservationRowPostgres false reservation ledger = (.ok false, after)) : False := by
  simp [writeReservationRowPostgres] at ran

theorem held_of_create_postgres (env : LedgerEnv) (params : CreateReservationParams) (ledger after : Ledger)
    (reservation : BillingReservation) (positive : 0 < params.reservedAmount)
    (unknown : ledger.reservations.find? (fun row => row.idempotencyKey = params.idempotencyKey) = none)
    (ran : createReservationPostgresTx env params ledger = (.ok reservation, after)) : Held ledger params reservation after := by
  simp only [createReservationPostgresTx, findReservationByIdempotency, Tx.ran_bind, Tx.ran_view] at ran
  obtain ⟨_, locked, lock, _, _, ⟨rfl, rfl⟩, continued⟩ := ran
  obtain ⟨rfl, seeded⟩ := ran_lock_postgres _ _ _ _ lock
  obtain ⟨snapshots, rfl⟩ := seeded.frame
  simp only [unknown, Tx.ran_bind, Tx.ran_reject, Tx.ran_view, ran_get_uuid, Tx.ran_pure] at continued
  obtain ⟨_, _, ⟨covered, rfl⟩, _, _, ⟨rfl, rfl⟩, _, _, ⟨rfl, rfl⟩, _, _, written, rfl, rfl⟩ := continued
  obtain ⟨next, middle, entries, outbox, drawn, entry, rebalanced, row, rfl, appended, line⟩ :=
    ran_write_reservation_postgres env _ _ _ _ _ _ _ _ _ written seeded.found
      (fun _ _ failed _ => not_insert_writes_false _ _ _ failed)
  simp only [writeReservationRowPostgres, Bool.false_eq_true, if_false, Tx.ran_bind, Tx.ran_pure] at row
  obtain ⟨_, _, inserted, _, rfl⟩ := row
  obtain ⟨_, reservations, accepted, rfl⟩ := ran_insert_row _ _ _ _ _ _ inserted
  refine ⟨positive, by simpa using covered, ⟨_, _, rfl⟩, ⟨entry, ⟨?_, appended, rfl⟩, line⟩, ((Table.insert?_eq_some_iff _ _ _).mp accepted).2, rfl⟩
  simpa [holdFunds, openReservation, Ledger.balance] using rebalanced.after_seed seeded.same

theorem held_of_create_generic (env : LedgerEnv) (params : CreateReservationParams) (ledger after : Ledger)
    (reservation : BillingReservation) (positive : 0 < params.reservedAmount)
    (ran : createReservationGenericTx env params ledger = (.ok reservation, after)) : Held ledger params reservation after := by
  simp only [createReservationGenericTx, saveSnapshot, Tx.ran_bind, Tx.ran_reject, Tx.ran_edit, Tx.ran_view, Tx.ran_pure] at ran
  obtain ⟨_, locked, lock, _, _, ⟨covered, rfl⟩, _, _, rfl, _, _, ⟨rfl, rfl⟩, row, _, created, _, _, noted, _, _, recorded, rfl, rfl⟩ := ran
  obtain ⟨rfl, seeded⟩ := ran_ensure_and_lock _ _ _ _ lock
  obtain ⟨snapshots, rfl⟩ := seeded.frame
  obtain ⟨⟨_, rfl⟩, reservations, _, rfl, opened⟩ := ran_create_reservation_row env _ _ _ _ created
  obtain ⟨⟨_, _, stamped⟩, entries, _, rfl, appended⟩ := ran_create_entry env _ _ _ _ noted
  obtain ⟨outbox, _, rfl⟩ := ran_record_outbox env _ _ _ recorded
  have written := seeded.saved (holdFunds (ledger.balance params.accountID) params.reservedAmount) (balance_account_id _ _)
  refine ⟨positive, by simpa using covered, ⟨_, _, rfl⟩, ⟨_, ⟨?_, appended, rfl⟩, ?_⟩, opened, rfl⟩
  · simpa [holdFunds, Ledger.balance] using written
  · constructor <;> simp [stamped, reservationEntry, openReservation]

theorem held_of_create (env : LedgerEnv) (params : CreateReservationParams) (ledger after : Ledger) (reservation : BillingReservation)
    (ran : createReservationTx env params ledger = (.ok reservation, after)) :
    (after = ledger ∧ reservation ∈ ledger.reservations.rows ∧ reservation.idempotencyKey = params.idempotencyKey ∧
      ¬ ReservationMismatch reservation params) ∨ Held ledger params reservation after := by
  simp only [createReservationTx, findReservationByIdempotency, Tx.ran_bind, Tx.ran_reject, Tx.ran_view] at ran
  obtain ⟨_, _, ⟨accepted, rfl⟩, _, _, ⟨rfl, rfl⟩, continued⟩ := ran
  cases looked : ledger.reservations.find? fun row => row.idempotencyKey = params.idempotencyKey with
  | some existing =>
      simp only [looked, Tx.ran_bind, Tx.ran_reject, Tx.ran_pure] at continued
      obtain ⟨_, _, ⟨matched, rfl⟩, rfl, rfl⟩ := continued
      have hit := Table.mem_of_find? _ _ _ looked
      exact .inl ⟨rfl, hit.1, by simpa using hit.2, matched⟩
  | none =>
      push Not at accepted
      simp only [looked] at continued
      split at continued
      · exact .inr (held_of_create_postgres env params ledger after reservation accepted.2.1 looked continued)
      · exact .inr (held_of_create_generic env params ledger after reservation accepted.2.1 continued)

theorem raised_of_increase (env : LedgerEnv) (params : IncreaseReservationParams) (ledger after : Ledger) (reservation : BillingReservation)
    (ran : increaseReservationTx env params ledger = (.ok reservation, after)) :
    ∃ current ∈ ledger.reservations.rows, current.reservationID = params.reservationID ∧ current.status = .opened ∧
      ((after = ledger ∧ reservation = current ∧ ∃ entry ∈ ledger.entries.rows, entry.idempotencyKey = trimSpace params.idempotencyKey) ∨
        (Raised ledger params current after ∧ reservation = { current with reservedAmount := current.reservedAmount + params.amount })) := by
  simp only [increaseReservationTx, findLedgerEntryByIdempotency, Tx.ran_bind, Tx.ran_reject, Tx.ran_view] at ran
  obtain ⟨_, _, ⟨accepted, rfl⟩, current, _, lock, _, _, ⟨opened, rfl⟩, _, _, ⟨rfl, rfl⟩, continued⟩ := ran
  obtain ⟨rfl, member, named⟩ := ran_lock_reservation _ _ _ _ lock
  push Not at accepted opened
  refine ⟨current, member, named, opened, ?_⟩
  cases looked : ledger.entries.find? fun row => row.idempotencyKey = trimSpace params.idempotencyKey with
  | some existing =>
      simp only [looked, Tx.ran_bind, Tx.ran_reject, Tx.ran_pure] at continued
      obtain ⟨_, _, ⟨_, rfl⟩, rfl, rfl⟩ := continued
      have hit := Table.mem_of_find? _ _ _ looked
      exact .inl ⟨rfl, rfl, existing, hit.1, by simpa using hit.2⟩
  | none =>
      simp only [looked, saveSnapshot, saveReservation, Tx.ran_bind, Tx.ran_reject, Tx.ran_edit, Tx.ran_pure] at continued
      obtain ⟨_, locked, locking, _, _, ⟨covered, rfl⟩, _, _, rfl, _, _, rfl, _, _, noted, _, _, recorded, rfl, rfl⟩ := continued
      obtain ⟨rfl, seeded⟩ := ran_ensure_and_lock _ _ _ _ locking
      obtain ⟨snapshots, rfl⟩ := seeded.frame
      obtain ⟨⟨_, _, stamped⟩, entries, _, rfl, appended⟩ := ran_create_entry env _ _ _ _ noted
      obtain ⟨outbox, _, rfl⟩ := ran_record_outbox env _ _ _ recorded
      have written := seeded.saved (holdFunds (ledger.balance current.accountID) params.amount) (balance_account_id _ _)
      refine .inr ⟨⟨accepted.2.1, by simpa using covered, opened, named, ⟨_, ⟨?_, appended, rfl⟩, ?_⟩, ?_, rfl⟩, rfl⟩
      · simpa [holdFunds, Ledger.balance] using written
      · constructor <;> simp [stamped, reservationEntry]
      · exact replaced_save _ _ { current with reservedAmount := current.reservedAmount + params.amount } member rfl rfl

theorem released_of_release_generic (env : LedgerEnv) (params : ReleaseReservationParams) (ledger after : Ledger)
    (current reservation : BillingReservation) (member : current ∈ ledger.reservations.rows)
    (named : current.reservationID = params.reservationID) (opened : current.status = .opened)
    (ran : releaseReservationGenericTx env current params ledger = (.ok reservation, after)) :
    Released ledger params current after ∧ reservation = { current with status := .released } := by
  simp only [releaseReservationGenericTx, saveSnapshot, saveReservation, Tx.ran_bind, Tx.ran_reject, Tx.ran_edit, Tx.ran_pure] at ran
  obtain ⟨_, locked, locking, _, _, ⟨covered, rfl⟩, _, _, rfl, _, _, rfl, _, _, noted, _, _, recorded, rfl, rfl⟩ := ran
  obtain ⟨rfl, seeded⟩ := ran_ensure_and_lock _ _ _ _ locking
  obtain ⟨snapshots, rfl⟩ := seeded.frame
  obtain ⟨⟨_, _, stamped⟩, entries, _, rfl, appended⟩ := ran_create_entry env _ _ _ _ noted
  obtain ⟨outbox, _, rfl⟩ := ran_record_outbox env _ _ _ recorded
  have written := seeded.saved (freeFunds (ledger.balance current.accountID) current.reservedAmount) (balance_account_id _ _)
  refine ⟨⟨by simpa using covered, opened, named, ⟨_, ⟨?_, appended, rfl⟩, ?_⟩, ?_, rfl⟩, rfl⟩
  · simpa [freeFunds, Ledger.balance] using written
  · constructor <;> simp [stamped, reservationEntry]
  · exact replaced_save _ _ { current with status := .released } member rfl rfl

theorem released_of_release_postgres (env : LedgerEnv) (params : ReleaseReservationParams) (ledger after : Ledger)
    (current reservation : BillingReservation) (member : current ∈ ledger.reservations.rows)
    (named : current.reservationID = params.reservationID) (opened : current.status = .opened)
    (ran : releaseReservationPostgresTx env current params ledger = (.ok reservation, after)) :
    Released ledger params current after ∧ reservation = { current with status := .released } := by
  simp only [releaseReservationPostgresTx, Tx.ran_bind, Tx.ran_reject, Tx.ran_pure] at ran
  obtain ⟨_, locked, lock, _, _, ⟨covered, rfl⟩, _, _, written, rfl, rfl⟩ := ran
  obtain ⟨rfl, seeded⟩ := ran_lock_postgres _ _ _ _ lock
  obtain ⟨snapshots, rfl⟩ := seeded.frame
  -- The row was read under its lock, so the guarded update finds it again.
  have present : ∀ other, other = ledger.reservations →
      other.find? (fun row => row.reservationID = current.reservationID ∧ row.accountID = current.accountID) = some current := by
    rintro _ rfl
    exact Table.find?_of_mem _ _ _ member (by simp) (fun other hit => clash_of_reservation_id _ _ (of_decide_eq_true hit).1.symm)
  obtain ⟨next, middle, entries, outbox, drawn, entry, rebalanced, row, rfl, appended, line⟩ :=
    ran_write_reservation_postgres env _ _ _ _ _ _ _ _ _ written seeded.found (by
      intro middle stored failed same
      simp only [writeReservationRowPostgres, if_true, Tx.ran_bind, Tx.ran_view] at failed
      obtain ⟨_, _, ⟨rfl, rfl⟩, failed⟩ := failed
      simp only [present _ same, Tx.ran_bind, Tx.ran_edit, Tx.ran_pure] at failed
      obtain ⟨_, _, _, wrong, _⟩ := failed
      cases wrong)
  simp only [writeReservationRowPostgres, if_true, Tx.ran_bind, Tx.ran_view] at row
  obtain ⟨_, _, ⟨rfl, rfl⟩, row⟩ := row
  simp only [present _ rfl, Tx.ran_bind, Tx.ran_edit, Tx.ran_pure] at row
  obtain ⟨_, _, rfl, _, rfl⟩ := row
  refine ⟨⟨by simpa using covered, opened, named, ⟨entry, ⟨?_, appended, rfl⟩, line⟩, ?_, rfl⟩, rfl⟩
  · simpa [freeFunds, Ledger.balance] using rebalanced.after_seed seeded.same
  · exact Table.replaced_update ledger.reservations
      (fun row => row.reservationID = current.reservationID ∧ row.accountID = current.accountID)
      (fun row => { row with status := .released }) (fun _ => rfl) current member (by simp)
      (fun other hit => clash_of_reservation_id _ _ (of_decide_eq_true hit).1.symm)

theorem released_of_release (env : LedgerEnv) (params : ReleaseReservationParams) (ledger after : Ledger) (reservation : BillingReservation)
    (ran : releaseReservationTx env params ledger = (.ok reservation, after)) :
    (after = ledger ∧ reservation ∈ ledger.reservations.rows ∧ reservation.reservationID = params.reservationID ∧
        reservation.status = .released) ∨
      ∃ current ∈ ledger.reservations.rows, reservation = { current with status := .released } ∧
        (Released ledger params current after ∨ Dropped ledger params current after) := by
  simp only [releaseReservationTx, Tx.ran_bind, Tx.ran_reject] at ran
  obtain ⟨_, _, ⟨_, rfl⟩, current, _, lock, continued⟩ := ran
  obtain ⟨rfl, member, named⟩ := ran_lock_reservation _ _ _ _ lock
  split at continued
  · rename_i closed
    simp only [Tx.ran_pure] at continued
    obtain ⟨rfl, rfl⟩ := continued
    exact .inl ⟨rfl, member, named, closed⟩
  · simp only [findLedgerEntryByIdempotency, Tx.ran_bind, Tx.ran_reject, Tx.ran_view] at continued
    obtain ⟨_, _, ⟨opened, rfl⟩, _, _, ⟨rfl, rfl⟩, continued⟩ := continued
    push Not at opened
    cases looked : ledger.entries.find? fun row => row.idempotencyKey = params.idempotencyKey with
    | some existing =>
        simp only [looked, saveReservation, Tx.ran_bind, Tx.ran_reject, Tx.ran_edit, Tx.ran_pure] at continued
        obtain ⟨_, _, ⟨matched, rfl⟩, _, _, rfl, rfl, rfl⟩ := continued
        push Not at matched
        have hit := Table.mem_of_find? _ _ _ looked
        refine .inr ⟨current, member, rfl, .inr ⟨opened, named, ⟨existing, hit.1, matched⟩, ?_, fun _ => rfl, rfl, rfl, rfl⟩⟩
        exact replaced_save _ _ { current with status := .released } member rfl rfl
    | none =>
        simp only [looked] at continued
        split at continued
        · obtain ⟨released, rfl⟩ := released_of_release_postgres env params ledger after current reservation member named opened continued
          exact .inr ⟨current, member, rfl, .inl released⟩
        · obtain ⟨released, rfl⟩ := released_of_release_generic env params ledger after current reservation member named opened continued
          exact .inr ⟨current, member, rfl, .inl released⟩

theorem settled_of_settle (env : LedgerEnv) (params : SettleReservationParams) (ledger after : Ledger) (settlement : BillingSettlement)
    (ran : settleReservationTx env params ledger = (.ok settlement, after)) :
    (after = ledger ∧ settlement ∈ ledger.settlements.rows ∧ settlement.idempotencyKey = params.idempotencyKey ∧
        settlement.reservationID = params.reservationID ∧ settlement.actualAmount = params.actualAmount) ∨
      ∃ current ∈ ledger.reservations.rows, Settled ledger params current settlement after := by
  simp only [settleReservationTx, findSettlementByIdempotency, Tx.ran_bind, Tx.ran_reject, Tx.ran_view] at ran
  obtain ⟨_, _, ⟨_, rfl⟩, _, _, ⟨actual, rfl⟩, _, _, ⟨rfl, rfl⟩, continued⟩ := ran
  cases looked : ledger.settlements.find? fun row => row.idempotencyKey = params.idempotencyKey with
  | some existing =>
      simp only [looked, Tx.ran_bind, Tx.ran_reject, Tx.ran_pure] at continued
      obtain ⟨_, _, ⟨matched, rfl⟩, rfl, rfl⟩ := continued
      push Not at matched
      have hit := Table.mem_of_find? _ _ _ looked
      exact .inl ⟨rfl, hit.1, by simpa using hit.2, matched⟩
  | none =>
      simp only [looked, saveSnapshot, saveReservation, Tx.ran_bind, Tx.ran_reject, Tx.ran_edit, Tx.ran_view] at continued
      obtain ⟨current, _, lock, _, _, ⟨_, rfl⟩, _, _, ⟨opened, rfl⟩, _, locked, locking, _, _, ⟨covered, rfl⟩, _, _, ⟨affordable, rfl⟩,
        _, _, rfl, _, _, ⟨rfl, rfl⟩, row, _, created, _, _, rfl, continued⟩ := continued
      obtain ⟨rfl, member, named⟩ := ran_lock_reservation _ _ _ _ lock
      obtain ⟨rfl, seeded⟩ := ran_ensure_and_lock _ _ _ _ locking
      obtain ⟨snapshots, rfl⟩ := seeded.frame
      obtain ⟨⟨settlementID, rfl⟩, settlements, _, rfl, settled⟩ := ran_create_settlement env _ _ _ _ created
      push Not at opened
      have written := seeded.saved (settleFunds (ledger.balance current.accountID) current.reservedAmount params.actualAmount)
        (by simp [Ledger.balance])
      have replaced := replaced_save ledger.reservations current { current with status := .settled } member rfl rfl
      push Not at affordable
      refine .inr ⟨current, member, ?_⟩
      split at continued
      · rename_i different
        simp only [Tx.ran_bind, Tx.ran_pure] at continued
        obtain ⟨_, _, noted, _, _, recorded, rfl, rfl⟩ := continued
        obtain ⟨⟨_, _, stamped⟩, entries, _, rfl, appended⟩ := ran_create_entry env _ _ _ _ noted
        obtain ⟨outbox, _, rfl⟩ := ran_record_outbox env _ _ _ recorded
        exact ⟨by omega, by omega, by omega, opened, named,
          ⟨_, ⟨by simpa [Ledger.balance] using written, appended, rfl⟩, .inr ⟨by omega, _, _, _, _, rfl, stamped⟩⟩, ⟨_, _, rfl⟩, settled, replaced⟩
      · rename_i equal
        simp only [Tx.ran_bind, Tx.ran_pure] at continued
        obtain ⟨_, _, recorded, rfl, rfl⟩ := continued
        obtain ⟨outbox, _, rfl⟩ := ran_record_outbox env _ _ _ recorded
        exact ⟨by omega, by omega, by omega, opened, named,
          ⟨[], ⟨by simpa [Ledger.balance] using written, by simp, rfl⟩, .inl ⟨by omega, rfl⟩⟩, ⟨_, _, rfl⟩, settled, replaced⟩

theorem adjusted_of_adjust (env : LedgerEnv) (params : AdjustAvailableBalanceParams) (ledger after : Ledger) (result : Option BillingLedgerEntry)
    (ran : adjustAvailableBalanceTx env params ledger = (.ok result, after)) :
    (after = ledger ∧ params.usageAmount = 0 ∧ result = none) ∨
      (after = ledger ∧ ∃ entry ∈ ledger.entries.rows, result = some entry ∧ entry.idempotencyKey = params.idempotencyKey ∧
        (entry.entryType = if params.usageAmount < 0 then .settleCredit else .settleDebit) ∧ params.usageAmount ≠ 0) ∨
      ((ledger.entries.find? fun row => row.idempotencyKey = params.idempotencyKey) = none ∧
        ∃ entry, result = some entry ∧ Adjusted ledger params entry after) := by
  simp only [adjustAvailableBalanceTx, Tx.ran_bind, Tx.ran_reject] at ran
  obtain ⟨_, _, ⟨_, rfl⟩, continued⟩ := ran
  split at continued
  · rename_i zero
    simp only [Tx.ran_pure] at continued
    exact .inl ⟨continued.2.symm, zero, continued.1.symm⟩
  · rename_i nonzero
    simp only [findLedgerEntryByIdempotency, Tx.ran_bind, Tx.ran_view] at continued
    obtain ⟨_, _, ⟨rfl, rfl⟩, continued⟩ := continued
    cases looked : ledger.entries.find? fun row => row.idempotencyKey = params.idempotencyKey with
    | some existing =>
        simp only [looked, Tx.ran_bind, Tx.ran_reject, Tx.ran_pure] at continued
        obtain ⟨_, _, ⟨matched, rfl⟩, rfl, rfl⟩ := continued
        have hit := Table.mem_of_find? _ _ _ looked
        push Not at matched
        exact .inr (.inl ⟨rfl, existing, hit.1, rfl, by simpa using hit.2, matched.2.2, nonzero⟩)
    | none =>
        simp only [looked, saveSnapshot, Tx.ran_bind, Tx.ran_reject, Tx.ran_edit, Tx.ran_pure] at continued
        obtain ⟨_, locked, lock, _, _, ⟨affordable, rfl⟩, _, _, rfl, row, _, created, _, _, recorded, rfl, rfl⟩ := continued
        obtain ⟨rfl, seeded⟩ := ran_ensure_and_lock _ _ _ _ lock
        obtain ⟨snapshots, rfl⟩ := seeded.frame
        obtain ⟨⟨_, _, stamped⟩, entries, _, rfl, appended⟩ := ran_create_entry env _ _ _ _ created
        obtain ⟨outbox, _, rfl⟩ := ran_record_outbox env _ _ _ recorded
        have written := seeded.saved (adjustFunds (ledger.balance params.accountID) params.usageAmount) (by simp [Ledger.balance])
        push Not at affordable
        refine .inr (.inr ⟨rfl, row, rfl, ⟨nonzero, by omega, ⟨?_, appended, rfl⟩, by constructor <;> simp [stamped], rfl, rfl⟩⟩)
        simpa [Ledger.balance] using written

theorem ran_adjust (env : LedgerEnv) (params : AdjustAvailableBalanceParams) (ledger after : Ledger) (row : LedgerRow)
    (ran : execute env (.adjustAvailableBalance params) ledger = (.ok row, after)) :
    ∃ result, adjustAvailableBalanceTx env params ledger = (.ok result, after) ∧ row = (result.elim .nothing .entry) := by
  simp only [execute, Tx.ran_bind] at ran
  obtain ⟨result, middle, moved, continued⟩ := ran
  cases result with
  | none =>
      simp only [Tx.ran_pure] at continued
      exact ⟨none, continued.2 ▸ moved, continued.1.symm⟩
  | some entry =>
      simp only [Tx.ran_pure] at continued
      exact ⟨some entry, continued.2 ▸ moved, continued.1.symm⟩

-- What a committed operation can do to the ledger. Replays, account creation and time leave it unmoved.
inductive Effect (ledger after : Ledger) : LedgerOp → Prop where
  | unmoved (op : LedgerOp) (same : Unmoved ledger after) : Effect ledger after op
  | audited (params : RecordAdjustmentParams) (entry : BillingLedgerEntry) (audited : Audited ledger params entry after) :
      Effect ledger after (.recordAdjustment params)
  | credited (params : CreditAccountParams) (entry : BillingLedgerEntry) (credited : Credited ledger params entry after) :
      Effect ledger after (.creditAccount params)
  | held (params : CreateReservationParams) (reservation : BillingReservation) (held : Held ledger params reservation after) :
      Effect ledger after (.createReservation params)
  | raised (params : IncreaseReservationParams) (current : BillingReservation) (raised : Raised ledger params current after) :
      Effect ledger after (.increaseReservation params)
  | released (params : ReleaseReservationParams) (current : BillingReservation) (released : Released ledger params current after) :
      Effect ledger after (.releaseReservation params)
  | dropped (params : ReleaseReservationParams) (current : BillingReservation) (dropped : Dropped ledger params current after) :
      Effect ledger after (.releaseReservation params)
  | settled (params : SettleReservationParams) (current : BillingReservation) (settlement : BillingSettlement)
      (settled : Settled ledger params current settlement after) : Effect ledger after (.settleReservation params)
  | adjusted (params : AdjustAvailableBalanceParams) (entry : BillingLedgerEntry)
      (unknown : (ledger.entries.find? fun row => row.idempotencyKey = params.idempotencyKey) = none)
      (adjusted : Adjusted ledger params entry after) : Effect ledger after (.adjustAvailableBalance params)

theorem record_effect (env : LedgerEnv) (params : RecordAdjustmentParams) (ledger after : Ledger) (entry : BillingLedgerEntry)
    (ran : recordAdjustmentTx env params ledger = (.ok entry, after)) : Effect ledger after (.recordAdjustment params) := by
  obtain ⟨rfl, _⟩ | audited := audited_of_record env params _ _ entry ran
  · exact .unmoved _ (.refl _)
  · exact .audited params entry audited

theorem credit_effect (env : LedgerEnv) (params : CreditAccountParams) (ledger after : Ledger) (entry : BillingLedgerEntry)
    (ran : creditAccountTx env params ledger = (.ok entry, after)) : Effect ledger after (.creditAccount params) := by
  obtain ⟨rfl, _⟩ | credited := credited_of_credit env params _ _ entry ran
  · exact .unmoved _ (.refl _)
  · exact .credited params entry credited

theorem create_effect (env : LedgerEnv) (params : CreateReservationParams) (ledger after : Ledger) (reservation : BillingReservation)
    (ran : createReservationTx env params ledger = (.ok reservation, after)) : Effect ledger after (.createReservation params) := by
  obtain ⟨rfl, _⟩ | held := held_of_create env params _ _ reservation ran
  · exact .unmoved _ (.refl _)
  · exact .held params reservation held

theorem increase_effect (env : LedgerEnv) (params : IncreaseReservationParams) (ledger after : Ledger) (reservation : BillingReservation)
    (ran : increaseReservationTx env params ledger = (.ok reservation, after)) : Effect ledger after (.increaseReservation params) := by
  obtain ⟨current, _, _, _, ⟨rfl, _⟩ | ⟨raised, _⟩⟩ := raised_of_increase env params _ _ reservation ran
  · exact .unmoved _ (.refl _)
  · exact .raised params current raised

theorem release_effect (env : LedgerEnv) (params : ReleaseReservationParams) (ledger after : Ledger) (reservation : BillingReservation)
    (ran : releaseReservationTx env params ledger = (.ok reservation, after)) : Effect ledger after (.releaseReservation params) := by
  obtain ⟨rfl, _⟩ | ⟨current, _, _, released | dropped⟩ := released_of_release env params _ _ reservation ran
  · exact .unmoved _ (.refl _)
  · exact .released params current released
  · exact .dropped params current dropped

theorem settle_effect (env : LedgerEnv) (params : SettleReservationParams) (ledger after : Ledger) (settlement : BillingSettlement)
    (ran : settleReservationTx env params ledger = (.ok settlement, after)) : Effect ledger after (.settleReservation params) := by
  obtain ⟨rfl, _⟩ | ⟨current, _, settled⟩ := settled_of_settle env params _ _ settlement ran
  · exact .unmoved _ (.refl _)
  · exact .settled params current settlement settled

theorem adjust_effect (env : LedgerEnv) (params : AdjustAvailableBalanceParams) (ledger after : Ledger) (result : Option BillingLedgerEntry)
    (ran : adjustAvailableBalanceTx env params ledger = (.ok result, after)) : Effect ledger after (.adjustAvailableBalance params) := by
  obtain ⟨rfl, _⟩ | ⟨rfl, _⟩ | ⟨unknown, entry, _, adjusted⟩ := adjusted_of_adjust env params _ _ result ran
  · exact .unmoved _ (.refl _)
  · exact .unmoved _ (.refl _)
  · exact .adjusted params entry unknown adjusted

theorem effect_of_execute (env : LedgerEnv) (op : LedgerOp) (ledger after : Ledger) (row : LedgerRow)
    (ran : execute env op ledger = (.ok row, after)) : Effect ledger after op := by
  cases op with
  | ensureBillingAccount params =>
      simp only [execute, Tx.ran_bind, Tx.ran_pure] at ran
      obtain ⟨account, _, ensured, _, rfl⟩ := ran
      exact .unmoved _ (ensured_account env params ledger _ account ensured).unmoved
  | recordAdjustment params =>
      simp only [execute, Tx.ran_bind, Tx.ran_pure] at ran
      obtain ⟨entry, _, recorded, _, rfl⟩ := ran
      exact record_effect env params ledger _ entry recorded
  | creditAccount params =>
      simp only [execute, Tx.ran_bind, Tx.ran_pure] at ran
      obtain ⟨entry, _, credited, _, rfl⟩ := ran
      exact credit_effect env params ledger _ entry credited
  | createReservation params =>
      simp only [execute, Tx.ran_bind, Tx.ran_pure] at ran
      obtain ⟨reservation, _, created, _, rfl⟩ := ran
      exact create_effect env params ledger _ reservation created
  | increaseReservation params =>
      simp only [execute, Tx.ran_bind, Tx.ran_pure] at ran
      obtain ⟨reservation, _, increased, _, rfl⟩ := ran
      exact increase_effect env params ledger _ reservation increased
  | releaseReservation params =>
      simp only [execute, Tx.ran_bind, Tx.ran_pure] at ran
      obtain ⟨reservation, _, released, _, rfl⟩ := ran
      exact release_effect env params ledger _ reservation released
  | settleReservation params =>
      simp only [execute, Tx.ran_bind, Tx.ran_pure] at ran
      obtain ⟨settlement, _, settled, _, rfl⟩ := ran
      exact settle_effect env params ledger _ settlement settled
  | adjustAvailableBalance params =>
      obtain ⟨result, adjusted, _⟩ := ran_adjust env params ledger after row ran
      exact adjust_effect env params ledger after result adjusted
  | tick seconds =>
      simp only [execute, Tx.ran_bind, Tx.ran_edit, Tx.ran_pure] at ran
      obtain ⟨_, _, rfl, _, rfl⟩ := ran
      exact .unmoved _ ⟨fun _ => rfl, rfl, rfl, rfl, [], by simp⟩

-- A transaction that fails is rolled back, so every step of the ledger has an effect of this kind.
theorem step_effect (env : LedgerEnv) (ledger : Ledger) (op : LedgerOp) : Effect ledger (step env ledger op) op := by
  rcases Tx.atomic_store (execute env op) ledger with ⟨row, committed⟩ | ⟨_, rolledBack⟩
  · exact effect_of_execute env op ledger _ row committed
  · have same : step env ledger op = ledger := rolledBack
    rw [same]
    exact .unmoved _ (.refl _)

end CodeGo.Billing
