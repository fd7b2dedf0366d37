import CodeGo.Ledger.Reservation

set_option autoImplicit false

namespace CodeGo.Billing

open Relational Text

-- An account without a snapshot row has the zero balance its first lock creates.
def balanceOf (snapshots : Table BillingBalanceSnapshot) (accountID : String) : BillingBalanceSnapshot :=
  (snapshots.find? fun row => row.accountID = accountID).getD { accountID }

def Ledger.balance (ledger : Ledger) (accountID : String) : BillingBalanceSnapshot := balanceOf ledger.snapshots accountID

-- The snapshot tables before and after a write to one account.
structure Rebalanced (snapshots next : Table BillingBalanceSnapshot) (accountID : String) (balance : BillingBalanceSnapshot) : Prop where
  here : balanceOf next accountID = balance
  elsewhere : ∀ other, other ≠ accountID → balanceOf next other = balanceOf snapshots other

@[simp] theorem balance_account_id (snapshots : Table BillingBalanceSnapshot) (accountID : String) :
    (balanceOf snapshots accountID).accountID = accountID := by
  unfold balanceOf
  cases found : snapshots.find? fun row => row.accountID = accountID with
  | none => rfl
  | some row => simpa using (Table.mem_of_find? _ _ _ found).2

@[simp] theorem ledger_balance_account (ledger : Ledger) (accountID : String) : (ledger.balance accountID).accountID = accountID :=
  balance_account_id _ _

theorem balance_of_mem (snapshots : Table BillingBalanceSnapshot) (row : BillingBalanceSnapshot) (member : row ∈ snapshots.rows) :
    balanceOf snapshots row.accountID = row := by
  have found := Table.find?_of_mem snapshots (fun other => other.accountID = row.accountID) row member (by simp)
    (fun other same => by simpa [Clash, Indexed.clash, Indexed.index] using (of_decide_eq_true same).symm)
  simp [balanceOf, found]

theorem rebalanced_update (snapshots : Table BillingBalanceSnapshot) (accountID : String) (old : BillingBalanceSnapshot)
    (change : BillingBalanceSnapshot → BillingBalanceSnapshot) (keeps : ∀ row, Indexed.index (change row) = Indexed.index row)
    (found : snapshots.find? (fun row => row.accountID = accountID) = some old) :
    Rebalanced snapshots (snapshots.update (fun row => row.accountID = accountID) change keeps) accountID (change old) := by
  have sameAccount : ∀ row, (change row).accountID = row.accountID := keeps
  have looked : ∀ other, (snapshots.update (fun row => row.accountID = accountID) change keeps).find? (fun row => row.accountID = other) =
      (snapshots.find? fun row => row.accountID = other).map fun row => if row.accountID = accountID then change row else row := by
    intro other
    simpa using Table.find?_update snapshots (fun row => row.accountID = accountID) (fun row => row.accountID = other) change keeps
      (fun row => by simp [sameAccount])
  constructor
  · have selected : old.accountID = accountID := by simpa using (Table.mem_of_find? _ _ _ found).2
    simp [balanceOf, looked, found, selected]
  · intro other different
    cases seen : snapshots.find? fun row => row.accountID = other with
    | none => simp [balanceOf, looked, seen]
    | some row =>
        have rowAccount : row.accountID = other := by simpa using (Table.mem_of_find? _ _ _ seen).2
        simp [balanceOf, looked, seen, rowAccount, different]

theorem Rebalanced.after_seed {snapshots seeded next : Table BillingBalanceSnapshot} {accountID : String} {balance : BillingBalanceSnapshot}
    (written : Rebalanced seeded next accountID balance) (same : ∀ other, balanceOf seeded other = balanceOf snapshots other) :
    Rebalanced snapshots next accountID balance :=
  ⟨written.here, fun other different => (written.elsewhere other different).trans (same other)⟩

@[simp] theorem ran_get_uuid (env : LedgerEnv) (ledger after : Ledger) (result : String) :
    getUUID env ledger = (.ok result, after) ↔ env.uuid ledger.drawn = result ∧ { ledger with drawn := ledger.drawn + 1 } = after := by
  simp [getUUID]

theorem ran_fill_id (env : LedgerEnv) (given : String) (ledger after : Ledger) (result : String)
    (ran : fillID env given ledger = (.ok result, after)) : ∃ drawn, after = { ledger with drawn } := by
  unfold fillID at ran
  split at ran
  · simp only [ran_get_uuid] at ran
    exact ⟨_, ran.2.symm⟩
  · simp only [Tx.ran_pure] at ran
    exact ⟨ledger.drawn, ran.2.symm⟩

theorem ran_insert_row {α : Type} [Indexed α] (table : Ledger → Table α) (store : Ledger → Table α → Ledger) (row : α)
    (ledger after : Ledger) (result : α) (ran : insertRow table store row ledger = (.ok result, after)) :
    result = row ∧ ∃ next, (table ledger).insert? row = some next ∧ after = store ledger next := by
  simp only [insertRow, Tx.ran_bind, Tx.ran_view] at ran
  obtain ⟨_, _, ⟨rfl, rfl⟩, continued⟩ := ran
  cases attempted : (table ledger).insert? row with
  | none => simp [attempted] at continued
  | some next =>
      simp only [attempted, Tx.ran_bind, Tx.ran_edit, Tx.ran_pure] at continued
      obtain ⟨_, _, rfl, rfl, rfl⟩ := continued
      exact ⟨rfl, next, rfl, rfl⟩

-- The row kept by an entry insert is the given one with its id and metadata filled in.
theorem ran_create_entry (env : LedgerEnv) (given row : BillingLedgerEntry) (ledger after : Ledger)
    (ran : createEntry env given ledger = (.ok row, after)) :
    (∃ entryID metadata, row = { given with entryID, metadata }) ∧
      ∃ entries drawn, after = { ledger with entries, drawn } ∧ entries.rows = ledger.entries.rows ++ [row] := by
  simp only [createEntry, Tx.ran_bind] at ran
  obtain ⟨entryID, middle, filled, inserted⟩ := ran
  obtain ⟨drawn, rfl⟩ := ran_fill_id env _ _ _ _ filled
  obtain ⟨rfl, entries, accepted, rfl⟩ := ran_insert_row _ _ _ _ _ _ inserted
  exact ⟨⟨_, _, rfl⟩, entries, drawn, rfl, ((Table.insert?_eq_some_iff _ _ _).mp accepted).2⟩

theorem ran_create_reservation_row (env : LedgerEnv) (given row : BillingReservation) (ledger after : Ledger)
    (ran : createReservationRow env given ledger = (.ok row, after)) :
    (∃ reservationID, row = { given with reservationID }) ∧
      ∃ reservations drawn, after = { ledger with reservations, drawn } ∧ reservations.rows = ledger.reservations.rows ++ [row] := by
  simp only [createReservationRow, Tx.ran_bind] at ran
  obtain ⟨reservationID, middle, filled, inserted⟩ := ran
  obtain ⟨drawn, rfl⟩ := ran_fill_id env _ _ _ _ filled
  obtain ⟨rfl, reservations, accepted, rfl⟩ := ran_insert_row _ _ _ _ _ _ inserted
  exact ⟨⟨_, rfl⟩, reservations, drawn, rfl, ((Table.insert?_eq_some_iff _ _ _).mp accepted).2⟩

theorem ran_create_settlement (env : LedgerEnv) (given row : BillingSettlement) (ledger after : Ledger)
    (ran : createSettlement env given ledger = (.ok row, after)) :
    (∃ settlementID, row = { given with settlementID }) ∧
      ∃ settlements drawn, after = { ledger with settlements, drawn } ∧ settlements.rows = ledger.settlements.rows ++ [row] := by
  simp only [createSettlement, Tx.ran_bind] at ran
  obtain ⟨settlementID, middle, filled, inserted⟩ := ran
  obtain ⟨drawn, rfl⟩ := ran_fill_id env _ _ _ _ filled
  obtain ⟨rfl, settlements, accepted, rfl⟩ := ran_insert_row _ _ _ _ _ _ inserted
  exact ⟨⟨_, rfl⟩, settlements, drawn, rfl, ((Table.insert?_eq_some_iff _ _ _).mp accepted).2⟩

theorem ran_create_account (env : LedgerEnv) (given row : BillingAccount) (ledger after : Ledger)
    (ran : createAccount env given ledger = (.ok row, after)) :
    (∃ accountID, row = { given with accountID, quotaUnit := if Blank given.quotaUnit then "quota" else given.quotaUnit }) ∧
      ∃ accounts drawn, after = { ledger with accounts, drawn } ∧ accounts.rows = ledger.accounts.rows ++ [row] := by
  simp only [createAccount, Tx.ran_bind] at ran
  obtain ⟨accountID, middle, filled, inserted⟩ := ran
  obtain ⟨drawn, rfl⟩ := ran_fill_id env _ _ _ _ filled
  obtain ⟨rfl, accounts, accepted, rfl⟩ := ran_insert_row _ _ _ _ _ _ inserted
  exact ⟨⟨_, rfl⟩, accounts, drawn, rfl, ((Table.insert?_eq_some_iff _ _ _).mp accepted).2⟩

theorem ran_validate_outbox (existing event : BillingOutboxEvent) (ledger after : Ledger)
    (ran : validateExistingOutboxEvent existing event ledger = (.ok (), after)) : after = ledger := by
  simp only [validateExistingOutboxEvent, Tx.ran_reject] at ran
  exact ran.2.symm

theorem ran_record_outbox (env : LedgerEnv) (input : OutboxEventInput) (ledger after : Ledger)
    (ran : recordOutboxEvent env input ledger = (.ok (), after)) : ∃ outbox drawn, after = { ledger with outbox, drawn } := by
  simp only [recordOutboxEvent, findOutboxEvent, Tx.ran_bind, Tx.ran_reject, Tx.ran_view] at ran
  obtain ⟨_, _, ⟨_, rfl⟩, _, _, ⟨rfl, rfl⟩, continued⟩ := ran
  cases looked : ledger.outbox.find? fun event => event.idempotencyKey = trimSpace input.idempotencyKey with
  | some existing =>
      simp only [looked] at continued
      exact ⟨ledger.outbox, ledger.drawn, ran_validate_outbox _ _ _ _ continued⟩
  | none =>
      simp only [looked, createOutboxEvent, Tx.ran_bind, Tx.ran_pure] at continued
      obtain ⟨_, _, ⟨_, _, filled, inserted⟩, _, rfl⟩ := continued
      obtain ⟨drawn, rfl⟩ := ran_fill_id env _ _ _ _ filled
      obtain ⟨_, outbox, _, rfl⟩ := ran_insert_row _ _ _ _ _ _ inserted
      exact ⟨outbox, drawn, rfl⟩

-- Locking an account's snapshot may create its zero row, which no balance notices.
structure Seeded (ledger after : Ledger) (accountID : String) : Prop where
  frame : ∃ snapshots, after = { ledger with snapshots }
  same : ∀ other, after.balance other = ledger.balance other
  found : after.snapshots.find? (fun row => row.accountID = accountID) = some (ledger.balance accountID)

theorem seeded_of_found (ledger : Ledger) (accountID : String) (snapshot : BillingBalanceSnapshot)
    (found : ledger.snapshots.find? (fun row => row.accountID = accountID) = some snapshot) :
    snapshot = ledger.balance accountID ∧ Seeded ledger ledger accountID := by
  have isBalance : ledger.balance accountID = snapshot := by simp [Ledger.balance, balanceOf, found]
  exact ⟨isBalance.symm, ⟨⟨_, rfl⟩, fun _ => rfl, found.trans (congrArg some isBalance.symm)⟩⟩

theorem seeded_of_created (ledger : Ledger) (accountID : String) (snapshots : Table BillingBalanceSnapshot)
    (missing : ledger.snapshots.find? (fun row => row.accountID = accountID) = none)
    (created : snapshots.rows = ledger.snapshots.rows ++ [{ accountID := accountID }]) :
    Seeded ledger { ledger with snapshots } accountID := by
  have unseen : ∀ other, snapshots.find? (fun row => row.accountID = other) =
      ((ledger.snapshots.find? fun row => row.accountID = other).or
        (if accountID = other then some { accountID := accountID } else none)) := by
    intro other
    by_cases same : accountID = other <;> simp [Table.find?, created, List.find?_append, same]
  refine ⟨⟨snapshots, rfl⟩, ?_, ?_⟩
  · intro other
    simp only [Ledger.balance, balanceOf, unseen]
    by_cases same : accountID = other
    · subst same
      simp [missing]
    · simp [same]
  · simp [unseen, missing, Ledger.balance, balanceOf]

theorem ran_ensure_snapshot (accountID : String) (ledger after : Ledger)
    (ran : ensureBalanceSnapshot accountID ledger = (.ok (), after)) : Seeded ledger after accountID := by
  simp only [ensureBalanceSnapshot, findSnapshot, Tx.ran_bind, Tx.ran_view] at ran
  obtain ⟨_, _, ⟨rfl, rfl⟩, continued⟩ := ran
  cases looked : ledger.snapshots.find? fun row => row.accountID = accountID with
  | some snapshot =>
      simp only [looked, Tx.ran_pure] at continued
      rw [← continued.2]
      exact (seeded_of_found ledger accountID snapshot looked).2
  | none =>
      simp only [looked, Tx.ran_bind] at continued
      obtain ⟨outcome, middle, attempted, continued⟩ := continued
      simp only [Tx.attempt, Prod.mk.injEq, Except.ok.injEq] at attempted
      cases outcome with
      | ok row =>
          have inserted : createSnapshot { accountID } ledger = (.ok row, middle) := Prod.ext attempted.1 attempted.2
          obtain ⟨_, snapshots, accepted, rfl⟩ := ran_insert_row _ _ _ _ _ _ inserted
          simp only [Tx.ran_pure] at continued
          rw [← continued.2]
          exact seeded_of_created ledger accountID snapshots looked ((Table.insert?_eq_some_iff _ _ _).mp accepted).2
      | error problem =>
          -- The key is free, so the insert cannot have failed.
          exfalso
          have free : Table.Fresh ledger.snapshots { accountID := accountID } := by
            intro row member clash
            have miss := (Table.find?_eq_none_iff _ _).mp looked row member
            simp [Clash, Indexed.clash, Indexed.index] at clash
            simp [clash] at miss
          simp [createSnapshot, insertRow, Table.insert?, free, Bind.bind, Tx.bind, Tx.view, Tx.edit, Pure.pure, Tx.pure] at attempted

theorem ran_ensure_and_lock (accountID : String) (ledger after : Ledger) (snapshot : BillingBalanceSnapshot)
    (ran : ensureAndLockBalanceSnapshot accountID ledger = (.ok snapshot, after)) :
    snapshot = ledger.balance accountID ∧ Seeded ledger after accountID := by
  simp only [ensureAndLockBalanceSnapshot, findSnapshot, Tx.ran_bind, Tx.ran_view] at ran
  obtain ⟨_, _, ⟨rfl, rfl⟩, continued⟩ := ran
  cases looked : ledger.snapshots.find? fun row => row.accountID = accountID with
  | some found =>
      simp only [looked, Tx.ran_pure] at continued
      obtain ⟨rfl, rfl⟩ := continued
      exact seeded_of_found ledger accountID found looked
  | none =>
      simp only [looked, Tx.ran_bind, Tx.ran_view] at continued
      obtain ⟨_, middle, ensured, _, _, ⟨rfl, rfl⟩, continued⟩ := continued
      have seeded := ran_ensure_snapshot accountID ledger middle ensured
      simp only [seeded.found, Tx.ran_pure] at continued
      obtain ⟨rfl, rfl⟩ := continued
      exact ⟨rfl, seeded⟩

theorem ran_lock_postgres (accountID : String) (ledger after : Ledger) (snapshot : BillingBalanceSnapshot)
    (ran : lockReservationSnapshotPostgres accountID ledger = (.ok snapshot, after)) :
    snapshot = ledger.balance accountID ∧ Seeded ledger after accountID := by
  simp only [lockReservationSnapshotPostgres, findSnapshot, Tx.ran_bind, Tx.ran_view] at ran
  obtain ⟨_, _, ⟨rfl, rfl⟩, continued⟩ := ran
  cases looked : ledger.snapshots.find? fun row => row.accountID = accountID with
  | some found =>
      simp only [looked, Tx.ran_pure] at continued
      obtain ⟨rfl, rfl⟩ := continued
      exact seeded_of_found ledger accountID found looked
  | none =>
      simp only [looked] at continued
      exact ran_ensure_and_lock accountID ledger after snapshot continued

-- A snapshot saved under its lock becomes the balance of its account and of no other.
theorem Seeded.saved {ledger locked : Ledger} {accountID : String} (seeded : Seeded ledger locked accountID)
    (snapshot : BillingBalanceSnapshot) (sameAccount : snapshot.accountID = accountID) :
    Rebalanced ledger.snapshots
      (locked.snapshots.update (fun row => row.accountID = snapshot.accountID)
        (fun row => { snapshot with accountID := row.accountID }) fun _ => rfl) accountID snapshot := by
  subst sameAccount
  have written := rebalanced_update locked.snapshots snapshot.accountID _ (fun row => { snapshot with accountID := row.accountID })
    (fun _ => rfl) seeded.found
  have sameRow : ({ snapshot with accountID := (ledger.balance snapshot.accountID).accountID } : BillingBalanceSnapshot) = snapshot := by
    simp [Ledger.balance]
  rw [sameRow] at written
  exact written.after_seed seeded.same

theorem ran_lock_reservation (reservationID : String) (ledger after : Ledger) (reservation : BillingReservation)
    (ran : lockReservation reservationID ledger = (.ok reservation, after)) :
    ledger = after ∧ reservation ∈ ledger.reservations.rows ∧ reservation.reservationID = reservationID := by
  simp only [lockReservation, Tx.ran_bind, Tx.ran_view] at ran
  obtain ⟨_, _, ⟨rfl, rfl⟩, continued⟩ := ran
  cases looked : ledger.reservations.find? fun row => row.reservationID = reservationID with
  | none => simp [looked] at continued
  | some found =>
      simp only [looked, Tx.ran_pure] at continued
      obtain ⟨rfl, rfl⟩ := continued
      have hit := Table.mem_of_find? _ _ _ looked
      exact ⟨rfl, hit.1, by simpa using hit.2⟩

theorem clash_of_reservation_id (first second : BillingReservation) (same : first.reservationID = second.reservationID) :
    Clash first second := .inl same

-- Saving a changed reservation replaces the stored row and leaves the others alone.
theorem replaced_save (reservations : Table BillingReservation) (current changed : BillingReservation)
    (member : current ∈ reservations.rows) (sameID : changed.reservationID = current.reservationID)
    (sameKey : changed.idempotencyKey = current.idempotencyKey) :
    Table.Replaced reservations
      (reservations.update (fun row => row.reservationID = changed.reservationID)
        (fun row => { changed with reservationID := row.reservationID, idempotencyKey := row.idempotencyKey }) fun _ => rfl)
      current changed := by
  have replaced := Table.replaced_update reservations (fun row => row.reservationID = changed.reservationID)
    (fun row => { changed with reservationID := row.reservationID, idempotencyKey := row.idempotencyKey }) (fun _ => rfl) current member
    (by simp [sameID]) (fun other hit => clash_of_reservation_id _ _ (by simpa [sameID] using (of_decide_eq_true hit).symm))
  have sameRow : ({ changed with reservationID := current.reservationID, idempotencyKey := current.idempotencyKey } : BillingReservation) =
      changed := by
    rw [← sameID, ← sameKey]
  rwa [sameRow] at replaced

end CodeGo.Billing
