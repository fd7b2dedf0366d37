import CodeGo.Ledger.Progress
import CodeGo.Ledger.Transparency

set_option autoImplicit false

namespace CodeGo.Billing

open Relational Text

/- PostgreSQL takes a hold or gives it back in one statement; the other dialects write
   row after row. Both draw their ids in one order. The statement may draw more of them. -/

-- What the caller of a transaction sees: the error, or the answer and the rows.
def observed {α : Type} (answer : Except LedgerError α × Ledger) : Except LedgerError (α × Ledger) :=
  answer.1.map fun value => (value, { answer.2 with drawn := 0 })

-- The last two writes of both paths: the entry, then the event unless its key is taken.
def noted (event : BillingOutboxEvent) (ledger : Ledger) : Except LedgerError Ledger :=
  match ledger.outbox.find? fun row => row.idempotencyKey = event.idempotencyKey with
  | some existing =>
      if existing.eventType ≠ event.eventType ∨ existing.aggregateID ≠ event.aggregateID ∨ existing.accountID ≠ event.accountID then
        .error .ledgerConflict
      else .ok { ledger with drawn := 0 }
  | none =>
      match ledger.outbox.insert? event with
      | none => .error .uniqueViolation
      | some outbox => .ok { ledger with outbox, drawn := 0 }

def recorded (entry : BillingLedgerEntry) (event : BillingOutboxEvent) (ledger : Ledger) : Except LedgerError Ledger :=
  match ledger.entries.insert? entry with
  | none => .error .uniqueViolation
  | some entries => noted event { ledger with entries }

section Values

variable {env : LedgerEnv} {ledger : Ledger}

section Inserts

variable {α β : Type} [Indexed α] (table : Ledger → Table α) (store : Ledger → Table α → Ledger) (row : α) (next : α → LedgerTx β) (ledger : Ledger)

theorem observed_refused (refused : (table ledger).insert? row = none) :
    observed ((insertRow table store row >>= next) ledger) = .error .uniqueViolation := by
  rw [insert_refused table store row next ledger refused]
  rfl

theorem observed_then {written : Table α} (inserted : (table ledger).insert? row = some written) :
    observed ((insertRow table store row >>= next) ledger) = observed (next row (store ledger written)) := by
  rw [insert_then table store row next ledger inserted]

end Inserts

theorem lock_postgres_eq (accountID : String) : lockReservationSnapshotPostgres accountID = ensureAndLockBalanceSnapshot accountID := by
  funext ledger
  rw [lockReservationSnapshotPostgres, findSnapshot, Tx.bind_view]
  cases found : ledger.snapshots.find? fun snapshot => snapshot.accountID = accountID with
  | none => rfl
  | some snapshot =>
      rw [ensureAndLockBalanceSnapshot, findSnapshot, Tx.bind_view]
      simp only [found]

end Values

section Tails

variable (env : LedgerEnv) {β : Type} (value : β)

section Noting

variable (event : BillingOutboxEvent) {ledger : Ledger}

theorem noted_found {existing : BillingOutboxEvent} (looked : ledger.outbox.find? (fun row => row.idempotencyKey = event.idempotencyKey) = some existing) :
    noted event ledger =
      if existing.eventType ≠ event.eventType ∨ existing.aggregateID ≠ event.aggregateID ∨ existing.accountID ≠ event.accountID then
        .error .ledgerConflict
      else .ok { ledger with drawn := 0 } := by
  simp only [noted, looked]

theorem noted_free (looked : ledger.outbox.find? (fun row => row.idempotencyKey = event.idempotencyKey) = none) :
    noted event ledger = match ledger.outbox.insert? event with
      | none => .error .uniqueViolation
      | some outbox => .ok { ledger with outbox, drawn := 0 } := by
  simp only [noted, looked]

end Noting

theorem observed_validate (event : BillingOutboxEvent) {existing : BillingOutboxEvent} {ledger : Ledger}
    (looked : ledger.outbox.find? (fun row => row.idempotencyKey = event.idempotencyKey) = some existing) :
    observed ((validateExistingOutboxEvent existing event >>= fun _ => (pure value : LedgerTx β)) ledger) =
      (noted event ledger).map fun after => (value, after) := by
  rw [validateExistingOutboxEvent, noted_found event looked]
  split
  · rename_i mismatch
    rw [Tx.bind_rejected mismatch]
    rfl
  · rename_i matched
    rw [Tx.bind_accepted matched]
    rfl

-- A new event, whatever the store is told afterwards.
theorem observed_insert (event : BillingOutboxEvent) (ledger : Ledger)
    (looked : ledger.outbox.find? (fun row => row.idempotencyKey = event.idempotencyKey) = none) (drawn : Nat) (next : BillingOutboxEvent → LedgerTx β)
    (ends : ∀ after, observed (next event after) = .ok (value, { after with drawn := 0 })) :
    observed ((insertRow Ledger.outbox (fun ledger outbox => { ledger with outbox }) event >>= next) { ledger with drawn }) =
      (noted event ledger).map fun after => (value, after) := by
  rw [noted_free event looked]
  cases inserted : ledger.outbox.insert? event with
  | none =>
      rw [insert_refused Ledger.outbox _ event next { ledger with drawn } inserted]
      rfl
  | some outbox =>
      rw [insert_then Ledger.outbox _ event next { ledger with drawn } inserted, ends]
      rfl

theorem observed_record (input : OutboxEventInput) (recordable : Recordable input) (ledger : Ledger) :
    observed ((recordOutboxEvent env input >>= fun _ => (pure value : LedgerTx β)) ledger) =
      (noted (eventOf env ledger.drawn input) ledger).map fun after => (value, after) := by
  have same := record_value env input recordable ledger
  cases looked : ledger.outbox.find? fun row => row.idempotencyKey = input.idempotencyKey with
  | some existing =>
      simp only [looked] at same
      rw [Tx.bind_congr same]
      exact observed_validate value (eventOf env ledger.drawn input) looked
  | none =>
      simp only [looked] at same
      rw [Tx.bind_congr same, Tx.bind_assoc]
      exact observed_insert value (eventOf env ledger.drawn input) ledger looked _ _ fun _ => rfl

-- The id of the entry is drawn first and that of the event second.
theorem generic_tail (given : BillingLedgerEntry) (unfilled : given.entryID = "") (bare : given.metadata = "") (input : BillingLedgerEntry → OutboxEventInput)
    (ledger : Ledger) (recordable : Recordable (input (entryOf env ledger.drawn given))) :
    observed ((createEntry env given >>= fun entry => recordOutboxEvent env (input entry) >>= fun _ => (pure value : LedgerTx β)) ledger) =
      (recorded (entryOf env ledger.drawn given) (eventOf env (ledger.drawn + 1) (input (entryOf env ledger.drawn given))) ledger).map
        fun after => (value, after) := by
  rw [create_entry_value env given unfilled bare, recorded]
  cases inserted : ledger.entries.insert? (entryOf env ledger.drawn given) with
  | none => exact observed_refused Ledger.entries _ (entryOf env ledger.drawn given) _ { ledger with drawn := ledger.drawn + 1 } inserted
  | some entries =>
      refine (observed_then Ledger.entries _ (entryOf env ledger.drawn given) _ { ledger with drawn := ledger.drawn + 1 } inserted).trans ?_
      exact observed_record env value _ recordable { ledger with entries, drawn := ledger.drawn + 1 }

theorem statement_tail (entry : BillingLedgerEntry) (event : BillingOutboxEvent) (fallback : LedgerTx Unit) (ledger : Ledger) :
    observed ((insertRow Ledger.entries (fun ledger entries => { ledger with entries }) entry >>= fun _ => writeOutboxEventPostgres event >>= fun answer =>
      (match answer with
        | some observed => validateExistingOutboxEvent observed event
        | none => fallback) >>= fun _ => (pure value : LedgerTx β)) ledger) =
      (recorded entry event ledger).map fun after => (value, after) := by
  rw [recorded]
  cases inserted : ledger.entries.insert? entry with
  | none => exact observed_refused Ledger.entries _ entry _ ledger inserted
  | some entries =>
      rw [insert_then Ledger.entries _ entry _ ledger inserted, writeOutboxEventPostgres, Tx.bind_assoc, findOutboxEvent, Tx.bind_view]
      cases looked : ledger.outbox.find? fun row => row.idempotencyKey = event.idempotencyKey with
      | some existing => exact observed_validate value event looked
      | none =>
          simp only [Tx.bind_assoc]
          refine observed_insert value event { ledger with entries } looked ledger.drawn _ fun after => ?_
          have own : ¬ (event.eventType ≠ event.eventType ∨ event.aggregateID ≠ event.aggregateID ∨ event.accountID ≠ event.accountID) := by simp
          exact congrArg observed (Tx.bind_accepted own _ _ after)

end Tails

section Heads

variable (env : LedgerEnv) {β : Type} (value : β)

-- The snapshot columns that taking a hold or giving it back changes.
theorem rebalanced_index (snapshot row : BillingBalanceSnapshot) :
    Indexed.index { row with availableBalance := snapshot.availableBalance, reservedBalance := snapshot.reservedBalance } = Indexed.index row := rfl

def rebalance (accountID : String) (snapshot : BillingBalanceSnapshot) (ledger : Ledger) : Ledger :=
  { ledger with
    snapshots := ledger.snapshots.update (fun row => row.accountID = accountID)
      (fun row => { row with availableBalance := snapshot.availableBalance, reservedBalance := snapshot.reservedBalance })
      (rebalanced_index snapshot) }

-- A whole row saved over the row it was read from.
theorem save_rebalance (ledger : Ledger) (old snapshot : BillingBalanceSnapshot)
    (found : ledger.snapshots.find? (fun row => row.accountID = snapshot.accountID) = some old)
    (consumed : snapshot.consumedTotal = old.consumedTotal) (refunded : snapshot.refundedTotal = old.refundedTotal)
    (granted : snapshot.grantedTotal = old.grantedTotal) :
    saveSnapshot snapshot ledger = (.ok (), rebalance snapshot.accountID snapshot ledger) := by
  obtain ⟨oldIn, oldAccount⟩ := Table.mem_of_find? _ _ _ found
  have tables : ledger.snapshots.update (fun row => row.accountID = snapshot.accountID) (fun row => { snapshot with accountID := row.accountID }) (fun _ => rfl) =
      ledger.snapshots.update (fun row => row.accountID = snapshot.accountID)
        (fun row => { row with availableBalance := snapshot.availableBalance, reservedBalance := snapshot.reservedBalance }) (fun _ => rfl) := by
    apply Table.ext
    rw [Table.rows_update, Table.rows_update]
    apply List.map_congr_left
    intro row rowIn
    by_cases selected : row.accountID = snapshot.accountID
    · have isOld : row = old := Table.eq_of_clash _ row old rowIn oldIn (selected.trans (of_decide_eq_true oldAccount).symm)
      rw [if_pos (decide_eq_true selected), if_pos (decide_eq_true selected), isOld]
      simp [consumed, refunded, granted]
    · simp [selected]
  rw [saveSnapshot, Tx.edit, tables, rebalance]

-- What the statement does once the reservation row is or is not written.
theorem write_postgres_row (snapshot : BillingBalanceSnapshot) (reservation : BillingReservation) (release : Bool) (entryKey reasonCode eventKey : String)
    (ledger : Ledger) {old : BillingBalanceSnapshot} (found : ledger.snapshots.find? (fun row => row.accountID = reservation.accountID) = some old) :
    (∀ middle, writeReservationRowPostgres release reservation (rebalance reservation.accountID snapshot { ledger with drawn := ledger.drawn + 2 }) =
        (.ok true, middle) →
      observed ((writeReservationPostgres env snapshot reservation release entryKey reasonCode eventKey >>= fun _ => (pure value : LedgerTx β)) ledger) =
        (recorded
          (entryOf env ledger.drawn (reservationEntry reservation (if release then .reserveRelease else .reserveHold)
            (if release then .credit else .debit) reservation.reservedAmount snapshot.availableBalance entryKey reasonCode))
          (eventOf env (ledger.drawn + 1) ⟨reservation.accountID, "reservation", reservation.reservationID,
            if release then "billing.reservation_released" else "billing.reservation_created", eventKey⟩) middle).map fun after => (value, after)) ∧
    ∀ problem middle, writeReservationRowPostgres release reservation (rebalance reservation.accountID snapshot { ledger with drawn := ledger.drawn + 2 }) =
        (.error problem, middle) →
      observed ((writeReservationPostgres env snapshot reservation release entryKey reasonCode eventKey >>= fun _ => (pure value : LedgerTx β)) ledger) =
        .error problem := by
  have drawn : ∀ (ledger : Ledger) (next : String → LedgerTx β),
      (getUUID env >>= next) ledger = next (env.uuid ledger.drawn) { ledger with drawn := ledger.drawn + 1 } := fun _ _ => rfl
  rw [writeReservationPostgres, Tx.bind_assoc, drawn, Tx.bind_assoc, drawn, Tx.bind_assoc, postgresReservationWrites, Tx.bind_assoc, findSnapshot, Tx.bind_view]
  simp only [found, Tx.bind_assoc]
  constructor
  · intro middle written
    refine (congrArg observed (Tx.bind_ran written _)).trans ?_
    simp only [if_true, Tx.bind_assoc]
    exact statement_tail value _ _ _ middle
  · intro problem middle failed
    exact congrArg observed (Tx.bind_failed failed _)

end Heads

section Create

variable (env : LedgerEnv) (ids : ∀ drawn, Tight (env.uuid drawn)) {params : CreateReservationParams} {ledger : Ledger}

include ids

-- The two tails after the lock and the check of the balance.
theorem create_tails (ledger : Ledger) (account : ¬ Blank params.accountID) (present : ¬ Blank params.idempotencyKey) (snapshots : Table BillingBalanceSnapshot)
    (snapshot : BillingBalanceSnapshot) (isBalance : snapshot = ledger.balance params.accountID)
    (found : snapshots.find? (fun row => row.accountID = params.accountID) = some (ledger.balance params.accountID)) :
    observed ((getUUID env >>= fun reservationID =>
      writeReservationPostgres env (holdFunds snapshot params.reservedAmount) { openReservation params ledger.clock with reservationID } false
        ("entry:" ++ trimSpace params.idempotencyKey) "reservation_hold" ("outbox:" ++ trimSpace params.idempotencyKey) >>= fun _ =>
      (pure { openReservation params ledger.clock with reservationID } : LedgerTx BillingReservation)) { ledger with snapshots }) =
    observed ((saveSnapshot (holdFunds snapshot params.reservedAmount) >>= fun _ => Tx.view Ledger.clock >>= fun now =>
      createReservationRow env (openReservation params now) >>= fun reservation =>
      createEntry env (reservationEntry reservation .reserveHold .debit params.reservedAmount (holdFunds snapshot params.reservedAmount).availableBalance
        ("entry:" ++ reservation.idempotencyKey) "reservation_hold") >>= fun _ =>
      recordOutboxEvent env ⟨reservation.accountID, "reservation", reservation.reservationID, "billing.reservation_created",
        "outbox:" ++ reservation.idempotencyKey⟩ >>= fun _ =>
      (pure reservation : LedgerTx BillingReservation)) { ledger with snapshots }) := by
  subst isBalance
  have saved := save_rebalance { ledger with snapshots } (ledger.balance params.accountID) (holdFunds (ledger.balance params.accountID) params.reservedAmount)
    (by simpa [holdFunds] using found) rfl rfl rfl
  rw [Tx.bind_ran saved, Tx.bind_view, createReservationRow, Tx.bind_assoc]
  have accountID : (holdFunds (ledger.balance params.accountID) params.reservedAmount).accountID = params.accountID := by simp [holdFunds]
  rw [accountID]
  refine Eq.trans ?_ (congrArg observed (Tx.bind_ran (fill_value env _) _)).symm
  obtain ⟨reservation, shape⟩ : ∃ reservation, reservation = { openReservation params ledger.clock with reservationID := env.uuid ledger.drawn } := ⟨_, rfl⟩
  obtain ⟨written, refused⟩ := write_postgres_row env reservation (holdFunds (ledger.balance params.accountID) params.reservedAmount) reservation false
    ("entry:" ++ trimSpace params.idempotencyKey) "reservation_hold" ("outbox:" ++ trimSpace params.idempotencyKey)
    { ledger with snapshots, drawn := ledger.drawn + 1 } (by simpa [shape, openReservation] using found)
  cases inserted : ledger.reservations.insert? reservation with
  | none =>
      subst shape
      refine (refused .uniqueViolation _ (insert_refused Ledger.reservations _ _ _ _ inserted)).trans ?_
      symm
      apply observed_refused
      exact inserted
  | some reservations =>
      subst shape
      refine (written _ (insert_then Ledger.reservations _ _ _ _ inserted)).trans ?_
      symm
      refine Eq.trans (@observed_then _ _ _ _ _ _ _ _ reservations ?_) ?_
      · exact inserted
      exact generic_tail env _ _ rfl rfl (fun _ => _) _ (recordable_event account (show Tight "reservation" by decide) (ids _) (by decide) present)

theorem create_same (account : ¬ Blank params.accountID) (present : ¬ Blank params.idempotencyKey)
    (unknown : ledger.reservations.find? (fun row => row.idempotencyKey = params.idempotencyKey) = none) :
    observed (createReservationPostgresTx env params ledger) = observed (createReservationGenericTx env params ledger) := by
  rw [createReservationPostgresTx, createReservationGenericTx, lock_postgres_eq]
  cases locked : ensureAndLockBalanceSnapshot params.accountID ledger with
  | mk outcome middle =>
      cases outcome with
      | error problem => rw [Tx.bind_failed locked, Tx.bind_failed locked]
      | ok snapshot =>
          obtain ⟨isBalance, seeded⟩ := ran_ensure_and_lock params.accountID ledger middle snapshot locked
          obtain ⟨snapshots, rfl⟩ := seeded.frame
          rw [Tx.bind_ran locked, Tx.bind_ran locked, findReservationByIdempotency, Tx.bind_view]
          simp only [unknown]
          by_cases short : snapshot.availableBalance < params.reservedAmount
          · rw [Tx.bind_rejected short, Tx.bind_rejected short]
          · rw [Tx.bind_accepted short, Tx.bind_accepted short, Tx.bind_view]
            exact create_tails env ids ledger account present snapshots snapshot isBalance seeded.found

theorem create_dialects (params : CreateReservationParams) (ledger : Ledger) :
    observed (createReservationTx { env with postgres := true } params ledger) =
      observed (createReservationTx { env with postgres := false } params ledger) := by
  by_cases rejected : Blank params.accountID ∨ params.reservedAmount ≤ 0 ∨ Blank params.idempotencyKey
  · rw [createReservationTx, createReservationTx, Tx.bind_rejected rejected, Tx.bind_rejected rejected]
  cases looked : ledger.reservations.find? fun row => row.idempotencyKey = params.idempotencyKey with
  | some existing => rw [create_found rejected looked, create_found rejected looked]
  | none =>
      rw [createReservationTx, createReservationTx, Tx.bind_accepted rejected, Tx.bind_accepted rejected, findReservationByIdempotency,
        Tx.bind_view, Tx.bind_view]
      simp only [looked]
      obtain ⟨account, _, key⟩ := by simpa only [not_or] using rejected
      exact create_same env ids account key looked

end Create

section Release

variable (env : LedgerEnv) {params : ReleaseReservationParams} {current : BillingReservation}

-- The update of the status alone is the save of the row that was read.
theorem release_row (current : BillingReservation) (ledger : Ledger) (status : BillingReservationStatus) (found : ledger.reservations.find? (fun row => row.reservationID = current.reservationID) = some current) :
    ∃ reservations, saveReservation { current with status } ledger = (.ok (), { ledger with reservations }) ∧
      ∀ drawn, writeReservationRowPostgres true { current with status } { ledger with drawn } = (.ok true, { ledger with reservations, drawn }) := by
  obtain ⟨currentIn, _⟩ := Table.mem_of_find? _ _ _ found
  have sole : ∀ row ∈ ledger.reservations.rows, row.reservationID = current.reservationID → row = current := fun row rowIn same =>
    Table.eq_of_clash _ row current rowIn currentIn (.inl same)
  have located : ledger.reservations.find? (fun row => row.reservationID = current.reservationID ∧ row.accountID = current.accountID) = some current := by
    refine Table.find?_of_mem _ _ current currentIn (by simp) fun other same => ?_
    simp only [Bool.decide_and, Bool.and_eq_true, decide_eq_true_eq] at same
    exact .inl same.1.symm
  have tables : ledger.reservations.update (fun row => row.reservationID = current.reservationID)
        (fun row => { current with status, reservationID := row.reservationID, idempotencyKey := row.idempotencyKey }) (fun _ => rfl) =
      ledger.reservations.update (fun row => row.reservationID = current.reservationID ∧ row.accountID = current.accountID)
        (fun row => { row with status }) (fun _ => rfl) := by
    apply Table.ext
    rw [Table.rows_update, Table.rows_update]
    apply List.map_congr_left
    intro row rowIn
    by_cases same : row.reservationID = current.reservationID
    · simp [sole row rowIn same]
    · simp [same]
  refine ⟨_, rfl, fun drawn => ?_⟩
  rw [writeReservationRowPostgres, if_pos rfl, Tx.bind_view]
  simp only [located, tables]
  rfl

theorem release_same (ledger : Ledger) (found : ledger.reservations.find? (fun row => row.reservationID = current.reservationID) = some current)
    (account : ¬ Blank current.accountID) (id : Tight current.reservationID) (present : ¬ Blank params.idempotencyKey) :
    observed (releaseReservationPostgresTx env current params ledger) = observed (releaseReservationGenericTx env current params ledger) := by
  rw [releaseReservationPostgresTx, releaseReservationGenericTx, lock_postgres_eq]
  cases locked : ensureAndLockBalanceSnapshot current.accountID ledger with
  | mk outcome middle =>
      cases outcome with
      | error problem => rw [Tx.bind_failed locked, Tx.bind_failed locked]
      | ok snapshot =>
          obtain ⟨rfl, seeded⟩ := ran_ensure_and_lock current.accountID ledger middle snapshot locked
          obtain ⟨snapshots, rfl⟩ := seeded.frame
          rw [Tx.bind_ran locked, Tx.bind_ran locked]
          by_cases short : (ledger.balance current.accountID).reservedBalance < current.reservedAmount
          · rw [Tx.bind_rejected short, Tx.bind_rejected short]
          rw [Tx.bind_accepted short, Tx.bind_accepted short]
          have saved := save_rebalance { ledger with snapshots } (ledger.balance current.accountID) (freeFunds (ledger.balance current.accountID) current.reservedAmount)
            (by simpa [freeFunds] using seeded.found) rfl rfl rfl
          have accountID : (freeFunds (ledger.balance current.accountID) current.reservedAmount).accountID = current.accountID := by simp [freeFunds]
          rw [accountID] at saved
          obtain ⟨reservations, kept, written⟩ := release_row current (rebalance current.accountID
            (freeFunds (ledger.balance current.accountID) current.reservedAmount) { ledger with snapshots }) .released found
          rw [Tx.bind_ran saved, Tx.bind_ran kept]
          obtain ⟨through, _⟩ := write_postgres_row env { current with status := .released }
            (freeFunds (ledger.balance current.accountID) current.reservedAmount) { current with status := .released } true
            (trimSpace params.idempotencyKey) (defaultIfEmpty (trimSpace params.reasonCode) "reservation_release")
            ("outbox:" ++ trimSpace params.idempotencyKey) { ledger with snapshots } seeded.found
          refine (through _ (written (ledger.drawn + 2))).trans ?_
          symm
          exact generic_tail env _ _ rfl rfl (fun _ => _) _ (recordable_event account (show Tight "reservation" by decide) id (by decide) present)

theorem release_dialects (params : ReleaseReservationParams) (ledger : Ledger)
    (kept : ∀ row ∈ ledger.reservations.rows, row.reservationID = params.reservationID → ¬ Blank row.accountID ∧ Tight row.reservationID) :
    observed (releaseReservationTx { env with postgres := true } params ledger) =
      observed (releaseReservationTx { env with postgres := false } params ledger) := by
  rw [releaseReservationTx, releaseReservationTx]
  by_cases rejected : Blank params.reservationID ∨ Blank params.idempotencyKey
  · rw [Tx.bind_rejected rejected, Tx.bind_rejected rejected]
  rw [Tx.bind_accepted rejected, Tx.bind_accepted rejected]
  cases found : ledger.reservations.find? fun row => row.reservationID = params.reservationID with
  | none =>
      have missing : lockReservation params.reservationID ledger = (.error .reservationNotFound, ledger) := by
        rw [lockReservation, Tx.bind_view]
        simp only [found]
        rfl
      rw [Tx.bind_failed missing, Tx.bind_failed missing]
  | some current =>
      have locked : lockReservation params.reservationID ledger = (.ok current, ledger) := by
        rw [lockReservation, Tx.bind_view]
        simp only [found]
        rfl
      obtain ⟨currentIn, named⟩ := Table.mem_of_find? _ _ _ found
      have same : current.reservationID = params.reservationID := of_decide_eq_true named
      obtain ⟨account, id⟩ := kept current currentIn same
      rw [Tx.bind_ran locked, Tx.bind_ran locked]
      by_cases released : current.status = .released
      · simp only [if_pos released]
      simp only [if_neg released]
      by_cases closed : current.status ≠ .opened
      · rw [Tx.bind_rejected closed, Tx.bind_rejected closed]
      rw [Tx.bind_accepted closed, Tx.bind_accepted closed, findLedgerEntryByIdempotency, Tx.bind_view, Tx.bind_view]
      cases looked : ledger.entries.find? fun row => row.idempotencyKey = params.idempotencyKey with
      | some existing => rfl
      | none =>
          rw [← same] at found
          exact release_same env ledger found account id fun blank => rejected (.inr blank)

end Release

section Rows

variable {env : LedgerEnv} {ledger after : Ledger}

-- The rows of a store the operations have written.
def WellKept (row : BillingReservation) : Prop := ¬ Blank row.accountID ∧ Tight row.reservationID

theorem drawn_of_create (params : CreateReservationParams) (row : BillingReservation) (ran : createReservationTx env params ledger = (.ok row, after)) :
    row ∈ ledger.reservations.rows ∨ (row.accountID = params.accountID ∧ ¬ Blank params.accountID ∧ ∃ drawn, row.reservationID = env.uuid drawn) := by
  simp only [createReservationTx, findReservationByIdempotency, Tx.ran_bind, Tx.ran_reject, Tx.ran_view] at ran
  obtain ⟨_, _, ⟨accepted, rfl⟩, _, _, ⟨rfl, rfl⟩, continued⟩ := ran
  have account : ¬ Blank params.accountID := fun blank => accepted (.inl blank)
  cases looked : ledger.reservations.find? fun row => row.idempotencyKey = params.idempotencyKey with
  | some existing =>
      simp only [looked, Tx.ran_bind, Tx.ran_reject, Tx.ran_pure] at continued
      obtain ⟨_, _, ⟨_, rfl⟩, rfl, rfl⟩ := continued
      exact .inl (Table.mem_of_find? _ _ _ looked).1
  | none =>
      apply Or.inr
      simp only [looked] at continued
      split at continued
      · simp only [createReservationPostgresTx, findReservationByIdempotency, Tx.ran_bind, Tx.ran_view] at continued
        obtain ⟨_, locked, lock, _, _, ⟨rfl, rfl⟩, continued⟩ := continued
        obtain ⟨_, seeded⟩ := ran_lock_postgres _ _ _ _ lock
        obtain ⟨snapshots, rfl⟩ := seeded.frame
        simp only [looked, Tx.ran_bind, Tx.ran_reject, Tx.ran_view, ran_get_uuid, Tx.ran_pure] at continued
        obtain ⟨_, _, _, _, _, _, _, _, ⟨rfl, _⟩, _, _, _, rfl, _⟩ := continued
        exact ⟨rfl, account, _, rfl⟩
      · simp only [createReservationGenericTx, Tx.ran_bind, Tx.ran_reject, Tx.ran_view, Tx.ran_pure] at continued
        obtain ⟨_, _, _, _, _, _, _, _, _, now, _, _, given, _, created, _, _, _, _, _, _, rfl, _⟩ := continued
        rw [createReservationRow, openReservation, Tx.bind_ran (fill_value env _)] at created
        obtain ⟨rfl, _⟩ := ran_insert_row _ _ _ _ _ _ created
        exact ⟨rfl, account, _, rfl⟩

theorem well_kept_replaced (kept : ∀ row ∈ ledger.reservations.rows, WellKept row) {old new : BillingReservation}
    (replaced : Table.Replaced ledger.reservations after.reservations old new) (account : new.accountID = old.accountID)
    (id : new.reservationID = old.reservationID) : ∀ row ∈ after.reservations.rows, WellKept row := by
  intro row member
  rcases replaced.mem row member with rfl | ⟨before, _⟩
  · rw [WellKept, account, id]
    exact kept old replaced.old_mem
  · exact kept row before

-- Every other operation keeps the account and the id of a row.
theorem Effect.well_kept {op : LedgerOp} (effect : Effect ledger after op) (kept : ∀ row ∈ ledger.reservations.rows, WellKept row)
    (created : ∀ params row, op = .createReservation params → Held ledger params row after → WellKept row) :
    ∀ row ∈ after.reservations.rows, WellKept row := by
  cases effect with
  | unmoved _ same =>
      rw [same.reservations]
      exact kept
  | audited params entry audited =>
      rw [audited.reservations]
      exact kept
  | credited params entry credited =>
      rw [credited.reservations]
      exact kept
  | held params reservation held =>
      intro row member
      rw [held.reservations, List.mem_append, List.mem_singleton] at member
      rcases member with before | rfl
      · exact kept row before
      · exact created params row rfl held
  | raised params current raised => exact well_kept_replaced kept raised.reservations rfl rfl
  | released params current released => exact well_kept_replaced kept released.reservations rfl rfl
  | dropped params current dropped => exact well_kept_replaced kept dropped.reservations rfl rfl
  | settled params current settlement settled => exact well_kept_replaced kept settled.reservations rfl rfl
  | adjusted params entry _ adjusted =>
      rw [adjusted.reservations]
      exact kept

theorem well_kept_step (ids : ∀ drawn, Tight (env.uuid drawn)) (op : LedgerOp) (kept : ∀ row ∈ ledger.reservations.rows, WellKept row) :
    ∀ row ∈ (step env ledger op).reservations.rows, WellKept row := by
  apply (step_effect env ledger op).well_kept kept
  rintro params reservation rfl held
  have added : reservation ∈ (step env ledger (.createReservation params)).reservations.rows := by simp [held.reservations]
  rcases created_cases env ledger (.createReservation params) with ⟨_, old⟩ | ⟨_, row, same, _, created⟩
  · -- A step that creates nothing has no room for the new key.
    obtain ⟨before, beforeIn, key⟩ := old reservation added
    have still : before ∈ (step env ledger (.createReservation params)).reservations.rows := by simp [held.reservations, beforeIn]
    exact reservation_of_key before reservation still added key ▸ kept before beforeIn
  · cases same
    have rowKept : WellKept row := by
      rcases drawn_of_create params row created with before | ⟨account, present, drawn, id⟩
      · exact kept row before
      · exact ⟨account ▸ present, id ▸ ids drawn⟩
    obtain ⟨same, _⟩ | again := held_of_create env params ledger _ row created
    · exact kept reservation (by rwa [same] at added)
    · have rows := again.reservations.symm.trans held.reservations
      have same : row = reservation := by simpa using rows
      exact same ▸ rowKept

theorem well_kept_run (ids : ∀ drawn, Tight (env.uuid drawn)) (ops : List LedgerOp) :
    ∀ row ∈ (run (step env) Ledger.empty ops).reservations.rows, WellKept row :=
  run_keeps (step env) (fun ledger => ∀ row ∈ ledger.reservations.rows, WellKept row) (fun _ => True)
    (fun _ op _ kept => well_kept_step ids op kept) Ledger.empty (by simp [Ledger.empty]) ops fun _ _ => trivial

end Rows

-- Both calls have one outcome in both dialects, whatever they are asked for.
def Refines (env : LedgerEnv) (ledger : Ledger) : Prop :=
  (∀ params, observed (createReservationTx { env with postgres := true } params ledger) =
    observed (createReservationTx { env with postgres := false } params ledger)) ∧
  ∀ params, observed (releaseReservationTx { env with postgres := true } params ledger) =
    observed (releaseReservationTx { env with postgres := false } params ledger)

-- The id library answers with no outer white space; a release reads the row it is named after.
theorem fast_path_refines (env : LedgerEnv) (ids : ∀ drawn, Tight (env.uuid drawn)) :
    (∀ ledger params, observed (createReservationTx { env with postgres := true } params ledger) =
      observed (createReservationTx { env with postgres := false } params ledger)) ∧
    (∀ ledger params, (∀ row ∈ ledger.reservations.rows, row.reservationID = params.reservationID → WellKept row) →
      observed (releaseReservationTx { env with postgres := true } params ledger) =
        observed (releaseReservationTx { env with postgres := false } params ledger)) ∧
    ∀ ops, Refines env (run (step env) Ledger.empty ops) := by
  have create : ∀ ledger params, observed (createReservationTx { env with postgres := true } params ledger) =
      observed (createReservationTx { env with postgres := false } params ledger) := fun ledger params => create_dialects env ids params ledger
  refine ⟨create, fun ledger params kept => release_dialects env params ledger kept, fun ops => ⟨create _, fun params => ?_⟩⟩
  apply release_dialects
  intro row member _
  exact well_kept_run ids ops row member

-- Six units held on a wallet.
def sixHeld : Ledger :=
  { Ledger.empty with
    snapshots := ⟨[{ accountID := "wallet", reservedBalance := 6 }], by simp⟩
    reservations := ⟨[{
      reservationID := "idf", requestID := "", workflowID := "", accountID := "wallet", reservedAmount := 6, status := .opened,
      idempotencyKey := "hold", expiresAt := none, createdAt := 0 }], by simp⟩ }

theorem fast_path_refines_held :
    observed (releaseReservationTx { tallyEnv with postgres := true } { reservationID := "idf", idempotencyKey := "free" } sixHeld) =
        observed (releaseReservationTx { tallyEnv with postgres := false } { reservationID := "idf", idempotencyKey := "free" } sixHeld) ∧
      Refines tallyEnv (run (step tallyEnv) Ledger.empty []) := by
  have kept : ∀ row ∈ sixHeld.reservations.rows, WellKept row := by
    unfold WellKept
    decide
  obtain ⟨_, releases, runs⟩ := fast_path_refines tallyEnv tally_tight
  exact ⟨releases sixHeld _ fun row member _ => kept row member, runs []⟩

-- A row under an account id of one blank, which no operation writes.
def blankHold : BillingReservation :=
  { reservationID := "idf", requestID := "", workflowID := "", accountID := " ", reservedAmount := 6, status := .opened, idempotencyKey := "hold",
    expiresAt := none, createdAt := 0 }

def blankLedger : Ledger :=
  { Ledger.empty with
    snapshots := ⟨[{ accountID := " ", reservedBalance := 6 }], by simp⟩
    reservations := ⟨[blankHold], by simp⟩ }

-- The statement writes an event for the blank account; the outbox of the other dialects refuses it.
theorem blank_account_split : ¬ ∀ env : LedgerEnv, (∀ drawn, Tight (env.uuid drawn)) → ∀ ledger, Refines env ledger := by
  intro every
  have same := (every tallyEnv tally_tight blankLedger).2 { reservationID := "idf", idempotencyKey := "free" }
  have answers := congrArg (fun seen => (seen.map Prod.fst).toOption.isSome) same
  revert answers
  decide

end CodeGo.Billing
