import CodeGo.Ledger.Refusal

set_option autoImplicit false

namespace CodeGo.Billing

open Relational Text

/- What a second CreateReservation under a key answers, beside the first use of the key. The
   replay check reads the reservation as it stands now, and IncreaseReservation changes the
   amount that it compares. -/

-- The reservations that the committed CreateReservation calls of a run answered with.
def createdBy (env : LedgerEnv) (ledger : Ledger) (op : LedgerOp) : List (CreateReservationParams × BillingReservation) :=
  match op, (transact env op ledger).1 with
  | .createReservation params, .ok (.reservation row) => [(params, row)]
  | _, _ => []

def creations (env : LedgerEnv) : Ledger → List LedgerOp → List (CreateReservationParams × BillingReservation)
  | _, [] => []
  | ledger, op :: rest => createdBy env ledger op ++ creations env (step env ledger op) rest

-- The call that first used a key.
def firstUse (history : List (CreateReservationParams × BillingReservation)) (key : String) :
    Option (CreateReservationParams × BillingReservation) := history.find? fun creation => trimSpace creation.1.idempotencyKey = key

def CreateReservationParams.Differs (first params : CreateReservationParams) : Prop :=
  first.accountID ≠ params.accountID ∨ first.reservedAmount ≠ params.reservedAmount ∨
    trimSpace first.requestID ≠ trimSpace params.requestID ∨ trimSpace first.workflowID ≠ trimSpace params.workflowID

-- A call that has succeeded once answers with its reservation again, and a conflict is
-- reported exactly when the key was first used for something else.
def Transparent (env : LedgerEnv) (ops : List LedgerOp) (params : CreateReservationParams) : Prop :=
  let history := creations env Ledger.empty ops
  let answer := (transact env (.createReservation params) (run (step env) Ledger.empty ops)).1
  (∀ creation ∈ history, creation.1 = params → ∃ row, answer = .ok (.reservation row) ∧ row.reservationID = creation.2.reservationID) ∧
    (answer = .error .ledgerConflict ↔ ∃ first, firstUse history (trimSpace params.idempotencyKey) = some first ∧ first.1.Differs params)

-- The only hold entry of the reservation is the one it was created with.
def Unraised (ledger : Ledger) (reservation : BillingReservation) : Prop :=
  ∀ entry ∈ ledger.entries.rows, entry.entryType = .reserveHold → entry.referenceID = reservation.reservationID →
    entry.idempotencyKey = "entry:" ++ reservation.idempotencyKey

instance (ledger : Ledger) (reservation : BillingReservation) : Decidable (Unraised ledger reservation) :=
  inferInstanceAs (Decidable (∀ _ ∈ _, _))

-- A reservation under the key has not been raised, or is not the caller's; without one, no
-- event of another operation is in the way of a funded hold.
def KeyClear (ledger : Ledger) (params : CreateReservationParams) : Option BillingReservation → Prop
  | some row => Unraised ledger row ∨ row.accountID ≠ params.accountID ∨ row.requestID ≠ trimSpace params.requestID ∨
      row.workflowID ≠ trimSpace params.workflowID
  | none => (ledger.balance params.accountID).availableBalance < params.reservedAmount ∨
      ∀ event ∈ ledger.outbox.rows, event.idempotencyKey ≠ "outbox:" ++ params.idempotencyKey

instance (ledger : Ledger) (params : CreateReservationParams) : DecidablePred (KeyClear ledger params)
  | some _ => inferInstanceAs (Decidable (_ ∨ _))
  | none => inferInstanceAs (Decidable (_ ∨ _))

-- When a call is answered as its key promises: it passes the argument check, its key is trimmed, and the key is clear.
def Replayable (ledger : Ledger) (params : CreateReservationParams) : Prop :=
  ¬ (Blank params.accountID ∨ params.reservedAmount ≤ 0 ∨ Blank params.idempotencyKey) ∧
    trimSpace params.idempotencyKey = params.idempotencyKey ∧
      KeyClear ledger params (ledger.reservations.find? fun row => row.idempotencyKey = params.idempotencyKey)

instance (ledger : Ledger) (params : CreateReservationParams) : Decidable (Replayable ledger params) :=
  inferInstanceAs (Decidable (_ ∧ _ ∧ _))

theorem creations_snoc (env : LedgerEnv) (ledger : Ledger) (ops : List LedgerOp) (op : LedgerOp) :
    creations env ledger (ops ++ [op]) = creations env ledger ops ++ createdBy env (run (step env) ledger ops) op := by
  induction ops generalizing ledger with
  | nil => simp [creations]
  | cons first rest ih => rw [List.cons_append, creations, creations, ih, List.append_assoc, run_cons]

-- A row agrees with a call in what the replay check compares, but for raises in between.
structure Agrees (ledger : Ledger) (params : CreateReservationParams) (row : BillingReservation) : Prop where
  account : row.accountID = params.accountID
  request : row.requestID = trimSpace params.requestID
  workflow : row.workflowID = trimSpace params.workflowID
  amount : Unraised ledger row → row.reservedAmount = params.reservedAmount

structure Chronicle (history : List (CreateReservationParams × BillingReservation)) (ledger : Ledger) : Prop where
  trimmed : Trimmed ledger
  noted : ∀ row ∈ ledger.reservations.rows, ∃ entry ∈ ledger.entries.rows, entry.idempotencyKey = "entry:" ++ row.idempotencyKey
  kept : ∀ creation ∈ history, ∃ row ∈ ledger.reservations.rows, row.reservationID = creation.2.reservationID ∧
    row.idempotencyKey = trimSpace creation.1.idempotencyKey ∧ Agrees ledger creation.1 row
  origin : ∀ row ∈ ledger.reservations.rows, ∃ creation ∈ history, trimSpace creation.1.idempotencyKey = row.idempotencyKey

-- What a step leaves of a reservation: its identity, and its amount unless a raise is posted.
structure Retains (ledger after : Ledger) (before row : BillingReservation) : Prop where
  id : row.reservationID = before.reservationID
  key : row.idempotencyKey = before.idempotencyKey
  account : row.accountID = before.accountID
  request : row.requestID = before.requestID
  workflow : row.workflowID = before.workflowID
  amount : Unraised after row → row.reservedAmount = before.reservedAmount

section Steps

variable {env : LedgerEnv} {ledger after : Ledger} {op : LedgerOp}

-- More entries only take away from being unraised.
theorem Unraised.back {before row : BillingReservation} (unraised : Unraised after row)
    (entries : ∀ entry ∈ ledger.entries.rows, entry ∈ after.entries.rows) (id : row.reservationID = before.reservationID)
    (key : row.idempotencyKey = before.idempotencyKey) : Unraised ledger before := by
  intro entry member hold names
  rw [← key]
  exact unraised entry (entries entry member) hold (names.trans id.symm)

theorem Retains.same (row : BillingReservation) : Retains ledger after row row := ⟨rfl, rfl, rfl, rfl, rfl, fun _ => rfl⟩

theorem retained_of_replaced {old new : BillingReservation} (replaced : Table.Replaced ledger.reservations after.reservations old new)
    (retains : Retains ledger after old new) (before : BillingReservation) (member : before ∈ ledger.reservations.rows) :
    ∃ row ∈ after.reservations.rows, Retains ledger after before row := by
  rcases replaced.kept before member with rfl | kept
  · exact ⟨new, replaced.new_mem, retains⟩
  · exact ⟨before, kept, .same before⟩

theorem Effect.retains (effect : Effect ledger after op)
    (noted : ∀ row ∈ ledger.reservations.rows, ∃ entry ∈ ledger.entries.rows, entry.idempotencyKey = "entry:" ++ row.idempotencyKey)
    (before : BillingReservation) (member : before ∈ ledger.reservations.rows) :
    ∃ row ∈ after.reservations.rows, Retains ledger after before row := by
  cases effect with
  | unmoved _ same => exact ⟨before, same.reservations ▸ member, .same before⟩
  | audited params entry audited => exact ⟨before, audited.reservations ▸ member, .same before⟩
  | credited params entry credited => exact ⟨before, credited.reservations ▸ member, .same before⟩
  | held params reservation held => exact ⟨before, by simp [held.reservations, member], .same before⟩
  | raised params current raised =>
      refine retained_of_replaced raised.reservations ⟨rfl, rfl, rfl, rfl, rfl, fun unraised => ?_⟩ before member
      -- The entry of the raise has a key of its own, because the key of the first hold is taken.
      obtain ⟨entry, posted, line⟩ := raised.posted
      obtain ⟨first, firstIn, key⟩ := noted current raised.reservations.old_mem
      have own := unraised entry (by simp [posted.entries]) line.kind line.referenceID
      exact (entry_key_fresh ledger after entry first posted.entries firstIn (key.trans own.symm)).elim
  | released params current released => exact retained_of_replaced released.reservations ⟨rfl, rfl, rfl, rfl, rfl, fun _ => rfl⟩ before member
  | dropped params current dropped => exact retained_of_replaced dropped.reservations ⟨rfl, rfl, rfl, rfl, rfl, fun _ => rfl⟩ before member
  | settled params current settlement settled =>
      exact retained_of_replaced settled.reservations ⟨rfl, rfl, rfl, rfl, rfl, fun _ => rfl⟩ before member
  | adjusted params entry _ adjusted => exact ⟨before, adjusted.reservations ▸ member, .same before⟩

-- A step either adds no creation and no reservation, or is a call that answered.
theorem created_cases (env : LedgerEnv) (ledger : Ledger) (op : LedgerOp) :
    (createdBy env ledger op = [] ∧ ∀ row ∈ (step env ledger op).reservations.rows, ∃ before ∈ ledger.reservations.rows,
        before.idempotencyKey = row.idempotencyKey) ∨
      ∃ params row, op = .createReservation params ∧ createdBy env ledger op = [(params, row)] ∧
        createReservationTx env params ledger = (.ok row, step env ledger op) := by
  have grown := (step_effect env ledger op).reservation_key
  cases op with
  | createReservation params =>
      cases answer : (transact env (.createReservation params) ledger).1 with
      | error problem =>
          refine .inl ⟨by simp [createdBy, answer], fun row member => ⟨row, ?_, rfl⟩⟩
          rwa [failed_step env ledger _ problem answer] at member
      | ok result =>
          have ran : execute env (.createReservation params) ledger = (.ok result, step env ledger (.createReservation params)) :=
            (Tx.ran_atomic _ _ _ _).mp (Prod.ext answer rfl)
          simp only [execute, Tx.ran_bind, Tx.ran_pure] at ran
          obtain ⟨row, _, created, rfl, rfl⟩ := ran
          exact .inr ⟨params, row, rfl, by simp [createdBy, answer], created⟩
  | _ => exact .inl ⟨rfl, fun row member => (grown row member).resolve_right (by simp [LedgerOp.reservationKeys])⟩

end Steps

section Histories

variable {env : LedgerEnv} {history : List (CreateReservationParams × BillingReservation)} {ledger after : Ledger}

theorem agrees_of_held {params : CreateReservationParams} {row : BillingReservation} (held : Held ledger params row after) :
    Agrees after params row ∧ row.idempotencyKey = trimSpace params.idempotencyKey := by
  obtain ⟨reservationID, now, rfl⟩ := held.opened
  exact ⟨⟨rfl, rfl, rfl, fun _ => rfl⟩, rfl⟩

theorem agrees_of_matched {params : CreateReservationParams} {row : BillingReservation} (matched : ¬ ReservationMismatch row params) :
    Agrees ledger params row := by
  simp only [ReservationMismatch, not_or, Decidable.not_not] at matched
  exact ⟨matched.1, matched.2.2.1, matched.2.2.2, fun _ => matched.2.1⟩

theorem Agrees.later {params : CreateReservationParams} {before row : BillingReservation} (agrees : Agrees ledger params before)
    (retains : Retains ledger after before row) (entries : ∀ entry ∈ ledger.entries.rows, entry ∈ after.entries.rows) : Agrees after params row :=
  ⟨retains.account.trans agrees.account, retains.request.trans agrees.request, retains.workflow.trans agrees.workflow,
    fun unraised => (retains.amount unraised).trans (agrees.amount (unraised.back entries retains.id retains.key))⟩

theorem Chronicle.next (chronicle : Chronicle history ledger) (env : LedgerEnv) (op : LedgerOp) :
    Chronicle (history ++ createdBy env ledger op) (step env ledger op) := by
  have effect := step_effect env ledger op
  have entries := effect.extends.entries
  -- Whatever the step is, the reservations it found are still known by their first uses.
  have known : ∀ creation ∈ history, ∃ row ∈ (step env ledger op).reservations.rows, row.reservationID = creation.2.reservationID ∧
      row.idempotencyKey = trimSpace creation.1.idempotencyKey ∧ Agrees (step env ledger op) creation.1 row := by
    intro creation made
    obtain ⟨before, beforeIn, id, key, agrees⟩ := chronicle.kept creation made
    obtain ⟨row, rowIn, retains⟩ := effect.retains chronicle.noted before beforeIn
    exact ⟨row, rowIn, retains.id.trans id, retains.key.trans key, agrees.later retains entries⟩
  have noted : ∀ row : BillingReservation, (∃ before ∈ ledger.reservations.rows, before.idempotencyKey = row.idempotencyKey) →
      ∃ entry ∈ (step env ledger op).entries.rows, entry.idempotencyKey = "entry:" ++ row.idempotencyKey := by
    rintro row ⟨before, beforeIn, same⟩
    obtain ⟨entry, entryIn, key⟩ := chronicle.noted before beforeIn
    exact ⟨entry, entries entry entryIn, same ▸ key⟩
  have origin : ∀ row : BillingReservation, (∃ before ∈ ledger.reservations.rows, before.idempotencyKey = row.idempotencyKey) →
      ∃ creation ∈ history, trimSpace creation.1.idempotencyKey = row.idempotencyKey := by
    rintro row ⟨before, beforeIn, same⟩
    obtain ⟨creation, made, key⟩ := chronicle.origin before beforeIn
    exact ⟨creation, made, key.trans same⟩
  rcases created_cases env ledger op with ⟨nothing, old⟩ | ⟨params, row, rfl, creation, created⟩
  · rw [nothing, List.append_nil]
    exact ⟨chronicle.trimmed.effect effect, fun row member => noted row (old row member), known, fun row member => origin row (old row member)⟩
  · rw [creation]
    obtain ⟨same, member, key, matched⟩ | held := held_of_create env params _ _ row created
    · have tight : row.idempotencyKey = trimSpace params.idempotencyKey := by
        rw [← key]
        exact (chronicle.trimmed.reservations row member).symm
      rw [same] at known ⊢
      refine ⟨chronicle.trimmed, chronicle.noted, ?_, ?_⟩
      · intro other made
        rw [List.mem_append, List.mem_singleton] at made
        rcases made with made | rfl
        · exact known other made
        · exact ⟨row, member, rfl, tight, agrees_of_matched matched⟩
      · intro other otherIn
        obtain ⟨first, made, firstKey⟩ := chronicle.origin other otherIn
        exact ⟨first, List.mem_append_left _ made, firstKey⟩
    · obtain ⟨agrees, key⟩ := agrees_of_held held
      have old : ∀ other ∈ (step env ledger (.createReservation params)).reservations.rows,
          (∃ before ∈ ledger.reservations.rows, before.idempotencyKey = other.idempotencyKey) ∨ other = row := by
        intro other otherIn
        rw [held.reservations, List.mem_append, List.mem_singleton] at otherIn
        exact otherIn.imp_left fun before => ⟨other, before, rfl⟩
      refine ⟨chronicle.trimmed.effect effect, ?_, ?_, ?_⟩
      · intro other otherIn
        rcases old other otherIn with before | rfl
        · exact noted other before
        · obtain ⟨entry, posted, line⟩ := held.posted
          exact ⟨entry, by simp [posted.entries], line.key.trans (by rw [key])⟩
      · intro other made
        rw [List.mem_append, List.mem_singleton] at made
        rcases made with made | rfl
        · exact known other made
        · exact ⟨row, by simp [held.reservations], rfl, key, agrees⟩
      · intro other otherIn
        rcases old other otherIn with before | rfl
        · obtain ⟨first, made, firstKey⟩ := origin other before
          exact ⟨first, List.mem_append_left _ made, firstKey⟩
        · exact ⟨(params, other), by simp, key.symm⟩

theorem chronicle_run (env : LedgerEnv) (ops : List LedgerOp) :
    Chronicle (creations env Ledger.empty ops) (run (step env) Ledger.empty ops) := by
  induction ops using List.reverseRecOn with
  | nil => exact ⟨⟨by simp [Ledger.empty], by simp [Ledger.empty]⟩, by simp [Ledger.empty], by simp [creations], by simp [Ledger.empty]⟩
  | append_singleton ops op ih =>
      rw [creations_snoc, run_append]
      exact ih.next env op

end Histories

section Conflicts

variable {env : LedgerEnv} {ledger after : Ledger}

theorem not_storage_conflict : ¬ LedgerError.ledgerConflict.OfStorage := by decide

theorem conflict_of_outbox (input : OutboxEventInput) (failed : recordOutboxEvent env input ledger = (.error .ledgerConflict, after)) :
    ∃ event ∈ ledger.outbox.rows, event.idempotencyKey = trimSpace input.idempotencyKey := by
  rw [recordOutboxEvent, Tx.failed_bind] at failed
  rcases failed with failed | ⟨_, _, passed, failed⟩
  · simp [Tx.failed_reject] at failed
  rw [Tx.ran_reject] at passed
  obtain ⟨_, rfl⟩ := passed
  rw [findOutboxEvent, Tx.bind_view] at failed
  cases looked : ledger.outbox.find? fun event => event.idempotencyKey = trimSpace input.idempotencyKey with
  | some existing =>
      obtain ⟨member, key⟩ := Table.mem_of_find? _ _ _ looked
      exact ⟨existing, member, of_decide_eq_true key⟩
  | none =>
      simp only [looked] at failed
      refine (Tx.avoids_bind (Tx.avoids_bind (avoids_fill _ env _) fun _ => ?_) (fun _ => Tx.avoids_pure _) ledger after failed).elim
      exact avoids_insert not_storage_conflict _ _ _

theorem row_postgres_outbox (release : Bool) (reservation : BillingReservation) (wrote : Bool)
    (ran : writeReservationRowPostgres release reservation ledger = (.ok wrote, after)) : after.outbox = ledger.outbox := by
  cases release with
  | true =>
      simp only [writeReservationRowPostgres, if_true, Tx.ran_bind, Tx.ran_view] at ran
      obtain ⟨_, _, ⟨rfl, rfl⟩, continued⟩ := ran
      cases looked : ledger.reservations.find? fun row => row.reservationID = reservation.reservationID ∧ row.accountID = reservation.accountID with
      | none =>
          simp only [looked, Tx.ran_pure] at continued
          rw [continued.2]
      | some row =>
          simp only [looked, Tx.ran_bind, Tx.ran_edit, Tx.ran_pure] at continued
          obtain ⟨_, _, rfl, _, rfl⟩ := continued
          rfl
  | false =>
      simp only [writeReservationRowPostgres, Bool.false_eq_true, if_false, Tx.ran_bind, Tx.ran_pure] at ran
      obtain ⟨_, _, inserted, _, rfl⟩ := ran
      obtain ⟨_, reservations, _, rfl⟩ := ran_insert_row _ _ _ _ _ _ inserted
      rfl

-- The statement answers with the event it inserted or with one that was there before.
def Answered (ledger after : Ledger) (event : BillingOutboxEvent) : Option BillingOutboxEvent → Prop
  | some existing => existing = event ∨ (existing ∈ ledger.outbox.rows ∧ existing.idempotencyKey = event.idempotencyKey)
  | none => after.outbox = ledger.outbox

theorem writes_postgres_outbox (snapshot : BillingBalanceSnapshot) (reservation : BillingReservation) (release : Bool)
    (entry : BillingLedgerEntry) (event : BillingOutboxEvent) (observed : Option BillingOutboxEvent)
    (ran : postgresReservationWrites snapshot reservation release entry event ledger = (.ok observed, after)) :
    Answered ledger after event observed := by
  have found : ∀ middle : Ledger, middle.outbox = ledger.outbox → ∀ found, findOutboxEvent event.idempotencyKey middle = (.ok found, after) →
      Answered ledger after event found := by
    intro middle kept found looked
    rw [findOutboxEvent, Tx.ran_view] at looked
    obtain ⟨looked, rfl⟩ := looked
    cases found with
    | none => exact kept
    | some existing =>
        obtain ⟨member, key⟩ := Table.mem_of_find? _ _ _ looked
        exact .inr ⟨kept ▸ member, of_decide_eq_true key⟩
  simp only [postgresReservationWrites, findSnapshot, Tx.ran_bind, Tx.ran_view] at ran
  obtain ⟨_, _, ⟨rfl, rfl⟩, continued⟩ := ran
  cases locked : ledger.snapshots.find? fun row => row.accountID = reservation.accountID with
  | none =>
      simp only [locked] at continued
      exact found ledger rfl observed continued
  | some old =>
      simp only [locked, Tx.ran_bind, Tx.ran_edit] at continued
      obtain ⟨_, _, rfl, wrote, middle, written, continued⟩ := continued
      have kept : middle.outbox = ledger.outbox := by simpa using row_postgres_outbox release reservation wrote written
      cases wrote with
      | false =>
          simp only [Bool.false_eq_true, if_false] at continued
          exact found middle kept observed continued
      | true =>
          simp only [if_true, Tx.ran_bind] at continued
          obtain ⟨_, _, inserted, recorded⟩ := continued
          obtain ⟨_, entries, _, rfl⟩ := ran_insert_row _ _ _ _ _ _ inserted
          simp only [writeOutboxEventPostgres, findOutboxEvent, Tx.ran_bind, Tx.ran_view] at recorded
          obtain ⟨_, _, ⟨rfl, rfl⟩, continued⟩ := recorded
          cases looked : middle.outbox.find? fun row => row.idempotencyKey = event.idempotencyKey with
          | some existing =>
              simp only [looked, Tx.ran_pure] at continued
              obtain ⟨rfl, rfl⟩ := continued
              obtain ⟨member, key⟩ := Table.mem_of_find? _ _ _ looked
              exact .inr ⟨kept ▸ member, of_decide_eq_true key⟩
          | none =>
              simp only [looked, Tx.ran_bind, Tx.ran_pure] at continued
              obtain ⟨row, _, inserted, rfl, rfl⟩ := continued
              obtain ⟨rfl, _⟩ := ran_insert_row _ _ _ _ _ _ inserted
              exact .inl rfl

theorem conflict_of_write_postgres (snapshot : BillingBalanceSnapshot) (reservation : BillingReservation) (release : Bool)
    (entryKey reasonCode eventKey : String) (tight : trimSpace eventKey = eventKey)
    (failed : writeReservationPostgres env snapshot reservation release entryKey reasonCode eventKey ledger = (.error .ledgerConflict, after)) :
    ∃ event ∈ ledger.outbox.rows, event.idempotencyKey = eventKey := by
  rw [writeReservationPostgres, Tx.failed_bind] at failed
  rcases failed with failed | ⟨entryID, _, drawn, failed⟩
  · exact (avoids_uuid _ env _ _ failed).elim
  rw [ran_get_uuid] at drawn
  obtain ⟨rfl, rfl⟩ := drawn
  rw [Tx.failed_bind] at failed
  rcases failed with failed | ⟨eventID, _, drawn, failed⟩
  · exact (avoids_uuid _ env _ _ failed).elim
  rw [ran_get_uuid] at drawn
  obtain ⟨rfl, rfl⟩ := drawn
  rw [Tx.failed_bind] at failed
  rcases failed with failed | ⟨observed, middle, written, failed⟩
  · exact (avoids_writes_postgres not_storage_conflict _ _ _ _ _ _ _ failed).elim
  have origin := writes_postgres_outbox _ _ _ _ _ _ written
  cases observed with
  | some existing =>
      rcases origin with rfl | ⟨member, key⟩
      · -- The event that was just inserted is its own.
        simp [validateExistingOutboxEvent, Tx.failed_reject] at failed
      · exact ⟨existing, member, key⟩
  | none =>
      obtain ⟨event, member, key⟩ := conflict_of_outbox _ failed
      rw [origin] at member
      exact ⟨event, member, key.trans tight⟩

theorem tight_outbox_key (key : String) (present : ¬ Blank key) : trimSpace ("outbox:" ++ trimSpace key) = "outbox:" ++ trimSpace key :=
  trim_space_tight _ (tight_append _ _ (by decide) (tight_trim_space key present).2)

theorem conflict_of_create_postgres (params : CreateReservationParams) (present : ¬ Blank params.idempotencyKey)
    (unknown : ledger.reservations.find? (fun row => row.idempotencyKey = params.idempotencyKey) = none)
    (failed : createReservationPostgresTx env params ledger = (.error .ledgerConflict, after)) :
    params.reservedAmount ≤ (ledger.balance params.accountID).availableBalance ∧
      ∃ event ∈ ledger.outbox.rows, event.idempotencyKey = "outbox:" ++ trimSpace params.idempotencyKey := by
  rw [createReservationPostgresTx, Tx.failed_bind] at failed
  rcases failed with failed | ⟨snapshot, locked, lock, failed⟩
  · exact (avoids_lock_postgres not_storage_conflict _ _ _ failed).elim
  obtain ⟨rfl, seeded⟩ := ran_lock_postgres _ _ _ _ lock
  obtain ⟨snapshots, rfl⟩ := seeded.frame
  rw [findReservationByIdempotency, Tx.bind_view] at failed
  simp only [unknown] at failed
  rw [Tx.failed_bind] at failed
  rcases failed with failed | ⟨_, _, covered, failed⟩
  · simp [Tx.failed_reject] at failed
  rw [Tx.ran_reject] at covered
  obtain ⟨covered, rfl⟩ := covered
  rw [Tx.bind_view, Tx.failed_bind] at failed
  rcases failed with failed | ⟨reservationID, _, drawn, failed⟩
  · exact (avoids_uuid _ env _ _ failed).elim
  rw [ran_get_uuid] at drawn
  obtain ⟨rfl, rfl⟩ := drawn
  rw [Tx.failed_bind] at failed
  rcases failed with failed | ⟨_, _, _, failed⟩
  · have event := conflict_of_write_postgres _ _ _ _ _ _ (tight_outbox_key _ present) failed
    exact ⟨Int.not_lt.mp covered, event⟩
  · exact (Tx.avoids_pure _ _ _ failed).elim

theorem conflict_of_create_generic (params : CreateReservationParams) (present : ¬ Blank params.idempotencyKey)
    (failed : createReservationGenericTx env params ledger = (.error .ledgerConflict, after)) :
    params.reservedAmount ≤ (ledger.balance params.accountID).availableBalance ∧
      ∃ event ∈ ledger.outbox.rows, event.idempotencyKey = "outbox:" ++ trimSpace params.idempotencyKey := by
  rw [createReservationGenericTx, Tx.failed_bind] at failed
  rcases failed with failed | ⟨snapshot, locked, lock, failed⟩
  · exact (avoids_lock_snapshot not_storage_conflict _ _ _ failed).elim
  obtain ⟨rfl, seeded⟩ := ran_ensure_and_lock _ _ _ _ lock
  obtain ⟨snapshots, rfl⟩ := seeded.frame
  rw [Tx.failed_bind] at failed
  rcases failed with failed | ⟨_, _, covered, failed⟩
  · simp [Tx.failed_reject] at failed
  rw [Tx.ran_reject] at covered
  obtain ⟨covered, rfl⟩ := covered
  rw [Tx.failed_bind] at failed
  rcases failed with failed | ⟨_, _, saved, failed⟩
  · exact (Tx.avoids_edit _ _ _ failed).elim
  rw [saveSnapshot, Tx.ran_edit] at saved
  subst saved
  rw [Tx.bind_view, Tx.failed_bind] at failed
  rcases failed with failed | ⟨row, _, created, failed⟩
  · exact (Tx.avoids_bind (avoids_fill _ env _) (fun _ => avoids_insert not_storage_conflict _ _ _) _ _ failed).elim
  obtain ⟨⟨_, rfl⟩, reservations, drawn, rfl, _⟩ := ran_create_reservation_row env _ _ _ _ created
  rw [Tx.failed_bind] at failed
  rcases failed with failed | ⟨entry, _, noted, failed⟩
  · exact (avoids_entry not_storage_conflict env _ _ _ failed).elim
  obtain ⟨_, entries, _, rfl, _⟩ := ran_create_entry env _ _ _ _ noted
  rw [Tx.failed_bind] at failed
  rcases failed with failed | ⟨_, _, _, failed⟩
  · obtain ⟨event, member, key⟩ := conflict_of_outbox _ failed
    exact ⟨Int.not_lt.mp covered, event, member, key.trans (tight_outbox_key _ present)⟩
  · exact (Tx.avoids_pure _ _ _ failed).elim

-- Under a key without a reservation, a conflict means that an event of the key is there already.
theorem conflict_of_create (params : CreateReservationParams)
    (unknown : ledger.reservations.find? (fun row => row.idempotencyKey = params.idempotencyKey) = none)
    (failed : createReservationTx env params ledger = (.error .ledgerConflict, after)) :
    params.reservedAmount ≤ (ledger.balance params.accountID).availableBalance ∧
      ∃ event ∈ ledger.outbox.rows, event.idempotencyKey = "outbox:" ++ trimSpace params.idempotencyKey := by
  rw [createReservationTx, Tx.failed_bind] at failed
  rcases failed with failed | ⟨_, _, passed, failed⟩
  · simp [Tx.failed_reject] at failed
  rw [Tx.ran_reject] at passed
  obtain ⟨accepted, rfl⟩ := passed
  push Not at accepted
  rw [findReservationByIdempotency, Tx.bind_view] at failed
  simp only [unknown] at failed
  split at failed
  · exact conflict_of_create_postgres params accepted.2.2 unknown failed
  · exact conflict_of_create_generic params accepted.2.2 failed

end Conflicts

section Answers

variable {env : LedgerEnv} {history : List (CreateReservationParams × BillingReservation)} {ledger : Ledger} {params : CreateReservationParams}

theorem create_found (accepted : ¬ (Blank params.accountID ∨ params.reservedAmount ≤ 0 ∨ Blank params.idempotencyKey)) {existing : BillingReservation}
    (found : ledger.reservations.find? (fun row => row.idempotencyKey = params.idempotencyKey) = some existing) :
    createReservationTx env params ledger =
      if ReservationMismatch existing params then (.error .ledgerConflict, ledger) else (.ok existing, ledger) := by
  have passed : Tx.reject (Blank params.accountID ∨ params.reservedAmount ≤ 0 ∨ Blank params.idempotencyKey)
      (LedgerError.message "account_id, reserved_amount and idempotency_key are required") ledger = (.ok (), ledger) :=
    (Tx.ran_reject _ _ _ _ _).mpr ⟨accepted, rfl⟩
  rw [createReservationTx, Tx.bind_ran passed, findReservationByIdempotency, Tx.bind_view]
  simp only [found]
  split
  · rename_i mismatch
    exact Tx.bind_failed ((Tx.failed_reject _ _ _ _ _).mpr ⟨mismatch, rfl, rfl⟩) _
  · rename_i matched
    have same : Tx.reject (ReservationMismatch existing params) LedgerError.ledgerConflict ledger = (.ok (), ledger) :=
      (Tx.ran_reject _ _ _ _ _).mpr ⟨matched, rfl⟩
    exact Tx.bind_ran same _

theorem transact_create (params : CreateReservationParams) (ledger : Ledger) :
    (transact env (.createReservation params) ledger).1 = (createReservationTx env params ledger).1.map LedgerRow.reservation := by
  rw [transact, Tx.atomic_outcome, execute]
  cases ran : createReservationTx env params ledger with
  | mk outcome after =>
      cases outcome with
      | error problem => rw [Tx.bind_failed ran]; rfl
      | ok row => rw [Tx.bind_ran ran]; rfl

theorem reservation_of_key (first second : BillingReservation) (firstIn : first ∈ ledger.reservations.rows)
    (secondIn : second ∈ ledger.reservations.rows) (same : first.idempotencyKey = second.idempotencyKey) : first = second :=
  Table.eq_of_clash _ _ _ firstIn secondIn (.inr same)

-- The reservation under a key is the one that its first use and every later success answered with.
theorem Chronicle.first_use (chronicle : Chronicle history ledger) {existing : BillingReservation} (member : existing ∈ ledger.reservations.rows) :
    ∃ first, firstUse history existing.idempotencyKey = some first ∧ Agrees ledger first.1 existing := by
  obtain ⟨creation, made, key⟩ := chronicle.origin existing member
  cases found : firstUse history existing.idempotencyKey with
  | none =>
      rw [firstUse, List.find?_eq_none] at found
      exact (found creation made (decide_eq_true key)).elim
  | some first =>
      refine ⟨first, rfl, ?_⟩
      have same : trimSpace first.1.idempotencyKey = existing.idempotencyKey := by simpa using List.find?_some found
      obtain ⟨row, rowIn, _, rowKey, agrees⟩ := chronicle.kept first (List.mem_of_find?_eq_some found)
      rwa [reservation_of_key row existing rowIn member (rowKey.trans same)] at agrees

theorem mismatch_iff_differs {first : CreateReservationParams} {existing : BillingReservation} (agrees : Agrees ledger first existing)
    (clear : Unraised ledger existing ∨ existing.accountID ≠ params.accountID ∨ existing.requestID ≠ trimSpace params.requestID ∨
      existing.workflowID ≠ trimSpace params.workflowID) : ReservationMismatch existing params ↔ first.Differs params := by
  rw [ReservationMismatch, CreateReservationParams.Differs, ← agrees.account, ← agrees.request, ← agrees.workflow]
  rcases clear with unraised | account | request | workflow
  · rw [agrees.amount unraised]
  · exact iff_of_true (.inl account) (.inl account)
  · exact iff_of_true (.inr (.inr (.inl request))) (.inr (.inr (.inl request)))
  · exact iff_of_true (.inr (.inr (.inr workflow))) (.inr (.inr (.inr workflow)))

end Answers

-- As long as the reservation has not been raised, a repeated call is answered as the first one was.
theorem replay_transparent (env : LedgerEnv) (ops : List LedgerOp) (params : CreateReservationParams)
    (clear : Replayable (run (step env) Ledger.empty ops) params) : Transparent env ops params := by
  have chronicle := chronicle_run env ops
  obtain ⟨accepted, tight, clear⟩ := clear
  unfold Transparent
  rw [transact_create, tight]
  cases found : (run (step env) Ledger.empty ops).reservations.find? fun row => row.idempotencyKey = params.idempotencyKey with
  | some existing =>
      rw [found] at clear
      obtain ⟨member, key⟩ := Table.mem_of_find? _ _ _ found
      have key : existing.idempotencyKey = params.idempotencyKey := of_decide_eq_true key
      obtain ⟨first, used, agrees⟩ := chronicle.first_use member
      rw [key] at used
      have differs := mismatch_iff_differs agrees clear
      rw [create_found accepted found]
      constructor
      · rintro creation made rfl
        obtain ⟨row, rowIn, id, rowKey, own⟩ := chronicle.kept creation made
        obtain rfl := reservation_of_key row existing rowIn member (rowKey.trans (tight.trans key.symm))
        -- A call that has succeeded found its own account and request there, so only the amount could have moved.
        have unraised : Unraised (run (step env) Ledger.empty ops) row := by
          rcases clear with unraised | account | request | workflow
          · exact unraised
          · exact (account own.account).elim
          · exact (request own.request).elim
          · exact (workflow own.workflow).elim
        have matched : ¬ ReservationMismatch row creation.1 := by
          simp [ReservationMismatch, own.account, own.request, own.workflow, own.amount unraised]
        rw [if_neg matched]
        exact ⟨row, rfl, id⟩
      · rw [used]
        by_cases mismatch : ReservationMismatch existing params
        · rw [if_pos mismatch]
          exact iff_of_true rfl ⟨first, rfl, differs.mp mismatch⟩
        · rw [if_neg mismatch]
          refine iff_of_false (by simp [Except.map]) ?_
          rintro ⟨other, same, differ⟩
          rw [← Option.some.inj same] at differ
          exact mismatch (differs.mpr differ)
  | none =>
      rw [found] at clear
      have unused : ∀ creation ∈ creations env Ledger.empty ops, trimSpace creation.1.idempotencyKey ≠ params.idempotencyKey := by
        intro creation made same
        obtain ⟨row, rowIn, _, rowKey, _⟩ := chronicle.kept creation made
        simpa [rowKey.trans same] using (Table.find?_eq_none_iff _ _).mp found row rowIn
      have first : firstUse (creations env Ledger.empty ops) params.idempotencyKey = none := by
        rw [firstUse, List.find?_eq_none]
        exact fun creation made => by simpa using unused creation made
      constructor
      · rintro creation made rfl
        exact (unused creation made tight).elim
      · rw [first]
        refine iff_of_false ?_ (by simp)
        intro conflict
        cases ran : createReservationTx env params (run (step env) Ledger.empty ops) with
        | mk outcome after =>
            rw [ran] at conflict
            cases outcome with
            | ok row => simp [Except.map] at conflict
            | error problem =>
                obtain rfl : problem = .ledgerConflict := by simpa [Except.map] using conflict
                obtain ⟨covered, event, member, key⟩ := conflict_of_create params found ran
                rw [tight] at key
                rcases clear with short | apart
                · omega
                · exact apart event member key

def walletHold : CreateReservationParams := { accountID := "wallet", requestID := "req", reservedAmount := 6, idempotencyKey := "hold" }

def heldOps : List LedgerOp := [.creditAccount { accountID := "wallet", amount := 10, idempotencyKey := "grant" }, .createReservation walletHold]

theorem replay_transparent_settled :
    Transparent sampleEnv (heldOps ++ [.settleReservation { reservationID := "uuid-2", actualAmount := 4, idempotencyKey := "settle" }]) walletHold :=
  replay_transparent sampleEnv _ walletHold (by decide)

def raisedOps : List LedgerOp := heldOps ++ [.increaseReservation { reservationID := "uuid-2", amount := 1, idempotencyKey := "more" }]

-- A hold of 6 is raised by 1, and the same request for 6 is then a conflict.
theorem raised_hold_not_replayed : ¬ ∀ env ops params, Transparent env ops params := by
  intro every
  have conflict : (transact sampleEnv (.createReservation walletHold) (run (step sampleEnv) Ledger.empty raisedOps)).1 =
      .error .ledgerConflict := by decide
  have own : (firstUse (creations sampleEnv Ledger.empty raisedOps) "hold").map Prod.fst = some walletHold := rfl
  obtain ⟨first, used, differs⟩ := (every sampleEnv raisedOps walletHold).2.mp conflict
  rw [show trimSpace walletHold.idempotencyKey = "hold" by decide] at used
  rw [used, Option.map_some, Option.some.injEq] at own
  simp [CreateReservationParams.Differs, own] at differs

end CodeGo.Billing
