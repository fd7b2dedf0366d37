import CodeGo.Ledger.Moves

set_option autoImplicit false

namespace CodeGo.Billing

open Relational Text

/- Which operations can answer that a balance is insufficient, and what is true of the
   ledger when they do. -/

abbrev NeverShort {σ α : Type} (work : Tx σ LedgerError α) : Prop := Tx.Avoids LedgerError.insufficientBalance work

theorem avoids_uuid (problem : LedgerError) (env : LedgerEnv) : Tx.Avoids problem (getUUID env) := by
  simp [Tx.Avoids, getUUID]

theorem avoids_fill (problem : LedgerError) (env : LedgerEnv) (given : String) : Tx.Avoids problem (fillID env given) := by
  unfold fillID
  split
  · exact avoids_uuid problem env
  · exact Tx.avoids_pure given

-- The errors that a read or a write of a row may end in, whatever the row is for.
def LedgerError.OfStorage (problem : LedgerError) : Prop := problem = .uniqueViolation ∨ problem = .recordNotFound

instance (problem : LedgerError) : Decidable problem.OfStorage := inferInstanceAs (Decidable (_ ∨ _))

section Storage

variable {problem : LedgerError} (business : ¬ problem.OfStorage)

include business

theorem avoids_clash {σ α : Type} : Tx.Avoids problem (Tx.fail .uniqueViolation : Tx σ LedgerError α) :=
  Tx.avoids_fail fun same => business (.inl same.symm)

theorem avoids_missing {σ α : Type} : Tx.Avoids problem (Tx.fail .recordNotFound : Tx σ LedgerError α) :=
  Tx.avoids_fail fun same => business (.inr same.symm)

theorem avoids_insert {α : Type} [Indexed α] (table : Ledger → Table α) (store : Ledger → Table α → Ledger) (row : α) :
    Tx.Avoids problem (insertRow table store row) := by
  refine Tx.avoids_bind (Tx.avoids_view _) fun inserted => ?_
  cases inserted with
  | none => exact avoids_clash business
  | some next => exact Tx.avoids_bind (Tx.avoids_edit _) fun _ => Tx.avoids_pure _

theorem avoids_entry (env : LedgerEnv) (entry : BillingLedgerEntry) : Tx.Avoids problem (createEntry env entry) :=
  Tx.avoids_bind (avoids_fill problem env _) fun _ => avoids_insert business _ _ _

theorem avoids_ensure_snapshot (accountID : String) : Tx.Avoids problem (ensureBalanceSnapshot accountID) := by
  refine Tx.avoids_bind (Tx.avoids_view _) fun found => ?_
  cases found with
  | some snapshot => exact Tx.avoids_pure _
  | none =>
      intro ledger after failed
      -- The error handed on is the one of the insert.
      rw [Tx.failed_bind] at failed
      rcases failed with failed | ⟨outcome, middle, tried, failed⟩
      · exact Tx.avoids_attempt _ ledger after failed
      · cases outcome with
        | ok row => exact Tx.avoids_pure _ middle after failed
        | error other =>
            have inserted : (createSnapshot { accountID } ledger).1 = .error other := by
              simpa [Tx.attempt] using congrArg Prod.fst tried
            refine Tx.avoids_bind (Tx.avoids_view _) (fun again => ?_) middle after failed
            cases again with
            | some snapshot => exact Tx.avoids_pure _
            | none =>
                refine Tx.avoids_fail fun same => ?_
                subst same
                exact avoids_insert business _ _ _ ledger (createSnapshot { accountID } ledger).2 (Prod.ext inserted rfl)

theorem avoids_lock_snapshot (accountID : String) : Tx.Avoids problem (ensureAndLockBalanceSnapshot accountID) := by
  refine Tx.avoids_bind (Tx.avoids_view _) fun found => ?_
  cases found with
  | some snapshot => exact Tx.avoids_pure _
  | none =>
      refine Tx.avoids_bind (avoids_ensure_snapshot business accountID) fun _ => Tx.avoids_bind (Tx.avoids_view _) fun again => ?_
      cases again with
      | some snapshot => exact Tx.avoids_pure _
      | none => exact avoids_missing business

theorem avoids_lock_postgres (accountID : String) : Tx.Avoids problem (lockReservationSnapshotPostgres accountID) := by
  refine Tx.avoids_bind (Tx.avoids_view _) fun found => ?_
  cases found with
  | some snapshot => exact Tx.avoids_pure _
  | none => exact avoids_lock_snapshot business accountID

theorem avoids_outbox_postgres (event : BillingOutboxEvent) : Tx.Avoids problem (writeOutboxEventPostgres event) := by
  refine Tx.avoids_bind (Tx.avoids_view _) fun found => ?_
  cases found with
  | some existing => exact Tx.avoids_pure _
  | none => exact Tx.avoids_bind (avoids_insert business _ _ _) fun _ => Tx.avoids_pure _

theorem avoids_row_postgres (release : Bool) (reservation : BillingReservation) :
    Tx.Avoids problem (writeReservationRowPostgres release reservation) := by
  cases release with
  | true =>
      refine Tx.avoids_bind (Tx.avoids_view _) fun found => ?_
      cases found with
      | none => exact Tx.avoids_pure _
      | some row => exact Tx.avoids_bind (Tx.avoids_edit _) fun _ => Tx.avoids_pure _
  | false => exact Tx.avoids_bind (avoids_insert business _ _ _) fun _ => Tx.avoids_pure _

theorem avoids_writes_postgres (snapshot : BillingBalanceSnapshot) (reservation : BillingReservation) (release : Bool)
    (entry : BillingLedgerEntry) (event : BillingOutboxEvent) :
    Tx.Avoids problem (postgresReservationWrites snapshot reservation release entry event) := by
  refine Tx.avoids_bind (Tx.avoids_view _) fun found => ?_
  cases found with
  | none => exact Tx.avoids_view _
  | some row =>
      refine Tx.avoids_bind (Tx.avoids_edit _) fun _ => Tx.avoids_bind (avoids_row_postgres business release reservation) fun written => ?_
      cases written with
      | true => exact Tx.avoids_bind (avoids_insert business _ _ _) fun _ => avoids_outbox_postgres business _
      | false => exact Tx.avoids_view _

end Storage

theorem not_storage_insufficient : ¬ LedgerError.insufficientBalance.OfStorage := by decide

theorem never_short_outbox (env : LedgerEnv) (input : OutboxEventInput) : NeverShort (recordOutboxEvent env input) := by
  refine Tx.avoids_bind (Tx.avoids_reject _ (by simp)) fun _ => Tx.avoids_bind (Tx.avoids_view _) fun found => ?_
  cases found with
  | some existing => exact Tx.avoids_reject _ (by decide)
  | none =>
      exact Tx.avoids_bind (Tx.avoids_bind (avoids_fill _ env _) fun _ => avoids_insert not_storage_insufficient _ _ _) fun _ => Tx.avoids_pure _

theorem never_short_account (env : LedgerEnv) (params : EnsureAccountParams) : NeverShort (ensureBillingAccountTx env params) := by
  refine Tx.avoids_bind (Tx.avoids_reject _ (by simp)) fun _ => Tx.avoids_bind (Tx.avoids_reject _ (by simp)) fun _ =>
    Tx.avoids_bind (Tx.avoids_view _) fun found => ?_
  cases found with
  | some account => exact Tx.avoids_bind (avoids_ensure_snapshot not_storage_insufficient _) fun _ => Tx.avoids_pure _
  | none =>
      exact Tx.avoids_bind (Tx.avoids_bind (avoids_fill _ env _) fun _ => avoids_insert not_storage_insufficient _ _ _) fun _ =>
        Tx.avoids_bind (avoids_ensure_snapshot not_storage_insufficient _) fun _ => Tx.avoids_pure _

theorem never_short_credit (env : LedgerEnv) (params : CreditAccountParams) : NeverShort (creditAccountTx env params) := by
  refine Tx.avoids_bind (Tx.avoids_reject _ (by simp)) fun _ => Tx.avoids_bind (Tx.avoids_view _) fun found => ?_
  cases found with
  | some existing => exact Tx.avoids_bind (Tx.avoids_reject _ (by decide)) fun _ => Tx.avoids_pure _
  | none =>
      exact Tx.avoids_bind (avoids_lock_snapshot not_storage_insufficient _) fun _ => Tx.avoids_bind (Tx.avoids_reject _ (by simp)) fun _ =>
        Tx.avoids_bind (Tx.avoids_edit _) fun _ => Tx.avoids_bind (avoids_entry not_storage_insufficient env _) fun _ =>
          Tx.avoids_bind (never_short_outbox env _) fun _ => Tx.avoids_pure _

theorem never_short_write_postgres (env : LedgerEnv) (snapshot : BillingBalanceSnapshot) (reservation : BillingReservation) (release : Bool)
    (entryKey reasonCode eventKey : String) :
    NeverShort (writeReservationPostgres env snapshot reservation release entryKey reasonCode eventKey) := by
  refine Tx.avoids_bind (avoids_uuid _ env) fun _ => Tx.avoids_bind (avoids_uuid _ env) fun _ =>
    Tx.avoids_bind (avoids_writes_postgres not_storage_insufficient _ _ _ _ _) fun observed => ?_
  cases observed with
  | some event => exact Tx.avoids_reject _ (by decide)
  | none => exact never_short_outbox env _

-- A reservation that a key already names is answered or refused as a conflict.
theorem never_short_replay (existing : BillingReservation) (params : CreateReservationParams) :
    NeverShort (do Tx.reject (ReservationMismatch existing params) LedgerError.ledgerConflict; return existing : LedgerTx BillingReservation) :=
  Tx.avoids_bind (Tx.avoids_reject _ (by decide)) fun _ => Tx.avoids_pure existing

theorem short_of_create_postgres (env : LedgerEnv) (params : CreateReservationParams) (ledger after : Ledger)
    (failed : createReservationPostgresTx env params ledger = (.error .insufficientBalance, after)) :
    (ledger.balance params.accountID).availableBalance < params.reservedAmount := by
  rw [createReservationPostgresTx, Tx.failed_bind] at failed
  rcases failed with failed | ⟨snapshot, locked, lock, failed⟩
  · exact (avoids_lock_postgres not_storage_insufficient _ ledger after failed).elim
  obtain ⟨rfl, _⟩ := ran_lock_postgres _ _ _ _ lock
  rw [findReservationByIdempotency, Tx.failed_bind] at failed
  rcases failed with failed | ⟨again, _, _, failed⟩
  · simp [Tx.view] at failed
  cases again with
  | some existing => exact (never_short_replay existing params _ after failed).elim
  | none =>
      rw [Tx.failed_bind] at failed
      rcases failed with failed | ⟨_, _, _, failed⟩
      · rw [Tx.failed_reject] at failed
        exact failed.1
      · refine (Tx.avoids_bind (Tx.avoids_view _) (fun now => ?_) _ after failed).elim
        exact Tx.avoids_bind (avoids_uuid _ env) fun _ => Tx.avoids_bind (never_short_write_postgres env _ _ _ _ _ _) fun _ => Tx.avoids_pure _

theorem short_of_create_generic (env : LedgerEnv) (params : CreateReservationParams) (ledger after : Ledger)
    (failed : createReservationGenericTx env params ledger = (.error .insufficientBalance, after)) :
    (ledger.balance params.accountID).availableBalance < params.reservedAmount := by
  rw [createReservationGenericTx, Tx.failed_bind] at failed
  rcases failed with failed | ⟨snapshot, locked, lock, failed⟩
  · exact (avoids_lock_snapshot not_storage_insufficient _ ledger after failed).elim
  obtain ⟨rfl, _⟩ := ran_ensure_and_lock _ _ _ _ lock
  rw [Tx.failed_bind] at failed
  rcases failed with failed | ⟨_, _, _, failed⟩
  · rw [Tx.failed_reject] at failed
    exact failed.1
  · refine (Tx.avoids_bind (Tx.avoids_edit _) (fun _ => ?_) _ after failed).elim
    exact Tx.avoids_bind (Tx.avoids_view _) fun _ => Tx.avoids_bind (Tx.avoids_bind (avoids_fill _ env _) fun _ => avoids_insert not_storage_insufficient _ _ _)
      fun _ => Tx.avoids_bind (avoids_entry not_storage_insufficient env _) fun _ => Tx.avoids_bind (never_short_outbox env _) fun _ => Tx.avoids_pure _

-- A hold is refused for lack of funds only when the funds are lacking.
theorem short_of_create (env : LedgerEnv) (params : CreateReservationParams) (ledger after : Ledger)
    (failed : createReservationTx env params ledger = (.error .insufficientBalance, after)) :
    (ledger.balance params.accountID).availableBalance < params.reservedAmount := by
  rw [createReservationTx, Tx.failed_bind] at failed
  rcases failed with failed | ⟨_, _, passed, failed⟩
  · simp [Tx.failed_reject] at failed
  rw [Tx.ran_reject] at passed
  obtain ⟨_, rfl⟩ := passed
  rw [findReservationByIdempotency, Tx.failed_bind] at failed
  rcases failed with failed | ⟨found, _, looked, failed⟩
  · simp [Tx.view] at failed
  rw [Tx.ran_view] at looked
  obtain ⟨_, rfl⟩ := looked
  cases found with
  | some existing => exact (never_short_replay existing params ledger after failed).elim
  | none =>
      by_cases dialect : env.postgres = true
      · exact short_of_create_postgres env params ledger after (by simpa [dialect] using failed)
      · exact short_of_create_generic env params ledger after (by simpa [dialect] using failed)

-- A settlement is refused for lack of funds only when it costs more than its hold.
theorem short_of_settle (env : LedgerEnv) (params : SettleReservationParams) (ledger after : Ledger)
    (failed : settleReservationTx env params ledger = (.error .insufficientBalance, after)) :
    ∃ current ∈ ledger.reservations.rows, current.reservationID = params.reservationID ∧ current.reservedAmount < params.actualAmount := by
  rw [settleReservationTx, Tx.failed_bind] at failed
  rcases failed with failed | ⟨_, _, passed, failed⟩
  · simp [Tx.failed_reject] at failed
  rw [Tx.ran_reject] at passed
  obtain ⟨_, rfl⟩ := passed
  rw [Tx.failed_bind] at failed
  rcases failed with failed | ⟨_, _, passed, failed⟩
  · simp [Tx.failed_reject] at failed
  rw [Tx.ran_reject] at passed
  obtain ⟨_, rfl⟩ := passed
  rw [findSettlementByIdempotency, Tx.failed_bind] at failed
  rcases failed with failed | ⟨found, _, looked, failed⟩
  · simp [Tx.view] at failed
  rw [Tx.ran_view] at looked
  obtain ⟨_, rfl⟩ := looked
  cases found with
  | some existing => exact (Tx.avoids_bind (Tx.avoids_reject _ (by decide)) (fun _ => Tx.avoids_pure existing) ledger after failed).elim
  | none =>
      rw [Tx.failed_bind] at failed
      rcases failed with failed | ⟨current, _, lock, failed⟩
      · refine (Tx.avoids_bind (Tx.avoids_view _) (fun row => ?_) ledger after failed).elim
        cases row with
        | some reservation => exact Tx.avoids_pure _
        | none => exact Tx.avoids_fail (by decide)
      obtain ⟨rfl, member, named⟩ := ran_lock_reservation _ _ _ _ lock
      rw [Tx.failed_bind] at failed
      rcases failed with failed | ⟨_, _, _, failed⟩
      · simp [Tx.failed_reject] at failed
      rw [Tx.failed_bind] at failed
      rcases failed with failed | ⟨_, _, _, failed⟩
      · simp [Tx.failed_reject] at failed
      rw [Tx.failed_bind] at failed
      rcases failed with failed | ⟨snapshot, _, _, failed⟩
      · exact (avoids_lock_snapshot not_storage_insufficient _ _ after failed).elim
      rw [Tx.failed_bind] at failed
      rcases failed with failed | ⟨_, _, _, failed⟩
      · simp [Tx.failed_reject] at failed
      rw [Tx.failed_bind] at failed
      rcases failed with failed | ⟨_, _, _, failed⟩
      · rw [Tx.failed_reject] at failed
        exact ⟨current, member, named, by omega⟩
      · refine (Tx.avoids_bind (Tx.avoids_edit _) (fun _ => ?_) _ after failed).elim
        refine Tx.avoids_bind (Tx.avoids_view _) fun _ => Tx.avoids_bind (Tx.avoids_bind (avoids_fill _ env _) fun _ => avoids_insert not_storage_insufficient _ _ _)
          fun _ => Tx.avoids_bind (Tx.avoids_edit _) fun _ => ?_
        split
        · exact Tx.avoids_bind (avoids_entry not_storage_insufficient env _) fun _ => Tx.avoids_bind (never_short_outbox env _) fun _ => Tx.avoids_pure _
        · exact Tx.avoids_bind (never_short_outbox env _) fun _ => Tx.avoids_pure _

-- The hold a settlement of its own amount refers to is never short.
theorem never_short_full_settle (env : LedgerEnv) (create : CreateReservationParams) (settle : SettleReservationParams)
    (ledger middle after : Ledger) (reservation : BillingReservation)
    (created : createReservationTx env create ledger = (.ok reservation, middle)) (names : settle.reservationID = reservation.reservationID)
    (full : settle.actualAmount = create.reservedAmount) : settleReservationTx env settle middle ≠ (.error .insufficientBalance, after) := by
  intro failed
  obtain ⟨current, currentIn, sameID, less⟩ := short_of_settle env settle middle after failed
  have held : reservation ∈ middle.reservations.rows ∧ reservation.reservedAmount = create.reservedAmount := by
    obtain ⟨rfl, member, _, matched⟩ | held := held_of_create env create ledger middle reservation created
    · simp only [ReservationMismatch, not_or, Decidable.not_not] at matched
      exact ⟨member, matched.2.1⟩
    · obtain ⟨reservationID, now, opened⟩ := held.opened
      exact ⟨by simp [held.reservations], by simp [opened, openReservation]⟩
  have same : current = reservation := Table.eq_of_clash _ _ _ currentIn held.1 (clash_of_reservation_id _ _ (sameID.trans names))
  rw [same, held.2, full] at less
  omega

end CodeGo.Billing
