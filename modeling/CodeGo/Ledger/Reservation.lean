import CodeGo.Ledger.Runtime

set_option autoImplicit false

namespace CodeGo.Billing

open Relational Text

def lockReservationSnapshotPostgres (accountID : String) : LedgerTx BillingBalanceSnapshot := do
  match ← findSnapshot accountID with
  | some snapshot => return snapshot
  | none => ensureAndLockBalanceSnapshot accountID

-- The RETURNING rows of the snapshot update gate the reservation write, which gates the
-- entry, which gates the event; a sub-statement without source rows writes nothing.
def writeReservationRowPostgres (release : Bool) (reservation : BillingReservation) : LedgerTx Bool := do
  if release then
    let found ← Tx.view fun ledger => ledger.reservations.find? fun row =>
      row.reservationID = reservation.reservationID ∧ row.accountID = reservation.accountID
    match found with
    | none => return false
    | some _ =>
        Tx.edit fun ledger => { ledger with
          reservations := ledger.reservations.update
            (fun row => row.reservationID = reservation.reservationID ∧ row.accountID = reservation.accountID)
            (fun row => { row with status := reservation.status }) fun _ => rfl }
        return true
  else
    let _ ← insertRow Ledger.reservations (fun ledger reservations => { ledger with reservations }) reservation
    return true

-- ON CONFLICT DO NOTHING answers with the row that already carries the key.
def writeOutboxEventPostgres (event : BillingOutboxEvent) : LedgerTx (Option BillingOutboxEvent) := do
  match ← findOutboxEvent event.idempotencyKey with
  | some existing => return some existing
  | none => return some (← insertRow Ledger.outbox (fun ledger outbox => { ledger with outbox }) event)

def postgresReservationWrites (snapshot : BillingBalanceSnapshot) (reservation : BillingReservation) (release : Bool)
    (entry : BillingLedgerEntry) (event : BillingOutboxEvent) : LedgerTx (Option BillingOutboxEvent) := do
  match ← findSnapshot reservation.accountID with
  | none => findOutboxEvent event.idempotencyKey
  | some _ =>
      Tx.edit fun ledger => { ledger with
        snapshots := ledger.snapshots.update (fun row => row.accountID = reservation.accountID)
          (fun row => { row with availableBalance := snapshot.availableBalance, reservedBalance := snapshot.reservedBalance }) fun _ => rfl }
      if ← writeReservationRowPostgres release reservation then
        let _ ← insertRow Ledger.entries (fun ledger entries => { ledger with entries }) entry
        writeOutboxEventPostgres event
      else findOutboxEvent event.idempotencyKey

def writeReservationPostgres (env : LedgerEnv) (snapshot : BillingBalanceSnapshot) (reservation : BillingReservation)
    (release : Bool) (entryKey reasonCode eventKey : String) : LedgerTx Unit := do
  let entryID ← getUUID env
  let eventID ← getUUID env
  let entryType := if release then LedgerEntryType.reserveRelease else .reserveHold
  let direction := if release then BillingDirection.credit else .debit
  let eventType := if release then "billing.reservation_released" else "billing.reservation_created"
  let entry := { reservationEntry reservation entryType direction reservation.reservedAmount snapshot.availableBalance entryKey reasonCode with
    entryID, metadata := "\x7b\x7d" }
  let event : BillingOutboxEvent :=
    { eventID, accountID := trimSpace reservation.accountID, aggregateType := "reservation",
      aggregateID := reservation.reservationID, eventType, idempotencyKey := eventKey }
  match ← postgresReservationWrites snapshot reservation release entry event with
  | some observed => validateExistingOutboxEvent observed event
  | none => recordOutboxEvent env ⟨reservation.accountID, "reservation", reservation.reservationID, eventType, eventKey⟩

def createReservationPostgresTx (env : LedgerEnv) (params : CreateReservationParams) : LedgerTx BillingReservation := do
  let snapshot ← lockReservationSnapshotPostgres params.accountID
  match ← findReservationByIdempotency params.idempotencyKey with
  | some existing =>
      Tx.reject (ReservationMismatch existing params) .ledgerConflict
      return existing
  | none =>
      Tx.reject (snapshot.availableBalance < params.reservedAmount) .insufficientBalance
      let now ← Tx.view Ledger.clock
      let reservationID ← getUUID env
      let reservation := { openReservation params now with reservationID }
      writeReservationPostgres env (holdFunds snapshot params.reservedAmount) reservation false
        ("entry:" ++ reservation.idempotencyKey) "reservation_hold" ("outbox:" ++ reservation.idempotencyKey)
      return reservation

def createReservationGenericTx (env : LedgerEnv) (params : CreateReservationParams) : LedgerTx BillingReservation := do
  let snapshot ← ensureAndLockBalanceSnapshot params.accountID
  Tx.reject (snapshot.availableBalance < params.reservedAmount) .insufficientBalance
  let held := holdFunds snapshot params.reservedAmount
  saveSnapshot held
  let now ← Tx.view Ledger.clock
  let reservation ← createReservationRow env (openReservation params now)
  let _ ← createEntry env (reservationEntry reservation .reserveHold .debit params.reservedAmount held.availableBalance
    ("entry:" ++ reservation.idempotencyKey) "reservation_hold")
  recordOutboxEvent env ⟨reservation.accountID, "reservation", reservation.reservationID, "billing.reservation_created",
    "outbox:" ++ reservation.idempotencyKey⟩
  return reservation

def createReservationTx (env : LedgerEnv) (params : CreateReservationParams) : LedgerTx BillingReservation := do
  Tx.reject (Blank params.accountID ∨ params.reservedAmount ≤ 0 ∨ Blank params.idempotencyKey)
    (.message "account_id, reserved_amount and idempotency_key are required")
  match ← findReservationByIdempotency params.idempotencyKey with
  | some existing =>
      Tx.reject (ReservationMismatch existing params) .ledgerConflict
      return existing
  | none => if env.postgres then createReservationPostgresTx env params else createReservationGenericTx env params

structure IncreaseReservationParams where
  reservationID : String
  amount : Int
  idempotencyKey : String

def increaseReservationTx (env : LedgerEnv) (params : IncreaseReservationParams) : LedgerTx BillingReservation := do
  Tx.reject (Blank params.reservationID ∨ params.amount ≤ 0 ∨ Blank params.idempotencyKey)
    (.message "reservation_id, amount and idempotency_key are required")
  let current ← lockReservation params.reservationID
  Tx.reject (current.status ≠ .opened) .reservationNotOpen
  let key := trimSpace params.idempotencyKey
  match ← findLedgerEntryByIdempotency key with
  | some existing =>
      Tx.reject (existing.referenceID ≠ current.reservationID ∨ existing.entryType ≠ .reserveHold ∨ existing.amount ≠ params.amount) .ledgerConflict
      return current
  | none =>
      let snapshot ← ensureAndLockBalanceSnapshot current.accountID
      Tx.reject (snapshot.availableBalance < params.amount) .insufficientBalance
      let held := holdFunds snapshot params.amount
      saveSnapshot held
      let raised := { current with reservedAmount := current.reservedAmount + params.amount }
      saveReservation raised
      let entry ← createEntry env (reservationEntry current .reserveHold .debit params.amount held.availableBalance key "reservation_hold_increase")
      recordOutboxEvent env ⟨current.accountID, "reservation", current.reservationID, "billing.reservation_increased",
        "outbox:" ++ entry.idempotencyKey⟩
      return raised

structure ReleaseReservationParams where
  reservationID : String
  idempotencyKey : String
  reasonCode : String := ""

def releaseReservationPostgresTx (env : LedgerEnv) (current : BillingReservation) (params : ReleaseReservationParams) : LedgerTx BillingReservation := do
  let snapshot ← lockReservationSnapshotPostgres current.accountID
  Tx.reject (snapshot.reservedBalance < current.reservedAmount) (.message "reserved balance underflow")
  let released := { current with status := .released }
  writeReservationPostgres env (freeFunds snapshot current.reservedAmount) released true (trimSpace params.idempotencyKey)
    (defaultIfEmpty (trimSpace params.reasonCode) "reservation_release") ("outbox:" ++ trimSpace params.idempotencyKey)
  return released

def releaseReservationGenericTx (env : LedgerEnv) (current : BillingReservation) (params : ReleaseReservationParams) : LedgerTx BillingReservation := do
  let snapshot ← ensureAndLockBalanceSnapshot current.accountID
  Tx.reject (snapshot.reservedBalance < current.reservedAmount) (.message "reserved balance underflow")
  let freed := freeFunds snapshot current.reservedAmount
  saveSnapshot freed
  let released := { current with status := .released }
  saveReservation released
  let entry ← createEntry env (reservationEntry released .reserveRelease .credit current.reservedAmount freed.availableBalance
    (trimSpace params.idempotencyKey) (defaultIfEmpty (trimSpace params.reasonCode) "reservation_release"))
  recordOutboxEvent env ⟨current.accountID, "reservation", current.reservationID, "billing.reservation_released",
    "outbox:" ++ entry.idempotencyKey⟩
  return released

-- The middle branch closes a reservation whose release entry exists already: it moves no money.
def releaseReservationTx (env : LedgerEnv) (params : ReleaseReservationParams) : LedgerTx BillingReservation := do
  Tx.reject (Blank params.reservationID ∨ Blank params.idempotencyKey) (.message "reservation_id and idempotency_key are required")
  let current ← lockReservation params.reservationID
  if current.status = .released then return current
  else
    Tx.reject (current.status ≠ .opened) .reservationNotOpen
    match ← findLedgerEntryByIdempotency params.idempotencyKey with
    | some existing =>
        Tx.reject (existing.referenceID ≠ current.reservationID ∨ existing.entryType ≠ .reserveRelease) .ledgerConflict
        let released := { current with status := .released }
        saveReservation released
        return released
    | none => if env.postgres then releaseReservationPostgresTx env current params else releaseReservationGenericTx env current params

structure SettleReservationParams where
  reservationID : String
  usageEvidenceID : String := ""
  actualAmount : Int
  idempotencyKey : String

-- The hold leaves the reserved balance, the actual amount is consumed, and the difference
-- is taken from or given back to the available balance.
def settleFunds (snapshot : BillingBalanceSnapshot) (held actual : Int) : BillingBalanceSnapshot :=
  let delta := actual - held
  let closed := { snapshot with reservedBalance := snapshot.reservedBalance - held, consumedTotal := snapshot.consumedTotal + actual }
  if delta > 0 then { closed with availableBalance := closed.availableBalance - delta }
  else if delta < 0 then
    { closed with availableBalance := closed.availableBalance + -delta, refundedTotal := closed.refundedTotal + -delta }
  else closed

def settlementEntry (accountID settlementID key : String) (delta balanceAfter : Int) : BillingLedgerEntry :=
  { accountID, referenceType := "settlement", referenceID := settlementID,
    entryType := if delta < 0 then .settleCredit else .settleDebit, direction := if delta < 0 then .credit else .debit,
    amount := if delta < 0 then -delta else delta, balanceAfter := some balanceAfter, idempotencyKey := "entry:" ++ key,
    reasonCode := "reservation_settlement", operatorType := "system" }

def settleReservationTx (env : LedgerEnv) (params : SettleReservationParams) : LedgerTx BillingSettlement := do
  Tx.reject (Blank params.reservationID ∨ Blank params.idempotencyKey) (.message "reservation_id and idempotency_key are required")
  Tx.reject (params.actualAmount < 0) (.message "actual_amount cannot be negative")
  match ← findSettlementByIdempotency params.idempotencyKey with
  | some existing =>
      Tx.reject (existing.reservationID ≠ params.reservationID ∨ existing.actualAmount ≠ params.actualAmount) .ledgerConflict
      return existing
  | none =>
      let current ← lockReservation params.reservationID
      Tx.reject (current.status = .settled) .settlementAlreadyExist
      Tx.reject (current.status ≠ .opened) .reservationNotOpen
      let snapshot ← ensureAndLockBalanceSnapshot current.accountID
      Tx.reject (snapshot.reservedBalance < current.reservedAmount) (.message "reserved balance underflow")
      let delta := params.actualAmount - current.reservedAmount
      Tx.reject (delta > 0 ∧ snapshot.availableBalance < delta) .insufficientBalance
      let closed := settleFunds snapshot current.reservedAmount params.actualAmount
      saveSnapshot closed
      let now ← Tx.view Ledger.clock
      let settlement ← createSettlement env
        { reservationID := current.reservationID, usageEvidenceID := trimSpace params.usageEvidenceID, actualAmount := params.actualAmount,
          deltaAmount := delta, status := .completed, idempotencyKey := trimSpace params.idempotencyKey, settledAt := now }
      saveReservation { current with status := .settled }
      if delta ≠ 0 then
        let _ ← createEntry env (settlementEntry current.accountID settlement.settlementID settlement.idempotencyKey delta closed.availableBalance)
        recordOutboxEvent env ⟨current.accountID, "settlement", settlement.settlementID, "billing.reservation_settled",
          "outbox:" ++ settlement.idempotencyKey⟩
        return settlement
      else
        recordOutboxEvent env ⟨current.accountID, "settlement", settlement.settlementID, "billing.reservation_settled",
          "outbox:" ++ settlement.idempotencyKey⟩
        return settlement

structure AdjustAvailableBalanceParams where
  accountID : String
  usageAmount : Int
  idempotencyKey : String
  reasonCode : String := ""
  referenceType : String := ""
  referenceID : String := ""

def adjustFunds (snapshot : BillingBalanceSnapshot) (usage : Int) : BillingBalanceSnapshot :=
  if usage > 0 then { snapshot with availableBalance := snapshot.availableBalance - usage, consumedTotal := snapshot.consumedTotal + usage }
  else { snapshot with availableBalance := snapshot.availableBalance + -usage, refundedTotal := snapshot.refundedTotal + -usage }

-- A zero adjustment is a no-op without a row; otherwise the sign of the usage picks the entry.
def adjustAvailableBalanceTx (env : LedgerEnv) (params : AdjustAvailableBalanceParams) : LedgerTx (Option BillingLedgerEntry) := do
  Tx.reject (Blank params.accountID ∨ Blank params.idempotencyKey) (.message "account_id and idempotency_key are required")
  if params.usageAmount = 0 then return none
  else
    let entryType := if params.usageAmount < 0 then LedgerEntryType.settleCredit else .settleDebit
    let direction := if params.usageAmount < 0 then BillingDirection.credit else .debit
    let amount := if params.usageAmount < 0 then -params.usageAmount else params.usageAmount
    match ← findLedgerEntryByIdempotency params.idempotencyKey with
    | some existing =>
        Tx.reject (existing.accountID ≠ params.accountID ∨ existing.amount ≠ amount ∨ existing.entryType ≠ entryType) .ledgerConflict
        return some existing
    | none =>
        let snapshot ← ensureAndLockBalanceSnapshot params.accountID
        Tx.reject (params.usageAmount > 0 ∧ snapshot.availableBalance < params.usageAmount) .insufficientBalance
        let adjusted := adjustFunds snapshot params.usageAmount
        saveSnapshot adjusted
        let entry ← createEntry env
          { accountID := params.accountID, referenceType := defaultIfEmpty (trimSpace params.referenceType) "quota",
            referenceID := defaultIfEmpty (trimSpace params.referenceID) params.accountID, entryType, direction, amount,
            balanceAfter := some adjusted.availableBalance, idempotencyKey := trimSpace params.idempotencyKey,
            reasonCode := defaultIfEmpty (trimSpace params.reasonCode) "quota_adjustment", operatorType := "system" }
        recordOutboxEvent env ⟨entry.accountID, "ledger_entry", entry.entryID, "billing.balance_adjusted", "outbox:" ++ entry.idempotencyKey⟩
        return some entry

-- The public operations of the ledger, each run as one database transaction.
inductive LedgerOp where
  | ensureBillingAccount (params : EnsureAccountParams)
  | recordAdjustment (params : RecordAdjustmentParams)
  | creditAccount (params : CreditAccountParams)
  | createReservation (params : CreateReservationParams)
  | increaseReservation (params : IncreaseReservationParams)
  | releaseReservation (params : ReleaseReservationParams)
  | settleReservation (params : SettleReservationParams)
  | adjustAvailableBalance (params : AdjustAvailableBalanceParams)
  | tick (seconds : Nat)

-- The row an operation answers with.
inductive LedgerRow where
  | account (row : BillingAccount)
  | entry (row : BillingLedgerEntry)
  | reservation (row : BillingReservation)
  | settlement (row : BillingSettlement)
  | nothing
deriving DecidableEq, Repr

def execute (env : LedgerEnv) : LedgerOp → LedgerTx LedgerRow
  | .ensureBillingAccount params => do return .account (← ensureBillingAccountTx env params)
  | .recordAdjustment params => do return .entry (← recordAdjustmentTx env params)
  | .creditAccount params => do return .entry (← creditAccountTx env params)
  | .createReservation params => do return .reservation (← createReservationTx env params)
  | .increaseReservation params => do return .reservation (← increaseReservationTx env params)
  | .releaseReservation params => do return .reservation (← releaseReservationTx env params)
  | .settleReservation params => do return .settlement (← settleReservationTx env params)
  | .adjustAvailableBalance params => do
      match ← adjustAvailableBalanceTx env params with
      | some row => return .entry row
      | none => return .nothing
  | .tick seconds => do
      Tx.edit fun ledger => { ledger with clock := ledger.clock + seconds }
      return .nothing

def transact (env : LedgerEnv) (op : LedgerOp) : LedgerTx LedgerRow := Tx.atomic (execute env op)

def step (env : LedgerEnv) (ledger : Ledger) (op : LedgerOp) : Ledger := (transact env op ledger).2

end CodeGo.Billing
