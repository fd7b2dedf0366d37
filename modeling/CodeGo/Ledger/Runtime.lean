import CodeGo.Ledger.Schema

set_option autoImplicit false

namespace CodeGo.Billing

open Relational Text

def maxInt64 : Int := 2 ^ 63 - 1

def defaultIfEmpty (value fallback : String) : String := if Blank value then fallback else value

structure OutboxEventInput where
  accountID : String
  aggregateType : String
  aggregateID : String
  eventType : String
  idempotencyKey : String

def validateExistingOutboxEvent (existing event : BillingOutboxEvent) : LedgerTx Unit :=
  Tx.reject (existing.eventType ≠ event.eventType ∨ existing.aggregateID ≠ event.aggregateID ∨ existing.accountID ≠ event.accountID)
    .ledgerConflict

def findOutboxEvent (key : String) : LedgerTx (Option BillingOutboxEvent) :=
  Tx.view fun ledger => ledger.outbox.find? fun event => event.idempotencyKey = key

-- Within one transaction the lookup and the insert see the same rows, so the source's
-- ON CONFLICT clause on the key never has a row to skip.
def recordOutboxEvent (env : LedgerEnv) (input : OutboxEventInput) : LedgerTx Unit := do
  Tx.reject (Blank input.accountID ∨ Blank input.aggregateType ∨ Blank input.aggregateID ∨ Blank input.eventType ∨ Blank input.idempotencyKey)
    (.message "account_id, aggregate_type, aggregate_id, event_type and idempotency_key are required")
  let event : BillingOutboxEvent :=
    { accountID := trimSpace input.accountID, aggregateType := trimSpace input.aggregateType,
      aggregateID := trimSpace input.aggregateID, eventType := trimSpace input.eventType,
      idempotencyKey := trimSpace input.idempotencyKey }
  match ← findOutboxEvent event.idempotencyKey with
  | some existing => validateExistingOutboxEvent existing event
  | none =>
      let _ ← createOutboxEvent env event

def findSnapshot (accountID : String) : LedgerTx (Option BillingBalanceSnapshot) :=
  Tx.view fun ledger => ledger.snapshots.find? fun snapshot => snapshot.accountID = accountID

-- A failed insert is forgiven when the row is there after all.
def ensureBalanceSnapshot (accountID : String) : LedgerTx Unit := do
  match ← findSnapshot accountID with
  | some _ => return ()
  | none =>
      match ← (createSnapshot { accountID }).attempt with
      | .ok _ => return ()
      | .error problem =>
          match ← findSnapshot accountID with
          | some _ => return ()
          | none => Tx.fail problem

def ensureAndLockBalanceSnapshot (accountID : String) : LedgerTx BillingBalanceSnapshot := do
  match ← findSnapshot accountID with
  | some snapshot => return snapshot
  | none =>
      ensureBalanceSnapshot accountID
      match ← findSnapshot accountID with
      | some snapshot => return snapshot
      | none => Tx.fail .recordNotFound

def lockReservation (reservationID : String) : LedgerTx BillingReservation := do
  match ← Tx.view fun ledger => ledger.reservations.find? fun row => row.reservationID = reservationID with
  | some reservation => return reservation
  | none => Tx.fail .reservationNotFound

def findReservationByIdempotency (key : String) : LedgerTx (Option BillingReservation) :=
  Tx.view fun ledger => ledger.reservations.find? fun row => row.idempotencyKey = key

def findSettlementByIdempotency (key : String) : LedgerTx (Option BillingSettlement) :=
  Tx.view fun ledger => ledger.settlements.find? fun row => row.idempotencyKey = key

def findLedgerEntryByIdempotency (key : String) : LedgerTx (Option BillingLedgerEntry) :=
  Tx.view fun ledger => ledger.entries.find? fun row => row.idempotencyKey = key

structure EnsureAccountParams where
  accountType : String
  ownerType : String
  ownerID : Int
  quotaUnit : String := ""

def ensureBillingAccountTx (env : LedgerEnv) (params : EnsureAccountParams) : LedgerTx BillingAccount := do
  Tx.reject (params.ownerID ≤ 0) (.message "invalid owner id")
  Tx.reject (Blank params.ownerType ∨ Blank params.accountType) (.message "owner_type and account_type are required")
  let quotaUnit := if Blank params.quotaUnit then "quota" else trimSpace params.quotaUnit
  let accountType := trimSpace params.accountType
  let ownerType := trimSpace params.ownerType
  match ← Tx.view fun ledger => ledger.accounts.find? fun row =>
      row.ownerType = ownerType ∧ row.ownerID = params.ownerID ∧ row.accountType = accountType ∧ row.quotaUnit = quotaUnit with
  | some account =>
      ensureBalanceSnapshot account.accountID
      return account
  | none =>
      let account ← createAccount env { accountType, ownerType, ownerID := params.ownerID, quotaUnit }
      ensureBalanceSnapshot account.accountID
      return account

structure RecordAdjustmentParams where
  accountID : String
  idempotencyKey : String
  reasonCode : String := ""
  reasonDetail : String := ""
  referenceType : String := ""
  referenceID : String := ""
  operatorType : String := ""
  operatorID : String := ""
  metadata : String := ""

-- Unlike its siblings this writer stores the key exactly as it was given.
def recordAdjustmentTx (env : LedgerEnv) (params : RecordAdjustmentParams) : LedgerTx BillingLedgerEntry := do
  Tx.reject (Blank params.accountID ∨ Blank params.idempotencyKey) (.message "account_id and idempotency_key are required")
  match ← findLedgerEntryByIdempotency params.idempotencyKey with
  | some existing =>
      Tx.reject (existing.accountID ≠ params.accountID ∨ existing.entryType ≠ .adjustment) .ledgerConflict
      return existing
  | none =>
      let entry ← createEntry env
        { accountID := params.accountID, referenceType := defaultIfEmpty params.referenceType "adjustment",
          referenceID := defaultIfEmpty params.referenceID params.accountID, entryType := .adjustment, direction := .credit,
          amount := 0, idempotencyKey := params.idempotencyKey, reasonCode := defaultIfEmpty params.reasonCode "adjustment",
          reasonDetail := trimSpace params.reasonDetail, operatorType := defaultIfEmpty params.operatorType "system",
          operatorID := params.operatorID, metadata := params.metadata }
      recordOutboxEvent env ⟨entry.accountID, "ledger_entry", entry.entryID, "billing.adjustment_recorded", "outbox:" ++ entry.idempotencyKey⟩
      return entry

structure CreditAccountParams where
  accountID : String
  amount : Int
  idempotencyKey : String
  reasonCode : String := ""
  reasonDetail : String := ""
  referenceType : String := ""
  referenceID : String := ""
  operatorType : String := ""
  operatorID : String := ""

def creditAccountTx (env : LedgerEnv) (params : CreditAccountParams) : LedgerTx BillingLedgerEntry := do
  Tx.reject (Blank params.accountID ∨ params.amount ≤ 0 ∨ Blank params.idempotencyKey)
    (.message "account_id, amount and idempotency_key are required")
  match ← findLedgerEntryByIdempotency params.idempotencyKey with
  | some existing =>
      Tx.reject (existing.accountID ≠ params.accountID ∨ existing.amount ≠ params.amount ∨ existing.entryType ≠ .grantCredit) .ledgerConflict
      return existing
  | none =>
      let snapshot ← ensureAndLockBalanceSnapshot params.accountID
      Tx.reject (snapshot.availableBalance > maxInt64 - params.amount ∨ snapshot.grantedTotal > maxInt64 - params.amount)
        (.message "billing account credit exceeds integer limit")
      let credited := { snapshot with
        availableBalance := snapshot.availableBalance + params.amount, grantedTotal := snapshot.grantedTotal + params.amount }
      saveSnapshot credited
      let entry ← createEntry env
        { accountID := params.accountID, referenceType := defaultIfEmpty (trimSpace params.referenceType) "migration",
          referenceID := defaultIfEmpty (trimSpace params.referenceID) params.accountID, entryType := .grantCredit, direction := .credit,
          amount := params.amount, balanceAfter := some credited.availableBalance, idempotencyKey := trimSpace params.idempotencyKey,
          reasonCode := defaultIfEmpty (trimSpace params.reasonCode) "grant_credit", reasonDetail := trimSpace params.reasonDetail,
          operatorType := defaultIfEmpty (trimSpace params.operatorType) "system", operatorID := trimSpace params.operatorID }
      recordOutboxEvent env ⟨entry.accountID, "ledger_entry", entry.entryID, "billing.credit_granted", "outbox:" ++ entry.idempotencyKey⟩
      return entry

structure CreateReservationParams where
  accountID : String
  requestID : String := ""
  workflowID : String := ""
  reservedAmount : Int
  idempotencyKey : String
  expiresAt : Option Int := none

-- A replay must repeat the account, the amount held now and the request it belongs to.
def ReservationMismatch (existing : BillingReservation) (params : CreateReservationParams) : Prop :=
  existing.accountID ≠ params.accountID ∨ existing.reservedAmount ≠ params.reservedAmount ∨
    existing.requestID ≠ trimSpace params.requestID ∨ existing.workflowID ≠ trimSpace params.workflowID

instance (existing : BillingReservation) (params : CreateReservationParams) : Decidable (ReservationMismatch existing params) :=
  inferInstanceAs (Decidable (_ ∨ _))

def openReservation (params : CreateReservationParams) (now : Int) : BillingReservation :=
  { accountID := params.accountID, requestID := trimSpace params.requestID, workflowID := trimSpace params.workflowID,
    reservedAmount := params.reservedAmount, status := .opened, idempotencyKey := trimSpace params.idempotencyKey,
    expiresAt := params.expiresAt, createdAt := now }

def holdFunds (snapshot : BillingBalanceSnapshot) (amount : Int) : BillingBalanceSnapshot :=
  { snapshot with availableBalance := snapshot.availableBalance - amount, reservedBalance := snapshot.reservedBalance + amount }

def freeFunds (snapshot : BillingBalanceSnapshot) (amount : Int) : BillingBalanceSnapshot :=
  { snapshot with availableBalance := snapshot.availableBalance + amount, reservedBalance := snapshot.reservedBalance - amount }

def reservationEntry (reservation : BillingReservation) (entryType : LedgerEntryType) (direction : BillingDirection)
    (amount balanceAfter : Int) (key reasonCode : String) : BillingLedgerEntry :=
  { accountID := reservation.accountID, referenceType := "reservation", referenceID := reservation.reservationID, entryType, direction,
    amount, balanceAfter := some balanceAfter, idempotencyKey := key, reasonCode, operatorType := "system" }

end CodeGo.Billing
