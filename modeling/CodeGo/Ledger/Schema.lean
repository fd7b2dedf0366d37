import CodeGo.Lib.Table
import CodeGo.Lib.Text
import CodeGo.Lib.Transaction

set_option autoImplicit false

namespace CodeGo.Billing

open Relational Text

/- Rows of the billing schema with the columns the ledger runtime reads or writes.
   Integers are unbounded; the runtime's own int64 checks are kept. Times are Unix
   seconds. Audit timestamps and JSON event payloads are not represented. -/

inductive LedgerEntryType where
  | reserveHold
  | reserveRelease
  | settleDebit
  | settleCredit
  | grantCredit
  | adjustment
deriving DecidableEq, Repr

inductive BillingDirection where
  | debit
  | credit
deriving DecidableEq, Repr

inductive BillingReservationStatus where
  | opened
  | settled
  | released
  | expired
deriving DecidableEq, Repr

inductive BillingSettlementStatus where
  | pending
  | completed
  | rejected
deriving DecidableEq, Repr

structure BillingAccount where
  accountID : String := ""
  accountType : String
  ownerType : String
  ownerID : Int
  quotaUnit : String
deriving DecidableEq, Repr

structure BillingBalanceSnapshot where
  accountID : String
  availableBalance : Int := 0
  reservedBalance : Int := 0
  consumedTotal : Int := 0
  refundedTotal : Int := 0
  grantedTotal : Int := 0
deriving DecidableEq, Repr

structure BillingLedgerEntry where
  entryID : String := ""
  accountID : String
  referenceType : String
  referenceID : String
  entryType : LedgerEntryType
  direction : BillingDirection
  amount : Int
  balanceAfter : Option Int := none
  idempotencyKey : String
  reasonCode : String
  reasonDetail : String := ""
  operatorType : String
  operatorID : String := ""
  metadata : String := ""
deriving DecidableEq, Repr

structure BillingReservation where
  reservationID : String := ""
  requestID : String
  workflowID : String
  accountID : String
  reservedAmount : Int
  status : BillingReservationStatus
  idempotencyKey : String
  expiresAt : Option Int
  createdAt : Int
deriving DecidableEq, Repr

structure BillingSettlement where
  settlementID : String := ""
  reservationID : String
  usageEvidenceID : String
  actualAmount : Int
  deltaAmount : Int
  status : BillingSettlementStatus
  idempotencyKey : String
  settledAt : Int
deriving DecidableEq, Repr

structure BillingOutboxEvent where
  eventID : String := ""
  accountID : String
  aggregateType : String
  aggregateID : String
  eventType : String
  idempotencyKey : String
deriving DecidableEq, Repr

-- The unique indexes declared on the gorm models, primary keys included.
instance : Indexed BillingAccount where
  Index := String × String × Int × String × String
  index account := (account.accountID, account.ownerType, account.ownerID, account.accountType, account.quotaUnit)
  clash first second := first.1 = second.1 ∨ first.2 = second.2
  clash_symm := either_symm
  clashDecidable _ _ := inferInstanceAs (Decidable (_ ∨ _))

instance : Indexed BillingBalanceSnapshot where
  Index := String
  index snapshot := snapshot.accountID
  clash first second := first = second
  clash_symm _ _ clash := clash.symm
  clashDecidable _ _ := inferInstanceAs (Decidable (_ = _))

instance : Indexed BillingLedgerEntry where
  Index := String × String
  index entry := (entry.entryID, entry.idempotencyKey)
  clash first second := first.1 = second.1 ∨ first.2 = second.2
  clash_symm := either_symm
  clashDecidable _ _ := inferInstanceAs (Decidable (_ ∨ _))

instance : Indexed BillingReservation where
  Index := String × String
  index reservation := (reservation.reservationID, reservation.idempotencyKey)
  clash first second := first.1 = second.1 ∨ first.2 = second.2
  clash_symm := either_symm
  clashDecidable _ _ := inferInstanceAs (Decidable (_ ∨ _))

instance : Indexed BillingSettlement where
  Index := String × String × String
  index settlement := (settlement.settlementID, settlement.reservationID, settlement.idempotencyKey)
  clash first second := first.1 = second.1 ∨ first.2.1 = second.2.1 ∨ first.2.2 = second.2.2
  clash_symm _ _ clash := clash.imp Eq.symm (Or.imp Eq.symm Eq.symm)
  clashDecidable _ _ := inferInstanceAs (Decidable (_ ∨ _ ∨ _))

instance : Indexed BillingOutboxEvent where
  Index := String × String
  index event := (event.eventID, event.idempotencyKey)
  clash first second := first.1 = second.1 ∨ first.2 = second.2
  clash_symm := either_symm
  clashDecidable _ _ := inferInstanceAs (Decidable (_ ∨ _))

-- The store of the ledger. `drawn` counts the UUIDs handed out so far and `clock` is
-- the database time, so that every operation is a function of the store.
structure Ledger where
  accounts : Table BillingAccount
  snapshots : Table BillingBalanceSnapshot
  entries : Table BillingLedgerEntry
  reservations : Table BillingReservation
  settlements : Table BillingSettlement
  outbox : Table BillingOutboxEvent
  drawn : Nat
  clock : Int

def Ledger.empty : Ledger := ⟨.empty, .empty, .empty, .empty, .empty, .empty, 0, 0⟩

-- What the process gets from outside: the SQL dialect and the UUID generator.
structure LedgerEnv where
  postgres : Bool
  uuid : Nat → String

inductive LedgerError where
  | ledgerConflict
  | insufficientBalance
  | reservationNotOpen
  | reservationNotFound
  | settlementAlreadyExist
  | recordNotFound
  | uniqueViolation
  | message (text : String)
deriving DecidableEq, Repr

abbrev LedgerTx (α : Type) : Type := Tx Ledger LedgerError α

def getUUID (env : LedgerEnv) : LedgerTx String := fun ledger =>
  (.ok (env.uuid ledger.drawn), { ledger with drawn := ledger.drawn + 1 })

-- The BeforeCreate hooks fill a blank primary key with a fresh UUID.
def fillID (env : LedgerEnv) (given : String) : LedgerTx String :=
  if Blank given then getUUID env else pure given

-- An insert into one of the tables; a taken unique key is a driver error.
def insertRow {α : Type} [Indexed α] (table : Ledger → Table α) (store : Ledger → Table α → Ledger) (row : α) :
    LedgerTx α := do
  match ← Tx.view fun ledger => (table ledger).insert? row with
  | none => Tx.fail .uniqueViolation
  | some next =>
      Tx.edit fun ledger => store ledger next
      return row

def createAccount (env : LedgerEnv) (account : BillingAccount) : LedgerTx BillingAccount := do
  let accountID ← fillID env account.accountID
  insertRow Ledger.accounts (fun ledger accounts => { ledger with accounts })
    { account with accountID, quotaUnit := if Blank account.quotaUnit then "quota" else account.quotaUnit }

def createSnapshot (snapshot : BillingBalanceSnapshot) : LedgerTx BillingBalanceSnapshot :=
  insertRow Ledger.snapshots (fun ledger snapshots => { ledger with snapshots }) snapshot

def createEntry (env : LedgerEnv) (entry : BillingLedgerEntry) : LedgerTx BillingLedgerEntry := do
  let entryID ← fillID env entry.entryID
  insertRow Ledger.entries (fun ledger entries => { ledger with entries })
    { entry with entryID, metadata := if entry.metadata = "" then "\x7b\x7d" else entry.metadata }

def createReservationRow (env : LedgerEnv) (reservation : BillingReservation) : LedgerTx BillingReservation := do
  let reservationID ← fillID env reservation.reservationID
  insertRow Ledger.reservations (fun ledger reservations => { ledger with reservations }) { reservation with reservationID }

def createSettlement (env : LedgerEnv) (settlement : BillingSettlement) : LedgerTx BillingSettlement := do
  let settlementID ← fillID env settlement.settlementID
  insertRow Ledger.settlements (fun ledger settlements => { ledger with settlements }) { settlement with settlementID }

def createOutboxEvent (env : LedgerEnv) (event : BillingOutboxEvent) : LedgerTx BillingOutboxEvent := do
  let eventID ← fillID env event.eventID
  insertRow Ledger.outbox (fun ledger outbox => { ledger with outbox }) { event with eventID }

-- A saved snapshot overwrites every balance column of the row with its account id.
def saveSnapshot (snapshot : BillingBalanceSnapshot) : LedgerTx Unit :=
  Tx.edit fun ledger => { ledger with
    snapshots := ledger.snapshots.update (fun row => row.accountID = snapshot.accountID)
      (fun row => { snapshot with accountID := row.accountID }) fun _ => rfl }

def saveReservation (reservation : BillingReservation) : LedgerTx Unit :=
  Tx.edit fun ledger => { ledger with
    reservations := ledger.reservations.update (fun row => row.reservationID = reservation.reservationID)
      (fun row => { reservation with reservationID := row.reservationID, idempotencyKey := row.idempotencyKey }) fun _ => rfl }

end CodeGo.Billing
