import CodeGo.Ledger.Reservation

set_option autoImplicit false

namespace CodeGo.Billing

open Relational Text

/- The unified wallet beside the ledger: the compatibility column on the user row and
   the funding lots with their allocations. Revenue multipliers and reward holds are
   reporting data that no modelled decision reads. -/

structure User where
  id : Int
  claudeQuota : Int := 0
  inviterID : Int := 0
  createdAt : Int := 0
deriving DecidableEq, Repr

inductive FundingSource where
  | topup
  | blindBox
  | subscription
  | legacyUnattributed
  | other
deriving DecidableEq, Repr

structure FundingLot where
  lotID : String := ""
  accountID : String
  source : FundingSource
  referenceType : String
  referenceID : String
  idempotencyKey : String
  originalAmount : Int
  paidQuota : Int := 0
  remainingAmount : Int
  createdAt : Int := 0
deriving DecidableEq, Repr

structure FundingAllocation where
  allocationID : String := ""
  requestID : String
  lotID : String
  accountID : String
  source : FundingSource
  amount : Int
  paidQuota : Int
deriving DecidableEq, Repr

instance : Indexed User where
  Index := Int
  index user := user.id
  clash first second := first = second
  clash_symm _ _ clash := clash.symm
  clashDecidable _ _ := inferInstanceAs (Decidable (_ = _))

instance : Indexed FundingLot where
  Index := String × String
  index lot := (lot.lotID, lot.idempotencyKey)
  clash first second := first.1 = second.1 ∨ first.2 = second.2
  clash_symm := either_symm
  clashDecidable _ _ := inferInstanceAs (Decidable (_ ∨ _))

instance : Indexed FundingAllocation where
  Index := String × String × String
  index allocation := (allocation.allocationID, allocation.requestID, allocation.lotID)
  clash first second := first.1 = second.1 ∨ first.2 = second.2
  clash_symm := either_symm
  clashDecidable _ _ := inferInstanceAs (Decidable (_ ∨ _))

structure Wallet where
  ledger : Ledger
  users : Table User
  lots : Table FundingLot
  allocations : Table FundingAllocation

-- The digest stands for the hex form of the first bytes of SHA-256, as many as are asked for.
structure WalletEnv extends LedgerEnv where
  digest : Nat → String → String

abbrev WalletTx (α : Type) : Type := Tx Wallet LedgerError α

def onLedger {α : Type} (work : LedgerTx α) : WalletTx α :=
  work.zoom Wallet.ledger fun wallet ledger => { wallet with ledger }

def findUser (userID : Int) : WalletTx (Option User) :=
  Tx.view fun wallet => wallet.users.find? fun user => user.id = userID

-- A scan into a plain integer leaves zero behind when the user row is missing.
def getUserClaudeWalletQuotaTx (userID : Int) : WalletTx Int := do
  match ← findUser userID with
  | some user => return user.claudeQuota
  | none => return 0

def updateClaudeQuota (userID : Int) (change : Int → Int) : WalletTx Unit :=
  Tx.edit fun wallet => { wallet with
    users := wallet.users.update (fun user => user.id = userID) (fun user => { user with claudeQuota := change user.claudeQuota }) fun _ => rfl }

def increaseUserClaudeWalletQuotaTx (userID amount : Int) : WalletTx Unit := updateClaudeQuota userID (· + amount)

-- The ledger has authorised this debit, so a stale projection is floored and not refused.
def decreaseCanonicalUserClaudeWalletQuotaTx (userID amount : Int) : WalletTx Unit := do
  updateClaudeQuota userID fun quota => if quota ≥ amount then quota - amount else 0
  match ← findUser userID with
  | some _ => return ()
  | none => Tx.fail .recordNotFound

def createLot (env : WalletEnv) (lot : FundingLot) : WalletTx FundingLot := do
  let lotID ← onLedger (fillID env.toLedgerEnv lot.lotID)
  let createdAt ← Tx.view fun wallet => wallet.ledger.clock
  let row := { lot with lotID, createdAt }
  match ← Tx.view fun wallet => wallet.lots.insert? row with
  | none => Tx.fail .uniqueViolation
  | some lots =>
      Tx.edit fun wallet => { wallet with lots }
      return row

def createAllocation (env : WalletEnv) (allocation : FundingAllocation) : WalletTx Unit := do
  let allocationID ← onLedger (fillID env.toLedgerEnv allocation.allocationID)
  match ← Tx.view fun wallet => wallet.allocations.insert? { allocation with allocationID } with
  | none => Tx.fail .uniqueViolation
  | some allocations => Tx.edit fun wallet => { wallet with allocations }

def updateLot (lotID : String) (change : Int → Int) : WalletTx Unit :=
  Tx.edit fun wallet => { wallet with
    lots := wallet.lots.update (fun lot => lot.lotID = lotID) (fun lot => { lot with remainingAmount := change lot.remainingAmount }) fun _ => rfl }

end CodeGo.Billing
