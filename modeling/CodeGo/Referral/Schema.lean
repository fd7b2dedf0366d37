import CodeGo.Marketplace.Referral

set_option autoImplicit false

namespace CodeGo.Referral

open Relational Text Billing Marketplace

/- Receipts of consumption rebates and the purchase evidence they are computed from. The
   funding source columns of a receipt are written by the caller of the core and left out,
   and so is the list of inviters whose caches are dropped after the commit. -/

structure ReferralRebateProgram where
  rateBPS : Int
  effectiveAt : Int
deriving DecidableEq, Repr

structure ReferralConsumptionRebate where
  settlementID : String
  inviterID : Int
  inviteeID : Int
  eligibleQuota : Int
  rebateQuota : Int
  rateBPS : Int
  consumedAt : Int
  exclusionReason : String
deriving DecidableEq, Repr

instance : Indexed ReferralConsumptionRebate where
  Index := String
  index receipt := receipt.settlementID
  clash first second := first = second
  clash_symm _ _ clash := clash.symm
  clashDecidable _ _ := inferInstanceAs (Decidable (_ = _))

inductive TopUpStatus where
  | pending
  | success
  | failed
  | expired
deriving DecidableEq, Repr

structure SubscriptionOrder where
  targetSubscriptionID : Int
  userID : Int
  status : TopUpStatus
  creditPackQuota : Int
  creditPackPaidQuota : Int
  money : ℚ

structure TopUp where
  tradeNo : String
  userID : Int
  paidQuota : Int
  status : TopUpStatus
  money : ℚ

-- Orders and top-ups are evidence that the rebate only reads.
structure ReferralStore where
  market : Market
  receipts : Table ReferralConsumptionRebate
  program : Option ReferralRebateProgram
  orders : List SubscriptionOrder
  topups : List TopUp

-- An error of the functions below, or one passed on from the ledger, the wallet or the database.
inductive ReferralError where
  | store (problem : LedgerError)
  | message (text : String)
deriving DecidableEq, Repr

abbrev ReferralTx (α : Type) : Type := Tx ReferralStore ReferralError α

def onMarket {α : Type} (work : MarketTx α) : ReferralTx α :=
  (work.withError ReferralError.store).zoom ReferralStore.market fun store market => { store with market }

-- A lookup whose missing row is an error of the database.
def first {α : Type} (select : ReferralStore → Option α) : ReferralTx α := do
  match ← Tx.view select with
  | some row => return row
  | none => Tx.fail (.store .recordNotFound)

def createReceipt (receipt : ReferralConsumptionRebate) : ReferralTx Unit := do
  match ← Tx.view fun store => store.receipts.insert? receipt with
  | none => Tx.fail (.store .uniqueViolation)
  | some receipts => Tx.edit fun store => { store with receipts }

end CodeGo.Referral
