import CodeGo.Wallet.Store
import Mathlib.Data.Rat.Defs

set_option autoImplicit false

namespace CodeGo.Marketplace

open Relational Text Billing

/- The rows of the marketplace that settlement reads or writes. Maturity and audit timestamps
   and the income snapshot on the ledger entry are reporting data and left out. -/

inductive SettlementStatus where
  | pending
  | released
  | reclaimed
  | forfeited
deriving DecidableEq, Repr

structure Settlement where
  id : String := ""
  requestID : String
  groupID : String
  ownerUserID : Int
  consumerUserID : Int
  billingSource : String
  consumerAmount : Int
  settlementGrossAmount : Int
  platformCommission : Int
  transactionFee : Int
  referralRebateAmount : Int := 0
  referralRebatePending : Bool
  creditPackGrantedQuota : Int
  creditPackPaidQuota : Int
  creditPackChannelShareBPS : Int
  creditPackDiscountAmount : Int
  creditPackPlatformSubsidyAmount : Int
  ownerNetAmount : Int
  status : SettlementStatus
  pendingAccountID : String
  multiplier : ℚ := 0
  subscriptionMultiplier : ℚ := 0
  reclaimedAmount : Int := 0
  createdAt : Int := 0
deriving DecidableEq, Repr

instance : Indexed Settlement where
  Index := String × String
  index item := (item.id, item.requestID)
  clash first second := first.1 = second.1 ∨ first.2 = second.2
  clash_symm := either_symm
  clashDecidable _ _ := inferInstanceAs (Decidable (_ ∨ _))

structure Group where
  id : String
  channelID : String
  ownerUserID : Int
  deleted : Bool := false

structure Channel where
  id : String
  ownerUserID : Int
  internalChannelID : Option Int

structure UserSubscription where
  id : Int
  userID : Int
  creditPackGrantedQuota : Int
  creditPackPaidQuota : Int
  creditPackChannelShareBPS : Int

-- The catalogue rows are evidence that settlement only reads.
structure Market where
  wallet : Wallet
  settlements : Table Settlement
  groups : List Group
  channels : List Channel
  subscriptions : List UserSubscription

abbrev MarketTx (α : Type) : Type := Tx Market LedgerError α

def onWallet {α : Type} (work : WalletTx α) : MarketTx α :=
  work.zoom Market.wallet fun market wallet => { market with wallet }

def findSettlementByRequest (requestID : String) : MarketTx (Option Settlement) :=
  Tx.view fun market => market.settlements.find? fun item => item.requestID = requestID

def lockSettlement (settlementID : String) : MarketTx Settlement := do
  match ← Tx.view fun market => market.settlements.find? fun item => item.id = settlementID with
  | some item => return item
  | none => Tx.fail .recordNotFound

def createSettlementRow (env : WalletEnv) (item : Settlement) : MarketTx Settlement := do
  let id ← if item.id = "" then onWallet (onLedger (getUUID env.toLedgerEnv)) else pure item.id
  let createdAt ← Tx.view fun market => market.wallet.ledger.clock
  let row := { item with id, createdAt }
  match ← Tx.view fun market => market.settlements.insert? row with
  | none => Tx.fail .uniqueViolation
  | some settlements =>
      Tx.edit fun market => { market with settlements }
      return row

def updateSettlement (settlementID : String) (change : Settlement → Settlement)
    (keeps : ∀ item, Indexed.index (change item) = Indexed.index item) : MarketTx Unit :=
  Tx.edit fun market => { market with settlements := market.settlements.update (fun item => item.id = settlementID) change keeps }

def markStatus (settlementID : String) (status : SettlementStatus) : MarketTx Unit :=
  updateSettlement settlementID (fun item => { item with status }) fun _ => rfl

end CodeGo.Marketplace
