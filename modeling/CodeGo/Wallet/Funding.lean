import CodeGo.Wallet.Schema
import CodeGo.Lib.Fifo
import Mathlib.Data.List.Infix
import Mathlib.Data.List.Sort

set_option autoImplicit false

namespace CodeGo.Billing

open Relational Text

def containsText (part text : String) : Bool := part.toList <:+: text.toList

def fundingSourceFromReason (reasonCode : String) : FundingSource :=
  let reason := (trimSpace reasonCode).toLower
  if containsText "topup" reason ∨ containsText "top_up" reason then .topup
  else if containsText "blind_box" reason ∨ containsText "blind-box" reason then .blindBox
  else .other

def findLotByKey (key : String) : WalletTx (Option FundingLot) :=
  Tx.view fun wallet => wallet.lots.find? fun lot => lot.idempotencyKey = key

def recordFundingLotTx (env : WalletEnv) (accountID : String) (amount : Int) (idempotencyKey reasonCode referenceType referenceID : String) :
    WalletTx Unit := do
  if amount ≤ 0 ∨ Blank accountID then return ()
  else
    match ← findLotByKey idempotencyKey with
    | some _ => return ()
    | none =>
        let _ ← createLot env
          { accountID, source := fundingSourceFromReason reasonCode, referenceType, referenceID, originalAmount := amount,
            remainingAmount := amount, idempotencyKey }

-- Truncated as big.Int.Quo and the SQL div function truncate.
def floorPaidQuota (amount paid granted : Int) : Int := (amount * paid).tdiv granted

-- The part of a draw that was paid for: differences of cumulative floors never lose a unit.
def paidShare (lot : FundingLot) (used : Int) : Int :=
  if 0 < lot.paidQuota ∧ lot.paidQuota ≤ lot.originalAmount ∧ lot.remainingAmount ≤ lot.originalAmount then
    let consumed := lot.originalAmount - lot.remainingAmount
    floorPaidQuota (consumed + used) lot.paidQuota lot.originalAmount - floorPaidQuota consumed lot.paidQuota lot.originalAmount
  else 0

def FundingLot.Before (first second : FundingLot) : Prop :=
  first.createdAt < second.createdAt ∨ (first.createdAt = second.createdAt ∧ first.lotID ≤ second.lotID)

instance : DecidableRel FundingLot.Before := fun _ _ => inferInstanceAs (Decidable (_ ∨ _))

-- The lots of an account that still hold quota, oldest first.
def openLots (accountID : String) (wallet : Wallet) : List FundingLot :=
  (wallet.lots.rows.filter fun lot => lot.accountID = accountID ∧ 0 < lot.remainingAmount).insertionSort FundingLot.Before

def drawLot (env : WalletEnv) (requestID accountID : String) (lot : FundingLot) (used : Int) : WalletTx Unit := do
  updateLot lot.lotID (· - used)
  createAllocation env
    { requestID, lotID := lot.lotID, accountID, source := lot.source, amount := used, paidQuota := paidShare lot used }

structure FundingFIFOBatch where
  used : Int
  last : Option FundingLot

def drawLots (env : WalletEnv) (requestID accountID : String) : List (FundingLot × Int) → WalletTx Unit
  | [] => pure ()
  | (lot, used) :: rest => do
      drawLot env requestID accountID lot used
      drawLots env requestID accountID rest

-- One PostgreSQL statement attributes up to 4096 lots behind the cursor: `prior_amount` is
-- the window sum of the lots before, and a lot takes part while it is below the amount. The
-- retry by primary key after an incomplete update by row position has the same effect.
def allocateSettledFundingPostgresBatchTx (env : WalletEnv) (requestID accountID : String) (amount : Int) (cursor : Option FundingLot) :
    WalletTx FundingFIFOBatch := do
  let candidates ← Tx.view (openLots accountID)
  let behind := candidates.filter fun lot => cursor.all fun last => ¬ lot.Before last
  let consumed := Fifo.window FundingLot.remainingAmount amount (behind.take 4096)
  drawLots env requestID accountID consumed
  return { used := (consumed.map Prod.snd).sum, last := consumed.getLast?.map Prod.fst }

-- The oldest lot with quota left, or a new lot for quota that no lot accounts for.
def takeOldestLot (env : WalletEnv) (requestID accountID : String) (remaining : Int) : WalletTx FundingLot := do
  match ← Tx.view fun wallet => (openLots accountID wallet).head? with
  | some lot => return lot
  | none =>
      createLot env
        { accountID, source := .legacyUnattributed, referenceType := "legacy_wallet", referenceID := requestID, originalAmount := remaining,
          remainingAmount := remaining, idempotencyKey := "legacy-wallet:" ++ accountID ++ ":" ++ requestID }

-- Only PostgreSQL draws in batches.
def nextBatch (env : WalletEnv) (requestID accountID : String) (remaining : Int) (cursor : Option FundingLot) : WalletTx FundingFIFOBatch :=
  if env.postgres then allocateSettledFundingPostgresBatchTx env requestID accountID remaining cursor
  else pure { used := 0, last := none }

-- Every round covers at least one unit, so the amount itself bounds the rounds.
def allocateRounds (env : WalletEnv) (requestID accountID : String) : Nat → Int → Option FundingLot → WalletTx Unit
  | 0, _, _ => pure ()
  | rounds + 1, remaining, cursor => do
      if remaining ≤ 0 then return ()
      else
        let batch ← nextBatch env requestID accountID remaining cursor
        if 0 < batch.used then allocateRounds env requestID accountID rounds (remaining - batch.used) batch.last
        else
          let lot ← takeOldestLot env requestID accountID remaining
          let used := min lot.remainingAmount remaining
          drawLot env requestID accountID lot used
          allocateRounds env requestID accountID rounds (remaining - used) cursor

def allocateSettledFundingFIFOTx (env : WalletEnv) (requestID accountID : String) (amount : Int) : WalletTx Unit := do
  match ← Tx.view fun wallet => wallet.allocations.find? fun allocation => allocation.requestID = requestID with
  | some _ => return ()
  | none => allocateRounds env requestID accountID amount.toNat amount none

def allocateSettledFundingFIFO (env : WalletEnv) (requestID accountID : String) (amount : Int) : WalletTx Unit :=
  if requestID = "" ∨ accountID = "" ∨ amount ≤ 0 then pure ()
  else Tx.atomic (allocateSettledFundingFIFOTx env requestID accountID amount)

end CodeGo.Billing
