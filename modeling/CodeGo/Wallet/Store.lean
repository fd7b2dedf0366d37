import CodeGo.Wallet.Funding

set_option autoImplicit false

namespace CodeGo.Billing

open Relational Text

def billingAccountTypeClaudeWallet : String := "claude_wallet"

def claudeWalletParams (userID : Int) : EnsureAccountParams :=
  { accountType := billingAccountTypeClaudeWallet, ownerType := "user", ownerID := userID, quotaUnit := "quota" }

def defaultReasonCode (value fallback : String) : String := if value ≠ "" then value else fallback

def hasNonZeroSnapshot (snapshot : BillingBalanceSnapshot) : Prop :=
  snapshot.availableBalance ≠ 0 ∨ snapshot.reservedBalance ≠ 0 ∨ snapshot.consumedTotal ≠ 0 ∨ snapshot.refundedTotal ≠ 0 ∨ snapshot.grantedTotal ≠ 0

instance (snapshot : BillingBalanceSnapshot) : Decidable (hasNonZeroSnapshot snapshot) := inferInstanceAs (Decidable (_ ∨ _))

def loadBalanceSnapshotTx (accountID : String) : LedgerTx BillingBalanceSnapshot := do
  match ← findSnapshot accountID with
  | some snapshot => return snapshot
  | none => Tx.fail .recordNotFound

def mirrorBootstrapKey (userID : Int) : String := "mirror-bootstrap:user:" ++ toString userID ++ ":" ++ billingAccountTypeClaudeWallet

-- The first touch of a wallet moves the quota of the legacy column into the ledger.
def ensureMirroredUserAccountTx (env : LedgerEnv) (userID legacyBalance : Int) : LedgerTx BillingAccount := do
  let account ← ensureBillingAccountTx env (claudeWalletParams userID)
  let snapshot ← loadBalanceSnapshotTx account.accountID
  if hasNonZeroSnapshot snapshot ∨ legacyBalance ≤ 0 then return account
  else
    let _ ← creditAccountTx env
      { accountID := account.accountID, amount := legacyBalance, idempotencyKey := mirrorBootstrapKey userID,
        reasonCode := "mirror_bootstrap", referenceType := "user", referenceID := toString userID, operatorType := "ledger_sync",
        operatorID := "mirror_bootstrap" }
    return account

def findAccountEntry (accountID key : String) : LedgerTx (Option BillingLedgerEntry) :=
  Tx.view fun ledger => ledger.entries.find? fun entry => entry.accountID = accountID ∧ entry.idempotencyKey = key

-- What the two wallet credits share. They differ in the names they leave on the entry
-- and in how the legacy column follows.
structure WalletCredit where
  userID : Int
  amount : Int
  idempotencyKey : String
  reasonCode : String
  fallbackReason : String
  operatorType : String

def WalletCredit.params (credit : WalletCredit) (accountID : String) : CreditAccountParams :=
  { accountID, amount := credit.amount, idempotencyKey := credit.idempotencyKey,
    reasonCode := defaultReasonCode credit.reasonCode credit.fallbackReason, referenceType := "user", referenceID := toString credit.userID,
    operatorType := credit.operatorType, operatorID := credit.idempotencyKey }

def creditMirroredWalletTx (env : WalletEnv) (credit : WalletCredit) (project : String → WalletTx Unit) : WalletTx Unit := do
  let legacyBalance ← getUserClaudeWalletQuotaTx credit.userID
  let account ← onLedger (ensureMirroredUserAccountTx env.toLedgerEnv credit.userID legacyBalance)
  let existing ← onLedger (findAccountEntry account.accountID credit.idempotencyKey)
  let entry ← onLedger (creditAccountTx env.toLedgerEnv (credit.params account.accountID))
  if existing.isSome then return ()
  else
    recordFundingLotTx env account.accountID credit.amount credit.idempotencyKey credit.reasonCode entry.referenceType entry.referenceID
    project account.accountID

-- The canonical store never reconciles the ledger from the legacy column.
def creditUserWalletQuotaTx (env : WalletEnv) (userID amount : Int) (idempotencyKey reasonCode : String) : WalletTx Unit := do
  Tx.reject (userID ≤ 0) (.message "invalid user id")
  Tx.reject (amount ≤ 0) (.message "amount must be positive")
  Tx.reject (idempotencyKey = "") (.message "idempotency key is required")
  creditMirroredWalletTx env
    { userID, amount, idempotencyKey, reasonCode, fallbackReason := "ledger_sync_credit", operatorType := "ledger_sync" }
    fun _ => increaseUserClaudeWalletQuotaTx userID amount

def creditUnifiedWalletQuotaTx (env : WalletEnv) (userID amount : Int) (idempotencyKey reasonCode : String) : WalletTx Unit :=
  creditUserWalletQuotaTx env userID amount idempotencyKey reasonCode

def alignClaudeQuota (userID : Int) (accountID : String) : WalletTx Unit := do
  let snapshot ← onLedger (loadBalanceSnapshotTx accountID)
  updateClaudeQuota userID fun _ => snapshot.availableBalance

def creditMarketplaceOwnerEarningsTx (env : WalletEnv) (userID amount : Int) (idempotencyKey reasonCode : String) : WalletTx Unit := do
  Tx.reject (userID ≤ 0 ∨ amount ≤ 0 ∨ idempotencyKey = "") (.message "invalid marketplace owner credit")
  creditMirroredWalletTx env
    { userID, amount, idempotencyKey, reasonCode, fallbackReason := "marketplace_owner_release", operatorType := "marketplace_settlement" }
    (alignClaudeQuota userID)

-- The byte length bounds the request id column.
def ledgerSyncRequestID (env : WalletEnv) (operationID : String) : String :=
  if ("ledger-sync:" ++ operationID).utf8ByteSize ≤ 64 then "ledger-sync:" ++ operationID
  else "ledger-sync:" ++ env.digest 24 operationID

def forfeitMarketplacePendingEarningsTx (env : WalletEnv) (pendingAccountID : String) (adminUserID amount : Int) (operationID : String) :
    WalletTx Unit := do
  let reservation ← onLedger (createReservationTx env.toLedgerEnv
    { accountID := pendingAccountID, requestID := ledgerSyncRequestID env operationID, reservedAmount := amount,
      idempotencyKey := operationID ++ ":reserve" })
  let _ ← onLedger (settleReservationTx env.toLedgerEnv
    { reservationID := reservation.reservationID, actualAmount := amount, idempotencyKey := operationID ++ ":settle" })
  creditMarketplaceOwnerEarningsTx env adminUserID amount (operationID ++ ":credit") "marketplace_owner_forfeit"

def attributedReason (reasonCode : String) : Prop :=
  reasonCode ≠ "payment_refund" ∧ reasonCode ≠ "ledger_sync_reconcile" ∧ reasonCode ≠ "marketplace_owner_reclaim"

instance (reasonCode : String) : Decidable (attributedReason reasonCode) := inferInstanceAs (Decidable (_ ∧ _))

-- A debit holds and settles its amount at once. The answer tells a new operation from a
-- replay of a settled one, which must not repeat the side effects.
def applyLedgerDeltaTx (env : WalletEnv) (accountID : String) (userID delta : Int) (operationID reasonCode : String) : WalletTx Bool := do
  if delta = 0 then return false
  else if delta < 0 then
    let _ ← onLedger (creditAccountTx env.toLedgerEnv
      { accountID, amount := -delta, idempotencyKey := "ledger-credit:" ++ operationID, reasonCode, referenceType := "user",
        referenceID := toString userID, operatorType := "ledger_sync", operatorID := operationID })
    return true
  else
    let reservation ← onLedger (createReservationTx env.toLedgerEnv
      { accountID, requestID := ledgerSyncRequestID env operationID, reservedAmount := delta,
        idempotencyKey := "ledger-reservation:" ++ operationID })
    let _ ← onLedger (settleReservationTx env.toLedgerEnv
      { reservationID := reservation.reservationID, actualAmount := delta, idempotencyKey := "ledger-settlement:" ++ operationID })
    if reservation.status = .settled then return false
    else if attributedReason reasonCode then
      allocateSettledFundingFIFOTx env (ledgerSyncRequestID env operationID) accountID delta
      return true
    else return true

def debitClaudeWalletQuotaAmountTx (env : WalletEnv) (userID amount : Int) (operationID reasonCode : String) : WalletTx Unit := do
  Tx.reject (userID ≤ 0 ∨ amount ≤ 0 ∨ operationID = "") (.message "invalid wallet debit")
  let legacyBalance ← getUserClaudeWalletQuotaTx userID
  let account ← onLedger (ensureMirroredUserAccountTx env.toLedgerEnv userID legacyBalance)
  if ← applyLedgerDeltaTx env account.accountID userID amount operationID (defaultReasonCode reasonCode "wallet_debit") then
    decreaseCanonicalUserClaudeWalletQuotaTx userID amount
  else return ()

def reclaimMarketplaceOwnerEarningsTx (env : WalletEnv) (ownerUserID adminUserID amount : Int) (operationID : String) : WalletTx Unit := do
  debitClaudeWalletQuotaAmountTx env ownerUserID amount (operationID ++ ":debit") "marketplace_owner_reclaim"
  creditMarketplaceOwnerEarningsTx env adminUserID amount (operationID ++ ":credit") "marketplace_owner_reclaim"

-- Native spendable balances; what is reserved is never spendable here.
def lockMarketplaceReclaimBalancesTx (env : WalletEnv) : List Int → WalletTx (List (Int × Int))
  | [] => pure []
  | owner :: rest => do
      let legacyBalance ← getUserClaudeWalletQuotaTx owner
      let account ← onLedger (ensureMirroredUserAccountTx env.toLedgerEnv owner legacyBalance)
      let snapshot ← onLedger (loadBalanceSnapshotTx account.accountID)
      let balances ← lockMarketplaceReclaimBalancesTx env rest
      return (owner, snapshot.availableBalance) :: balances

end CodeGo.Billing
