import CodeGo.Marketplace.Settlement

set_option autoImplicit false

namespace CodeGo.Marketplace

open Relational Text Billing

def SnapshotMismatch (item : Settlement) (params : RecordParams) : Prop :=
  item.groupID ≠ params.groupID ∨ item.ownerUserID ≠ params.ownerUserID ∨ item.consumerUserID ≠ params.consumerUserID ∨
    item.consumerAmount ≠ params.consumerDebitAmount ∨ item.settlementGrossAmount ≠ params.settlementGrossAmount ∨
    item.creditPackGrantedQuota ≠ params.creditPackGrantedQuota ∨ item.creditPackPaidQuota ≠ params.creditPackPaidQuota ∨
    item.creditPackChannelShareBPS ≠ params.creditPackChannelShareBPS

instance (item : Settlement) (params : RecordParams) : Decidable (SnapshotMismatch item params) := inferInstanceAs (Decidable (_ ∨ _))

def lockCreditPackReferralTx (env : WalletEnv) (params : RecordParams) : MarketTx Settlement := do
  Tx.reject (params.requestID = "" ∨ params.groupID = "" ∨ params.ownerUserID ≤ 0 ∨ params.consumerUserID ≤ 0 ∨ params.creditPackGrantedQuota ≤ 0)
    (.message "invalid marketplace credit pack referral context")
  recordTx env params
  match ← findSettlementByRequest params.requestID with
  | none => Tx.fail .recordNotFound
  | some item =>
      Tx.reject (SnapshotMismatch item params) (.message "marketplace referral settlement snapshot mismatch")
      Tx.reject (item.status ≠ .pending) (.message "marketplace referral funding is no longer pending")
      return item

def referralKey (financialSettlementID : String) : String := "marketplace-referral:" ++ financialSettlementID

def chargeReferral (item : Settlement) (amount : Int) : Settlement :=
  { item with ownerNetAmount := item.ownerNetAmount - amount, referralRebateAmount := item.referralRebateAmount + amount }

-- The caller's copy of the settlement is updated with the row, so the answer is that copy.
def debitCreditPackReferralTx (env : WalletEnv) (item : Settlement) (financialSettlementID : String) (amount : Int) : MarketTx Settlement := do
  Tx.reject (amount < 0 ∨ financialSettlementID = "") (.message "invalid marketplace referral debit")
  if amount = 0 then return item
  else
    Tx.reject (item.referralRebatePending = false ∨ item.status ≠ .pending ∨ item.ownerNetAmount < amount)
      (.message "marketplace owner referral funds are unavailable")
    match ← onWallet (onLedger (findSettlementByIdempotency (referralKey financialSettlementID ++ ":settle"))) with
    | some existing =>
        Tx.reject (existing.actualAmount ≠ amount) (.message "marketplace referral debit replay amount mismatch")
        return item
    | none =>
        let reservation ← onWallet (onLedger (createReservationTx env.toLedgerEnv
          { accountID := item.pendingAccountID, requestID := referralKey financialSettlementID, reservedAmount := amount,
            idempotencyKey := referralKey financialSettlementID ++ ":reserve" }))
        let _ ← onWallet (onLedger (settleReservationTx env.toLedgerEnv
          { reservationID := reservation.reservationID, actualAmount := amount, idempotencyKey := referralKey financialSettlementID ++ ":settle" }))
        let charged := chargeReferral item amount
        Tx.reject (charged.settlementGrossAmount - charged.platformCommission - charged.transactionFee - charged.referralRebateAmount ≠
          charged.ownerNetAmount) (.message "marketplace referral settlement conservation mismatch")
        updateSettlement item.id
          (fun row => { row with ownerNetAmount := charged.ownerNetAmount, referralRebateAmount := charged.referralRebateAmount }) fun _ => rfl
        return charged

def completeCreditPackReferralTx (item : Settlement) : MarketTx Unit := do
  Tx.reject (item.status ≠ .pending) (.message "marketplace referral settlement is unavailable")
  updateSettlement item.id (fun row => { row with referralRebatePending := false }) fun _ => rfl

def debitReferrals (env : WalletEnv) (item : Settlement) : List (String × Int) → MarketTx Settlement
  | [] => pure item
  | (financialSettlementID, amount) :: rest => do
      debitReferrals env (← debitCreditPackReferralTx env item financialSettlementID amount) rest

-- One referral transaction: the settlement is locked, charged and, with the last charge, completed.
def referralTx (env : WalletEnv) (params : RecordParams) (debits : List (String × Int)) (completes : Bool) : MarketTx Unit := do
  let item ← lockCreditPackReferralTx env params
  let charged ← debitReferrals env item debits
  if completes then completeCreditPackReferralTx charged else return ()

-- The routing and pricing evidence frozen in a consume log. A missing value is a log
-- whose text is not valid JSON.
structure FrozenUsage where
  groupID : String
  multiplier : ℚ
  billingSource : String
  subscriptionMultiplier : ℚ := 0
  subscriptionGroupMultiplier : ℚ := 0
  subscriptionBillingVersion : String := ""
  creditPackGrantedQuota : Int := 0
  creditPackPaidQuota : Int := 0
  creditPackChannelShareBPS : Option Int := none
  feePolicyVersion : String := ""

structure UsageLog where
  consume : Bool
  requestID : String
  userID : Int
  channelID : Int
  quota : Int
  createdAt : Int
  other : Option FrozenUsage

def usageFundingUnconfirmed : LedgerError := .message "marketplace usage funding is not fully settled"

def FrozenUsage.pack (frozen : FrozenUsage) : Bool := frozen.subscriptionBillingVersion = "credit_pack" ∨ frozen.creditPackGrantedQuota > 0

def PackSnapshotMissing (frozen : FrozenUsage) : Prop :=
  frozen.billingSource ≠ "subscription" ∨ frozen.creditPackGrantedQuota ≤ 0 ∨ frozen.creditPackPaidQuota ≤ 0 ∨
    frozen.creditPackPaidQuota > frozen.creditPackGrantedQuota ∨
    frozen.creditPackChannelShareBPS.all (fun share => share < 0 ∨ share > 10000) = true

instance (frozen : FrozenUsage) : Decidable (PackSnapshotMissing frozen) := inferInstanceAs (Decidable (_ ∨ _))

def checkFundingAccount (log : UsageLog) (frozen : FrozenUsage) (account : BillingAccount) : MarketTx Unit := do
  if frozen.billingSource = "wallet" then
    Tx.reject (account.ownerType ≠ "user" ∨ account.ownerID ≠ log.userID ∨ (account.accountType ≠ "claude_wallet" ∧ account.accountType ≠ "wallet"))
      (.message "marketplace recovery wallet owner mismatch")
  else
    Tx.reject (account.accountType ≠ "subscription" ∨ account.ownerType ≠ "user_subscription")
      (.message "marketplace recovery subscription account mismatch")
    match ← Tx.view fun market => market.subscriptions.find? fun subscription => subscription.id = account.ownerID with
    | none => Tx.fail .recordNotFound
    | some subscription =>
        Tx.reject (subscription.userID ≠ log.userID ∨ decide (subscription.creditPackGrantedQuota > 0) ≠ frozen.pack)
          (.message "marketplace recovery subscription owner mismatch")
        Tx.reject (frozen.pack = true ∧ (subscription.creditPackGrantedQuota ≠ frozen.creditPackGrantedQuota ∨
            subscription.creditPackPaidQuota ≠ frozen.creditPackPaidQuota ∨
            some subscription.creditPackChannelShareBPS ≠ frozen.creditPackChannelShareBPS))
          (.message "marketplace recovery purchase snapshot mismatch")

-- The native debits behind a request, added up one reservation at a time.
def confirmedDebit (log : UsageLog) (frozen : FrozenUsage) : Int → List BillingReservation → MarketTx Int
  | total, [] => pure total
  | total, reservation :: rest => do
      Tx.reject (reservation.status ≠ .settled) usageFundingUnconfirmed
      match ← Tx.view fun market => market.wallet.ledger.accounts.find? fun account => account.accountID = reservation.accountID with
      | none => Tx.fail .recordNotFound
      | some account =>
          checkFundingAccount log frozen account
          match ← Tx.view fun market => market.wallet.ledger.settlements.find? fun nativeDebit =>
              nativeDebit.reservationID = reservation.reservationID ∧ nativeDebit.status = .completed with
          | none => Tx.fail usageFundingUnconfirmed
          | some nativeDebit =>
              Tx.reject (nativeDebit.actualAmount < 0 ∨ nativeDebit.actualAmount > log.quota - total)
                (.message "marketplace recovery native debit exceeds usage")
              confirmedDebit log frozen (total + nativeDebit.actualAmount) rest

def recoveredGross (frozen : FrozenUsage) (total : Int) : Int :=
  if frozen.billingSource = "subscription" ∧ frozen.pack = false then
    if total.tmod 10 ≥ 5 then total.tdiv 10 + 1 else total.tdiv 10
  else total

def findRecoveryOwner (log : UsageLog) (frozen : FrozenUsage) : MarketTx Group := do
  match ← Tx.view fun market => market.groups.find? fun group => group.id = frozen.groupID with
  | none => Tx.fail .recordNotFound
  | some group =>
      match ← Tx.view fun market => market.channels.find? fun channel => channel.id = group.channelID with
      | none => Tx.fail .recordNotFound
      | some channel =>
          Tx.reject (group.ownerUserID ≤ 0 ∨ channel.ownerUserID ≠ group.ownerUserID ∨ channel.internalChannelID ≠ some log.channelID)
            (.message "marketplace recovery channel ownership mismatch")
          return group

def fundingRequestID (env : WalletEnv) (log : UsageLog) (frozen : FrozenUsage) : String :=
  if frozen.pack then "cp:" ++ env.digest 30 ("credit-pack:" ++ log.requestID) else log.requestID

def FrozenUsage.revenueMultiplier (frozen : FrozenUsage) : ℚ :=
  if frozen.subscriptionMultiplier = 0 then frozen.subscriptionGroupMultiplier else frozen.subscriptionMultiplier

-- Recovery keeps the original maturity date.
def dateRecovered (log : UsageLog) (item : Settlement) : MarketTx Settlement := do
  if item.status = .pending then
    updateSettlement item.id (fun row => { row with createdAt := log.createdAt }) fun _ => rfl
    return { item with createdAt := log.createdAt }
  else return item

-- Rebuilds a missing settlement from frozen evidence; the ledger must confirm the full debit.
def recoverUsageTx (env : WalletEnv) (log : UsageLog) : MarketTx Settlement := do
  Tx.reject (log.consume = false ∨ log.requestID = "" ∨ log.quota ≤ 0 ∨ log.createdAt ≤ 0) (.message "invalid marketplace recovery usage")
  match ← findSettlementByRequest log.requestID with
  | some existing => return existing
  | none =>
      match log.other with
      | none => Tx.fail (.message "invalid JSON")
      | some frozen =>
          Tx.reject (frozen.groupID = "" ∨ (frozen.billingSource ≠ "wallet" ∧ frozen.billingSource ≠ "subscription"))
            (.message "marketplace recovery route or funding source is missing")
          let group ← findRecoveryOwner log frozen
          Tx.reject (frozen.pack = true ∧ PackSnapshotMissing frozen) (.message "marketplace recovery credit pack snapshot is missing")
          Tx.reject (frozen.pack = false ∧ frozen.multiplier ≤ 0) (.message "marketplace recovery price snapshot is missing")
          let reservations ← Tx.view fun market => market.wallet.ledger.reservations.rows.filter fun reservation =>
            reservation.requestID = fundingRequestID env log frozen
          Tx.reject (reservations = []) usageFundingUnconfirmed
          let total ← confirmedDebit log frozen 0 reservations
          Tx.reject (total ≠ log.quota) usageFundingUnconfirmed
          Tx.reject (recoveredGross frozen total ≤ 0) (.message "marketplace usage rounds to zero income")
          recordTx env
            { requestID := log.requestID, groupID := group.id, ownerUserID := group.ownerUserID, consumerUserID := log.userID,
              billingSource := frozen.billingSource, consumerDebitAmount := total, settlementGrossAmount := recoveredGross frozen total,
              walletMultiplier := frozen.multiplier, subscriptionMultiplier := frozen.revenueMultiplier,
              creditPackGrantedQuota := frozen.creditPackGrantedQuota, creditPackPaidQuota := frozen.creditPackPaidQuota,
              creditPackChannelShareBPS := frozen.creditPackChannelShareBPS.getD 0, feePolicyVersion := frozen.feePolicyVersion }
          match ← findSettlementByRequest log.requestID with
          | none => Tx.fail .recordNotFound
          | some item => dateRecovered log item

inductive MarketOp where
  | record (params : RecordParams)
  | recoverUsage (log : UsageLog)
  | referral (params : RecordParams) (debits : List (String × Int)) (completes : Bool)
  | release (settlementID : String)
  | forfeit (settlementID : String)
  | forfeitChannel (channelID : String)

def executeMarket (env : WalletEnv) : MarketOp → MarketTx Unit
  | .record params => recordTx env params
  | .recoverUsage log => do let _ ← recoverUsageTx env log
  | .referral params debits completes => referralTx env params debits completes
  | .release settlementID => releaseOne env settlementID
  | .forfeit settlementID => forfeitOne env settlementID
  | .forfeitChannel channelID => forfeitChannelPendingTx env channelID

def marketStep (env : WalletEnv) (market : Market) (op : MarketOp) : Market := (Tx.atomic (executeMarket env op) market).2

end CodeGo.Marketplace
