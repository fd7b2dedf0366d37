import CodeGo.Marketplace.Schema

set_option autoImplicit false

namespace CodeGo.Marketplace

open Relational Text Billing

structure RecordParams where
  requestID : String
  groupID : String
  ownerUserID : Int
  consumerUserID : Int
  billingSource : String
  consumerDebitAmount : Int
  settlementGrossAmount : Int
  walletMultiplier : ℚ := 0
  subscriptionMultiplier : ℚ := 0
  creditPackGrantedQuota : Int := 0
  creditPackPaidQuota : Int := 0
  creditPackChannelShareBPS : Int := 0
  feePolicyVersion : String := ""

def feePolicyPaidBonusV2 : String := "paid_bonus_rate_v2"

-- Half a unit rounds up.
def roundedRatio (numerator denominator : Int) : Int :=
  if 2 * numerator.tmod denominator ≥ denominator then numerator.tdiv denominator + 1 else numerator.tdiv denominator

def percentage (amount percent : Int) : Int := roundedRatio (amount * percent) 100

def creditPackCharges (params : RecordParams) : Except LedgerError (Int × Int) :=
  if params.feePolicyVersion ≠ "" ∧ params.feePolicyVersion ≠ feePolicyPaidBonusV2 then
    .error (.message "unsupported marketplace fee policy")
  else if params.creditPackGrantedQuota = 0 ∧ params.creditPackPaidQuota = 0 ∧ params.creditPackChannelShareBPS = 0 then
    if params.billingSource = "credit_pack" then .error (.message "credit pack settlement snapshot is missing") else .ok (0, 0)
  else if params.creditPackGrantedQuota ≤ 0 ∨ params.creditPackPaidQuota ≤ 0 ∨ params.creditPackPaidQuota > params.creditPackGrantedQuota ∨
      params.creditPackChannelShareBPS < 0 ∨ params.creditPackChannelShareBPS > 10000 then
    .error (.message "invalid credit pack settlement snapshot")
  else
    let numerator := params.settlementGrossAmount * (params.creditPackGrantedQuota - params.creditPackPaidQuota)
    let discount := roundedRatio numerator params.creditPackGrantedQuota
    let feeNumerator := numerator * params.creditPackChannelShareBPS
    let denominator := if params.feePolicyVersion = feePolicyPaidBonusV2 then params.creditPackPaidQuota else params.creditPackGrantedQuota
    let feeDenominator := denominator * 10000
    if feeNumerator > params.settlementGrossAmount * feeDenominator then
      .error (.message "credit pack fees exceed settlement gross amount")
    else .ok (discount, roundedRatio feeNumerator feeDenominator)

def pendingAccountParams (ownerUserID : Int) : EnsureAccountParams :=
  { accountType := "marketplace_owner_pending", ownerType := "user", ownerID := ownerUserID, quotaUnit := "quota" }

def platformAccountParams : EnsureAccountParams :=
  { accountType := "marketplace_platform_revenue", ownerType := "system", ownerID := 1, quotaUnit := "quota" }

-- The two credits of a settlement differ in account, amount and names.
def settlementCredit (accountID : String) (amount : Int) (key reasonCode settlementID : String) : CreditAccountParams :=
  { accountID, amount, idempotencyKey := key, reasonCode, referenceType := "marketplace_settlement", referenceID := settlementID,
    operatorType := "system", operatorID := "marketplace" }

def recordedSettlement (params : RecordParams) (commission discount fee ownerNet : Int) (pendingAccountID : String) : Settlement :=
  { requestID := params.requestID, groupID := params.groupID, ownerUserID := params.ownerUserID, consumerUserID := params.consumerUserID,
    billingSource := params.billingSource, consumerAmount := params.consumerDebitAmount,
    settlementGrossAmount := params.settlementGrossAmount, platformCommission := commission, transactionFee := fee,
    referralRebatePending := decide (params.creditPackGrantedQuota > 0), creditPackGrantedQuota := params.creditPackGrantedQuota,
    creditPackPaidQuota := params.creditPackPaidQuota, creditPackChannelShareBPS := params.creditPackChannelShareBPS,
    creditPackDiscountAmount := discount, creditPackPlatformSubsidyAmount := max (discount - fee) 0, ownerNetAmount := ownerNet,
    status := .pending, pendingAccountID, multiplier := params.walletMultiplier, subscriptionMultiplier := params.subscriptionMultiplier }

-- The lookup and the insert see the same rows, so the insert never skips a taken request id.
def recordTx (env : WalletEnv) (params : RecordParams) : MarketTx Unit := do
  if params.requestID = "" ∨ params.groupID = "" ∨ params.ownerUserID ≤ 0 ∨ params.settlementGrossAmount ≤ 0 then return ()
  else
    match ← findSettlementByRequest params.requestID with
    | some _ => return ()
    | none =>
        let commission := percentage params.settlementGrossAmount 5
        let (discount, fee) ← Tx.lift (creditPackCharges params)
        Tx.reject (fee > params.settlementGrossAmount - commission) (.message "credit pack fees exceed settlement gross amount")
        let ownerNet := params.settlementGrossAmount - commission - fee
        let account ← onWallet (onLedger (ensureBillingAccountTx env.toLedgerEnv (pendingAccountParams params.ownerUserID)))
        let platformAccount ← onWallet (onLedger (ensureBillingAccountTx env.toLedgerEnv platformAccountParams))
        let item ← createSettlementRow env (recordedSettlement params commission discount fee ownerNet account.accountID)
        let _ ← onWallet (onLedger (creditAccountTx env.toLedgerEnv
          (settlementCredit account.accountID ownerNet ("marketplace-pending:" ++ params.requestID) "marketplace_owner_pending" item.id)))
        if commission + fee ≤ 0 then return ()
        else
          let _ ← onWallet (onLedger (creditAccountTx env.toLedgerEnv
            (settlementCredit platformAccount.accountID (commission + fee) ("marketplace-platform:" ++ params.requestID)
              "marketplace_platform_revenue" item.id)))

-- Closing a pending settlement: what release and forfeit share around the movement of the money.
def closePending (item : Settlement) (status : SettlementStatus) (pay : WalletTx Unit) : MarketTx Unit := do
  if item.status ≠ .pending then return ()
  else
    Tx.reject (item.referralRebatePending = true) (.message "marketplace referral allocation is pending")
    if item.ownerNetAmount = 0 then markStatus item.id status
    else
      onWallet pay
      markStatus item.id status

-- The administrator who receives forfeited earnings is user 1.
def forfeitOneTx (env : WalletEnv) (item : Settlement) : MarketTx Unit :=
  closePending item .forfeited
    (forfeitMarketplacePendingEarningsTx env item.pendingAccountID 1 item.ownerNetAmount ("marketplace-forfeit:" ++ item.id))

def forfeitOne (env : WalletEnv) (settlementID : String) : MarketTx Unit := do
  forfeitOneTx env (← lockSettlement settlementID)

def releasePayout (env : WalletEnv) (item : Settlement) : WalletTx Unit := do
  let reservation ← onLedger (createReservationTx env.toLedgerEnv
    { accountID := item.pendingAccountID, requestID := "marketplace-release:" ++ item.id, reservedAmount := item.ownerNetAmount,
      idempotencyKey := "marketplace-release-reserve:" ++ item.id })
  let _ ← onLedger (settleReservationTx env.toLedgerEnv
    { reservationID := reservation.reservationID, actualAmount := item.ownerNetAmount,
      idempotencyKey := "marketplace-release-settle:" ++ item.id })
  creditMarketplaceOwnerEarningsTx env item.ownerUserID item.ownerNetAmount ("marketplace-release-credit:" ++ item.id)
    "marketplace_owner_release"

def releaseOne (env : WalletEnv) (settlementID : String) : MarketTx Unit := do
  let item ← lockSettlement settlementID
  closePending item .released (releasePayout env item)

def forfeitAll (env : WalletEnv) : List Settlement → MarketTx Unit
  | [] => pure ()
  | item :: rest => do
      forfeitOneTx env item
      forfeitAll env rest

-- A channel without a group selects the empty group id.
def forfeitChannelPendingTx (env : WalletEnv) (channelID : String) : MarketTx Unit := do
  let items ← Tx.view fun market =>
    let groupID := ((market.groups.find? fun group => group.channelID = channelID ∧ group.deleted = false).map Group.id).getD ""
    market.settlements.rows.filter fun item => item.groupID = groupID ∧ item.status = .pending
  forfeitAll env items

end CodeGo.Marketplace
