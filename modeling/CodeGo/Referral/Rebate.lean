import CodeGo.Referral.Schema

set_option autoImplicit false

namespace CodeGo.Referral

open Relational Text Billing Marketplace

def billingAccountTypeWallet : String := "wallet"

def referralConsumptionWindowSeconds : Int := 7 * 24 * 60 * 60

def RelayWallet (account : BillingAccount) (settlement : BillingSettlement) : Prop :=
  account.ownerType = "user" ∧ (account.accountType = billingAccountTypeClaudeWallet ∨ account.accountType = billingAccountTypeWallet) ∧
    hasPrefix "relay:wallet:" settlement.idempotencyKey = true ∧ hasSuffix ":settle" settlement.idempotencyKey = true

instance (account : BillingAccount) (settlement : BillingSettlement) : Decidable (RelayWallet account settlement) :=
  inferInstanceAs (Decidable (_ ∧ _))

def RelaySubscription (account : BillingAccount) (settlement : BillingSettlement) : Prop :=
  account.ownerType = "user_subscription" ∧ account.accountType = "subscription" ∧
    hasPrefix "subscription:" settlement.idempotencyKey = true ∧ containsText ":settle:" settlement.idempotencyKey = true

instance (account : BillingAccount) (settlement : BillingSettlement) : Decidable (RelaySubscription account settlement) :=
  inferInstanceAs (Decidable (_ ∧ _))

def noSubscription : UserSubscription :=
  { id := 0, userID := 0, creditPackGrantedQuota := 0, creditPackPaidQuota := 0, creditPackChannelShareBPS := 0 }

-- Who used the relay. Transfers, marketplace releases and purchases are not relay use.
def relayInvitee (account : BillingAccount) (settlement : BillingSettlement) : ReferralTx (Option (Int × UserSubscription)) := do
  if RelayWallet account settlement then return some (account.ownerID, noSubscription)
  else if RelaySubscription account settlement then
    let subscription ← first fun store => store.market.subscriptions.find? fun row => row.id = account.ownerID
    return some (subscription.userID, subscription)
  else return none

def OutsideWindow (invitee : User) (consumedAt : Int) : Prop :=
  invitee.inviterID ≤ 0 ∨ invitee.inviterID = invitee.id ∨ invitee.createdAt ≤ 0 ∨ consumedAt < invitee.createdAt ∨
    consumedAt - invitee.createdAt ≥ referralConsumptionWindowSeconds

instance (invitee : User) (consumedAt : Int) : Decidable (OutsideWindow invitee consumedAt) := inferInstanceAs (Decidable (_ ∨ _))

-- A settlement that has passed every check in front of the receipt.
structure ReferralSubject where
  settlement : BillingSettlement
  reservation : BillingReservation
  account : BillingAccount
  subscription : UserSubscription
  invitee : User
  program : ReferralRebateProgram

-- Both users are locked, and the invitee must still belong to the inviter.
def lockReferralUsers (invitee : User) : ReferralTx Bool := do
  let lockedUsers ← Tx.view fun store => store.market.wallet.users.rows.filter fun user => user.id = invitee.id ∨ user.id = invitee.inviterID
  if lockedUsers.length ≠ 2 then return false
  else
    Tx.reject (lockedUsers.any (fun user => user.id = invitee.id ∧ user.inviterID ≠ invitee.inviterID) = true)
      (.message "referral ownership changed while processing settlement")
    return true

def activeProgram (consumedAt : Int) : ReferralTx (Option ReferralRebateProgram) := do
  match ← Tx.view ReferralStore.program with
  | none => Tx.fail (.message "load referral rebate program: record not found")
  | some program =>
      Tx.reject (program.rateBPS ≤ 0 ∨ program.rateBPS > 10000 ∨ program.effectiveAt ≤ 0) (.message "invalid referral rebate program")
      if consumedAt < program.effectiveAt then return none else return some program

-- The settled row, its reservation and its account, when the event stands for a completed debit.
def settledUse (event : BillingOutboxEvent) : ReferralTx (Option (BillingSettlement × BillingReservation × BillingAccount)) := do
  if event.eventType ≠ "billing.reservation_settled" then return none
  else
    let settlement ← first fun store => store.market.wallet.ledger.settlements.find? fun row => row.settlementID = event.aggregateID
    if settlement.status ≠ .completed ∨ settlement.actualAmount ≤ 0 then return none
    else
      let reservation ← first fun store =>
        store.market.wallet.ledger.reservations.find? fun row => row.reservationID = settlement.reservationID
      if reservation.status ≠ .settled then return none
      else
        let account ← first fun store => store.market.wallet.ledger.accounts.find? fun row => row.accountID = reservation.accountID
        return some (settlement, reservation, account)

def referralSubject (event : BillingOutboxEvent) : ReferralTx (Option ReferralSubject) := do
  match ← settledUse event with
  | none => return none
  | some (settlement, reservation, account) =>
      match ← relayInvitee account settlement with
      | none => return none
      | some (inviteeID, subscription) =>
          match ← Tx.view fun store => store.market.wallet.users.find? fun user => user.id = inviteeID with
          | none => return none
          | some invitee =>
              if OutsideWindow invitee settlement.settledAt then return none
              else
                match ← activeProgram settlement.settledAt with
                | none => return none
                | some program =>
                    if ← lockReferralUsers invitee then
                      match ← Tx.view fun store => store.receipts.find? fun receipt => receipt.settlementID = settlement.settlementID with
                      | some _ => return none
                      | none => return some { settlement, reservation, account, subscription, invitee, program }
                    else return none

def SnapshotInvalid (subscription : UserSubscription) : Prop :=
  subscription.creditPackGrantedQuota ≤ 0 ∨ subscription.creditPackPaidQuota ≤ 0 ∨
    subscription.creditPackPaidQuota > subscription.creditPackGrantedQuota

instance (subscription : UserSubscription) : Decidable (SnapshotInvalid subscription) := inferInstanceAs (Decidable (_ ∨ _))

def paidOrder (subscription : UserSubscription) (order : SubscriptionOrder) : Bool :=
  order.targetSubscriptionID = subscription.id ∧ order.userID = subscription.userID ∧ order.status = .success ∧
    order.creditPackQuota = subscription.creditPackGrantedQuota ∧ order.creditPackPaidQuota = subscription.creditPackPaidQuota ∧ order.money > 0

-- The settlements that a receipt joins to through a reservation of the account.
def settledOn (ledger : Ledger) (accountID settlementID : String) : List BillingSettlement :=
  (ledger.settlements.rows.filter fun settled => settled.settlementID = settlementID).flatMap fun settled =>
    (ledger.reservations.rows.filter fun reserved => reserved.reservationID = settled.reservationID ∧ reserved.accountID = accountID).map
      fun _ => settled

def priorGross (accountID : String) (store : ReferralStore) : Int :=
  store.receipts.total fun receipt => ((settledOn store.market.wallet.ledger accountID receipt.settlementID).map BillingSettlement.actualAmount).sum

-- The paid-ratio fraction is carried across the requests of an immutable package.
def packEligibleQuota (settlement : BillingSettlement) (account : BillingAccount) (subscription : UserSubscription) :
    ReferralTx (Int × String) := do
  if SnapshotInvalid subscription then return (0, "legacy_paid_snapshot_missing")
  else
    match ← Tx.view fun store => store.orders.find? (paidOrder subscription) with
    | none => return (0, "conversion_paid_snapshot_missing")
    | some _ =>
        let gross ← Tx.view (priorGross account.accountID)
        Tx.reject (gross < 0 ∨ gross > subscription.creditPackGrantedQuota - settlement.actualAmount)
          (.message "referral credit pack consumed amount exceeds purchase snapshot")
        let eligible := floorPaidQuota (gross + settlement.actualAmount) subscription.creditPackPaidQuota subscription.creditPackGrantedQuota -
          floorPaidQuota gross subscription.creditPackPaidQuota subscription.creditPackGrantedQuota
        Tx.reject (eligible < 0) (.message "invalid cumulative credit pack referral attribution")
        return (eligible, "")

structure AllocationTally where
  allocated : Int := 0
  eligible : Int := 0
  reason : String := "unpaid_funding"

def paidTopUp (settledAccount : BillingAccount) (lot : FundingLot) (order : TopUp) : Bool :=
  order.userID = settledAccount.ownerID ∧ order.status = .success ∧ order.money > 0 ∧ order.paidQuota = lot.paidQuota

def tallyAllocation (settlement : BillingSettlement) (account : BillingAccount) (tally : AllocationTally) (allocation : FundingAllocation) :
    ReferralTx AllocationTally := do
  Tx.reject (allocation.amount ≤ 0 ∨ allocation.amount > settlement.actualAmount - tally.allocated)
    (.message "referral funding allocations do not match settled amount")
  let counted := { tally with allocated := tally.allocated + allocation.amount }
  let lot ← first fun store => store.market.wallet.lots.find? fun lot => lot.lotID = allocation.lotID ∧ lot.accountID = account.accountID
  if lot.source ≠ .topup ∨ allocation.source ≠ lot.source then return counted
  else if lot.paidQuota ≤ 0 ∨ lot.paidQuota > lot.originalAmount then return { counted with reason := "legacy_paid_snapshot_missing" }
  else
    let trade := trimSuffix ":unified" (trimPrefix "topup:" lot.idempotencyKey)
    if "topup:" ++ trade ++ ":unified" ≠ lot.idempotencyKey ∨ trade = "" then return { counted with reason := "paid_order_missing" }
    else
      match ← Tx.view fun store => store.topups.find? fun order => order.tradeNo = trade with
      | none => return { counted with reason := "paid_order_missing" }
      | some order =>
          if paidTopUp account lot order = false then return { counted with reason := "paid_order_snapshot_mismatch" }
          else
            Tx.reject (allocation.paidQuota < 0 ∨ allocation.paidQuota > allocation.amount)
              (.message "invalid paid funding allocation snapshot")
            return { counted with eligible := counted.eligible + allocation.paidQuota }

def tallyAllocations (settlement : BillingSettlement) (account : BillingAccount) :
    AllocationTally → List FundingAllocation → ReferralTx AllocationTally
  | tally, [] => pure tally
  | tally, allocation :: rest => do
      tallyAllocations settlement account (← tallyAllocation settlement account tally allocation) rest

def walletEligibleQuota (env : WalletEnv) (settlement : BillingSettlement) (reservation : BillingReservation) (account : BillingAccount) :
    ReferralTx (Int × String) := do
  onMarket (onWallet (allocateSettledFundingFIFOTx env reservation.requestID account.accountID settlement.actualAmount))
  let allocations ← Tx.view fun store => store.market.wallet.allocations.rows.filter fun allocation =>
    allocation.requestID = reservation.requestID ∧ allocation.accountID = account.accountID
  let tally ← tallyAllocations settlement account {} allocations
  Tx.reject (tally.allocated ≠ settlement.actualAmount)
    (.message ("referral funding allocation incomplete: " ++ (toString tally.allocated ++ " of " ++ toString settlement.actualAmount)))
  return (tally.eligible, if tally.eligible > 0 then "" else tally.reason)

def referralEligibleQuotaTx (env : WalletEnv) (subject : ReferralSubject) : ReferralTx (Int × String) :=
  if subject.account.ownerType = "user_subscription" then packEligibleQuota subject.settlement subject.account subject.subscription
  else walletEligibleQuota env subject.settlement subject.reservation subject.account

def ReferralConsumptionRebate.Of (inviteeID inviterID rateBPS : Int) (receipt : ReferralConsumptionRebate) : Prop :=
  receipt.inviteeID = inviteeID ∧ receipt.inviterID = inviterID ∧ receipt.rateBPS = rateBPS

instance (inviteeID inviterID rateBPS : Int) : DecidablePred (ReferralConsumptionRebate.Of inviteeID inviterID rateBPS) :=
  fun _ => inferInstanceAs (Decidable (_ ∧ _))

def eligibleTotal (store : ReferralStore) (inviteeID inviterID rateBPS : Int) : Int :=
  store.receipts.total fun receipt => if receipt.Of inviteeID inviterID rateBPS then receipt.eligibleQuota else 0

def rebateTotal (store : ReferralStore) (inviteeID inviterID rateBPS : Int) : Int :=
  store.receipts.total fun receipt => if receipt.Of inviteeID inviterID rateBPS then receipt.rebateQuota else 0

def rebateKey (settlementID : String) : String := "referral-consumption:" ++ settlementID

def cumulativeInvalid : ReferralError := .message "referral rebate cumulative amount is invalid"

-- The funder is the marketplace settlement that bears the rebate; official channels and wallets have none.
def fundRebate (env : WalletEnv) (settlementID : String) (rebate : Int) : Option Settlement → ReferralTx Unit
  | none => pure ()
  | some item => do let _ ← onMarket (debitCreditPackReferralTx env item settlementID rebate)

-- The rebate is what the rounded total has grown by since the last receipt.
def recordReferralRebate (env : WalletEnv) (subject : ReferralSubject) (eligible : Int) (reason : String) (funder : Option Settlement) :
    ReferralTx Unit := do
  let rate := subject.program.rateBPS
  let eligibleBefore ← Tx.view fun store => eligibleTotal store subject.invitee.id subject.invitee.inviterID rate
  let rebateBefore ← Tx.view fun store => rebateTotal store subject.invitee.id subject.invitee.inviterID rate
  let rebate := ((eligibleBefore + eligible) * rate).tdiv 10000 - rebateBefore
  Tx.reject (rebate > maxInt64 ∨ rebate < 0) cumulativeInvalid
  createReceipt
    { settlementID := subject.settlement.settlementID, inviterID := subject.invitee.inviterID, inviteeID := subject.invitee.id,
      eligibleQuota := eligible, rebateQuota := rebate, rateBPS := rate, consumedAt := subject.settlement.settledAt, exclusionReason := reason }
  if rebate > 0 then
    fundRebate env subject.settlement.settlementID rebate funder
    onMarket (onWallet (creditMarketplaceOwnerEarningsTx env subject.invitee.inviterID rebate (rebateKey subject.settlement.settlementID)
      "referral_consumption_rebate"))
  else return ()

def consumeReferralSettlementCoreTx (env : WalletEnv) (event : BillingOutboxEvent) (funder : Option Settlement) : ReferralTx Unit := do
  match ← referralSubject event with
  | none => return ()
  | some subject =>
      let (eligible, reason) ← referralEligibleQuotaTx env subject
      recordReferralRebate env subject eligible reason funder

end CodeGo.Referral
