import CodeGo.Ledger.Moves

set_option autoImplicit false

namespace CodeGo.Subscription

open Relational Text Billing

/- Subscriptions funded from the ledger. Model quotas are the maps decoded from their JSON
   columns. Groups, audit times and the purchase history are read by nothing here. -/

inductive ResetPeriod where
  | never
  | daily
  | weekly
  | monthly
  | custom
deriving DecidableEq, Repr

inductive DurationUnit where
  | year
  | month
  | day
  | hour
  | custom
  | permanent
deriving DecidableEq, Repr

structure SubscriptionPlan where
  id : Int
  title : String := ""
  creditPack : Bool := false
  durationUnit : DurationUnit := .month
  durationValue : Int := 1
  totalAmount : Int := 0
  periodAmount : Int := 0
  quotaResetPeriod : ResetPeriod := .never
  quotaResetCustomSeconds : Int := 0
deriving DecidableEq, Repr

inductive SubscriptionStatus where
  | active
  | expired
  | cancelled
  | refundPending
  | settledCancelled
deriving DecidableEq, Repr

-- A normalised map: its names are trimmed and its values positive.
abbrev ModelQuota : Type := List (String × Int)

structure UserSubscription where
  id : Int
  userID : Int
  planID : Int
  creditPackGrantedQuota : Int := 0
  creditPackPaidQuota : Int := 0
  creditPackChannelShareBPS : Int := 0
  amountTotal : Int
  amountUsed : Int := 0
  periodAmount : Int := 0
  periodUsed : Int := 0
  modelLimits : ModelQuota := []
  modelUsage : ModelQuota := []
  startTime : Int
  endTime : Int
  status : SubscriptionStatus := .active
  lastResetTime : Int := 0
  nextResetTime : Int := 0
deriving DecidableEq, Repr

inductive PreConsumeStatus where
  | consumed
  | settled
  | refunded
deriving DecidableEq, Repr

structure SubscriptionPreConsumeRecord where
  requestID : String
  userID : Int
  userSubscriptionID : Int
  modelName : String
  preConsumed : Int
  status : PreConsumeStatus := .consumed
deriving DecidableEq, Repr

structure SubscriptionResetOpportunityAccount where
  userID : Int
  usedTotal : Int := 0
  availableTotal : Int := 0
  lastUsedMonth : String := ""
deriving DecidableEq, Repr

instance : Indexed UserSubscription where
  Index := Int
  index sub := sub.id
  clash first second := first = second
  clash_symm _ _ clash := clash.symm
  clashDecidable _ _ := inferInstanceAs (Decidable (_ = _))

instance : Indexed SubscriptionPreConsumeRecord where
  Index := String
  index record := record.requestID
  clash first second := first = second
  clash_symm _ _ clash := clash.symm
  clashDecidable _ _ := inferInstanceAs (Decidable (_ = _))

instance : Indexed SubscriptionResetOpportunityAccount where
  Index := Int
  index account := account.userID
  clash first second := first = second
  clash_symm _ _ clash := clash.symm
  clashDecidable _ _ := inferInstanceAs (Decidable (_ = _))

-- What an adjustment writes into the metadata column of its ledger entry.
structure UsageEvidence where
  delta : Int := 0
  model : String := ""
deriving DecidableEq, Repr

structure SubscriptionStore where
  ledger : Ledger
  plans : List SubscriptionPlan
  subscriptions : Table UserSubscription
  records : Table SubscriptionPreConsumeRecord
  evidence : List (String × UsageEvidence)
  opportunities : Table SubscriptionResetOpportunityAccount
  opportunityUses : List (Int × String)

-- Midnight, the same hour a week on and the first of the next month, in the time zone of the process.
structure Calendar where
  nextDay : Int → Int
  nextWeek : Int → Int
  nextMonth : Int → Int
  later : ∀ base, base < nextDay base ∧ base < nextWeek base ∧ base < nextMonth base

structure SubscriptionEnv extends LedgerEnv where
  calendar : Calendar

inductive SubscriptionError where
  | recordNotFound
  | uniqueViolation
  | candidateUnavailable
  | resetOpportunityUnavailable
  | resetOpportunityMonthlyUsed
  | resetOpportunityNoActiveSub
  | resetOpportunityConverted
  | ledger (problem : LedgerError)
  | insufficientUsage (problem : SubscriptionError)
  | message (text : String)
deriving DecidableEq, Repr

abbrev SubscriptionTx (α : Type) : Type := Tx SubscriptionStore SubscriptionError α

def onLedger {α : Type} (work : LedgerTx α) : SubscriptionTx α :=
  (work.withError .ledger).zoom SubscriptionStore.ledger fun store ledger => { store with ledger }

def lockUserSubscriptionRecordTx (subscriptionID : Int) : SubscriptionTx UserSubscription := do
  match ← Tx.view fun store => store.subscriptions.find? fun row => row.id = subscriptionID with
  | some sub => return sub
  | none => Tx.fail .recordNotFound

def saveSubscription (sub : UserSubscription) : SubscriptionTx Unit :=
  Tx.edit fun store => { store with
    subscriptions := store.subscriptions.update (fun row => row.id = sub.id) (fun row => { sub with id := row.id }) fun _ => rfl }

def findRecord (requestID : String) : SubscriptionTx (Option SubscriptionPreConsumeRecord) :=
  Tx.view fun store => store.records.find? fun row => row.requestID = requestID

def lockRecord (requestID : String) : SubscriptionTx SubscriptionPreConsumeRecord := do
  match ← findRecord requestID with
  | some record => return record
  | none => Tx.fail .recordNotFound

def createRecord (record : SubscriptionPreConsumeRecord) : SubscriptionTx Unit := do
  match ← Tx.view fun store => store.records.insert? record with
  | none => Tx.fail .uniqueViolation
  | some records => Tx.edit fun store => { store with records }

def saveRecord (record : SubscriptionPreConsumeRecord) : SubscriptionTx Unit :=
  Tx.edit fun store => { store with
    records := store.records.update (fun row => row.requestID = record.requestID)
      (fun row => { record with requestID := row.requestID }) fun _ => rfl }

def getSubscriptionPlanRecordTx (planID : Int) : SubscriptionTx SubscriptionPlan := do
  Tx.reject (planID ≤ 0) (.message "invalid plan id")
  match ← Tx.view fun store => store.plans.find? fun plan => plan.id = planID with
  | some plan => return plan
  | none => Tx.fail .recordNotFound

end CodeGo.Subscription
