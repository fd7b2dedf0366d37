import CodeGo.Marketplace.Referral
import CodeGo.Lib.SortedMap

set_option autoImplicit false

namespace CodeGo.Marketplace

open Relational Text Billing

/- Administrators take released earnings back through durable tasks. A direct task moves the
   money first and marks the settlements later; the other tasks do both at once. -/

inductive ReclaimTaskStatus where
  | pending
  | running
  | debitPending
  | charged
  | completed
  | failed
deriving DecidableEq, Repr

-- A maximum of zero reclaims everything that is selected.
structure ReleaseFilter where
  ownerUserIDs : List Int
  startTimestamp : Int := 0
  endTimestamp : Int := 0
  limit : Int := 0
  maxAmount : Int := 0
  operationID : String := ""
  direct : Bool := false
  auditRemaining : List (Int × Int) := []
deriving DecidableEq, Repr

-- The fingerprint is a SHA-256 of the filter a task was created with; the filter stands for it.
structure IncomeReclaim where
  id : String
  fingerprint : ReleaseFilter
  filter : ReleaseFilter
  status : ReclaimTaskStatus
  count : Nat := 0
  amount : Int := 0
  batchNumber : Nat := 0
  ownerAmounts : List (Int × Int) := []
deriving DecidableEq, Repr

instance : Indexed IncomeReclaim where
  Index := String
  index task := task.id
  clash first second := first = second
  clash_symm _ _ clash := clash.symm
  clashDecidable _ _ := inferInstanceAs (Decidable (_ = _))

structure Treasury where
  market : Market
  reclaims : Table IncomeReclaim

abbrev TreasuryTx (α : Type) : Type := Tx Treasury LedgerError α

def onMarket {α : Type} (work : MarketTx α) : TreasuryTx α :=
  work.zoom Treasury.market fun treasury market => { treasury with market }

def reclaimBatchSize : Nat := 5000

def saveTask (task : IncomeReclaim) : TreasuryTx Unit :=
  Tx.edit fun treasury => { treasury with
    reclaims := treasury.reclaims.update (fun row => row.id = task.id) (fun row => { task with id := row.id, fingerprint := row.fingerprint })
      fun _ => rfl }

def lockTask (operationID : String) : TreasuryTx IncomeReclaim := do
  match ← Tx.view fun treasury => treasury.reclaims.find? fun task => task.id = operationID with
  | some task => return task
  | none => Tx.fail .recordNotFound

def ReleaseFilter.Covers (filter : ReleaseFilter) (owner : Int) : Prop := filter.ownerUserIDs = [] ∨ owner ∈ filter.ownerUserIDs

instance (filter : ReleaseFilter) (owner : Int) : Decidable (filter.Covers owner) := inferInstanceAs (Decidable (_ ∨ _))

-- The conditions of the query for earnings that can still be reclaimed.
def ReleaseFilter.Selects (filter : ReleaseFilter) (item : Settlement) : Prop :=
  item.status = .released ∧ item.ownerNetAmount > item.reclaimedAmount ∧ filter.Covers item.ownerUserID ∧
    (filter.startTimestamp > 0 → item.createdAt ≥ filter.startTimestamp) ∧ (filter.endTimestamp > 0 → item.createdAt < filter.endTimestamp + 1)

instance (filter : ReleaseFilter) (item : Settlement) : Decidable (filter.Selects item) := inferInstanceAs (Decidable (_ ∧ _))

def Settlement.reclaimable (item : Settlement) : Int := item.ownerNetAmount - item.reclaimedAmount

def Settlement.Before (first second : Settlement) : Prop :=
  first.createdAt < second.createdAt ∨ (first.createdAt = second.createdAt ∧ first.id ≤ second.id)

instance : DecidableRel Settlement.Before := fun _ _ => inferInstanceAs (Decidable (_ ∨ _))

def reclaimSettlementQuery (filter : ReleaseFilter) (market : Market) : List Settlement :=
  (market.settlements.rows.filter fun item => filter.Selects item).insertionSort Settlement.Before

def reclaimableAmountTx (filter : ReleaseFilter) : MarketTx Int :=
  Tx.view fun market => ((reclaimSettlementQuery filter market).map Settlement.reclaimable).sum

-- How an amount is spread over settlements, oldest first; without a limit each gives all it has left.
def allot : Option Int → List Settlement → List (Settlement × Int)
  | _, [] => []
  | none, item :: rest => (item, item.reclaimable) :: allot none rest
  | some remaining, item :: rest =>
      let amount := min item.reclaimable remaining
      if amount ≤ 0 then [] else (item, amount) :: allot (some (remaining - amount)) rest

def reclaimRow (amount : Int) (row : Settlement) : Settlement :=
  { row with
    reclaimedAmount := row.reclaimedAmount + amount
    status := if row.reclaimedAmount + amount = row.ownerNetAmount then .reclaimed else row.status }

def reclaimRows : List (Settlement × Int) → MarketTx Unit
  | [] => pure ()
  | (item, amount) :: rest => do
      updateSettlement item.id (reclaimRow amount) fun _ => rfl
      reclaimRows rest

def allottedTotal (allotted : List (Settlement × Int)) : Int := (allotted.map Prod.snd).sum

-- The owners in ascending order, each with the sum of what is taken from the owner's settlements.
def ownerTotals (allotted : List (Settlement × Int)) : List (Int × Int) :=
  ((allotted.map fun part => part.1.ownerUserID).dedup.insertionSort (· ≤ ·)).map fun owner =>
    (owner, allottedTotal (allotted.filter fun part => part.1.ownerUserID = owner))

-- A limit that is not positive is no limit.
def allotmentLimit (remaining : Int) : Option Int := if remaining > 0 then some remaining else none

-- The statement for one page: what a row gives is the smaller of what it has left and what the
-- running sum over the rows before it leaves of the limit. Rows that give nothing are not updated.
def windowAmounts (remaining : Int) : Int → List Settlement → List (Settlement × Int)
  | _, [] => []
  | preceding, item :: rest =>
      (item, min item.reclaimable (max (remaining - preceding) 0)) :: windowAmounts remaining (preceding + item.reclaimable) rest

def pageAmounts (remaining : Int) (locked : List Settlement) : List (Settlement × Int) :=
  let amounts := if remaining > 0 then windowAmounts remaining 0 locked else locked.map fun item => (item, item.reclaimable)
  amounts.filter fun part => part.2 > 0

structure ReclaimBatch where
  allotted : List (Settlement × Int)
  last : Option Settlement

def reclaimPostgresTx (filter : ReleaseFilter) (remaining : Int) (cursor : Option Settlement) : MarketTx ReclaimBatch := do
  let candidates ← Tx.view (reclaimSettlementQuery filter)
  let locked := (candidates.filter fun item => cursor.all fun last => ¬ item.Before last).take reclaimBatchSize
  let allotted := pageAmounts remaining locked
  reclaimRows allotted
  return { allotted, last := locked.getLast? }

-- A round that is not the last one leaves a full batch behind the cursor, so the number of
-- settlements bounds the rounds.
def reclaimRounds (filter : ReleaseFilter) (reclaimAll : Bool) (remaining : Int) :
    Nat → List (Settlement × Int) → Option Settlement → MarketTx (List (Settlement × Int))
  | 0, allotted, _ => pure allotted
  | rounds + 1, allotted, cursor => do
      let batch ← reclaimPostgresTx filter (if reclaimAll then 0 else remaining - allottedTotal allotted) cursor
      let gathered := allotted ++ batch.allotted
      if batch.allotted.length < reclaimBatchSize ∨ (filter.maxAmount > 0 ∧ allottedTotal gathered ≥ remaining) then return gathered
      else reclaimRounds filter reclaimAll remaining rounds gathered batch.last

def reclaimAllotted (env : WalletEnv) (task : IncomeReclaim) (reclaimAll : Bool) : MarketTx (List (Settlement × Int)) := do
  if env.postgres then
    let remaining := if task.filter.maxAmount > 0 then task.filter.maxAmount - task.amount else 0
    let rounds ← Tx.view fun market => market.settlements.rows.length + 1
    let allotted ← reclaimRounds task.filter reclaimAll remaining rounds [] none
    Tx.reject (task.filter.maxAmount > 0 ∧ allottedTotal allotted ≠ remaining) (.message "可回收收益发生变化，未扣除额度，请刷新后重试")
    return allotted
  else
    let candidates ← Tx.view (reclaimSettlementQuery task.filter)
    let allotted := allot (if task.filter.maxAmount > 0 then some (task.filter.maxAmount - task.amount) else none) (candidates.take reclaimBatchSize)
    reclaimRows allotted
    return allotted

-- One hook call for each owner; batches and direct debits differ in the middle of the key.
def reclaimKey (taskID stage : String) (owner : Int) : String :=
  "marketplace-reclaim:" ++ taskID ++ ":" ++ stage ++ ":owner:" ++ toString owner

def batchStage (batchNumber : Nat) : String := "batch:" ++ toString batchNumber

def debitOwners (env : WalletEnv) (taskID stage : String) : List (Int × Int) → WalletTx Unit
  | [] => pure ()
  | (owner, amount) :: rest => do
      reclaimMarketplaceOwnerEarningsTx env owner 1 amount (reclaimKey taskID stage owner)
      debitOwners env taskID stage rest

def batchStatus (env : WalletEnv) (task : IncomeReclaim) (allotted : List (Settlement × Int)) : ReclaimTaskStatus :=
  if env.postgres ∨ (task.filter.maxAmount > 0 ∧ task.amount + allottedTotal allotted = task.filter.maxAmount) ∨
      allotted.length < reclaimBatchSize then .completed
  else .running

-- The owners' amounts of a batch are added to those of the batches before it.
def addOwnerAmounts (cumulative amounts : List (Int × Int)) : List (Int × Int) :=
  amounts.foldl (fun sums part => SortedMap.put part.1 ((SortedMap.lookup part.1 sums).getD 0 + part.2) sums) cumulative

def runBatch (env : WalletEnv) (task : IncomeReclaim) (reclaimAll : Bool) : TreasuryTx Unit := do
  let allotted ← onMarket (reclaimAllotted env task reclaimAll)
  if allotted = [] then saveTask { task with status := .completed }
  else
    onMarket (onWallet (debitOwners env task.id (batchStage (task.batchNumber + 1)) (ownerTotals allotted)))
    saveTask { task with
      status := batchStatus env task allotted, count := task.count + allotted.length, amount := task.amount + allottedTotal allotted,
      batchNumber := task.batchNumber + 1, ownerAmounts := addOwnerAmounts task.ownerAmounts (ownerTotals allotted) }

def processIncomeReclaimTx (env : WalletEnv) (operationID : String) : TreasuryTx Unit := do
  let task ← lockTask operationID
  if task.status = .completed ∨ task.status = .failed then return ()
  else if task.filter.maxAmount > 0 then
    let available ← onMarket (reclaimableAmountTx task.filter)
    let remaining := task.filter.maxAmount - task.amount
    if available < remaining then saveTask { task with status := .failed }
    else runBatch env task (decide (available = remaining))
  else runBatch env task (decide (task.filter.maxAmount = 0))

-- A failure is recorded outside the transaction that it rolled back.
def markTask (operationID : String) (eligible : ReclaimTaskStatus → Bool) (status : ReclaimTaskStatus) (treasury : Treasury) : Treasury :=
  { treasury with
    reclaims := treasury.reclaims.update (fun task => task.id = operationID ∧ eligible task.status) (fun task => { task with status }) fun _ => rfl }

def processIncomeReclaimTask (env : WalletEnv) (operationID : String) (treasury : Treasury) : Treasury :=
  match processIncomeReclaimTx env operationID treasury with
  | (.ok _, after) => after
  | (.error _, _) => markTask operationID (fun status => status ≠ .completed) .failed treasury

def ReclaimTaskStatus.Outstanding (status : ReclaimTaskStatus) : Prop :=
  status = .debitPending ∨ status = .charged ∨ status = .pending ∨ status = .running

instance (status : ReclaimTaskStatus) : Decidable status.Outstanding := inferInstanceAs (Decidable (_ ∨ _))

def checkOutstandingDirectReclaimsTx (operationID : String) (owners : List Int) : TreasuryTx Unit := do
  let tasks ← Tx.view fun treasury => treasury.reclaims.rows.filter fun task => task.id ≠ operationID ∧ task.status.Outstanding
  Tx.reject (∃ task ∈ tasks, ∃ owner ∈ owners, task.filter.Covers owner)
    (.message "所选渠道主上一笔回收仍在处理或补齐明细，请等待该笔完成，勿重复提交")

def initialTaskStatus (filter : ReleaseFilter) : ReclaimTaskStatus := if filter.direct then .debitPending else .pending

def normalizedFilter (filter : ReleaseFilter) : ReleaseFilter :=
  { filter with ownerUserIDs := (filter.ownerUserIDs.insertionSort (· ≤ ·)).dedup, operationID := "", limit := 0, auditRemaining := [] }

def checkDirectReclaim (operationID : String) (filter : ReleaseFilter) : TreasuryTx Unit :=
  if filter.direct then checkOutstandingDirectReclaimsTx operationID filter.ownerUserIDs else pure ()

def resumeTask (existing : IncomeReclaim) (filter : ReleaseFilter) : TreasuryTx IncomeReclaim := do
  Tx.reject (existing.fingerprint ≠ filter) (.message "回收操作标识已用于其他筛选条件或金额")
  if existing.status = .failed then
    checkDirectReclaim existing.id filter
    saveTask { existing with status := initialTaskStatus filter }
    return { existing with status := initialTaskStatus filter }
  else return existing

def createTask (operationID : String) (filter : ReleaseFilter) : TreasuryTx IncomeReclaim := do
  Tx.reject (filter.direct = true ∧ filter.ownerUserIDs.head?.all (· ≤ 0) = true) (.message "直扣需要明确的渠道主及原生钱包余额读取")
  let task : IncomeReclaim := { id := operationID, fingerprint := filter, filter, status := initialTaskStatus filter }
  match ← Tx.view fun treasury => treasury.reclaims.find? fun row => row.id = operationID with
  | some existing => resumeTask existing filter
  | none =>
      match ← Tx.view fun treasury => treasury.reclaims.insert? task with
      | none => Tx.fail .uniqueViolation
      | some reclaims =>
          Tx.edit fun treasury => { treasury with reclaims }
          checkDirectReclaim operationID filter
          return task

def reclaimOperationID (env : WalletEnv) (given : String) : TreasuryTx String :=
  if given = "" then onMarket (onWallet (onLedger (getUUID env.toLedgerEnv))) else pure given

def createIncomeReclaimTask (env : WalletEnv) (filter : ReleaseFilter) : TreasuryTx IncomeReclaim := do
  Tx.reject (filter.maxAmount < 0 ∨ filter.operationID.utf8ByteSize > 64) (.message "invalid income reclaim amount or operation ID")
  let operationID ← reclaimOperationID env filter.operationID
  createTask operationID (normalizedFilter filter)

-- What a direct task takes from each owner: no more than is selected, spendable and left of the maximum.
def chargeShares (totals balances : List (Int × Int)) : List (Int × Int) :=
  totals.map fun total => (total.1, min total.2 (max 0 ((balances.lookup total.1).getD 0)))

def chargeAmounts : Int → List (Int × Int) → List (Int × Int)
  | _, [] => []
  | remaining, (owner, share) :: rest =>
      let amount := min share remaining
      if amount ≤ 0 then chargeAmounts remaining rest else (owner, amount) :: chargeAmounts (remaining - amount) rest

def chargeDirectReclaimTx (env : WalletEnv) (task : IncomeReclaim) : TreasuryTx Unit := do
  let selected ← onMarket (Tx.view (reclaimSettlementQuery task.filter))
  let balances ← onMarket (onWallet (lockMarketplaceReclaimBalancesTx env task.filter.ownerUserIDs))
  let shares := chargeShares (ownerTotals (allot none selected)) balances
  let available := (shares.map Prod.snd).sum
  Tx.reject (task.filter.maxAmount > available) (.message "所选范围的可回收收益或可用余额不足，未扣除额度，请刷新后重试")
  let amounts := chargeAmounts (if task.filter.maxAmount > 0 then task.filter.maxAmount else available) shares
  onMarket (onWallet (debitOwners env task.id "direct" amounts))
  let amount := task.amount + (amounts.map Prod.snd).sum
  saveTask { task with
    filter := { task.filter with auditRemaining := amounts }, amount, status := if amount = 0 then .completed else .charged,
    ownerAmounts := amounts }

def auditRest (owner amount : Int) (remaining : List (Int × Int)) : List (Int × Int) :=
  (remaining.map fun part => if part.1 = owner then (owner, part.2 - amount) else part).filter fun part => ¬ (part.1 = owner ∧ part.2 = 0)

def auditDirectReclaimTx (task : IncomeReclaim) : TreasuryTx Unit := do
  match task.filter.auditRemaining.find? fun part => part.2 > 0 with
  | none => saveTask { task with status := .completed }
  | some (owner, remaining) =>
      let candidates ← onMarket (Tx.view (reclaimSettlementQuery { task.filter with ownerUserIDs := [owner] }))
      let allotted := allot (some remaining) (candidates.take reclaimBatchSize)
      onMarket (reclaimRows allotted)
      Tx.reject (allottedTotal allotted ≤ 0 ∨ allottedTotal allotted > remaining)
        (.message "已扣款回收的明细金额不匹配，保留回执等待重试，禁止再次扣款")
      let rest := auditRest owner (allottedTotal allotted) task.filter.auditRemaining
      saveTask { task with
        filter := { task.filter with auditRemaining := rest }, count := task.count + allotted.length, batchNumber := task.batchNumber + 1,
        status := if rest = [] then .completed else task.status }

def processDirectReclaimTx (env : WalletEnv) (operationID : String) : TreasuryTx Unit := do
  let task ← lockTask operationID
  if task.status ≠ .debitPending ∧ task.status ≠ .charged then return ()
  else
    Tx.reject (task.filter.direct = false ∨ task.filter.ownerUserIDs = []) (.message "invalid direct reclaim receipt")
    if task.status = .debitPending then chargeDirectReclaimTx env task else auditDirectReclaimTx task

-- A failed audit keeps the charged status: the money has moved.
def processDirectIncomeReclaimTask (env : WalletEnv) (operationID : String) (treasury : Treasury) : Treasury :=
  match processDirectReclaimTx env operationID treasury with
  | (.ok _, after) => after
  | (.error _, _) => markTask operationID (fun status => status = .debitPending) .failed treasury

inductive TreasuryOp where
  | market (op : MarketOp)
  | createReclaim (filter : ReleaseFilter)
  | processReclaim (operationID : String)
  | processDirect (operationID : String)

def treasuryStep (env : WalletEnv) (treasury : Treasury) : TreasuryOp → Treasury
  | .market op => { treasury with market := marketStep env treasury.market op }
  | .createReclaim filter => (Tx.atomic (createIncomeReclaimTask env filter) treasury).2
  | .processReclaim operationID => processIncomeReclaimTask env operationID treasury
  | .processDirect operationID => processDirectIncomeReclaimTask env operationID treasury

end CodeGo.Marketplace
