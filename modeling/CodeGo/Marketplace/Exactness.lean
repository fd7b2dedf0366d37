import CodeGo.Marketplace.Takeback
import CodeGo.Marketplace.Allotments

set_option autoImplicit false

namespace CodeGo.Marketplace

open Relational Text Billing

/- A task with a maximum. Its batches add up to the maximum as long as no batch after the first
   one is refused; the first one is all or nothing. -/

def Ordered (amounts : List (Int × Int)) : Prop := amounts.Pairwise fun first second => first.1 < second.1

theorem ordered_added (cumulative amounts : List (Int × Int)) (ordered : Ordered cumulative) : Ordered (addOwnerAmounts cumulative amounts) := by
  induction amounts generalizing cumulative with
  | nil => exact ordered
  | cons part rest ih => exact ih _ (SortedMap.put_sorted _ _ _ ordered)

theorem sum_added (weight : Int × Int → Int) (adds : ∀ key first second, weight (key, first + second) = weight (key, first) + weight (key, second))
    (cumulative amounts : List (Int × Int)) (ordered : Ordered cumulative) :
    ((addOwnerAmounts cumulative amounts).map weight).sum = (cumulative.map weight).sum + (amounts.map weight).sum := by
  induction amounts generalizing cumulative with
  | nil => simp [addOwnerAmounts]
  | cons part rest ih =>
      have put := SortedMap.sum_put weight part.1 part.2 cumulative ordered (adds part.1)
      have later := ih _ (SortedMap.put_sorted part.1 ((SortedMap.lookup part.1 cumulative).getD 0 + part.2) _ ordered)
      rw [put] at later
      rw [List.map_cons, List.sum_cons, ← Int.add_assoc]
      exact later

theorem parts_added (owner : Int) (cumulative amounts : List (Int × Int)) (ordered : Ordered cumulative) :
    partsOf owner (addOwnerAmounts cumulative amounts) = partsOf owner cumulative + partsOf owner amounts := by
  refine sum_added (fun part => if part.1 = owner then part.2 else 0) (fun key first second => ?_) cumulative amounts ordered
  simp only
  split <;> omega

theorem total_added (cumulative amounts : List (Int × Int)) (ordered : Ordered cumulative) :
    ((addOwnerAmounts cumulative amounts).map Prod.snd).sum = (cumulative.map Prod.snd).sum + (amounts.map Prod.snd).sum :=
  sum_added Prod.snd (fun _ _ _ => rfl) cumulative amounts ordered

theorem shares_of_keys (keys : List Int) (distinct : keys.Nodup) (allotted : List (Settlement × Int))
    (owners : ∀ part ∈ allotted, part.1.ownerUserID ∈ keys) : (keys.map fun key => allottedFrom key allotted).sum = allottedTotal allotted := by
  induction allotted with
  | nil => simp [allottedFrom, allottedTotal]
  | cons part rest ih =>
      have here := parts_of_keys keys distinct (fun _ => part.2) part.1.ownerUserID
      rw [if_pos (owners part (by simp)), partsOf, List.map_map] at here
      have others := ih fun other member => owners other (by simp [member])
      have split : (keys.map fun key => allottedFrom key (part :: rest)) =
          keys.map fun key => (if key = part.1.ownerUserID then part.2 else 0) + allottedFrom key rest := by
        refine List.map_congr_left fun key _ => ?_
        simp only [allottedFrom, List.map_cons, List.sum_cons, eq_comm]
      have whole : allottedTotal (part :: rest) = part.2 + allottedTotal rest := by rw [allottedTotal, List.map_cons, List.sum_cons, allottedTotal]
      rw [split, List.sum_map_add, others, whole]
      exact congrArg (· + allottedTotal rest) here

theorem owner_totals_total (allotted : List (Settlement × Int)) : ((ownerTotals allotted).map Prod.snd).sum = allottedTotal allotted := by
  have distinct := owner_totals_keys allotted ▸ owner_totals_distinct allotted
  rw [← shares_of_keys _ distinct allotted fun part member => by
    rw [List.mem_insertionSort, List.mem_dedup]
    exact List.mem_map_of_mem member]
  rw [ownerTotals, List.map_map]
  exact congrArg List.sum (List.map_congr_left fun owner _ => allotted_filter owner allotted)

-- What was reclaimed of one owner's settlements in the scope of a task, whatever their status.
def ReleaseFilter.InScope (filter : ReleaseFilter) (item : Settlement) : Prop :=
  filter.Covers item.ownerUserID ∧ (filter.startTimestamp > 0 → item.createdAt ≥ filter.startTimestamp) ∧
    (filter.endTimestamp > 0 → item.createdAt < filter.endTimestamp + 1)

instance (filter : ReleaseFilter) (item : Settlement) : Decidable (filter.InScope item) := inferInstanceAs (Decidable (_ ∧ _))

def scopeReclaimed (settlements : Table Settlement) (filter : ReleaseFilter) (owner : Int) : Int :=
  settlements.total fun item => if filter.InScope item ∧ item.ownerUserID = owner then item.reclaimedAmount else 0

theorem RowsReclaimed.scope_reclaimed {market after : Market} {allotted : List (Settlement × Int)} (reclaimed : RowsReclaimed market allotted after)
    (filter : ReleaseFilter) (selected : ∀ part ∈ allotted, filter.Selects part.1) (owner : Int) :
    scopeReclaimed after.settlements filter owner = scopeReclaimed market.settlements filter owner + allottedFrom owner allotted := by
  rw [scopeReclaimed, reclaimed.totals, scopeReclaimed, allottedFrom]
  congr 2
  refine List.map_congr_left fun part partIn => ?_
  obtain ⟨_, _, covers, starts, ends⟩ := selected part partIn
  have before : filter.InScope part.1 := ⟨covers, starts, ends⟩
  have after : filter.InScope (reclaimRow part.2 part.1) := ⟨covers, starts, ends⟩
  simp only [before, after, true_and]
  by_cases here : part.1.ownerUserID = owner
  · have still : (reclaimRow part.2 part.1).ownerUserID = owner := here
    rw [if_pos still, if_pos here, if_pos here, reclaimRow]
    simp only
    omega
  · have still : (reclaimRow part.2 part.1).ownerUserID ≠ owner := here
    rw [if_neg still, if_neg here, if_neg here, Int.sub_self]

def selectedTotal (filter : ReleaseFilter) (market : Market) : Int := ((reclaimSettlementQuery filter market).map Settlement.reclaimable).sum

-- What the next batch of a task allots where batches are bounded.
def nextAllotment (task : IncomeReclaim) (market : Market) : List (Settlement × Int) :=
  allot (some (task.filter.maxAmount - task.amount)) ((reclaimSettlementQuery task.filter market).take reclaimBatchSize)

-- One batch of a task with a maximum that is not reached and that the selection covers.
structure BatchTaken (env : WalletEnv) (task : IncomeReclaim) (market after : Market) (allotted : List (Settlement × Int)) : Prop where
  reclaimed : RowsReclaimed market allotted after
  selected : ∀ part ∈ allotted, task.filter.Selects part.1
  positive : 0 < allottedTotal allotted
  ends : (batchStatus env task allotted = .completed ∧ task.amount + allottedTotal allotted = task.filter.maxAmount) ∨
    (batchStatus env task allotted = .running ∧ task.amount + allottedTotal allotted < task.filter.maxAmount ∧ env.postgres = false)

theorem batch_taken (env : WalletEnv) (task : IncomeReclaim) (market after : Market) (allotted : List (Settlement × Int))
    (due : task.amount < task.filter.maxAmount) (limited : 0 < task.filter.maxAmount)
    (enough : task.filter.maxAmount - task.amount ≤ selectedTotal task.filter market) (reclaimAll : Bool)
    (ran : reclaimAllotted env task reclaimAll market = (.ok allotted, after)) : BatchTaken env task market after allotted := by
  obtain ⟨reclaimed, selected⟩ := reclaimed_by_task env task reclaimAll market after allotted ran
  by_cases postgres : env.postgres = true
  · rw [reclaimAllotted, if_pos postgres] at ran
    simp only [limited, if_true, Tx.ran_bind, Tx.ran_view, Tx.ran_reject, Tx.ran_pure] at ran
    obtain ⟨_, _, ⟨rfl, rfl⟩, gathered, _, _, _, _, ⟨whole, rfl⟩, rfl, rfl⟩ := ran
    have total : allottedTotal gathered = task.filter.maxAmount - task.amount := by
      by_contra different
      exact whole ⟨trivial, different⟩
    exact ⟨reclaimed, selected, by omega, .inl ⟨if_pos (.inl postgres), by omega⟩⟩
  · have plain : env.postgres = false := by simpa using postgres
    have same := ran
    rw [row_batch_ran env plain task reclaimAll market limited] at same
    obtain ⟨isAllotted, _⟩ := Prod.mk.inj same
    have isBatch : nextAllotment task market = allotted := Except.ok.inj isAllotted
    have left : ∀ item ∈ (reclaimSettlementQuery task.filter market).take reclaimBatchSize, 0 < item.reclaimable := fun item member =>
      query_left task.filter market item (List.mem_of_mem_take member)
    have nonneg : 0 ≤ task.filter.maxAmount - task.amount := by omega
    have total : allottedTotal (nextAllotment task market) = _ := allot_some_total _ _ left nonneg
    have paged := paged_query task.filter market (task.filter.maxAmount - task.amount) nonneg
    have items : (reclaimSettlementQuery task.filter market).take reclaimBatchSize ≠ [] := by
      intro nothing
      have none : reclaimSettlementQuery task.filter market = [] := by simpa [reclaimBatchSize, List.take_eq_nil_iff] using nothing
      rw [selectedTotal, none] at enough
      simp only [List.map_nil, List.sum_nil] at enough
      omega
    have there := sum_reclaimable_pos _ left items
    rw [isBatch] at total
    refine ⟨reclaimed, selected, by omega, ?_⟩
    by_cases reached : task.amount + allottedTotal allotted = task.filter.maxAmount
    · exact .inl ⟨if_pos (.inr (.inl ⟨limited, reached⟩)), reached⟩
    · have within : task.amount + allottedTotal allotted < task.filter.maxAmount := by omega
      -- A batch that ends before the maximum has used up a full page.
      have length : allotted.length = min reclaimBatchSize (reclaimSettlementQuery task.filter market).length := by
        rw [← isBatch]
        exact (paged.short (by rw [← isBatch] at within; unfold nextAllotment at within; omega)).1
      have full : ¬ allotted.length < reclaimBatchSize := by
        intro small
        have all : (reclaimSettlementQuery task.filter market).take reclaimBatchSize = reclaimSettlementQuery task.filter market :=
          List.take_of_length_le (by omega)
        rw [all] at total
        unfold selectedTotal at enough
        omega
      refine .inr ⟨if_neg ?_, within, plain⟩
      rintro (isPostgres | ⟨_, isReached⟩ | small)
      · exact postgres isPostgres
      · exact reached isReached
      · exact full small

def IncomeReclaim.batched (env : WalletEnv) (task : IncomeReclaim) (allotted : List (Settlement × Int)) : IncomeReclaim :=
  { task with
    status := batchStatus env task allotted, count := task.count + allotted.length, amount := task.amount + allottedTotal allotted,
    batchNumber := task.batchNumber + 1, ownerAmounts := addOwnerAmounts task.ownerAmounts (ownerTotals allotted) }

-- The outcomes of a call on a waiting or running task with a maximum.
inductive LimitedRan (env : WalletEnv) (task : IncomeReclaim) (treasury : Treasury) : Treasury → Prop where
  | failed (reclaims : Table IncomeReclaim) (saved : Table.Replaced treasury.reclaims reclaims task { task with status := .failed }) :
      LimitedRan env task treasury { treasury with reclaims }
  | batch (allotted : List (Settlement × Int)) (market : Market) (wallet : Wallet) (reclaims : Table IncomeReclaim)
      (taken : BatchTaken env task treasury.market market allotted)
      (paid : debitOwners env task.id (batchStage (task.batchNumber + 1)) (ownerTotals allotted) market.wallet = (.ok (), wallet))
      (saved : Table.Replaced treasury.reclaims reclaims task (task.batched env allotted)) :
      LimitedRan env task treasury { market := { market with wallet }, reclaims }

def IncomeReclaim.Active (task : IncomeReclaim) : Prop := task.status ≠ .completed ∧ task.status ≠ .failed

theorem limited_tx (env : WalletEnv) (treasury : Treasury) (task : IncomeReclaim) (member : task ∈ treasury.reclaims.rows) (active : task.Active)
    (limited : 0 < task.filter.maxAmount) :
    processIncomeReclaimTx env task.id treasury =
      if selectedTotal task.filter treasury.market < task.filter.maxAmount - task.amount then saveTask { task with status := .failed } treasury
      else runBatch env task (decide (selectedTotal task.filter treasury.market = task.filter.maxAmount - task.amount)) treasury := by
  have waiting : ¬ (task.status = .completed ∨ task.status = .failed) := not_or.mpr active
  rw [processIncomeReclaimTx, Tx.bind_ran (lock_task_ran treasury task member), if_neg waiting, if_pos limited]
  have read : onMarket (reclaimableAmountTx task.filter) treasury = (.ok (selectedTotal task.filter treasury.market), treasury) := rfl
  rw [Tx.bind_ran read]
  split <;> rfl

theorem ran_limited (env : WalletEnv) (treasury : Treasury) (task : IncomeReclaim) (member : task ∈ treasury.reclaims.rows) (active : task.Active)
    (limited : 0 < task.filter.maxAmount) (due : task.amount < task.filter.maxAmount) :
    LimitedRan env task treasury (processIncomeReclaimTask env task.id treasury) := by
  have outcome := limited_tx env treasury task member active limited
  rw [processIncomeReclaimTask]
  split
  · rename_i _ after ran
    rw [outcome] at ran
    split at ran
    · obtain ⟨reclaims, rfl, saved⟩ := ran_save_task task _ _ _ ran member rfl rfl
      exact .failed reclaims saved
    · rename_i enough
      simp only [runBatch, Tx.ran_bind, ran_on_market] at ran
      obtain ⟨allotted, _, ⟨market, rows, rfl⟩, continued⟩ := ran
      have taken := batch_taken env task treasury.market market allotted due limited (Int.not_lt.mp enough) _ rows
      split at continued
      · rename_i nothing
        have positive := taken.positive
        rw [nothing] at positive
        exact absurd positive (lt_irrefl 0)
      · simp only [Tx.ran_bind, ran_on_market, ran_on_wallet] at continued
        obtain ⟨_, _, ⟨_, ⟨wallet, paid, rfl⟩, rfl⟩, saving⟩ := continued
        obtain ⟨reclaims, rfl, saved⟩ := ran_save_task task _ _ _ saving member rfl rfl
        exact .batch allotted market wallet reclaims taken paid saved
  · obtain ⟨reclaims, marked, saved⟩ := marked_eligible task (fun status => status ≠ .completed) .failed treasury member (by simpa using active.1)
    rw [marked]
    exact .failed reclaims saved

-- A call whose selection and wallets cover the next batch commits it.
theorem limited_covered (env : WalletEnv) (plain : env.postgres = false) (treasury : Treasury) (task : IncomeReclaim) (member : task ∈ treasury.reclaims.rows)
    (active : task.Active) (limited : 0 < task.filter.maxAmount) (due : task.amount < task.filter.maxAmount)
    (enough : task.filter.maxAmount - task.amount ≤ selectedTotal task.filter treasury.market) (wallet : Wallet)
    (paid : debitOwners env task.id (batchStage (task.batchNumber + 1)) (ownerTotals (nextAllotment task treasury.market)) treasury.market.wallet =
      (.ok (), wallet)) :
    ∃ reclaims, processIncomeReclaimTask env task.id treasury =
        { market := { marking treasury.market (nextAllotment task treasury.market) with wallet }, reclaims } ∧
      Table.Replaced treasury.reclaims reclaims task (task.batched env (nextAllotment task treasury.market)) := by
  have outcome := limited_tx env treasury task member active limited
  have rows := row_batch_ran env plain task (decide (selectedTotal task.filter treasury.market = task.filter.maxAmount - task.amount)) treasury.market limited
  have taken := batch_taken env task treasury.market _ _ due limited enough _ rows
  have some : nextAllotment task treasury.market ≠ [] := by
    intro nothing
    have positive := taken.positive
    unfold nextAllotment at nothing
    rw [nothing] at positive
    exact absurd positive (lt_irrefl 0)
  obtain ⟨reclaims, saving, saved⟩ := save_task_ran task (task.batched env (nextAllotment task treasury.market))
    { treasury with market := { marking treasury.market (nextAllotment task treasury.market) with wallet } } member rfl rfl
  have ran : runBatch env task (decide (selectedTotal task.filter treasury.market = task.filter.maxAmount - task.amount)) treasury =
      (.ok (), { market := { marking treasury.market (nextAllotment task treasury.market) with wallet }, reclaims }) := by
    have first : onMarket (reclaimAllotted env task
        (decide (selectedTotal task.filter treasury.market = task.filter.maxAmount - task.amount))) treasury =
        (.ok (nextAllotment task treasury.market), { treasury with market := marking treasury.market (nextAllotment task treasury.market) }) :=
      (ran_on_market _ _ _ _).mpr ⟨_, rows, rfl⟩
    have second : onMarket (onWallet (debitOwners env task.id (batchStage (task.batchNumber + 1)) (ownerTotals (nextAllotment task treasury.market))))
        { treasury with market := marking treasury.market (nextAllotment task treasury.market) } =
        (.ok (), { treasury with market := { marking treasury.market (nextAllotment task treasury.market) with wallet } }) :=
      (ran_on_market _ _ _ _).mpr ⟨_, (ran_on_wallet _ _ _ _).mpr ⟨_, paid, rfl⟩, rfl⟩
    rw [runBatch, Tx.bind_ran first, if_neg some, Tx.bind_ran second]
    exact saving
  refine ⟨reclaims, ?_, saved⟩
  rw [processIncomeReclaimTask, outcome, if_neg (Int.not_lt.mpr enough), ran]

-- What the calls of a run have taken from the owners and marked on the settlements in scope.
structure Tally where
  debited : Int → Int := fun _ => 0
  marked : Int → Int := fun _ => 0

def Tally.after (tally : Tally) (filter : ReleaseFilter) (before after : Treasury) : Tally where
  debited owner := tally.debited owner +
    (debitedByReclaims after.market.wallet.ledger owner - debitedByReclaims before.market.wallet.ledger owner)
  marked owner := tally.marked owner +
    (scopeReclaimed after.market.settlements filter owner - scopeReclaimed before.market.settlements filter owner)

-- Between two calls others may release, reclaim and pay as they like, but not under the keys of the task or on its row.
structure Unrelated (task : IncomeReclaim) (before after : Treasury) : Prop where
  receipt : ∀ row ∈ before.reclaims.rows, row.id = task.id → row ∈ after.reclaims.rows
  housed : Housed before.market.wallet.ledger → Housed after.market.wallet.ledger
  holds : ∀ reservation ∈ after.market.wallet.ledger.reservations.rows, ∀ batch owner,
    reservation.idempotencyKey = reclaimHoldKey task.id (batchStage batch) owner →
      ∃ old ∈ before.market.wallet.ledger.reservations.rows, old.idempotencyKey = reservation.idempotencyKey

inductive ReclaimRun (env : WalletEnv) (allowed : Treasury → Prop) (task : IncomeReclaim) (start : Treasury) : Nat → Tally → Treasury → Prop where
  | start : ReclaimRun env allowed task start 0 {} start
  | others {calls : Nat} {tally : Tally} {before after : Treasury} (run : ReclaimRun env allowed task start calls tally before)
      (unrelated : Unrelated task before after) : ReclaimRun env allowed task start calls tally after
  | called {calls : Nat} {tally : Tally} {before : Treasury} (run : ReclaimRun env allowed task start calls tally before) (allows : allowed before) :
      ReclaimRun env allowed task start (calls + 1) (tally.after task.filter before (processIncomeReclaimTask env task.id before))
        (processIncomeReclaimTask env task.id before)

-- Before a call on a task that has committed a batch: the selection has what is left of the maximum, and the wallets pay the next batch.
def Sustained (env : WalletEnv) (task : IncomeReclaim) (treasury : Treasury) : Prop :=
  ∀ row ∈ treasury.reclaims.rows, row.id = task.id → row.status = .running →
    row.filter.maxAmount - row.amount ≤ selectedTotal row.filter treasury.market ∧
      (debitOwners env row.id (batchStage (row.batchNumber + 1)) (ownerTotals (nextAllotment row treasury.market)) treasury.market.wallet).1.isOk = true

-- A task has taken what its receipt says, and ends with its maximum or with nothing.
structure Exact (env : WalletEnv) (task : IncomeReclaim) (calls : Nat) (tally : Tally) (treasury : Treasury) (row : IncomeReclaim) : Prop where
  member : row ∈ treasury.reclaims.rows
  same : row.id = task.id ∧ row.filter = task.filter
  ordered : Ordered row.ownerAmounts
  total : (row.ownerAmounts.map Prod.snd).sum = row.amount
  debited : ∀ owner, tally.debited owner = partsOf owner row.ownerAmounts
  marked : ∀ owner, tally.marked owner = partsOf owner row.ownerAmounts
  housed : Housed treasury.market.wallet.ledger
  holds : ∀ reservation ∈ treasury.market.wallet.ledger.reservations.rows, ∀ batch owner,
    reservation.idempotencyKey = reclaimHoldKey task.id (batchStage batch) owner → batch ≤ row.batchNumber
  state : (row.status = .pending ∧ row.amount = 0 ∧ row.ownerAmounts = [] ∧ calls = 0) ∨
    (row.status = .running ∧ calls ≤ row.amount ∧ row.amount < task.filter.maxAmount ∧ env.postgres = false) ∨
    (row.status = .completed ∧ row.amount = task.filter.maxAmount) ∨ (row.status = .failed ∧ row.ownerAmounts = [])

theorem Exact.others {env : WalletEnv} {task row : IncomeReclaim} {calls : Nat} {tally : Tally} {before after : Treasury}
    (exact : Exact env task calls tally before row) (unrelated : Unrelated task before after) : Exact env task calls tally after row := by
  refine ⟨unrelated.receipt row exact.member exact.same.1, exact.same, exact.ordered, exact.total, exact.debited, exact.marked,
    unrelated.housed exact.housed, fun reservation member batch owner key => ?_, exact.state⟩
  obtain ⟨old, oldIn, sameKey⟩ := unrelated.holds reservation member batch owner key
  exact exact.holds old oldIn batch owner (sameKey.trans key)

theorem Exact.batch {env : WalletEnv} {task row : IncomeReclaim} {calls : Nat} {tally : Tally} {treasury : Treasury} {market : Market} {wallet : Wallet}
    {reclaims : Table IncomeReclaim} {allotted : List (Settlement × Int)} (exact : Exact env task calls tally treasury row)
    (within : calls ≤ row.amount) (taken : BatchTaken env row treasury.market market allotted)
    (paid : debitOwners env row.id (batchStage (row.batchNumber + 1)) (ownerTotals allotted) market.wallet = (.ok (), wallet))
    (saved : Table.Replaced treasury.reclaims reclaims row (row.batched env allotted)) :
    Exact env task (calls + 1) (tally.after task.filter treasury { market := { market with wallet }, reclaims })
      { market := { market with wallet }, reclaims } (row.batched env allotted) := by
  have sameWallet : market.wallet = treasury.market.wallet := by
    obtain ⟨_, rfl⟩ := taken.reclaimed.frame
    rfl
  rw [sameWallet] at paid
  have money := owners_debited env row.id _ _ _ _ paid (owner_totals_distinct allotted) (fun part _ reservation member used => ?_) exact.housed
  · have shares : ∀ owner, partsOf owner (row.batched env allotted).ownerAmounts = partsOf owner row.ownerAmounts + allottedFrom owner allotted := by
      intro owner
      rw [IncomeReclaim.batched, parts_added owner _ _ exact.ordered, owner_totals_parts]
    have positive := taken.positive
    refine ⟨saved.new_mem, exact.same, ordered_added _ _ exact.ordered, ?_, fun owner => ?_, fun owner => ?_, money.housed,
      fun reservation member batch owner key => ?_, ?_⟩
    · rw [IncomeReclaim.batched, total_added _ _ exact.ordered, exact.total, owner_totals_total]
    · have before := exact.debited owner
      simp only [Tally.after, shares, money.debited, owner_totals_parts]
      omega
    · have before := exact.marked owner
      have rows := taken.reclaimed.scope_reclaimed row.filter taken.selected owner
      rw [exact.same.2] at rows
      simp only [Tally.after, shares, rows]
      omega
    · rcases money.holds reservation member with ⟨old, oldIn, sameKey⟩ | ⟨part, _, isNew⟩
      · exact (exact.holds old oldIn batch owner (sameKey.trans key)).trans (Nat.le_succ _)
      · have numbers := (batch_hold_injective _ _ _ _ _ _ (key.symm.trans isNew)).2.1
        exact numbers.le
    · rw [← exact.same.2]
      rcases taken.ends with ⟨completed, whole⟩ | ⟨running, short, plain⟩
      · exact .inr (.inr (.inl ⟨completed, whole⟩))
      · refine .inr (.inl ⟨running, ?_, short, plain⟩)
        simp only [IncomeReclaim.batched]
        push_cast
        omega
  · have number := exact.holds reservation member (row.batchNumber + 1) part.1 (exact.same.1 ▸ used)
    omega

theorem Exact.failed {env : WalletEnv} {task row : IncomeReclaim} {calls : Nat} {tally : Tally} {treasury : Treasury} {reclaims : Table IncomeReclaim}
    (exact : Exact env task calls tally treasury row) (nothing : row.ownerAmounts = [])
    (saved : Table.Replaced treasury.reclaims reclaims row { row with status := .failed }) :
    Exact env task (calls + 1) (tally.after task.filter treasury { treasury with reclaims }) { treasury with reclaims } { row with status := .failed } := by
  refine ⟨saved.new_mem, exact.same, exact.ordered, exact.total, fun owner => ?_, fun owner => ?_, exact.housed, exact.holds,
    .inr (.inr (.inr ⟨rfl, nothing⟩))⟩
  · have before := exact.debited owner
    simp only [Tally.after]
    omega
  · have before := exact.marked owner
    simp only [Tally.after]
    omega

-- A call on an ended task changes nothing.
theorem ended_ran (env : WalletEnv) (treasury : Treasury) (task : IncomeReclaim) (member : task ∈ treasury.reclaims.rows)
    (ended : task.status = .completed ∨ task.status = .failed) : processIncomeReclaimTask env task.id treasury = treasury := by
  have ran : processIncomeReclaimTx env task.id treasury = (.ok (), treasury) := by
    rw [processIncomeReclaimTx, Tx.bind_ran (lock_task_ran treasury task member), if_pos ended]
    rfl
  rw [processIncomeReclaimTask, ran]

theorem Exact.idle {env : WalletEnv} {task row : IncomeReclaim} {calls : Nat} {tally : Tally} {treasury : Treasury}
    (exact : Exact env task calls tally treasury row) (ended : row.status = .completed ∨ row.status = .failed) :
    Exact env task (calls + 1) (tally.after task.filter treasury treasury) treasury row := by
  refine ⟨exact.member, exact.same, exact.ordered, exact.total, fun owner => ?_, fun owner => ?_, exact.housed, exact.holds, ?_⟩
  · have before := exact.debited owner
    simp only [Tally.after]
    omega
  · have before := exact.marked owner
    simp only [Tally.after]
    omega
  · rcases exact.state with ⟨pending, _⟩ | ⟨running, _⟩ | done
    · simp [pending] at ended
    · simp [running] at ended
    · exact .inr (.inr done)

theorem Exact.called {env : WalletEnv} {task row : IncomeReclaim} {calls : Nat} {tally : Tally} {treasury : Treasury}
    (exact : Exact env task calls tally treasury row) (limited : 0 < task.filter.maxAmount) (sustained : Sustained env task treasury) :
    ∃ next, Exact env task (calls + 1) (tally.after task.filter treasury (processIncomeReclaimTask env task.id treasury))
      (processIncomeReclaimTask env task.id treasury) next := by
  have rowLimited : 0 < row.filter.maxAmount := by rw [exact.same.2]; exact limited
  rcases exact.state with ⟨pending, untaken, nothing, none⟩ | ⟨running, within, due, plain⟩ | done
  · -- The first call takes a batch or nothing.
    have ran := ran_limited env treasury row exact.member ⟨by simp [pending], by simp [pending]⟩ rowLimited (by rw [untaken]; exact rowLimited)
    rw [exact.same.1] at ran
    generalize processIncomeReclaimTask env task.id treasury = after at ran
    cases ran with
    | failed reclaims saved => exact ⟨_, exact.failed nothing saved⟩
    | batch allotted market wallet reclaims taken paid saved => exact ⟨_, exact.batch (by omega) taken paid saved⟩
  · -- A later one takes a batch.
    obtain ⟨enough, covered⟩ := sustained row exact.member exact.same.1 running
    have active : row.Active := ⟨by simp [running], by simp [running]⟩
    have rowDue : row.amount < row.filter.maxAmount := by rw [exact.same.2]; exact due
    obtain ⟨wallet, paid⟩ : ∃ wallet, debitOwners env row.id (batchStage (row.batchNumber + 1)) (ownerTotals (nextAllotment row treasury.market))
        treasury.market.wallet = (.ok (), wallet) := by
      obtain ⟨_, paid⟩ := Tx.ran_of_accepted _ _ covered
      exact ⟨_, paid⟩
    obtain ⟨reclaims, ran, saved⟩ := limited_covered env plain treasury row exact.member active rowLimited rowDue enough wallet paid
    have taken := batch_taken env row treasury.market _ _ rowDue rowLimited enough true (row_batch_ran env plain row true treasury.market rowLimited)
    rw [exact.same.1] at ran
    rw [ran]
    exact ⟨_, exact.batch within taken paid saved⟩
  · have ended : row.status = .completed ∨ row.status = .failed := done.imp And.left And.left
    have ran := ended_ran env treasury row exact.member ended
    rw [exact.same.1] at ran
    rw [ran]
    exact ⟨row, exact.idle ended⟩

theorem exact_run (env : WalletEnv) (task : IncomeReclaim) (start : Treasury) (limited : 0 < task.filter.maxAmount)
    (begins : Exact env task 0 {} start task) (calls : Nat) (tally : Tally) (final : Treasury)
    (run : ReclaimRun env (Sustained env task) task start calls tally final) : ∃ row, Exact env task calls tally final row := by
  induction run with
  | start => exact ⟨task, begins⟩
  | others _ unrelated ih =>
      obtain ⟨row, exact⟩ := ih
      exact ⟨row, exact.others unrelated⟩
  | called _ sustained ih =>
      obtain ⟨row, exact⟩ := ih
      exact exact.called limited sustained

-- Nothing was held under the keys of a task before its first call.
def Unheld (task : IncomeReclaim) (ledger : Ledger) : Prop :=
  ∀ reservation ∈ ledger.reservations.rows, ∀ batch owner, reservation.idempotencyKey ≠ reclaimHoldKey task.id (batchStage batch) owner

-- Settlements of one unit each, more than a batch holds.
def unitRow (number : Nat) : Settlement :=
  { id := toString number, requestID := toString number, groupID := "g", ownerUserID := 7, consumerUserID := 9, billingSource := "wallet",
    consumerAmount := 1, settlementGrossAmount := 1, platformCommission := 0, transactionFee := 0, referralRebatePending := false,
    creditPackGrantedQuota := 0, creditPackPaidQuota := 0, creditPackChannelShareBPS := 0, creditPackDiscountAmount := 0,
    creditPackPlatformSubsidyAmount := 0, ownerNetAmount := 1, status := .released, pendingAccountID := "pending", createdAt := number }

def unitRows (count : Nat) : Table Settlement where
  rows := (List.range count).map unitRow
  unique := by
    rw [List.pairwise_map]
    refine List.nodup_range.imp fun different clash => ?_
    rcases clash with same | same
    · exact different (nat_text_injective _ _ same)
    · exact different (nat_text_injective _ _ same)

def unitFilter (maxAmount : Int) : ReleaseFilter := { ownerUserIDs := [7], maxAmount }

def unitTask (id : String) (maxAmount : Int) : IncomeReclaim :=
  { id, fingerprint := unitFilter maxAmount, filter := unitFilter maxAmount, status := .pending }

def unitWallet : Wallet := ⟨Ledger.empty, ⟨[{ id := 1 }, { id := 7, claudeQuota := 10000 }], by decide⟩, .empty, .empty⟩

def unitTreasury (count : Nat) : Treasury where
  market := { emptyMarket with wallet := unitWallet, settlements := unitRows count }
  reclaims := ⟨[unitTask "first" 5001, unitTask "second" 1], by decide⟩

def Uniform (items : List Settlement) : Prop := ∀ item ∈ items, item.reclaimable = 1 ∧ item.ownerUserID = 7

theorem uniform_total {items : List Settlement} (uniform : Uniform items) : (items.map Settlement.reclaimable).sum = items.length := by
  induction items with
  | nil => rfl
  | cons item rest ih =>
      have here := (uniform item (by simp)).1
      have others := ih fun other member => uniform other (by simp [member])
      rw [List.map_cons, List.sum_cons, here, others, List.length_cons]
      omega

theorem uniform_owners {items : List Settlement} (uniform : Uniform items) (limit : Int) (some : allot (Option.some limit) items ≠ []) :
    ownerTotals (allot (Option.some limit) items) = [(7, allottedTotal (allot (Option.some limit) items))] := by
  have owned : ∀ part ∈ allot (Option.some limit) items, part.1.ownerUserID = 7 := fun part member =>
    (uniform part.1 ((allot_items _ _).subset (List.mem_map_of_mem member))).2
  generalize allot (Option.some limit) items = allotted at *
  have keys : (allotted.map fun part => part.1.ownerUserID) = List.replicate allotted.length 7 := by
    rw [List.eq_replicate_iff]
    exact ⟨List.length_map _, List.forall_mem_map.mpr owned⟩
  have all : (allotted.filter fun part => part.1.ownerUserID = 7) = allotted :=
    List.filter_eq_self.mpr fun part member => decide_eq_true (owned part member)
  rw [ownerTotals, keys, List.replicate_dedup (by simpa using some)]
  simp [all]

-- A call whose next batch is no more than what is left uses the batch up.
structure UnitCall (task : IncomeReclaim) (size : Int) (wallet : Wallet) (before after : Treasury) (next : IncomeReclaim) : Prop where
  wallet : after.market.wallet = wallet
  query : reclaimSettlementQuery task.filter after.market = (reclaimSettlementQuery task.filter before.market).drop reclaimBatchSize
  saved : Table.Replaced before.reclaims after.reclaims task next
  same : next.id = task.id ∧ next.filter = task.filter
  amount : next.amount = task.amount + size
  active : task.amount + size < task.filter.maxAmount → next.Active

theorem unit_call (treasury : Treasury) (task : IncomeReclaim) (size : Int) (wallet : Wallet) (member : task ∈ treasury.reclaims.rows) (active : task.Active)
    (limited : 0 < task.filter.maxAmount) (uniform : Uniform (reclaimSettlementQuery task.filter treasury.market))
    (batch : (((reclaimSettlementQuery task.filter treasury.market).take reclaimBatchSize).length : Int) = size) (positive : 0 < size)
    (within : size ≤ task.filter.maxAmount - task.amount)
    (enough : task.filter.maxAmount - task.amount ≤ (reclaimSettlementQuery task.filter treasury.market).length)
    (paid : debitOwners (sampleWalletEnv false) task.id (batchStage (task.batchNumber + 1)) [(7, size)] treasury.market.wallet = (.ok (), wallet)) :
    ∃ next, UnitCall task size wallet treasury (processIncomeReclaimTask (sampleWalletEnv false) task.id treasury) next := by
  have part : Uniform ((reclaimSettlementQuery task.filter treasury.market).take reclaimBatchSize) := fun item itemIn =>
    uniform item (List.mem_of_mem_take itemIn)
  have left : ∀ item ∈ (reclaimSettlementQuery task.filter treasury.market).take reclaimBatchSize, 0 < item.reclaimable := fun item itemIn =>
    query_left task.filter treasury.market item (List.mem_of_mem_take itemIn)
  have sum := uniform_total part
  have whole : nextAllotment task treasury.market = allot none ((reclaimSettlementQuery task.filter treasury.market).take reclaimBatchSize) :=
    allot_whole _ _ left (by omega)
  have total : allottedTotal (nextAllotment task treasury.market) = size := by rw [whole, allotted_none_total]; omega
  have some : nextAllotment task treasury.market ≠ [] := by
    intro nothing
    rw [nothing] at total
    simp only [allottedTotal, List.map_nil, List.sum_nil] at total
    omega
  have owners : ownerTotals (nextAllotment task treasury.market) = [(7, size)] := (uniform_owners part _ some).trans (by
    have same : allottedTotal (allot (Option.some (task.filter.maxAmount - task.amount))
        ((reclaimSettlementQuery task.filter treasury.market).take reclaimBatchSize)) = size := total
    rw [same])
  have covers : task.filter.maxAmount - task.amount ≤ selectedTotal task.filter treasury.market := by
    rw [selectedTotal, uniform_total uniform]
    exact enough
  have due : task.amount < task.filter.maxAmount := by omega
  obtain ⟨reclaims, ran, saved⟩ := limited_covered (sampleWalletEnv false) rfl treasury task member active limited due covers wallet (owners ▸ paid)
  have taken := batch_taken (sampleWalletEnv false) task treasury.market _ _ due limited covers true
    (row_batch_ran (sampleWalletEnv false) rfl task true treasury.market limited)
  have amount : (task.batched (sampleWalletEnv false) (nextAllotment task treasury.market)).amount = task.amount + size :=
    congrArg (task.amount + ·) total
  rw [ran]
  refine ⟨_, rfl, ?_, saved, ⟨rfl, rfl⟩, amount, fun short => ?_⟩
  · rw [whole]
    exact query_after_prefix task.filter treasury.market reclaimBatchSize
  · rcases taken.ends with ⟨_, reached⟩ | ⟨running, _⟩
    · have same : task.amount + size = task.filter.maxAmount := amount.symm.trans reached
      omega
    · have status : (task.batched (sampleWalletEnv false) (nextAllotment task treasury.market)).status = .running := running
      exact ⟨by rw [status]; simp, by rw [status]; simp⟩

theorem unit_query (count : Nat) (market : Market) (rows : market.settlements = unitRows count) (maxAmount : Int) :
    Uniform (reclaimSettlementQuery (unitFilter maxAmount) market) ∧ (reclaimSettlementQuery (unitFilter maxAmount) market).length = count := by
  have listed : market.settlements.rows = (List.range count).map unitRow := congrArg Table.rows rows
  constructor
  · intro item member
    have row := ((mem_reclaim_query _ _ _).mp member).1
    rw [listed] at row
    obtain ⟨number, _, rfl⟩ := List.mem_map.mp row
    exact ⟨rfl, rfl⟩
  · have all : (market.settlements.rows.filter fun item => (unitFilter maxAmount).Selects item) = market.settlements.rows := by
      refine List.filter_eq_self.mpr fun item member => decide_eq_true ?_
      rw [listed] at member
      obtain ⟨number, _, rfl⟩ := List.mem_map.mp member
      simp [ReleaseFilter.Selects, ReleaseFilter.Covers, unitRow, unitFilter]
    rw [reclaimSettlementQuery, List.length_insertionSort, all, listed, List.length_map, List.length_range]

-- The batch of the first task and the one of the second, with the wallets they leave behind.
structure TwoDebits (paid later : Wallet) : Prop where
  first : debitOwners (sampleWalletEnv false) "first" (batchStage 1) [(7, 5000)] unitWallet = (.ok (), paid)
  second : debitOwners (sampleWalletEnv false) "second" (batchStage 1) [(7, 1)] paid = (.ok (), later)

theorem two_debits : ∃ paid later, TwoDebits paid later := by
  have accepted : ((debitOwners (sampleWalletEnv false) "first" (batchStage 1) [(7, 5000)] >>= fun _ =>
      debitOwners (sampleWalletEnv false) "second" (batchStage 1) [(7, 1)]) unitWallet).1.isOk = true := by decide +kernel
  obtain ⟨_, ran⟩ := Tx.ran_of_accepted _ _ accepted
  obtain ⟨_, paid, first, second⟩ := (Tx.ran_bind ..).mp ran
  exact ⟨paid, _, first, second⟩

section

variable {paid later : Wallet} (debits : TwoDebits paid later)
include debits

theorem TwoDebits.first_debited : OwnersDebited unitWallet "first" (batchStage 1) [(7, 5000)] paid :=
  owners_debited (sampleWalletEnv false) "first" (batchStage 1) [(7, 5000)] unitWallet paid debits.first (by simp)
    (fun part _ => by simp [unitWallet, Ledger.empty]) (by unfold Housed; decide)

theorem TwoDebits.second_debited : OwnersDebited paid "second" (batchStage 1) [(7, 1)] later := by
  have money := debits.first_debited
  refine owners_debited (sampleWalletEnv false) "second" (batchStage 1) [(7, 1)] paid later debits.second (by simp)
    (fun part _ reservation member key => ?_) money.housed
  rcases money.holds reservation member with old | ⟨other, _, isFirst⟩
  · simp [unitWallet, Ledger.empty] at old
  · exact absurd (batch_hold_injective _ _ _ _ _ _ (key.symm.trans isFirst)).1 (by decide)

-- What the second task does is none of the first one's business.
theorem later_unrelated (before after : Treasury) (wallet : before.market.wallet = paid) (next : IncomeReclaim)
    (call : UnitCall (unitTask "second" 1) 1 later before after next) : Unrelated (unitTask "first" 5001) before after := by
  have money := debits.second_debited
  refine ⟨fun row member named => ?_, fun _ => call.wallet ▸ money.housed, fun reservation member batch owner key => ?_⟩
  · rcases call.saved.kept row member with rfl | kept
    · exact absurd named (by decide)
    · exact kept
  · rw [call.wallet] at member
    rw [wallet]
    rcases money.holds reservation member with old | ⟨part, _, isSecond⟩
    · exact old
    · exact absurd (batch_hold_injective _ _ _ _ _ _ (key.symm.trans isSecond)).1 (by decide)

end

theorem scarce_call (treasury : Treasury) (task : IncomeReclaim) (member : task ∈ treasury.reclaims.rows) (active : task.Active)
    (limited : 0 < task.filter.maxAmount) (scarce : selectedTotal task.filter treasury.market < task.filter.maxAmount - task.amount) (env : WalletEnv) :
    ∃ reclaims, processIncomeReclaimTask env task.id treasury = { treasury with reclaims } ∧
      Table.Replaced treasury.reclaims reclaims task { task with status := .failed } := by
  obtain ⟨reclaims, saving, saved⟩ := save_task_ran task { task with status := .failed } treasury member rfl rfl
  refine ⟨reclaims, ?_, saved⟩
  rw [processIncomeReclaimTask, limited_tx env treasury task member active limited, if_pos scarce, saving]

theorem first_batch_kept (start : Treasury) (settlements : start.market.settlements = unitRows (reclaimBatchSize + 1))
    (wallet : start.market.wallet = unitWallet) (tasks : start.reclaims.rows = [unitTask "first" 5001, unitTask "second" 1]) :
    ∃ tally row, ReclaimRun (sampleWalletEnv false) (fun _ => True) (unitTask "first" 5001) start 2 tally
        (processIncomeReclaimTask (sampleWalletEnv false) "first" (processIncomeReclaimTask (sampleWalletEnv false) "second"
          (processIncomeReclaimTask (sampleWalletEnv false) "first" start))) ∧
      row ∈ (processIncomeReclaimTask (sampleWalletEnv false) "first" (processIncomeReclaimTask (sampleWalletEnv false) "second"
        (processIncomeReclaimTask (sampleWalletEnv false) "first" start))).reclaims.rows ∧
      row.id = "first" ∧ row.status = .failed ∧ row.amount = 5000 ∧ tally.debited 7 = 5000 := by
  obtain ⟨paid, later, debits⟩ := two_debits
  obtain ⟨uniform, length⟩ := unit_query (reclaimBatchSize + 1) start.market settlements 5001
  obtain ⟨first, call⟩ := unit_call start (unitTask "first" 5001) 5000 paid (tasks ▸ by simp) ⟨by decide, by decide⟩ (by decide) uniform
    (by rw [List.length_take]; have size := length; simp only [unitTask]; rw [size]; decide) (by decide) (by decide)
    (by have size := length; simp only [unitTask]; rw [size]; decide) (wallet ▸ debits.first)
  have firstID : (unitTask "first" 5001).id = "first" := rfl
  have secondID : (unitTask "second" 1).id = "second" := rfl
  rw [firstID] at call
  have run : ReclaimRun (sampleWalletEnv false) (fun _ => True) (unitTask "first" 5001) start _ _ _ := .called .start trivial
  rw [firstID] at run
  generalize processIncomeReclaimTask (sampleWalletEnv false) "first" start = charged at call run
  -- The second task finds the one unit behind the first batch.
  have behind : reclaimSettlementQuery (unitTask "second" 1).filter charged.market =
      (reclaimSettlementQuery (unitFilter 5001) start.market).drop reclaimBatchSize := call.query
  have waiting : unitTask "second" 1 ∈ charged.reclaims.rows := by
    rcases call.saved.kept (unitTask "second" 1) (tasks ▸ by simp) with same | kept
    · exact absurd (congrArg IncomeReclaim.id same) (by decide)
    · exact kept
  have one : (reclaimSettlementQuery (unitTask "second" 1).filter charged.market).length = 1 := by
    rw [behind, List.length_drop, length]
    decide
  obtain ⟨second, secondCall⟩ := unit_call charged (unitTask "second" 1) 1 later waiting ⟨by decide, by decide⟩ (by decide)
    (behind ▸ fun item member => uniform item (List.mem_of_mem_drop member)) (by rw [List.length_take, one]; decide) (by decide) (by decide)
    (by rw [one]; decide) (call.wallet ▸ debits.second)
  have apart := later_unrelated debits charged _ call.wallet second secondCall
  rw [secondID] at secondCall apart
  generalize processIncomeReclaimTask (sampleWalletEnv false) "second" charged = shared at secondCall apart
  -- Nothing is left for the second batch of the first task.
  have taken : first ∈ shared.reclaims.rows := apart.receipt first call.saved.new_mem call.same.1
  have empty : selectedTotal first.filter shared.market = 0 := by
    have query : reclaimSettlementQuery first.filter shared.market = [] := by
      rw [call.same.2]
      have tail : reclaimSettlementQuery (unitFilter 5001) shared.market =
          (reclaimSettlementQuery (unitTask "second" 1).filter charged.market).drop reclaimBatchSize := secondCall.query
      exact tail.trans (List.drop_eq_nil_of_le (by rw [one]; decide))
    rw [selectedTotal, query]
    rfl
  have amount : first.amount = 5000 := call.amount
  have maximum : first.filter.maxAmount = 5001 := by rw [call.same.2]; rfl
  obtain ⟨reclaims, ran, saved⟩ := scarce_call shared first taken (call.active (by decide)) (by omega) (by omega) (sampleWalletEnv false)
  have named : first.id = "first" := call.same.1
  rw [named] at ran
  refine ⟨_, { first with status := .failed }, .called (.others run apart) trivial, ?_, named, rfl, amount, ?_⟩
  · rw [ran]
    exact saved.new_mem
  · have money : debitedByReclaims paid.ledger 7 = debitedByReclaims unitWallet.ledger 7 + 5000 := debits.first_debited.debited 7
    simp only [Tally.after, firstID, ran, call.wallet, wallet, money]
    omega

end CodeGo.Marketplace
