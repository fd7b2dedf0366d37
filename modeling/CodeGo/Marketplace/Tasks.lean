import CodeGo.Marketplace.Rows

set_option autoImplicit false

namespace CodeGo.Marketplace

open Relational Text Billing

@[simp] theorem ran_on_market {α : Type} (work : MarketTx α) (treasury after : Treasury) (result : α) :
    onMarket work treasury = (.ok result, after) ↔ ∃ market, work treasury.market = (.ok result, market) ∧ { treasury with market } = after :=
  Tx.ran_zoom _ _ _ _ _ _

theorem clash_of_task_id (first second : IncomeReclaim) (same : first.id = second.id) : Clash first second := same

theorem ran_lock_task (operationID : String) (treasury after : Treasury) (task : IncomeReclaim)
    (ran : lockTask operationID treasury = (.ok task, after)) : treasury = after ∧ task ∈ treasury.reclaims.rows ∧ task.id = operationID := by
  simp only [lockTask, Tx.ran_bind, Tx.ran_view] at ran
  obtain ⟨_, _, ⟨rfl, rfl⟩, continued⟩ := ran
  cases looked : treasury.reclaims.find? fun row => row.id = operationID with
  | none => simp [looked] at continued
  | some row =>
      simp only [looked, Tx.ran_pure] at continued
      obtain ⟨rfl, rfl⟩ := continued
      obtain ⟨member, named⟩ := Table.mem_of_find? _ _ _ looked
      exact ⟨rfl, member, of_decide_eq_true named⟩

theorem lock_task_ran (treasury : Treasury) (task : IncomeReclaim) (member : task ∈ treasury.reclaims.rows) :
    lockTask task.id treasury = (.ok task, treasury) := by
  have found := Table.find?_of_mem treasury.reclaims (fun row => decide (row.id = task.id)) task member (decide_eq_true rfl)
    fun row hit => clash_of_task_id _ _ (of_decide_eq_true hit).symm
  rw [lockTask, Tx.bind_view, found]
  rfl

-- A saved task replaces the row it was read from.
theorem ran_save_task (task next : IncomeReclaim) (treasury after : Treasury) (ran : saveTask next treasury = (.ok (), after))
    (member : task ∈ treasury.reclaims.rows) (named : next.id = task.id) (printed : next.fingerprint = task.fingerprint) :
    ∃ reclaims, after = { treasury with reclaims } ∧ Table.Replaced treasury.reclaims reclaims task next := by
  rw [saveTask, Tx.ran_edit] at ran
  subst ran
  refine ⟨_, rfl, ?_⟩
  have replaced := Table.replaced_update treasury.reclaims (fun row => decide (row.id = next.id))
    (fun row => { next with id := row.id, fingerprint := row.fingerprint }) (fun _ => rfl) task member (by simp [named])
    fun other hit => clash_of_task_id _ _ (named.symm.trans (of_decide_eq_true hit).symm)
  have written : { next with id := task.id, fingerprint := task.fingerprint } = next := by rw [← named, ← printed]
  rwa [written] at replaced

theorem save_task_ran (task next : IncomeReclaim) (treasury : Treasury) (member : task ∈ treasury.reclaims.rows) (named : next.id = task.id)
    (printed : next.fingerprint = task.fingerprint) :
    ∃ reclaims, saveTask next treasury = (.ok (), { treasury with reclaims }) ∧ Table.Replaced treasury.reclaims reclaims task next := by
  have ran : saveTask next treasury = (.ok (), (saveTask next treasury).2) := rfl
  obtain ⟨reclaims, final, saved⟩ := ran_save_task task next treasury _ ran member named printed
  exact ⟨reclaims, ran.trans (by rw [final]), saved⟩

-- What a committed run of a task over its selection has done.
inductive BatchRan (env : WalletEnv) (task : IncomeReclaim) (treasury : Treasury) : Treasury → Prop where
  | drained (market : Market) (reclaims : Table IncomeReclaim) (reclaimed : RowsReclaimed treasury.market [] market)
      (saved : Table.Replaced treasury.reclaims reclaims task { task with status := .completed }) :
      BatchRan env task treasury { market, reclaims }
  | debited (allotted : List (Settlement × Int)) (market : Market) (wallet : Wallet) (reclaims : Table IncomeReclaim) (next : IncomeReclaim)
      (reclaimed : RowsReclaimed treasury.market allotted market) (selected : ∀ part ∈ allotted, task.filter.Selects part.1)
      (paid : debitOwners env task.id (batchStage (task.batchNumber + 1)) (ownerTotals allotted) market.wallet = (.ok (), wallet))
      (isNext : next = { task with
        status := batchStatus env task allotted, count := task.count + allotted.length, amount := task.amount + allottedTotal allotted,
        batchNumber := task.batchNumber + 1, ownerAmounts := addOwnerAmounts task.ownerAmounts (ownerTotals allotted) })
      (saved : Table.Replaced treasury.reclaims reclaims task next) : BatchRan env task treasury { market := { market with wallet }, reclaims }

theorem ran_batch (env : WalletEnv) (task : IncomeReclaim) (reclaimAll : Bool) (treasury after : Treasury)
    (ran : runBatch env task reclaimAll treasury = (.ok (), after)) (member : task ∈ treasury.reclaims.rows) : BatchRan env task treasury after := by
  simp only [runBatch, Tx.ran_bind, ran_on_market] at ran
  obtain ⟨allotted, _, ⟨market, rows, rfl⟩, continued⟩ := ran
  obtain ⟨reclaimed, selected⟩ := reclaimed_by_task env task reclaimAll treasury.market market allotted rows
  split at continued
  · rename_i nothing
    subst nothing
    obtain ⟨reclaims, rfl, saved⟩ := ran_save_task task _ _ _ continued member rfl rfl
    exact .drained market reclaims reclaimed saved
  · simp only [Tx.ran_bind, ran_on_market, ran_on_wallet] at continued
    obtain ⟨_, _, ⟨_, ⟨wallet, paid, rfl⟩, rfl⟩, saving⟩ := continued
    obtain ⟨reclaims, rfl, saved⟩ := ran_save_task task _ _ _ saving member rfl rfl
    exact .debited allotted market wallet reclaims _ reclaimed selected paid rfl saved

inductive ProcessRan (env : WalletEnv) (operationID : String) (treasury : Treasury) : Treasury → Prop where
  | idle : ProcessRan env operationID treasury treasury
  | refused (task : IncomeReclaim) (reclaims : Table IncomeReclaim) (active : task.status ≠ .completed ∧ task.status ≠ .failed)
      (named : task.id = operationID)
      (saved : Table.Replaced treasury.reclaims reclaims task { task with status := .failed }) : ProcessRan env operationID treasury { treasury with reclaims }
  | batch (task : IncomeReclaim) (after : Treasury) (member : task ∈ treasury.reclaims.rows) (named : task.id = operationID)
      (active : task.status ≠ .completed ∧ task.status ≠ .failed) (ran : BatchRan env task treasury after) : ProcessRan env operationID treasury after

theorem ran_process (env : WalletEnv) (operationID : String) (treasury after : Treasury)
    (ran : processIncomeReclaimTx env operationID treasury = (.ok (), after)) : ProcessRan env operationID treasury after := by
  rw [processIncomeReclaimTx, Tx.ran_bind] at ran
  obtain ⟨task, _, locked, ran⟩ := ran
  obtain ⟨rfl, member, named⟩ := ran_lock_task _ _ _ _ locked
  split at ran
  · rw [Tx.ran_pure] at ran
    exact ran.2 ▸ .idle
  · rename_i active
    rw [not_or] at active
    split at ran
    · simp only [reclaimableAmountTx, Tx.ran_bind, ran_on_market, Tx.ran_view] at ran
      obtain ⟨_, _, ⟨_, ⟨rfl, rfl⟩, rfl⟩, ran⟩ := ran
      split at ran
      · obtain ⟨reclaims, rfl, saved⟩ := ran_save_task task _ _ _ ran member rfl rfl
        exact .refused task reclaims active named saved
      · exact .batch task after member named active (ran_batch env task _ _ _ ran member)
    · exact .batch task after member named active (ran_batch env task _ _ _ ran member)

-- What a committed charge read, took and wrote down.
structure ChargeRan (env : WalletEnv) (task : IncomeReclaim) (before after : Treasury) (balances shares amounts : List (Int × Int))
    (locked : Wallet) (next : IncomeReclaim) : Prop where
  read : lockMarketplaceReclaimBalancesTx env task.filter.ownerUserIDs before.market.wallet = (.ok balances, locked)
  isShares : shares = chargeShares (ownerTotals (allot none (reclaimSettlementQuery task.filter before.market))) balances
  affordable : task.filter.maxAmount ≤ (shares.map Prod.snd).sum
  isAmounts : amounts = chargeAmounts (if task.filter.maxAmount > 0 then task.filter.maxAmount else (shares.map Prod.snd).sum) shares
  paid : debitOwners env task.id "direct" amounts locked = (.ok (), after.market.wallet)
  rest : after.market = { before.market with wallet := after.market.wallet }
  isNext : next = { task with
    filter := { task.filter with auditRemaining := amounts }, amount := task.amount + (amounts.map Prod.snd).sum,
    status := if task.amount + (amounts.map Prod.snd).sum = 0 then .completed else .charged, ownerAmounts := amounts }
  saved : Table.Replaced before.reclaims after.reclaims task next

theorem ran_charge (env : WalletEnv) (task : IncomeReclaim) (treasury after : Treasury) (member : task ∈ treasury.reclaims.rows)
    (ran : chargeDirectReclaimTx env task treasury = (.ok (), after)) :
    ∃ balances shares amounts locked next, ChargeRan env task treasury after balances shares amounts locked next := by
  simp only [chargeDirectReclaimTx, Tx.ran_bind, ran_on_market, ran_on_wallet, Tx.ran_view, Tx.ran_reject] at ran
  obtain ⟨_, _, ⟨_, ⟨rfl, rfl⟩, rfl⟩, balances, _, ⟨_, ⟨locked, read, rfl⟩, rfl⟩, _, _, ⟨affordable, rfl⟩, _, _,
    ⟨_, ⟨wallet, paid, rfl⟩, rfl⟩, saving⟩ := ran
  obtain ⟨reclaims, rfl, saved⟩ := ran_save_task task _ _ _ saving member rfl rfl
  exact ⟨balances, _, _, locked, _, read, rfl, Int.not_lt.mp affordable, rfl, paid, rfl, rfl, saved⟩

-- The two committed steps of a direct task.
inductive DirectRan (env : WalletEnv) (operationID : String) (treasury : Treasury) : Treasury → Prop where
  | idle : DirectRan env operationID treasury treasury
  | charged (task : IncomeReclaim) (balances : List (Int × Int)) (locked wallet : Wallet) (amounts : List (Int × Int)) (total : Int)
      (reclaims : Table IncomeReclaim) (next : IncomeReclaim) (named : task.id = operationID) (waiting : task.status = .debitPending)
      (limited : task.filter.direct = true ∧ task.filter.ownerUserIDs ≠ [])
      (read : lockMarketplaceReclaimBalancesTx env task.filter.ownerUserIDs treasury.market.wallet = (.ok balances, locked))
      (isAmounts : amounts = chargeAmounts total
        (chargeShares (ownerTotals (allot none (reclaimSettlementQuery task.filter treasury.market))) balances))
      (paid : debitOwners env task.id "direct" amounts locked = (.ok (), wallet))
      (isNext : next = { task with
        filter := { task.filter with auditRemaining := amounts }, amount := task.amount + (amounts.map Prod.snd).sum,
        status := if task.amount + (amounts.map Prod.snd).sum = 0 then .completed else .charged, ownerAmounts := amounts })
      (saved : Table.Replaced treasury.reclaims reclaims task next) :
      DirectRan env operationID treasury { market := { treasury.market with wallet }, reclaims }
  | drained (task : IncomeReclaim) (reclaims : Table IncomeReclaim) (named : task.id = operationID) (due : task.status = .charged)
      (nothing : ∀ part ∈ task.filter.auditRemaining, part.2 ≤ 0)
      (saved : Table.Replaced treasury.reclaims reclaims task { task with status := .completed }) :
      DirectRan env operationID treasury { treasury with reclaims }
  | audited (task : IncomeReclaim) (owner remaining : Int) (allotted : List (Settlement × Int)) (market : Market)
      (reclaims : Table IncomeReclaim) (next : IncomeReclaim) (named : task.id = operationID) (due : task.status = .charged)
      (first : task.filter.auditRemaining.find? (fun part => part.2 > 0) = some (owner, remaining))
      (reclaimed : RowsReclaimed treasury.market allotted market)
      (selected : ∀ part ∈ allotted, ReleaseFilter.Selects { task.filter with ownerUserIDs := [owner] } part.1)
      (taken : 0 < allottedTotal allotted) (within : allottedTotal allotted ≤ remaining)
      (isNext : next = { task with
        filter := { task.filter with auditRemaining := auditRest owner (allottedTotal allotted) task.filter.auditRemaining },
        count := task.count + allotted.length, batchNumber := task.batchNumber + 1,
        status := if auditRest owner (allottedTotal allotted) task.filter.auditRemaining = [] then .completed else task.status })
      (saved : Table.Replaced treasury.reclaims reclaims task next) : DirectRan env operationID treasury { market, reclaims }

theorem ran_direct (env : WalletEnv) (operationID : String) (treasury after : Treasury)
    (ran : processDirectReclaimTx env operationID treasury = (.ok (), after)) : DirectRan env operationID treasury after := by
  rw [processDirectReclaimTx, Tx.ran_bind] at ran
  obtain ⟨task, _, locked, ran⟩ := ran
  obtain ⟨rfl, member, named⟩ := ran_lock_task _ _ _ _ locked
  split at ran
  · rw [Tx.ran_pure] at ran
    exact ran.2 ▸ .idle
  · rename_i direct
    rw [Tx.ran_bind] at ran
    obtain ⟨_, _, passed, ran⟩ := ran
    rw [Tx.ran_reject] at passed
    obtain ⟨limited, rfl⟩ := passed
    rw [not_or, Bool.not_eq_false] at limited
    split at ran
    · rename_i waiting
      obtain ⟨balances, _, amounts, lockedWallet, next, charge⟩ := ran_charge env task _ _ member ran
      obtain ⟨read, rfl, _, isAmounts, paid, rest, isNext, saved⟩ := charge
      obtain ⟨market, reclaims⟩ := after
      simp only at rest
      rw [rest]
      exact .charged task balances lockedWallet _ amounts _ reclaims next named waiting limited read isAmounts paid isNext saved
    · rename_i notWaiting
      have due : task.status = .charged := by
        by_contra notCharged
        exact direct ⟨notWaiting, notCharged⟩
      unfold auditDirectReclaimTx at ran
      cases first : task.filter.auditRemaining.find? fun part => part.2 > 0 with
      | none =>
          simp only [first] at ran
          obtain ⟨reclaims, rfl, saved⟩ := ran_save_task task _ _ _ ran member rfl rfl
          refine .drained task reclaims named due (fun part partIn => ?_) saved
          rw [List.find?_eq_none] at first
          simpa using first part partIn
      | some part =>
          obtain ⟨owner, remaining⟩ := part
          simp only [first, Tx.ran_bind, ran_on_market, Tx.ran_view, Tx.ran_reject] at ran
          obtain ⟨_, _, ⟨_, ⟨rfl, rfl⟩, rfl⟩, _, _, ⟨market, rows, rfl⟩, _, _, ⟨matched, rfl⟩, saving⟩ := ran
          obtain ⟨reclaimed, selected⟩ := reclaimed_from_query _ _ _ treasury.market market rows (List.take_sublist _ _)
          obtain ⟨reclaims, rfl, saved⟩ := ran_save_task task _ _ _ saving member rfl rfl
          push Not at matched
          exact .audited task owner remaining _ market reclaims _ named due first reclaimed selected matched.1 matched.2 rfl saved

-- No other outstanding task covers one of the owners.
def Unclaimed (operationID : String) (filter : ReleaseFilter) (reclaims : Table IncomeReclaim) : Prop :=
  ∀ task ∈ reclaims.rows, task.id ≠ operationID → task.status.Outstanding → ∀ owner ∈ filter.ownerUserIDs, ¬ task.filter.Covers owner

theorem ran_check_direct (operationID : String) (filter : ReleaseFilter) (treasury after : Treasury)
    (ran : checkDirectReclaim operationID filter treasury = (.ok (), after)) :
    treasury = after ∧ (filter.direct = true → Unclaimed operationID filter treasury.reclaims) := by
  unfold checkDirectReclaim at ran
  split at ran
  · simp only [checkOutstandingDirectReclaimsTx, Tx.ran_bind, Tx.ran_view, Tx.ran_reject] at ran
    obtain ⟨_, _, ⟨rfl, rfl⟩, free, rfl⟩ := ran
    refine ⟨rfl, fun _ task taskIn other outstanding owner ownerIn covers => free ⟨task, ?_, owner, ownerIn, covers⟩⟩
    simpa using ⟨taskIn, other, outstanding⟩
  · rename_i indirect
    rw [Tx.ran_pure] at ran
    exact ⟨ran.2, fun direct => (indirect direct).elim⟩

inductive CreateRan (operationID : String) (filter : ReleaseFilter) (treasury : Treasury) : Treasury → Prop where
  | kept : CreateRan operationID filter treasury treasury
  | resumed (existing : IncomeReclaim) (reclaims : Table IncomeReclaim) (named : existing.id = operationID) (failed : existing.status = .failed)
      (printed : existing.fingerprint = filter) (free : filter.direct = true → Unclaimed operationID filter treasury.reclaims)
      (saved : Table.Replaced treasury.reclaims reclaims existing { existing with status := initialTaskStatus filter }) :
      CreateRan operationID filter treasury { treasury with reclaims }
  | inserted (task : IncomeReclaim) (reclaims : Table IncomeReclaim)
      (isTask : task = { id := operationID, fingerprint := filter, filter, status := initialTaskStatus filter })
      (fresh : ∀ row ∈ treasury.reclaims.rows, row.id ≠ operationID) (free : filter.direct = true → Unclaimed operationID filter reclaims)
      (appended : reclaims.rows = treasury.reclaims.rows ++ [task]) : CreateRan operationID filter treasury { treasury with reclaims }

theorem ran_create_task (operationID : String) (filter : ReleaseFilter) (treasury after : Treasury) (task : IncomeReclaim)
    (ran : createTask operationID filter treasury = (.ok task, after)) : CreateRan operationID filter treasury after := by
  simp only [createTask, Tx.ran_bind, Tx.ran_reject, Tx.ran_view] at ran
  obtain ⟨_, _, ⟨_, rfl⟩, _, _, ⟨rfl, rfl⟩, ran⟩ := ran
  cases looked : treasury.reclaims.find? fun row => row.id = operationID with
  | some existing =>
      obtain ⟨member, named⟩ := Table.mem_of_find? _ _ _ looked
      have isOperation : existing.id = operationID := of_decide_eq_true named
      simp only [looked, resumeTask, Tx.ran_bind, Tx.ran_reject] at ran
      obtain ⟨_, _, ⟨printed, rfl⟩, ran⟩ := ran
      rw [Decidable.not_not] at printed
      split at ran
      · rename_i failed
        simp only [Tx.ran_bind, Tx.ran_pure] at ran
        obtain ⟨_, _, checked, _, _, saving, _, rfl⟩ := ran
        obtain ⟨rfl, free⟩ := ran_check_direct _ _ _ _ checked
        obtain ⟨reclaims, rfl, saved⟩ := ran_save_task existing _ _ _ saving member rfl rfl
        exact .resumed existing reclaims isOperation failed printed (isOperation ▸ free) saved
      · rw [Tx.ran_pure] at ran
        exact ran.2 ▸ .kept
  | none =>
      have fresh : ∀ row ∈ treasury.reclaims.rows, row.id ≠ operationID := by
        intro row rowIn same
        rw [Table.find?_eq_none_iff] at looked
        simpa [same] using looked row rowIn
      simp only [looked, Tx.ran_bind, Tx.ran_view] at ran
      obtain ⟨_, _, ⟨rfl, rfl⟩, ran⟩ := ran
      cases accepted : treasury.reclaims.insert? { id := operationID, fingerprint := filter, filter, status := initialTaskStatus filter } with
      | none => simp [accepted] at ran
      | some reclaims =>
          simp only [accepted, Tx.ran_bind, Tx.ran_edit, Tx.ran_pure] at ran
          obtain ⟨_, _, rfl, _, _, checked, _, rfl⟩ := ran
          obtain ⟨rfl, free⟩ := ran_check_direct _ _ _ _ checked
          exact .inserted _ reclaims rfl fresh free ((Table.insert?_eq_some_iff _ _ _).mp accepted).2

-- Creating a task touches the market only to draw an id.
theorem ran_create_reclaim (env : WalletEnv) (filter : ReleaseFilter) (treasury after : Treasury) (task : IncomeReclaim)
    (ran : createIncomeReclaimTask env filter treasury = (.ok task, after)) :
    ∃ operationID market, Drafted treasury.market market ∧ market.settlements = treasury.market.settlements ∧
      CreateRan operationID (normalizedFilter filter) { treasury with market } after := by
  simp only [createIncomeReclaimTask, Tx.ran_bind, Tx.ran_reject] at ran
  obtain ⟨_, _, ⟨_, rfl⟩, operationID, middle, naming, created⟩ := ran
  have creating := ran_create_task operationID _ _ _ _ created
  unfold reclaimOperationID at naming
  split at naming
  · simp only [ran_on_market, ran_on_wallet, ran_on_ledger, ran_get_uuid] at naming
    obtain ⟨_, ⟨_, ⟨_, ⟨rfl, rfl⟩, rfl⟩, rfl⟩, rfl⟩ := naming
    have drawn := Unmoved.drawn treasury.market.wallet.ledger (treasury.market.wallet.ledger.drawn + 1)
    refine ⟨_, _, ?_, ?_, creating⟩
    · exact ⟨.refl _, routine_unmoved drawn⟩
    · rfl
  · rw [Tx.ran_pure] at naming
    obtain ⟨rfl, rfl⟩ := naming
    exact ⟨_, _, .refl _, rfl, creating⟩

end CodeGo.Marketplace
