import CodeGo.Marketplace.Debits

set_option autoImplicit false

namespace CodeGo.Marketplace

open Relational Text Billing

/- The books of the reclaim tasks: whatever a task has taken from an owner is either marked on
   the owner's settlements or still to be marked by a charged task. -/

def reclaimedTotal (settlements : Table Settlement) (owner : Int) : Int :=
  settlements.total fun item => if item.ownerUserID = owner then item.reclaimedAmount else 0

def IncomeReclaim.unaudited (task : IncomeReclaim) (owner : Int) : Int :=
  if task.status = .charged then partsOf owner task.filter.auditRemaining else 0

def unauditedTotal (reclaims : Table IncomeReclaim) (owner : Int) : Int := reclaims.total fun task => task.unaudited owner

-- The settlements among which the audit of a direct task looks for one owner's share.
def ReleaseFilter.scope (filter : ReleaseFilter) (owner : Int) : ReleaseFilter := { filter with ownerUserIDs := [owner] }

def scopeWeight (filter : ReleaseFilter) (owner : Int) (item : Settlement) : Int :=
  if (filter.scope owner).Selects item then item.reclaimable else 0

def scopeTotal (settlements : Table Settlement) (filter : ReleaseFilter) (owner : Int) : Int := settlements.total (scopeWeight filter owner)

-- A task whose debits can never be made again.
def IncomeReclaim.Done (task : IncomeReclaim) : Prop :=
  task.status = .completed ∨ (task.status = .charged ∧ task.filter.auditRemaining ≠ [])

-- What is left to audit of a charged task is still there to be marked.
structure ChargedTask (settlements : Table Settlement) (task : IncomeReclaim) : Prop where
  direct : task.filter.direct = true
  owners : ∀ part ∈ task.filter.auditRemaining, part.1 ∈ task.filter.ownerUserIDs
  distinct : (task.filter.auditRemaining.map Prod.fst).Nodup
  positive : ∀ part ∈ task.filter.auditRemaining, 0 < part.2
  covered : ∀ part ∈ task.filter.auditRemaining, part.2 ≤ scopeTotal settlements task.filter part.1

structure Registered (reclaims : Table IncomeReclaim) : Prop where
  printed : ∀ task ∈ reclaims.rows, task.filter.ownerUserIDs = task.fingerprint.ownerUserIDs ∧ task.filter.direct = task.fingerprint.direct
  counted : ∀ task ∈ reclaims.rows, 0 ≤ task.amount
  apart : ∀ first ∈ reclaims.rows, ∀ second ∈ reclaims.rows, first.id ≠ second.id → first.status.Outstanding → second.status.Outstanding →
    first.filter.direct = true → second.filter.direct = true → ∀ owner ∈ first.filter.ownerUserIDs, owner ∉ second.filter.ownerUserIDs

structure HoldsKnown (reservations : Table BillingReservation) (reclaims : Table IncomeReclaim) : Prop where
  batches : ∀ reservation ∈ reservations.rows, ∀ taskID batchNumber owner,
    reservation.idempotencyKey = reclaimHoldKey taskID (batchStage batchNumber) owner →
      ∃ task ∈ reclaims.rows, task.id = taskID ∧ batchNumber ≤ task.batchNumber
  directs : ∀ reservation ∈ reservations.rows, ∀ taskID owner, reservation.idempotencyKey = reclaimHoldKey taskID "direct" owner →
    ∃ task ∈ reclaims.rows, task.id = taskID ∧ task.Done

structure ReclaimBooks (treasury : Treasury) : Prop where
  housed : Housed treasury.market.wallet.ledger
  registered : Registered treasury.reclaims
  holds : HoldsKnown treasury.market.wallet.ledger.reservations treasury.reclaims
  charged : ∀ task ∈ treasury.reclaims.rows, task.status = .charged → ChargedTask treasury.market.settlements task
  balanced : ∀ owner, debitedByReclaims treasury.market.wallet.ledger owner =
    reclaimedTotal treasury.market.settlements owner + unauditedTotal treasury.reclaims owner

section TaskTable

variable {reclaims next : Table IncomeReclaim} {task saved : IncomeReclaim}

theorem task_eq_of_id (first second : IncomeReclaim) (firstIn : first ∈ reclaims.rows) (secondIn : second ∈ reclaims.rows)
    (same : first.id = second.id) : first = second := Table.eq_of_clash _ _ _ firstIn secondIn (clash_of_task_id _ _ same)

-- A task keeps what it was created with.
structure SameTask (task saved : IncomeReclaim) : Prop where
  id : saved.id = task.id
  fingerprint : saved.fingerprint = task.fingerprint
  owners : saved.filter.ownerUserIDs = task.filter.ownerUserIDs
  direct : saved.filter.direct = task.filter.direct

theorem Registered.replaced (registered : Registered reclaims) (replaced : Table.Replaced reclaims next task saved) (same : SameTask task saved)
    (counted : 0 ≤ saved.amount)
    (claims : saved.status.Outstanding → saved.filter.direct = true → task.status.Outstanding ∨ Unclaimed task.id saved.filter reclaims) :
    Registered next := by
  have clear : saved.status.Outstanding → saved.filter.direct = true → ∀ other ∈ reclaims.rows, other.id ≠ task.id → other.status.Outstanding →
      other.filter.direct = true → ∀ owner ∈ saved.filter.ownerUserIDs, owner ∉ other.filter.ownerUserIDs := by
    intro outstanding direct other otherIn different otherOutstanding otherDirect owner ownerIn
    rcases claims outstanding direct with before | free
    · exact registered.apart task replaced.old_mem other otherIn different.symm before otherOutstanding (same.direct ▸ direct) otherDirect owner
        (same.owners ▸ ownerIn)
    · exact fun listed => free other otherIn different otherOutstanding owner ownerIn (.inr listed)
  refine ⟨fun row member => ?_, fun row member => ?_, fun first firstIn second secondIn different firstOut secondOut firstDirect secondDirect => ?_⟩
  · rcases replaced.mem row member with rfl | ⟨old, _⟩
    · rw [same.owners, same.direct, same.fingerprint]
      exact registered.printed task replaced.old_mem
    · exact registered.printed row old
  · rcases replaced.mem row member with rfl | ⟨old, _⟩
    · exact counted
    · exact registered.counted row old
  · rcases replaced.mem first firstIn with rfl | ⟨firstOld, _⟩
    · rcases replaced.mem second secondIn with rfl | ⟨secondOld, _⟩
      · exact (different rfl).elim
      · exact clear firstOut firstDirect second secondOld (by rw [← same.id]; exact different.symm) secondOut secondDirect
    · rcases replaced.mem second secondIn with rfl | ⟨secondOld, _⟩
      · intro owner listed saves
        exact clear secondOut secondDirect first firstOld (by rwa [← same.id]) firstOut firstDirect owner saves listed
      · exact registered.apart first firstOld second secondOld different firstOut secondOut firstDirect secondDirect

theorem HoldsKnown.replaced {reservations : Table BillingReservation} (holds : HoldsKnown reservations reclaims)
    (replaced : Table.Replaced reclaims next task saved) (same : SameTask task saved) (batches : task.batchNumber ≤ saved.batchNumber)
    (done : task.Done → saved.Done) : HoldsKnown reservations next := by
  refine ⟨fun reservation member taskID batchNumber owner key => ?_, fun reservation member taskID owner key => ?_⟩
  · obtain ⟨row, rowIn, named, within⟩ := holds.batches reservation member taskID batchNumber owner key
    rcases replaced.kept row rowIn with rfl | kept
    · exact ⟨saved, replaced.new_mem, same.id.trans named, by omega⟩
    · exact ⟨row, kept, named, within⟩
  · obtain ⟨row, rowIn, named, isDone⟩ := holds.directs reservation member taskID owner key
    rcases replaced.kept row rowIn with rfl | kept
    · exact ⟨saved, replaced.new_mem, same.id.trans named, done isDone⟩
    · exact ⟨row, kept, named, isDone⟩

theorem HoldsKnown.calm {reservations later : Table BillingReservation} (holds : HoldsKnown reservations reclaims)
    (known : ∀ reservation ∈ later.rows, (∃ old ∈ reservations.rows, old.idempotencyKey = reservation.idempotencyKey) ∨
      ¬ StartsWith reclaimHoldFront reservation.idempotencyKey) : HoldsKnown later reclaims := by
  have before : ∀ reservation ∈ later.rows, ∀ taskID stage owner, reservation.idempotencyKey = reclaimHoldKey taskID stage owner →
      ∃ old ∈ reservations.rows, old.idempotencyKey = reclaimHoldKey taskID stage owner := by
    intro reservation member taskID stage owner key
    rcases known reservation member with ⟨old, oldIn, sameKey⟩ | foreign
    · exact ⟨old, oldIn, sameKey.trans key⟩
    · obtain ⟨rest, front, _⟩ := reclaim_hold_front taskID stage owner
      exact (foreign ((key.trans front) ▸ starts_with_append _ _)).elim
  refine ⟨fun reservation member taskID batchNumber owner key => ?_, fun reservation member taskID owner key => ?_⟩
  · obtain ⟨old, oldIn, oldKey⟩ := before reservation member _ _ _ key
    exact holds.batches old oldIn taskID batchNumber owner oldKey
  · obtain ⟨old, oldIn, oldKey⟩ := before reservation member _ _ _ key
    exact holds.directs old oldIn taskID owner oldKey

end TaskTable

theorem Keyed.holds {fronts : List String} {ledger after : Ledger} (keyed : Keyed fronts ledger after) :
    ∀ reservation ∈ after.reservations.rows, (∃ old ∈ ledger.reservations.rows, old.idempotencyKey = reservation.idempotencyKey) ∨
      ¬ StartsWith reclaimHoldFront reservation.idempotencyKey := by
  obtain ⟨ops, moves, fronted⟩ := keyed
  intro reservation member
  rcases moves.reservation_key reservation member with old | ⟨op, opIn, key⟩
  · exact .inl old
  · exact .inr (((fronted op opIn).2 _ key).not_starts (by decide))

-- The market moves pending rows only, and never what was reclaimed of one.
structure PendingMove (item later : Settlement) : Prop where
  pending : item.status = .pending
  id : later.id = item.id
  owner : later.ownerUserID = item.ownerUserID
  reclaimed : later.reclaimedAmount = item.reclaimedAmount

theorem RowDraft.pending_move {item later : Settlement} (draft : RowDraft item later) : PendingMove item later := by
  cases draft with
  | charged _ pending _ _ => exact ⟨pending, rfl, rfl, rfl⟩
  | completed pending => exact ⟨pending, rfl, rfl, rfl⟩
  | dated _ pending => exact ⟨pending, rfl, rfl, rfl⟩

theorem RowClose.pending_move {item later : Settlement} (close : RowClose item later) : PendingMove item later := by
  cases close with
  | released pending _ => exact ⟨pending, rfl, rfl, rfl⟩
  | forfeited pending _ => exact ⟨pending, rfl, rfl, rfl⟩

theorem pending_path {item later : Settlement} (path : Relation.ReflTransGen PendingMove item later) :
    (later = item ∨ item.status = .pending) ∧ later.id = item.id ∧ later.ownerUserID = item.ownerUserID ∧
      later.reclaimedAmount = item.reclaimedAmount := by
  induction path with
  | refl => exact ⟨.inl rfl, rfl, rfl, rfl⟩
  | tail _ move ih =>
      obtain ⟨start, id, owner, reclaimed⟩ := ih
      refine ⟨?_, move.id.trans id, move.owner.trans owner, move.reclaimed.trans reclaimed⟩
      rcases start with rfl | pending
      · exact .inr move.pending
      · exact .inr pending

theorem scope_weight_nonneg (filter : ReleaseFilter) (owner : Int) (item : Settlement) : 0 ≤ scopeWeight filter owner item := by
  unfold scopeWeight
  split
  · rename_i selected
    have left := selected.2.1
    simp only [Settlement.reclaimable]
    omega
  · exact Int.le_refl 0

theorem scope_weight_of_status (filter : ReleaseFilter) (owner : Int) (item : Settlement) (unreleased : item.status ≠ .released) :
    scopeWeight filter owner item = 0 := if_neg fun selected => unreleased selected.1

section MarketMoves

variable {settlements next : Table Settlement} (rows : Evolves PendingMove settlements next)

include rows

theorem reclaimed_total_kept (owner : Int) : reclaimedTotal next owner = reclaimedTotal settlements owner := by
  refine Table.total_eq_successors Settlement.id clash_of_settlement_id _ _ (fun item member => ?_) fun later member => ?_
  · obtain ⟨later, laterIn, path⟩ := rows.kept item member
    obtain ⟨_, id, sameOwner, reclaimed⟩ := pending_path path
    exact ⟨later, laterIn, id, by rw [sameOwner, reclaimed]⟩
  · rcases rows.origin later member with ⟨item, itemIn, path⟩ | ⟨born, facts, path⟩
    · exact .inl ⟨item, itemIn, (pending_path path).2.1.symm⟩
    · refine .inr ?_
      rw [(pending_path path).2.2.2, facts.untouched]
      exact ite_self 0

theorem scope_total_grows (filter : ReleaseFilter) (owner : Int) : scopeTotal settlements filter owner ≤ scopeTotal next filter owner := by
  refine Table.total_le_successors Settlement.id clash_of_settlement_id _ _ (fun item member => ?_)
    fun later _ => .inr (scope_weight_nonneg filter owner later)
  obtain ⟨later, laterIn, path⟩ := rows.kept item member
  obtain ⟨start, id, _⟩ := pending_path path
  refine ⟨later, laterIn, id, ?_⟩
  rcases start with rfl | pending
  · exact Int.le_refl _
  · rw [scope_weight_of_status filter owner item (by simp [pending])]
    exact scope_weight_nonneg filter owner later

end MarketMoves

theorem ChargedTask.grows {settlements next : Table Settlement} {task : IncomeReclaim} (charged : ChargedTask settlements task)
    (grows : ∀ part ∈ task.filter.auditRemaining, scopeTotal settlements task.filter part.1 ≤ scopeTotal next task.filter part.1) :
    ChargedTask next task :=
  ⟨charged.direct, charged.owners, charged.distinct, charged.positive, fun part member => (charged.covered part member).trans (grows part member)⟩

theorem ReclaimBooks.market {treasury : Treasury} {market : Market} (books : ReclaimBooks treasury)
    (keyed : Keyed closingFronts treasury.market.wallet.ledger market.wallet.ledger)
    (rows : Evolves PendingMove treasury.market.settlements market.settlements) : ReclaimBooks { treasury with market } := by
  refine ⟨keyed.calm.housed books.housed, books.registered, books.holds.calm keyed.holds, fun task member charged => ?_, fun owner => ?_⟩
  · exact (books.charged task member charged).grows fun part _ => scope_total_grows rows _ _
  · rw [keyed.calm.debited books.housed, books.balanced, reclaimed_total_kept rows]

theorem ReclaimBooks.market_step {treasury : Treasury} (books : ReclaimBooks treasury) (env : WalletEnv) (ids : ∀ number, Tight (env.uuid number))
    (settled : Settled treasury.market) (op : MarketOp) : ReclaimBooks (treasuryStep env treasury (.market op)) := by
  cases moved_by_market env ids treasury.market settled op with
  | drafted drafted =>
      exact books.market (drafted.routine.mono fun _ member => List.mem_append_left _ member) (drafted.rows.mono fun _ _ => RowDraft.pending_move)
  | closing closing => exact books.market closing.keyed (closing.rows.mono fun _ _ => RowClose.pending_move)

-- A task is saved and nothing else changes.
theorem ReclaimBooks.saved {treasury : Treasury} {reclaims : Table IncomeReclaim} {task next : IncomeReclaim} (books : ReclaimBooks treasury)
    (replaced : Table.Replaced treasury.reclaims reclaims task next) (same : SameTask task next) (counted : next.amount = task.amount)
    (batches : next.batchNumber = task.batchNumber) (finished : next.status ≠ .charged)
    (claims : next.status.Outstanding → next.filter.direct = true → task.status.Outstanding ∨ Unclaimed task.id next.filter treasury.reclaims)
    (audited : ∀ owner, task.unaudited owner = 0) (done : task.Done → next.status = .completed) : ReclaimBooks { treasury with reclaims } := by
  refine ⟨books.housed, books.registered.replaced replaced same (counted ▸ books.registered.counted task replaced.old_mem) claims,
    books.holds.replaced replaced same batches.ge fun isDone => .inl (done isDone), fun row member charged => ?_, fun owner => ?_⟩
  · rcases replaced.mem row member with rfl | ⟨old, _⟩
    · exact (finished charged).elim
    · exact books.charged row old charged
  · have nothing : next.unaudited owner = 0 := if_neg finished
    have total : unauditedTotal reclaims owner = unauditedTotal treasury.reclaims owner := by
      rw [unauditedTotal, unauditedTotal, replaced.total, audited owner, nothing]
      omega
    exact (books.balanced owner).trans (congrArg _ total.symm)

theorem initial_status_not_charged (filter : ReleaseFilter) : initialTaskStatus filter ≠ .charged := by
  unfold initialTaskStatus
  split <;> simp

theorem unaudited_of_status (task : IncomeReclaim) (notCharged : task.status ≠ .charged) (owner : Int) : task.unaudited owner = 0 := if_neg notCharged

theorem ReclaimBooks.inserted {treasury : Treasury} {reclaims : Table IncomeReclaim} {operationID : String} {filter : ReleaseFilter}
    {task : IncomeReclaim} (books : ReclaimBooks treasury)
    (isTask : task = { id := operationID, fingerprint := filter, filter, status := initialTaskStatus filter })
    (free : filter.direct = true → Unclaimed operationID filter reclaims) (appended : reclaims.rows = treasury.reclaims.rows ++ [task]) :
    ReclaimBooks { treasury with reclaims } := by
  have listed : ∀ row, row ∈ reclaims.rows ↔ row ∈ treasury.reclaims.rows ∨ row = task := by simp [appended]
  have notCharged : task.status ≠ .charged := isTask ▸ initial_status_not_charged filter
  have clear : task.filter.direct = true → ∀ other ∈ reclaims.rows, other.id ≠ task.id → other.status.Outstanding →
      ∀ owner ∈ task.filter.ownerUserIDs, owner ∉ other.filter.ownerUserIDs := by
    subst isTask
    exact fun direct other otherIn different outstanding owner ownerIn covers =>
      free direct other otherIn different outstanding owner ownerIn (.inr covers)
  refine ⟨books.housed, ⟨fun row member => ?_, fun row member => ?_, fun first firstIn second secondIn different firstOut secondOut firstDirect
    secondDirect => ?_⟩, ⟨fun reservation member taskID batchNumber owner key => ?_, fun reservation member taskID owner key => ?_⟩,
    fun row member charged => ?_, fun owner => ?_⟩
  · rcases (listed row).mp member with old | rfl
    · exact books.registered.printed row old
    · simp [isTask]
  · rcases (listed row).mp member with old | rfl
    · exact books.registered.counted row old
    · simp [isTask]
  · rcases (listed first).mp firstIn with firstOld | rfl
    · rcases (listed second).mp secondIn with secondOld | rfl
      · exact books.registered.apart first firstOld second secondOld different firstOut secondOut firstDirect secondDirect
      · exact fun owner ownerIn taken => clear secondDirect first firstIn different firstOut owner taken ownerIn
    · exact clear firstDirect second secondIn different.symm secondOut
  · obtain ⟨row, rowIn, facts⟩ := books.holds.batches reservation member taskID batchNumber owner key
    exact ⟨row, (listed row).mpr (.inl rowIn), facts⟩
  · obtain ⟨row, rowIn, facts⟩ := books.holds.directs reservation member taskID owner key
    exact ⟨row, (listed row).mpr (.inl rowIn), facts⟩
  · rcases (listed row).mp member with old | rfl
    · exact books.charged row old charged
    · exact (notCharged charged).elim
  · have total : unauditedTotal reclaims owner = unauditedTotal treasury.reclaims owner := by
      rw [unauditedTotal, Table.total_append _ _ _ [task] appended, List.map_singleton, List.sum_singleton, unaudited_of_status task notCharged,
        Int.add_zero, unauditedTotal]
    exact (books.balanced owner).trans (congrArg _ total.symm)

theorem not_done_of_status (task : IncomeReclaim) (notCompleted : task.status ≠ .completed) (notCharged : task.status ≠ .charged) : ¬ task.Done := by
  rintro (completed | ⟨charged, _⟩)
  · exact notCompleted completed
  · exact notCharged charged

theorem ReclaimBooks.create_step {treasury : Treasury} (books : ReclaimBooks treasury) (env : WalletEnv) (filter : ReleaseFilter) :
    ReclaimBooks (treasuryStep env treasury (.createReclaim filter)) := by
  rcases Tx.atomic_store (createIncomeReclaimTask env filter) treasury with ⟨task, committed⟩ | ⟨_, rolledBack⟩
  · obtain ⟨operationID, market, drafted, _, created⟩ := ran_create_reclaim env filter treasury _ task committed
    have named := books.market (drafted.routine.mono fun _ member => List.mem_append_left _ member) (drafted.rows.mono fun _ _ => RowDraft.pending_move)
    simp only [treasuryStep]
    generalize (Tx.atomic (createIncomeReclaimTask env filter) treasury).2 = after at created
    cases created with
    | kept => exact named
    | resumed existing reclaims isOperation failed printed free saved =>
        refine named.saved saved ⟨rfl, rfl, rfl, rfl⟩ rfl rfl (initial_status_not_charged _) (fun _ direct => .inr ?_)
          (unaudited_of_status existing (by simp [failed])) fun done => (not_done_of_status existing (by simp [failed]) (by simp [failed]) done).elim
        obtain ⟨owners, sameDirect⟩ := named.registered.printed existing saved.old_mem
        rw [printed] at owners sameDirect
        have unclaimed := free (sameDirect.symm.trans direct)
        rw [← isOperation] at unclaimed
        exact fun other otherIn different outstanding owner ownerIn => unclaimed other otherIn different outstanding owner (owners ▸ ownerIn)
    | inserted task reclaims isTask _ free appended => exact named.inserted isTask free appended
  · rw [treasuryStep, rolledBack]
    exact books

theorem marked_eligible (task : IncomeReclaim) (eligible : ReclaimTaskStatus → Bool) (status : ReclaimTaskStatus) (treasury : Treasury)
    (member : task ∈ treasury.reclaims.rows) (eligibleTask : eligible task.status = true) :
    ∃ reclaims, markTask task.id eligible status treasury = { treasury with reclaims } ∧
      Table.Replaced treasury.reclaims reclaims task { task with status } := by
  refine ⟨_, rfl, ?_⟩
  refine Table.replaced_update treasury.reclaims _ (fun row => { row with status }) (fun _ => rfl) task member
    (by simp [eligibleTask]) fun other selected => ?_
  exact clash_of_task_id _ _ (of_decide_eq_true selected).1.symm

theorem marked_task (operationID : String) (eligible : ReclaimTaskStatus → Bool) (status : ReclaimTaskStatus) (treasury : Treasury) :
    markTask operationID eligible status treasury = treasury ∨
      ∃ task reclaims, task.id = operationID ∧ eligible task.status = true ∧
        markTask operationID eligible status treasury = { treasury with reclaims } ∧
        Table.Replaced treasury.reclaims reclaims task { task with status } := by
  by_cases hit : ∃ task ∈ treasury.reclaims.rows, task.id = operationID ∧ eligible task.status = true
  · obtain ⟨task, member, rfl, eligibleTask⟩ := hit
    obtain ⟨reclaims, marked, saved⟩ := marked_eligible task eligible status treasury member eligibleTask
    exact .inr ⟨task, reclaims, rfl, eligibleTask, marked, saved⟩
  · refine .inl ?_
    have rows : (treasury.reclaims.update (fun task => task.id = operationID ∧ eligible task.status) (fun task => { task with status })
        fun _ => rfl) = treasury.reclaims := by
      refine Table.ext _ _ ?_
      rw [Table.rows_update]
      refine (List.map_congr_left fun task member => if_neg fun selected => hit ⟨task, member, of_decide_eq_true selected⟩).trans (List.map_id _)
    rw [markTask, rows]

-- No settlement is selected both by a running task and by the unfinished audit of a charged one.
def Clear (treasury : Treasury) (operationID : String) : Prop :=
  ∀ task ∈ treasury.reclaims.rows, task.id = operationID → task.status ≠ .completed → task.status ≠ .failed →
    ∀ charged ∈ treasury.reclaims.rows, charged.status = .charged → ∀ part ∈ charged.filter.auditRemaining, 0 < part.2 →
      ∀ item ∈ treasury.market.settlements.rows, task.filter.Selects item → ¬ (charged.filter.scope part.1).Selects item

instance (treasury : Treasury) (operationID : String) : Decidable (Clear treasury operationID) :=
  inferInstanceAs (Decidable (∀ task ∈ treasury.reclaims.rows, _))

theorem scope_selects_iff (filter : ReleaseFilter) (owner : Int) (item : Settlement) (listed : owner ∈ filter.ownerUserIDs) :
    (filter.scope owner).Selects item ↔ filter.Selects item ∧ item.ownerUserID = owner := by
  simp only [ReleaseFilter.Selects, ReleaseFilter.scope, ReleaseFilter.Covers, List.mem_singleton, reduceCtorEq, false_or]
  constructor
  · rintro ⟨released, left, rfl, times⟩
    exact ⟨⟨released, left, .inr listed, times⟩, rfl⟩
  · rintro ⟨⟨released, left, _, times⟩, rfl⟩
    exact ⟨released, left, rfl, times⟩

-- A charged task with something left to audit stands in its own way.
theorem ReclaimBooks.nothing_left {treasury : Treasury} (books : ReclaimBooks treasury) (task : IncomeReclaim)
    (member : task ∈ treasury.reclaims.rows) (clear : Clear treasury task.id) (charged : task.status = .charged) : task.filter.auditRemaining = [] := by
  have facts := books.charged task member charged
  refine List.eq_nil_iff_forall_not_mem.mpr fun part partIn => ?_
  have positive := facts.positive part partIn
  have covered := facts.covered part partIn
  obtain ⟨item, itemIn, selected⟩ : ∃ item ∈ treasury.market.settlements.rows, (task.filter.scope part.1).Selects item := by
    by_contra none
    push Not at none
    have nothing : scopeTotal treasury.market.settlements task.filter part.1 = 0 :=
      List.sum_eq_zero (List.forall_mem_map.mpr fun item itemIn => if_neg (none item itemIn))
    omega
  have own := ((scope_selects_iff _ _ item (facts.owners part partIn)).mp selected).1
  exact clear task member rfl (by simp [charged]) (by simp [charged]) task member charged part partIn positive item itemIn own selected

theorem parts_of_keys (keys : List Int) (distinct : keys.Nodup) (share : Int → Int) (owner : Int) :
    partsOf owner (keys.map fun key => (key, share key)) = if owner ∈ keys then share owner else 0 := by
  induction keys with
  | nil => rfl
  | cons key rest ih =>
      rw [List.nodup_cons] at distinct
      have others := ih distinct.2
      simp only [partsOf, List.map_cons, List.map_map, List.sum_cons, List.mem_cons] at others ⊢
      rw [others]
      by_cases here : key = owner
      · subst here
        simp [distinct.1]
      · simp [here, Ne.symm here]

theorem owner_totals_keys (allotted : List (Settlement × Int)) :
    (ownerTotals allotted).map Prod.fst = (allotted.map fun part => part.1.ownerUserID).dedup.insertionSort (· ≤ ·) := by
  simp [ownerTotals, Function.comp_def]

theorem owner_totals_distinct (allotted : List (Settlement × Int)) : ((ownerTotals allotted).map Prod.fst).Nodup := by
  rw [owner_totals_keys]
  exact (List.perm_insertionSort _ _).nodup_iff.mpr (List.nodup_dedup _)

-- What an allotment takes from one owner.
def allottedFrom (owner : Int) (allotted : List (Settlement × Int)) : Int :=
  (allotted.map fun part => if part.1.ownerUserID = owner then part.2 else 0).sum

theorem allotted_filter (owner : Int) (allotted : List (Settlement × Int)) :
    allottedTotal (allotted.filter fun part => part.1.ownerUserID = owner) = allottedFrom owner allotted := by
  unfold allottedTotal allottedFrom
  induction allotted with
  | nil => rfl
  | cons part rest ih =>
      rw [List.map_cons, List.sum_cons, ← ih]
      by_cases here : part.1.ownerUserID = owner
      · simp [here]
      · simp [here]

theorem owner_totals_parts (owner : Int) (allotted : List (Settlement × Int)) : partsOf owner (ownerTotals allotted) = allottedFrom owner allotted := by
  have distinct := owner_totals_keys allotted ▸ owner_totals_distinct allotted
  rw [ownerTotals, parts_of_keys _ distinct, allotted_filter]
  split
  · rfl
  · rename_i absent
    refine (List.sum_eq_zero (List.forall_mem_map.mpr fun part partIn => if_neg fun same => absent ?_)).symm
    rw [List.mem_insertionSort, List.mem_dedup]
    exact List.mem_map.mpr ⟨part, partIn, same⟩

theorem RowsReclaimed.reclaimed_total {market after : Market} {allotted : List (Settlement × Int)} (reclaimed : RowsReclaimed market allotted after)
    (owner : Int) : reclaimedTotal after.settlements owner = reclaimedTotal market.settlements owner + allottedFrom owner allotted := by
  rw [reclaimedTotal, reclaimed.totals, reclaimedTotal, allottedFrom]
  congr 2
  refine List.map_congr_left fun part _ => ?_
  simp only [reclaimRow]
  split <;> omega

theorem Reduced.selects {row old : Settlement} (reduced : Reduced row old) (filter : ReleaseFilter) (selected : filter.Selects row) :
    filter.Selects old := by
  obtain ⟨released, left, covers, start, finish⟩ := selected
  have less := reduced.less
  simp only [Settlement.reclaimable] at less
  rw [reduced.owner] at covers
  rw [reduced.created] at start finish
  exact ⟨reduced.released released, by omega, covers, start, finish⟩

-- Rows outside a scope may be reclaimed without touching it.
theorem RowsReclaimed.scope_kept {market after : Market} {allotted : List (Settlement × Int)} (reclaimed : RowsReclaimed market allotted after)
    (filter : ReleaseFilter) (owner : Int)
    (outside : ∀ part ∈ allotted, ∀ old ∈ market.settlements.rows, Reduced part.1 old → ¬ (filter.scope owner).Selects old) :
    scopeTotal after.settlements filter owner = scopeTotal market.settlements filter owner := by
  rw [scopeTotal, reclaimed.totals, scopeTotal]
  have none : (allotted.map fun part => scopeWeight filter owner (reclaimRow part.2 part.1) - scopeWeight filter owner part.1).sum = 0 := by
    refine List.sum_eq_zero (List.forall_mem_map.mpr fun part partIn => ?_)
    obtain ⟨released, old, oldIn, reduced⟩ := reclaimed.origin part partIn
    have excluded := outside part partIn old oldIn reduced
    have again := reduced_row part.1 part.2 released (reclaimed.parts part partIn).1
    rw [scopeWeight, scopeWeight, if_neg fun selected => excluded ((again.trans reduced).selects _ selected),
      if_neg fun selected => excluded (reduced.selects _ selected), Int.sub_self]
  rw [none, Int.add_zero]

section NewHolds

variable {reservations later : Table BillingReservation} {reclaims : Table IncomeReclaim} {task : IncomeReclaim}

theorem HoldsKnown.batch (holds : HoldsKnown reservations reclaims) (member : task ∈ reclaims.rows)
    (known : ∀ reservation ∈ later.rows, (∃ old ∈ reservations.rows, old.idempotencyKey = reservation.idempotencyKey) ∨
      ∃ owner, reservation.idempotencyKey = reclaimHoldKey task.id (batchStage task.batchNumber) owner) : HoldsKnown later reclaims := by
  refine ⟨fun reservation reservationIn taskID batchNumber owner key => ?_, fun reservation reservationIn taskID owner key => ?_⟩
  · rcases known reservation reservationIn with ⟨old, oldIn, sameKey⟩ | ⟨other, isNew⟩
    · exact holds.batches old oldIn taskID batchNumber owner (sameKey.trans key)
    · obtain ⟨sameTask, sameBatch, _⟩ := batch_hold_injective _ _ _ _ _ _ (isNew.symm.trans key)
      exact ⟨task, member, sameTask, sameBatch.ge⟩
  · rcases known reservation reservationIn with ⟨old, oldIn, sameKey⟩ | ⟨other, isNew⟩
    · exact holds.directs old oldIn taskID owner (sameKey.trans key)
    · exact (direct_hold_ne_batch _ _ _ _ _ (key.symm.trans isNew)).elim

theorem HoldsKnown.direct (holds : HoldsKnown reservations reclaims) (member : task ∈ reclaims.rows)
    (known : ∀ reservation ∈ later.rows, (∃ old ∈ reservations.rows, old.idempotencyKey = reservation.idempotencyKey) ∨
      (task.Done ∧ ∃ owner, reservation.idempotencyKey = reclaimHoldKey task.id "direct" owner)) : HoldsKnown later reclaims := by
  refine ⟨fun reservation reservationIn taskID batchNumber owner key => ?_, fun reservation reservationIn taskID owner key => ?_⟩
  · rcases known reservation reservationIn with ⟨old, oldIn, sameKey⟩ | ⟨_, other, isNew⟩
    · exact holds.batches old oldIn taskID batchNumber owner (sameKey.trans key)
    · exact (direct_hold_ne_batch _ _ _ _ _ (isNew.symm.trans key)).elim
  · rcases known reservation reservationIn with ⟨old, oldIn, sameKey⟩ | ⟨isDone, other, isNew⟩
    · exact holds.directs old oldIn taskID owner (sameKey.trans key)
    · exact ⟨task, member, (direct_hold_injective _ _ _ _ (isNew.symm.trans key)).1, isDone⟩

end NewHolds

-- A task that a clear step may run has nothing outstanding of its own.
theorem ReclaimBooks.idle_task {treasury : Treasury} (books : ReclaimBooks treasury) (task : IncomeReclaim) (member : task ∈ treasury.reclaims.rows)
    (clear : Clear treasury task.id) (active : task.status ≠ .completed) : (∀ owner, task.unaudited owner = 0) ∧ ¬ task.Done := by
  refine ⟨fun owner => ?_, ?_⟩
  · unfold IncomeReclaim.unaudited
    split
    · rename_i charged
      rw [books.nothing_left task member clear charged]
      rfl
    · rfl
  · rintro (completed | ⟨charged, left⟩)
    · exact active completed
    · exact left (books.nothing_left task member clear charged)

theorem ReclaimBooks.stopped {treasury : Treasury} {reclaims : Table IncomeReclaim} {task : IncomeReclaim} (books : ReclaimBooks treasury)
    (clear : Clear treasury task.id) (active : task.status ≠ .completed) (status : ReclaimTaskStatus) (ended : status = .failed ∨ status = .completed)
    (replaced : Table.Replaced treasury.reclaims reclaims task { task with status }) : ReclaimBooks { treasury with reclaims } := by
  obtain ⟨audited, notDone⟩ := books.idle_task task replaced.old_mem clear active
  refine books.saved replaced ⟨rfl, rfl, rfl, rfl⟩ rfl rfl ?_ (fun outstanding => ?_) audited fun done => (notDone done).elim
  · rcases ended with rfl | rfl <;> simp
  · rcases ended with rfl | rfl <;> simp [ReclaimTaskStatus.Outstanding] at outstanding

theorem outstanding_of_active {task : IncomeReclaim} (active : task.status ≠ .completed ∧ task.status ≠ .failed) : task.status.Outstanding := by
  unfold ReclaimTaskStatus.Outstanding
  cases status : task.status <;> simp_all

theorem ReclaimBooks.batch {env : WalletEnv} {treasury : Treasury} {task : IncomeReclaim} {allotted : List (Settlement × Int)} {market : Market}
    {wallet : Wallet} {reclaims : Table IncomeReclaim} {next : IncomeReclaim} (books : ReclaimBooks treasury) (clear : Clear treasury task.id)
    (active : task.status ≠ .completed ∧ task.status ≠ .failed) (reclaimed : RowsReclaimed treasury.market allotted market)
    (selected : ∀ part ∈ allotted, task.filter.Selects part.1)
    (paid : debitOwners env task.id (batchStage (task.batchNumber + 1)) (ownerTotals allotted) market.wallet = (.ok (), wallet))
    (isNext : next = { task with
      status := batchStatus env task allotted, count := task.count + allotted.length, amount := task.amount + allottedTotal allotted,
      batchNumber := task.batchNumber + 1, ownerAmounts := addOwnerAmounts task.ownerAmounts (ownerTotals allotted) })
    (saved : Table.Replaced treasury.reclaims reclaims task next) : ReclaimBooks { market := { market with wallet }, reclaims } := by
  obtain ⟨audited, notDone⟩ := books.idle_task task saved.old_mem clear active.1
  have same : SameTask task next := by subst isNext; exact ⟨rfl, rfl, rfl, rfl⟩
  have sameWallet : market.wallet = treasury.market.wallet := by
    obtain ⟨_, rfl⟩ := reclaimed.frame
    rfl
  rw [sameWallet] at paid
  have nextBatch : next.batchNumber = task.batchNumber + 1 := by rw [isNext]
  have notCharged : next.status ≠ .charged := by
    rw [isNext]
    simp only [batchStatus]
    split <;> simp
  have counted : 0 ≤ next.amount := by
    have before := books.registered.counted task saved.old_mem
    have added := allotted_total_nonneg reclaimed.parts
    rw [isNext]
    simp only
    omega
  have debited := owners_debited env task.id _ _ _ _ paid (owner_totals_distinct allotted) (fun part _ reservation member used => ?_) books.housed
  · refine ⟨debited.housed, books.registered.replaced saved same counted fun _ _ => .inl (outstanding_of_active active), ?_, fun row member charged => ?_,
      fun owner => ?_⟩
    · refine (books.holds.replaced saved same (by omega) fun done => (notDone done).elim).batch saved.new_mem fun reservation member => ?_
      rcases debited.holds reservation member with old | ⟨part, _, key⟩
      · exact .inl old
      · exact .inr ⟨part.1, by rw [same.id, nextBatch]; exact key⟩
    · rcases saved.mem row member with rfl | ⟨old, _⟩
      · exact (notCharged charged).elim
      · have before := books.charged row old charged
        refine before.grows fun part partIn => Int.le_of_eq (reclaimed.scope_kept _ _ fun piece pieceIn item itemIn reduced both => ?_).symm
        exact clear task saved.old_mem rfl active.1 active.2 row old charged part partIn (before.positive part partIn) item itemIn
          (reduced.selects _ (selected piece pieceIn)) both
    · have total : unauditedTotal reclaims owner = unauditedTotal treasury.reclaims owner := by
        rw [unauditedTotal, unauditedTotal, saved.total, audited owner, unaudited_of_status next notCharged]
        omega
      have before := books.balanced owner
      have rows := reclaimed.reclaimed_total owner
      have money := debited.debited owner
      rw [owner_totals_parts] at money
      simp only [total]
      omega
  · obtain ⟨row, rowIn, named, within⟩ := books.holds.batches reservation member task.id (task.batchNumber + 1) part.1 used
    obtain rfl := task_eq_of_id row task rowIn saved.old_mem named
    omega

theorem ReclaimBooks.process_step {treasury : Treasury} (books : ReclaimBooks treasury) (env : WalletEnv) (operationID : String)
    (clear : Clear treasury operationID) : ReclaimBooks (treasuryStep env treasury (.processReclaim operationID)) := by
  rw [treasuryStep, processIncomeReclaimTask]
  split
  · rename_i _ after ran
    cases ran_process env operationID treasury after ran with
    | idle => exact books
    | refused task reclaims active named saved => exact books.stopped (named ▸ clear) active.1 .failed (.inl rfl) saved
    | batch task _ member named active batch =>
        cases batch with
        | drained market reclaims reclaimed saved =>
            have stopped := books.stopped (named ▸ clear) active.1 .completed (.inr rfl) saved
            obtain ⟨settlements, rfl⟩ := reclaimed.frame
            have rows : ∀ weight : Settlement → Int, settlements.total weight = treasury.market.settlements.total weight := by
              intro weight
              simpa using reclaimed.totals weight
            refine ⟨stopped.housed, stopped.registered, stopped.holds, fun row rowIn charged => ?_, fun owner => ?_⟩
            · exact (stopped.charged row rowIn charged).grows fun part _ => (rows _).ge
            · exact (stopped.balanced owner).trans (congrArg (· + unauditedTotal reclaims owner) (rows _).symm)
        | debited allotted market wallet reclaims next reclaimed selected paid isNext saved =>
            exact books.batch (named ▸ clear) active reclaimed selected paid isNext saved
  · rcases marked_task operationID (fun status => status ≠ .completed) .failed treasury with same | ⟨task, reclaims, named, eligible, marked, saved⟩
    · rw [same]
      exact books
    · rw [marked]
      exact books.stopped (named ▸ clear) (by simpa using eligible) .failed (.inl rfl) saved

theorem charge_amounts_keys (remaining : Int) (shares : List (Int × Int)) :
    ((chargeAmounts remaining shares).map Prod.fst).Sublist (shares.map Prod.fst) := by
  induction shares generalizing remaining with
  | nil => simp [chargeAmounts]
  | cons share rest ih =>
      obtain ⟨owner, amount⟩ := share
      simp only [chargeAmounts]
      split
      · exact (ih remaining).cons _
      · exact (ih _).cons_cons _

theorem charge_amounts_within (remaining : Int) (shares : List (Int × Int)) :
    ∀ part ∈ chargeAmounts remaining shares, 0 < part.2 ∧ ∃ share ∈ shares, share.1 = part.1 ∧ part.2 ≤ share.2 := by
  induction shares generalizing remaining with
  | nil => simp [chargeAmounts]
  | cons share rest ih =>
      obtain ⟨owner, amount⟩ := share
      intro part member
      simp only [chargeAmounts] at member
      split at member
      · obtain ⟨positive, share, shareIn, facts⟩ := ih remaining part member
        exact ⟨positive, share, by simp [shareIn], facts⟩
      · rename_i taken
        rw [List.mem_cons] at member
        rcases member with rfl | later
        · exact ⟨Int.not_le.mp taken, (owner, amount), by simp, rfl, Int.min_le_left _ _⟩
        · obtain ⟨positive, share, shareIn, facts⟩ := ih _ part later
          exact ⟨positive, share, by simp [shareIn], facts⟩

theorem charge_shares_keys (totals balances : List (Int × Int)) : (chargeShares totals balances).map Prod.fst = totals.map Prod.fst := by
  simp [chargeShares, Function.comp_def]

-- All that a task selects of one owner is what its audit may mark.
theorem selected_total (filter : ReleaseFilter) (market : Market) (owner : Int) (listed : owner ∈ filter.ownerUserIDs) :
    allottedFrom owner (allot none (reclaimSettlementQuery filter market)) = scopeTotal market.settlements filter owner := by
  rw [allottedFrom, allot_none, List.map_map, reclaimSettlementQuery]
  rw [((List.perm_insertionSort Settlement.Before _).map _).sum_eq]
  unfold scopeTotal Table.total
  induction market.settlements.rows with
  | nil => rfl
  | cons item rest ih =>
      rw [List.map_cons, List.sum_cons, ← ih]
      by_cases selects : filter.Selects item
      · rw [List.filter_cons_of_pos (by simpa using selects), List.map_cons, List.sum_cons]
        congr 1
        simp only [scopeWeight, scope_selects_iff filter owner item listed, selects, true_and, Function.comp_apply]
      · rw [List.filter_cons_of_neg (by simpa using selects)]
        simp [scopeWeight, scope_selects_iff filter owner item listed, selects]

-- What a direct task charges each owner is covered by the owner's selected settlements.
theorem charge_amounts_sound (filter : ReleaseFilter) (market : Market) (balances : List (Int × Int)) (total : Int) (limited : filter.ownerUserIDs ≠ []) :
    ∀ part ∈ chargeAmounts total (chargeShares (ownerTotals (allot none (reclaimSettlementQuery filter market))) balances),
      0 < part.2 ∧ part.1 ∈ filter.ownerUserIDs ∧ part.2 ≤ scopeTotal market.settlements filter part.1 := by
  intro part member
  obtain ⟨positive, share, shareIn, sameOwner, within⟩ := charge_amounts_within _ _ part member
  obtain ⟨ownerTotal, ownerTotalIn, rfl⟩ := List.mem_map.mp shareIn
  have listed : ownerTotal.1 ∈ filter.ownerUserIDs := by
    have key : ownerTotal.1 ∈ (ownerTotals (allot none (reclaimSettlementQuery filter market))).map Prod.fst := List.mem_map_of_mem ownerTotalIn
    rw [owner_totals_keys, List.mem_insertionSort, List.mem_dedup, allot_none, List.map_map, List.mem_map] at key
    obtain ⟨item, itemIn, owner⟩ := key
    have covers := ((mem_reclaim_query filter market item).mp itemIn).2.2.2.1
    exact owner ▸ covers.resolve_left limited
  rw [ownerTotals, List.mem_map] at ownerTotalIn
  obtain ⟨owner, _, rfl⟩ := ownerTotalIn
  simp only at sameOwner within listed
  subst sameOwner
  refine ⟨positive, listed, ?_⟩
  rw [← selected_total filter market part.1 listed, ← allotted_filter]
  exact within.trans (Int.min_le_left _ _)

theorem charge_amounts_distinct (total : Int) (allotted : List (Settlement × Int)) (balances : List (Int × Int)) :
    ((chargeAmounts total (chargeShares (ownerTotals allotted) balances)).map Prod.fst).Nodup := by
  have keys := charge_amounts_keys total (chargeShares (ownerTotals allotted) balances)
  rw [charge_shares_keys] at keys
  exact keys.nodup (owner_totals_distinct _)

-- The receipt of a charge is covered.
theorem charged_receipt (filter : ReleaseFilter) (market : Market) (balances : List (Int × Int)) (total : Int) (next : IncomeReclaim)
    (limited : filter.direct = true ∧ filter.ownerUserIDs ≠ [])
    (isFilter : next.filter = { filter with
      auditRemaining := chargeAmounts total (chargeShares (ownerTotals (allot none (reclaimSettlementQuery filter market))) balances) }) :
    ChargedTask market.settlements next := by
  have sound := charge_amounts_sound filter market balances total limited.2
  refine ⟨?_, ?_, ?_, ?_, ?_⟩ <;> rw [isFilter]
  · exact limited.1
  · exact fun part partIn => (sound part partIn).2.1
  · exact charge_amounts_distinct total _ balances
  · exact fun part partIn => (sound part partIn).1
  · exact fun part partIn => (sound part partIn).2.2

theorem sum_pos_of_parts (amounts : List (Int × Int)) (positive : ∀ part ∈ amounts, 0 < part.2) (some : amounts ≠ []) :
    0 < (amounts.map Prod.snd).sum := by
  cases amounts with
  | nil => exact (some rfl).elim
  | cons part rest =>
      have first := positive part (by simp)
      have others : 0 ≤ (rest.map Prod.snd).sum :=
        List.sum_nonneg (List.forall_mem_map.mpr fun other member => Int.le_of_lt (positive other (by simp [member])))
      rw [List.map_cons, List.sum_cons]
      omega

theorem ReclaimBooks.charge {env : WalletEnv} {treasury : Treasury} {task : IncomeReclaim} {balances amounts : List (Int × Int)} {locked wallet : Wallet}
    {total : Int} {reclaims : Table IncomeReclaim} {next : IncomeReclaim} (books : ReclaimBooks treasury) (waiting : task.status = .debitPending)
    (limited : task.filter.direct = true ∧ task.filter.ownerUserIDs ≠ [])
    (read : lockMarketplaceReclaimBalancesTx env task.filter.ownerUserIDs treasury.market.wallet = (.ok balances, locked))
    (isAmounts : amounts = chargeAmounts total
      (chargeShares (ownerTotals (allot none (reclaimSettlementQuery task.filter treasury.market))) balances))
    (paid : debitOwners env task.id "direct" amounts locked = (.ok (), wallet))
    (isNext : next = { task with
      filter := { task.filter with auditRemaining := amounts }, amount := task.amount + (amounts.map Prod.snd).sum,
      status := if task.amount + (amounts.map Prod.snd).sum = 0 then .completed else .charged, ownerAmounts := amounts })
    (saved : Table.Replaced treasury.reclaims reclaims task next) : ReclaimBooks { market := { treasury.market with wallet }, reclaims } := by
  have routine := routine_balances env _ _ _ _ read
  have opened := calm_routine routine
  have sound := charge_amounts_sound task.filter treasury.market balances total limited.2
  rw [← isAmounts] at sound
  have distinct : (amounts.map Prod.fst).Nodup := isAmounts ▸ charge_amounts_distinct total _ balances
  have same : SameTask task next := by subst isNext; exact ⟨rfl, rfl, rfl, rfl⟩
  have before := books.registered.counted task saved.old_mem
  have remaining : next.filter.auditRemaining = amounts := by rw [isNext]
  have statuses : next.status = .charged ∨ (next.status = .completed ∧ amounts = []) := by
    by_cases nothing : amounts = []
    · rw [isNext]
      simp only
      split <;> simp [nothing]
    · have positive := sum_pos_of_parts amounts (fun part member => (sound part member).1) nothing
      rw [isNext]
      exact .inl (if_neg (by omega))
  have counted : 0 ≤ next.amount := by
    have added : 0 ≤ (amounts.map Prod.snd).sum := List.sum_nonneg (List.forall_mem_map.mpr fun part member => Int.le_of_lt (sound part member).1)
    rw [isNext]
    simp only
    omega
  have notDone : ¬ task.Done := not_done_of_status task (by simp [waiting]) (by simp [waiting])
  have held := books.holds.calm routine.holds
  have debited := owners_debited env task.id "direct" amounts locked wallet paid distinct (fun part _ reservation member used => ?_)
    (opened.housed books.housed)
  · refine ⟨debited.housed, books.registered.replaced saved same counted fun _ _ => .inl (by simp [waiting, ReclaimTaskStatus.Outstanding]), ?_,
      fun row member charged => ?_, fun owner => ?_⟩
    · refine (held.replaced saved same (by rw [isNext]) fun done => (notDone done).elim).direct saved.new_mem fun reservation member => ?_
      rcases debited.holds reservation member with old | ⟨part, partIn, key⟩
      · exact .inl old
      · have some : amounts ≠ [] := List.ne_nil_of_mem partIn
        rcases statuses with charged | ⟨_, nothing⟩
        · exact .inr ⟨.inr ⟨charged, remaining ▸ some⟩, part.1, by rw [same.id]; exact key⟩
        · exact (some nothing).elim
    · rcases saved.mem row member with rfl | ⟨old, _⟩
      · exact charged_receipt task.filter treasury.market balances total row limited (by rw [isNext, isAmounts])
      · exact books.charged row old charged
    · have share : next.unaudited owner = partsOf owner amounts := by
        rcases statuses with charged | ⟨completed, nothing⟩
        · rw [IncomeReclaim.unaudited, if_pos charged, remaining]
        · rw [IncomeReclaim.unaudited, if_neg (by simp [completed]), nothing]
          rfl
      have total : unauditedTotal reclaims owner = unauditedTotal treasury.reclaims owner + partsOf owner amounts := by
        rw [unauditedTotal, unauditedTotal, saved.total, unaudited_of_status task (by simp [waiting]), share]
        omega
      have money := debited.debited owner
      rw [opened.debited books.housed, books.balanced] at money
      simp only [total]
      omega
  · obtain ⟨row, rowIn, named, done⟩ := held.directs reservation member task.id part.1 used
    obtain rfl := task_eq_of_id row task rowIn saved.old_mem named
    exact notDone done

theorem RowsReclaimed.scope_taken {market after : Market} {allotted : List (Settlement × Int)} (reclaimed : RowsReclaimed market allotted after)
    (filter : ReleaseFilter) (owner : Int) (selected : ∀ part ∈ allotted, (filter.scope owner).Selects part.1) :
    scopeTotal after.settlements filter owner = scopeTotal market.settlements filter owner - allottedTotal allotted := by
  rw [scopeTotal, reclaimed.totals, scopeTotal, allottedTotal]
  have taken : (allotted.map fun part => scopeWeight filter owner (reclaimRow part.2 part.1) - scopeWeight filter owner part.1) =
      allotted.map fun part => - part.2 := by
    refine List.map_congr_left fun part partIn => ?_
    obtain ⟨released, left, covers, start, finish⟩ := selected part partIn
    obtain ⟨positive, within⟩ := reclaimed.parts part partIn
    simp only [Settlement.reclaimable] at within
    have before : scopeWeight filter owner part.1 = part.1.reclaimable := if_pos (selected part partIn)
    rw [before]
    by_cases whole : part.1.reclaimedAmount + part.2 = part.1.ownerNetAmount
    · rw [scope_weight_of_status _ _ _ (by simp [reclaimRow, whole])]
      simp only [Settlement.reclaimable]
      omega
    · have kept : (filter.scope owner).Selects (reclaimRow part.2 part.1) := by
        refine ⟨by simp [reclaimRow, whole, released], ?_, covers, start, finish⟩
        simp only [reclaimRow]
        omega
      rw [scopeWeight, if_pos kept]
      simp only [Settlement.reclaimable, reclaimRow]
      omega
  have negated : (allotted.map fun part => - part.2).sum = - (allotted.map Prod.snd).sum := by
    clear taken selected reclaimed
    induction allotted with
    | nil => rfl
    | cons part rest ih =>
        simp only [List.map_cons, List.sum_cons, ih]
        omega
  rw [taken, negated]
  omega

theorem audit_rest_mem (owner amount : Int) (remaining : List (Int × Int)) (part : Int × Int) (member : part ∈ auditRest owner amount remaining) :
    (part ∈ remaining ∧ part.1 ≠ owner) ∨ (part.1 = owner ∧ part.2 ≠ 0 ∧ (owner, part.2 + amount) ∈ remaining) := by
  rw [auditRest, List.mem_filter, List.mem_map] at member
  obtain ⟨⟨old, oldIn, rfl⟩, kept⟩ := member
  split at kept
  · rename_i here
    rw [if_pos here]
    refine .inr ⟨rfl, by simpa using kept, ?_⟩
    have same : (owner, old.2 - amount + amount) = old := Prod.ext here.symm (by simp)
    rw [same]
    exact oldIn
  · rename_i elsewhere
    rw [if_neg elsewhere]
    exact .inl ⟨oldIn, elsewhere⟩

theorem audit_rest_keys (owner amount : Int) (remaining : List (Int × Int)) :
    ((auditRest owner amount remaining).map Prod.fst).Sublist (remaining.map Prod.fst) := by
  have keys : (remaining.map fun part => if part.1 = owner then (owner, part.2 - amount) else part).map Prod.fst = remaining.map Prod.fst := by
    rw [List.map_map]
    refine List.map_congr_left fun part _ => ?_
    simp only [Function.comp_apply]
    split
    · rename_i here
      exact here.symm
    · rfl
  rw [auditRest, ← keys]
  exact List.filter_sublist.map _

theorem parts_of_absent (owner : Int) (amounts : List (Int × Int)) (absent : ∀ part ∈ amounts, part.1 ≠ owner) : partsOf owner amounts = 0 :=
  List.sum_eq_zero (List.forall_mem_map.mpr fun part member => if_neg (absent part member))

theorem parts_of_mem (amounts : List (Int × Int)) (distinct : (amounts.map Prod.fst).Nodup) (part : Int × Int) (member : part ∈ amounts) :
    partsOf part.1 amounts = part.2 := by
  induction amounts with
  | nil => simp at member
  | cons head rest ih =>
      rw [List.map_cons, List.nodup_cons] at distinct
      rw [List.mem_cons] at member
      have split : partsOf part.1 (head :: rest) = (if head.1 = part.1 then head.2 else 0) + partsOf part.1 rest := by
        rw [partsOf, List.map_cons, List.sum_cons, partsOf]
      rcases member with rfl | later
      · have others := parts_of_absent part.1 rest fun other otherIn same => distinct.1 (same ▸ List.mem_map_of_mem otherIn)
        rw [split, if_pos rfl, others, Int.add_zero]
      · have different : head.1 ≠ part.1 := fun same => distinct.1 (same ▸ List.mem_map_of_mem later)
        rw [split, if_neg different, ih distinct.2 later, Int.zero_add]

theorem parts_of_rest (owner amount left : Int) (remaining : List (Int × Int)) (distinct : (remaining.map Prod.fst).Nodup)
    (member : (owner, left) ∈ remaining) (other : Int) :
    partsOf other (auditRest owner amount remaining) = partsOf other remaining - if other = owner then amount else 0 := by
  have restDistinct := (audit_rest_keys owner amount remaining).nodup distinct
  by_cases here : other = owner
  · subst here
    have whole : partsOf other remaining = left := parts_of_mem remaining distinct _ member
    rw [if_pos rfl, whole]
    by_cases nothing : left = amount
    · rw [parts_of_absent other (auditRest other amount remaining), nothing, Int.sub_self]
      intro part partIn same
      rcases audit_rest_mem other amount remaining part partIn with ⟨_, elsewhere⟩ | ⟨_, nonzero, old⟩
      · exact elsewhere same
      · have again : partsOf other remaining = part.2 + amount := parts_of_mem remaining distinct _ old
        omega
    · have kept : (other, left - amount) ∈ auditRest other amount remaining := by
        refine List.mem_filter.mpr ⟨List.mem_map.mpr ⟨_, member, by simp⟩, ?_⟩
        simp only [true_and, decide_not, Bool.not_eq_true', decide_eq_false_iff_not]
        omega
      exact parts_of_mem _ restDistinct _ kept
  · rw [if_neg here, Int.sub_zero]
    by_cases listed : ∃ part ∈ remaining, part.1 = other
    · obtain ⟨part, partIn, rfl⟩ := listed
      have kept : part ∈ auditRest owner amount remaining := by
        refine List.mem_filter.mpr ⟨List.mem_map.mpr ⟨part, partIn, if_neg here⟩, ?_⟩
        simp [here]
      rw [parts_of_mem _ restDistinct part kept, parts_of_mem _ distinct part partIn]
    · push Not at listed
      rw [parts_of_absent other remaining listed, parts_of_absent]
      intro part partIn same
      rcases audit_rest_mem owner amount remaining part partIn with ⟨old, _⟩ | ⟨isOwner, _⟩
      · exact listed part old same
      · exact here (same.symm.trans isOwner)

theorem allotted_from_one (owner other : Int) (allotted : List (Settlement × Int)) (owned : ∀ part ∈ allotted, part.1.ownerUserID = owner) :
    allottedFrom other allotted = if other = owner then allottedTotal allotted else 0 := by
  unfold allottedFrom allottedTotal
  split
  · rename_i same
    subst same
    exact congrArg List.sum (List.map_congr_left fun part member => if_pos (owned part member))
  · rename_i different
    exact List.sum_eq_zero (List.forall_mem_map.mpr fun part member => if_neg fun same => different (same.symm.trans (owned part member)))

-- Another owner's settlements are out of reach of an audit.
theorem RowsReclaimed.elsewhere {market after : Market} {allotted : List (Settlement × Int)} {owner other : Int}
    (reclaimed : RowsReclaimed market allotted after) (owned : ∀ part ∈ allotted, part.1.ownerUserID = owner) (different : other ≠ owner)
    (filter : ReleaseFilter) : scopeTotal after.settlements filter other = scopeTotal market.settlements filter other := by
  refine reclaimed.scope_kept filter other fun part partIn old _ reduced selects => different ?_
  have covers := selects.2.2.1
  simp only [ReleaseFilter.Covers, ReleaseFilter.scope, List.mem_singleton, reduceCtorEq, false_or] at covers
  exact covers.symm.trans (reduced.owner.symm.trans (owned part partIn))

-- What an audit leaves on the receipt is again covered.
theorem ChargedTask.audited {market after : Market} {task next : IncomeReclaim} {owner remaining : Int} {allotted : List (Settlement × Int)}
    (facts : ChargedTask market.settlements task) (listed : (owner, remaining) ∈ task.filter.auditRemaining)
    (reclaimed : RowsReclaimed market allotted after) (selected : ∀ part ∈ allotted, (task.filter.scope owner).Selects part.1)
    (within : allottedTotal allotted ≤ remaining)
    (isFilter : next.filter = { task.filter with auditRemaining := auditRest owner (allottedTotal allotted) task.filter.auditRemaining }) :
    ChargedTask after.settlements next := by
  have owned : ∀ part ∈ allotted, part.1.ownerUserID = owner := fun part partIn =>
    ((scope_selects_iff _ _ _ (facts.owners _ listed)).mp (selected part partIn)).2
  have sameScope : ∀ other, scopeTotal after.settlements next.filter other = scopeTotal after.settlements task.filter other := by
    intro other
    rw [isFilter]
    rfl
  refine ⟨by rw [isFilter]; exact facts.direct, fun part partIn => ?_, ?_, fun part partIn => ?_, fun part partIn => ?_⟩
  · rw [isFilter] at partIn ⊢
    rcases audit_rest_mem _ _ _ part partIn with ⟨oldPart, _⟩ | ⟨isOwner, _⟩
    · exact facts.owners part oldPart
    · rw [isOwner]
      exact facts.owners _ listed
  · rw [isFilter]
    exact (audit_rest_keys _ _ _).nodup facts.distinct
  · rw [isFilter] at partIn
    rcases audit_rest_mem _ _ _ part partIn with ⟨oldPart, _⟩ | ⟨_, nonzero, oldPart⟩
    · exact facts.positive part oldPart
    · have whole : partsOf owner task.filter.auditRemaining = remaining := parts_of_mem _ facts.distinct _ listed
      have again : partsOf owner task.filter.auditRemaining = part.2 + allottedTotal allotted := parts_of_mem _ facts.distinct _ oldPart
      omega
  · rw [isFilter] at partIn
    rw [sameScope]
    rcases audit_rest_mem _ _ _ part partIn with ⟨oldPart, notOwner⟩ | ⟨isOwner, _, oldPart⟩
    · rw [reclaimed.elsewhere owned notOwner]
      exact facts.covered part oldPart
    · have covered := facts.covered _ oldPart
      rw [isOwner, reclaimed.scope_taken task.filter owner selected]
      simp only at covered
      omega

theorem ReclaimBooks.audit {treasury : Treasury} {task : IncomeReclaim} {owner remaining : Int} {allotted : List (Settlement × Int)} {market : Market}
    {reclaims : Table IncomeReclaim} {next : IncomeReclaim} (books : ReclaimBooks treasury) (due : task.status = .charged)
    (first : task.filter.auditRemaining.find? (fun part => part.2 > 0) = some (owner, remaining))
    (reclaimed : RowsReclaimed treasury.market allotted market)
    (selected : ∀ part ∈ allotted, (task.filter.scope owner).Selects part.1) (within : allottedTotal allotted ≤ remaining)
    (isNext : next = { task with
      filter := { task.filter with auditRemaining := auditRest owner (allottedTotal allotted) task.filter.auditRemaining },
      count := task.count + allotted.length, batchNumber := task.batchNumber + 1,
      status := if auditRest owner (allottedTotal allotted) task.filter.auditRemaining = [] then .completed else task.status })
    (saved : Table.Replaced treasury.reclaims reclaims task next) : ReclaimBooks { market, reclaims } := by
  have facts := books.charged task saved.old_mem due
  have same : SameTask task next := by subst isNext; exact ⟨rfl, rfl, rfl, rfl⟩
  have rest : next.filter.auditRemaining = auditRest owner (allottedTotal allotted) task.filter.auditRemaining := by rw [isNext]
  have listed := List.mem_of_find?_eq_some first
  have owned : ∀ part ∈ allotted, part.1.ownerUserID = owner := fun part partIn =>
    ((scope_selects_iff _ _ _ (facts.owners _ listed)).mp (selected part partIn)).2
  have sameWallet : market.wallet = treasury.market.wallet := by
    obtain ⟨_, rfl⟩ := reclaimed.frame
    rfl
  have statuses : (next.status = .completed ∧ next.filter.auditRemaining = []) ∨ (next.status = .charged ∧ next.filter.auditRemaining ≠ []) := by
    rw [rest]
    by_cases nothing : auditRest owner (allottedTotal allotted) task.filter.auditRemaining = []
    · exact .inl ⟨by rw [isNext]; exact if_pos nothing, nothing⟩
    · exact .inr ⟨by rw [isNext]; exact (if_neg nothing).trans due, nothing⟩
  refine ⟨sameWallet ▸ books.housed, books.registered.replaced saved same ?_ fun _ _ => .inl (by simp [due, ReclaimTaskStatus.Outstanding]), ?_,
    fun row member charged => ?_, fun other => ?_⟩
  · rw [isNext]
    exact books.registered.counted task saved.old_mem
  · have kept := books.holds.replaced saved same (by rw [isNext]; exact Nat.le_succ _) fun _ => statuses.imp And.left fun state => state
    exact sameWallet ▸ kept
  · rcases saved.mem row member with rfl | ⟨old, different⟩
    · exact facts.audited listed reclaimed selected within (by rw [isNext])
    · have other := books.charged row old charged
      refine other.grows fun part partIn => Int.le_of_eq (reclaimed.elsewhere owned (fun isOwner => ?_) _).symm
      refine books.registered.apart row old task saved.old_mem (fun sameID => different (clash_of_task_id _ _ sameID.symm))
        (by simp [charged, ReclaimTaskStatus.Outstanding]) (by simp [due, ReclaimTaskStatus.Outstanding]) other.direct facts.direct part.1
        (other.owners part partIn) ?_
      rw [isOwner]
      exact facts.owners _ listed
  · have share : next.unaudited other = task.unaudited other - if other = owner then allottedTotal allotted else 0 := by
      have parts := parts_of_rest owner (allottedTotal allotted) remaining task.filter.auditRemaining facts.distinct listed other
      rw [← rest] at parts
      rw [IncomeReclaim.unaudited, IncomeReclaim.unaudited, if_pos due, ← parts]
      rcases statuses with ⟨completed, nothing⟩ | ⟨charged, _⟩
      · rw [if_neg (by simp [completed]), nothing]
        rfl
      · rw [if_pos charged]
    have total : unauditedTotal reclaims other =
        unauditedTotal treasury.reclaims other - if other = owner then allottedTotal allotted else 0 := by
      rw [unauditedTotal, unauditedTotal, saved.total, share]
      omega
    have rows := reclaimed.reclaimed_total other
    rw [allotted_from_one owner other allotted owned] at rows
    have before := books.balanced other
    simp only [total, sameWallet]
    omega

theorem ReclaimBooks.direct_step {treasury : Treasury} (books : ReclaimBooks treasury) (env : WalletEnv) (operationID : String) :
    ReclaimBooks (treasuryStep env treasury (.processDirect operationID)) := by
  rw [treasuryStep, processDirectIncomeReclaimTask]
  split
  · rename_i _ after ran
    cases ran_direct env operationID treasury after ran with
    | idle => exact books
    | charged task balances locked wallet amounts total reclaims next _ waiting limited read isAmounts paid isNext saved =>
        exact books.charge waiting limited read isAmounts paid isNext saved
    | drained task reclaims _ due nothing saved =>
        have facts := books.charged task saved.old_mem due
        have none : task.filter.auditRemaining = [] := List.eq_nil_iff_forall_not_mem.mpr fun part partIn => by
          have positive := facts.positive part partIn
          have empty := nothing part partIn
          omega
        refine books.saved saved ⟨rfl, rfl, rfl, rfl⟩ rfl rfl (by simp) (fun outstanding => ?_) (fun owner => ?_) fun _ => rfl
        · simp [ReclaimTaskStatus.Outstanding] at outstanding
        · rw [IncomeReclaim.unaudited, if_pos due, none]
          rfl
    | audited task owner remaining allotted market reclaims next _ due first reclaimed selected _ within isNext saved =>
        exact books.audit due first reclaimed selected within isNext saved
  · rcases marked_task operationID (fun status => status = .debitPending) .failed treasury with same | ⟨task, reclaims, _, eligible, marked, saved⟩
    · rw [same]
      exact books
    · have waiting : task.status = .debitPending := by simpa using eligible
      rw [marked]
      refine books.saved saved ⟨rfl, rfl, rfl, rfl⟩ rfl rfl (by simp) (fun outstanding => ?_) (unaudited_of_status task (by simp [waiting]))
        fun done => (not_done_of_status task (by simp [waiting]) (by simp [waiting]) done).elim
      simp [ReclaimTaskStatus.Outstanding] at outstanding

def ClearStep (treasury : Treasury) : TreasuryOp → Prop
  | .processReclaim operationID => Clear treasury operationID
  | _ => True

instance (treasury : Treasury) (op : TreasuryOp) : Decidable (ClearStep treasury op) :=
  match op with
  | .market _ => isTrue trivial
  | .createReclaim _ => isTrue trivial
  | .processReclaim operationID => inferInstanceAs (Decidable (Clear treasury operationID))
  | .processDirect _ => isTrue trivial

-- A run in which every task that is processed finds a clear state.
def ClearRun (env : WalletEnv) : Treasury → List TreasuryOp → Prop
  | _, [] => True
  | treasury, op :: rest => ClearStep treasury op ∧ ClearRun env (treasuryStep env treasury op) rest

def decideClearRun (env : WalletEnv) : (treasury : Treasury) → (ops : List TreasuryOp) → Decidable (ClearRun env treasury ops)
  | _, [] => isTrue trivial
  | treasury, op :: rest => @instDecidableAnd _ _ inferInstance (decideClearRun env (treasuryStep env treasury op) rest)

instance (env : WalletEnv) (treasury : Treasury) (ops : List TreasuryOp) : Decidable (ClearRun env treasury ops) := decideClearRun env treasury ops

theorem ReclaimBooks.step {treasury : Treasury} (books : ReclaimBooks treasury) (env : WalletEnv) (ids : ∀ number, Tight (env.uuid number))
    (settled : Settled treasury.market) (op : TreasuryOp) (clear : ClearStep treasury op) : ReclaimBooks (treasuryStep env treasury op) := by
  cases op with
  | market op => exact books.market_step env ids settled op
  | createReclaim filter => exact books.create_step env filter
  | processReclaim operationID => exact books.process_step env operationID clear
  | processDirect operationID => exact books.direct_step env operationID

-- Before the first settlement and the first task, whatever else the ledger holds.
structure NewTreasury (treasury : Treasury) : Prop where
  unsettled : treasury.market.settlements.rows = []
  untasked : treasury.reclaims.rows = []
  uncredited : ∀ entry ∈ treasury.market.wallet.ledger.entries.rows, ∀ settlementID, ¬ CreditKey entry.idempotencyKey settlementID
  untaken : ∀ entry ∈ treasury.market.wallet.ledger.entries.rows, ¬ StartsWith reclaimEntryFront entry.idempotencyKey
  unheld : ∀ reservation ∈ treasury.market.wallet.ledger.reservations.rows, ¬ StartsWith reclaimHoldFront reservation.idempotencyKey

theorem NewTreasury.books {treasury : Treasury} (new : NewTreasury treasury) : ReclaimBooks treasury := by
  have noTask : ∀ task, task ∉ treasury.reclaims.rows := by simp [new.untasked]
  have foreign : ∀ reservation ∈ treasury.market.wallet.ledger.reservations.rows, ∀ taskID stage owner,
      reservation.idempotencyKey ≠ reclaimHoldKey taskID stage owner := by
    intro reservation member taskID stage owner key
    obtain ⟨rest, front, _⟩ := reclaim_hold_front taskID stage owner
    exact new.unheld reservation member ((key.trans front) ▸ starts_with_append _ _)
  refine ⟨fun entry member taken => (new.untaken entry member taken).elim, ⟨fun task member => (noTask task member).elim,
    fun task member => (noTask task member).elim, fun task member => (noTask task member).elim⟩,
    ⟨fun reservation member taskID batchNumber owner key => (foreign reservation member _ _ _ key).elim,
      fun reservation member taskID owner key => (foreign reservation member _ _ _ key).elim⟩, fun task member => (noTask task member).elim,
    fun owner => ?_⟩
  have nothing : debitedByReclaims treasury.market.wallet.ledger owner = 0 :=
    List.sum_eq_zero (List.forall_mem_map.mpr fun entry member => if_neg fun taken => new.untaken entry member taken.2.1)
  simp [nothing, reclaimedTotal, unauditedTotal, Table.total, new.unsettled, new.untasked]

theorem reclaim_books_run (env : WalletEnv) (ids : ∀ number, Tight (env.uuid number)) (treasury : Treasury) (settled : Settled treasury.market)
    (books : ReclaimBooks treasury) (ops : List TreasuryOp) (clear : ClearRun env treasury ops) :
    ReclaimBooks (run (treasuryStep env) treasury ops) := by
  induction ops generalizing treasury with
  | nil => exact books
  | cons op rest ih =>
      exact ih _ ((moved_by_treasury env ids treasury settled op).settled settled) (books.step env ids settled op clear.1) clear.2

-- The settlements of an owner that were ever released.
def EverReleased (owner : Int) (item : Settlement) : Prop := item.ownerUserID = owner ∧ (item.status = .released ∨ item.status = .reclaimed)

instance (owner : Int) (item : Settlement) : Decidable (EverReleased owner item) := inferInstanceAs (Decidable (_ ∧ _))

theorem reclaimed_of_released {settlements : Table Settlement} (sound : ∀ item ∈ settlements.rows, RowSound item) (owner : Int) :
    reclaimedTotal settlements owner = settlements.total fun item => if EverReleased owner item then item.reclaimedAmount else 0 := by
  refine Table.total_congr _ _ _ fun item member => ?_
  by_cases owned : item.ownerUserID = owner
  · have untouched := (sound item member).untouched
    cases status : item.status <;> simp_all [EverReleased]
  · simp [owned, EverReleased]

-- A single charged task may still owe an owner's settlements their marks, and they cover it.
theorem ReclaimBooks.unaudited_covered {treasury : Treasury} (books : ReclaimBooks treasury)
    (sound : ∀ item ∈ treasury.market.settlements.rows, RowSound item) (owner : Int) :
    unauditedTotal treasury.reclaims owner ≤
      treasury.market.settlements.total fun item => if EverReleased owner item then item.reclaimable else 0 := by
  have nonneg : ∀ item ∈ treasury.market.settlements.rows, 0 ≤ if EverReleased owner item then item.reclaimable else 0 := by
    intro item member
    have covered := (sound item member).covered
    simp only [Settlement.reclaimable]
    split <;> omega
  by_cases owes : ∃ task ∈ treasury.reclaims.rows, task.status = .charged ∧ ∃ part ∈ task.filter.auditRemaining, part.1 = owner
  · obtain ⟨task, taskIn, charged, part, partIn, rfl⟩ := owes
    have facts := books.charged task taskIn charged
    have alone : unauditedTotal treasury.reclaims part.1 = task.unaudited part.1 := by
      refine Table.total_single _ _ task taskIn fun other otherIn different => ?_
      unfold IncomeReclaim.unaudited
      split
      · rename_i otherCharged
        have otherFacts := books.charged other otherIn otherCharged
        refine parts_of_absent _ _ fun piece pieceIn same => ?_
        refine books.registered.apart other otherIn task taskIn (fun sameID => different (clash_of_task_id _ _ sameID.symm))
          (by simp [otherCharged, ReclaimTaskStatus.Outstanding]) (by simp [charged, ReclaimTaskStatus.Outstanding]) otherFacts.direct facts.direct
          piece.1 (otherFacts.owners piece pieceIn) ?_
        rw [same]
        exact facts.owners part partIn
      · rfl
    rw [alone, IncomeReclaim.unaudited, if_pos charged, parts_of_mem _ facts.distinct part partIn]
    refine (facts.covered part partIn).trans (List.sum_le_sum fun item member => ?_)
    rw [scopeWeight]
    split
    · rename_i selected
      obtain ⟨own, isOwner⟩ := (scope_selects_iff _ _ item (facts.owners part partIn)).mp selected
      rw [if_pos ⟨isOwner, .inl own.1⟩]
    · exact nonneg item member
  · have nothing : unauditedTotal treasury.reclaims owner = 0 := by
      refine List.sum_eq_zero (List.forall_mem_map.mpr fun task taskIn => ?_)
      unfold IncomeReclaim.unaudited
      split
      · rename_i charged
        exact parts_of_absent _ _ fun part partIn same => owes ⟨task, taskIn, charged, part, partIn, same⟩
      · rfl
    rw [nothing]
    exact List.sum_nonneg (List.forall_mem_map.mpr nonneg)

-- Earnings are reclaimed at most once in every run of clear steps.
theorem reclaimed_at_most_once (env : WalletEnv) (ids : ∀ number, Tight (env.uuid number)) (start : Treasury) (new : NewTreasury start)
    (ops : List TreasuryOp) (clear : ClearRun env start ops) (final : Treasury) (reached : run (treasuryStep env) start ops = final) (owner : Int) :
    debitedByReclaims final.market.wallet.ledger owner ≤
        (final.market.settlements.total fun item => if EverReleased owner item then item.ownerNetAmount else 0) ∧
      ((∀ task ∈ final.reclaims.rows, ¬ task.status.Outstanding) →
        debitedByReclaims final.market.wallet.ledger owner =
          final.market.settlements.total fun item => if EverReleased owner item then item.reclaimedAmount else 0) := by
  have opening := settled_opening start.market new.unsettled new.uncredited
  have books : ReclaimBooks final := reached ▸ reclaim_books_run env ids start opening new.books ops clear
  have sound : ∀ item ∈ final.market.settlements.rows, RowSound item := (reached ▸ settled_run env ids start opening ops : Settled final.market).rows
  have balanced := books.balanced owner
  rw [reclaimed_of_released sound] at balanced
  refine ⟨?_, fun finished => ?_⟩
  · have covered := books.unaudited_covered sound owner
    have split : (final.market.settlements.total fun item => if EverReleased owner item then item.ownerNetAmount else 0) =
        (final.market.settlements.total fun item => if EverReleased owner item then item.reclaimedAmount else 0) +
          final.market.settlements.total fun item => if EverReleased owner item then item.reclaimable else 0 := by
      unfold Table.total
      rw [← List.sum_map_add]
      refine congrArg List.sum (List.map_congr_left fun item _ => ?_)
      simp only [Settlement.reclaimable]
      split <;> omega
    omega
  · have nothing : unauditedTotal final.reclaims owner = 0 := by
      refine List.sum_eq_zero (List.forall_mem_map.mpr fun task taskIn => ?_)
      exact unaudited_of_status task (fun charged => finished task taskIn (.inr (.inl charged))) owner
    rw [balanced, nothing, Int.add_zero]

-- The owner brings a balance of another origin, which a second debit can reach.
def wealthyTreasury : Treasury :=
  ⟨{ emptyMarket with wallet := ⟨Ledger.empty, ⟨[{ id := 1 }, { id := 7, claudeQuota := 1000 }], by decide⟩, .empty, .empty⟩ }, .empty⟩

theorem new_wealthy_treasury : NewTreasury wealthyTreasury := by
  refine ⟨rfl, rfl, ?_, ?_, ?_⟩ <;> simp [wealthyTreasury, Ledger.empty]

-- A direct task is charged and audited before the next task looks at the same owner.
def orderlyOps : List TreasuryOp :=
  [.market (.record (sampleRecord "req1")), .market (.release "a2f"),
    .createReclaim { ownerUserIDs := [7], operationID := "first", direct := true }, .processDirect "first", .processDirect "first",
    .createReclaim { ownerUserIDs := [7], operationID := "second" }, .processReclaim "second"]

theorem reclaimed_at_most_once_orderly :
    debitedByReclaims (run (treasuryStep (sampleWalletEnv true)) wealthyTreasury orderlyOps).market.wallet.ledger 7 ≤
      (run (treasuryStep (sampleWalletEnv true)) wealthyTreasury orderlyOps).market.settlements.total fun item =>
        if EverReleased 7 item then item.ownerNetAmount else 0 := by
  have clear : ClearRun (sampleWalletEnv true) wealthyTreasury orderlyOps := by decide +kernel
  exact (reclaimed_at_most_once (sampleWalletEnv true) (fun _ => tight_wrapped _ _ _ (by decide) (by decide)) wealthyTreasury
    new_wealthy_treasury orderlyOps clear _ rfl 7).1

-- A task of the other kind is not checked against the charged one and takes the same earnings again.
def overlappingOps : List TreasuryOp :=
  [.market (.record (sampleRecord "req1")), .market (.release "a2f"),
    .createReclaim { ownerUserIDs := [7], operationID := "first", direct := true }, .processDirect "first",
    .createReclaim { ownerUserIDs := [7], operationID := "second" }, .processReclaim "second"]

theorem overlapping_tasks_debit_twice :
    debitedByReclaims (run (treasuryStep (sampleWalletEnv true)) wealthyTreasury overlappingOps).market.wallet.ledger 7 = 190 ∧
      ((run (treasuryStep (sampleWalletEnv true)) wealthyTreasury overlappingOps).market.settlements.total fun item =>
        if EverReleased 7 item then item.ownerNetAmount else 0) = 95 := by
  decide +kernel

end CodeGo.Marketplace
