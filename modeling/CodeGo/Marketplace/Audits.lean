import CodeGo.Marketplace.Takeback
import CodeGo.Marketplace.Allotments

set_option autoImplicit false

namespace CodeGo.Marketplace

open Relational Text Billing

/- A direct task after its charge. Each call marks the oldest settlements of one owner, and the
   receipt says what is still to be marked. -/

-- What has been reclaimed of the settlement with this id.
def reclaimedOf (settlements : Table Settlement) (settlementID : String) : Int :=
  settlements.total fun item => if item.id = settlementID then item.reclaimedAmount else 0

theorem reclaimed_of_row (settlements : Table Settlement) (item : Settlement) (member : item ∈ settlements.rows) :
    reclaimedOf settlements item.id = item.reclaimedAmount := by
  have alone := Table.total_single (fun other : Settlement => if other.id = item.id then other.reclaimedAmount else 0) settlements item member
    fun other _ different => if_neg fun same => different (clash_of_settlement_id _ _ same.symm)
  exact alone.trans (if_pos rfl)

-- What an allotment takes from one settlement.
def allottedOf (allotted : List (Settlement × Int)) (settlementID : String) : Int :=
  (allotted.map fun part => if part.1.id = settlementID then part.2 else 0).sum

theorem RowsReclaimed.reclaimed_of {market after : Market} {allotted : List (Settlement × Int)} (reclaimed : RowsReclaimed market allotted after)
    (settlementID : String) : reclaimedOf after.settlements settlementID = reclaimedOf market.settlements settlementID + allottedOf allotted settlementID := by
  rw [reclaimedOf, reclaimed.totals, reclaimedOf, allottedOf]
  congr 2
  refine List.map_congr_left fun part _ => ?_
  simp only [reclaimRow]
  by_cases named : part.1.id = settlementID
  · simp only [named, if_true]
    omega
  · simp only [named, if_false, Int.sub_self]

theorem allotted_of_absent (allotted : List (Settlement × Int)) (settlementID : String) (absent : ∀ part ∈ allotted, part.1.id ≠ settlementID) :
    allottedOf allotted settlementID = 0 :=
  List.sum_eq_zero (List.forall_mem_map.mpr fun part member => if_neg (absent part member))

theorem allotted_of_mem (allotted : List (Settlement × Int)) (distinct : (allotted.map Prod.fst).Pairwise fun first second => first.id ≠ second.id)
    (part : Settlement × Int) (member : part ∈ allotted) : allottedOf allotted part.1.id = part.2 := by
  induction allotted with
  | nil => simp at member
  | cons head rest ih =>
      rw [List.map_cons, List.pairwise_cons] at distinct
      have split : allottedOf (head :: rest) part.1.id = (if head.1.id = part.1.id then head.2 else 0) + allottedOf rest part.1.id := by
        rw [allottedOf, List.map_cons, List.sum_cons, allottedOf]
      rcases List.mem_cons.mp member with rfl | later
      · have others := allotted_of_absent rest part.1.id fun other otherIn same => distinct.1 _ (List.mem_map_of_mem otherIn) same.symm
        rw [split, if_pos rfl, others, Int.add_zero]
      · have different : head.1.id ≠ part.1.id := distinct.1 _ (List.mem_map_of_mem later)
        rw [split, if_neg different, ih distinct.2 later, Int.zero_add]

-- Nothing outside a selection is marked, and nothing of it before all that is older is used up.
structure OldestFirst (filter : ReleaseFilter) (before after : Market) : Prop where
  outside : ∀ item ∈ before.settlements.rows, ¬ filter.Selects item → reclaimedOf after.settlements item.id = item.reclaimedAmount
  ordered : ∀ older ∈ before.settlements.rows, ∀ newer ∈ before.settlements.rows, filter.Selects older → filter.Selects newer →
    older.Before newer → older.id ≠ newer.id → reclaimedOf after.settlements newer.id ≠ newer.reclaimedAmount →
      reclaimedOf after.settlements older.id = older.ownerNetAmount

theorem oldest_first_of_allot (filter : ReleaseFilter) (limit : Int) (bound : Nat) (market after : Market)
    (ran : reclaimRows (allot (some limit) ((reclaimSettlementQuery filter market).take bound)) market = (.ok (), after)) :
    OldestFirst filter market after := by
  have items := List.take_sublist bound (reclaimSettlementQuery filter market)
  obtain ⟨reclaimed, selected⟩ := reclaimed_from_query filter (some limit) _ market after ran items
  have distinct := ((reclaim_query_distinct filter market).sublist items).sublist (allot_items (some limit) _)
  have listed : ∀ part ∈ allot (some limit) ((reclaimSettlementQuery filter market).take bound), part.1 ∈ market.settlements.rows :=
    fun part member => ((mem_reclaim_query _ _ _).mp (items.subset ((allot_items _ _).subset (List.mem_map_of_mem member)))).1
  -- What the rows say after the marks is what they said before and the amount allotted to each.
  have after_of : ∀ item ∈ market.settlements.rows, reclaimedOf after.settlements item.id = item.reclaimedAmount +
      allottedOf (allot (some limit) ((reclaimSettlementQuery filter market).take bound)) item.id := fun item member => by
    rw [reclaimed.reclaimed_of, reclaimed_of_row _ _ member]
  refine ⟨fun item member unselected => ?_, fun older olderIn newer newerIn olderSelected _ before different marked => ?_⟩
  · rw [after_of item member, allotted_of_absent, Int.add_zero]
    intro part partIn same
    have row : part.1 = item := Table.eq_of_clash _ _ _ (listed part partIn) member (clash_of_settlement_id _ _ same)
    exact unselected (row ▸ selected part partIn)
  · have reached : ∃ part ∈ allot (some limit) ((reclaimSettlementQuery filter market).take bound), part.1.id = newer.id := by
      by_contra absent
      push Not at absent
      exact marked (by rw [after_of newer newerIn, allotted_of_absent _ _ absent, Int.add_zero])
    obtain ⟨part, partIn, same⟩ := reached
    have row : part.1 = newer := Table.eq_of_clash _ _ _ (listed part partIn) newerIn (clash_of_settlement_id _ _ same)
    have whole := allot_oldest_first limit bound _ (reclaim_query_sorted filter market) (reclaim_query_distinct filter market) older
      ((mem_reclaim_query _ _ _).mpr ⟨olderIn, olderSelected⟩) part partIn (row.symm ▸ before) (row.symm ▸ different)
    rw [after_of older olderIn, allotted_of_mem _ distinct _ whole]
    simp only [Settlement.reclaimable]
    omega

theorem audit_rest_absent (owner amount : Int) (remaining : List (Int × Int)) (absent : ∀ part ∈ remaining, part.1 ≠ owner) :
    auditRest owner amount remaining = remaining := by
  induction remaining with
  | nil => rfl
  | cons part rest ih =>
      have different := absent part (by simp)
      have others := ih fun other otherIn => absent other (by simp [otherIn])
      have split : auditRest owner amount (part :: rest) = part :: auditRest owner amount rest := by simp [auditRest, different]
      rw [split, others]

theorem audit_rest_total (owner amount left : Int) (remaining : List (Int × Int)) (distinct : (remaining.map Prod.fst).Nodup)
    (member : (owner, left) ∈ remaining) :
    ((auditRest owner amount remaining).map Prod.snd).sum = (remaining.map Prod.snd).sum - amount := by
  induction remaining with
  | nil => simp at member
  | cons part rest ih =>
      rw [List.map_cons, List.nodup_cons] at distinct
      rcases List.mem_cons.mp member with rfl | later
      · have others := audit_rest_absent owner amount rest fun other otherIn same => distinct.1 (List.mem_map.mpr ⟨other, otherIn, same⟩)
        have split : auditRest owner amount ((owner, left) :: rest) =
            (if left - amount = 0 then [] else [(owner, left - amount)]) ++ auditRest owner amount rest := by
          by_cases nothing : left - amount = 0 <;> simp [auditRest, nothing]
        rw [split, others]
        by_cases nothing : left - amount = 0
        · rw [if_pos nothing, List.nil_append, List.map_cons, List.sum_cons]
          omega
        · rw [if_neg nothing, List.singleton_append, List.map_cons, List.map_cons, List.sum_cons, List.sum_cons]
          omega
      · have different : part.1 ≠ owner := fun same => distinct.1 (same ▸ List.mem_map_of_mem later)
        have split : auditRest owner amount (part :: rest) = part :: auditRest owner amount rest := by simp [auditRest, different]
        rw [split, List.map_cons, List.sum_cons, List.map_cons, List.sum_cons, ih distinct.2 later]
        omega

-- One call on a charged receipt: one owner's oldest settlements are marked and the receipt is reduced by as much.
structure AuditCall (task : IncomeReclaim) (before after : Treasury) (owner amount : Int) (next : IncomeReclaim) : Prop where
  wallet : after.market.wallet = before.market.wallet
  listed : ∃ left, (owner, left) ∈ task.filter.auditRemaining ∧ 0 < amount ∧ amount ≤ left
  marked : ∀ other, reclaimedTotal after.market.settlements other =
    reclaimedTotal before.market.settlements other + if other = owner then amount else 0
  oldest : OldestFirst (task.filter.scope owner) before.market after.market
  filter : next.filter = { task.filter with auditRemaining := auditRest owner amount task.filter.auditRemaining }
  status : next.status = if auditRest owner amount task.filter.auditRemaining = [] then .completed else .charged
  charges : next.ownerAmounts = task.ownerAmounts ∧ next.amount = task.amount ∧ next.id = task.id
  covered : ChargedTask after.market.settlements next
  saved : Table.Replaced before.reclaims after.reclaims task next

theorem scope_not_empty (filter : ReleaseFilter) (owner : Int) (market : Market) (something : 0 < scopeTotal market.settlements filter owner) :
    reclaimSettlementQuery (filter.scope owner) market ≠ [] := by
  intro nothing
  have total := selected_total (filter.scope owner) market owner (List.mem_singleton.mpr rfl)
  rw [nothing] at total
  exact absurd total.symm something.ne'

-- What the audit of one owner allots.
def auditAllotment (task : IncomeReclaim) (owner remaining : Int) (market : Market) : List (Settlement × Int) :=
  allot (some remaining) ((reclaimSettlementQuery (task.filter.scope owner) market).take reclaimBatchSize)

def auditedTask (task : IncomeReclaim) (owner : Int) (allotted : List (Settlement × Int)) : IncomeReclaim :=
  { task with
    filter := { task.filter with auditRemaining := auditRest owner (allottedTotal allotted) task.filter.auditRemaining },
    count := task.count + allotted.length, batchNumber := task.batchNumber + 1,
    status := if auditRest owner (allottedTotal allotted) task.filter.auditRemaining = [] then .completed else task.status }

theorem audit_saves (task : IncomeReclaim) (treasury : Treasury) (owner remaining : Int) (settlements : Table Settlement)
    (first : task.filter.auditRemaining.find? (fun part => part.2 > 0) = some (owner, remaining))
    (rows : reclaimRows (auditAllotment task owner remaining treasury.market) treasury.market = (.ok (), { treasury.market with settlements }))
    (matched : ¬ (allottedTotal (auditAllotment task owner remaining treasury.market) ≤ 0 ∨
      allottedTotal (auditAllotment task owner remaining treasury.market) > remaining)) :
    auditDirectReclaimTx task treasury =
      saveTask (auditedTask task owner (auditAllotment task owner remaining treasury.market))
        { treasury with market := { treasury.market with settlements } } := by
  have marking : onMarket (reclaimRows (auditAllotment task owner remaining treasury.market)) treasury =
      (.ok (), { treasury with market := { treasury.market with settlements } }) := (ran_on_market _ _ _ _).mpr ⟨_, rows, rfl⟩
  rw [auditDirectReclaimTx, first]
  exact (Tx.bind_ran marking _).trans (Tx.bind_accepted matched _ _ _)

-- While its settlements cover it, a charged receipt can always be audited further.
theorem audit_ran (env : WalletEnv) (treasury : Treasury) (task : IncomeReclaim) (member : task ∈ treasury.reclaims.rows)
    (due : task.status = .charged) (facts : ChargedTask treasury.market.settlements task) (left : task.filter.auditRemaining ≠ []) :
    ∃ after owner amount next, processDirectReclaimTx env task.id treasury = (.ok (), after) ∧ AuditCall task treasury after owner amount next := by
  obtain ⟨⟨owner, remaining⟩, rest, parts⟩ := List.exists_cons_of_ne_nil left
  have listed : (owner, remaining) ∈ task.filter.auditRemaining := by rw [parts]; exact List.mem_cons_self
  have positive : 0 < remaining := facts.positive _ listed
  have covered : remaining ≤ scopeTotal treasury.market.settlements task.filter owner := facts.covered _ listed
  have first : task.filter.auditRemaining.find? (fun part => part.2 > 0) = some (owner, remaining) := by
    rw [parts, List.find?_cons_of_pos (by simpa using positive)]
  have items := List.take_sublist reclaimBatchSize (reclaimSettlementQuery (task.filter.scope owner) treasury.market)
  have unused : ∀ item ∈ (reclaimSettlementQuery (task.filter.scope owner) treasury.market).take reclaimBatchSize, 0 < item.reclaimable :=
    fun item itemIn => reclaimable_of_selected ((mem_reclaim_query _ _ _).mp (items.subset itemIn)).2
  -- The oldest batch has something left and is not asked for more than the receipt says.
  have batch : (reclaimSettlementQuery (task.filter.scope owner) treasury.market).take reclaimBatchSize ≠ [] := by
    have query := scope_not_empty task.filter owner treasury.market (positive.trans_le covered)
    simpa [reclaimBatchSize, List.take_eq_nil_iff] using query
  have there := sum_reclaimable_pos _ unused batch
  have total : allottedTotal (auditAllotment task owner remaining treasury.market) = _ := allot_some_total remaining _ unused positive.le
  obtain ⟨settlements, rows⟩ : ∃ settlements, reclaimRows (auditAllotment task owner remaining treasury.market) treasury.market =
      (.ok (), { treasury.market with settlements }) := ⟨_, reclaim_rows_ran _ _⟩
  obtain ⟨reclaimed, selected⟩ : RowsReclaimed treasury.market (auditAllotment task owner remaining treasury.market) { treasury.market with settlements } ∧
      ∀ part ∈ auditAllotment task owner remaining treasury.market, (task.filter.scope owner).Selects part.1 :=
    reclaimed_from_query _ _ _ _ _ rows items
  have owned : ∀ part ∈ auditAllotment task owner remaining treasury.market, part.1.ownerUserID = owner := fun part partIn =>
    ((scope_selects_iff _ _ _ (facts.owners _ listed)).mp (selected part partIn)).2
  have saves := audit_saves task treasury owner remaining settlements first rows (by omega)
  have direct : ¬ (task.filter.direct = false ∨ task.filter.ownerUserIDs = []) := by
    rw [not_or, facts.direct]
    exact ⟨by simp, List.ne_nil_of_mem (facts.owners _ listed)⟩
  obtain ⟨reclaims, saving, saved⟩ := save_task_ran task (auditedTask task owner (auditAllotment task owner remaining treasury.market))
    { treasury with market := { treasury.market with settlements } } member rfl rfl
  refine ⟨⟨{ treasury.market with settlements }, reclaims⟩, owner, allottedTotal (auditAllotment task owner remaining treasury.market),
    auditedTask task owner (auditAllotment task owner remaining treasury.market), ?_, rfl, ⟨remaining, listed, ?_, ?_⟩, fun other => ?_,
    oldest_first_of_allot _ _ _ _ _ rows, rfl, ?_, ⟨rfl, rfl, rfl⟩, facts.audited listed reclaimed selected ?_ rfl, saved⟩
  · rw [processDirectReclaimTx, Tx.bind_ran (lock_task_ran treasury task member), if_neg (by simp [due]), Tx.bind_accepted direct,
      if_neg (by simp [due]), saves, saving]
  · omega
  · omega
  · rw [reclaimed.reclaimed_total, allotted_from_one owner other _ owned]
  · simp only [auditedTask, due]
  · omega

theorem charge_amounts_total (limit : Int) (shares : List (Int × Int)) (nonneg : ∀ share ∈ shares, 0 ≤ share.2) (start : 0 ≤ limit) :
    ((chargeAmounts limit shares).map Prod.snd).sum = min limit (shares.map Prod.snd).sum := by
  induction shares generalizing limit with
  | nil => simp [chargeAmounts, start]
  | cons share rest ih =>
      obtain ⟨owner, amount⟩ := share
      have here : 0 ≤ amount := nonneg (owner, amount) (by simp)
      have later : ∀ other ∈ rest, 0 ≤ other.2 := fun other member => nonneg other (by simp [member])
      have others : 0 ≤ (rest.map Prod.snd).sum := List.sum_nonneg (List.forall_mem_map.mpr later)
      simp only [chargeAmounts, List.map_cons, List.sum_cons]
      by_cases nothing : min amount limit ≤ 0
      · rw [if_pos nothing, ih limit later start]
        omega
      · rw [if_neg nothing, List.map_cons, List.sum_cons, ih _ later (by omega)]
        simp only
        omega

-- An owner gives no more than is spendable.
theorem charge_shares_spendable (totals balances : List (Int × Int)) (share : Int × Int) (member : share ∈ chargeShares totals balances) :
    share.2 ≤ max 0 ((balances.lookup share.1).getD 0) := by
  rw [chargeShares, List.mem_map] at member
  obtain ⟨total, _, rfl⟩ := member
  exact Int.min_le_right _ _

theorem charge_shares_nonneg (filter : ReleaseFilter) (market : Market) (balances : List (Int × Int)) (share : Int × Int)
    (member : share ∈ chargeShares (ownerTotals (allot none (reclaimSettlementQuery filter market))) balances) : 0 ≤ share.2 := by
  rw [chargeShares, List.mem_map] at member
  obtain ⟨total, totalIn, rfl⟩ := member
  rw [ownerTotals, List.mem_map] at totalIn
  obtain ⟨owner, _, rfl⟩ := totalIn
  have parts := allot_parts none (reclaimSettlementQuery filter market) fun item itemIn =>
    reclaimable_of_selected ((mem_reclaim_query _ _ _).mp itemIn).2
  have total : 0 ≤ allottedTotal ((allot none (reclaimSettlementQuery filter market)).filter fun part => part.1.ownerUserID = owner) :=
    allotted_total_nonneg fun part partIn => parts part (List.mem_of_mem_filter partIn)
  exact le_min total (Int.le_max_left _ _)

-- A charge debits each owner within the selection and the balance, and all of the maximum if there is one.
structure OwnersCharged (env : WalletEnv) (task : IncomeReclaim) (before after : Treasury) (amounts : List (Int × Int)) : Prop where
  debited : ∃ balances locked, lockMarketplaceReclaimBalancesTx env task.filter.ownerUserIDs before.market.wallet = (.ok balances, locked) ∧
    debitOwners env task.id "direct" amounts locked = (.ok (), after.market.wallet) ∧
    ∀ part ∈ amounts, 0 < part.2 ∧
      part.2 ≤ min (scopeTotal before.market.settlements task.filter part.1) (max 0 ((balances.lookup part.1).getD 0))
  whole : 0 < task.filter.maxAmount → (amounts.map Prod.snd).sum = task.filter.maxAmount

theorem ChargeRan.charged {env : WalletEnv} {task next : IncomeReclaim} {before after : Treasury} {balances shares amounts : List (Int × Int)}
    {locked : Wallet} (charge : ChargeRan env task before after balances shares amounts locked next) (limited : task.filter.ownerUserIDs ≠ []) :
    OwnersCharged env task before after amounts := by
  obtain ⟨read, rfl, affordable, rfl, paid, _, _, _⟩ := charge
  refine ⟨⟨balances, locked, read, paid, fun part member => ?_⟩, fun positive => ?_⟩
  · obtain ⟨more, _, covered⟩ := charge_amounts_sound task.filter before.market balances _ limited part member
    obtain ⟨_, share, shareIn, sameOwner, within⟩ := charge_amounts_within _ _ part member
    have spendable := charge_shares_spendable _ _ share shareIn
    rw [sameOwner] at spendable
    exact ⟨more, le_min covered (within.trans spendable)⟩
  · rw [if_pos positive, charge_amounts_total _ _ (charge_shares_nonneg task.filter before.market balances) positive.le]
    exact min_eq_left affordable

def auditLeft (task : IncomeReclaim) : Int := (task.filter.auditRemaining.map Prod.snd).sum

-- What others may do between two calls: nobody else touches the receipt or reclaims from its owners, and what it selects is not used up.
structure Undisturbed (task : IncomeReclaim) (before after : Treasury) : Prop where
  receipt : ∀ row ∈ before.reclaims.rows, row.id = task.id → row ∈ after.reclaims.rows
  marks : ∀ owner ∈ task.filter.ownerUserIDs,
    reclaimedTotal after.market.settlements owner = reclaimedTotal before.market.settlements owner
  kept : ∀ item ∈ before.market.settlements.rows, task.filter.Selects item → ∃ later ∈ after.market.settlements.rows,
    later.id = item.id ∧ later.ownerUserID = item.ownerUserID ∧ task.filter.Selects later ∧ item.reclaimable ≤ later.reclaimable

-- A run from a charged receipt, with the number of calls that were made on it.
inductive AuditRun (env : WalletEnv) (task : IncomeReclaim) (start : Treasury) : Nat → Treasury → Prop where
  | start : AuditRun env task start 0 start
  | others {calls : Nat} {before after : Treasury} (run : AuditRun env task start calls before) (undisturbed : Undisturbed task before after) :
      AuditRun env task start calls after
  | called {calls : Nat} {before : Treasury} (run : AuditRun env task start calls before) :
      AuditRun env task start (calls + 1) (processDirectIncomeReclaimTask env task.id before)

-- The receipt and the marks of its owners add up to the same at every point of a run.
structure Auditing (task : IncomeReclaim) (goal : Int → Int) (treasury : Treasury) (row : IncomeReclaim) : Prop where
  member : row ∈ treasury.reclaims.rows
  filter : row.filter = { task.filter with auditRemaining := row.filter.auditRemaining }
  charges : row.ownerAmounts = task.ownerAmounts ∧ row.amount = task.amount ∧ row.id = task.id
  state : (row.status = .charged ∧ row.filter.auditRemaining ≠ [] ∧ ChargedTask treasury.market.settlements row) ∨
    (row.status = .completed ∧ row.filter.auditRemaining = [])
  marked : ∀ owner ∈ task.filter.ownerUserIDs,
    reclaimedTotal treasury.market.settlements owner + partsOf owner row.filter.auditRemaining = goal owner

theorem sum_of_selected (filter : ReleaseFilter) (owner : Int) (rows : List Settlement) :
    (rows.map (scopeWeight filter owner)).sum =
      ((rows.filter fun item => (filter.scope owner).Selects item).map (scopeWeight filter owner)).sum := by
  induction rows with
  | nil => rfl
  | cons item rest ih =>
      by_cases selected : (filter.scope owner).Selects item
      · rw [List.filter_cons_of_pos (by simpa using selected), List.map_cons, List.map_cons, List.sum_cons, List.sum_cons, ih]
      · rw [List.filter_cons_of_neg (by simpa using selected), List.map_cons, List.sum_cons, ih, scopeWeight, if_neg selected, Int.zero_add]

theorem Undisturbed.scope_total {task row : IncomeReclaim} {before after : Treasury} (undisturbed : Undisturbed task before after)
    (filter : row.filter = { task.filter with auditRemaining := row.filter.auditRemaining }) (owner : Int)
    (listed : owner ∈ task.filter.ownerUserIDs) :
    scopeTotal before.market.settlements row.filter owner ≤ scopeTotal after.market.settlements row.filter owner := by
  have same : scopeWeight row.filter owner = scopeWeight task.filter owner := by
    rw [filter]
    rfl
  rw [scopeTotal, scopeTotal, same, Table.total, sum_of_selected]
  refine Table.sum_le_successors Settlement.id clash_of_settlement_id _ _ (before.market.settlements.unique.filter _)
    after.market.settlements.unique (fun item member => ?_) fun later _ => .inr (scope_weight_nonneg task.filter owner later)
  obtain ⟨itemIn, chosen⟩ := List.mem_filter.mp member
  have selected := of_decide_eq_true chosen
  obtain ⟨own, isOwner⟩ := (scope_selects_iff _ _ item listed).mp selected
  obtain ⟨later, laterIn, named, sameOwner, still, more⟩ := undisturbed.kept item itemIn own
  have again := (scope_selects_iff _ _ later listed).mpr ⟨still, sameOwner.trans isOwner⟩
  refine ⟨later, laterIn, named, ?_⟩
  rw [scopeWeight, scopeWeight, if_pos selected, if_pos again]
  exact more

theorem Auditing.others {task row : IncomeReclaim} {goal : Int → Int} {before after : Treasury} (auditing : Auditing task goal before row)
    (undisturbed : Undisturbed task before after) : Auditing task goal after row := by
  refine ⟨undisturbed.receipt row auditing.member auditing.charges.2.2, auditing.filter, auditing.charges, ?_, fun owner listed => ?_⟩
  · rcases auditing.state with ⟨due, left, facts⟩ | done
    · refine .inl ⟨due, left, facts.grows fun part member => undisturbed.scope_total auditing.filter part.1 ?_⟩
      have owner := facts.owners part member
      rw [auditing.filter] at owner
      exact owner
    · exact .inr done
  · rw [undisturbed.marks owner listed]
    exact auditing.marked owner listed

theorem AuditCall.less {task next : IncomeReclaim} {before after : Treasury} {owner amount : Int} (call : AuditCall task before after owner amount next)
    (distinct : (task.filter.auditRemaining.map Prod.fst).Nodup) : auditLeft next < auditLeft task := by
  obtain ⟨left, listed, positive, _⟩ := call.listed
  rw [auditLeft, call.filter, auditLeft, audit_rest_total owner amount left _ distinct listed]
  omega

theorem Auditing.call {task row next : IncomeReclaim} {goal : Int → Int} {before after : Treasury} {owner amount : Int}
    (auditing : Auditing task goal before row) (distinct : (row.filter.auditRemaining.map Prod.fst).Nodup)
    (call : AuditCall row before after owner amount next) : Auditing task goal after next := by
  obtain ⟨left, listed, _, _⟩ := call.listed
  have rest : next.filter.auditRemaining = auditRest owner amount row.filter.auditRemaining := by rw [call.filter]
  refine ⟨call.saved.new_mem, ?_, ⟨call.charges.1.trans auditing.charges.1, call.charges.2.1.trans auditing.charges.2.1,
    call.charges.2.2.trans auditing.charges.2.2⟩, ?_, fun other otherIn => ?_⟩
  · rw [call.filter, auditing.filter]
  · rw [call.status, rest]
    by_cases nothing : auditRest owner amount row.filter.auditRemaining = []
    · exact .inr ⟨if_pos nothing, nothing⟩
    · exact .inl ⟨if_neg nothing, nothing, call.covered⟩
  · have before := auditing.marked other otherIn
    rw [call.marked, rest, parts_of_rest owner amount left _ distinct listed]
    omega

-- A call on a receipt that is not waiting and not charged does nothing.
theorem finished_ran (env : WalletEnv) (treasury : Treasury) (task : IncomeReclaim) (member : task ∈ treasury.reclaims.rows)
    (completed : task.status = .completed) : processDirectReclaimTx env task.id treasury = (.ok (), treasury) := by
  rw [processDirectReclaimTx, Tx.bind_ran (lock_task_ran treasury task member), if_pos (by simp [completed])]
  rfl

theorem process_of_ran {env : WalletEnv} {operationID : String} {treasury after : Treasury}
    (ran : processDirectReclaimTx env operationID treasury = (.ok (), after)) : processDirectIncomeReclaimTask env operationID treasury = after := by
  rw [processDirectIncomeReclaimTask, ran]

theorem Auditing.left_pos {task row : IncomeReclaim} {goal : Int → Int} {treasury : Treasury} (auditing : Auditing task goal treasury row)
    (due : row.status = .charged) : 0 < auditLeft row := by
  rcases auditing.state with ⟨_, left, facts⟩ | ⟨completed, _⟩
  · exact sum_pos_of_parts _ facts.positive left
  · simp [completed] at due

-- Each call either finds the receipt done or makes it smaller.
theorem Auditing.called {task row : IncomeReclaim} {goal : Int → Int} {treasury : Treasury} (auditing : Auditing task goal treasury row)
    (env : WalletEnv) : ∃ after, processDirectReclaimTx env task.id treasury = (.ok (), after) ∧ after.market.wallet = treasury.market.wallet ∧
      ((row.status = .completed ∧ after = treasury) ∨ (row.status = .charged ∧ ∃ owner amount next, AuditCall row treasury after owner amount next ∧
        auditLeft next < auditLeft row ∧ Auditing task goal after next)) := by
  rw [← auditing.charges.2.2]
  rcases auditing.state with ⟨due, left, facts⟩ | ⟨completed, _⟩
  · obtain ⟨after, owner, amount, next, ran, call⟩ := audit_ran env treasury row auditing.member due facts left
    exact ⟨after, ran, call.wallet, .inr ⟨due, owner, amount, next, call, call.less facts.distinct, auditing.call facts.distinct call⟩⟩
  · exact ⟨treasury, finished_ran env treasury row auditing.member completed, rfl, .inl ⟨completed, rfl⟩⟩

theorem audit_run (env : WalletEnv) (task : IncomeReclaim) (goal : Int → Int) (start : Treasury) (begins : Auditing task goal start task)
    (calls : Nat) (final : Treasury) (run : AuditRun env task start calls final) :
    ∃ row, Auditing task goal final row ∧ (row.status = .completed ∨ calls + auditLeft row ≤ auditLeft task) := by
  induction run with
  | start => exact ⟨task, begins, .inr (by simp)⟩
  | others _ undisturbed ih =>
      obtain ⟨row, auditing, progress⟩ := ih
      exact ⟨row, auditing.others undisturbed, progress⟩
  | called _ ih =>
      obtain ⟨row, auditing, progress⟩ := ih
      obtain ⟨after, ran, _, outcome⟩ := auditing.called env
      rw [process_of_ran ran]
      rcases outcome with ⟨completed, rfl⟩ | ⟨due, _, _, next, _, less, again⟩
      · exact ⟨row, auditing, .inl completed⟩
      · refine ⟨next, again, .inr ?_⟩
        rcases progress with completed | before
        · simp [completed] at due
        · push_cast
          omega

theorem direct_of_waiting (env : WalletEnv) (treasury after : Treasury) (task : IncomeReclaim) (member : task ∈ treasury.reclaims.rows)
    (waiting : task.status = .debitPending) (ran : processDirectReclaimTx env task.id treasury = (.ok (), after)) :
    (task.filter.direct = true ∧ task.filter.ownerUserIDs ≠ []) ∧ chargeDirectReclaimTx env task treasury = (.ok (), after) := by
  rw [processDirectReclaimTx, Tx.bind_ran (lock_task_ran treasury task member), if_neg (by simp [waiting]), Tx.ran_bind] at ran
  obtain ⟨_, _, passed, ran⟩ := ran
  rw [Tx.ran_reject] at passed
  obtain ⟨limited, rfl⟩ := passed
  rw [if_pos waiting] at ran
  rw [not_or, Bool.not_eq_false] at limited
  exact ⟨limited, ran⟩

-- What is left to mark of a receipt at the moment of its charge is what was charged.
theorem ChargeRan.auditing {env : WalletEnv} {task next : IncomeReclaim} {before after : Treasury} {balances shares amounts : List (Int × Int)}
    {locked : Wallet} (charge : ChargeRan env task before after balances shares amounts locked next)
    (limited : task.filter.direct = true ∧ task.filter.ownerUserIDs ≠ []) (untaken : task.amount = 0) (due : next.status = .charged) :
    Auditing next (fun owner => reclaimedTotal after.market.settlements owner + partsOf owner next.ownerAmounts) after next := by
  obtain ⟨_, rfl, _, rfl, _, rest, rfl, saved⟩ := charge
  refine ⟨saved.new_mem, rfl, ⟨rfl, rfl, rfl⟩, .inl ⟨due, fun nothing => ?_, ?_⟩, fun owner _ => rfl⟩
  · simp only at nothing due
    simp [nothing, untaken] at due
  · rw [rest]
    exact charged_receipt task.filter before.market balances _ _ limited rfl

-- A charged direct task is audited to the end in as many calls as it charged units at most, whatever else happens to other owners meanwhile.
theorem direct_reclaim_audited (env : WalletEnv) (treasury charged : Treasury) (task : IncomeReclaim) (member : task ∈ treasury.reclaims.rows)
    (waiting : task.status = .debitPending) (untaken : task.amount = 0)
    (ran : processDirectReclaimTx env task.id treasury = (.ok (), charged)) :
    ∃ receipt ∈ charged.reclaims.rows, receipt.id = task.id ∧ receipt.amount = (receipt.ownerAmounts.map Prod.snd).sum ∧
      receipt.filter = { task.filter with auditRemaining := receipt.ownerAmounts } ∧
      OwnersCharged env task treasury charged receipt.ownerAmounts ∧
      (receipt.status = .charged → ∀ calls final, AuditRun env receipt charged calls final →
        ∃ row ∈ final.reclaims.rows, row.id = task.id ∧ row.ownerAmounts = receipt.ownerAmounts ∧
          (∃ after, processDirectReclaimTx env task.id final = (.ok (), after) ∧ after.market.wallet = final.market.wallet ∧
            (row.status = .charged → ∃ owner amount next, AuditCall row final after owner amount next ∧ auditLeft next < auditLeft row)) ∧
          (receipt.amount ≤ calls → row.status = .completed) ∧
          (row.status = .completed → ∀ owner ∈ task.filter.ownerUserIDs, reclaimedTotal final.market.settlements owner =
            reclaimedTotal charged.market.settlements owner + partsOf owner receipt.ownerAmounts)) := by
  obtain ⟨limited, charging⟩ := direct_of_waiting env treasury charged task member waiting ran
  obtain ⟨balances, shares, amounts, locked, receipt, charge⟩ := ran_charge env task treasury charged member charging
  have isReceipt := charge.isNext
  have total : receipt.amount = (receipt.ownerAmounts.map Prod.snd).sum := by
    rw [isReceipt]
    simp only
    omega
  refine ⟨receipt, charge.saved.new_mem, by rw [isReceipt], total, by rw [isReceipt], ?_, fun due calls final run => ?_⟩
  · rw [isReceipt]
    exact charge.charged limited.2
  · have begins := charge.auditing limited untaken due
    obtain ⟨row, auditing, progress⟩ := audit_run env receipt _ charged begins calls final run
    have named : receipt.id = task.id := by rw [isReceipt]
    obtain ⟨after, called, kept, outcome⟩ := auditing.called env
    refine ⟨row, auditing.member, auditing.charges.2.2.trans named, auditing.charges.1, ⟨after, named ▸ called, kept, fun rowDue => ?_⟩,
      fun enough => ?_, fun completed owner listed => ?_⟩
    · rcases outcome with ⟨completed, _⟩ | ⟨_, owner, amount, next, call, less, _⟩
      · simp [completed] at rowDue
      · exact ⟨owner, amount, next, call, less⟩
    · rcases progress with completed | within
      · exact completed
      · have start : auditLeft receipt = receipt.amount := by
          rw [total, auditLeft, isReceipt]
        rcases auditing.state with ⟨rowDue, _⟩ | ⟨completed, _⟩
        · have positive := auditing.left_pos rowDue
          omega
        · exact completed
    · have same : owner ∈ receipt.filter.ownerUserIDs := by rw [isReceipt]; exact listed
      have marked := auditing.marked owner same
      rcases auditing.state with ⟨rowDue, _⟩ | ⟨_, nothing⟩
      · simp [completed] at rowDue
      · rw [nothing] at marked
        exact (Int.add_zero _).symm.trans marked

def waitingFilter : ReleaseFilter := { ownerUserIDs := [7], maxAmount := 1, direct := true }

def waitingTask : IncomeReclaim := { id := "first", fingerprint := waitingFilter, filter := waitingFilter, status := .debitPending }

def waitingTreasury : Treasury := run (treasuryStep (sampleWalletEnv true)) wealthyTreasury
  [.market (.record (sampleRecord "req1")), .market (.release "a2f"), .createReclaim { waitingFilter with operationID := "first" }]

def chargedTreasury : Treasury := (processDirectReclaimTx (sampleWalletEnv true) "first" waitingTreasury).2

theorem charged_ran : processDirectReclaimTx (sampleWalletEnv true) "first" waitingTreasury = (.ok (), chargedTreasury) :=
  (Tx.ran_of_accepted _ waitingTreasury (by decide +kernel)).choose_spec

theorem direct_reclaim_audited_one_unit :
    ∃ row ∈ (processDirectIncomeReclaimTask (sampleWalletEnv true) "first" chargedTreasury).reclaims.rows, row.id = "first" ∧
      row.status = .completed := by
  obtain ⟨receipt, receiptIn, named, _, _, _, runs⟩ := direct_reclaim_audited (sampleWalletEnv true) waitingTreasury chargedTreasury waitingTask
    (by decide +kernel) rfl rfl charged_ran
  have known : ∀ row ∈ chargedTreasury.reclaims.rows, row.status = .charged ∧ row.amount ≤ 1 := by decide +kernel
  obtain ⟨due, small⟩ := known receipt receiptIn
  have isFirst : receipt.id = "first" := named
  obtain ⟨row, rowIn, rowNamed, _, _, finished, _⟩ := runs due 1 _ (.called .start)
  rw [isFirst] at rowIn
  exact ⟨row, rowIn, rowNamed, finished small⟩

end CodeGo.Marketplace
