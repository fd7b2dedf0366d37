import CodeGo.Marketplace.Rows

set_option autoImplicit false

namespace CodeGo.Marketplace

open Relational Text Billing

/- How an amount is spread over a selection. The loop over rows, the pages of window sums and the
   batches of repeated runs all mark the same settlements with the same amounts. -/

instance : Std.Total Settlement.Before := ⟨fun first second => by
  unfold Settlement.Before
  have ids := le_total first.id second.id
  rcases lt_trichotomy first.createdAt second.createdAt with less | same | more
  · exact .inl (.inl less)
  · exact ids.imp (fun least => .inr ⟨same, least⟩) fun least => .inr ⟨same.symm, least⟩
  · exact .inr (.inl more)⟩

instance : IsTrans Settlement Settlement.Before := ⟨fun first second third early late => by
  unfold Settlement.Before at *
  rcases early with before | ⟨same, least⟩
  · rcases late with after | ⟨again, _⟩
    · exact .inl (before.trans after)
    · exact .inl (again ▸ before)
  · rcases late with after | ⟨again, more⟩
    · exact .inl (same ▸ after)
    · exact .inr ⟨same.trans again, least.trans more⟩⟩

theorem before_both_ways (first second : Settlement) (early : first.Before second) (late : second.Before first) : first.id = second.id := by
  unfold Settlement.Before at early late
  rcases early with before | ⟨_, least⟩
  · rcases late with after | ⟨same, _⟩ <;> omega
  · rcases late with after | ⟨_, more⟩
    · omega
    · exact le_antisymm least more

theorem reclaim_query_sorted (filter : ReleaseFilter) (market : Market) :
    (reclaimSettlementQuery filter market).Pairwise Settlement.Before :=
  List.pairwise_insertionSort Settlement.Before _

-- A limited allotment takes the limit or all there is.
theorem allot_some_total (limit : Int) (items : List Settlement) (left : ∀ item ∈ items, 0 < item.reclaimable) (nonneg : 0 ≤ limit) :
    allottedTotal (allot (some limit) items) = min limit (items.map Settlement.reclaimable).sum := by
  induction items generalizing limit with
  | nil => simp [allot, allottedTotal, nonneg]
  | cons item rest ih =>
      have here := left item (by simp)
      have later : ∀ other ∈ rest, 0 < other.reclaimable := fun other member => left other (by simp [member])
      have others : 0 ≤ (rest.map Settlement.reclaimable).sum :=
        List.sum_nonneg (List.forall_mem_map.mpr fun other member => Int.le_of_lt (later other member))
      simp only [allot, List.map_cons, List.sum_cons]
      by_cases nothing : min item.reclaimable limit ≤ 0
      · rw [if_pos nothing]
        simp only [allottedTotal, List.map_nil, List.sum_nil]
        omega
      · have next := ih (limit - min item.reclaimable limit) later (by omega)
        rw [if_neg nothing]
        simp only [allottedTotal, List.map_cons, List.sum_cons] at next ⊢
        omega

-- A settlement is reached only after every older one of the selection is used up.
theorem allot_oldest_first (limit : Int) (bound : Nat) (items : List Settlement) (sorted : items.Pairwise Settlement.Before)
    (distinct : items.Pairwise fun first second => first.id ≠ second.id) (older : Settlement) (olderIn : older ∈ items)
    (part : Settlement × Int) (partIn : part ∈ allot (some limit) (items.take bound)) (before : older.Before part.1) (different : older.id ≠ part.1.id) :
    (older, older.reclaimable) ∈ allot (some limit) (items.take bound) := by
  induction items generalizing limit bound with
  | nil => simp at olderIn
  | cons item rest ih =>
      cases bound with
      | zero => simp [allot] at partIn
      | succ bound =>
          rw [List.pairwise_cons] at sorted distinct
          simp only [List.take_succ_cons, allot] at partIn ⊢
          by_cases nothing : min item.reclaimable limit ≤ 0
          · simp [nothing] at partIn
          · rw [if_neg nothing, List.mem_cons] at partIn ⊢
            rcases partIn with rfl | later
            · -- The newest of the two cannot be the head of a sorted list.
              rcases List.mem_cons.mp olderIn with rfl | inRest
              · exact (different rfl).elim
              · exact (different (before_both_ways _ _ before (sorted.1 older inRest))).elim
            · rcases List.mem_cons.mp olderIn with rfl | inRest
              · refine .inl ?_
                have reached : 0 < limit - min older.reclaimable limit := by
                  by_contra spent
                  rw [allot_spent _ _ (by omega)] at later
                  exact List.not_mem_nil later
                have whole : min older.reclaimable limit = older.reclaimable := by omega
                rw [whole]
              · exact .inr (ih _ bound sorted.2 distinct.2 inRest later)

theorem sum_reclaimable_pos (items : List Settlement) (left : ∀ item ∈ items, 0 < item.reclaimable) (some : items ≠ []) :
    0 < (items.map Settlement.reclaimable).sum := by
  cases items with
  | nil => exact (some rfl).elim
  | cons item rest =>
      have first := left item (by simp)
      have others : 0 ≤ (rest.map Settlement.reclaimable).sum :=
        List.sum_nonneg (List.forall_mem_map.mpr fun other member => Int.le_of_lt (left other (by simp [member])))
      rw [List.map_cons, List.sum_cons]
      omega

theorem allot_append (limit : Int) (early late : List Settlement) (left : ∀ item ∈ early, 0 < item.reclaimable) :
    allot (some limit) (early ++ late) =
      allot (some limit) early ++ allot (some (limit - allottedTotal (allot (some limit) early))) late := by
  induction early generalizing limit with
  | nil => simp [allot, allottedTotal]
  | cons item rest ih =>
      have here := left item (by simp)
      have later := fun limit => ih limit fun other member => left other (by simp [member])
      simp only [List.cons_append, allot]
      by_cases nothing : min item.reclaimable limit ≤ 0
      · simp only [nothing, if_true, allottedTotal, List.map_nil, List.sum_nil, List.nil_append]
        exact (allot_spent _ _ (by omega)).symm
      · simp only [nothing, if_false, List.cons_append, allottedTotal, List.map_cons, List.sum_cons]
        rw [later, ← Int.sub_sub]
        rfl

-- A limit that covers all there is is no limit.
theorem allot_whole (limit : Int) (items : List Settlement) (left : ∀ item ∈ items, 0 < item.reclaimable)
    (covers : (items.map Settlement.reclaimable).sum ≤ limit) : allot (some limit) items = allot none items := by
  induction items generalizing limit with
  | nil => rfl
  | cons item rest ih =>
      have here := left item (by simp)
      have later : ∀ other ∈ rest, 0 < other.reclaimable := fun other member => left other (by simp [member])
      have others : 0 ≤ (rest.map Settlement.reclaimable).sum :=
        List.sum_nonneg (List.forall_mem_map.mpr fun other member => Int.le_of_lt (later other member))
      rw [List.map_cons, List.sum_cons] at covers
      have whole : min item.reclaimable limit = item.reclaimable := by omega
      simp only [allot, whole]
      rw [if_neg (by omega), ih _ later (by omega)]

theorem allot_short (limit : Int) (items : List Settlement) (left : ∀ item ∈ items, 0 < item.reclaimable)
    (short : allottedTotal (allot (some limit) items) < limit) : allot (some limit) items = allot none items := by
  have nonneg := allotted_total_nonneg (allot_parts (some limit) items left)
  have total := allot_some_total limit items left (by omega)
  exact allot_whole limit items left (by omega)

theorem reclaim_row_index (amount : Int) (row : Settlement) : Indexed.index (reclaimRow amount row) = Indexed.index row := rfl

-- The settlements after an allotment was taken from them.
def markRows : List (Settlement × Int) → Table Settlement → Table Settlement
  | [], settlements => settlements
  | (item, amount) :: rest, settlements =>
      markRows rest (settlements.update (fun row => row.id = item.id) (reclaimRow amount) (reclaim_row_index amount))

theorem reclaim_rows_ran (allotted : List (Settlement × Int)) (market : Market) :
    reclaimRows allotted market = (.ok (), { market with settlements := markRows allotted market.settlements }) := by
  induction allotted generalizing market with
  | nil => rfl
  | cons part rest ih =>
      exact ih { market with settlements := market.settlements.update (fun row => row.id = part.1.id) (reclaimRow part.2) fun _ => rfl }

theorem mark_rows_append (early late : List (Settlement × Int)) (settlements : Table Settlement) :
    markRows (early ++ late) settlements = markRows late (markRows early settlements) := by
  induction early generalizing settlements with
  | nil => rfl
  | cons part rest ih => exact ih _

def markedRow (allotted : List (Settlement × Int)) (row : Settlement) : Settlement :=
  match allotted.find? fun part => part.1.id = row.id with
  | some part => reclaimRow part.2 row
  | none => row

theorem rows_of_mark (allotted : List (Settlement × Int)) (settlements : Table Settlement)
    (distinct : (allotted.map Prod.fst).Pairwise fun first second => first.id ≠ second.id) :
    (markRows allotted settlements).rows = settlements.rows.map (markedRow allotted) := by
  induction allotted generalizing settlements with
  | nil => exact (List.map_id _).symm
  | cons part rest ih =>
      rw [List.map_cons, List.pairwise_cons] at distinct
      rw [markRows, ih _ distinct.2, Table.rows_update, List.map_map]
      refine List.map_congr_left fun row _ => ?_
      simp only [Function.comp_apply, markedRow]
      by_cases here : row.id = part.1.id
      · have absent : rest.find? (fun other => other.1.id = row.id) = none := by
          rw [List.find?_eq_none]
          intro other otherIn same
          exact distinct.1 other.1 (List.mem_map_of_mem otherIn) (here.symm.trans (of_decide_eq_true same).symm)
        rw [List.find?_cons_of_pos (by simp [here])]
        simp only [here, decide_true, if_true]
        have sameID : (reclaimRow part.2 row).id = row.id := rfl
        rw [sameID, absent]
      · rw [List.find?_cons_of_neg (by simpa using Ne.symm here)]
        simp [here]

theorem whole_row_unselected (filter : ReleaseFilter) (row : Settlement) : ¬ filter.Selects (reclaimRow row.reclaimable row) := by
  intro selected
  have left := selected.2.1
  simp only [reclaimRow, Settlement.reclaimable] at left
  omega

theorem marked_of_absent (allotted : List (Settlement × Int)) (row : Settlement) (absent : ∀ part ∈ allotted, part.1.id ≠ row.id) :
    markedRow allotted row = row := by
  have none : allotted.find? (fun part => part.1.id = row.id) = none := by
    rw [List.find?_eq_none]
    exact fun part member same => absent part member (of_decide_eq_true same)
  rw [markedRow, none]

theorem marked_of_whole (items : List Settlement) (row : Settlement) (member : row ∈ items)
    (same : ∀ item ∈ items, item.id = row.id → item = row) : markedRow (allot none items) row = reclaimRow row.reclaimable row := by
  cases found : (allot none items).find? fun part => part.1.id = row.id with
  | none =>
      rw [List.find?_eq_none] at found
      have part : (row, row.reclaimable) ∈ allot none items := by
        rw [allot_none]
        exact List.mem_map_of_mem member
      simpa using found _ part
  | some part =>
      have named : part.1.id = row.id := by simpa using List.find?_some found
      have listed := List.mem_of_find?_eq_some found
      rw [allot_none, List.mem_map] at listed
      obtain ⟨item, itemIn, rfl⟩ := listed
      rw [markedRow, found, same item itemIn named]

theorem mem_drop_iff (items : List Settlement) (distinct : items.Pairwise fun first second => first.id ≠ second.id) (count : Nat) (item : Settlement)
    (member : item ∈ items) : item ∈ items.drop count ↔ item ∉ items.take count := by
  rw [← List.take_append_drop count items, List.pairwise_append] at distinct
  rw [← List.take_append_drop count items, List.mem_append] at member
  constructor
  · intro late early
    exact distinct.2.2 item early item late rfl
  · exact member.resolve_left

-- Once its oldest settlements are used up, a selection is what came after them.
theorem query_after_prefix (filter : ReleaseFilter) (market : Market) (count : Nat) :
    reclaimSettlementQuery filter { market with
      settlements := markRows (allot none ((reclaimSettlementQuery filter market).take count)) market.settlements } =
      (reclaimSettlementQuery filter market).drop count := by
  have listed := mem_reclaim_query filter market
  have sorted := reclaim_query_sorted filter market
  have distinct := reclaim_query_distinct filter market
  generalize reclaimSettlementQuery filter market = items at *
  have rows := rows_of_mark (allot none (items.take count)) market.settlements
    ((distinct.sublist (List.take_sublist count _)).sublist (allot_items none _))
  have same_row : ∀ first ∈ items, ∀ second ∈ market.settlements.rows, first.id = second.id → first = second :=
    fun first firstIn second secondIn same =>
      Table.eq_of_clash _ _ _ ((listed first).mp firstIn).1 secondIn (clash_of_settlement_id _ _ same)
  have used : ∀ row ∈ items.take count, markedRow (allot none (items.take count)) row = reclaimRow row.reclaimable row := fun row member =>
    marked_of_whole _ row member fun item itemIn =>
      same_row item (List.mem_of_mem_take itemIn) row ((listed row).mp (List.mem_of_mem_take member)).1
  have kept : ∀ row ∈ market.settlements.rows, row ∉ items.take count → markedRow (allot none (items.take count)) row = row := by
    intro row member outside
    refine marked_of_absent _ row fun part partIn named => outside ?_
    rw [allot_none, List.mem_map] at partIn
    obtain ⟨item, itemIn, rfl⟩ := partIn
    exact same_row item (List.mem_of_mem_take itemIn) row member named ▸ itemIn
  have members : ∀ item, item ∈ reclaimSettlementQuery filter { market with
      settlements := markRows (allot none (items.take count)) market.settlements } ↔ item ∈ items.drop count := by
    intro item
    rw [mem_reclaim_query, rows, List.mem_map]
    constructor
    · rintro ⟨⟨row, member, rfl⟩, selected⟩
      by_cases prefixed : row ∈ items.take count
      · rw [used row prefixed] at selected
        exact (whole_row_unselected filter row selected).elim
      · rw [kept row member prefixed] at selected ⊢
        exact (mem_drop_iff items distinct count row ((listed row).mpr ⟨member, selected⟩)).mpr prefixed
    · intro late
      obtain ⟨member, selected⟩ := (listed item).mp (List.mem_of_mem_drop late)
      have outside := (mem_drop_iff items distinct count item (List.mem_of_mem_drop late)).mp late
      exact ⟨⟨item, member, kept item member outside⟩, selected⟩
  have tailDistinct := distinct.sublist (List.drop_sublist count items)
  refine List.Perm.eq_of_pairwise (fun first second firstIn secondIn early late => ?_) (reclaim_query_sorted filter _)
    (sorted.sublist (List.drop_sublist count items)) ?_
  · have firstLate := List.mem_of_mem_drop ((members first).mp firstIn)
    have secondRow := ((listed second).mp (List.mem_of_mem_drop secondIn)).1
    exact same_row first firstLate second secondRow (before_both_ways first second early late)
  · refine (List.perm_ext_iff_of_nodup ?_ ?_).mpr members
    · exact (reclaim_query_distinct filter _).imp fun apart same => apart (congrArg Settlement.id same)
    · exact tailDistinct.imp fun apart same => apart (congrArg Settlement.id same)

theorem allotted_append (early late : List (Settlement × Int)) : allottedTotal (early ++ late) = allottedTotal early + allottedTotal late := by
  rw [allottedTotal, List.map_append, List.sum_append, allottedTotal, allottedTotal]

theorem allotted_none_total (items : List Settlement) : allottedTotal (allot none items) = (items.map Settlement.reclaimable).sum := by
  rw [allot_none, allottedTotal, List.map_map]
  rfl

theorem query_left (filter : ReleaseFilter) (market : Market) (item : Settlement) (member : item ∈ reclaimSettlementQuery filter market) :
    0 < item.reclaimable := reclaimable_of_selected ((mem_reclaim_query _ _ _).mp member).2

def marking (market : Market) (allotted : List (Settlement × Int)) : Market := { market with settlements := markRows allotted market.settlements }

-- A page that the limit does not end is used up, and the rest of the selection follows it.
structure Paged (filter : ReleaseFilter) (market : Market) (limit : Int) (taken : List (Settlement × Int)) (rest : List Settlement) : Prop where
  whole : allot (some limit) (reclaimSettlementQuery filter market) = taken ++ allot (some (limit - allottedTotal taken)) rest
  within : allottedTotal taken ≤ limit
  short : allottedTotal taken < limit → taken.length = min reclaimBatchSize (reclaimSettlementQuery filter market).length ∧
    reclaimSettlementQuery filter (marking market taken) = rest

theorem paged_query (filter : ReleaseFilter) (market : Market) (limit : Int) (nonneg : 0 ≤ limit) :
    Paged filter market limit (allot (some limit) ((reclaimSettlementQuery filter market).take reclaimBatchSize))
      ((reclaimSettlementQuery filter market).drop reclaimBatchSize) := by
  have left : ∀ item ∈ (reclaimSettlementQuery filter market).take reclaimBatchSize, 0 < item.reclaimable := fun item member =>
    query_left filter market item (List.mem_of_mem_take member)
  have total := allot_some_total limit _ left nonneg
  refine ⟨?_, by omega, fun short => ?_⟩
  · rw [← allot_append limit _ _ left, List.take_append_drop]
  · have whole := allot_short limit _ left short
    rw [whole]
    refine ⟨?_, query_after_prefix filter market reclaimBatchSize⟩
    rw [allot_none, List.length_map, List.length_take]

-- The limit of a page: what is left of the maximum, or none when all of the selection is to be taken.
theorem page_allotted (limit : Int) (reclaimAll : Bool) (items : List Settlement) (left : ∀ item ∈ items, 0 < item.reclaimable)
    (positive : 0 < limit) (covers : reclaimAll = true → (items.map Settlement.reclaimable).sum ≤ limit) :
    pageAmounts (if reclaimAll then 0 else limit) items = allot (some limit) items := by
  rw [page_amounts_eq _ _ left, allotmentLimit]
  cases reclaimAll with
  | false => simp [positive]
  | true =>
      simp only [if_true, gt_iff_lt, lt_irrefl, if_false]
      exact (allot_whole limit items left (covers rfl)).symm

theorem page_within (filter : ReleaseFilter) (market : Market) (count : Nat) :
    (((reclaimSettlementQuery filter market).take count).map Settlement.reclaimable).sum +
        (((reclaimSettlementQuery filter market).drop count).map Settlement.reclaimable).sum =
      ((reclaimSettlementQuery filter market).map Settlement.reclaimable).sum ∧
      0 ≤ (((reclaimSettlementQuery filter market).drop count).map Settlement.reclaimable).sum := by
  constructor
  · rw [← List.sum_append, ← List.map_append, List.take_append_drop]
  · exact List.sum_nonneg (List.forall_mem_map.mpr fun item member => (query_left filter market item (List.mem_of_mem_drop member)).le)

-- The rows behind a cursor are those after the page it ends.
theorem behind_cursor (filter : ReleaseFilter) (market : Market) (count : Nat) (item : Settlement)
    (member : item ∈ (reclaimSettlementQuery filter market).drop count) :
    (((reclaimSettlementQuery filter market).take count).getLast?.all fun last => ¬ item.Before last) = true := by
  have sorted := reclaim_query_sorted filter market
  have distinct := reclaim_query_distinct filter market
  rw [← List.take_append_drop count (reclaimSettlementQuery filter market), List.pairwise_append] at sorted distinct
  cases ended : ((reclaimSettlementQuery filter market).take count).getLast? with
  | none => rfl
  | some last =>
      have lastIn := List.mem_of_getLast? ended
      have early := sorted.2.2 last lastIn item member
      have different := distinct.2.2 last lastIn item member
      simp only [Option.all_some, decide_not, Bool.not_eq_true', decide_eq_false_iff_not]
      exact fun late => different (before_both_ways last item early late)

theorem page_ran (filter : ReleaseFilter) (reclaimAll : Bool) (limit : Int) (cursor : Option Settlement) (market : Market) (positive : 0 < limit)
    (behind : ∀ item ∈ reclaimSettlementQuery filter market, (cursor.all fun last => ¬ item.Before last) = true)
    (covers : reclaimAll = true → ((reclaimSettlementQuery filter market).map Settlement.reclaimable).sum = limit) :
    reclaimPostgresTx filter (if reclaimAll then 0 else limit) cursor market =
      (.ok { allotted := allot (some limit) ((reclaimSettlementQuery filter market).take reclaimBatchSize),
             last := ((reclaimSettlementQuery filter market).take reclaimBatchSize).getLast? },
        marking market (allot (some limit) ((reclaimSettlementQuery filter market).take reclaimBatchSize))) := by
  have left : ∀ item ∈ (reclaimSettlementQuery filter market).take reclaimBatchSize, 0 < item.reclaimable := fun item member =>
    query_left filter market item (List.mem_of_mem_take member)
  have within : reclaimAll = true → (((reclaimSettlementQuery filter market).take reclaimBatchSize).map Settlement.reclaimable).sum ≤ limit := by
    intro all
    have whole := covers all
    obtain ⟨parts, rest⟩ := page_within filter market reclaimBatchSize
    omega
  rw [reclaimPostgresTx, Tx.bind_view, List.filter_eq_self.mpr behind, page_allotted limit reclaimAll _ left positive within,
    Tx.bind_ran (reclaim_rows_ran _ market)]
  rfl

theorem marking_append (market : Market) (early late : List (Settlement × Int)) :
    marking (marking market early) late = marking market (early ++ late) := by
  simp only [marking, mark_rows_append]

-- The pages together give what one allotment over the whole selection gives.
theorem rounds_ran (filter : ReleaseFilter) (reclaimAll : Bool) (remaining : Int) (limited : 0 < filter.maxAmount) (rounds : Nat) (market : Market)
    (gathered : List (Settlement × Int)) (cursor : Option Settlement) (open_limit : 0 < remaining - allottedTotal gathered)
    (enough : (reclaimSettlementQuery filter market).length < rounds)
    (behind : ∀ item ∈ reclaimSettlementQuery filter market, (cursor.all fun last => ¬ item.Before last) = true)
    (covers : reclaimAll = true →
      ((reclaimSettlementQuery filter market).map Settlement.reclaimable).sum = remaining - allottedTotal gathered) :
    reclaimRounds filter reclaimAll remaining rounds gathered cursor market =
      (.ok (gathered ++ allot (some (remaining - allottedTotal gathered)) (reclaimSettlementQuery filter market)),
        marking market (allot (some (remaining - allottedTotal gathered)) (reclaimSettlementQuery filter market))) := by
  induction rounds generalizing market gathered cursor with
  | zero => simp at enough
  | succ rounds ih =>
      have paged := paged_query filter market (remaining - allottedTotal gathered) open_limit.le
      have ran := page_ran filter reclaimAll (remaining - allottedTotal gathered) cursor market open_limit behind covers
      have next_behind := behind_cursor filter market reclaimBatchSize
      have next_covers : reclaimAll = true → allottedTotal (allot (some (remaining - allottedTotal gathered))
          ((reclaimSettlementQuery filter market).take reclaimBatchSize)) +
          (((reclaimSettlementQuery filter market).drop reclaimBatchSize).map Settlement.reclaimable).sum = remaining - allottedTotal gathered := by
        intro all
        have whole := covers all
        obtain ⟨parts, rest⟩ := page_within filter market reclaimBatchSize
        rw [allot_whole _ _ (fun item member => query_left filter market item (List.mem_of_mem_take member)) (by omega), allotted_none_total]
        omega
      rw [reclaimRounds, Tx.bind_ran ran]
      generalize allot (some (remaining - allottedTotal gathered)) ((reclaimSettlementQuery filter market).take reclaimBatchSize) = page at *
      have total := allotted_append gathered page
      by_cases last : page.length < reclaimBatchSize ∨ (filter.maxAmount > 0 ∧ allottedTotal (gathered ++ page) ≥ remaining)
      · rw [if_pos last, paged.whole]
        have nothing : allot (some (remaining - allottedTotal gathered - allottedTotal page))
            ((reclaimSettlementQuery filter market).drop reclaimBatchSize) = [] := by
          by_cases reached : allottedTotal page < remaining - allottedTotal gathered
          · have length := (paged.short reached).1
            have small : page.length < reclaimBatchSize := last.resolve_right fun both => by omega
            rw [List.drop_eq_nil_of_le (by omega)]
            rfl
          · exact allot_spent _ _ (by omega)
        rw [nothing, List.append_nil]
        rfl
      · rw [if_neg last]
        push Not at last
        obtain ⟨full, more⟩ := last
        have reached : allottedTotal page < remaining - allottedTotal gathered := by
          have below := more limited
          omega
        obtain ⟨length, query⟩ := paged.short reached
        have left : remaining - allottedTotal (gathered ++ page) = remaining - allottedTotal gathered - allottedTotal page := by omega
        rw [ih (marking market page) (gathered ++ page) _ (by omega) ?_ ?_ ?_, query, left, List.append_assoc, ← paged.whole, marking_append, ← paged.whole]
        · rw [query, List.length_drop]
          have size : 0 < reclaimBatchSize := by decide
          omega
        · rw [query]
          exact next_behind
        · intro all
          rw [query]
          have sum := next_covers all
          omega

-- The batches of repeated runs, each with what the runs before it left of the maximum.
def rowBatches (env : WalletEnv) : Nat → IncomeReclaim → MarketTx (List (Settlement × Int))
  | 0, _ => pure []
  | batches + 1, task => do
      let allotted ← reclaimAllotted env task false
      let others ← rowBatches env batches { task with amount := task.amount + allottedTotal allotted }
      return allotted ++ others

theorem row_batch_ran (env : WalletEnv) (plain : env.postgres = false) (task : IncomeReclaim) (reclaimAll : Bool) (market : Market)
    (limited : 0 < task.filter.maxAmount) :
    reclaimAllotted env task reclaimAll market =
      (.ok (allot (some (task.filter.maxAmount - task.amount)) ((reclaimSettlementQuery task.filter market).take reclaimBatchSize)),
        marking market (allot (some (task.filter.maxAmount - task.amount)) ((reclaimSettlementQuery task.filter market).take reclaimBatchSize))) := by
  rw [reclaimAllotted, if_neg (by simp [plain]), Tx.bind_view, if_pos limited, Tx.bind_ran (reclaim_rows_ran _ market)]
  rfl

theorem row_batches_ran (env : WalletEnv) (plain : env.postgres = false) (batches : Nat) (task : IncomeReclaim) (market : Market)
    (limited : 0 < task.filter.maxAmount) (nonneg : 0 ≤ task.filter.maxAmount - task.amount) :
    rowBatches env batches task market =
      (.ok (allot (some (task.filter.maxAmount - task.amount)) ((reclaimSettlementQuery task.filter market).take (reclaimBatchSize * batches))),
        marking market
          (allot (some (task.filter.maxAmount - task.amount)) ((reclaimSettlementQuery task.filter market).take (reclaimBatchSize * batches)))) := by
  induction batches generalizing task market with
  | zero => rw [Nat.mul_zero, List.take_zero]; rfl
  | succ batches ih =>
      have paged := paged_query task.filter market (task.filter.maxAmount - task.amount) nonneg
      have ran := row_batch_ran env plain task false market limited
      have split : (reclaimSettlementQuery task.filter market).take (reclaimBatchSize * (batches + 1)) =
          (reclaimSettlementQuery task.filter market).take reclaimBatchSize ++
            ((reclaimSettlementQuery task.filter market).drop reclaimBatchSize).take (reclaimBatchSize * batches) := by
        rw [Nat.mul_succ, Nat.add_comm, List.take_add]
      have whole := allot_append (task.filter.maxAmount - task.amount) ((reclaimSettlementQuery task.filter market).take reclaimBatchSize)
        (((reclaimSettlementQuery task.filter market).drop reclaimBatchSize).take (reclaimBatchSize * batches)) fun item member =>
          query_left task.filter market item (List.mem_of_mem_take member)
      rw [← split] at whole
      rw [rowBatches, Tx.bind_ran ran]
      generalize allot (some (task.filter.maxAmount - task.amount)) ((reclaimSettlementQuery task.filter market).take reclaimBatchSize) = page at *
      have left : task.filter.maxAmount - (task.amount + allottedTotal page) = task.filter.maxAmount - task.amount - allottedTotal page := by omega
      rw [Tx.bind_ran (ih { task with amount := task.amount + allottedTotal page } (marking market page) limited (by simp only; have := paged.within; omega))]
      simp only [left]
      -- Either the batch is used up and the next one goes on behind it, or nothing is left to take.
      have same : allot (some (task.filter.maxAmount - task.amount - allottedTotal page))
          ((reclaimSettlementQuery task.filter (marking market page)).take (reclaimBatchSize * batches)) =
          allot (some (task.filter.maxAmount - task.amount - allottedTotal page))
            (((reclaimSettlementQuery task.filter market).drop reclaimBatchSize).take (reclaimBatchSize * batches)) := by
        by_cases reached : allottedTotal page < task.filter.maxAmount - task.amount
        · rw [(paged.short reached).2]
        · rw [allot_spent _ _ (by omega), allot_spent _ _ (by omega)]
      rw [same, marking_append, ← whole]
      rfl

-- Window sums over keyset pages mark the settlements that the row loop marks, with the same amounts.
theorem pages_equal_batches (postgres plain : WalletEnv) (isPostgres : postgres.postgres = true) (isPlain : plain.postgres = false)
    (task : IncomeReclaim) (market : Market) (limited : 0 < task.filter.maxAmount) (due : task.amount < task.filter.maxAmount)
    (available : task.filter.maxAmount - task.amount ≤ ((reclaimSettlementQuery task.filter market).map Settlement.reclaimable).sum) (batches : Nat)
    (enough : (reclaimSettlementQuery task.filter market).length ≤ reclaimBatchSize * batches) :
    reclaimAllotted postgres task
        (decide (((reclaimSettlementQuery task.filter market).map Settlement.reclaimable).sum = task.filter.maxAmount - task.amount)) market =
      rowBatches plain batches task market := by
  have length : (reclaimSettlementQuery task.filter market).length < market.settlements.rows.length + 1 := by
    rw [reclaimSettlementQuery, List.length_insertionSort]
    exact Nat.lt_succ_of_le (List.length_filter_le _ _)
  have rounds := rounds_ran task.filter
    (decide (((reclaimSettlementQuery task.filter market).map Settlement.reclaimable).sum = task.filter.maxAmount - task.amount))
    (task.filter.maxAmount - task.amount) limited (market.settlements.rows.length + 1) market [] none (by simp [allottedTotal]; omega) length
    (fun _ _ => rfl) fun all => by simpa [allottedTotal] using all
  have total := allot_some_total (task.filter.maxAmount - task.amount) (reclaimSettlementQuery task.filter market)
    (query_left task.filter market) (by omega)
  have nothing : task.filter.maxAmount - task.amount - allottedTotal [] = task.filter.maxAmount - task.amount := Int.sub_zero _
  rw [nothing, List.nil_append] at rounds
  rw [row_batches_ran plain isPlain batches task market limited (by omega), List.take_of_length_le enough, reclaimAllotted, if_pos isPostgres]
  simp only [limited, if_true]
  rw [Tx.bind_view, Tx.bind_ran rounds, Tx.bind_accepted (by omega)]
  rfl

end CodeGo.Marketplace
