import CodeGo.Wallet.Attribution

set_option autoImplicit false

namespace CodeGo.Billing

open Relational Text

/- The loop that attributes a settled amount, in either dialect: it draws the open lots
   from the front until the amount is covered, and what they do not cover is drawn from a
   lot made for it. -/

section Order

theorem before_trans (first second third : FundingLot) (early : first.Before second) (late : second.Before third) : first.Before third := by
  rcases early with earlier | ⟨same, key⟩ <;> rcases late with later | ⟨again, next⟩
  · exact .inl (by omega)
  · exact .inl (by omega)
  · exact .inl (by omega)
  · exact .inr ⟨same.trans again, key.trans next⟩

theorem before_total (first second : FundingLot) : first.Before second ∨ second.Before first := by
  rcases Int.lt_trichotomy first.createdAt second.createdAt with earlier | same | later
  · exact .inl (.inl earlier)
  · exact (le_total first.lotID second.lotID).imp (fun key => .inr ⟨same, key⟩) fun key => .inr ⟨same.symm, key⟩
  · exact .inr (.inl later)

theorem before_antisymm (first second : FundingLot) (early : first.Before second) (late : second.Before first) :
    first.lotID = second.lotID := by
  rcases early with earlier | ⟨same, key⟩ <;> rcases late with later | ⟨again, next⟩
  · omega
  · omega
  · omega
  · exact le_antisymm key next

instance : IsTrans FundingLot FundingLot.Before := ⟨before_trans⟩

instance : Std.Total FundingLot.Before := ⟨before_total⟩

end Order

theorem clash_of_lot_id (first second : FundingLot) (same : first.lotID = second.lotID) : Clash first second := .inl same

section OpenLots

variable (accountID : String) {wallet : Wallet}

theorem mem_open_lots (lot : FundingLot) :
    lot ∈ openLots accountID wallet ↔ lot ∈ wallet.lots.rows ∧ lot.accountID = accountID ∧ 0 < lot.remainingAmount := by
  simp [openLots]

theorem open_lots_holding : ∀ lot ∈ openLots accountID wallet, 0 < lot.remainingAmount := fun lot member =>
  ((mem_open_lots accountID lot).mp member).2.2

theorem open_lots_sorted : (openLots accountID wallet).Pairwise FundingLot.Before := List.pairwise_insertionSort _ _

theorem open_lots_distinct : (openLots accountID wallet).Pairwise fun first second => first.lotID ≠ second.lotID := by
  have rows : (wallet.lots.rows.filter fun lot => lot.accountID = accountID ∧ 0 < lot.remainingAmount).Pairwise
      fun first second => first.lotID ≠ second.lotID :=
    (wallet.lots.unique.imp fun apart same => apart (clash_of_lot_id _ _ same)).filter _
  exact (List.perm_insertionSort _ _).symm.pairwise rows fun apart same => apart same.symm

-- Behind an open lot there are only later ones.
theorem open_lots_behind {front back : List FundingLot} (split : openLots accountID wallet = front ++ back) :
    ∀ first ∈ front, ∀ second ∈ back, ¬ second.Before first := by
  intro first firstIn second secondIn reversed
  have sorted := @open_lots_sorted accountID wallet
  have distinct := @open_lots_distinct accountID wallet
  rw [split, List.pairwise_append] at sorted distinct
  exact distinct.2.2 first firstIn second secondIn (before_antisymm _ _ (sorted.2.2 first firstIn second secondIn) reversed)

-- The rows of an account that still hold quota are the open lots, in another order.
theorem open_lots_perm : (openLots accountID wallet).Perm
    (wallet.lots.rows.filter fun lot => lot.accountID = accountID ∧ 0 < lot.remainingAmount) := List.perm_insertionSort _ _

theorem open_lots_unique (lots : List FundingLot) (sorted : lots.Pairwise FundingLot.Before)
    (perm : lots.Perm (wallet.lots.rows.filter fun lot => lot.accountID = accountID ∧ 0 < lot.remainingAmount)) :
    openLots accountID wallet = lots := by
  refine List.Perm.eq_of_pairwise ?_ (open_lots_sorted accountID) sorted ((open_lots_perm accountID).trans perm.symm)
  intro first second firstIn secondIn early late
  have inTable := ((mem_open_lots accountID first).mp firstIn).1
  have alsoIn := (List.mem_filter.mp (perm.mem_iff.mp secondIn)).1
  exact Table.eq_of_clash _ _ _ inTable alsoIn (clash_of_lot_id _ _ (before_antisymm _ _ early late))

end OpenLots

-- What a draw leaves in the table of lots.
def drawnLots (lots : Table FundingLot) (lotID : String) (used : Int) : Table FundingLot :=
  lots.update (fun lot => lot.lotID = lotID) (fun lot => { lot with remainingAmount := lot.remainingAmount - used }) fun _ => rfl

section Draws

variable (env : WalletEnv) (requestID accountID : String) {wallet after : Wallet}

theorem ran_draw_lot (lot : FundingLot) (used : Int) (ran : drawLot env requestID accountID lot used wallet = (.ok (), after)) :
    after.lots = drawnLots wallet.lots lot.lotID used ∧ after.ledger.clock = wallet.ledger.clock ∧
      ∃ allocationID, after.allocations.rows = wallet.allocations.rows ++
        [{ allocationID, requestID, lotID := lot.lotID, accountID, source := lot.source, amount := used, paidQuota := paidShare lot used }] := by
  simp only [drawLot, updateLot, Tx.ran_bind, Tx.ran_edit] at ran
  obtain ⟨_, _, rfl, created⟩ := ran
  obtain ⟨allocationID, drawn, allocations, rfl, rows⟩ := ran_create_allocation env _ _ _ created
  exact ⟨rfl, rfl, allocationID, rows⟩

-- Emptying the oldest open lot leaves the ones behind it.
theorem open_lots_drained (lot : FundingLot) (rest : List FundingLot) (opened : openLots accountID wallet = lot :: rest)
    (lots : after.lots = drawnLots wallet.lots lot.lotID lot.remainingAmount) : openLots accountID after = rest := by
  have sorted := @open_lots_sorted accountID wallet
  have distinct := @open_lots_distinct accountID wallet
  rw [opened, List.pairwise_cons] at sorted distinct
  apply open_lots_unique accountID rest sorted.2
  have member : lot ∈ wallet.lots.rows := ((mem_open_lots accountID lot).mp (by simp [opened])).1
  -- The row with the id of the lot is the lot.
  have single : ∀ row ∈ wallet.lots.rows, row.lotID = lot.lotID → row = lot := fun row rowIn same =>
    Table.eq_of_clash _ _ _ rowIn member (clash_of_lot_id _ _ same)
  have kept : (after.lots.rows.filter fun lot => lot.accountID = accountID ∧ 0 < lot.remainingAmount) =
      (wallet.lots.rows.filter fun lot => lot.accountID = accountID ∧ 0 < lot.remainingAmount).filter fun row => row.lotID ≠ lot.lotID := by
    rw [lots, drawnLots, Table.rows_update, List.filter_map, List.filter_filter]
    have chosen : ∀ row ∈ wallet.lots.rows, ((fun row : FundingLot => decide (row.accountID = accountID ∧ 0 < row.remainingAmount)) ∘
        fun row => if decide (row.lotID = lot.lotID) = true then { row with remainingAmount := row.remainingAmount - lot.remainingAmount } else row)
          row = (decide (row.lotID ≠ lot.lotID) && decide (row.accountID = accountID ∧ 0 < row.remainingAmount)) := by
      intro row rowIn
      by_cases same : row.lotID = lot.lotID
      · simp [single row rowIn same]
      · simp [same]
    rw [List.filter_congr chosen]
    refine (List.map_congr_left ?_).trans (List.map_id _)
    intro row rowIn
    have apart : row.lotID ≠ lot.lotID := by
      have both := (List.mem_filter.mp rowIn).2
      rw [Bool.and_eq_true] at both
      exact of_decide_eq_true both.1
    simp [apart]
  rw [kept]
  have perm := (@open_lots_perm accountID wallet).filter fun row => decide (row.lotID ≠ lot.lotID)
  rw [opened, List.filter_cons_of_neg (by simp), List.filter_eq_self.mpr] at perm
  · exact perm
  · intro row rowIn
    exact decide_eq_true (distinct.1 row rowIn).symm

theorem draw_lots_append (front back : List (FundingLot × Int)) (wallet : Wallet) :
    drawLots env requestID accountID (front ++ back) wallet =
      (drawLots env requestID accountID front >>= fun _ => drawLots env requestID accountID back) wallet := by
  induction front generalizing wallet with
  | nil => rfl
  | cons entry front ih =>
      cases drawn : drawLot env requestID accountID entry.1 entry.2 wallet with
      | mk outcome middle =>
          cases outcome with
          | error problem => simp [drawLots, Bind.bind, Tx.bind, drawn]
          | ok _ =>
              have later := ih middle
              simp only [Bind.bind, Tx.bind] at later
              simp only [List.cons_append, drawLots, Bind.bind, Tx.bind, drawn, later]

theorem open_lots_emptied (front back : List FundingLot) (opened : openLots accountID wallet = front ++ back)
    (ran : drawLots env requestID accountID (front.map fun lot => (lot, lot.remainingAmount)) wallet = (.ok (), after)) :
    openLots accountID after = back := by
  induction front generalizing wallet with
  | nil =>
      simp only [List.map_nil, drawLots, Tx.ran_pure] at ran
      rw [← ran.2, opened, List.nil_append]
  | cons lot front ih =>
      simp only [List.map_cons, drawLots, Tx.ran_bind] at ran
      obtain ⟨_, middle, draw, continued⟩ := ran
      exact ih (open_lots_drained accountID lot _ opened (ran_draw_lot env _ _ _ _ draw).1) continued

end Draws

section Rounds

variable (env : WalletEnv) (requestID accountID : String)

-- What the rounds amount to.
def drawOldestFirst (amount : Int) : WalletTx Unit := do
  let lots ← Tx.view (openLots accountID)
  drawLots env requestID accountID (Fifo.consume FundingLot.remainingAmount amount lots)
  let uncovered := amount - Fifo.held FundingLot.remainingAmount lots
  if 0 < uncovered then do
    let lot ← takeOldestLot env requestID accountID uncovered
    drawLot env requestID accountID lot (min lot.remainingAmount uncovered)
  else pure ()

theorem rounds_done (rounds : Nat) (amount : Int) (covered : amount ≤ 0) (cursor : Option FundingLot) (wallet : Wallet) :
    allocateRounds env requestID accountID rounds amount cursor wallet = (.ok (), wallet) := by
  cases rounds with
  | zero => rfl
  | succ rounds =>
      rw [allocateRounds, if_pos covered]
      rfl

theorem draw_oldest_done (amount : Int) (covered : amount ≤ 0) (wallet : Wallet) :
    drawOldestFirst env requestID accountID amount wallet = (.ok (), wallet) := by
  have holding := Fifo.held_nonneg FundingLot.remainingAmount (openLots accountID wallet) (open_lots_holding accountID)
  rw [drawOldestFirst, Tx.bind_view, Fifo.consume_none _ _ covered, drawLots, Tx.bind_pure, if_neg (by omega)]
  rfl

-- A new lot for an amount is drawn at once and whole.
theorem take_oldest_new (amount : Int) {wallet after : Wallet} {lot : FundingLot} (opened : openLots accountID wallet = [])
    (ran : takeOldestLot env requestID accountID amount wallet = (.ok lot, after)) : lot.remainingAmount = amount := by
  simp only [takeOldestLot, Tx.ran_bind, Tx.ran_view, opened, List.head?_nil] at ran
  obtain ⟨_, _, ⟨rfl, rfl⟩, created⟩ := ran
  obtain ⟨_, _, _, rfl, _⟩ := ran_create_lot env _ _ _ _ created
  rfl

-- One round of either dialect draws a front of the open lots, and the cursor stays before the rest.
theorem round_draws (rounds : Nat) (amount : Int) (uncovered : 0 < amount) (cursor : Option FundingLot) (wallet : Wallet) {lot : FundingLot}
    {rest : List FundingLot} (opened : openLots accountID wallet = lot :: rest)
    (ahead : ∀ other ∈ lot :: rest, cursor.all fun last => ¬ other.Before last) :
    ∃ front back next, lot :: rest = lot :: front ++ back ∧ (∀ other ∈ back, Option.all (fun last => ¬ other.Before last) next) ∧
      allocateRounds env requestID accountID (rounds + 1) amount cursor wallet =
        (drawLots env requestID accountID (Fifo.consume FundingLot.remainingAmount amount (lot :: front)) >>= fun _ =>
          allocateRounds env requestID accountID rounds (amount - min amount (Fifo.held FundingLot.remainingAmount (lot :: front))) next) wallet := by
  have holding : ∀ other ∈ lot :: rest, 0 < other.remainingAmount := opened ▸ open_lots_holding accountID
  by_cases dialect : env.postgres = true
  · have front : ∀ other ∈ lot :: rest.take 4095, other ∈ lot :: rest := by
      intro other member
      rw [List.mem_cons] at member ⊢
      exact member.imp id List.mem_of_mem_take
    have part : ∀ other ∈ lot :: rest.take 4095, 0 < other.remainingAmount := fun other member => holding other (front other member)
    let consumed := Fifo.consume FundingLot.remainingAmount amount (lot :: rest.take 4095)
    have used : (consumed.map Prod.snd).sum = min amount (Fifo.held FundingLot.remainingAmount (lot :: rest.take 4095)) :=
      Fifo.consume_sum _ amount uncovered.le _ part
    have some_used : 0 < (consumed.map Prod.snd).sum := by
      have first := holding lot (by simp)
      have others := Fifo.held_nonneg FundingLot.remainingAmount (rest.take 4095) fun other member => part other (by simp [member])
      rw [used, Fifo.held_cons]
      omega
    have whole : lot :: rest = lot :: rest.take 4095 ++ rest.drop 4095 := by rw [List.cons_append, List.take_append_drop]
    refine ⟨rest.take 4095, rest.drop 4095, consumed.getLast?.map Prod.fst, whole, ?_, ?_⟩
    · intro other member
      rw [Option.all_map]
      cases last : consumed.getLast? with
      | none => rfl
      | some entry =>
          have drawn := Fifo.consume_mem _ amount _ entry (List.mem_of_getLast? last)
          exact decide_eq_true (open_lots_behind accountID (opened.trans whole) entry.1 drawn other member)
    · have behind : ((openLots accountID wallet).filter fun other => cursor.all fun last => ¬ other.Before last) = lot :: rest := by
        rw [opened, List.filter_eq_self]
        exact ahead
      have batch : Fifo.window FundingLot.remainingAmount amount ((lot :: rest).take 4096) = consumed :=
        Fifo.window_eq_consume _ amount _ part
      rw [allocateRounds, if_neg (by omega), nextBatch, if_pos dialect, ← used]
      cases drawn : drawLots env requestID accountID consumed wallet with
      | mk outcome middle =>
          cases outcome with
          | error problem =>
              have failed : allocateSettledFundingPostgresBatchTx env requestID accountID amount cursor wallet = (.error problem, middle) := by
                rw [allocateSettledFundingPostgresBatchTx, Tx.bind_view, behind, batch]
                exact Tx.bind_failed drawn _
              rw [Tx.bind_failed failed, Tx.bind_failed drawn]
          | ok _ =>
              have done : allocateSettledFundingPostgresBatchTx env requestID accountID amount cursor wallet =
                  (.ok { used := (consumed.map Prod.snd).sum, last := consumed.getLast?.map Prod.fst }, middle) := by
                rw [allocateSettledFundingPostgresBatchTx, Tx.bind_view, behind, batch]
                exact Tx.bind_ran drawn _
              rw [Tx.bind_ran done, Tx.bind_ran drawn, if_pos some_used]
  · refine ⟨[], rest, cursor, rfl, fun other member => ahead other (by simp [member]), ?_⟩
    have taken : takeOldestLot env requestID accountID amount wallet = (.ok lot, wallet) := by
      rw [takeOldestLot, Tx.bind_view, opened]
      rfl
    rw [allocateRounds, if_neg (by omega), nextBatch, if_neg dialect, Tx.bind_pure, if_neg (by simp), Tx.bind_ran taken, Fifo.consume,
      if_pos uncovered, Fifo.consume, Fifo.held_cons, Fifo.held_nil, Int.add_zero, min_comm amount]
    cases drawn : drawLot env requestID accountID lot (min lot.remainingAmount amount) wallet with
    | mk outcome middle =>
        cases outcome with
        | error problem =>
            rw [Tx.bind_failed drawn, Tx.bind_failed]
            rw [drawLots, Tx.bind_failed drawn]
        | ok _ =>
            rw [Tx.bind_ran drawn, Tx.bind_ran]
            rw [drawLots, Tx.bind_ran drawn]
            rfl

-- Without an open lot neither dialect draws in a batch.
theorem batch_empty (amount : Int) (cursor : Option FundingLot) (wallet : Wallet) (opened : openLots accountID wallet = []) :
    nextBatch env requestID accountID amount cursor wallet = (.ok { used := 0, last := none }, wallet) := by
  rw [nextBatch]
  split
  · rw [allocateSettledFundingPostgresBatchTx, Tx.bind_view, opened]
    rfl
  · rfl

-- Enough rounds draw the oldest lots first, whatever the dialect.
theorem rounds_draw_oldest (rounds : Nat) (amount : Int) (enough : amount.toNat ≤ rounds) (cursor : Option FundingLot) (wallet : Wallet)
    (ahead : ∀ lot ∈ openLots accountID wallet, cursor.all fun last => ¬ lot.Before last) :
    allocateRounds env requestID accountID rounds amount cursor wallet = drawOldestFirst env requestID accountID amount wallet := by
  induction rounds generalizing amount cursor wallet with
  | zero =>
      rw [rounds_done env _ _ _ _ (by omega), draw_oldest_done env _ _ _ (by omega)]
  | succ rounds ih =>
      by_cases covered : amount ≤ 0
      · rw [rounds_done env _ _ _ _ covered, draw_oldest_done env _ _ _ covered]
      · cases opened : openLots accountID wallet with
        | nil =>
            rw [allocateRounds, if_neg covered, Tx.bind_ran (batch_empty env _ _ _ _ _ opened), if_neg (by simp), drawOldestFirst, Tx.bind_view,
              opened, Fifo.consume, drawLots, Tx.bind_pure, Fifo.held_nil, Int.sub_zero, if_pos (by omega)]
            cases taken : takeOldestLot env requestID accountID amount wallet with
            | mk outcome middle =>
                cases outcome with
                | error problem => rw [Tx.bind_failed taken, Tx.bind_failed taken]
                | ok lot =>
                    rw [Tx.bind_ran taken, Tx.bind_ran taken, take_oldest_new env _ _ _ opened taken, min_self]
                    cases drawn : drawLot env requestID accountID lot amount middle with
                    | mk outcome after =>
                        cases outcome with
                        | error problem => rw [Tx.bind_failed drawn]
                        | ok _ => rw [Tx.bind_ran drawn, rounds_done env _ _ _ _ (by omega)]
        | cons lot rest =>
            have holding : ∀ other ∈ lot :: rest, 0 < other.remainingAmount := opened ▸ open_lots_holding accountID
            obtain ⟨front, back, next, split, behind, round⟩ :=
              round_draws env requestID accountID rounds amount (by omega) cursor wallet opened (opened ▸ ahead)
            have part : ∀ other ∈ lot :: front, 0 < other.remainingAmount := fun other member => holding other (by
              rw [split]
              exact List.mem_append_left _ member)
            have others : ∀ other ∈ back, 0 < other.remainingAmount := fun other member => holding other (by simp [split, member])
            have chunk := Fifo.consume_append FundingLot.remainingAmount amount (lot :: front) back part
            have more := Fifo.held_nonneg FundingLot.remainingAmount (lot :: front) part
            have rear := Fifo.held_nonneg FundingLot.remainingAmount back others
            have first := part lot (by simp)
            have behindFirst := Fifo.held_nonneg FundingLot.remainingAmount front fun other member => part other (by simp [member])
            have sum := Fifo.held_cons FundingLot.remainingAmount lot front
            rw [round, drawOldestFirst, Tx.bind_view, opened, split, chunk, Fifo.held_append]
            cases drawn : drawLots env requestID accountID (Fifo.consume FundingLot.remainingAmount amount (lot :: front)) wallet with
            | mk outcome middle =>
                cases outcome with
                | error problem =>
                    rw [Tx.bind_failed drawn, Tx.bind_failed]
                    rw [draw_lots_append, Tx.bind_failed drawn]
                | ok _ =>
                    rw [Tx.bind_ran drawn]
                    by_cases short : Fifo.held FundingLot.remainingAmount (lot :: front) ≤ amount
                    · -- The lots of the round are empty now, and the rest of the amount is drawn from the others.
                      have opensRest : openLots accountID middle = back := by
                        rw [Fifo.consume_all _ amount _ part short] at drawn
                        exact open_lots_emptied env requestID accountID (lot :: front) back (opened.trans split) drawn
                      rw [min_eq_right short, ih _ (by omega) next middle (by rwa [opensRest]), drawOldestFirst, Tx.bind_view, opensRest,
                        Int.sub_sub]
                      have whole := (draw_lots_append env requestID accountID (Fifo.consume FundingLot.remainingAmount amount (lot :: front))
                        (Fifo.consume FundingLot.remainingAmount (amount - Fifo.held FundingLot.remainingAmount (lot :: front)) back) wallet).trans
                        (Tx.bind_ran drawn _)
                      exact (Tx.bind_congr whole _).symm
                    · -- The round covers the amount.
                      rw [min_eq_left (by omega), rounds_done env _ _ _ _ (by omega), Fifo.consume_none _ _ (by omega) back, List.append_nil,
                        Tx.bind_ran drawn, if_neg (by omega)]
                      rfl

-- The dialect only decides how the rounds go about it.
theorem draw_lots_dialect (dialect : Bool) (draws : List (FundingLot × Int)) :
    drawLots { env with postgres := dialect } requestID accountID draws = drawLots env requestID accountID draws := by
  induction draws with
  | nil => rfl
  | cons entry rest ih =>
      rw [drawLots, drawLots, ih]
      rfl

theorem draw_oldest_dialect (dialect : Bool) (amount : Int) :
    drawOldestFirst { env with postgres := dialect } requestID accountID amount = drawOldestFirst env requestID accountID amount := by
  unfold drawOldestFirst
  simp only [draw_lots_dialect]
  rfl

end Rounds

-- The batches of PostgreSQL attribute what the scalar loop attributes, and the loop ends
-- within the rounds allowed for it: more rounds change nothing.
theorem batched_eq_scalar (env : WalletEnv) (requestID accountID : String) (amount : Int) (wallet : Wallet) :
    allocateSettledFundingFIFOTx { env with postgres := true } requestID accountID amount wallet =
        allocateSettledFundingFIFOTx { env with postgres := false } requestID accountID amount wallet ∧
      ∀ dialect rounds, amount.toNat ≤ rounds →
        allocateRounds { env with postgres := dialect } requestID accountID rounds amount none wallet =
          allocateRounds { env with postgres := dialect } requestID accountID amount.toNat amount none wallet := by
  have drawn : ∀ dialect rounds, amount.toNat ≤ rounds → allocateRounds { env with postgres := dialect } requestID accountID rounds amount none wallet =
      drawOldestFirst env requestID accountID amount wallet := by
    intro dialect rounds enough
    rw [rounds_draw_oldest { env with postgres := dialect } requestID accountID rounds amount enough none wallet fun _ _ => rfl,
      draw_oldest_dialect]
  constructor
  · rw [allocateSettledFundingFIFOTx, allocateSettledFundingFIFOTx, Tx.bind_view, Tx.bind_view]
    cases wallet.allocations.find? fun allocation => allocation.requestID = requestID with
    | some found => rfl
    | none => exact (drawn true _ (le_refl _)).trans (drawn false _ (le_refl _)).symm
  · intro dialect rounds enough
    rw [drawn dialect rounds enough, drawn dialect _ (le_refl _)]

end CodeGo.Billing
