import CodeGo.Lib.Trace
import CodeGo.Wallet.Rounds

set_option autoImplicit false

namespace CodeGo.Billing

open Relational Text

/- What a run of attributions leaves behind: for every lot the allocations made of it add
   up to what left it, and their paid parts to a difference of two cumulative floors. -/

def drawnFrom (lotID : String) (allocations : List FundingAllocation) : Int :=
  ((allocations.filter fun allocation => allocation.lotID = lotID).map FundingAllocation.amount).sum

def paidFrom (lotID : String) (allocations : List FundingAllocation) : Int :=
  ((allocations.filter fun allocation => allocation.lotID = lotID).map FundingAllocation.paidQuota).sum

-- The paid part of what has left a lot.
def FundingLot.paidConsumed (lot : FundingLot) : Int :=
  floorPaidQuota (lot.originalAmount - lot.remainingAmount) lot.paidQuota lot.originalAmount

-- One lot before and after the allocations in between.
structure Drained (created : List FundingAllocation) (before after : FundingLot) : Prop where
  same : { before with remainingAmount := after.remainingAmount } = after
  fallen : before.remainingAmount - after.remainingAmount = drawnFrom before.lotID created
  falls : after.remainingAmount ≤ before.remainingAmount
  floor : 0 ≤ before.remainingAmount → 0 ≤ after.remainingAmount
  paid : 0 < before.paidQuota → before.paidQuota ≤ before.originalAmount → before.remainingAmount ≤ before.originalAmount →
    paidFrom before.lotID created = after.paidConsumed - before.paidConsumed

section Sums

theorem drawn_from_append (lotID : String) (early late : List FundingAllocation) :
    drawnFrom lotID (early ++ late) = drawnFrom lotID early + drawnFrom lotID late := by
  simp [drawnFrom]

theorem paid_from_append (lotID : String) (early late : List FundingAllocation) :
    paidFrom lotID (early ++ late) = paidFrom lotID early + paidFrom lotID late := by
  simp [paidFrom]

theorem drawn_from_others {lotID : String} {allocations : List FundingAllocation} (others : ∀ allocation ∈ allocations, allocation.lotID ≠ lotID) :
    drawnFrom lotID allocations = 0 ∧ paidFrom lotID allocations = 0 := by
  have none : (allocations.filter fun allocation => allocation.lotID = lotID) = [] := by
    rw [List.filter_eq_nil_iff]
    intro allocation member
    simpa using others allocation member
  simp [drawnFrom, paidFrom, none]

theorem Drained.lot_id {created : List FundingAllocation} {before after : FundingLot} (drained : Drained created before after) :
    after.lotID = before.lotID := by
  rw [← drained.same]

-- Allocations of other lots leave a lot as it is.
theorem drained_by_others (lot : FundingLot) {created : List FundingAllocation} (others : ∀ allocation ∈ created, allocation.lotID ≠ lot.lotID) :
    Drained created lot lot := by
  obtain ⟨amount, paid⟩ := drawn_from_others others
  exact ⟨rfl, by rw [amount, Int.sub_self], le_refl _, id, fun _ _ _ => by rw [paid, Int.sub_self]⟩

theorem Drained.trans {early late : List FundingAllocation} {before middle after : FundingLot} (first : Drained early before middle)
    (second : Drained late middle after) : Drained (early ++ late) before after := by
  have lotID := first.lot_id
  have fell := first.fallen
  have fellMore := second.fallen
  have falls := first.falls
  have fallsMore := second.falls
  have columns := first.same
  rw [lotID] at fellMore
  constructor
  case same => rw [← second.same, ← columns]
  case fallen =>
    rw [drawn_from_append]
    omega
  case falls => omega
  case floor => exact fun whole => second.floor (first.floor whole)
  case paid =>
    intro some_paid within sound
    have paidQuota : middle.paidQuota = before.paidQuota := by rw [← columns]
    have originalAmount : middle.originalAmount = before.originalAmount := by rw [← columns]
    have early := first.paid some_paid within sound
    have late := second.paid (by omega) (by omega) (by omega)
    rw [lotID] at late
    rw [paid_from_append, early, late]
    omega

end Sums

-- The wallet before and after a run of attributions, with the allocations and the lots it made.
structure Attributed (wallet : Wallet) (created : List FundingAllocation) (opened : List FundingLot) (after : Wallet) : Prop where
  allocations : after.allocations.rows = wallet.allocations.rows ++ created
  lots : List.Forall₂ (Drained created) (wallet.lots.rows ++ opened) after.lots.rows
  known : ∀ allocation ∈ created, ∃ lot ∈ after.lots.rows, lot.lotID = allocation.lotID
  whole : ∀ lot ∈ opened, lot.remainingAmount = lot.originalAmount ∧ lot.paidQuota = 0

section Runs

variable {wallet middle after : Wallet}

theorem Attributed.refl (wallet : Wallet) : Attributed wallet [] [] wallet := by
  refine ⟨by simp, ?_, by simp, by simp⟩
  rw [List.append_nil, List.forall₂_same]
  exact fun lot _ => drained_by_others lot (by simp)

theorem drained_ids {created : List FundingAllocation} {before after : List FundingLot} (drained : List.Forall₂ (Drained created) before after) :
    after.map FundingLot.lotID = before.map FundingLot.lotID := by
  induction drained with
  | nil => rfl
  | cons pair _ ih => rw [List.map_cons, List.map_cons, pair.lot_id, ih]

theorem drained_trans {early late : List FundingAllocation} {first second third : List FundingLot}
    (before : List.Forall₂ (Drained early) first second) (next : List.Forall₂ (Drained late) second third) :
    List.Forall₂ (Drained (early ++ late)) first third := by
  induction before generalizing third with
  | nil =>
      cases next
      exact .nil
  | cons pair _ ih =>
      cases next with
      | cons more rest => exact .cons (pair.trans more) (ih rest)

theorem lot_ids_distinct (wallet : Wallet) : (wallet.lots.rows.map FundingLot.lotID).Nodup := by
  rw [List.Nodup, List.pairwise_map]
  exact wallet.lots.unique.imp fun apart same => apart (clash_of_lot_id _ _ same)

theorem Attributed.trans {early late : List FundingAllocation} {opened more : List FundingLot} (first : Attributed wallet early opened middle)
    (second : Attributed middle late more after) : Attributed wallet (early ++ late) (opened ++ more) after := by
  have ids := drained_ids second.lots
  have distinct := lot_ids_distinct after
  rw [ids, List.map_append, List.nodup_append] at distinct
  -- A lot made later has an id that no earlier allocation names.
  have fresh : List.Forall₂ (Drained early) more more := by
    rw [List.forall₂_same]
    intro lot member
    apply drained_by_others
    intro allocation made same
    obtain ⟨row, rowIn, named⟩ := first.known allocation made
    exact distinct.2.2 row.lotID (List.mem_map_of_mem rowIn) lot.lotID (List.mem_map_of_mem member) (named.trans same)
  constructor
  case allocations => rw [second.allocations, first.allocations, List.append_assoc]
  case lots =>
    rw [← List.append_assoc]
    exact drained_trans (List.rel_append first.lots fresh) second.lots
  case known =>
    intro allocation made
    rw [List.mem_append] at made
    rcases made with made | made
    · obtain ⟨row, rowIn, named⟩ := first.known allocation made
      have kept : row.lotID ∈ after.lots.rows.map FundingLot.lotID := by
        rw [ids]
        exact List.mem_map_of_mem (List.mem_append_left _ rowIn)
      obtain ⟨lot, lotIn, same⟩ := List.mem_map.mp kept
      exact ⟨lot, lotIn, same.trans named⟩
    · exact second.known allocation made
  case whole =>
    intro lot member
    rw [List.mem_append] at member
    exact member.elim (first.whole lot) (second.whole lot)

end Runs

-- The allocation a draw records.
structure Records (requestID accountID : String) (draw : FundingLot × Int) (allocation : FundingAllocation) : Prop where
  requestID : allocation.requestID = requestID
  accountID : allocation.accountID = accountID
  lotID : allocation.lotID = draw.1.lotID
  amount : allocation.amount = draw.2
  paid : allocation.paidQuota = paidShare draw.1 draw.2

section Steps

variable (env : WalletEnv) (requestID accountID : String) {wallet after : Wallet}

-- A draw from a lot of the table moves that lot and no other.
theorem attributed_by_draw (lot : FundingLot) (used : Int) (member : lot ∈ wallet.lots.rows) (some_used : 0 < used)
    (there : used ≤ lot.remainingAmount) (ran : drawLot env requestID accountID lot used wallet = (.ok (), after)) :
    ∃ allocation, Records requestID accountID (lot, used) allocation ∧ Attributed wallet [allocation] [] after := by
  obtain ⟨lots, _, allocationID, rows⟩ := ran_draw_lot env requestID accountID lot used ran
  refine ⟨_, ⟨rfl, rfl, rfl, rfl, rfl⟩, rows, ?_, ?_, by simp⟩
  · rw [List.append_nil, lots, drawnLots, Table.rows_update, List.forall₂_map_right_iff, List.forall₂_same]
    intro row rowIn
    by_cases hit : row.lotID = lot.lotID
    · obtain rfl := Table.eq_of_clash _ _ _ rowIn member (clash_of_lot_id _ _ hit)
      simp only [decide_true, if_true]
      constructor
      case same => rfl
      case fallen => simp [drawnFrom]
      case falls => simp only; omega
      case floor => simp only; omega
      case paid =>
        intro some_paid within sound
        have consumed : row.originalAmount - (row.remainingAmount - used) = row.originalAmount - row.remainingAmount + used := by omega
        simp [paidFrom, paidShare, some_paid, within, sound, FundingLot.paidConsumed, consumed]
    · simp only [hit, decide_false, Bool.false_eq_true, if_false]
      apply drained_by_others
      intro allocation made
      rw [List.mem_singleton.mp made]
      exact fun same => hit same.symm
  · intro allocation made
    rw [List.mem_singleton.mp made, lots, drawnLots, Table.rows_update]
    exact ⟨_, List.mem_map_of_mem member, by simp⟩

theorem attributed_by_draws (draws : List (FundingLot × Int)) (members : ∀ draw ∈ draws, draw.1 ∈ wallet.lots.rows)
    (distinct : draws.Pairwise fun first second => first.1.lotID ≠ second.1.lotID)
    (there : ∀ draw ∈ draws, 0 < draw.2 ∧ draw.2 ≤ draw.1.remainingAmount)
    (ran : drawLots env requestID accountID draws wallet = (.ok (), after)) :
    ∃ created, List.Forall₂ (Records requestID accountID) draws created ∧ Attributed wallet created [] after := by
  induction draws generalizing wallet with
  | nil =>
      simp only [drawLots, Tx.ran_pure] at ran
      obtain ⟨_, rfl⟩ := ran
      exact ⟨[], .nil, .refl wallet⟩
  | cons draw rest ih =>
      simp only [drawLots, Tx.ran_bind] at ran
      obtain ⟨_, middle, first, continued⟩ := ran
      have chosen := there draw (by simp)
      obtain ⟨allocation, records, moved⟩ :=
        attributed_by_draw env requestID accountID draw.1 draw.2 (members draw (by simp)) chosen.1 chosen.2 first
      rw [List.pairwise_cons] at distinct
      have kept : ∀ other ∈ rest, other.1 ∈ middle.lots.rows := by
        intro other member
        rw [(ran_draw_lot env requestID accountID draw.1 draw.2 first).1, drawnLots, Table.mem_update]
        exact .inl ⟨members other (by simp [member]), by simpa using (distinct.1 other member).symm⟩
      obtain ⟨created, recorded, later⟩ := ih kept distinct.2 (fun other member => there other (by simp [member])) continued
      exact ⟨allocation :: created, .cons records recorded, moved.trans later⟩

theorem attributed_by_new_lot (lot : FundingLot) (result : FundingLot) (whole : lot.remainingAmount = lot.originalAmount) (unpaid : lot.paidQuota = 0)
    (ran : createLot env lot wallet = (.ok result, after)) :
    Attributed wallet [] [result] after ∧ after.lots.rows = wallet.lots.rows ++ [result] ∧ result.remainingAmount = lot.remainingAmount ∧
      result.accountID = lot.accountID := by
  obtain ⟨lotID, drawn, lots, rfl, rfl, rows⟩ := ran_create_lot env _ _ _ _ ran
  refine ⟨⟨by simp, ?_, by simp, by simp [whole, unpaid]⟩, rows, rfl, rfl⟩
  rw [rows, List.forall₂_same]
  exact fun row _ => drained_by_others row (by simp)

end Steps

section Order

variable {requestID accountID : String}

-- The allocations in front of one are those of the draws in front of its own.
theorem records_split {draws : List (FundingLot × Int)} {front back : List FundingAllocation} {allocation : FundingAllocation}
    (recorded : List.Forall₂ (Records requestID accountID) draws (front ++ allocation :: back)) :
    ∃ before draw rest, draws = before ++ draw :: rest ∧ List.Forall₂ (Records requestID accountID) before front ∧
      Records requestID accountID draw allocation := by
  induction front generalizing draws with
  | nil =>
      cases recorded with
      | cons first rest => exact ⟨[], _, _, rfl, .nil, first⟩
  | cons other front ih =>
      cases recorded with
      | cons first rest =>
          obtain ⟨before, draw, after, rfl, earlier, here⟩ := ih rest
          exact ⟨_ :: before, draw, after, rfl, .cons first earlier, here⟩

theorem records_total {draws : List (FundingLot × Int)} {created : List FundingAllocation}
    (recorded : List.Forall₂ (Records requestID accountID) draws created) :
    (created.map FundingAllocation.amount).sum = (draws.map Prod.snd).sum := by
  induction recorded with
  | nil => rfl
  | cons record _ ih => rw [List.map_cons, List.map_cons, List.sum_cons, List.sum_cons, record.amount, ih]

theorem records_mem {draws : List (FundingLot × Int)} {created : List FundingAllocation}
    (recorded : List.Forall₂ (Records requestID accountID) draws created) (allocation : FundingAllocation) (made : allocation ∈ created) :
    ∃ draw ∈ draws, Records requestID accountID draw allocation := by
  obtain ⟨front, back, rfl⟩ := List.append_of_mem made
  obtain ⟨before, draw, rest, rfl, _, here⟩ := records_split recorded
  exact ⟨draw, by simp, here⟩

theorem records_ordered {wallet : Wallet} {draws : List (FundingLot × Int)} {created : List FundingAllocation}
    (recorded : List.Forall₂ (Records requestID accountID) draws created)
    (sorted : draws.Pairwise fun first second => first.1.Before second.1) (members : ∀ draw ∈ draws, draw.1 ∈ wallet.lots.rows) :
    created.Pairwise fun first second => ∀ one ∈ wallet.lots.rows, ∀ two ∈ wallet.lots.rows,
      one.lotID = first.lotID → two.lotID = second.lotID → one.Before two := by
  induction recorded with
  | nil => exact .nil
  | @cons draw allocation rest others record recorded ih =>
      rw [List.pairwise_cons] at sorted ⊢
      refine ⟨?_, ih sorted.2 fun later member => members later (by simp [member])⟩
      intro other made one oneIn two twoIn ofFirst ofSecond
      obtain ⟨later, laterIn, otherRecord⟩ := records_mem recorded other made
      obtain rfl := Table.eq_of_clash _ _ _ oneIn (members draw (by simp)) (clash_of_lot_id _ _ (ofFirst.trans record.lotID))
      obtain rfl := Table.eq_of_clash _ _ _ twoIn (members later (by simp [laterIn])) (clash_of_lot_id _ _ (ofSecond.trans otherRecord.lotID))
      exact sorted.1 later laterIn

-- A lot that is drawn once gives what the draw says.
theorem drawn_from_once {draws : List (FundingLot × Int)} {created : List FundingAllocation}
    (recorded : List.Forall₂ (Records requestID accountID) draws created)
    (distinct : draws.Pairwise fun first second => first.1.lotID ≠ second.1.lotID) (draw : FundingLot × Int) (member : draw ∈ draws) :
    drawnFrom draw.1.lotID created = draw.2 := by
  induction recorded with
  | nil => simp at member
  | @cons first allocation rest others record recorded ih =>
      rw [List.pairwise_cons] at distinct
      have split : drawnFrom draw.1.lotID (allocation :: others) = drawnFrom draw.1.lotID [allocation] + drawnFrom draw.1.lotID others :=
        drawn_from_append _ [allocation] others
      rw [List.mem_cons] at member
      rcases member with rfl | later
      · have none : drawnFrom draw.1.lotID others = 0 := by
          refine (drawn_from_others ?_).1
          intro other made same
          obtain ⟨otherDraw, drawIn, of⟩ := records_mem recorded other made
          exact distinct.1 otherDraw drawIn (same.symm.trans of.lotID)
        have one : drawnFrom draw.1.lotID [allocation] = draw.2 := by simp [drawnFrom, record.lotID, record.amount]
        rw [split, one, none, Int.add_zero]
      · have none : drawnFrom draw.1.lotID [allocation] = 0 := by
          refine (drawn_from_others ?_).1
          intro other made same
          rw [List.mem_singleton.mp made] at same
          exact distinct.1 draw later (record.lotID.symm.trans same)
        rw [split, none, ih distinct.2 later, Int.zero_add]

end Order

-- The allocations a request is given the first time: they make up its amount, and none is
-- drawn from a lot while an earlier lot of the account has quota left. A lot made for the
-- request comes after all the lots that were there.
structure DrawnInOrder (requestID accountID : String) (amount : Int) (wallet : Wallet) (created : List FundingAllocation) (after : Wallet) : Prop where
  named : ∀ allocation ∈ created, allocation.requestID = requestID ∧ allocation.accountID = accountID
  total : (created.map FundingAllocation.amount).sum = max amount 0
  positive : ∀ allocation ∈ created, 0 < allocation.amount
  ordered : created.Pairwise fun first second => ∀ one ∈ wallet.lots.rows, ∀ two ∈ wallet.lots.rows,
    one.lotID = first.lotID → two.lotID = second.lotID → one.Before two
  fifo : ∀ front allocation back, created = front ++ allocation :: back →
    ∃ lot ∈ after.lots.rows, lot.lotID = allocation.lotID ∧ lot.accountID = accountID ∧
      ∀ earlier ∈ wallet.lots.rows, earlier.accountID = accountID → 0 < earlier.remainingAmount → earlier.lotID ≠ lot.lotID →
        (earlier.Before lot ∨ ∀ row ∈ wallet.lots.rows, row.lotID ≠ lot.lotID) → drawnFrom earlier.lotID front = earlier.remainingAmount

section Drawing

variable (env : WalletEnv) (requestID accountID : String) {wallet middle after : Wallet}

theorem drained_order {created : List FundingAllocation} {lot later other : FundingLot} (drained : Drained created lot later) :
    other.Before later ↔ other.Before lot := by
  rw [← drained.same]
  rfl

theorem draws_distinct (amount : Int) : (Fifo.consume FundingLot.remainingAmount amount (openLots accountID wallet)).Pairwise
    fun first second => first.1.lotID ≠ second.1.lotID := by
  have distinct := (@open_lots_distinct accountID wallet).sublist (Fifo.consume_front FundingLot.remainingAmount amount _).sublist
  rwa [List.pairwise_map] at distinct

theorem draws_sorted (amount : Int) : (Fifo.consume FundingLot.remainingAmount amount (openLots accountID wallet)).Pairwise
    fun first second => first.1.Before second.1 := by
  have sorted := (@open_lots_sorted accountID wallet).sublist (Fifo.consume_front FundingLot.remainingAmount amount _).sublist
  rwa [List.pairwise_map] at sorted

-- The draws from the lots that are there, before any new lot is made.
theorem drawn_in_order_lots (amount : Int) (some_amount : 0 ≤ amount) {created : List FundingAllocation}
    (recorded : List.Forall₂ (Records requestID accountID)
      (Fifo.consume FundingLot.remainingAmount amount (openLots accountID wallet)) created)
    (moved : Attributed wallet created [] after) :
    DrawnInOrder requestID accountID (min amount (Fifo.held FundingLot.remainingAmount (openLots accountID wallet))) wallet created after := by
  have holding := @open_lots_holding accountID wallet
  have more := Fifo.held_nonneg FundingLot.remainingAmount _ holding
  constructor
  case named =>
    intro allocation made
    obtain ⟨draw, _, record⟩ := records_mem recorded allocation made
    exact ⟨record.requestID, record.accountID⟩
  case total =>
    rw [records_total recorded, Fifo.consume_sum _ amount some_amount _ holding]
    omega
  case positive =>
    intro allocation made
    obtain ⟨draw, member, record⟩ := records_mem recorded allocation made
    obtain ⟨front, back, split⟩ := List.append_of_mem member
    rw [record.amount]
    exact (Fifo.consume_split _ amount _ holding split).1
  case ordered =>
    refine records_ordered recorded (draws_sorted accountID amount) fun draw member => ?_
    exact ((mem_open_lots accountID draw.1).mp (Fifo.consume_mem _ amount _ draw member)).1
  case fifo =>
    intro front allocation back made
    subst made
    obtain ⟨before, draw, rest, split, earlier, record⟩ := records_split recorded
    obtain ⟨_, _, emptied, behind, whole⟩ := Fifo.consume_split _ amount _ holding split
    have opened : draw.1 ∈ openLots accountID wallet := by simp [whole]
    obtain ⟨lotIn, owner, _⟩ := (mem_open_lots accountID draw.1).mp opened
    obtain ⟨later, laterIn, drained⟩ := pairs_on moved.lots (List.mem_append_left [] lotIn)
    refine ⟨later, laterIn, drained.lot_id.trans record.lotID.symm, ?_, ?_⟩
    · rw [← drained.same]
      exact owner
    · intro other otherIn ownerToo holds apart reached
      have waiting : other ∈ openLots accountID wallet := (mem_open_lots accountID other).mpr ⟨otherIn, ownerToo, holds⟩
      have sorted := @open_lots_sorted accountID wallet
      rw [drained.lot_id] at apart
      have earlierOne : other.Before draw.1 := by
        rcases reached with first | absent
        · exact (drained_order drained).mp first
        · exact (absent draw.1 lotIn drained.lot_id.symm).elim
      -- The lots behind the one that is drawn come later, so the other one was drawn first.
      have inFront : other ∈ before.map Prod.fst := by
        rw [whole, List.mem_append, List.mem_cons] at waiting
        rcases waiting with front | same | back
        · exact front
        · exact (apart (same ▸ rfl)).elim
        · rw [whole, List.pairwise_append, List.pairwise_cons] at sorted
          exact (apart (before_antisymm _ _ earlierOne (sorted.2.1.1 other back))).elim
      obtain ⟨entry, entryIn, rfl⟩ := List.mem_map.mp inFront
      have distinct := @draws_distinct accountID wallet amount
      rw [split, List.pairwise_append] at distinct
      rw [drawn_from_once earlier distinct.1 entry entryIn, emptied entry entryIn]

theorem drawn_in_order_none (amount : Int) (covered : amount ≤ 0) : DrawnInOrder requestID accountID amount wallet [] wallet :=
  ⟨by simp, by simp [covered], by simp, .nil, by simp⟩

-- The draw from the new lot comes after the lots that were there are empty.
theorem drawn_in_order_new (amount uncovered : Int) (positive : 0 < uncovered) {created : List FundingAllocation} {allocation : FundingAllocation}
    {lot : FundingLot} (first : DrawnInOrder requestID accountID amount wallet created middle) (some_amount : 0 ≤ amount)
    (early : Attributed wallet created [] middle) (late : Attributed middle [allocation] [lot] after)
    (emptied : ∀ other ∈ wallet.lots.rows, other.accountID = accountID → 0 < other.remainingAmount →
      drawnFrom other.lotID created = other.remainingAmount)
    (records : Records requestID accountID (lot, uncovered) allocation) (owner : lot.accountID = accountID) :
    DrawnInOrder requestID accountID (amount + uncovered) wallet (created ++ [allocation]) after := by
  have fresh : ∀ row ∈ wallet.lots.rows, row.lotID ≠ lot.lotID := by
    have distinct := lot_ids_distinct after
    rw [drained_ids (early.trans late).lots, List.map_append, List.nodup_append] at distinct
    exact fun row rowIn => distinct.2.2 row.lotID (List.mem_map_of_mem rowIn) lot.lotID (by simp)
  constructor
  case named =>
    intro other made
    rw [List.mem_append, List.mem_singleton] at made
    rcases made with made | rfl
    · exact first.named other made
    · exact ⟨records.requestID, records.accountID⟩
  case total =>
    rw [List.map_append, List.sum_append, first.total, List.map_singleton, List.sum_singleton, records.amount]
    omega
  case positive =>
    intro other made
    rw [List.mem_append, List.mem_singleton] at made
    rcases made with made | rfl
    · exact first.positive other made
    · rw [records.amount]
      exact positive
  case ordered =>
    rw [List.pairwise_append]
    refine ⟨first.ordered, List.pairwise_singleton _ _, ?_⟩
    intro other _ last lastIs one _ two twoIn _ ofLast
    rw [List.mem_singleton.mp lastIs, records.lotID] at ofLast
    exact (fresh two twoIn ofLast).elim
  case fifo =>
    intro front other back made
    rcases List.eq_nil_or_concat back with rfl | ⟨rest, last, rfl⟩
    · obtain ⟨rfl, same⟩ := List.append_inj' made rfl
      obtain rfl := (List.cons.inj same).1
      obtain ⟨later, laterIn, drained⟩ := pairs_on late.lots (List.mem_append_right middle.lots.rows (List.mem_singleton_self lot))
      refine ⟨later, laterIn, drained.lot_id.trans records.lotID.symm, ?_, fun earlier earlierIn ownerToo holds _ _ => emptied earlier earlierIn ownerToo holds⟩
      rw [← drained.same]
      exact owner
    · have split : created ++ [allocation] = (front ++ other :: rest) ++ [last] := by simpa using made
      obtain ⟨rfl, _⟩ := List.append_inj' split rfl
      obtain ⟨row, rowIn, named, ownerToo, before⟩ := first.fifo front other rest rfl
      obtain ⟨later, laterIn, drained⟩ := pairs_on late.lots (List.mem_append_left [lot] rowIn)
      refine ⟨later, laterIn, drained.lot_id.trans named, ?_, ?_⟩
      · rw [← drained.same]
        exact ownerToo
      · intro earlier earlierIn earlierOwner holds apart reached
        rw [drained.lot_id] at apart reached
        exact before earlier earlierIn earlierOwner holds apart (reached.imp_left (drained_order drained).mp)

theorem drawn_oldest_first (amount : Int) (ran : drawOldestFirst env requestID accountID amount wallet = (.ok (), after)) :
    ∃ created opened, Attributed wallet created opened after ∧ DrawnInOrder requestID accountID amount wallet created after := by
  by_cases covered : amount ≤ 0
  · rw [draw_oldest_done env _ _ _ covered] at ran
    cases ran
    exact ⟨[], [], .refl wallet, drawn_in_order_none requestID accountID amount covered⟩
  have holding := @open_lots_holding accountID wallet
  simp only [drawOldestFirst, Tx.ran_bind, Tx.ran_view] at ran
  obtain ⟨_, _, ⟨rfl, rfl⟩, _, middle, draws, continued⟩ := ran
  have members : ∀ draw ∈ Fifo.consume FundingLot.remainingAmount amount (openLots accountID wallet), draw.1 ∈ wallet.lots.rows :=
    fun draw member => ((mem_open_lots accountID draw.1).mp (Fifo.consume_mem _ amount _ draw member)).1
  have there : ∀ draw ∈ Fifo.consume FundingLot.remainingAmount amount (openLots accountID wallet), 0 < draw.2 ∧ draw.2 ≤ draw.1.remainingAmount := by
    intro draw member
    obtain ⟨front, back, split⟩ := List.append_of_mem member
    obtain ⟨some_used, within, _⟩ := Fifo.consume_split _ amount _ holding split
    exact ⟨some_used, within⟩
  obtain ⟨created, recorded, moved⟩ :=
    attributed_by_draws env requestID accountID _ members (draws_distinct accountID amount) there draws
  have ordered := drawn_in_order_lots requestID accountID amount (by omega) recorded moved
  split at continued
  · rename_i short
    simp only [Tx.ran_bind] at continued
    obtain ⟨lot, taken, take, draw⟩ := continued
    have all := Fifo.consume_all FundingLot.remainingAmount amount (openLots accountID wallet) holding (by omega)
    have nothing : openLots accountID middle = [] :=
      open_lots_emptied env requestID accountID (openLots accountID wallet) [] (by simp) (all ▸ draws)
    simp only [takeOldestLot, Tx.ran_bind, Tx.ran_view, nothing, List.head?_nil] at take
    obtain ⟨_, _, ⟨rfl, rfl⟩, create⟩ := take
    obtain ⟨made, rows, remaining, owner⟩ := attributed_by_new_lot env _ lot rfl rfl create
    simp only at remaining owner
    rw [remaining, min_self] at draw
    obtain ⟨allocation, record, last⟩ :=
      attributed_by_draw env requestID accountID lot _ (by simp [rows]) short (by omega) draw
    refine ⟨created ++ [allocation], [lot], moved.trans (made.trans last), ?_⟩
    have both := drawn_in_order_new requestID accountID _ _ short ordered (by
      have more := Fifo.held_nonneg FundingLot.remainingAmount _ holding
      omega) moved (made.trans last) ?_ record owner
    · rw [min_eq_right (by omega), add_sub_cancel] at both
      exact both
    · intro other otherIn ownerToo holds
      have waiting : (other, other.remainingAmount) ∈ Fifo.consume FundingLot.remainingAmount amount (openLots accountID wallet) := by
        rw [all]
        exact List.mem_map_of_mem (f := fun lot => (lot, lot.remainingAmount)) ((mem_open_lots accountID other).mpr ⟨otherIn, ownerToo, holds⟩)
      exact drawn_from_once recorded (draws_distinct accountID amount) _ waiting
  · rw [Tx.ran_pure] at continued
    obtain ⟨_, rfl⟩ := continued
    rw [min_eq_left (by omega)] at ordered
    exact ⟨created, [], moved, ordered⟩

end Drawing

structure FundingCall where
  requestID : String
  accountID : String
  amount : Int

-- A call runs in a transaction of its own.
def attributeCall (env : WalletEnv) (call : FundingCall) : WalletTx Unit :=
  Tx.atomic (allocateSettledFundingFIFOTx env call.requestID call.accountID call.amount)

def attributeStep (env : WalletEnv) (wallet : Wallet) (call : FundingCall) : Wallet := (attributeCall env call wallet).2

section Failing

variable {problem : LedgerError} (env : WalletEnv) (other : problem ≠ .uniqueViolation)

include other

theorem draw_lot_fails (requestID accountID : String) (lot : FundingLot) (used : Int) :
    Tx.Avoids problem (drawLot env requestID accountID lot used) := by
  refine Tx.avoids_bind (Tx.avoids_edit _) fun _ => Tx.avoids_bind (Tx.avoids_zoom (avoids_fill problem env.toLedgerEnv _)) fun _ =>
    Tx.avoids_bind (Tx.avoids_view _) fun inserted => ?_
  cases inserted with
  | none => exact Tx.avoids_fail other.symm
  | some allocations => exact Tx.avoids_edit _

theorem draw_lots_fail (requestID accountID : String) (draws : List (FundingLot × Int)) :
    Tx.Avoids problem (drawLots env requestID accountID draws) := by
  induction draws with
  | nil => exact Tx.avoids_pure ()
  | cons draw rest ih => exact Tx.avoids_bind (draw_lot_fails env other requestID accountID _ _) fun _ => ih

theorem take_oldest_fails (requestID accountID : String) (remaining : Int) : Tx.Avoids problem (takeOldestLot env requestID accountID remaining) := by
  refine Tx.avoids_bind (Tx.avoids_view _) fun found => ?_
  cases found with
  | some lot => exact Tx.avoids_pure lot
  | none =>
      refine Tx.avoids_bind (Tx.avoids_zoom (avoids_fill problem env.toLedgerEnv _)) fun _ => Tx.avoids_bind (Tx.avoids_view _) fun _ =>
        Tx.avoids_bind (Tx.avoids_view _) fun inserted => ?_
      cases inserted with
      | none => exact Tx.avoids_fail other.symm
      | some lots => exact Tx.avoids_bind (Tx.avoids_edit _) fun _ => Tx.avoids_pure _

-- The only thing that stops an attribution is a key that another row has.
theorem draw_oldest_fails (requestID accountID : String) (amount : Int) : Tx.Avoids problem (drawOldestFirst env requestID accountID amount) := by
  refine Tx.avoids_bind (Tx.avoids_view _) fun lots => Tx.avoids_bind (draw_lots_fail env other requestID accountID _) fun _ => ?_
  by_cases short : 0 < amount - Fifo.held FundingLot.remainingAmount lots
  · rw [if_pos short]
    exact Tx.avoids_bind (take_oldest_fails env other requestID accountID _) fun _ => draw_lot_fails env other requestID accountID _ _
  · rw [if_neg short]
    exact Tx.avoids_pure ()

end Failing

-- A call that finds a key taken changes nothing, and neither does one whose request has allocations.
def FifoLaw (env : WalletEnv) (wallet : Wallet) (call : FundingCall) : Prop :=
  let after := attributeStep env wallet call
  after = wallet ∧ ((attributeCall env call wallet).1 = .error .uniqueViolation ∨
      ∃ allocation ∈ wallet.allocations.rows, allocation.requestID = call.requestID) ∨
    (attributeCall env call wallet).1 = .ok () ∧ (∀ allocation ∈ wallet.allocations.rows, allocation.requestID ≠ call.requestID) ∧
      ∃ created opened, Attributed wallet created opened after ∧ DrawnInOrder call.requestID call.accountID call.amount wallet created after

theorem fifo_law (env : WalletEnv) (wallet : Wallet) (call : FundingCall) : FifoLaw env wallet call := by
  cases ran : allocateSettledFundingFIFOTx env call.requestID call.accountID call.amount wallet with
  | mk outcome after =>
      cases outcome with
      | error problem =>
          have clash : problem = .uniqueViolation := by
            by_contra other
            refine Tx.avoids_bind (Tx.avoids_view _) (fun found => ?_) wallet after ran
            cases found with
            | some allocation => exact Tx.avoids_pure ()
            | none =>
                intro start final failed
                have drawn := rounds_draw_oldest env call.requestID call.accountID _ call.amount (le_refl _) none start fun _ _ => rfl
                exact draw_oldest_fails env other call.requestID call.accountID call.amount start final (drawn.symm.trans failed)
          exact .inl ⟨by simp [attributeStep, attributeCall, Tx.atomic, ran], .inl (by simp [attributeCall, ran, clash])⟩
      | ok _ =>
          have stepped : attributeStep env wallet call = after := by simp [attributeStep, attributeCall, Tx.atomic, ran]
          have committed : (attributeCall env call wallet).1 = .ok () := by simp [attributeCall, ran]
          simp only [allocateSettledFundingFIFOTx, Tx.ran_bind, Tx.ran_view] at ran
          obtain ⟨_, _, ⟨rfl, rfl⟩, continued⟩ := ran
          cases looked : wallet.allocations.find? fun allocation => allocation.requestID = call.requestID with
          | some found =>
              simp only [looked, Tx.ran_pure] at continued
              obtain ⟨member, same⟩ := Table.mem_of_find? _ _ _ looked
              exact .inl ⟨stepped.trans continued.2.symm, .inr ⟨found, member, of_decide_eq_true same⟩⟩
          | none =>
              simp only [looked] at continued
              rw [rounds_draw_oldest env _ _ _ _ (le_refl _) none wallet fun _ _ => rfl] at continued
              refine .inr ⟨committed, ?_, stepped ▸ drawn_oldest_first env _ _ _ continued⟩
              intro allocation member
              exact of_decide_eq_false ((Table.find?_eq_none_iff _ _).mp looked allocation member)

-- A lot that was whole when the run began.
theorem Drained.paid_whole {created : List FundingAllocation} {before after : FundingLot} (drained : Drained created before after)
    (whole : before.remainingAmount = before.originalAmount) (some_paid : 0 < before.paidQuota) (within : before.paidQuota ≤ before.originalAmount) :
    paidFrom before.lotID created = after.paidConsumed ∧ (after.remainingAmount = 0 → paidFrom before.lotID created = before.paidQuota) := by
  have originalAmount : after.originalAmount = before.originalAmount := by rw [← drained.same]
  have paidQuota : after.paidQuota = before.paidQuota := by rw [← drained.same]
  have paid := drained.paid some_paid within whole.le
  have nothing : before.paidConsumed = 0 := by simp [FundingLot.paidConsumed, floorPaidQuota, whole]
  rw [nothing, Int.sub_zero] at paid
  refine ⟨paid, fun empty => ?_⟩
  rw [paid, FundingLot.paidConsumed, empty, Int.sub_zero, floorPaidQuota, originalAmount, paidQuota]
  exact Int.mul_tdiv_cancel_left _ (by omega)

def requestTotal (requestID : String) (wallet : Wallet) : Int :=
  ((wallet.allocations.rows.filter fun allocation => allocation.requestID = requestID).map FundingAllocation.amount).sum

section Requests

variable (env : WalletEnv) {wallet : Wallet}

theorem attributed_by_step (wallet : Wallet) (call : FundingCall) :
    ∃ created opened, Attributed wallet created opened (attributeStep env wallet call) := by
  rcases fifo_law env wallet call with ⟨same, _⟩ | ⟨_, _, created, opened, moved, _⟩
  · exact ⟨[], [], by rw [same]; exact .refl wallet⟩
  · exact ⟨created, opened, moved⟩

theorem attributed_by_run (calls : List FundingCall) (wallet : Wallet) :
    ∃ created opened, Attributed wallet created opened (run (attributeStep env) wallet calls) := by
  induction calls generalizing wallet with
  | nil => exact ⟨[], [], .refl wallet⟩
  | cons call rest ih =>
      obtain ⟨early, opened, first⟩ := attributed_by_step env wallet call
      obtain ⟨late, more, later⟩ := ih (attributeStep env wallet call)
      exact ⟨early ++ late, opened ++ more, first.trans later⟩

-- Once a request has allocations, no call adds to them.
theorem request_settled (requestID : String) (wallet : Wallet) (known : ∃ allocation ∈ wallet.allocations.rows, allocation.requestID = requestID)
    (call : FundingCall) :
    (call.requestID = requestID → attributeStep env wallet call = wallet) ∧
      requestTotal requestID (attributeStep env wallet call) = requestTotal requestID wallet ∧
        ∃ allocation ∈ (attributeStep env wallet call).allocations.rows, allocation.requestID = requestID := by
  rcases fifo_law env wallet call with ⟨same, _⟩ | ⟨_, unknown, created, opened, moved, drawn⟩
  · rw [same]
    exact ⟨fun _ => rfl, rfl, known⟩
  · obtain ⟨allocation, member, named⟩ := known
    have other : call.requestID ≠ requestID := fun same => unknown allocation member (named.trans same.symm)
    have none : (created.filter fun allocation => allocation.requestID = requestID) = [] := by
      rw [List.filter_eq_nil_iff]
      intro made madeIn
      simpa [(drawn.named made madeIn).1] using other
    refine ⟨fun same => (other same).elim, ?_, allocation, ?_, named⟩
    · simp [requestTotal, moved.allocations, none]
    · rw [moved.allocations]
      exact List.mem_append_left _ member

theorem request_settled_run (requestID : String) (calls : List FundingCall) (wallet : Wallet)
    (known : ∃ allocation ∈ wallet.allocations.rows, allocation.requestID = requestID) :
    requestTotal requestID (run (attributeStep env) wallet calls) = requestTotal requestID wallet ∧
      ∃ allocation ∈ (run (attributeStep env) wallet calls).allocations.rows, allocation.requestID = requestID := by
  induction calls generalizing wallet with
  | nil => exact ⟨rfl, known⟩
  | cons call rest ih =>
      obtain ⟨_, total, kept⟩ := request_settled env requestID wallet known call
      obtain ⟨totals, still⟩ := ih _ kept
      exact ⟨totals.trans total, still⟩

-- The first call of a request that commits gives it exactly its amount.
theorem request_drawn (call : FundingCall) (positive : 0 < call.amount)
    (unknown : ∀ allocation ∈ wallet.allocations.rows, allocation.requestID ≠ call.requestID)
    (committed : (attributeCall env call wallet).1 = .ok ()) :
    requestTotal call.requestID (attributeStep env wallet call) = call.amount ∧
      ∃ allocation ∈ (attributeStep env wallet call).allocations.rows, allocation.requestID = call.requestID := by
  rcases fifo_law env wallet call with ⟨_, failed | ⟨allocation, member, named⟩⟩ | ⟨_, _, created, opened, moved, drawn⟩
  · simp [failed] at committed
  · exact (unknown allocation member named).elim
  · have total := drawn.total
    rw [max_eq_left positive.le] at total
    have before : (wallet.allocations.rows.filter fun allocation => allocation.requestID = call.requestID) = [] := by
      rw [List.filter_eq_nil_iff]
      intro allocation member
      simpa using unknown allocation member
    have all : (created.filter fun allocation => allocation.requestID = call.requestID) = created := by
      rw [List.filter_eq_self]
      exact fun allocation made => decide_eq_true (drawn.named allocation made).1
    constructor
    · rw [requestTotal, moved.allocations, List.filter_append, before, all, List.nil_append, total]
    · cases created with
      | nil =>
          rw [List.map_nil, List.sum_nil] at total
          omega
      | cons allocation rest => exact ⟨allocation, by simp [moved.allocations], (drawn.named allocation (by simp)).1⟩

end Requests

-- Whatever calls come one after another, each attributes its amount oldest lot first, a
-- request is served once, and every lot's allocations add up to what has left it.
theorem fifo_attribution (env : WalletEnv) (start : Wallet) (calls : List FundingCall) :
    Every (attributeStep env) (FifoLaw env) start calls ∧
    (∀ early first late, calls = early ++ first :: late → 0 < first.amount →
      (∀ allocation ∈ (run (attributeStep env) start early).allocations.rows, allocation.requestID ≠ first.requestID) →
      (attributeCall env first (run (attributeStep env) start early)).1 = .ok () →
        requestTotal first.requestID (run (attributeStep env) start calls) = first.amount ∧
        ∀ between again rest, late = between ++ again :: rest → again.requestID = first.requestID →
          attributeStep env (run (attributeStep env) start (early ++ first :: between)) again =
            run (attributeStep env) start (early ++ first :: between)) ∧
    ∃ created opened, Attributed start created opened (run (attributeStep env) start calls) ∧
      List.Forall₂ (fun before after => before.remainingAmount = before.originalAmount → 0 < before.paidQuota →
        before.paidQuota ≤ before.originalAmount →
          paidFrom before.lotID created = floorPaidQuota (before.originalAmount - after.remainingAmount) before.paidQuota before.originalAmount ∧
          (after.remainingAmount = 0 → paidFrom before.lotID created = before.paidQuota))
        (start.lots.rows ++ opened) (run (attributeStep env) start calls).lots.rows := by
  refine ⟨?_, ?_, ?_⟩
  · exact every_of_all (fifo_law env) start calls
  · rintro early first late rfl positive unknown committed
    obtain ⟨total, known⟩ := request_drawn env first positive unknown committed
    constructor
    · rw [run_append, run_cons]
      exact (request_settled_run env first.requestID late _ known).1.trans total
    · rintro between again rest rfl same
      rw [run_append, run_cons]
      obtain ⟨_, still⟩ := request_settled_run env first.requestID between _ known
      exact (request_settled env first.requestID _ still again).1 same
  · obtain ⟨created, opened, moved⟩ := attributed_by_run env calls start
    refine ⟨created, opened, moved, moved.lots.imp ?_⟩
    intro before after drained whole some_paid within
    have originalAmount : after.originalAmount = before.originalAmount := by rw [← drained.same]
    have paidQuota : after.paidQuota = before.paidQuota := by rw [← drained.same]
    have paid := drained.paid_whole whole some_paid within
    rwa [FundingLot.paidConsumed, originalAmount, paidQuota] at paid

end CodeGo.Billing
