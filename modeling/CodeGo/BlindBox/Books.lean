import CodeGo.BlindBox.Changes

set_option autoImplicit false

namespace CodeGo.BlindBox

open Relational Text Billing

/- The books of the inventory: every box comes from a purchase or from the extra draw of a
   box of the same purchase, every purchase was paid for once, and every opened box has
   one record and one reward. -/

def DrewAgain (item : BalanceBlindBoxItem) : Prop := item.status = .opened ∧ item.reward.outcome = .extraDraw

instance (item : BalanceBlindBoxItem) : Decidable (DrewAgain item) := inferInstanceAs (Decidable (_ ∧ _))

def boxesOf (purchaseID : Int) (items : Table BalanceBlindBoxItem) : Int :=
  items.total fun item => if item.purchaseID = purchaseID then 1 else 0

def extraDrawsOf (purchaseID : Int) (items : Table BalanceBlindBoxItem) : Int :=
  items.total fun item => if item.purchaseID = purchaseID ∧ DrewAgain item then 1 else 0

-- A box that was opened by its owner, and the record of it.
structure ClosedBy (item : BalanceBlindBoxItem) (record : BlindBoxOpenRecord) : Prop where
  opened : item.status = .opened
  named : item.openRecordID = record.id
  owner : item.ownerUserID = record.userID
  describes : Describes record item.reward

def PaidOut (store : BoxStore) (item : BalanceBlindBoxItem) : Prop :=
  match item.reward.outcome with
  | .extraDraw => True
  | .card => ∃ prop ∈ store.props.rows, prop.openRecordID = item.openRecordID ∧ prop.userID = item.ownerUserID
  | .credit => Rewarded store.wallet.ledger item.ownerUserID item.reward.creditAmount item.openRecordID
      (normalizeBlindBoxRewardWalletType item.reward.rewardWalletType)

structure Books (store : BoxStore) : Prop where
  sound : Sound store.wallet.ledger
  quantity : ∀ purchase ∈ store.purchases.rows, 0 < purchase.quantity
  minted : ∀ purchase ∈ store.purchases.rows, boxesOf purchase.id store.items = purchase.quantity + extraDrawsOf purchase.id store.items
  sourced : ∀ item ∈ store.items.rows, ∃ purchase ∈ store.purchases.rows, purchase.id = item.purchaseID
  charged : ∀ purchase ∈ store.purchases.rows, purchase.totalQuota ≠ 0 →
    Charged store.wallet.ledger purchase.userID purchase.totalQuota purchase.requestID
  charges : ∀ entry ∈ store.wallet.ledger.entries.rows, ∀ requestID, entry.idempotencyKey = purchaseEntryKey requestID →
    ∃ purchase ∈ store.purchases.rows, purchase.requestID = requestID ∧ purchase.totalQuota ≠ 0
  holds : ∀ reservation ∈ store.wallet.ledger.reservations.rows, ∀ requestID, reservation.idempotencyKey = purchaseHoldKey requestID →
    ∃ purchase ∈ store.purchases.rows, purchase.requestID = requestID
  closed : ∀ item ∈ store.items.rows, item.status = .available ∨ ∃ record ∈ store.records.rows, ClosedBy item record
  single : ∀ first ∈ store.items.rows, ∀ second ∈ store.items.rows, first.status = .opened → second.status = .opened →
    first.openRecordID = second.openRecordID → first = second
  yielded : ∀ record ∈ store.records.rows, ∃ item ∈ store.items.rows, ClosedBy item record
  paid : ∀ item ∈ store.items.rows, item.status = .opened → PaidOut store item
  cards : ∀ prop ∈ store.props.rows, ∃ item ∈ store.items.rows, item.status = .opened ∧ item.openRecordID = prop.openRecordID ∧
    item.reward.outcome = .card
  card : ∀ first ∈ store.props.rows, ∀ second ∈ store.props.rows, first.openRecordID = second.openRecordID → first = second
  credits : ∀ entry ∈ store.wallet.ledger.entries.rows, ∀ openRecordID walletType, entry.idempotencyKey = rewardKey openRecordID walletType →
    ∃ item ∈ store.items.rows, item.status = .opened ∧ item.openRecordID = openRecordID ∧ item.reward.outcome = .credit ∧
      normalizeBlindBoxRewardWalletType item.reward.rewardWalletType = walletType

-- An inventory before its first box.
structure NewInventory (store : BoxStore) : Prop where
  sound : Sound store.wallet.ledger
  entries : ∀ entry ∈ store.wallet.ledger.entries.rows, Foreign entry.idempotencyKey
  reservations : ∀ reservation ∈ store.wallet.ledger.reservations.rows, ∀ requestID, reservation.idempotencyKey ≠ purchaseHoldKey requestID
  purchases : store.purchases.rows = []
  items : store.items.rows = []
  records : store.records.rows = []
  props : store.props.rows = []

theorem NewInventory.books {store : BoxStore} (new : NewInventory store) : Books store where
  sound := new.sound
  quantity := by simp [new.purchases]
  minted := by simp [new.purchases]
  sourced := by simp [new.items]
  charged := by simp [new.purchases]
  charges := fun entry member requestID key => ((new.entries entry member).1 requestID key).elim
  holds := fun reservation member requestID key => (new.reservations reservation member requestID key).elim
  closed := by simp [new.items]
  single := by simp [new.items]
  yielded := by simp [new.records]
  paid := by simp [new.items]
  cards := by simp [new.props]
  card := by simp [new.props]
  credits := fun entry member openRecordID walletType key => ((new.entries entry member).2 openRecordID walletType key).elim

section Issuing

variable {store middle after : BoxStore} {purchase : BalanceBlindBoxPurchase}

theorem total_minted (purchaseID : Int) (count : Nat) (minted : List BalanceBlindBoxItem) (from_ : MintedFrom purchaseID count minted) (other : Int) :
    (minted.map fun item => if item.purchaseID = other then (1 : Int) else 0).sum = if purchaseID = other then (count : Int) else 0 := by
  have same : minted.map (fun item => if item.purchaseID = other then (1 : Int) else 0) =
      minted.map fun _ => if purchaseID = other then (1 : Int) else 0 :=
    List.map_congr_left fun item member => by rw [(from_.2 item member).1]
  rw [same, List.map_const', List.sum_replicate, from_.1]
  split <;> simp

theorem total_minted_draws (purchaseID : Int) (count : Nat) (minted : List BalanceBlindBoxItem) (from_ : MintedFrom purchaseID count minted)
    (other : Int) : (minted.map fun item => if item.purchaseID = other ∧ DrewAgain item then (1 : Int) else 0).sum = 0 := by
  refine List.sum_eq_zero ?_
  rw [List.forall_mem_map]
  intro item member
  have isSealed := (from_.2 item member).2
  simp [DrewAgain, isSealed]

-- The payment of a purchase, or nothing for boxes that were paid for in cash.
structure Settles (ledger : Ledger) (purchase : BalanceBlindBoxPurchase) (after : Ledger) : Prop where
  later : Later ledger after
  charged : purchase.totalQuota ≠ 0 → Charged after purchase.userID purchase.totalQuota purchase.requestID
  entries : ∀ entry ∈ after.entries.rows, entry ∈ ledger.entries.rows ∨
    (purchase.totalQuota ≠ 0 ∧ entry.idempotencyKey = purchaseEntryKey purchase.requestID) ∨ Foreign entry.idempotencyKey
  reservations : ∀ reservation ∈ after.reservations.rows, (∃ old ∈ ledger.reservations.rows, old.idempotencyKey = reservation.idempotencyKey) ∨
    reservation.idempotencyKey = purchaseHoldKey purchase.requestID

theorem purchase_numbered (first second : BalanceBlindBoxPurchase) (same : first.id = second.id) : Clash first second := .inl same

theorem Books.issued (books : Books store) (settles : Settles store.wallet.ledger purchase middle.wallet.ledger)
    (issued : Issued middle purchase after) (purchases : middle.purchases = store.purchases) (items : middle.items = store.items)
    (records : middle.records = store.records) (props : middle.props = store.props) (positive : 0 < purchase.quantity) : Books after := by
  obtain ⟨minted, rows, from_⟩ := issued.items
  rw [items] at rows
  have bought := issued.purchases
  rw [purchases] at bought
  have sameRecords : after.records = store.records := issued.records.trans records
  have sameProps : after.props = store.props := issued.props.trans props
  have sameLedger : after.wallet.ledger = middle.wallet.ledger := congrArg Wallet.ledger issued.wallet
  have boxes : ∀ other, boxesOf other after.items = boxesOf other store.items + if purchase.id = other then purchase.quantity else 0 := by
    intro other
    rw [boxesOf, Table.total_append _ _ _ _ rows, total_minted _ _ _ from_, Int.toNat_of_nonneg (Int.le_of_lt positive)]
    rfl
  have draws : ∀ other, extraDrawsOf other after.items = extraDrawsOf other store.items := by
    intro other
    rw [extraDrawsOf, Table.total_append _ _ _ _ rows, total_minted_draws _ _ _ from_, add_zero]
    rfl
  have apart : ∀ other ∈ store.purchases.rows, purchase.id ≠ other.id := fun other member same =>
    issued.fresh other (by rw [purchases]; exact member) (purchase_numbered _ _ same.symm)
  have unsourced : ∀ item ∈ store.items.rows, item.purchaseID ≠ purchase.id := by
    intro item member same
    obtain ⟨source, sourceIn, named⟩ := books.sourced item member
    exact apart source sourceIn (same.symm.trans named.symm)
  have mem : ∀ item ∈ after.items.rows, item ∈ store.items.rows ∨ (item.purchaseID = purchase.id ∧ item.status = .available) := by
    intro item member
    rw [rows, List.mem_append] at member
    exact member.imp_right (from_.2 item)
  have kept : ∀ item ∈ store.items.rows, item ∈ after.items.rows := fun item member => by
    rw [rows]
    exact List.mem_append_left _ member
  have opened : ∀ item ∈ after.items.rows, item.status = .opened → item ∈ store.items.rows := by
    intro item member isOpened
    refine (mem item member).resolve_right fun fresh => ?_
    rw [fresh.2] at isOpened
    cases isOpened
  refine ⟨sameLedger ▸ settles.later.sound books.sound, ?_, ?_, ?_, ?_, ?_, ?_, ?_, ?_, ?_, ?_, ?_, ?_, ?_⟩
  · rw [bought, List.forall_mem_append, List.forall_mem_singleton]
    exact ⟨books.quantity, positive⟩
  · rw [bought, List.forall_mem_append, List.forall_mem_singleton]
    refine ⟨fun other member => ?_, ?_⟩
    · rw [boxes, draws, if_neg (apart other member), add_zero]
      exact books.minted other member
    · have noBoxes : boxesOf purchase.id store.items = 0 := List.sum_eq_zero (List.forall_mem_map.mpr fun item member => if_neg (unsourced item member))
      have noDraws : extraDrawsOf purchase.id store.items = 0 :=
        List.sum_eq_zero (List.forall_mem_map.mpr fun item member => if_neg fun both => unsourced item member both.1)
      rw [boxes, draws, if_pos rfl, noBoxes, noDraws, zero_add, add_zero]
  · intro item member
    rw [bought]
    rcases mem item member with old | fresh
    · obtain ⟨source, sourceIn, named⟩ := books.sourced item old
      exact ⟨source, List.mem_append_left _ sourceIn, named⟩
    · exact ⟨purchase, by simp, fresh.1.symm⟩
  · rw [bought, List.forall_mem_append, List.forall_mem_singleton, sameLedger]
    exact ⟨fun other member paid => settles.later.charged (books.charged other member paid), settles.charged⟩
  · intro entry member requestID key
    rw [sameLedger] at member
    rw [bought]
    rcases settles.entries entry member with old | ⟨paid, own⟩ | foreign
    · obtain ⟨source, sourceIn, facts⟩ := books.charges entry old requestID key
      exact ⟨source, List.mem_append_left _ sourceIn, facts⟩
    · exact ⟨purchase, by simp, append_left_injective _ _ _ (own.symm.trans key), paid⟩
    · exact (foreign.1 requestID key).elim
  · intro reservation member requestID key
    rw [sameLedger] at member
    rw [bought]
    rcases settles.reservations reservation member with ⟨old, oldIn, same⟩ | own
    · obtain ⟨source, sourceIn, facts⟩ := books.holds old oldIn requestID (same.trans key)
      exact ⟨source, List.mem_append_left _ sourceIn, facts⟩
    · exact ⟨purchase, by simp, hold_key_injective (own.symm.trans key)⟩
  · intro item member
    rw [sameRecords]
    exact (mem item member).elim (books.closed item) fun fresh => .inl fresh.2
  · intro first firstIn second secondIn firstOpened secondOpened same
    exact books.single first (opened first firstIn firstOpened) second (opened second secondIn secondOpened) firstOpened secondOpened same
  · rw [sameRecords]
    intro record member
    obtain ⟨item, itemIn, closed⟩ := books.yielded record member
    exact ⟨item, kept item itemIn, closed⟩
  · intro item member isOpened
    have paid := books.paid item (opened item member isOpened) isOpened
    unfold PaidOut at paid ⊢
    rw [sameProps, sameLedger]
    cases outcome : item.reward.outcome with
    | extraDraw => trivial
    | card => simpa only [outcome] using paid
    | credit =>
        simp only [outcome] at paid
        exact settles.later.rewarded paid
  · rw [sameProps]
    intro prop member
    obtain ⟨item, itemIn, facts⟩ := books.cards prop member
    exact ⟨item, kept item itemIn, facts⟩
  · rw [sameProps]
    exact books.card
  · intro entry member openRecordID walletType key
    rw [sameLedger] at member
    rcases settles.entries entry member with old | ⟨_, own⟩ | foreign
    · obtain ⟨item, itemIn, facts⟩ := books.credits entry old openRecordID walletType key
      exact ⟨item, kept item itemIn, facts⟩
    · exact (purchase_ne_reward _ _ _ (own.symm.trans key)).elim
    · exact (foreign.2 openRecordID walletType key).elim

end Issuing

section Giving

variable {store after : BoxStore}

theorem Passed.source {old new : BalanceBlindBoxItem} (passed : Passed old new) : new.purchaseID = old.purchaseID := by
  rw [passed.1]

theorem Passed.drew {old new : BalanceBlindBoxItem} (passed : Passed old new) : DrewAgain new ↔ DrewAgain old := by
  unfold DrewAgain
  rw [passed.1]

theorem total_passed {rows next : List BalanceBlindBoxItem} (passed : List.Forall₂ Passed rows next) (weight : BalanceBlindBoxItem → Int)
    (blind : ∀ old new, Passed old new → weight new = weight old) : (next.map weight).sum = (rows.map weight).sum := by
  induction passed with
  | nil => rfl
  | cons first _ ih => rw [List.map_cons, List.map_cons, List.sum_cons, List.sum_cons, ih, blind _ _ first]

theorem passed_before {rows next : List BalanceBlindBoxItem} (passed : List.Forall₂ Passed rows next) (new : BalanceBlindBoxItem)
    (member : new ∈ next) : ∃ old ∈ rows, Passed old new := by
  induction passed with
  | nil => cases member
  | cons first _ ih =>
      rw [List.mem_cons] at member
      rcases member with rfl | later
      · exact ⟨_, by simp, first⟩
      · obtain ⟨old, oldIn, pair⟩ := ih later
        exact ⟨old, by simp [oldIn], pair⟩

theorem passed_after {rows next : List BalanceBlindBoxItem} (passed : List.Forall₂ Passed rows next) (old : BalanceBlindBoxItem)
    (member : old ∈ rows) : ∃ new ∈ next, Passed old new := by
  induction passed with
  | nil => cases member
  | cons first _ ih =>
      rw [List.mem_cons] at member
      rcases member with rfl | later
      · exact ⟨_, by simp, first⟩
      · obtain ⟨new, newIn, pair⟩ := ih later
        exact ⟨new, by simp [newIn], pair⟩

-- Opened boxes stay as they are.
theorem Given.opened (given : Given store after) (item : BalanceBlindBoxItem) (isOpened : item.status = .opened) :
    item ∈ after.items.rows ↔ item ∈ store.items.rows := by
  constructor
  · intro member
    obtain ⟨old, oldIn, passed⟩ := passed_before given.items item member
    have same : item = old := passed.2 (by rw [← passed.status, isOpened]; decide)
    exact same ▸ oldIn
  · intro member
    obtain ⟨new, newIn, passed⟩ := passed_after given.items item member
    have same : new = item := passed.2 (by rw [isOpened]; decide)
    exact same ▸ newIn

theorem Books.given (books : Books store) (given : Given store after) : Books after := by
  have items := given.items
  have purchases := given.purchases
  have records := given.records
  have props := given.props
  have wallet := given.wallet
  have boxes : ∀ other, boxesOf other after.items = boxesOf other store.items := fun other =>
    total_passed items _ fun old new passed => by rw [passed.source]
  have draws : ∀ other, extraDrawsOf other after.items = extraDrawsOf other store.items := fun other =>
    total_passed items _ fun old new passed => by simp only [passed.source, passed.drew]
  have kept : ∀ item ∈ store.items.rows, item.status = .opened → item ∈ after.items.rows := fun item member isOpened =>
    (given.opened item isOpened).mpr member
  refine ⟨?_, ?_, ?_, ?_, ?_, ?_, ?_, ?_, ?_, ?_, ?_, ?_, ?_, ?_⟩
  · rw [wallet]
    exact books.sound
  · rw [purchases]
    exact books.quantity
  · intro purchase member
    rw [purchases] at member
    rw [boxes, draws]
    exact books.minted purchase member
  · intro item member
    obtain ⟨old, oldIn, passed⟩ := passed_before items item member
    rw [purchases, passed.source]
    exact books.sourced old oldIn
  · rw [purchases, wallet]
    exact books.charged
  · rw [purchases, wallet]
    exact books.charges
  · rw [purchases, wallet]
    exact books.holds
  · intro item member
    obtain ⟨old, oldIn, passed⟩ := passed_before items item member
    rw [records]
    rcases books.closed old oldIn with isSealed | ⟨record, recordIn, closed⟩
    · exact .inl (passed.status.trans isSealed)
    · have same : item = old := passed.2 (by rw [closed.opened]; decide)
      exact .inr ⟨record, recordIn, same ▸ closed⟩
  · intro first firstIn second secondIn firstOpened secondOpened same
    exact books.single first ((given.opened first firstOpened).mp firstIn) second ((given.opened second secondOpened).mp secondIn) firstOpened
      secondOpened same
  · rw [records]
    intro record member
    obtain ⟨item, itemIn, closed⟩ := books.yielded record member
    exact ⟨item, kept item itemIn closed.opened, closed⟩
  · intro item member isOpened
    have paid := books.paid item ((given.opened item isOpened).mp member) isOpened
    unfold PaidOut at paid ⊢
    rw [props, wallet]
    exact paid
  · rw [props]
    intro prop member
    obtain ⟨item, itemIn, facts⟩ := books.cards prop member
    exact ⟨item, kept item itemIn facts.1, facts⟩
  · rw [props]
    exact books.card
  · rw [wallet]
    intro entry member openRecordID walletType key
    obtain ⟨item, itemIn, facts⟩ := books.credits entry member openRecordID walletType key
    exact ⟨item, kept item itemIn facts.1, facts⟩

end Giving

section Opening

variable {store after : BoxStore} {userID : Int} {requestID : String} {item : BalanceBlindBoxItem} {record : BlindBoxOpenRecord}

-- The same step told for the books: how the rows moved and what was paid.
structure Turned (store : BoxStore) (item closed : BalanceBlindBoxItem) (record : BlindBoxOpenRecord) (after : BoxStore) : Prop where
  known : item ∈ store.items.rows
  wasSealed : item.status = .available
  closedBy : ClosedBy closed record
  fresh : Table.Fresh store.records record.columns
  records : after.records.rows = store.records.rows ++ [record.columns]
  purchases : after.purchases = store.purchases
  source : closed.purchaseID = item.purchaseID
  rows : ∀ other ∈ after.items.rows, other = closed ∨ other ∈ store.items.rows ∨ (other.status = .available ∧ other.purchaseID = item.purchaseID)
  closedIn : closed ∈ after.items.rows
  kept : ∀ other ∈ store.items.rows, other ≠ item → other ∈ after.items.rows
  balanced : ∀ purchaseID, boxesOf purchaseID after.items - extraDrawsOf purchaseID after.items =
    boxesOf purchaseID store.items - extraDrawsOf purchaseID store.items
  later : Later store.wallet.ledger after.wallet.ledger
  reservations : after.wallet.ledger.reservations = store.wallet.ledger.reservations
  entries : ∀ entry ∈ after.wallet.ledger.entries.rows, entry ∈ store.wallet.ledger.entries.rows ∨ Foreign entry.idempotencyKey ∨
    (closed.reward.outcome = .credit ∧
      entry.idempotencyKey = rewardKey record.id (normalizeBlindBoxRewardWalletType closed.reward.rewardWalletType))
  paid : PaidOut after closed
  props : after.props = store.props ∨ ∃ prop, after.props.rows = store.props.rows ++ [prop] ∧ prop.openRecordID = record.id ∧
    closed.reward.outcome = .card

theorem total_bonus (purchaseID : Int) (bonus : BalanceBlindBoxItem) (isSealed : bonus.status = .available) {items next : Table BalanceBlindBoxItem}
    (rows : next.rows = items.rows ++ [bonus]) : boxesOf purchaseID next = boxesOf purchaseID items + (if bonus.purchaseID = purchaseID then 1 else 0) ∧
      extraDrawsOf purchaseID next = extraDrawsOf purchaseID items := by
  constructor
  · rw [boxesOf, Table.total_append _ _ _ _ rows, List.map_singleton, List.sum_singleton]
    rfl
  · rw [extraDrawsOf, Table.total_append _ _ _ _ rows, List.map_singleton, List.sum_singleton, if_neg, add_zero]
    · rfl
    · rintro ⟨_, opened, _⟩
      rw [isSealed] at opened
      cases opened

theorem total_closed (purchaseID : Int) {items next : Table BalanceBlindBoxItem} {reward : SealedReward} {openRecordID now : Int}
    (isSealed : item.status = .available) (replaced : Table.Replaced items next item (openedItem item reward openRecordID now)) :
    boxesOf purchaseID next = boxesOf purchaseID items ∧
      extraDrawsOf purchaseID next = extraDrawsOf purchaseID items + if item.purchaseID = purchaseID ∧ reward.outcome = .extraDraw then 1 else 0 := by
  constructor
  · rw [boxesOf, replaced.total]
    exact sub_add_cancel _ _
  · rw [extraDrawsOf, replaced.total]
    simp only [DrewAgain, isSealed, openedItem, reduceCtorEq, false_and, and_false, if_false, sub_zero, true_and]
    rfl

theorem Opened.turned (opened : Opened store userID requestID item record after) : ∃ closed, Turned store item closed record after := by
  obtain ⟨reward, now, middle, yields, props, wallet, replaced, describes⟩ := opened.yields
  have closedBy : ClosedBy (openedItem item reward record.id now) record :=
    ⟨rfl, rfl, opened.isSealed.2.trans opened.named.1.symm, describes⟩
  have kept : ∀ other ∈ store.items.rows, other ≠ item → other ∈ after.items.rows := fun other member different => opened.others member different
  have owner : item.ownerUserID = userID := opened.isSealed.2
  refine ⟨openedItem item reward record.id now, ?_⟩
  cases yields with
  | extraDraw outcome bonus source isSealed items sameProps sameWallet =>
      have sameLedger : after.wallet.ledger = store.wallet.ledger := congrArg Wallet.ledger (wallet.symm.trans sameWallet)
      refine ⟨opened.known, opened.isSealed.1, closedBy, opened.fresh, opened.records, opened.purchases, rfl, fun other member => ?_, replaced.new_mem, kept,
        fun purchaseID => ?_, sameLedger ▸ .refl _, by rw [sameLedger], fun entry member => .inl (sameLedger ▸ member), ?_,
        .inl (props.symm.trans sameProps)⟩
      · refine (replaced.mem other member).imp_right fun still => ?_
        have rowIn := still.1
        rw [items, List.mem_append, List.mem_singleton] at rowIn
        rcases rowIn with old | rfl
        · exact .inl old
        · exact .inr ⟨isSealed, source⟩
      · obtain ⟨boxes, draws⟩ := total_bonus purchaseID bonus isSealed items
        obtain ⟨sameBoxes, moreDraws⟩ := total_closed purchaseID opened.isSealed.1 replaced
        rw [sameBoxes, moreDraws, boxes, draws, source]
        simp only [outcome, and_true]
        omega
      · unfold PaidOut
        simp only [openedItem, outcome]
  | card outcome prop source cardOwner items rows sameWallet =>
      have sameLedger : after.wallet.ledger = store.wallet.ledger := congrArg Wallet.ledger (wallet.symm.trans sameWallet)
      refine ⟨opened.known, opened.isSealed.1, closedBy, opened.fresh, opened.records, opened.purchases, rfl, fun other member => ?_, replaced.new_mem, kept,
        fun purchaseID => ?_, sameLedger ▸ .refl _, by rw [sameLedger], fun entry member => .inl (sameLedger ▸ member), ?_,
        .inr ⟨prop, by rw [← props, rows], source, outcome⟩⟩
      · exact (replaced.mem other member).imp_right fun still => .inl (items ▸ still.1)
      · obtain ⟨sameBoxes, moreDraws⟩ := total_closed purchaseID opened.isSealed.1 replaced
        rw [sameBoxes, moreDraws, items, if_neg (by simp [outcome]), add_zero]
      · unfold PaidOut
        simp only [openedItem, outcome]
        exact ⟨prop, by rw [← props, rows]; simp, source, cardOwner.trans owner.symm⟩
  | credit outcome items sameProps rewarded =>
      have sameLedger : after.wallet.ledger = middle.wallet.ledger := congrArg Wallet.ledger wallet.symm
      refine ⟨opened.known, opened.isSealed.1, closedBy, opened.fresh, opened.records, opened.purchases, rfl, fun other member => ?_, replaced.new_mem, kept,
        fun purchaseID => ?_, sameLedger ▸ rewarded.later, sameLedger ▸ rewarded.reservations, fun entry member => ?_, ?_,
        .inl (props.symm.trans sameProps)⟩
      · exact (replaced.mem other member).imp_right fun still => .inl (items ▸ still.1)
      · obtain ⟨sameBoxes, moreDraws⟩ := total_closed purchaseID opened.isSealed.1 replaced
        rw [sameBoxes, moreDraws, items, if_neg (by simp [outcome]), add_zero]
      · rw [sameLedger] at member
        rcases rewarded.entries entry member with old | own | foreign
        · exact .inl old
        · exact .inr (.inr ⟨outcome, own⟩)
        · exact .inr (.inl foreign)
      · unfold PaidOut
        simp only [openedItem, outcome]
        rw [sameLedger, owner]
        exact rewarded.rewarded

theorem record_numbered (first second : BlindBoxOpenRecord) (same : first.id = second.id) : Clash first second := .inl same

theorem closed_by_columns {item : BalanceBlindBoxItem} {record : BlindBoxOpenRecord} (closedBy : ClosedBy item record) : ClosedBy item record.columns :=
  ⟨closedBy.opened, closedBy.named, closedBy.owner, closedBy.describes.rewardType, closedBy.describes.rewardTier, closedBy.describes.rewardUSD,
    closedBy.describes.creditAmount, closedBy.describes.rewardTitle⟩

theorem Turned.books {closed : BalanceBlindBoxItem} (turned : Turned store item closed record after) (books : Books store) : Books after := by
  -- No box opened earlier carries the new record.
  have unseen : ∀ other ∈ store.items.rows, other.status = .opened → other.openRecordID ≠ record.id := by
    intro other member isOpened same
    rcases books.closed other member with isSealed | ⟨known, knownIn, closedBy⟩
    · rw [isOpened] at isSealed
      cases isSealed
    · exact turned.fresh known knownIn (record_numbered _ _ (closedBy.named.symm.trans same))
  have kept : ∀ other ∈ store.items.rows, other.status = .opened → other ∈ after.items.rows := fun other member isOpened =>
    turned.kept other member fun same => by
      rw [same, turned.wasSealed] at isOpened
      cases isOpened
  have opened : ∀ other ∈ after.items.rows, other.status = .opened → other = closed ∨ other ∈ store.items.rows := by
    intro other member isOpened
    refine (turned.rows other member).imp_right fun rest => rest.resolve_right fun bonus => ?_
    rw [bonus.1] at isOpened
    cases isOpened
  refine ⟨turned.later.sound books.sound, ?_, ?_, ?_, ?_, ?_, ?_, ?_, ?_, ?_, ?_, ?_, ?_, ?_⟩
  · rw [turned.purchases]
    exact books.quantity
  · rw [turned.purchases]
    intro purchase member
    have before := books.minted purchase member
    have balanced := turned.balanced purchase.id
    omega
  · rw [turned.purchases]
    intro other member
    rcases turned.rows other member with rfl | old | bonus
    · rw [turned.source]
      exact books.sourced item turned.known
    · exact books.sourced other old
    · rw [bonus.2]
      exact books.sourced item turned.known
  · rw [turned.purchases]
    exact fun purchase member paid => turned.later.charged (books.charged purchase member paid)
  · rw [turned.purchases]
    intro entry member requestID key
    rcases turned.entries entry member with old | foreign | ⟨_, own⟩
    · exact books.charges entry old requestID key
    · exact (foreign.1 requestID key).elim
    · exact (purchase_ne_reward _ _ _ (key.symm.trans own)).elim
  · rw [turned.purchases, turned.reservations]
    exact books.holds
  · intro other member
    rw [turned.records]
    rcases turned.rows other member with rfl | old | bonus
    · exact .inr ⟨record.columns, by simp, closed_by_columns turned.closedBy⟩
    · exact (books.closed other old).imp_right fun ⟨known, knownIn, closedBy⟩ => ⟨known, List.mem_append_left _ knownIn, closedBy⟩
    · exact .inl bonus.1
  · intro first firstIn second secondIn firstOpened secondOpened same
    rcases opened first firstIn firstOpened with rfl | firstOld
    · rcases opened second secondIn secondOpened with rfl | secondOld
      · rfl
      · exact (unseen second secondOld secondOpened (same.symm.trans turned.closedBy.named)).elim
    · rcases opened second secondIn secondOpened with rfl | secondOld
      · exact (unseen first firstOld firstOpened (same.trans turned.closedBy.named)).elim
      · exact books.single first firstOld second secondOld firstOpened secondOpened same
  · rw [turned.records, List.forall_mem_append, List.forall_mem_singleton]
    refine ⟨fun known knownIn => ?_, closed, turned.closedIn, closed_by_columns turned.closedBy⟩
    obtain ⟨other, otherIn, closedBy⟩ := books.yielded known knownIn
    exact ⟨other, kept other otherIn closedBy.opened, closedBy⟩
  · intro other member isOpened
    rcases opened other member isOpened with rfl | old
    · exact turned.paid
    · have paid := books.paid other old isOpened
      unfold PaidOut at paid ⊢
      cases outcome : other.reward.outcome with
      | extraDraw => trivial
      | card =>
          simp only [outcome] at paid ⊢
          obtain ⟨prop, propIn, facts⟩ := paid
          refine ⟨prop, ?_, facts⟩
          rcases turned.props with same | ⟨added, rows, _⟩
          · exact same ▸ propIn
          · rw [rows]
            exact List.mem_append_left _ propIn
      | credit =>
          simp only [outcome] at paid ⊢
          exact turned.later.rewarded paid
  · intro prop member
    rcases turned.props with same | ⟨added, rows, source, outcome⟩
    · rw [same] at member
      obtain ⟨other, otherIn, facts⟩ := books.cards prop member
      exact ⟨other, kept other otherIn facts.1, facts⟩
    · rw [rows, List.mem_append, List.mem_singleton] at member
      rcases member with old | rfl
      · obtain ⟨other, otherIn, facts⟩ := books.cards prop old
        exact ⟨other, kept other otherIn facts.1, facts⟩
      · exact ⟨closed, turned.closedIn, turned.closedBy.opened, turned.closedBy.named.trans source.symm, outcome⟩
  · rcases turned.props with same | ⟨added, rows, source, outcome⟩
    · rw [same]
      exact books.card
    · -- The new card is the only one of the new record.
      have alone : ∀ prop ∈ store.props.rows, prop.openRecordID ≠ added.openRecordID := by
        intro prop propIn same
        obtain ⟨other, otherIn, isOpened, named, _⟩ := books.cards prop propIn
        exact unseen other otherIn isOpened (named.trans (same.trans source))
      rw [rows]
      intro first firstIn second secondIn same
      rw [List.mem_append, List.mem_singleton] at firstIn secondIn
      rcases firstIn with firstOld | rfl
      · rcases secondIn with secondOld | rfl
        · exact books.card first firstOld second secondOld same
        · exact (alone first firstOld same).elim
      · rcases secondIn with secondOld | rfl
        · exact (alone second secondOld same.symm).elim
        · rfl
  · intro entry member openRecordID walletType key
    rcases turned.entries entry member with old | foreign | ⟨outcome, own⟩
    · obtain ⟨other, otherIn, facts⟩ := books.credits entry old openRecordID walletType key
      exact ⟨other, kept other otherIn facts.1, facts⟩
    · exact (foreign.2 openRecordID walletType key).elim
    · obtain ⟨sameID, sameWallet⟩ := reward_key_injective (own.symm.trans key)
      exact ⟨closed, turned.closedIn, turned.closedBy.opened, turned.closedBy.named.trans sameID, outcome, sameWallet⟩

end Opening

end CodeGo.BlindBox
