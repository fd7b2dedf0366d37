import CodeGo.BlindBox.Payments

set_option autoImplicit false

namespace CodeGo.BlindBox

open Relational Text Billing
open Checkout (nextID)

/- What each transaction does to the inventory: boxes are minted with a purchase, change
   owner while they are sealed, and are opened one by one. -/

section Minting

variable {store after : BoxStore}

def MintedFrom (purchaseID : Int) (count : Nat) (minted : List BalanceBlindBoxItem) : Prop :=
  minted.length = count ∧ ∀ item ∈ minted, item.purchaseID = purchaseID ∧ item.status = .available

theorem issued_items (purchase : BalanceBlindBoxPurchase) (count : Nat) (ran : issueItems purchase count store = (.ok (), after)) :
    ∃ items minted, after = { store with items } ∧ items.rows = store.items.rows ++ minted ∧ MintedFrom purchase.id count minted := by
  induction count generalizing store with
  | zero =>
      rw [issueItems, Tx.ran_pure] at ran
      exact ⟨store.items, [], ran.2.symm, by simp, rfl, by simp⟩
  | succ count ih =>
      rw [issueItems, Tx.ran_bind] at ran
      obtain ⟨_, middle, created, issued⟩ := ran
      obtain ⟨first, firstRows, rfl⟩ := ran_create_item _ created
      obtain ⟨items, minted, rfl, rows, size, every⟩ := ih issued
      refine ⟨items, { newUnrevealedBalanceBlindBoxItem purchase.id purchase.userID purchase.userID with id := nextID store.items } :: minted, rfl,
        ?_, ?_, ?_⟩
      · rw [rows, firstRows, List.append_assoc, List.singleton_append]
      · rw [List.length_cons, size]
      · rw [List.forall_mem_cons]
        exact ⟨⟨rfl, rfl⟩, every⟩

-- A purchase row and its boxes; what the buyer paid is not part of it.
structure Issued (store : BoxStore) (purchase : BalanceBlindBoxPurchase) (after : BoxStore) : Prop where
  fresh : Table.Fresh store.purchases purchase
  purchases : after.purchases.rows = store.purchases.rows ++ [purchase]
  items : ∃ minted, after.items.rows = store.items.rows ++ minted ∧ MintedFrom purchase.id purchase.quantity.toNat minted
  records : after.records = store.records
  props : after.props = store.props
  wallet : after.wallet = store.wallet

theorem issued_batch (purchase created : BalanceBlindBoxPurchase) (middle : BoxStore)
    (made : createPurchase purchase store = (.ok created, middle)) (ran : issueBalanceBlindBoxBatchTx created middle = (.ok (), after)) :
    Issued store created after ∧ created = { purchase with id := created.id } := by
  obtain ⟨purchases, rfl, fresh, rows, rfl⟩ := ran_create_purchase _ _ made
  obtain ⟨items, minted, rfl, itemRows, from_⟩ := issued_items _ _ ran
  exact ⟨⟨fresh, rows, ⟨minted, itemRows, from_⟩, rfl, rfl, rfl⟩, rfl⟩

end Minting

section Gifts

-- Sealed boxes may change their owner; nothing else about a box changes.
def Passed (old new : BalanceBlindBoxItem) : Prop :=
  new = { old with ownerUserID := new.ownerUserID } ∧ (old.status ≠ .available → new = old)

theorem passed_refl (item : BalanceBlindBoxItem) : Passed item item := ⟨rfl, fun _ => rfl⟩

theorem Passed.status {old new : BalanceBlindBoxItem} (passed : Passed old new) : new.status = old.status := by
  rw [passed.1]

theorem Passed.trans {first second third : BalanceBlindBoxItem} (early : Passed first second) (late : Passed second third) :
    Passed first third := by
  refine ⟨?_, fun opened => ?_⟩
  · rw [late.1, early.1]
  · exact (late.2 (early.status ▸ opened)).trans (early.2 opened)

structure Given (store after : BoxStore) : Prop where
  items : List.Forall₂ Passed store.items.rows after.items.rows
  purchases : after.purchases = store.purchases
  records : after.records = store.records
  props : after.props = store.props
  wallet : after.wallet = store.wallet

theorem Given.refl (store : BoxStore) : Given store store := ⟨List.forall₂_same.mpr fun item _ => passed_refl item, rfl, rfl, rfl, rfl⟩

theorem Given.trans {store middle after : BoxStore} (early : Given store middle) (late : Given middle after) : Given store after :=
  ⟨pairs_trans (fun _ _ _ first second => first.trans second) early.items late.items, late.purchases.trans early.purchases, late.records.trans early.records,
    late.props.trans early.props, late.wallet.trans early.wallet⟩

variable {store after : BoxStore}

theorem item_keyed (first second : BalanceBlindBoxItem) (same : first.id = second.id) : Clash first second := same

theorem given_item (itemID senderUserID recipientUserID : Int) (ran : changeOwner itemID senderUserID recipientUserID store = (.ok (), after)) :
    Given store after := by
  simp only [changeOwner, Tx.ran_bind, Tx.ran_view] at ran
  obtain ⟨_, _, ⟨rfl, rfl⟩, continued⟩ := ran
  cases found : store.items.find? fun item => item.id = itemID ∧ item.ownerUserID = senderUserID ∧ item.status = .available with
  | none => simp only [found, Tx.ran_fail] at continued
  | some item =>
      simp only [found, Tx.ran_edit] at continued
      subst continued
      obtain ⟨member, hit⟩ := Table.mem_of_find? _ _ _ found
      simp only [decide_eq_true_eq] at hit
      refine ⟨?_, rfl, rfl, rfl, rfl⟩
      rw [Table.rows_update, List.forall₂_map_right_iff, List.forall₂_same]
      intro row rowIn
      by_cases same : row.id = itemID
      · -- The row with this id is the sealed box that was looked up.
        obtain rfl : row = item := Table.eq_of_clash _ _ _ rowIn member (item_keyed _ _ (same.trans hit.1.symm))
        rw [if_pos (decide_eq_true same)]
        exact ⟨rfl, fun opened => (opened hit.2.2).elim⟩
      · rw [if_neg (by simpa using same)]
        exact passed_refl row

theorem given_items (giftID senderUserID recipientUserID : Int) (items : List BalanceBlindBoxItem)
    (ran : transferBalanceBlindBoxItemsTx giftID senderUserID recipientUserID items store = (.ok (), after)) : Given store after := by
  induction items generalizing store with
  | nil =>
      rw [transferBalanceBlindBoxItemsTx, Tx.ran_pure] at ran
      exact ran.2 ▸ .refl store
  | cons item rest ih =>
      simp only [transferBalanceBlindBoxItemsTx, createGiftItem, Tx.ran_bind, Tx.ran_view, ran_add_row] at ran
      obtain ⟨_, _, ⟨_, _, ⟨rfl, rfl⟩, _, _, rfl⟩, _, middle, changed, others⟩ := ran
      have first := given_item _ _ _ changed
      have second := ih others
      exact { first.trans second with }

theorem read_only_find_recipient (externalID : String) : Tx.ReadOnly (findRecipient externalID) := by
  refine Tx.read_only_bind (Tx.read_only_view _) fun found => ?_
  cases found with
  | some profile => exact Tx.read_only_pure _
  | none => exact Tx.read_only_fail _

theorem read_only_lock_user (userID : Int) : Tx.ReadOnly (lockUser userID) := by
  refine Tx.read_only_bind (Tx.read_only_view _) fun found => ?_
  cases found with
  | some user => exact Tx.read_only_pure _
  | none => exact Tx.read_only_fail _

theorem read_only_lock_users (senderID recipientID : Int) : Tx.ReadOnly (lockTransferUsers senderID recipientID) :=
  Tx.read_only_bind (Tx.read_only_view _) fun _ => Tx.read_only_bind (Tx.read_only_reject _ _) fun _ => Tx.read_only_view _

theorem read_only_lock_items (senderUserID count : Int) : Tx.ReadOnly (lockBalanceBlindBoxGiftItems senderUserID count) :=
  Tx.read_only_bind (Tx.read_only_view _) fun _ => Tx.read_only_bind (Tx.read_only_reject _ _) fun _ => Tx.read_only_pure _

theorem read_only_cooling (items : List BalanceBlindBoxItem) (now : Int) : Tx.ReadOnly (ensureBalanceBlindBoxGiftCoolingPassed items now) :=
  Tx.read_only_bind (Tx.read_only_view _) fun _ => Tx.read_only_reject _ _

theorem given_new_gift (senderUserID : Int) (request : GiftBalanceBlindBoxRequest) (now : Int) (gift : BalanceBlindBoxGift)
    (ran : executeBalanceBlindBoxGiftTx senderUserID request now store = (.ok gift, after)) : Given store after := by
  simp only [executeBalanceBlindBoxGiftTx, createGift, Tx.ran_bind, Tx.ran_reject, Tx.ran_view, Tx.ran_pure, ran_add_row] at ran
  obtain ⟨recipient, _, looked, _, _, ⟨_, rfl⟩, names, _, locked, items, _, held, _, _, cooled, created, _, ⟨_, _, ⟨_, rfl⟩, _, _, ⟨_, _, rfl⟩, _, rfl⟩,
    _, _, moved, _, rfl⟩ := ran
  obtain rfl := (read_only_find_recipient _).same looked
  obtain rfl := (read_only_lock_users _ _).same locked
  obtain rfl := (read_only_lock_items _ _).same held
  obtain rfl := (read_only_cooling _ _).same cooled
  have given := given_items _ _ _ _ moved
  exact ⟨given.items, given.purchases, given.records, given.props, given.wallet⟩

theorem given_gift (senderUserID : Int) (request : GiftBalanceBlindBoxRequest) (now : Int) (gift : BalanceBlindBoxGift)
    (ran : giftBalanceBlindBoxes senderUserID request now store = (.ok gift, after)) : Given store after := by
  simp only [giftBalanceBlindBoxes, Tx.ran_bind, Tx.ran_reject, Tx.ran_atomic, giftBalanceBlindBoxesTx] at ran
  obtain ⟨_, _, ⟨_, rfl⟩, _, _, viewed, continued⟩ := ran
  obtain ⟨rfl, rfl⟩ := (Tx.ran_view _ _ _ _).mp viewed
  cases found : store.gifts.find? fun gift => gift.requestID = trimSpace request.requestID with
  | some known =>
      simp only [found, Tx.ran_bind, Tx.ran_reject, Tx.ran_pure] at continued
      obtain ⟨_, _, ⟨_, rfl⟩, _, rfl⟩ := continued
      exact .refl store
  | none =>
      simp only [found] at continued
      exact given_new_gift _ _ _ _ continued

end Gifts

section Openings

inductive Outcome where
  | extraDraw
  | card
  | credit
deriving DecidableEq, Repr

def SealedReward.outcome (reward : SealedReward) : Outcome :=
  if reward.rewardType = some .prop ∧ reward.rewardTitle = extraDrawTitle then .extraDraw
  else if reward.rewardType = some .prop then .card
  else .credit

-- The record shows the reward of the box.
structure Describes (record : BlindBoxOpenRecord) (reward : SealedReward) : Prop where
  rewardType : record.rewardType = reward.rewardType
  rewardTier : record.rewardTier = reward.rewardTier
  rewardUSD : record.rewardUSD = reward.rewardUSD
  creditAmount : record.creditAmount = reward.creditAmount
  rewardTitle : record.rewardTitle = reward.rewardTitle

def openedItem (item : BalanceBlindBoxItem) (reward : SealedReward) (openRecordID now : Int) : BalanceBlindBoxItem :=
  { item with reward, status := .opened, openRecordID, openedAt := now }

variable {store after : BoxStore}

-- What a box yields besides its record.
inductive Yield (store : BoxStore) (userID : Int) (item : BalanceBlindBoxItem) (reward : SealedReward) (openRecordID : Int) (after : BoxStore) : Prop where
  | extraDraw (outcome : reward.outcome = .extraDraw) (bonus : BalanceBlindBoxItem) (source : bonus.purchaseID = item.purchaseID)
      (isSealed : bonus.status = .available) (items : after.items.rows = store.items.rows ++ [bonus]) (props : after.props = store.props)
      (wallet : after.wallet = store.wallet)
  | card (outcome : reward.outcome = .card) (prop : BlindBoxProp) (source : prop.openRecordID = openRecordID) (owner : prop.userID = userID)
      (items : after.items = store.items) (props : after.props.rows = store.props.rows ++ [prop]) (wallet : after.wallet = store.wallet)
  | credit (outcome : reward.outcome = .credit) (items : after.items = store.items) (props : after.props = store.props)
      (wallet : WalletRewarded store.wallet.ledger userID reward.creditAmount openRecordID
        (normalizeBlindBoxRewardWalletType reward.rewardWalletType) after.wallet.ledger)

structure Paid (store : BoxStore) (userID : Int) (item : BalanceBlindBoxItem) (reward : SealedReward) (created record : BlindBoxOpenRecord)
    (after : BoxStore) : Prop where
  yields : Yield store userID item reward created.id after
  columns : record.columns = created.columns
  plain : record.propType = none → record = created
  purchases : after.purchases = store.purchases
  records : after.records = store.records

theorem paid_reward (env : WalletEnv) (userID : Int) (item : BalanceBlindBoxItem) (reward : SealedReward) (created record : BlindBoxOpenRecord)
    (ran : payRewardTx env userID item reward created store = (.ok record, after)) : Paid store userID item reward created record after := by
  unfold payRewardTx at ran
  by_cases extra : reward.rewardType = some .prop ∧ reward.rewardTitle = extraDrawTitle
  · rw [if_pos extra, Tx.ran_bind] at ran
    obtain ⟨_, middle, bonus, answered⟩ := ran
    obtain ⟨rfl, rfl⟩ := (Tx.ran_pure _ _ _ _).mp answered
    obtain ⟨items, rows, rfl⟩ := ran_create_item _ bonus
    refine ⟨.extraDraw ?_ { newUnrevealedBalanceBlindBoxItem item.purchaseID userID userID with id := nextID store.items } rfl rfl rows rfl rfl,
      rfl, fun plain => absurd plain (by simp), rfl, rfl⟩
    rw [SealedReward.outcome, if_pos extra]
  · rw [if_neg extra] at ran
    by_cases prop : reward.rewardType = some .prop
    · rw [if_pos prop, Tx.ran_bind] at ran
      obtain ⟨card, middle, made, answered⟩ := ran
      obtain ⟨rfl, rfl⟩ := (Tx.ran_pure _ _ _ _).mp answered
      unfold createBlindBoxPropTx at made
      cases known : getBlindBoxPropSpecByTitle reward.rewardTitle with
      | none => simp only [known, Tx.ran_fail] at made
      | some spec =>
          simp only [known] at made
          obtain ⟨props, rfl, rows, rfl⟩ := ran_create_prop _ _ made
          exact ⟨.card (by rw [SealedReward.outcome, if_neg extra, if_pos prop]) _ rfl rfl rfl rows rfl, rfl, fun plain => absurd plain (by simp), rfl, rfl⟩
    · simp only [if_neg prop, Tx.ran_bind, Tx.ran_reject, applyBlindBoxWalletRewardTx, ran_on_wallet, Tx.ran_pure] at ran
      obtain ⟨_, _, ⟨_, rfl⟩, _, _, ⟨_, _, ⟨_, rfl⟩, wallet, credited, rfl⟩, rfl, rfl⟩ := ran
      have rewarded := wallet_rewarded env userID _ _ _ _ _ _ credited
      exact ⟨.credit (by rw [SealedReward.outcome, if_neg extra, if_neg prop]) rfl rfl rewarded, rfl, fun _ => rfl, rfl, rfl⟩

-- One box opened: its record, what it yields, and the box closed for good.
structure Opened (store : BoxStore) (userID : Int) (requestID : String) (item : BalanceBlindBoxItem) (record : BlindBoxOpenRecord)
    (after : BoxStore) : Prop where
  named : record.userID = userID ∧ record.requestID = requestID ∧ record.poolType = .unified
  plain : record.propType = none → record.columns = record
  fresh : Table.Fresh store.records record.columns
  records : after.records.rows = store.records.rows ++ [record.columns]
  purchases : after.purchases = store.purchases
  known : item ∈ store.items.rows
  isSealed : item.status = .available ∧ item.ownerUserID = userID
  yields : ∃ reward now middle, Yield store userID item reward record.id middle ∧ middle.props = after.props ∧ middle.wallet = after.wallet ∧
    Table.Replaced middle.items after.items item (openedItem item reward record.id now) ∧ Describes record reward

theorem opened_item (env : WalletEnv) (setting : Setting) (userID : Int) (requestID : String) (item : BalanceBlindBoxItem)
    (pity : BalanceBlindBoxPityState) (first : Bool) (rolls : Rolls) (now : Int) (answer : BlindBoxOpenRecord × BalanceBlindBoxPityState)
    (member : item ∈ store.items.rows)
    (ran : openSealedBalanceBlindBoxItemTx env setting userID requestID item pity first rolls now store = (.ok answer, after)) :
    Opened store userID requestID item answer.1 after := by
  simp only [openSealedBalanceBlindBoxItemTx, markOpened, Tx.ran_bind, Tx.ran_view, Tx.ran_pure] at ran
  obtain ⟨created, _, made, record, middle, rewarded, _, _, ⟨_, _, ⟨rfl, rfl⟩, marked⟩, rfl, rfl⟩ := ran
  obtain ⟨records, rewardWalletType, shape, fresh, rows, rfl⟩ := ran_create_record _ _ made
  have paid := paid_reward env userID item _ created record rewarded
  have sameID : record.columns.id = created.columns.id := congrArg BlindBoxOpenRecord.id paid.columns
  -- The box is still where it was read: paying its reward only adds rows.
  have still : item ∈ middle.items.rows := by
    cases paid.yields with
    | extraDraw _ _ _ _ items _ _ =>
        rw [items]
        exact List.mem_append_left _ member
    | card _ _ _ _ items _ _ => exact items ▸ member
    | credit _ items _ _ => exact items ▸ member
  cases found : middle.items.find? fun row => row.id = item.id ∧ row.ownerUserID = userID ∧ row.status = .available with
  | none => simp only [found, Tx.ran_fail] at marked
  | some row =>
      simp only [found, Tx.ran_edit] at marked
      obtain ⟨rowIn, hit⟩ := Table.mem_of_find? _ _ _ found
      simp only [decide_eq_true_eq] at hit
      obtain rfl : row = item := Table.eq_of_clash _ _ _ rowIn still (item_keyed _ _ hit.1)
      subst marked
      refine ⟨?_, ?_, ?_, ?_, paid.purchases, member, ⟨hit.2.2, hit.2.1⟩, revealedReward setting row pity first rolls, now, middle, ?_, rfl, rfl, ?_, ?_⟩
      · have names := congrArg (fun columns => (columns.userID, columns.requestID, columns.poolType)) paid.columns
        simp only [BlindBoxOpenRecord.columns, shape, drawnRecord, Prod.mk.injEq] at names
        exact names
      · intro noProp
        rw [paid.plain noProp, shape]
        rfl
      · rw [paid.columns]
        exact fresh
      · rw [paid.columns, ← rows]
        exact congrArg Table.rows paid.records
      · have renamed : record.id = created.id := sameID
        rw [renamed]
        cases paid.yields with
        | extraDraw outcome bonus source isSealed items props wallet => exact .extraDraw outcome bonus source isSealed items props wallet
        | card outcome prop source owner items props wallet => exact .card outcome prop source owner items props wallet
        | credit outcome items props wallet => exact .credit outcome items props wallet
      · have single : ∀ other : BalanceBlindBoxItem, decide (other.id = row.id) = true → Clash row other := fun other same =>
          item_keyed _ _ (of_decide_eq_true same).symm
        have hit : decide (row.id = row.id) = true := decide_eq_true rfl
        exact Table.replaced_update middle.items (fun other => decide (other.id = row.id)) (fun other => openedItem other _ record.id now)
          (fun _ => rfl) row still hit single
      · have facts := congrArg (fun columns => (columns.rewardType, columns.rewardTier, columns.rewardUSD, columns.creditAmount, columns.rewardTitle))
          paid.columns
        simp only [BlindBoxOpenRecord.columns, shape, drawnRecord, Prod.mk.injEq] at facts
        exact ⟨facts.1, facts.2.1, facts.2.2.1, facts.2.2.2.1, facts.2.2.2.2⟩

-- The boxes of one request, in the order they are opened.
inductive OpenedAll (userID : Int) (requestID : String) : Nat → BoxStore → List BalanceBlindBoxItem → List BlindBoxOpenRecord → BoxStore → Prop where
  | nil (index : Nat) (store : BoxStore) : OpenedAll userID requestID index store [] [] store
  | cons {index : Nat} {store middle after : BoxStore} {item : BalanceBlindBoxItem} {items : List BalanceBlindBoxItem}
      {record : BlindBoxOpenRecord} {records : List BlindBoxOpenRecord} (first : Opened store userID (drawRequestID requestID index) item record middle)
      (rest : OpenedAll userID requestID (index + 1) middle items records after) :
      OpenedAll userID requestID index store (item :: items) (record :: records) after

theorem Opened.others {userID : Int} {requestID : String} {item other : BalanceBlindBoxItem} {record : BlindBoxOpenRecord}
    (opened : Opened store userID requestID item record after) (member : other ∈ store.items.rows) (different : other ≠ item) :
    other ∈ after.items.rows := by
  obtain ⟨reward, now, middle, yields, _, _, replaced, _⟩ := opened.yields
  have still : other ∈ middle.items.rows := by
    cases yields with
    | extraDraw _ _ _ _ items _ _ =>
        rw [items]
        exact List.mem_append_left _ member
    | card _ _ _ _ items _ _ => exact items ▸ member
    | credit _ items _ _ => exact items ▸ member
  exact (replaced.kept other still).resolve_left different

theorem opened_all (env : WalletEnv) (setting : Setting) (userID : Int) (requestID : String) (opened : Nat) (rolls : Nat → Rolls) (now : Int)
    (index : Nat) (pity : BalanceBlindBoxPityState) (items : List BalanceBlindBoxItem)
    (answer : List BlindBoxOpenRecord × BalanceBlindBoxPityState) (members : ∀ item ∈ items, item ∈ store.items.rows) (distinct : items.Nodup)
    (ran : openItemsTx env setting userID requestID opened rolls now index pity items store = (.ok answer, after)) :
    OpenedAll userID requestID index store items answer.1 after := by
  induction items generalizing store index pity answer with
  | nil =>
      rw [openItemsTx, Tx.ran_pure] at ran
      obtain ⟨rfl, rfl⟩ := ran
      exact .nil index store
  | cons item rest ih =>
      simp only [openItemsTx, Tx.ran_bind, Tx.ran_pure] at ran
      obtain ⟨first, middle, one, others, _, more, rfl, rfl⟩ := ran
      rw [List.nodup_cons] at distinct
      have here := opened_item env setting userID _ item _ _ _ _ _ (members item (by simp)) one
      refine .cons here (ih (index + 1) _ _ (fun other otherIn => ?_) distinct.2 more)
      exact here.others (members other (by simp [otherIn])) fun same => distinct.1 (same ▸ otherIn)

end Openings

end CodeGo.BlindBox
