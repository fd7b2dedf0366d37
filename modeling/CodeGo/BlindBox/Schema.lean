import CodeGo.Checkout.Schema

set_option autoImplicit false

namespace CodeGo.BlindBox

open Relational Text Billing
open Checkout (PropType PropStatus nextID roundHalfAway)

/- The blind-box tables: inventory, opened boxes and the cards that come out of them.
   Money is an exact rational, rounded where the source rounds. The users table is split:
   the wallet holds the quota columns and `profiles` what a transfer reads. Audit logs
   and reward holds are read by nothing here, and a date stands for its text. -/

inductive RewardType where
  | quota
  | claudeQuota
  | prop
  | subscription
deriving DecidableEq, Repr

inductive PoolType where
  | standard
  | balance15
  | unified
deriving DecidableEq, Repr

inductive ItemStatus where
  | available
  | opened
  | revoked
deriving DecidableEq, Repr

inductive GuaranteeType where
  | none
  | first
  | small
  | big
deriving DecidableEq, Repr

inductive BlindBoxRewardWalletType where
  | default
  | claude
deriving DecidableEq, Repr

def BlindBoxRewardWalletType.text : BlindBoxRewardWalletType → String
  | .default => "default"
  | .claude => "claude"

structure Profile where
  userID : Int
  externalID : String
  enabled : Bool
deriving DecidableEq, Repr

structure BalanceBlindBoxPurchase where
  id : Int := 0
  userID : Int
  requestID : String
  quantity : Int
  unitPriceUSD : Rat
  totalQuota : Int
  purchaseDate : Int
deriving DecidableEq, Repr

-- The columns that stay sealed until the box is opened.
structure SealedReward where
  poolVersion : String
  rewardType : Option RewardType := none
  rewardTier : String := ""
  rewardUSD : Rat := 0
  creditAmount : Int := 0
  rewardTitle : String := ""
  rewardWalletType : String := ""
  isPity : Bool := false
  guaranteeType : GuaranteeType := .none
deriving DecidableEq, Repr

structure BalanceBlindBoxItem where
  id : Int := 0
  purchaseID : Int
  purchaseUserID : Int
  ownerUserID : Int
  reward : SealedReward
  status : ItemStatus := .available
  openRecordID : Int := 0
  openedAt : Int := 0
deriving DecidableEq, Repr

-- The prop fields belong to the answer and not to the table.
structure BlindBoxOpenRecord where
  id : Int := 0
  userID : Int
  requestID : String
  poolType : PoolType
  rewardType : Option RewardType
  rewardTier : String
  rewardUSD : Rat
  creditAmount : Int
  rewardTitle : String
  rewardWalletType : String
  isPity : Bool
  createTime : Int
  propID : Int := 0
  propType : Option PropType := none
  propStatus : Option PropStatus := none
  propExpiresAt : Int := 0
deriving DecidableEq, Repr

def BlindBoxOpenRecord.columns (record : BlindBoxOpenRecord) : BlindBoxOpenRecord :=
  { record with propID := 0, propType := none, propStatus := none, propExpiresAt := 0 }

structure BalanceBlindBoxPityState where
  id : Int := 0
  userID : Int
  consecutiveUnder6USD : Int := 0
  consecutiveUnder35USD : Int := 0
deriving DecidableEq, Repr

structure BalanceBlindBoxGift where
  id : Int := 0
  requestID : String
  senderUserID : Int
  recipientUserID : Int
  senderExternalID : String
  recipientExternalID : String
  quantity : Int
deriving DecidableEq, Repr

structure BalanceBlindBoxGiftItem where
  id : Int := 0
  giftID : Int
  itemID : Int
  fromUserID : Int
  toUserID : Int
deriving DecidableEq, Repr

structure BlindBoxProp where
  id : Int := 0
  userID : Int
  openRecordID : Int := 0
  propType : PropType
  title : String
  status : PropStatus := .available
  discountRate : Rat := 0
  multiplier : Rat
  durationSeconds : Int := 0
  remainingSeconds : Int := 0
  maxDiscountQuota : Int := 0
  activatedAt : Int := 0
  expiresAt : Int := 0
  usedAt : Int := 0
  benefitReference : String := ""
deriving DecidableEq, Repr

structure BlindBoxPropGift where
  id : Int := 0
  requestID : String
  propID : Int
  senderUserID : Int
  recipientUserID : Int
  senderExternalID : String
  recipientExternalID : String
  propType : PropType
  propTitle : String
deriving DecidableEq, Repr

instance : Indexed BalanceBlindBoxPurchase where
  Index := Int × String
  index purchase := (purchase.id, purchase.requestID)
  clash first second := first.1 = second.1 ∨ first.2 = second.2
  clash_symm := either_symm
  clashDecidable _ _ := inferInstanceAs (Decidable (_ ∨ _))

instance : Indexed BalanceBlindBoxItem where
  Index := Int
  index item := item.id
  clash first second := first = second
  clash_symm _ _ clash := clash.symm
  clashDecidable _ _ := inferInstanceAs (Decidable (_ = _))

instance : Indexed BlindBoxOpenRecord where
  Index := Int × String
  index record := (record.id, record.requestID)
  clash first second := first.1 = second.1 ∨ first.2 = second.2
  clash_symm := either_symm
  clashDecidable _ _ := inferInstanceAs (Decidable (_ ∨ _))

instance : Indexed BalanceBlindBoxPityState where
  Index := Int × Int
  index pity := (pity.id, pity.userID)
  clash first second := first.1 = second.1 ∨ first.2 = second.2
  clash_symm := either_symm
  clashDecidable _ _ := inferInstanceAs (Decidable (_ ∨ _))

instance : Indexed BalanceBlindBoxGift where
  Index := Int × String
  index gift := (gift.id, gift.requestID)
  clash first second := first.1 = second.1 ∨ first.2 = second.2
  clash_symm := either_symm
  clashDecidable _ _ := inferInstanceAs (Decidable (_ ∨ _))

instance : Indexed BalanceBlindBoxGiftItem where
  Index := Int × Int × Int
  index link := (link.id, link.giftID, link.itemID)
  clash first second := first.1 = second.1 ∨ first.2 = second.2
  clash_symm := either_symm
  clashDecidable _ _ := inferInstanceAs (Decidable (_ ∨ _))

instance : Indexed BlindBoxProp where
  Index := Int
  index prop := prop.id
  clash first second := first = second
  clash_symm _ _ clash := clash.symm
  clashDecidable _ _ := inferInstanceAs (Decidable (_ = _))

instance : Indexed BlindBoxPropGift where
  Index := Int × String
  index gift := (gift.id, gift.requestID)
  clash first second := first.1 = second.1 ∨ first.2 = second.2
  clash_symm := either_symm
  clashDecidable _ _ := inferInstanceAs (Decidable (_ ∨ _))

structure BoxStore where
  wallet : Wallet
  profiles : List Profile
  purchases : Table BalanceBlindBoxPurchase
  items : Table BalanceBlindBoxItem
  records : Table BlindBoxOpenRecord
  props : Table BlindBoxProp
  pity : Table BalanceBlindBoxPityState
  gifts : Table BalanceBlindBoxGift
  giftItems : Table BalanceBlindBoxGiftItem
  propGifts : Table BlindBoxPropGift

inductive BoxError where
  | recordNotFound
  | uniqueViolation
  | blindBoxDisabled
  | giftCooling
  | recipientNotFound
  | transferSelf
  | ledger (problem : LedgerError)
  | message (text : String)
deriving DecidableEq, Repr

abbrev BoxTx (α : Type) : Type := Tx BoxStore BoxError α

def onWallet {α : Type} (report : LedgerError → BoxError) (work : WalletTx α) : BoxTx α :=
  (work.withError report).zoom BoxStore.wallet fun store wallet => { store with wallet }

def addRow {α : Type} [Indexed α] (get : BoxStore → Table α) (set : BoxStore → Table α → BoxStore) (row : α) : BoxTx Unit := do
  match ← Tx.view fun store => (get store).insert? row with
  | none => Tx.fail .uniqueViolation
  | some table => Tx.edit fun store => set store table

def createPurchase (purchase : BalanceBlindBoxPurchase) : BoxTx BalanceBlindBoxPurchase := do
  let id ← Tx.view fun store => nextID store.purchases
  addRow BoxStore.purchases (fun store purchases => { store with purchases }) { purchase with id }
  return { purchase with id }

def createItem (item : BalanceBlindBoxItem) : BoxTx Unit := do
  let id ← Tx.view fun store => nextID store.items
  addRow BoxStore.items (fun store items => { store with items }) { item with id }

-- The wallet column has a default that a blank value is replaced with.
def createRecord (record : BlindBoxOpenRecord) : BoxTx BlindBoxOpenRecord := do
  let id ← Tx.view fun store => nextID store.records
  let rewardWalletType := if record.rewardWalletType = "" then "claude" else record.rewardWalletType
  let created := { record with id, rewardWalletType }
  addRow BoxStore.records (fun store records => { store with records }) created.columns
  return created

def createProp (prop : BlindBoxProp) : BoxTx BlindBoxProp := do
  let id ← Tx.view fun store => nextID store.props
  addRow BoxStore.props (fun store props => { store with props }) { prop with id }
  return { prop with id }

def createGift (gift : BalanceBlindBoxGift) : BoxTx BalanceBlindBoxGift := do
  let id ← Tx.view fun store => nextID store.gifts
  addRow BoxStore.gifts (fun store gifts => { store with gifts }) { gift with id }
  return { gift with id }

def createGiftItem (link : BalanceBlindBoxGiftItem) : BoxTx Unit := do
  let id ← Tx.view fun store => nextID store.giftItems
  addRow BoxStore.giftItems (fun store giftItems => { store with giftItems }) { link with id }

-- A locking read of a user row that only asks whether the row is there.
def lockUser (userID : Int) : BoxTx Unit := do
  match ← Tx.view fun store => store.wallet.users.find? fun user => user.id = userID with
  | some _ => return ()
  | none => Tx.fail .recordNotFound

def findRecipient (externalID : String) : BoxTx Profile := do
  match ← Tx.view fun store => store.profiles.find? fun profile => profile.externalID = externalID ∧ profile.enabled with
  | some profile => return profile
  | none => Tx.fail .recipientNotFound

def externalIDOf (userID : Int) (store : BoxStore) : String :=
  ((store.profiles.find? fun profile => profile.userID = userID).map Profile.externalID).getD ""

-- Both users exist: the external ids of the sender and of the recipient.
def lockTransferUsers (senderID recipientID : Int) : BoxTx (String × String) := do
  let rows ← Tx.view fun store => store.wallet.users.rows.filter fun user => user.id = senderID ∨ user.id = recipientID
  Tx.reject (rows.length ≠ 2) .recipientNotFound
  Tx.view fun store => (externalIDOf senderID store, externalIDOf recipientID store)

structure BlindBoxPropSpec where
  propType : PropType
  title : String
  discountRate : Rat := 0
  multiplier : Rat
  durationSeconds : Int := 0
  maxDiscountQuota : Int := 0
  activatable : Bool := false
deriving DecidableEq, Repr

def blindBoxPropSpecs : List BlindBoxPropSpec :=
  [{ propType := .topupDiscount90, title := "九折充值卡", discountRate := 1 / 10, multiplier := 1 },
   { propType := .subscriptionDiscount90, title := "套餐九折卡", discountRate := 1 / 10, multiplier := 1 },
   { propType := .consumeDiscount95, title := "0.95 倍率卡", discountRate := 5 / 100, multiplier := 95 / 100, durationSeconds := 24 * 60 * 60,
     activatable := true },
   { propType := .consumeDiscount90, title := "0.9 倍率卡", discountRate := 10 / 100, multiplier := 90 / 100, durationSeconds := 24 * 60 * 60,
     activatable := true },
   { propType := .consumeDiscount10, title := "15 分钟 0.1 倍率卡", discountRate := 90 / 100, multiplier := 10 / 100, durationSeconds := 15 * 60,
     activatable := true },
   { propType := .zeroHourMultiplier, title := "1 小时 0 倍率卡", multiplier := 0, durationSeconds := 60 * 60, activatable := true },
   { propType := .monthlyPassMultiplier, title := "套餐 0.1 倍率卡", multiplier := 1 / 10, durationSeconds := 15 * 60, activatable := true }]

def getBlindBoxPropSpecByType (propType : PropType) : Option BlindBoxPropSpec := blindBoxPropSpecs.find? fun spec => spec.propType = propType

def getBlindBoxPropSpecByTitle (title : String) : Option BlindBoxPropSpec :=
  let trimmedTitle := trimSpace title
  if trimmedTitle = "0.10 倍率体验卡" ∨ trimmedTitle = "0.1 倍率卡" then getBlindBoxPropSpecByType .consumeDiscount10
  else if trimmedTitle = "15 分钟 0.1 倍率卡" ∨ trimmedTitle = "充值九折卡" then getBlindBoxPropSpecByType .topupDiscount90
  else blindBoxPropSpecs.find? fun spec => spec.title = trimmedTitle

section Created

variable {store after : BoxStore}

theorem ran_add_row {α : Type} [Indexed α] (get : BoxStore → Table α) (set : BoxStore → Table α → BoxStore) (row : α) (result : Unit) :
    addRow get set row store = (.ok result, after) ↔ ∃ table, (get store).insert? row = some table ∧ set store table = after := by
  rw [addRow, Tx.ran_bind]
  constructor
  · rintro ⟨inserted, middle, viewed, continued⟩
    obtain ⟨rfl, rfl⟩ := (Tx.ran_view _ _ _ _).mp viewed
    cases accepted : (get store).insert? row with
    | none => simp [accepted] at continued
    | some table =>
        rw [accepted] at continued
        exact ⟨table, rfl, (Tx.ran_edit _ _ _ _).mp continued⟩
  · rintro ⟨table, accepted, rfl⟩
    refine ⟨_, store, (Tx.ran_view _ _ _ _).mpr ⟨rfl, rfl⟩, ?_⟩
    rw [accepted]
    exact (Tx.ran_edit _ _ _ _).mpr rfl

theorem ran_on_wallet {α : Type} (report : LedgerError → BoxError) (work : WalletTx α) (result : α) :
    onWallet report work store = (.ok result, after) ↔ ∃ wallet, work store.wallet = (.ok result, wallet) ∧ { store with wallet } = after := by
  rw [onWallet, Tx.ran_zoom]
  simp only [Tx.ran_with_error]

theorem ran_create_purchase (purchase created : BalanceBlindBoxPurchase) (ran : createPurchase purchase store = (.ok created, after)) :
    ∃ purchases, created = { purchase with id := nextID store.purchases } ∧ Table.Fresh store.purchases created ∧
      purchases.rows = store.purchases.rows ++ [created] ∧ after = { store with purchases } := by
  simp only [createPurchase, Tx.ran_bind, Tx.ran_view, ran_add_row, Tx.ran_pure] at ran
  obtain ⟨_, _, ⟨rfl, rfl⟩, _, _, ⟨purchases, inserted, rfl⟩, rfl, rfl⟩ := ran
  obtain ⟨fresh, appended⟩ := (Table.insert?_eq_some_iff _ _ _).mp inserted
  exact ⟨purchases, rfl, fresh, appended, rfl⟩

theorem ran_create_item (item : BalanceBlindBoxItem) (ran : createItem item store = (.ok (), after)) :
    ∃ items, items.rows = store.items.rows ++ [{ item with id := nextID store.items }] ∧ after = { store with items } := by
  simp only [createItem, Tx.ran_bind, Tx.ran_view, ran_add_row] at ran
  obtain ⟨_, _, ⟨rfl, rfl⟩, items, inserted, rfl⟩ := ran
  exact ⟨items, ((Table.insert?_eq_some_iff _ _ _).mp inserted).2, rfl⟩

theorem ran_create_record (record created : BlindBoxOpenRecord) (ran : createRecord record store = (.ok created, after)) :
    ∃ records rewardWalletType, created = { record with id := nextID store.records, rewardWalletType } ∧
      Table.Fresh store.records created.columns ∧ records.rows = store.records.rows ++ [created.columns] ∧ after = { store with records } := by
  simp only [createRecord, Tx.ran_bind, Tx.ran_view, ran_add_row, Tx.ran_pure] at ran
  obtain ⟨_, _, ⟨rfl, rfl⟩, _, _, ⟨records, inserted, rfl⟩, rfl, rfl⟩ := ran
  obtain ⟨fresh, appended⟩ := (Table.insert?_eq_some_iff _ _ _).mp inserted
  exact ⟨records, _, rfl, fresh, appended, rfl⟩

theorem ran_create_prop (prop created : BlindBoxProp) (ran : createProp prop store = (.ok created, after)) :
    ∃ props, created = { prop with id := nextID store.props } ∧ props.rows = store.props.rows ++ [created] ∧ after = { store with props } := by
  simp only [createProp, Tx.ran_bind, Tx.ran_view, ran_add_row, Tx.ran_pure] at ran
  obtain ⟨_, _, ⟨rfl, rfl⟩, _, _, ⟨props, inserted, rfl⟩, rfl, rfl⟩ := ran
  exact ⟨props, rfl, ((Table.insert?_eq_some_iff _ _ _).mp inserted).2, rfl⟩

end Created

end CodeGo.BlindBox
