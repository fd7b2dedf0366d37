import CodeGo.BlindBox.Books
import CodeGo.Lib.Trace
import Mathlib.Data.List.Perm.Subperm

set_option autoImplicit false

namespace CodeGo.BlindBox

open Relational Text Billing

/- Any run of purchases, paid orders, gifts and openings. Beside the store stands the list
   of the open requests that were answered with records. -/

inductive Move where
  | purchase (userID : Int) (requestID : String) (count pendingPaid now : Int)
  | issuePaid (order : BlindBoxOrder) (now : Int)
  | gift (senderUserID : Int) (request : GiftBalanceBlindBoxRequest) (now : Int)
  | openBoxes (userID : Int) (requestID : String) (count : Int) (rolls : Nat → Rolls) (now : Int)

structure Answered where
  userID : Int
  requestID : String
  count : Int
  records : List BlindBoxOpenRecord
deriving DecidableEq, Repr

structure System where
  store : BoxStore
  answered : List Answered

def step (env : WalletEnv) (setting : Setting) (system : System) : Move → System
  | .purchase userID requestID count pendingPaid now =>
      { system with store := (purchaseBalanceBlindBoxes env setting userID requestID count pendingPaid now system.store).2 }
  | .issuePaid order now => { system with store := (Tx.atomic (issuePaidBlindBoxOrderInventoryTx env setting order now) system.store).2 }
  | .gift senderUserID request now => { system with store := (giftBalanceBlindBoxes senderUserID request now system.store).2 }
  | .openBoxes userID requestID count rolls now =>
      match openBalanceBlindBox env setting userID requestID count rolls now system.store with
      | (.ok records, store) => { store, answered := system.answered ++ [⟨userID, trimSpace requestID, count, records⟩] }
      | (.error _, store) => { system with store }

def System.first (system : System) (userID : Int) (requestID : String) (count : Int) : Option Answered :=
  system.answered.find? fun answer => answer.userID = userID ∧ answer.requestID = trimSpace requestID ∧ answer.count = count

def System.Unused (system : System) (userID : Int) (requestID : String) : Prop :=
  ∀ answer ∈ system.answered, ¬ (answer.userID = userID ∧ answer.requestID = trimSpace requestID)

instance (system : System) (userID : Int) (requestID : String) : Decidable (system.Unused userID requestID) := List.decidableBAll _ _

def openedBy (userID : Int) (items : Table BalanceBlindBoxItem) : Int :=
  items.total fun item => if item.ownerUserID = userID ∧ item.status = .opened then 1 else 0

structure OpensBoxes (store : BoxStore) (userID count : Int) (records : List BlindBoxOpenRecord) (after : BoxStore) : Prop where
  size : (records.length : Int) = count
  fresh : ∀ record ∈ records, ∀ earlier ∈ store.records.rows, earlier.id ≠ record.id
  records : after.records.rows = store.records.rows ++ records.map BlindBoxOpenRecord.columns
  opened : openedBy userID after.items = openedBy userID store.items + count

-- A repeated open answers as the first one did; an open under a new id opens boxes or does nothing.
structure OpenLaw (env : WalletEnv) (setting : Setting) (system : System) (userID : Int) (requestID : String) (count : Int) (rolls : Nat → Rolls)
    (now : Int) : Prop where
  repeated : ∀ first, system.first userID requestID count = some first →
    openBalanceBlindBox env setting userID requestID count rolls now system.store = (.ok first.records, system.store)
  unused : system.Unused userID requestID →
    (∃ records after, openBalanceBlindBox env setting userID requestID count rolls now system.store = (.ok records, after) ∧
      OpensBoxes system.store userID count records after) ∨
    ∃ problem, openBalanceBlindBox env setting userID requestID count rolls now system.store = (.error problem, system.store)

def Lawful (env : WalletEnv) (setting : Setting) (system : System) : Move → Prop
  | .purchase userID requestID count pendingPaid now => (∃ purchase ∈ system.store.purchases.rows, purchase.requestID = trimSpace requestID) →
      (step env setting system (.purchase userID requestID count pendingPaid now)).store = system.store
  | .issuePaid order now =>
      (∃ purchase ∈ system.store.purchases.rows, purchase.requestID = paidBlindBoxInventoryRequestID env order.tradeNo) →
        (step env setting system (.issuePaid order now)).store = system.store
  | .gift _ _ _ => True
  | .openBoxes userID requestID count rolls now => OpenLaw env setting system userID requestID count rolls now

-- Every id that the request derives stands on a record of the user.
def Covered (store : BoxStore) (userID : Int) (requestID : String) (count : Int) : Prop :=
  ∀ id ∈ drawRequestIDs requestID count, ∃ record ∈ store.records.rows, record.userID = userID ∧ record.requestID = id

instance (store : BoxStore) (userID : Int) (requestID : String) (count : Int) : Decidable (Covered store userID requestID count) :=
  List.decidableBAll _ _

def Faithful (system : System) : Move → Prop
  | .openBoxes userID requestID count _ _ =>
      (∀ first ∈ system.first userID requestID count, ∀ record ∈ first.records, record.propType = none) ∧
        (¬ InvalidOpen userID (trimSpace requestID) count → system.Unused userID requestID →
          ¬ Covered system.store userID (trimSpace requestID) count)
  | _ => True

instance (system : System) (move : Move) : Decidable (Faithful system move) := by
  cases move <;> unfold Faithful <;> infer_instance

section Opening

variable {store after : BoxStore} {userID : Int} {requestID : String}

theorem Opened.counted {item : BalanceBlindBoxItem} {record : BlindBoxOpenRecord} (opened : Opened store userID requestID item record after) :
    openedBy userID after.items = openedBy userID store.items + 1 := by
  obtain ⟨reward, now, middle, yields, _, _, replaced, _⟩ := opened.yields
  have same : openedBy userID middle.items = openedBy userID store.items := by
    cases yields with
    | extraDraw _ bonus _ isSealed items _ _ =>
        rw [openedBy, Table.total_append _ _ _ _ items, List.map_singleton, List.sum_singleton, if_neg (by simp [isSealed]), add_zero]
        rfl
    | card _ _ _ _ items _ _ => rw [items]
    | credit _ items _ _ => rw [items]
  rw [openedBy, replaced.total]
  simp only [opened.isSealed, openedItem, reduceCtorEq, and_false, and_self, if_false, if_true, sub_zero]
  exact congrArg (fun total => total + 1) same

namespace OpenedAll

variable {index : Nat} {items : List BalanceBlindBoxItem} {records : List BlindBoxOpenRecord}

theorem size (all : OpenedAll userID requestID index store items records after) : records.length = items.length := by
  induction all with
  | nil => rfl
  | cons _ _ ih => rw [List.length_cons, List.length_cons, ih]

theorem stored (all : OpenedAll userID requestID index store items records after) :
    after.records.rows = store.records.rows ++ records.map BlindBoxOpenRecord.columns := by
  induction all with
  | nil => simp
  | cons first _ ih => rw [ih, first.records, List.append_assoc, List.map_cons, List.singleton_append]

theorem books (all : OpenedAll userID requestID index store items records after) (begins : Books store) : Books after := by
  induction all with
  | nil => exact begins
  | cons first _ ih =>
      obtain ⟨closed, turned⟩ := first.turned
      exact ih (turned.books begins)

theorem counted (all : OpenedAll userID requestID index store items records after) :
    openedBy userID after.items = openedBy userID store.items + items.length := by
  induction all with
  | nil => simp
  | cons first _ ih =>
      rw [ih, first.counted, List.length_cons]
      push_cast
      omega

theorem plain (all : OpenedAll userID requestID index store items records after) (record : BlindBoxOpenRecord) (member : record ∈ records)
    (noProp : record.propType = none) : record.columns = record := by
  induction all with
  | nil => cases member
  | cons first _ ih =>
      rw [List.mem_cons] at member
      rcases member with rfl | later
      · exact first.plain noProp
      · exact ih later

theorem named (all : OpenedAll userID requestID index store items records after) (record : BlindBoxOpenRecord) (member : record ∈ records) :
    record.userID = userID ∧ record.poolType = .unified ∧
      ∃ place, place < index + records.length ∧ record.requestID = drawRequestID requestID place := by
  induction all with
  | nil => cases member
  | cons first rest ih =>
      rename_i index _ _ _ _ _ _ _
      rw [List.mem_cons] at member
      rcases member with rfl | later
      · exact ⟨first.named.1, first.named.2.2, index, by simp, first.named.2.1⟩
      · obtain ⟨user, pool, place, below, named⟩ := ih later
        exact ⟨user, pool, place, by rw [List.length_cons]; omega, named⟩

end OpenedAll

theorem ran_load_pity (answer : BalanceBlindBoxPityState) (ran : loadPity userID store = (.ok answer, after)) :
    ∃ pity, after = { store with pity } := by
  simp only [loadPity, Tx.ran_bind, Tx.ran_view] at ran
  obtain ⟨_, _, ⟨rfl, rfl⟩, continued⟩ := ran
  cases found : store.pity.find? fun pity => pity.userID = userID with
  | some pity =>
      simp only [found, Tx.ran_pure] at continued
      exact ⟨store.pity, continued.2.symm⟩
  | none =>
      simp only [found, Tx.ran_bind, Tx.ran_view, ran_add_row, Tx.ran_pure] at continued
      obtain ⟨_, _, ⟨rfl, rfl⟩, _, _, ⟨pity, _, rfl⟩, _, rfl⟩ := continued
      exact ⟨pity, rfl⟩

theorem opened_available (env : WalletEnv) (setting : Setting) (count : Int) (rolls : Nat → Rolls) (now : Int) (records : List BlindBoxOpenRecord)
    (ran : openAvailableTx env setting userID requestID count rolls now store = (.ok records, after)) :
    ∃ items before final later, OpenedAll userID requestID 0 { store with pity := before } items records final ∧
      after = { final with pity := later } ∧ (items.length : Int) = count := by
  simp only [openAvailableTx, loadBalanceBlindBoxOpenStateTx, savePity, Tx.ran_bind, Tx.ran_view, Tx.ran_reject, Tx.ran_edit, Tx.ran_pure] at ran
  obtain ⟨_, _, ⟨rfl, rfl⟩, _, _, ⟨size, rfl⟩, state, _, ⟨pity, _, loaded, _, _, ⟨_, rfl⟩, rfl, rfl⟩, answer, final, opened, _, _, rfl, rfl, rfl⟩ := ran
  obtain ⟨before, rfl⟩ := ran_load_pity _ loaded
  push Not at size
  have taken : ∀ item ∈ (availableItems userID store).take count.toNat, item ∈ store.items.rows := fun item member =>
    List.mem_of_mem_filter (List.mem_of_mem_take member)
  have distinct : store.items.rows.Nodup := store.items.unique.imp fun apart same => apart (item_keyed _ _ (congrArg BalanceBlindBoxItem.id same))
  have sublist : ((availableItems userID store).take count.toNat).Sublist store.items.rows :=
    (List.take_sublist _ _).trans List.filter_sublist
  exact ⟨_, before, final, _, opened_all env setting userID requestID _ rolls now 0 _ _ _ taken (distinct.sublist sublist) opened, rfl, size⟩

end Opening

section Replay

variable {store after : BoxStore} {userID : Int} {requestID : String} {count : Int}

theorem record_named (first second : BlindBoxOpenRecord) (same : first.requestID = second.requestID) : Clash first second := .inr same

-- As many records as derived ids: every derived id has its record.
theorem covered_of_replay (size : ((replayedRecords userID requestID count store).length : Int) = count) : Covered store userID requestID count := by
  have distinct : ((replayedRecords userID requestID count store).map BlindBoxOpenRecord.requestID).Nodup := by
    rw [List.Nodup, List.pairwise_map]
    exact (store.records.unique.sublist List.filter_sublist).imp fun apart same => apart (record_named _ _ same)
  have within : ∀ id ∈ (replayedRecords userID requestID count store).map BlindBoxOpenRecord.requestID, id ∈ drawRequestIDs requestID count := by
    rw [List.forall_mem_map]
    intro record member
    simp only [replayedRecords, List.mem_filter, decide_eq_true_eq] at member
    exact member.2.2.2
  have short : (drawRequestIDs requestID count).length ≤ ((replayedRecords userID requestID count store).map BlindBoxOpenRecord.requestID).length := by
    rw [drawRequestIDs, List.length_map, List.length_map, List.length_range]
    omega
  have perm := (List.subperm_of_subset distinct within).perm_of_length_le short
  intro id member
  obtain ⟨record, recordIn, named⟩ := List.mem_map.mp (perm.mem_iff.mpr member)
  simp only [replayedRecords, List.mem_filter, decide_eq_true_eq] at recordIn
  exact ⟨record, recordIn.1, recordIn.2.1, named⟩

-- What the store still knows about an answered request.
structure Remembered (store : BoxStore) (answer : Answered) : Prop where
  trimmed : trimSpace answer.requestID = answer.requestID
  accepted : ¬ InvalidOpen answer.userID answer.requestID answer.count
  size : (answer.records.length : Int) = answer.count
  plain : ∀ record ∈ answer.records, record.propType = none → record.columns = record
  replay : replayedRecords answer.userID answer.requestID answer.count store = answer.records.map BlindBoxOpenRecord.columns

theorem Remembered.covered {answer : Answered} (remembered : Remembered store answer) :
    Covered store answer.userID answer.requestID answer.count :=
  covered_of_replay (by rw [remembered.replay, List.length_map, remembered.size])

-- New records stand under ids that no earlier record has.
theorem Remembered.grow {answer : Answered} (remembered : Remembered store answer) {added : List BlindBoxOpenRecord}
    (rows : after.records.rows = store.records.rows ++ added) : Remembered after answer := by
  refine ⟨remembered.trimmed, remembered.accepted, remembered.size, remembered.plain, ?_⟩
  have unmatched : added.filter (fun record => decide (record.userID = answer.userID ∧ (record.poolType = .unified ∨ record.poolType = .balance15) ∧
      record.requestID ∈ drawRequestIDs answer.requestID answer.count)) = [] := by
    rw [List.filter_eq_nil_iff]
    intro record member matched
    obtain ⟨earlier, earlierIn, _, named⟩ := remembered.covered record.requestID (of_decide_eq_true matched).2.2
    have apart := after.records.unique
    rw [rows, List.pairwise_append] at apart
    exact apart.2.2 earlier earlierIn record member (record_named _ _ named)
  rw [← remembered.replay]
  unfold replayedRecords
  rw [rows, List.filter_append, unmatched, List.append_nil]

theorem Remembered.same {answer : Answered} (remembered : Remembered store answer) (records : after.records = store.records) :
    Remembered after answer := by
  have rows : after.records.rows = store.records.rows ++ [] := by rw [records, List.append_nil]
  exact remembered.grow rows

theorem draw_place {place : Nat} (below : place < count.toNat) : drawRequestID requestID place ∈ drawRequestIDs requestID count :=
  List.mem_map.mpr ⟨place, List.mem_range.mpr below, rfl⟩

theorem columns_idem (record : BlindBoxOpenRecord) : record.columns.columns = record.columns := rfl

-- The records of an open that found none before it.
theorem replay_opened {items : List BalanceBlindBoxItem} {records : List BlindBoxOpenRecord}
    (all : OpenedAll userID requestID 0 store items records after) (size : (items.length : Int) = count)
    (none : (replayedRecords userID requestID count store).length = 0) :
    replayedRecords userID requestID count after = records.map BlindBoxOpenRecord.columns := by
  have empty := List.eq_nil_of_length_eq_zero none
  unfold replayedRecords at empty ⊢
  rw [all.stored, List.filter_append, empty, List.nil_append, List.filter_eq_self]
  rw [List.forall_mem_map]
  intro record member
  obtain ⟨user, pool, place, below, named⟩ := all.named record member
  rw [all.size] at below
  have drawn : drawRequestID requestID place ∈ drawRequestIDs requestID count := draw_place (by omega)
  exact decide_eq_true ⟨user, .inl pool, named ▸ drawn⟩

end Replay

section Commands

variable {env : WalletEnv} {setting : Setting} {store after : BoxStore} {userID : Int} {requestID : String} {count now : Int}

theorem ran_load_replay (records : List BlindBoxOpenRecord) : loadBalanceBlindBoxOpenReplay userID requestID count store = (.ok records, after) ↔
    ((replayedRecords userID requestID count store).length = 0 ∨ ((replayedRecords userID requestID count store).length : Int) = count) ∧
      replayedRecords userID requestID count store = records ∧ store = after := by
  simp only [loadBalanceBlindBoxOpenReplay, Tx.ran_bind, Tx.ran_view]
  constructor
  · rintro ⟨_, _, ⟨rfl, rfl⟩, continued⟩
    split at continued
    · rename_i empty
      exact ⟨.inl empty, (Tx.ran_pure _ _ _ _).mp continued⟩
    · simp only [Tx.ran_bind, Tx.ran_reject, Tx.ran_pure] at continued
      obtain ⟨_, _, ⟨same, rfl⟩, answered⟩ := continued
      exact ⟨.inr (not_not.mp same), answered⟩
  · rintro ⟨sizes, rfl, rfl⟩
    refine ⟨_, store, ⟨rfl, rfl⟩, ?_⟩
    split
    · exact (Tx.ran_pure _ _ _ _).mpr ⟨rfl, rfl⟩
    · rename_i some
      simp only [Tx.ran_bind, Tx.ran_reject, Tx.ran_pure]
      exact ⟨(), store, ⟨not_not.mpr (sizes.resolve_left some), rfl⟩, trivial, rfl⟩

-- An answer is a replay of all the records or an opening of new boxes.
theorem ran_open (rolls : Nat → Rolls) (records : List BlindBoxOpenRecord) :
    openBalanceBlindBox env setting userID requestID count rolls now store = (.ok records, after) ↔
      ¬ InvalidOpen userID (trimSpace requestID) count ∧ (setting.enabled ∧ setting.balanceBlindBoxEnabled) ∧
        ((0 < records.length ∧ (records.length : Int) = count ∧ replayedRecords userID (trimSpace requestID) count store = records ∧ store = after) ∨
          ((replayedRecords userID (trimSpace requestID) count store).length = 0 ∧
            openAvailableTx env setting userID (trimSpace requestID) count rolls now store = (.ok records, after))) := by
  simp only [openBalanceBlindBox, openBalanceBlindBoxTx, Tx.ran_bind, Tx.ran_reject, Tx.ran_atomic, ran_load_replay]
  constructor
  · rintro ⟨_, _, ⟨accepted, rfl⟩, _, _, ⟨enabled, rfl⟩, _, _, ⟨sizes, rfl, rfl⟩, continued⟩
    refine ⟨accepted, not_not.mp enabled, ?_⟩
    by_cases some : 0 < (replayedRecords userID (trimSpace requestID) count store).length
    · rw [if_pos some, Tx.ran_pure] at continued
      obtain ⟨rfl, rfl⟩ := continued
      exact .inl ⟨some, sizes.resolve_left (Nat.pos_iff_ne_zero.mp some), rfl, rfl⟩
    · rw [if_neg some] at continued
      exact .inr ⟨Nat.eq_zero_of_not_pos some, continued⟩
  · rintro ⟨accepted, enabled, ⟨some, size, rfl, rfl⟩ | ⟨none, opened⟩⟩
    · refine ⟨(), store, ⟨accepted, rfl⟩, (), store, ⟨not_not.mpr enabled, rfl⟩, _, store, ⟨.inr size, rfl, rfl⟩, ?_⟩
      rw [if_pos some, Tx.ran_pure]
      exact ⟨rfl, rfl⟩
    · refine ⟨(), store, ⟨accepted, rfl⟩, (), store, ⟨not_not.mpr enabled, rfl⟩, _, store, ⟨.inl none, rfl, rfl⟩, ?_⟩
      rw [if_neg (by omega)]
      exact opened

-- A command that fails leaves the store as it was.
theorem failed_atomic {α : Type} (work : BoxTx α) (problem : BoxError) (failed : Tx.atomic work store = (.error problem, after)) : after = store := by
  rcases Tx.atomic_store work store with ⟨result, committed⟩ | ⟨_, same⟩
  · have outcome := Tx.atomic_outcome work store
    rw [failed, committed] at outcome
    cases outcome
  · rw [failed] at same
    exact same

theorem failed_open (rolls : Nat → Rolls) (problem : BoxError)
    (failed : openBalanceBlindBox env setting userID requestID count rolls now store = (.error problem, after)) : after = store := by
  simp only [openBalanceBlindBox, Tx.failed_bind, Tx.failed_reject, Tx.ran_reject] at failed
  rcases failed with ⟨_, _, rfl⟩ | ⟨_, _, ⟨_, rfl⟩, ⟨_, _, rfl⟩ | ⟨_, _, ⟨_, rfl⟩, failed⟩⟩
  · rfl
  · rfl
  · exact failed_atomic _ problem failed

theorem failed_purchase (pendingPaid : Int) (problem : BoxError)
    (failed : purchaseBalanceBlindBoxes env setting userID requestID count pendingPaid now store = (.error problem, after)) : after = store := by
  simp only [purchaseBalanceBlindBoxes, Tx.failed_bind, Tx.failed_reject, Tx.ran_reject] at failed
  rcases failed with ⟨_, _, rfl⟩ | ⟨_, _, ⟨_, rfl⟩, ⟨_, _, rfl⟩ | ⟨_, _, ⟨_, rfl⟩, failed⟩⟩
  · rfl
  · rfl
  · exact failed_atomic _ problem failed

theorem failed_gift (request : GiftBalanceBlindBoxRequest) (problem : BoxError)
    (failed : giftBalanceBlindBoxes userID request now store = (.error problem, after)) : after = store := by
  simp only [giftBalanceBlindBoxes, Tx.failed_bind, Tx.failed_reject, Tx.ran_reject] at failed
  rcases failed with ⟨_, _, rfl⟩ | ⟨_, _, ⟨_, rfl⟩, failed⟩
  · rfl
  · exact failed_atomic _ problem failed

-- A purchase request that is known changes nothing; a new one is paid for and issued.
theorem Books.bought (books : Books store) (pendingPaid : Int) (purchase : BalanceBlindBoxPurchase)
    (ran : purchaseBalanceBlindBoxes env setting userID requestID count pendingPaid now store = (.ok purchase, after)) :
    Books after ∧ after.records = store.records ∧ ((∃ known ∈ store.purchases.rows, known.requestID = trimSpace requestID) → after = store) := by
  simp only [purchaseBalanceBlindBoxes, purchaseBalanceBlindBoxesTx, findPurchase, Tx.ran_bind, Tx.ran_reject, Tx.ran_atomic, Tx.ran_view] at ran
  obtain ⟨_, _, ⟨accepted, rfl⟩, _, _, ⟨_, rfl⟩, _, _, ⟨rfl, rfl⟩, continued⟩ := ran
  push Not at accepted
  cases found : store.purchases.find? fun row => row.requestID = trimSpace requestID with
  | some known =>
      simp only [found, Tx.ran_bind, Tx.ran_reject, Tx.ran_pure] at continued
      obtain ⟨_, _, ⟨_, rfl⟩, _, rfl⟩ := continued
      exact ⟨books, rfl, fun _ => rfl⟩
  | none =>
      simp only [found, payBalanceBlindBoxesTx, Tx.ran_bind, Tx.ran_view, Tx.ran_reject, ran_on_wallet, Tx.ran_pure] at continued
      obtain ⟨_, _, locked, _, _, ⟨rfl, rfl⟩, _, _, ⟨_, rfl⟩, _, _, ⟨wallet, debited, rfl⟩, created, _, made, _, _, issued, rfl, rfl⟩ := continued
      obtain rfl := (read_only_lock_user _).same locked
      have unseen : ∀ known ∈ store.purchases.rows, known.requestID ≠ trimSpace requestID := fun known member =>
        of_decide_eq_false ((Table.find?_eq_none_iff _ _).mp found known member)
      have tight : Tight (trimSpace requestID) := tight_trim_space _ accepted.2.1
      obtain ⟨positive, charged⟩ := wallet_charged env _ _ _ _ _ _ debited tight.2 books.sound fun reservation member key => by
        obtain ⟨known, knownIn, named⟩ := books.holds reservation member _ key
        exact unseen known knownIn named
      obtain ⟨batch, shape⟩ := issued_batch _ _ _ made issued
      have sameUser : created.userID = userID := by rw [shape]
      have sameTotal : created.totalQuota = quotaUnitsFromBlindBoxUSD setting setting.balanceBlindBoxPriceUSD * count := by rw [shape]
      have sameRequest : created.requestID = trimSpace requestID := by rw [shape]
      have sameQuantity : created.quantity = count := by rw [shape]
      have paid : created.totalQuota ≠ 0 := by omega
      have settles : Settles store.wallet.ledger created wallet.ledger := by
        refine ⟨charged.later, fun _ => ?_, fun entry member => ?_, ?_⟩
        · rw [sameUser, sameTotal, sameRequest]
          exact charged.charged
        · rw [sameRequest]
          exact (charged.entries entry member).imp_right fun rest => rest.imp_left fun own => ⟨paid, own⟩
        · rw [sameRequest]
          exact charged.reservations
      refine ⟨books.issued settles batch rfl rfl rfl rfl (by omega), batch.records, fun known => ?_⟩
      obtain ⟨known, knownIn, named⟩ := known
      exact (unseen known knownIn named).elim

theorem Books.cash (books : Books store) (order : BlindBoxOrder) (ran : issuePaidBlindBoxOrderInventoryTx env setting order now store = (.ok (), after)) :
    Books after ∧ after.records = store.records ∧
      ((∃ known ∈ store.purchases.rows, known.requestID = paidBlindBoxInventoryRequestID env order.tradeNo) → after = store) := by
  simp only [issuePaidBlindBoxOrderInventoryTx, findPurchase, Tx.ran_bind, Tx.ran_reject, Tx.ran_view] at ran
  obtain ⟨_, _, ⟨accepted, rfl⟩, _, _, ⟨rfl, rfl⟩, continued⟩ := ran
  push Not at accepted
  cases found : store.purchases.find? fun row => row.requestID = paidBlindBoxInventoryRequestID env order.tradeNo with
  | some known =>
      simp only [found, Tx.ran_reject] at continued
      obtain ⟨_, rfl⟩ := continued
      exact ⟨books, rfl, fun _ => rfl⟩
  | none =>
      simp only [found, Tx.ran_bind] at continued
      obtain ⟨created, _, made, issued⟩ := continued
      have unseen : ∀ known ∈ store.purchases.rows, known.requestID ≠ paidBlindBoxInventoryRequestID env order.tradeNo := fun known member =>
        of_decide_eq_false ((Table.find?_eq_none_iff _ _).mp found known member)
      obtain ⟨batch, shape⟩ := issued_batch _ _ _ made issued
      have free : created.totalQuota = 0 := by rw [shape]
      have sameQuantity : created.quantity = order.quantity := by rw [shape]
      have settles : Settles store.wallet.ledger created store.wallet.ledger :=
        ⟨.refl _, fun paid => (paid free).elim, fun entry member => .inl member, fun reservation member => .inl ⟨reservation, member, rfl⟩⟩
      refine ⟨books.issued settles batch rfl rfl rfl rfl (by omega), batch.records, fun known => ?_⟩
      obtain ⟨known, knownIn, named⟩ := known
      exact (unseen known knownIn named).elim

end Commands

section Runs

variable {env : WalletEnv} {setting : Setting} {system : System}

structure Kept (setting : Setting) (system : System) : Prop where
  books : Books system.store
  columns : ∀ record ∈ system.store.records.rows, record.columns = record
  enabled : ∀ answer ∈ system.answered, setting.enabled ∧ setting.balanceBlindBoxEnabled
  remembered : ∀ answer ∈ system.answered, Remembered system.store answer

theorem NewInventory.kept {store : BoxStore} (new : NewInventory store) : Kept setting ⟨store, []⟩ :=
  ⟨new.books, by simp [new.records], by simp, by simp⟩

-- A step that leaves the records alone forgets no answer.
theorem Kept.same {store : BoxStore} (kept : Kept setting system) (books : Books store) (records : store.records = system.store.records) :
    Kept setting { system with store } :=
  ⟨books, fun record member => kept.columns record (records ▸ member), kept.enabled, fun answer member =>
    (kept.remembered answer member).same records⟩

theorem Kept.purchase (kept : Kept setting system) (userID : Int) (requestID : String) (count pendingPaid now : Int) :
    Kept setting (step env setting system (.purchase userID requestID count pendingPaid now)) ∧
      Lawful env setting system (.purchase userID requestID count pendingPaid now) := by
  simp only [step, Lawful]
  cases ran : purchaseBalanceBlindBoxes env setting userID requestID count pendingPaid now system.store with
  | mk outcome after =>
      cases outcome with
      | ok purchase =>
          obtain ⟨books, records, known⟩ := kept.books.bought pendingPaid purchase ran
          exact ⟨kept.same books records, known⟩
      | error problem =>
          obtain rfl := failed_purchase pendingPaid problem ran
          exact ⟨kept, fun _ => rfl⟩

theorem Kept.issuePaid (kept : Kept setting system) (order : BlindBoxOrder) (now : Int) :
    Kept setting (step env setting system (.issuePaid order now)) ∧ Lawful env setting system (.issuePaid order now) := by
  simp only [step, Lawful]
  cases ran : Tx.atomic (issuePaidBlindBoxOrderInventoryTx env setting order now) system.store with
  | mk outcome after =>
      cases outcome with
      | ok _ =>
          obtain ⟨books, records, known⟩ := kept.books.cash order ((Tx.ran_atomic _ _ _ _).mp ran)
          exact ⟨kept.same books records, known⟩
      | error problem =>
          obtain rfl := failed_atomic _ problem ran
          exact ⟨kept, fun _ => rfl⟩

theorem Kept.gift (kept : Kept setting system) (senderUserID : Int) (request : GiftBalanceBlindBoxRequest) (now : Int) :
    Kept setting (step env setting system (.gift senderUserID request now)) := by
  simp only [step]
  cases ran : giftBalanceBlindBoxes senderUserID request now system.store with
  | mk outcome after =>
      cases outcome with
      | ok gift =>
          have given := given_gift senderUserID request now gift ran
          exact kept.same (kept.books.given given) given.records
      | error problem =>
          obtain rfl := failed_gift request problem ran
          exact kept

-- Boxes opened under a request: the books and every earlier answer survive, and the new answer is remembered.
structure Served (setting : Setting) (system : System) (userID : Int) (requestID : String) (count : Int) (records : List BlindBoxOpenRecord)
    (after : BoxStore) : Prop where
  kept : Kept setting ⟨after, system.answered ++ [⟨userID, trimSpace requestID, count, records⟩]⟩
  opens : OpensBoxes system.store userID count records after

theorem Kept.served (kept : Kept setting system) (userID : Int) (requestID : String) (count now : Int) (rolls : Nat → Rolls)
    (records : List BlindBoxOpenRecord) (after : BoxStore) (accepted : ¬ InvalidOpen userID (trimSpace requestID) count)
    (enabled : setting.enabled ∧ setting.balanceBlindBoxEnabled)
    (none : (replayedRecords userID (trimSpace requestID) count system.store).length = 0)
    (ran : openAvailableTx env setting userID (trimSpace requestID) count rolls now system.store = (.ok records, after)) :
    Served setting system userID requestID count records after := by
  obtain ⟨items, before, final, later, all, rfl, size⟩ := opened_available env setting count rolls now records ran
  have books : Books { system.store with pity := before } := { kept.books with }
  have finalBooks := all.books books
  have rows : final.records.rows = system.store.records.rows ++ records.map BlindBoxOpenRecord.columns := all.stored
  have recordSize : (records.length : Int) = count := by rw [all.size, size]
  have replay : replayedRecords userID (trimSpace requestID) count final = records.map BlindBoxOpenRecord.columns := replay_opened all size none
  refine ⟨⟨{ finalBooks with }, ?_, ?_, ?_⟩, ⟨recordSize, ?_, rows, ?_⟩⟩
  · intro record member
    rw [rows, List.mem_append, List.mem_map] at member
    rcases member with old | ⟨added, _, rfl⟩
    · exact kept.columns record old
    · exact columns_idem added
  · rw [List.forall_mem_append, List.forall_mem_singleton]
    exact ⟨kept.enabled, enabled⟩
  · rw [List.forall_mem_append, List.forall_mem_singleton]
    exact ⟨fun answer member => (kept.remembered answer member).grow rows, trim_space_idem requestID, accepted, recordSize,
      all.plain, replay⟩
  · intro record member earlier earlierIn same
    have apart := final.records.unique
    rw [rows, List.pairwise_append] at apart
    exact apart.2.2 earlier earlierIn record.columns (List.mem_map_of_mem member) (record_numbered _ _ same)
  · have counted := all.counted
    rw [size] at counted
    exact counted

theorem Kept.opens (kept : Kept setting system) (userID : Int) (requestID : String) (count now : Int) (rolls : Nat → Rolls) :
    Kept setting (step env setting system (.openBoxes userID requestID count rolls now)) := by
  simp only [step]
  cases ran : openBalanceBlindBox env setting userID requestID count rolls now system.store with
  | mk outcome after =>
      cases outcome with
      | error problem =>
          obtain rfl := failed_open rolls problem ran
          exact kept
      | ok records =>
          obtain ⟨accepted, enabled, ⟨some, size, replay, rfl⟩ | ⟨none, opened⟩⟩ := (ran_open rolls records).mp ran
          · -- The rows answered with are stored rows already.
            have stored : ∀ record ∈ records, record.columns = record := fun record member => by
              rw [← replay] at member
              exact kept.columns record (List.mem_of_mem_filter member)
            have same : records.map BlindBoxOpenRecord.columns = records.map id := List.map_congr_left stored
            refine ⟨kept.books, kept.columns, ?_, ?_⟩
            · rw [List.forall_mem_append, List.forall_mem_singleton]
              exact ⟨kept.enabled, enabled⟩
            · rw [List.forall_mem_append, List.forall_mem_singleton]
              refine ⟨kept.remembered, trim_space_idem requestID, accepted, size, fun record member _ => stored record member, ?_⟩
              rw [same, List.map_id]
              exact replay
          · exact (kept.served userID requestID count now rolls records after accepted enabled none opened).kept

theorem Kept.law (kept : Kept setting system) (userID : Int) (requestID : String) (count now : Int) (rolls : Nat → Rolls)
    (faithful : Faithful system (.openBoxes userID requestID count rolls now)) :
    Lawful env setting system (.openBoxes userID requestID count rolls now) := by
  refine ⟨fun first found => ?_, fun unused => ?_⟩
  · have member := List.mem_of_find?_eq_some found
    have hit := List.find?_some (p := fun answer : Answered => decide (answer.userID = userID ∧ answer.requestID = trimSpace requestID ∧
      answer.count = count)) found
    obtain ⟨rfl, sameRequest, rfl⟩ := of_decide_eq_true hit
    have remembered := kept.remembered first member
    have same : first.records.map BlindBoxOpenRecord.columns = first.records.map id := List.map_congr_left fun record recordIn =>
      remembered.plain record recordIn (faithful.1 first found record recordIn)
    refine (ran_open rolls first.records).mpr ⟨sameRequest ▸ remembered.accepted, kept.enabled first member, .inl ⟨?_, remembered.size, ?_, rfl⟩⟩
    · have size := remembered.size
      have accepted := remembered.accepted
      unfold InvalidOpen at accepted
      push Not at accepted
      omega
    · rw [← sameRequest, remembered.replay, same, List.map_id]
  · cases ran : openBalanceBlindBox env setting userID requestID count rolls now system.store with
    | mk outcome after =>
        cases outcome with
        | error problem =>
            obtain rfl := failed_open rolls problem ran
            exact .inr ⟨problem, rfl⟩
        | ok records =>
            obtain ⟨accepted, enabled, ⟨some, size, replay, rfl⟩ | ⟨none, opened⟩⟩ := (ran_open rolls records).mp ran
            · exact (faithful.2 accepted unused (covered_of_replay (by rw [replay, size]))).elim
            · exact .inl ⟨records, after, rfl, (kept.served userID requestID count now rolls records after accepted enabled none opened).opens⟩

def isOne (holds : Prop) [Decidable holds] : Int := if holds then 1 else 0

-- Boxes sold and drawn again are the boxes at hand and the boxes opened.
def Balanced (store : BoxStore) : Prop :=
  (store.purchases.total BalanceBlindBoxPurchase.quantity + store.items.total fun item => isOne (DrewAgain item)) =
    (store.items.total fun item => isOne (item.status = .available)) + store.items.total fun item => isOne (item.status = .opened)

theorem Books.balanced {store : BoxStore} (books : Books store) : Balanced store := by
  -- Every box counts for the one purchase it comes from.
  have sole : ∀ item ∈ store.items.rows, ∀ weight : Int,
      (store.purchases.total fun purchase => if item.purchaseID = purchase.id then weight else 0) = weight := by
    intro item member weight
    obtain ⟨source, sourceIn, named⟩ := books.sourced item member
    have single := Table.total_single (fun purchase : BalanceBlindBoxPurchase => if item.purchaseID = purchase.id then weight else 0)
      store.purchases source sourceIn fun other _ apart => if_neg fun same => apart (purchase_numbered _ _ (named.trans same))
    rw [single, if_pos named.symm]
  have byPurchase : ∀ weight : BalanceBlindBoxItem → Int, (store.items.total weight) =
      store.purchases.total fun purchase => store.items.total fun item => if item.purchaseID = purchase.id then weight item else 0 := by
    intro weight
    rw [← Table.total_swap]
    exact Table.total_congr _ _ _ fun item member => (sole item member (weight item)).symm
  have all : (store.items.total fun _ => (1 : Int)) =
      store.purchases.total BalanceBlindBoxPurchase.quantity + store.items.total fun item => isOne (DrewAgain item) := by
    rw [byPurchase, byPurchase fun item => isOne (DrewAgain item)]
    have perPurchase : (store.purchases.total fun purchase => store.items.total fun item => if item.purchaseID = purchase.id then (1 : Int) else 0) =
        store.purchases.total fun purchase => purchase.quantity +
          store.items.total fun item => if item.purchaseID = purchase.id then isOne (DrewAgain item) else 0 := by
      refine Table.total_congr _ _ _ fun purchase member => ?_
      have minted := books.minted purchase member
      unfold boxesOf extraDrawsOf at minted
      rw [minted]
      refine congrArg (fun draws => purchase.quantity + draws) (Table.total_congr _ _ _ fun item _ => ?_)
      unfold isOne
      rw [ite_and]
    rw [perPurchase]
    exact List.sum_map_add
  have split : (store.items.total fun _ => (1 : Int)) =
      (store.items.total fun item => isOne (item.status = .available)) + store.items.total fun item => isOne (item.status = .opened) := by
    have states : (store.items.total fun _ => (1 : Int)) =
        store.items.total fun item => isOne (item.status = .available) + isOne (item.status = .opened) := by
      refine Table.total_congr _ _ _ fun item member => ?_
      rcases books.closed item member with isSealed | ⟨_, _, closedBy⟩
      · simp [isOne, isSealed]
      · simp [isOne, closedBy.opened]
    rw [states]
    exact List.sum_map_add
  rw [Balanced, ← all, split]

theorem Kept.step (kept : Kept setting system) (move : Move) : Kept setting (step env setting system move) := by
  cases move with
  | purchase userID requestID count pendingPaid now => exact (kept.purchase userID requestID count pendingPaid now).1
  | issuePaid order now => exact (kept.issuePaid order now).1
  | gift senderUserID request now => exact kept.gift senderUserID request now
  | openBoxes userID requestID count rolls now => exact kept.opens userID requestID count now rolls

theorem Kept.lawful (kept : Kept setting system) (move : Move) (faithful : Faithful system move) : Lawful env setting system move := by
  cases move with
  | purchase userID requestID count pendingPaid now => exact (kept.purchase userID requestID count pendingPaid now).2
  | issuePaid order now => exact (kept.issuePaid order now).2
  | gift senderUserID request now => trivial
  | openBoxes userID requestID count rolls now => exact kept.law userID requestID count now rolls faithful

-- The books balance in every run; the answers are faithful where no request id runs into
-- the derived ids of another one and no repeated answer names a card.
theorem inventory_conserved (env : WalletEnv) (setting : Setting) (start : BoxStore) (new : NewInventory start) (moves : List Move) :
    Books (run (step env setting) ⟨start, []⟩ moves).store ∧ Balanced (run (step env setting) ⟨start, []⟩ moves).store ∧
      (Every (step env setting) Faithful ⟨start, []⟩ moves → Every (step env setting) (Lawful env setting) ⟨start, []⟩ moves) := by
  have kept : Kept setting (run (step env setting) ⟨start, []⟩ moves) :=
    run_keeps (step env setting) (Kept setting) (fun _ => True) (fun _ move _ kept => kept.step move) _ new.kept moves fun _ _ => trivial
  have keeps : ∀ system move, Kept setting system → Faithful system move →
      Kept setting (step env setting system move) ∧ Lawful env setting system move :=
    fun _ move kept faithful => ⟨kept.step move, kept.lawful move faithful⟩
  exact ⟨kept.books, kept.books.balanced, fun faithful => (Every.keeps ⟨start, []⟩ new.kept keeps moves faithful).2⟩

end Runs

def boxEnv : WalletEnv := { postgres := false, uuid := fun drawn => "u" ++ toString drawn, digest := fun _ text => text }

def boxSetting (tiers : List TierSetting) : Setting :=
  { enabled := true, unitPrice := 2, balanceBlindBoxEnabled := true, balanceBlindBoxPriceUSD := 2, balanceBlindBoxDailyPurchaseLimit := 10,
    balanceBlindBoxTiers := tiers, balanceBlindBoxPityThreshold := 0, balanceBlindBoxPityGuaranteeUSD := 35,
    balanceBlindBoxSmallPityThreshold := 0, balanceBlindBoxSmallPityGuaranteeUSD := 6, balanceBlindBoxFirstDrawGuaranteeUSD := 0,
    balanceBlindBoxFirstDrawTiers := [], balanceBlindBoxSmallPityTiers := [], balanceBlindBoxPityTiers := [] }

def quotaTier : TierSetting := { name := "1.00", minUSD := 1, maxUSD := 1, probability := 1, rewardType := "claude_quota" }

def extraDrawTier : TierSetting := { name := "再来一抽", probability := 1, rewardType := "prop" }

def emptyBoxes : BoxStore :=
  { wallet := ⟨Ledger.empty, ⟨[{ id := 1, claudeQuota := 5000000 }, { id := 2 }], by decide⟩, .empty, .empty⟩
    profiles := [⟨1, "AAAAAA", true⟩, ⟨2, "BBBBBB", true⟩]
    purchases := .empty, items := .empty, records := .empty, props := .empty, pity := .empty, gifts := .empty, giftItems := .empty,
    propGifts := .empty }

theorem new_empty_boxes : NewInventory emptyBoxes := by
  refine ⟨sound_empty, ?_, ?_, rfl, rfl, rfl, rfl⟩ <;> simp [emptyBoxes, Ledger.empty]

def plainRun : List Move :=
  [.purchase 1 "p" 2 0 100, .gift 1 ⟨"BBBBBB", "g", 1⟩ 300000, .openBoxes 1 "a" 1 (fun _ => {}) 400000, .openBoxes 1 "a" 1 (fun _ => {}) 400001]

theorem plain_run_conserved :
    Books (run (step boxEnv (boxSetting [quotaTier])) ⟨emptyBoxes, []⟩ plainRun).store ∧
      Every (step boxEnv (boxSetting [quotaTier])) (Lawful boxEnv (boxSetting [quotaTier])) ⟨emptyBoxes, []⟩ plainRun := by
  obtain ⟨books, _, lawful⟩ := inventory_conserved boxEnv (boxSetting [quotaTier]) emptyBoxes new_empty_boxes plainRun
  exact ⟨books, lawful (by decide +kernel)⟩

def sampleOrder : BlindBoxOrder := { id := 1, userID := 1, quantity := 5, money := 10, tradeNo := "t" }

def beforeCollision : List Move := [.issuePaid sampleOrder 100, .openBoxes 1 "a" 3 (fun _ => {}) 200]

def collidingOpen : Move := .openBoxes 1 "a:1" 1 (fun _ => {}) 300

def collidingSystem : System := run (step boxEnv (boxSetting [extraDrawTier])) ⟨emptyBoxes, []⟩ beforeCollision

theorem colliding_open_replays :
    ((openBalanceBlindBox boxEnv (boxSetting [extraDrawTier]) 1 "a:1" 1 (fun _ => {}) 300 collidingSystem.store).1.toOption.map
      (List.map BlindBoxOpenRecord.id)) = some [2] := by
  decide +kernel

-- The id of the second box of an earlier request is taken for a request of its own.
theorem derived_id_replays_foreign_record :
    ¬ Every (step boxEnv (boxSetting [extraDrawTier])) (Lawful boxEnv (boxSetting [extraDrawTier])) ⟨emptyBoxes, []⟩
      (beforeCollision ++ [collidingOpen]) := by
  intro every
  have law : OpenLaw boxEnv (boxSetting [extraDrawTier]) collidingSystem 1 "a:1" 1 (fun _ => {}) 300 := (Every.append.mp every).2.1
  have unused : collidingSystem.Unused 1 "a:1" := by decide +kernel
  have earlier : ∃ record ∈ collidingSystem.store.records.rows, record.id = 2 := by decide +kernel
  have answer := colliding_open_replays
  rcases law.unused unused with ⟨records, after, ran, opens⟩ | ⟨problem, failed⟩
  · rw [ran] at answer
    have ids : records.map BlindBoxOpenRecord.id = [2] := Option.some.inj answer
    obtain ⟨known, knownIn, same⟩ := earlier
    cases records with
    | nil => cases ids
    | cons record rest =>
        rw [List.map_cons, List.cons.injEq] at ids
        exact opens.fresh record (by simp) known knownIn (same.trans ids.1.symm)
  · rw [failed] at answer
    cases answer

end CodeGo.BlindBox
