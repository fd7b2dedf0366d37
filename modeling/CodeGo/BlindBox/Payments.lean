import CodeGo.BlindBox.Opening
import CodeGo.Wallet.Debit
import CodeGo.Lib.Numeral

set_option autoImplicit false

namespace CodeGo.BlindBox

open Relational Text Billing

/- The lines that purchases and rewards leave in the ledger. A purchase holds its total
   under a key of its request and settles all of it; a reward is one credit under a key
   of its record. -/

def purchaseHoldKey (requestID : String) : String := "ledger-reservation:unified-blind-box-purchase:" ++ requestID

def purchaseEntryKey (requestID : String) : String := "entry:ledger-reservation:unified-blind-box-purchase:" ++ requestID

def Charged (ledger : Ledger) (userID amount : Int) (requestID : String) : Prop :=
  ∃ account ∈ ledger.accounts.rows, ClaudeWalletOf userID account ∧
    (∃ entry ∈ ledger.entries.rows, entry.idempotencyKey = purchaseEntryKey requestID ∧ entry.accountID = account.accountID ∧
      entry.entryType = .reserveHold ∧ entry.amount = amount) ∧
    ∃ reservation ∈ ledger.reservations.rows, reservation.idempotencyKey = purchaseHoldKey requestID ∧
      reservation.accountID = account.accountID ∧ reservation.reservedAmount = amount ∧ reservation.status = .settled

def Rewarded (ledger : Ledger) (userID amount openRecordID : Int) (walletType : BlindBoxRewardWalletType) : Prop :=
  ∃ account ∈ ledger.accounts.rows, ClaudeWalletOf userID account ∧
    ∃ entry ∈ ledger.entries.rows, entry.idempotencyKey = rewardKey openRecordID walletType ∧ entry.accountID = account.accountID ∧
      entry.entryType = .grantCredit ∧ entry.amount = amount

-- A key that is neither a purchase's nor a reward's.
def Foreign (key : String) : Prop :=
  (∀ requestID, key ≠ purchaseEntryKey requestID) ∧ ∀ openRecordID walletType, key ≠ rewardKey openRecordID walletType

structure Later (ledger after : Ledger) : Prop where
  survives : Extends ledger after
  accounts : ∀ account ∈ ledger.accounts.rows, account ∈ after.accounts.rows
  sound : Sound ledger → Sound after

theorem Later.refl (ledger : Ledger) : Later ledger ledger := ⟨.refl ledger, fun _ member => member, id⟩

theorem later_of_moves {ops : List LedgerOp} {ledger after : Ledger} (moves : Moves ops ledger after) : Later ledger after :=
  ⟨moves.extends, moves.accounts, moves.sound⟩

theorem Later.charged {ledger after : Ledger} (later : Later ledger after) {userID amount : Int} {requestID : String}
    (charged : Charged ledger userID amount requestID) : Charged after userID amount requestID := by
  obtain ⟨account, accountIn, owner, ⟨entry, entryIn, line⟩, reservation, reservationIn, key, held, amountHeld, settled⟩ := charged
  have closed : reservation.status ≠ .opened := by simp [settled]
  exact ⟨account, later.accounts account accountIn, owner, ⟨entry, later.survives.entries entry entryIn, line⟩, reservation,
    later.survives.closed reservation reservationIn closed, key, held, amountHeld, settled⟩

theorem Later.rewarded {ledger after : Ledger} (later : Later ledger after) {userID amount openRecordID : Int}
    {walletType : BlindBoxRewardWalletType} (rewarded : Rewarded ledger userID amount openRecordID walletType) :
    Rewarded after userID amount openRecordID walletType := by
  obtain ⟨account, accountIn, owner, entry, entryIn, line⟩ := rewarded
  exact ⟨account, later.accounts account accountIn, owner, entry, later.survives.entries entry entryIn, line⟩

section Keys

-- The keys are joined by terms: rewriting would try to evaluate the literals.
theorem hold_key_joined (requestID : String) : "ledger-reservation:" ++ purchaseOperation requestID = purchaseHoldKey requestID :=
  String.append_assoc.symm

theorem entry_key_joined (requestID : String) : "entry:" ++ purchaseHoldKey requestID = purchaseEntryKey requestID :=
  String.append_assoc.symm

theorem reward_key_front (openRecordID : Int) (walletType : BlindBoxRewardWalletType) :
    ∃ rest, rewardKey openRecordID walletType = "blind-box:reward:" ++ rest :=
  ⟨_, String.append_assoc.trans String.append_assoc⟩

theorem hold_key_injective {first second : String} (same : purchaseHoldKey first = purchaseHoldKey second) : first = second :=
  append_left_injective _ _ _ same

theorem reward_key_injective {firstID secondID : Int} {first second : BlindBoxRewardWalletType}
    (same : rewardKey firstID first = rewardKey secondID second) : firstID = secondID ∧ first = second := by
  have plain : ∀ walletType : BlindBoxRewardWalletType, Plain walletType.text := fun walletType => by cases walletType <;> decide
  obtain ⟨fronts, words⟩ := last_colon_unique _ _ _ _ (plain first) (plain second) same
  refine ⟨int_text_injective _ _ (append_left_injective _ _ _ fronts), ?_⟩
  cases first <;> cases second <;> first | rfl | exact absurd words (by decide)

theorem foreign_of_front {front : String} (rest : String) (purchases : Apart front "entry:ledger-reservation:unified-blind-box-purchase:")
    (rewards : Apart front "blind-box:reward:") : Foreign (front ++ rest) := by
  refine ⟨fun requestID => purchases.ne rest requestID, fun openRecordID walletType same => ?_⟩
  obtain ⟨tail, key⟩ := reward_key_front openRecordID walletType
  exact rewards.ne rest tail (same.trans key)

theorem purchase_ne_reward (requestID : String) (openRecordID : Int) (walletType : BlindBoxRewardWalletType) :
    purchaseEntryKey requestID ≠ rewardKey openRecordID walletType := by
  intro same
  obtain ⟨tail, key⟩ := reward_key_front openRecordID walletType
  have apart : Apart "entry:ledger-reservation:unified-blind-box-purchase:" "blind-box:reward:" := by decide
  exact apart.ne requestID tail (same.trans key)

theorem foreign_mirror (accountID : String) (userID legacyBalance : Int) :
    Foreign (trimSpace (mirrorBootstrap accountID userID legacyBalance).idempotencyKey) := by
  have joined : (mirrorBootstrap accountID userID legacyBalance).idempotencyKey =
      "mirror-bootstrap:user:" ++ (toString userID ++ (":" ++ billingAccountTypeClaudeWallet)) :=
    String.append_assoc.trans String.append_assoc
  obtain ⟨rest, trimmed⟩ := trim_space_front "mirror-bootstrap:user:" (toString userID ++ (":" ++ billingAccountTypeClaudeWallet)) (by decide)
  rw [joined, trimmed]
  exact foreign_of_front rest (by decide) (by decide)

theorem foreign_settle (operationID : String) : Foreign ("entry:" ++ trimSpace ("ledger-settlement:" ++ operationID)) := by
  obtain ⟨rest, trimmed⟩ := trim_space_front "ledger-settlement:" operationID (by decide)
  have joined : "entry:" ++ ("ledger-settlement:" ++ rest) = "entry:ledger-settlement:" ++ rest := String.append_assoc.symm
  rw [trimmed, joined]
  exact foreign_of_front rest (by decide) (by decide)

theorem tight_hold_key (requestID : String) (solid : SolidLast requestID) : Tight (purchaseHoldKey requestID) :=
  tight_append _ _ (by decide) solid

theorem tight_reward_key (openRecordID : Int) (walletType : BlindBoxRewardWalletType) : Tight (rewardKey openRecordID walletType) := by
  obtain ⟨rest, key⟩ := reward_key_front openRecordID walletType
  have head : SolidHead (rewardKey openRecordID walletType) := key ▸ solid_head_append _ _ (by decide)
  have last : SolidLast walletType.text := by cases walletType <;> decide
  exact ⟨head, solid_last_append _ _ last⟩

end Keys

-- A hold that was opened a moment ago and is settled: its row is closed.
theorem settled_hold (env : LedgerEnv) (create : CreateReservationParams) (settle : SettleReservationParams) (ledger middle after : Ledger)
    (reservation : BillingReservation) (settlement : BillingSettlement) (sound : Sound ledger) (held : Held ledger create reservation middle)
    (created : createReservationTx env create ledger = (.ok reservation, middle)) (names : settle.reservationID = reservation.reservationID)
    (settled : settleReservationTx env settle middle = (.ok settlement, after)) :
    { reservation with status := .settled } ∈ after.reservations.rows := by
  have middleSound := sound.effect (create_effect env create ledger middle reservation created)
  have member : reservation ∈ middle.reservations.rows := by simp [held.reservations]
  obtain ⟨reservationID, now, opened⟩ := held.opened
  have isOpen := (middleSound.lifecycle.staged reservation member).opened (by simp [opened, openReservation])
  obtain ⟨_, settlementIn, _, same, _⟩ | ⟨current, currentIn, settledRow⟩ := settled_of_settle env settle middle after settlement settled
  · have listed : settlement ∈ settlementRows middle reservation.reservationID := by
      simp [settlementRows, settlementIn, same, names]
    simp [isOpen.unsettled] at listed
  · have isCurrent : current = reservation := Table.eq_of_clash middle.reservations current reservation currentIn member
      (clash_of_reservation_id _ _ (settledRow.named.trans names))
    exact isCurrent ▸ settledRow.reservations.new_mem

structure WalletCharged (ledger : Ledger) (userID amount : Int) (requestID : String) (after : Ledger) : Prop where
  later : Later ledger after
  charged : Charged after userID amount requestID
  entries : ∀ entry ∈ after.entries.rows, entry ∈ ledger.entries.rows ∨ entry.idempotencyKey = purchaseEntryKey requestID ∨
    Foreign entry.idempotencyKey
  reservations : ∀ reservation ∈ after.reservations.rows,
    (∃ old ∈ ledger.reservations.rows, old.idempotencyKey = reservation.idempotencyKey) ∨
      reservation.idempotencyKey = purchaseHoldKey requestID

theorem wallet_charged (env : WalletEnv) (userID amount : Int) (requestID reasonCode : String) (wallet after : Wallet)
    (ran : debitClaudeWalletQuotaAmountTx env userID amount (purchaseOperation requestID) reasonCode wallet = (.ok (), after))
    (solid : SolidLast requestID) (sound : Sound wallet.ledger)
    (unused : ∀ reservation ∈ wallet.ledger.reservations.rows, reservation.idempotencyKey ≠ purchaseHoldKey requestID) :
    0 < amount ∧ WalletCharged wallet.ledger userID amount requestID after.ledger := by
  obtain ⟨account, mirror, held, spent, reservation, settlement, debited⟩ := wallet_debited env _ _ _ _ _ _ ran
  have moves := debited.moves
  obtain ⟨drawn, final⟩ := debited.ledger
  have holdKey : (debitHold env account.accountID amount (purchaseOperation requestID)).idempotencyKey = purchaseHoldKey requestID :=
    hold_key_joined requestID
  have trimmed : trimSpace (debitHold env account.accountID amount (purchaseOperation requestID)).idempotencyKey = purchaseHoldKey requestID :=
    (congrArg trimSpace holdKey).trans (trim_space_tight _ (tight_hold_key requestID solid))
  have holding : Held mirror (debitHold env account.accountID amount (purchaseOperation requestID)) reservation held := by
    rcases held_of_create _ _ _ _ _ debited.hold with ⟨_, known, key, _⟩ | fresh
    · rw [debited.mirrored.reservations] at known
      exact (unused reservation known (key.trans holdKey)).elim
    · exact fresh
  obtain ⟨entry, posted, line⟩ := holding.posted
  have opened : Later held after.ledger := by
    rw [final]
    exact later_of_moves (.cons (settle_effect _ _ _ _ _ debited.settle) (.unmoved (.tick 0) (.drawn spent drawn)))
  have closed := settled_hold env.toLedgerEnv _ _ _ _ _ _ _ (debited.mirrored.moves.sound sound) holding debited.hold rfl debited.settle
  obtain ⟨reservationID, now, row⟩ := holding.opened
  have entryIn : entry ∈ held.entries.rows := by simp [posted.entries]
  have accountIn : account ∈ held.accounts.rows := by rw [posted.accounts]; exact debited.mirrored.member
  refine ⟨debited.positive, later_of_moves moves, ⟨account, opened.accounts account accountIn, debited.mirrored.owner,
    ⟨entry, opened.survives.entries entry entryIn, ?_, line.account, line.kind, line.amount⟩,
    { reservation with status := .settled }, ?_, ?_, ?_, ?_, rfl⟩, fun other otherIn => ?_, fun other otherIn => ?_⟩
  · exact line.key.trans ((congrArg (fun text => "entry:" ++ text) trimmed).trans (entry_key_joined requestID))
  · rw [final]
    exact closed
  · rw [row]
    exact trimmed
  · rw [row]
    rfl
  · rw [row]
    rfl
  · rcases moves.entry_key other otherIn with old | ⟨op, opIn, key⟩
    · exact .inl old
    · refine .inr ?_
      simp only [List.mem_cons, List.not_mem_nil, or_false] at opIn
      rcases opIn with rfl | rfl | rfl | rfl | rfl
      · simp [LedgerOp.entryKeys] at key
      · rw [LedgerOp.entryKeys, List.mem_singleton] at key
        exact .inr (key ▸ foreign_mirror _ _ _)
      · rw [LedgerOp.entryKeys, List.mem_singleton] at key
        exact .inl (key.trans ((congrArg (fun text => "entry:" ++ text) trimmed).trans (entry_key_joined requestID)))
      · rw [LedgerOp.entryKeys, List.mem_singleton] at key
        exact .inr (key ▸ foreign_settle _)
      · simp [LedgerOp.entryKeys] at key
  · rcases moves.reservation_key other otherIn with old | ⟨op, opIn, key⟩
    · exact .inl old
    · refine .inr ?_
      simp only [List.mem_cons, List.not_mem_nil, or_false] at opIn
      rcases opIn with rfl | rfl | rfl | rfl | rfl
      · simp [LedgerOp.reservationKeys] at key
      · simp [LedgerOp.reservationKeys] at key
      · rw [LedgerOp.reservationKeys, List.mem_singleton] at key
        exact key.trans trimmed
      · simp [LedgerOp.reservationKeys] at key
      · simp [LedgerOp.reservationKeys] at key

structure WalletRewarded (ledger : Ledger) (userID amount openRecordID : Int) (walletType : BlindBoxRewardWalletType) (after : Ledger) : Prop where
  later : Later ledger after
  rewarded : Rewarded after userID amount openRecordID walletType
  entries : ∀ entry ∈ after.entries.rows, entry ∈ ledger.entries.rows ∨ entry.idempotencyKey = rewardKey openRecordID walletType ∨
    Foreign entry.idempotencyKey
  reservations : after.reservations = ledger.reservations

theorem wallet_rewarded (env : WalletEnv) (userID amount openRecordID : Int) (walletType : BlindBoxRewardWalletType) (reasonCode : String)
    (wallet after : Wallet) (ran : creditUserWalletQuotaTx env userID amount (rewardKey openRecordID walletType) reasonCode wallet = (.ok (), after)) :
    WalletRewarded wallet.ledger userID amount openRecordID walletType after.ledger := by
  simp only [creditUserWalletQuotaTx, Tx.ran_bind, Tx.ran_reject] at ran
  obtain ⟨_, _, ⟨_, rfl⟩, _, _, ⟨_, rfl⟩, _, _, ⟨_, rfl⟩, credit⟩ := ran
  obtain ⟨account, credited⟩ := wallet_credited env _ _ _ _ credit fun _ middle final ran => projected_update _ _ middle final ran
  have trimmed : trimSpace (rewardKey openRecordID walletType) = rewardKey openRecordID walletType :=
    trim_space_tight _ (tight_reward_key openRecordID walletType)
  obtain ⟨entry, entryIn, accountID, kind, amountPaid, key⟩ := credited.entry
  refine ⟨later_of_moves credited.moves, ⟨account, credited.member, credited.owner, entry, entryIn, ?_, accountID, kind, amountPaid⟩, fun other otherIn => ?_,
    credited.reservations⟩
  · exact key.elim id fun key => key.trans trimmed
  · rcases credited.moves.entry_key other otherIn with old | ⟨op, opIn, key⟩
    · exact .inl old
    · refine .inr ?_
      simp only [List.mem_cons, List.not_mem_nil, or_false] at opIn
      rcases opIn with rfl | rfl | rfl | rfl
      · simp [LedgerOp.entryKeys] at key
      · rw [LedgerOp.entryKeys, List.mem_singleton] at key
        exact .inr (key ▸ foreign_mirror _ _ _)
      · rw [LedgerOp.entryKeys, List.mem_singleton] at key
        exact .inl (key.trans trimmed)
      · simp [LedgerOp.entryKeys] at key

end CodeGo.BlindBox
