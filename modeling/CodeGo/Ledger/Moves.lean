import CodeGo.Ledger.Idempotency

set_option autoImplicit false

namespace CodeGo.Billing

open Relational Text

/- The ledger is also written from inside the transactions of the wallet and the marketplace.
   What such a transaction does to it is a sequence of effects of known operations. -/

inductive Moves : List LedgerOp → Ledger → Ledger → Prop where
  | nil (ledger : Ledger) : Moves [] ledger ledger
  | cons {op : LedgerOp} {ops : List LedgerOp} {ledger middle after : Ledger} (first : Effect ledger middle op)
      (rest : Moves ops middle after) : Moves (op :: ops) ledger after

theorem Moves.single {op : LedgerOp} {ledger after : Ledger} (effect : Effect ledger after op) : Moves [op] ledger after :=
  .cons effect (.nil after)

theorem Moves.append {first second : List LedgerOp} {ledger middle after : Ledger} (early : Moves first ledger middle)
    (late : Moves second middle after) : Moves (first ++ second) ledger after := by
  induction early with
  | nil ledger => exact late
  | cons effect _ ih => exact .cons effect (ih late)

-- What every effect keeps, a sequence of effects keeps.
theorem Moves.keeps (kept : Ledger → Prop) (keeps : ∀ ledger after op, Effect ledger after op → kept ledger → kept after)
    {ops : List LedgerOp} {ledger after : Ledger} (moves : Moves ops ledger after) (begins : kept ledger) : kept after := by
  induction moves with
  | nil ledger => exact begins
  | cons effect _ ih => exact ih (keeps _ _ _ effect begins)

-- The invariants of the ledger that hold whatever larger operation drives it.
structure Sound (ledger : Ledger) : Prop where
  lifecycle : Lifecycle ledger
  solvent : Solvent ledger
  trimmed : Trimmed ledger

theorem Sound.effect {ledger after : Ledger} {op : LedgerOp} (sound : Sound ledger) (effect : Effect ledger after op) : Sound after :=
  ⟨sound.lifecycle.effect effect, sound.solvent.effect sound.lifecycle effect, sound.trimmed.effect effect⟩

theorem Moves.sound {ops : List LedgerOp} {ledger after : Ledger} (moves : Moves ops ledger after) (sound : Sound ledger) : Sound after :=
  moves.keeps Sound (fun _ _ _ effect kept => kept.effect effect) sound

theorem sound_empty : Sound Ledger.empty := ⟨lifecycle_empty, solvent_empty, by simp [Ledger.empty], by simp [Ledger.empty]⟩

theorem sound_run (env : LedgerEnv) (ops : List LedgerOp) : Sound (run (step env) Ledger.empty ops) :=
  ⟨lifecycle_run env ops, solvent_run env ops, trimmed_run env ops⟩

theorem Moves.extends {ops : List LedgerOp} {ledger after : Ledger} (moves : Moves ops ledger after) : Extends ledger after :=
  moves.keeps (Extends ledger) (fun _ _ _ effect kept => kept.trans effect.extends) (.refl ledger)

theorem Effect.accounts {ledger after : Ledger} {op : LedgerOp} (effect : Effect ledger after op) :
    ∃ opened, after.accounts.rows = ledger.accounts.rows ++ opened := by
  cases effect with
  | unmoved _ same => exact same.accounts
  | audited params entry audited => exact ⟨[], by simp [audited.accounts]⟩
  | credited params entry credited => exact ⟨[], by simp [credited.posted.accounts]⟩
  | held params reservation held =>
      obtain ⟨entry, posted, _⟩ := held.posted
      exact ⟨[], by simp [posted.accounts]⟩
  | raised params current raised =>
      obtain ⟨entry, posted, _⟩ := raised.posted
      exact ⟨[], by simp [posted.accounts]⟩
  | released params current released =>
      obtain ⟨entry, posted, _⟩ := released.posted
      exact ⟨[], by simp [posted.accounts]⟩
  | dropped params current dropped => exact ⟨[], by simp [dropped.accounts]⟩
  | settled params current settlement settled =>
      obtain ⟨entries, posted, _⟩ := settled.posted
      exact ⟨[], by simp [posted.accounts]⟩
  | adjusted params entry _ adjusted => exact ⟨[], by simp [adjusted.posted.accounts]⟩

theorem Moves.accounts {ops : List LedgerOp} {ledger after : Ledger} (moves : Moves ops ledger after) (account : BillingAccount)
    (member : account ∈ ledger.accounts.rows) : account ∈ after.accounts.rows := by
  refine moves.keeps (fun state => account ∈ state.accounts.rows) (fun _ _ _ effect kept => ?_) member
  obtain ⟨opened, appended⟩ := effect.accounts
  simp [appended, kept]

-- The keys an operation may put into the two tables.
def LedgerOp.entryKeys : LedgerOp → List String
  | .recordAdjustment params => [params.idempotencyKey]
  | .creditAccount params => [trimSpace params.idempotencyKey]
  | .createReservation params => ["entry:" ++ trimSpace params.idempotencyKey]
  | .increaseReservation params => [trimSpace params.idempotencyKey]
  | .releaseReservation params => [trimSpace params.idempotencyKey]
  | .settleReservation params => ["entry:" ++ trimSpace params.idempotencyKey]
  | .adjustAvailableBalance params => [trimSpace params.idempotencyKey]
  | _ => []

def LedgerOp.reservationKeys : LedgerOp → List String
  | .createReservation params => [trimSpace params.idempotencyKey]
  | _ => []

theorem Effect.entry_key {ledger after : Ledger} {op : LedgerOp} (effect : Effect ledger after op) (entry : BillingLedgerEntry)
    (member : entry ∈ after.entries.rows) : entry ∈ ledger.entries.rows ∨ entry.idempotencyKey ∈ op.entryKeys := by
  cases effect with
  | unmoved _ same => exact .inl (by rwa [same.entries] at member)
  | audited params row audited =>
      rw [audited.entries, List.mem_append, List.mem_singleton] at member
      exact member.imp_right fun same => by simp [same, LedgerOp.entryKeys, audited.key]
  | credited params row credited =>
      rw [credited.posted.entries, List.mem_append, List.mem_singleton] at member
      exact member.imp_right fun same => by simp [same, LedgerOp.entryKeys, credited.line.key]
  | held params reservation held =>
      obtain ⟨row, posted, line⟩ := held.posted
      rw [posted.entries, List.mem_append, List.mem_singleton] at member
      exact member.imp_right fun same => by simp [same, LedgerOp.entryKeys, line.key]
  | raised params current raised =>
      obtain ⟨row, posted, line⟩ := raised.posted
      rw [posted.entries, List.mem_append, List.mem_singleton] at member
      exact member.imp_right fun same => by simp [same, LedgerOp.entryKeys, line.key]
  | released params current released =>
      obtain ⟨row, posted, line⟩ := released.posted
      rw [posted.entries, List.mem_append, List.mem_singleton] at member
      exact member.imp_right fun same => by simp [same, LedgerOp.entryKeys, line.key]
  | dropped params current dropped => exact .inl (by rwa [dropped.entries] at member)
  | settled params current settlement settled =>
      obtain ⟨entries, posted, shape⟩ := settled.posted
      obtain ⟨settlementID, settledAt, completed⟩ := settled.completed
      rw [posted.entries, List.mem_append] at member
      rcases member with old | new
      · exact .inl old
      · rcases shape with ⟨_, rfl⟩ | ⟨_, row, _, _, _, rfl, rfl⟩
        · simp at new
        · rw [List.mem_singleton] at new
          exact .inr (by simp [new, LedgerOp.entryKeys, settlementEntry, completed])
  | adjusted params row _ adjusted =>
      rw [adjusted.posted.entries, List.mem_append, List.mem_singleton] at member
      exact member.imp_right fun same => by simp [same, LedgerOp.entryKeys, adjusted.line.key]

theorem key_of_replaced {reservations next : Table BillingReservation} {old new : BillingReservation}
    (replaced : Table.Replaced reservations next old new) (sameKey : new.idempotencyKey = old.idempotencyKey)
    (reservation : BillingReservation) (member : reservation ∈ next.rows) :
    ∃ before ∈ reservations.rows, before.idempotencyKey = reservation.idempotencyKey := by
  rcases replaced.mem reservation member with rfl | ⟨kept, _⟩
  · exact ⟨old, replaced.old_mem, sameKey.symm⟩
  · exact ⟨reservation, kept, rfl⟩

theorem Effect.reservation_key {ledger after : Ledger} {op : LedgerOp} (effect : Effect ledger after op) (reservation : BillingReservation)
    (member : reservation ∈ after.reservations.rows) :
    (∃ before ∈ ledger.reservations.rows, before.idempotencyKey = reservation.idempotencyKey) ∨
      reservation.idempotencyKey ∈ op.reservationKeys := by
  cases effect with
  | unmoved _ same => exact .inl ⟨reservation, by rwa [same.reservations] at member, rfl⟩
  | audited params row audited => exact .inl ⟨reservation, by rwa [audited.reservations] at member, rfl⟩
  | credited params row credited => exact .inl ⟨reservation, by rwa [credited.reservations] at member, rfl⟩
  | held params created held =>
      rw [held.reservations, List.mem_append, List.mem_singleton] at member
      rcases member with old | rfl
      · exact .inl ⟨reservation, old, rfl⟩
      · obtain ⟨reservationID, now, rfl⟩ := held.opened
        exact .inr (by simp [LedgerOp.reservationKeys, openReservation])
  | raised params current raised => exact .inl (key_of_replaced raised.reservations rfl reservation member)
  | released params current released => exact .inl (key_of_replaced released.reservations rfl reservation member)
  | dropped params current dropped => exact .inl (key_of_replaced dropped.reservations rfl reservation member)
  | settled params current settlement settled => exact .inl (key_of_replaced settled.reservations rfl reservation member)
  | adjusted params row _ adjusted => exact .inl ⟨reservation, by rwa [adjusted.reservations] at member, rfl⟩

-- Only settling a reservation writes a settlement.
theorem Effect.settlement_origin {ledger after : Ledger} {op : LedgerOp} (effect : Effect ledger after op) (settlement : BillingSettlement)
    (member : settlement ∈ after.settlements.rows) :
    settlement ∈ ledger.settlements.rows ∨ ∃ params, op = .settleReservation params ∧ settlement.actualAmount = params.actualAmount := by
  cases effect with
  | unmoved _ same => exact .inl (by rwa [same.settlements] at member)
  | audited params row audited => exact .inl (by rwa [audited.settlements] at member)
  | credited params row credited => exact .inl (by rwa [credited.settlements] at member)
  | held params created held => exact .inl (by rwa [held.settlements] at member)
  | raised params current raised => exact .inl (by rwa [raised.settlements] at member)
  | released params current released => exact .inl (by rwa [released.settlements] at member)
  | dropped params current dropped => exact .inl (by rwa [dropped.settlements] at member)
  | settled params current row settled =>
      rw [settled.settlements, List.mem_append, List.mem_singleton] at member
      obtain ⟨settlementID, settledAt, completed⟩ := settled.completed
      exact member.imp_right fun same => ⟨params, rfl, by simp [same, completed]⟩
  | adjusted params row _ adjusted => exact .inl (by rwa [adjusted.settlements] at member)

theorem Moves.entry_key {ops : List LedgerOp} {ledger after : Ledger} (moves : Moves ops ledger after) (entry : BillingLedgerEntry)
    (member : entry ∈ after.entries.rows) : entry ∈ ledger.entries.rows ∨ ∃ op ∈ ops, entry.idempotencyKey ∈ op.entryKeys := by
  induction moves with
  | nil ledger => exact .inl member
  | cons effect _ ih =>
      rcases ih member with before | ⟨op, opIn, key⟩
      · exact (effect.entry_key entry before).imp_right fun key => ⟨_, by simp, key⟩
      · exact .inr ⟨op, by simp [opIn], key⟩

theorem Moves.reservation_key {ops : List LedgerOp} {ledger after : Ledger} (moves : Moves ops ledger after)
    (reservation : BillingReservation) (member : reservation ∈ after.reservations.rows) :
    (∃ before ∈ ledger.reservations.rows, before.idempotencyKey = reservation.idempotencyKey) ∨
      ∃ op ∈ ops, reservation.idempotencyKey ∈ op.reservationKeys := by
  induction moves with
  | nil ledger => exact .inl ⟨reservation, member, rfl⟩
  | cons effect _ ih =>
      rcases ih member with ⟨before, beforeIn, sameKey⟩ | ⟨op, opIn, key⟩
      · rcases effect.reservation_key before beforeIn with ⟨first, firstIn, firstKey⟩ | key
        · exact .inl ⟨first, firstIn, firstKey.trans sameKey⟩
        · exact .inr ⟨_, by simp, sameKey ▸ key⟩
      · exact .inr ⟨op, by simp [opIn], key⟩

theorem Moves.settlement_origin {ops : List LedgerOp} {ledger after : Ledger} (moves : Moves ops ledger after)
    (settlement : BillingSettlement) (member : settlement ∈ after.settlements.rows) :
    settlement ∈ ledger.settlements.rows ∨ ∃ params, .settleReservation params ∈ ops ∧ settlement.actualAmount = params.actualAmount := by
  induction moves with
  | nil ledger => exact .inl member
  | cons effect _ ih =>
      rcases ih member with before | ⟨params, paramsIn, amount⟩
      · rcases effect.settlement_origin settlement before with old | ⟨params, rfl, amount⟩
        · exact .inl old
        · exact .inr ⟨params, by simp, amount⟩
      · exact .inr ⟨params, by simp [paramsIn], amount⟩

def consumeFunds (snapshot : BillingBalanceSnapshot) (amount : Int) : BillingBalanceSnapshot :=
  { snapshot with availableBalance := snapshot.availableBalance - amount, consumedTotal := snapshot.consumedTotal + amount }

@[simp] theorem consume_funds_zero (snapshot : BillingBalanceSnapshot) : consumeFunds snapshot 0 = snapshot := by
  simp [consumeFunds]

-- A hold that is settled at its full amount at once: the way the code debits an account.
structure Spent (ledger after : Ledger) (accountID : String) (amount : Int) : Prop where
  positive : 0 < amount
  covered : amount ≤ (ledger.balance accountID).availableBalance
  here : after.balance accountID = consumeFunds (ledger.balance accountID) amount
  elsewhere : ∀ other, other ≠ accountID → after.balance other = ledger.balance other
  accounts : after.accounts = ledger.accounts

theorem settle_funds_exact (snapshot : BillingBalanceSnapshot) (amount : Int) :
    settleFunds (holdFunds snapshot amount) amount amount = consumeFunds snapshot amount := by
  simp [settleFunds, holdFunds, consumeFunds]

theorem settlement_of_settle (env : LedgerEnv) (params : SettleReservationParams) (ledger after : Ledger) (settlement : BillingSettlement)
    (ran : settleReservationTx env params ledger = (.ok settlement, after)) :
    settlement ∈ after.settlements.rows ∧
      (settlement.idempotencyKey = params.idempotencyKey ∨ settlement.idempotencyKey = trimSpace params.idempotencyKey) := by
  obtain ⟨rfl, member, key, _⟩ | ⟨current, _, settled⟩ := settled_of_settle env params ledger after settlement ran
  · exact ⟨member, .inl key⟩
  · obtain ⟨settlementID, settledAt, completed⟩ := settled.completed
    exact ⟨by simp [settled.settlements], .inr (by simp [completed])⟩

theorem spent_of_create_settle (env : LedgerEnv) (create : CreateReservationParams) (settle : SettleReservationParams)
    (ledger middle after : Ledger) (reservation : BillingReservation) (settlement : BillingSettlement) (sound : Sound ledger)
    (unused : ∀ row ∈ ledger.reservations.rows, row.idempotencyKey ≠ create.idempotencyKey)
    (created : createReservationTx env create ledger = (.ok reservation, middle)) (names : settle.reservationID = reservation.reservationID)
    (full : settle.actualAmount = create.reservedAmount) (settled : settleReservationTx env settle middle = (.ok settlement, after)) :
    Spent ledger after create.accountID create.reservedAmount := by
  obtain ⟨_, member, key, _⟩ | held := held_of_create env create ledger middle reservation created
  · exact (unused reservation member key).elim
  have middleSound := sound.effect (create_effect env create ledger middle reservation created)
  have member : reservation ∈ middle.reservations.rows := by simp [held.reservations]
  obtain ⟨reservationID, now, opened⟩ := held.opened
  have isOpen := (middleSound.lifecycle.staged reservation member).opened (by simp [opened, openReservation])
  obtain ⟨_, settlementIn, _, same, _⟩ | ⟨current, currentIn, settledRow⟩ := settled_of_settle env settle middle after settlement settled
  · -- A settlement of a reservation opened a moment ago cannot exist.
    have listed : settlement ∈ settlementRows middle reservation.reservationID := by
      simp [settlementRows, settlementIn, same, names]
    simp [isOpen.unsettled] at listed
  · have isCurrent : current = reservation := Table.eq_of_clash middle.reservations current reservation currentIn member
      (clash_of_reservation_id _ _ (settledRow.named.trans names))
    subst isCurrent
    have account : current.accountID = create.accountID := by simp [opened, openReservation]
    have amount : current.reservedAmount = create.reservedAmount := by simp [opened, openReservation]
    obtain ⟨entry, holdPosted, _⟩ := held.posted
    obtain ⟨entries, settlePosted, _⟩ := settledRow.posted
    have holdHere : middle.balance create.accountID = holdFunds (ledger.balance create.accountID) create.reservedAmount := by
      rw [holdPosted.balance, if_pos (by simp [holdFunds])]
    refine ⟨held.positive, held.covered, ?_, fun other different => ?_, settlePosted.accounts.trans holdPosted.accounts⟩
    · rw [settlePosted.balance, account, amount, full, settle_funds_account, ledger_balance_account, if_pos rfl, holdHere]
      exact settle_funds_exact (ledger.balance create.accountID) create.reservedAmount
    · rw [settlePosted.balance, account, settle_funds_account, ledger_balance_account, if_neg different, holdPosted.balance]
      simp [holdFunds, different]

end CodeGo.Billing
