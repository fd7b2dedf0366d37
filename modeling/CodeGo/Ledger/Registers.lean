import CodeGo.Ledger.Idempotency
import CodeGo.Lib.Int64
import CodeGo.Lib.Trace
import Mathlib.Data.Fintype.Basic

set_option autoImplicit false

namespace CodeGo.Billing

open Relational Text Machine

/- The five columns of a balance are int64 registers. Every write adds to each of them at
   most once, so a register holds the exact sum or that sum wrapped. -/

def register (snapshot : BillingBalanceSnapshot) : BillingBalanceSnapshot :=
  { snapshot with
    availableBalance := wrap snapshot.availableBalance
    reservedBalance := wrap snapshot.reservedBalance
    consumedTotal := wrap snapshot.consumedTotal
    refundedTotal := wrap snapshot.refundedTotal
    grantedTotal := wrap snapshot.grantedTotal }

theorem register_index (snapshot : BillingBalanceSnapshot) : Indexed.index (register snapshot) = Indexed.index snapshot := rfl

def registers (ledger : Ledger) : Ledger :=
  { ledger with snapshots := ledger.snapshots.update (fun _ => true) register register_index }

def columnStep (env : LedgerEnv) (ledger : Ledger) (op : LedgerOp) : Ledger := registers (step env ledger op)

-- A balance whose columns are neither negative nor past the largest int64.
structure Bounded (snapshot : BillingBalanceSnapshot) : Prop where
  available : 0 ≤ snapshot.availableBalance ∧ snapshot.availableBalance ≤ maxInt64
  reserved : 0 ≤ snapshot.reservedBalance ∧ snapshot.reservedBalance ≤ maxInt64
  consumed : 0 ≤ snapshot.consumedTotal ∧ snapshot.consumedTotal ≤ maxInt64
  refunded : 0 ≤ snapshot.refundedTotal ∧ snapshot.refundedTotal ≤ maxInt64
  granted : 0 ≤ snapshot.grantedTotal ∧ snapshot.grantedTotal ≤ maxInt64

def Fits (ledger : Ledger) : Prop := ∀ accountID, Bounded (ledger.balance accountID)

-- More has come into the account than one register holds: funds at hand, on hold and spent.
def Crowded (snapshot : BillingBalanceSnapshot) : Prop :=
  maxInt64 < snapshot.availableBalance + snapshot.reservedBalance + snapshot.consumedTotal

instance (snapshot : BillingBalanceSnapshot) : Decidable (Crowded snapshot) := inferInstanceAs (Decidable (_ < _))

def FreshEntry (ledger : Ledger) (key : String) : Prop := ∀ row ∈ ledger.entries.rows, row.idempotencyKey ≠ trimSpace key

instance (ledger : Ledger) (key : String) : Decidable (FreshEntry ledger key) := inferInstanceAs (Decidable (∀ _ ∈ _, _))

-- The guard of a credit, put before each addition that has none. What is given back to the
-- available balance or counted as refunded needs room; the rest needs it on crowded accounts.
def Roomy (ledger : Ledger) : LedgerOp → Prop
  | .createReservation params =>
      0 < params.reservedAmount → params.reservedAmount ≤ (ledger.balance params.accountID).availableBalance →
      (∀ row ∈ ledger.reservations.rows, row.idempotencyKey ≠ trimSpace params.idempotencyKey) →
      Crowded (ledger.balance params.accountID) → (ledger.balance params.accountID).reservedBalance ≤ maxInt64 - params.reservedAmount
  | .increaseReservation params =>
      ∀ current ∈ ledger.reservations.rows, current.reservationID = params.reservationID → current.status = .opened →
        0 < params.amount → params.amount ≤ (ledger.balance current.accountID).availableBalance → FreshEntry ledger params.idempotencyKey →
        Crowded (ledger.balance current.accountID) → (ledger.balance current.accountID).reservedBalance ≤ maxInt64 - params.amount
  | .releaseReservation params =>
      ∀ current ∈ ledger.reservations.rows, current.reservationID = params.reservationID → current.status = .opened →
        FreshEntry ledger params.idempotencyKey → Crowded (ledger.balance current.accountID) →
        (ledger.balance current.accountID).availableBalance ≤ maxInt64 - current.reservedAmount
  | .settleReservation params =>
      ∀ current ∈ ledger.reservations.rows, current.reservationID = params.reservationID → current.status = .opened →
        0 ≤ params.actualAmount → params.actualAmount - current.reservedAmount ≤ (ledger.balance current.accountID).availableBalance →
        (∀ row ∈ ledger.settlements.rows, row.idempotencyKey ≠ trimSpace params.idempotencyKey) →
        (params.actualAmount < current.reservedAmount →
          (ledger.balance current.accountID).refundedTotal ≤ maxInt64 - (current.reservedAmount - params.actualAmount)) ∧
        (Crowded (ledger.balance current.accountID) →
          (ledger.balance current.accountID).availableBalance ≤ maxInt64 - (current.reservedAmount - params.actualAmount) ∧
            (ledger.balance current.accountID).consumedTotal ≤ maxInt64 - params.actualAmount)
  | .adjustAvailableBalance params =>
      FreshEntry ledger params.idempotencyKey →
      (params.usageAmount < 0 →
        (ledger.balance params.accountID).availableBalance ≤ maxInt64 - -params.usageAmount ∧
          (ledger.balance params.accountID).refundedTotal ≤ maxInt64 - -params.usageAmount) ∧
      (params.usageAmount ≤ (ledger.balance params.accountID).availableBalance → Crowded (ledger.balance params.accountID) →
        (ledger.balance params.accountID).consumedTotal ≤ maxInt64 - params.usageAmount)
  | _ => True

instance (ledger : Ledger) (op : LedgerOp) : Decidable (Roomy ledger op) := by
  cases op <;> unfold Roomy <;> infer_instance

section Posting

variable {ledger after : Ledger}

theorem Fits.posted (fits : Fits ledger) {balance : BillingBalanceSnapshot} {entries : List BillingLedgerEntry}
    (posted : Posted ledger after balance entries) (bounded : Bounded balance) : Fits after := by
  intro accountID
  rw [posted.balance]
  split
  · exact bounded
  · exact fits accountID

theorem Fits.same (fits : Fits ledger) (balances : ∀ accountID, after.balance accountID = ledger.balance accountID) : Fits after := by
  intro accountID
  rw [balances]
  exact fits accountID

-- The new entry's key was on no row before.
theorem fresh_entry_of_posted {balance : BillingBalanceSnapshot} {entry : BillingLedgerEntry} (posted : Posted ledger after balance [entry])
    (key : String) (same : entry.idempotencyKey = trimSpace key) : FreshEntry ledger key := by
  intro row member
  rw [← same]
  exact entry_key_fresh ledger after entry row posted.entries member

theorem Bounded.hold {snapshot : BillingBalanceSnapshot} (bounded : Bounded snapshot) {amount : Int} (positive : 0 < amount)
    (covered : amount ≤ snapshot.availableBalance) (room : Crowded snapshot → snapshot.reservedBalance ≤ maxInt64 - amount) :
    Bounded (holdFunds snapshot amount) := by
  obtain ⟨available, reserved, consumed, refunded, granted⟩ := bounded
  have fits : snapshot.reservedBalance ≤ maxInt64 - amount := by
    by_cases crowded : Crowded snapshot
    · exact room crowded
    · rw [Crowded] at crowded
      omega
  constructor <;> simp only [holdFunds] <;> omega

theorem Bounded.free {snapshot : BillingBalanceSnapshot} (bounded : Bounded snapshot) {amount : Int} (positive : 0 < amount)
    (covered : amount ≤ snapshot.reservedBalance) (room : Crowded snapshot → snapshot.availableBalance ≤ maxInt64 - amount) :
    Bounded (freeFunds snapshot amount) := by
  obtain ⟨available, reserved, consumed, refunded, granted⟩ := bounded
  have fits : snapshot.availableBalance ≤ maxInt64 - amount := by
    by_cases crowded : Crowded snapshot
    · exact room crowded
    · rw [Crowded] at crowded
      omega
  constructor <;> simp only [freeFunds] <;> omega

theorem Bounded.settle {snapshot : BillingBalanceSnapshot} (bounded : Bounded snapshot) {held actual : Int} (nonneg : 0 ≤ actual)
    (covered : held ≤ snapshot.reservedBalance) (positive : 0 < held) (affordable : actual - held ≤ snapshot.availableBalance)
    (room : actual < held → snapshot.refundedTotal ≤ maxInt64 - (held - actual))
    (crowd : Crowded snapshot → snapshot.availableBalance ≤ maxInt64 - (held - actual) ∧ snapshot.consumedTotal ≤ maxInt64 - actual) :
    Bounded (settleFunds snapshot held actual) := by
  obtain ⟨available, reserved, consumed, refunded, granted⟩ := bounded
  have fits : snapshot.availableBalance ≤ maxInt64 - (held - actual) ∧ snapshot.consumedTotal ≤ maxInt64 - actual := by
    by_cases crowded : Crowded snapshot
    · exact crowd crowded
    · rw [Crowded] at crowded
      omega
  constructor
  · rw [settle_funds_available]
    omega
  · rw [settle_funds_reserved]
    omega
  · rw [settle_funds_consumed]
    omega
  · rw [settle_funds_refunded]
    by_cases given : actual < held
    · have enough := room given
      rw [if_pos (by omega)]
      omega
    · rw [if_neg (by omega)]
      omega
  · rw [settle_funds_granted]
    omega

theorem Bounded.adjust {snapshot : BillingBalanceSnapshot} (bounded : Bounded snapshot) {usage : Int}
    (affordable : usage ≤ 0 ∨ usage ≤ snapshot.availableBalance)
    (room : usage < 0 → snapshot.availableBalance ≤ maxInt64 - -usage ∧ snapshot.refundedTotal ≤ maxInt64 - -usage)
    (crowd : usage ≤ snapshot.availableBalance → Crowded snapshot → snapshot.consumedTotal ≤ maxInt64 - usage) :
    Bounded (adjustFunds snapshot usage) := by
  obtain ⟨available, reserved, consumed, refunded, granted⟩ := bounded
  rw [adjustFunds]
  split
  · rename_i spent
    have fits : snapshot.consumedTotal ≤ maxInt64 - usage := by
      by_cases crowded : Crowded snapshot
      · exact crowd (by omega) crowded
      · rw [Crowded] at crowded
        omega
    constructor <;> dsimp only <;> omega
  · have fits : snapshot.availableBalance ≤ maxInt64 - -usage ∧ snapshot.refundedTotal ≤ maxInt64 - -usage := by
      by_cases given : usage < 0
      · exact room given
      · omega
    constructor <;> dsimp only <;> omega

theorem Bounded.credit {snapshot : BillingBalanceSnapshot} (bounded : Bounded snapshot) {amount : Int} (positive : 0 < amount)
    (room : snapshot.availableBalance ≤ maxInt64 - amount ∧ snapshot.grantedTotal ≤ maxInt64 - amount) : Bounded (creditFunds snapshot amount) := by
  obtain ⟨available, reserved, consumed, refunded, granted⟩ := bounded
  constructor <;> simp only [creditFunds] <;> omega

-- A credit that was posted has passed the guard.
theorem credit_room (env : LedgerEnv) (params : CreditAccountParams) (entry : BillingLedgerEntry)
    (credited : Credited ledger params entry (step env ledger (.creditAccount params))) :
    (ledger.balance params.accountID).availableBalance ≤ maxInt64 - params.amount ∧
      (ledger.balance params.accountID).grantedTotal ≤ maxInt64 - params.amount := by
  cases answer : (transact env (.creditAccount params) ledger).1 with
  | error problem =>
      have appended := credited.posted.entries
      rw [failed_step env ledger _ problem answer] at appended
      simp at appended
  | ok result =>
      have ran : execute env (.creditAccount params) ledger = (.ok result, step env ledger (.creditAccount params)) :=
        (Tx.ran_atomic _ _ _ _).mp (Prod.ext answer rfl)
      have unseen : ledger.entries.find? (fun row => row.idempotencyKey = params.idempotencyKey) = none := by
        rw [Table.find?_eq_none_iff]
        intro row member
        exact decide_eq_false (credited.unknown row member)
      simp only [execute, creditAccountTx, findLedgerEntryByIdempotency, Tx.ran_bind, Tx.ran_reject, Tx.ran_view] at ran
      obtain ⟨_, _, ⟨_, _, ⟨_, rfl⟩, _, _, ⟨rfl, rfl⟩, ran⟩, _⟩ := ran
      simp only [unseen, Tx.ran_bind, Tx.ran_reject] at ran
      obtain ⟨snapshot, locked, lock, _, _, ⟨guard, _⟩, _⟩ := ran
      obtain ⟨rfl, _⟩ := ran_ensure_and_lock _ _ _ _ lock
      omega

end Posting

-- One step from a state whose columns fit.
theorem fits_step (env : LedgerEnv) (ledger : Ledger) (op : LedgerOp) (solvent : Solvent ledger) (fits : Fits ledger) (roomy : Roomy ledger op) :
    Fits (step env ledger op) := by
  have effect := step_effect env ledger op
  generalize reached : step env ledger op = after at effect ⊢
  cases effect with
  | unmoved _ same => exact fits.same same.balances
  | audited params entry audited => exact fits.same audited.balances
  | credited params entry credited =>
      have room := credit_room env params entry (reached ▸ credited)
      exact fits.posted credited.posted ((fits params.accountID).credit credited.positive room)
  | held params reservation held =>
      obtain ⟨entry, posted, line⟩ := held.posted
      obtain ⟨reservationID, now, rfl⟩ := held.opened
      have fresh : ∀ row ∈ ledger.reservations.rows, row.idempotencyKey ≠ trimSpace params.idempotencyKey := by
        intro row member same
        have pairs := after.reservations.unique
        rw [held.reservations, List.pairwise_append] at pairs
        exact pairs.2.2 row member _ (List.mem_singleton_self _) (.inr same)
      exact fits.posted posted ((fits params.accountID).hold held.positive held.covered (roomy held.positive held.covered fresh))
  | raised params current raised =>
      obtain ⟨entry, posted, line⟩ := raised.posted
      have room := roomy current raised.reservations.old_mem raised.named raised.opened raised.positive raised.covered
        (fresh_entry_of_posted posted _ line.key)
      exact fits.posted posted ((fits current.accountID).hold raised.positive raised.covered room)
  | released params current released =>
      obtain ⟨entry, posted, line⟩ := released.posted
      have room := roomy current released.reservations.old_mem released.named released.opened (fresh_entry_of_posted posted _ line.key)
      exact fits.posted posted ((fits current.accountID).free (solvent.positive current released.reservations.old_mem) released.covered room)
  | dropped params current dropped => exact fits.same dropped.balances
  | settled params current settlement settled =>
      obtain ⟨entries, posted, _⟩ := settled.posted
      have available := (fits current.accountID).available
      have affordable := settled.affordable
      have fresh : ∀ row ∈ ledger.settlements.rows, row.idempotencyKey ≠ trimSpace params.idempotencyKey := by
        obtain ⟨_, _, shape⟩ := settled.completed
        intro row member same
        have pairs := after.settlements.unique
        rw [settled.settlements, List.pairwise_append] at pairs
        exact pairs.2.2 row member settlement (by simp) (.inr (.inr (same.trans (shape ▸ rfl))))
      obtain ⟨room, crowd⟩ := roomy current settled.reservations.old_mem settled.named settled.opened settled.actual (by omega) fresh
      exact fits.posted posted ((fits current.accountID).settle settled.actual settled.covered
        (solvent.positive current settled.reservations.old_mem) (by omega) room crowd)
  | adjusted params entry _ adjusted =>
      obtain ⟨room, crowd⟩ := roomy (fresh_entry_of_posted adjusted.posted _ adjusted.line.key)
      exact fits.posted adjusted.posted ((fits params.accountID).adjust adjusted.affordable room crowd)

theorem fits_rows {ledger : Ledger} (fits : Fits ledger) : ∀ row ∈ ledger.snapshots.rows, Bounded row := by
  intro row member
  have bounded := fits row.accountID
  rwa [Ledger.balance, balance_of_mem ledger.snapshots row member] at bounded

theorem register_bounded {snapshot : BillingBalanceSnapshot} (bounded : Bounded snapshot) : register snapshot = snapshot := by
  obtain ⟨available, reserved, consumed, refunded, granted⟩ := bounded
  have inside : ∀ column : Int, 0 ≤ column ∧ column ≤ maxInt64 → wrap column = column := by
    intro column bounds
    apply wrap_of_in
    simp only [maxInt64, InInt64] at bounds ⊢
    omega
  rw [register, inside _ available, inside _ reserved, inside _ consumed, inside _ refunded, inside _ granted]

-- Registers that the exact columns fit in hold them.
theorem registers_fits {ledger : Ledger} (fits : Fits ledger) : registers ledger = ledger := by
  have tables : ledger.snapshots.update (fun _ => true) register register_index = ledger.snapshots := by
    apply Table.ext
    rw [Table.rows_update]
    refine (List.map_congr_left fun row member => ?_).trans (List.map_id _)
    rw [if_pos rfl, register_bounded (fits_rows fits row member)]
    rfl
  rw [registers, tables]

def fullGrant : LedgerOp := .creditAccount { accountID := "wallet", amount := maxInt64, idempotencyKey := "grant" }

end CodeGo.Billing
