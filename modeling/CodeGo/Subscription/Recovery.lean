import CodeGo.Ledger.Progress
import CodeGo.Subscription.Maintenance

set_option autoImplicit false

namespace CodeGo.Subscription

open Relational Text Billing Machine

/- Holds that were left open: what the usage records claim is spread over them, and the
   last hold takes what the others do not cover. -/

-- Open holds of one account in a store that covers them, each with its key still free.
structure HeldOpen (env : LedgerEnv) (key : String → String) (ledger : Ledger) (accountID : String) (reservations : List BillingReservation) : Prop where
  unused : Unused env ledger
  snapshot : ledger.snapshots.find? (fun row => row.accountID = accountID) = some (ledger.balance accountID)
  account : ∀ reservation ∈ reservations, reservation.accountID = accountID
  nonneg : ∀ reservation ∈ reservations, 0 ≤ reservation.reservedAmount
  settleable : ∀ reservation ∈ reservations, Settleable ledger reservation (key reservation.reservationID)
  distinct : reservations.Nodup
  covered : reservedTotal reservations ≤ (ledger.balance accountID).reservedBalance

structure SettledEach (ledger after : Ledger) (accountID : String) (reservations : List BillingReservation) (settled : Int)
    (settlements : List BillingSettlement) : Prop where
  rows : after.settlements.rows = ledger.settlements.rows ++ settlements
  each : settlements.map BillingSettlement.reservationID = reservations.map BillingReservation.reservationID
  total : (settlements.map BillingSettlement.actualAmount).sum = settled
  early : ∀ pair ∈ (reservations.zip settlements).dropLast, pair.2.actualAmount ≤ pair.1.reservedAmount
  closed : ∀ reservation ∈ reservations, { reservation with status := .settled } ∈ after.reservations.rows
  others : ∀ row ∈ ledger.reservations.rows, row ∉ reservations → row ∈ after.reservations.rows
  available : (after.balance accountID).availableBalance =
    (ledger.balance accountID).availableBalance + reservedTotal reservations - settled

section Loop

variable {env : LedgerEnv} {key : String → String} {accountID : String} {ledger : Ledger}

-- One turn of the loop: the first hold is settled and the others still wait.
theorem HeldOpen.settle_first (keys : ∀ first second, key first = key second → first = second) {reservation : BillingReservation}
    {rest : List BillingReservation} (held : HeldOpen env key ledger accountID (reservation :: rest)) (evidenceID : String) (amount : Int)
    (nonneg : 0 ≤ amount) (affordable : amount ≤ reservation.reservedAmount + (ledger.balance accountID).availableBalance)
    (available : 0 ≤ (ledger.balance accountID).availableBalance) :
    ∃ settlement after, settleReservationTx env
        { reservationID := reservation.reservationID, usageEvidenceID := evidenceID, actualAmount := amount,
          idempotencyKey := key reservation.reservationID } ledger = (.ok settlement, after) ∧
      settlement.actualAmount = amount ∧ SettledEach ledger after accountID [reservation] amount [settlement] ∧
      HeldOpen env key after accountID rest := by
  have account : reservation.accountID = accountID := held.account reservation (by simp)
  have free := held.settleable reservation (by simp)
  have holds : 0 ≤ reservedTotal rest := by
    apply List.sum_nonneg
    rw [List.forall_mem_map]
    intro other member
    exact held.nonneg other (by simp [member])
  have covered := held.covered
  simp only [reservedTotal, List.map_cons, List.sum_cons] at covered holds
  subst account
  obtain ⟨settlement, after, ran, grown⟩ := settle_ran
    { reservationID := reservation.reservationID, usageEvidenceID := evidenceID, actualAmount := amount, idempotencyKey := key reservation.reservationID }
    held.unused free rfl nonneg held.snapshot (by omega) (by dsimp only; omega)
  have settled := settled_ran free rfl ran
  obtain ⟨entries, posted, _⟩ := settled.posted
  have balance : after.balance reservation.accountID = settleFunds (ledger.balance reservation.accountID) reservation.reservedAmount amount := by
    rw [posted.balance, if_pos (by simp)]
  have distinct := List.nodup_cons.mp held.distinct
  refine ⟨settlement, after, ran, ?_, ⟨settled.settlements, ?_, ?_, by simp, ?_, ?_, ?_⟩, ?_⟩
  · obtain ⟨_, _, rfl⟩ := settled.completed
    rfl
  · obtain ⟨_, _, rfl⟩ := settled.completed
    rfl
  · obtain ⟨_, _, rfl⟩ := settled.completed
    simp
  · simpa using settled.reservations.new_mem
  · intro row member other
    exact (settled.reservations.kept row member).resolve_left (by simpa using other)
  · rw [balance, settle_funds_available]
    simp only [reservedTotal, List.map_cons, List.map_nil, List.sum_cons, List.sum_nil]
    omega
  · refine ⟨grown.unused held.unused, grown.snapshots _ _ held.snapshot, ?_, ?_, ?_, distinct.2, ?_⟩
    · intro other member
      exact held.account other (by simp [member])
    · intro other member
      exact held.nonneg other (by simp [member])
    · intro other member
      have apart : other ≠ reservation := fun same => distinct.1 (same ▸ member)
      have waiting := held.settleable other (by simp [member])
      refine waiting.kept free settled grown apart fun same => apart ?_
      exact Table.eq_of_clash _ other reservation waiting.member free.member (.inl (keys _ _ same))
    · rw [balance, settle_funds_reserved]
      simp only [reservedTotal]
      omega

-- A hold that took no more than its own amount, put before others settled after it.
theorem SettledEach.after_first {middle after : Ledger} {reservation : BillingReservation} {settlement : BillingSettlement} {amount rest : Int}
    {reservations : List BillingReservation} {settlements : List BillingSettlement}
    (first : SettledEach ledger middle accountID [reservation] amount [settlement])
    (later : SettledEach middle after accountID reservations rest settlements) (own : settlement.actualAmount ≤ reservation.reservedAmount)
    (waiting : ∀ other ∈ reservations, other.status = .opened ∧ other ≠ reservation) (present : reservations ≠ []) :
    SettledEach ledger after accountID (reservation :: reservations) (amount + rest) (settlement :: settlements) := by
  have early := first.each
  have amounts := first.total
  simp only [List.map_cons, List.map_nil, List.cons.injEq, and_true, List.sum_cons, List.sum_nil, Int.add_zero] at early amounts
  have nonempty : reservations.zip settlements ≠ [] := by
    have lengths := congrArg List.length later.each
    simp only [List.length_map] at lengths
    intro nothing
    have none := congrArg List.length nothing
    rw [List.length_zip, lengths, Nat.min_self, List.length_nil] at none
    exact present (List.eq_nil_of_length_eq_zero none)
  refine ⟨?_, ?_, ?_, ?_, ?_, ?_, ?_⟩
  · rw [later.rows, first.rows, List.append_assoc, List.singleton_append]
  · rw [List.map_cons, List.map_cons, early, later.each]
  · rw [List.map_cons, List.sum_cons, amounts, later.total]
  · rw [List.zip_cons_cons, List.dropLast_cons_of_ne_nil nonempty, List.forall_mem_cons]
    exact ⟨own, later.early⟩
  · intro other member
    rw [List.mem_cons] at member
    rcases member with rfl | member
    · -- The closed row is none of those still open, so the later turns leave it.
      apply later.others _ (first.closed other (by simp))
      intro waits
      have opened := (waiting _ waits).1
      simp at opened
    · exact later.closed other member
  · intro row member apart
    rw [List.mem_cons, not_or] at apart
    exact later.others row (first.others row member (by simpa using apart.1)) apart.2
  · rw [later.available, first.available]
    simp only [reservedTotal, List.map_cons, List.map_nil, List.sum_cons, List.sum_nil]
    omega

theorem settle_each_ran (keys : ∀ first second, key first = key second → first = second) (evidenceID : String) (reservations : List BillingReservation)
    (present : reservations ≠ []) (remaining : Int) (ledger : Ledger) (held : HeldOpen env key ledger accountID reservations)
    (nonneg : 0 ≤ remaining) (available : 0 ≤ (ledger.balance accountID).availableBalance)
    (affordable : remaining ≤ reservedTotal reservations + (ledger.balance accountID).availableBalance) :
    ∃ after settlements, settleEach env evidenceID key remaining reservations ledger = (.ok (), after) ∧
      SettledEach ledger after accountID reservations remaining settlements := by
  induction reservations generalizing remaining ledger with
  | nil => exact (present rfl).elim
  | cons reservation rest ih =>
      have hold : 0 ≤ reservation.reservedAmount := held.nonneg reservation (by simp)
      simp only [reservedTotal, List.map_cons, List.sum_cons] at affordable
      cases rest with
      | nil =>
          simp only [List.map_nil, List.sum_nil] at affordable
          obtain ⟨settlement, after, ran, _, settled, _⟩ := held.settle_first keys evidenceID remaining nonneg (by omega) available
          refine ⟨after, [settlement], ?_, settled⟩
          rw [settleEach, Tx.bind_ran ran]
          rfl
      | cons next rest =>
          obtain ⟨settlement, middle, ran, took, settled, waiting⟩ := held.settle_first keys evidenceID (min remaining reservation.reservedAmount)
            (by omega) (by omega) available
          have moved := settled.available
          simp only [reservedTotal, List.map_cons, List.map_nil, List.sum_cons, List.sum_nil] at moved
          obtain ⟨after, settlements, continued, later⟩ := ih (by simp) (remaining - min remaining reservation.reservedAmount) middle waiting (by omega)
            (by omega) (by simp only [reservedTotal, List.map_cons, List.sum_cons] at affordable ⊢; omega)
          refine ⟨after, settlement :: settlements, ?_, ?_⟩
          · rw [settleEach, Tx.bind_ran ran, continued]
          · have distinct := List.nodup_cons.mp held.distinct
            have whole := settled.after_first later (by omega)
              (fun other member => ⟨(waiting.settleable other member).opened, fun same => distinct.1 (same ▸ member)⟩) (by simp)
            rwa [show min remaining reservation.reservedAmount + (remaining - min remaining reservation.reservedAmount) = remaining by omega] at whole

end Loop

-- The open holds of an account, and a snapshot that is consistent with them.
structure Recoverable (env : LedgerEnv) (ledger : Ledger) (accountID : String) (reservations : List BillingReservation) : Prop extends
    HeldOpen env recoverySettleKey ledger accountID reservations where
  present : reservations ≠ []
  available : 0 ≤ (ledger.balance accountID).availableBalance
  availableColumn : InInt64 (ledger.balance accountID).availableBalance
  reservedColumn : InInt64 (ledger.balance accountID).reservedBalance

def capacity (ledger : Ledger) (accountID : String) (reservations : List BillingReservation) : Int :=
  reservedTotal reservations + (ledger.balance accountID).availableBalance

-- The recovery settles each hold once and what is affordable in all.
def Recovers (env : LedgerEnv) (ledger : Ledger) (accountID : String) (reservations : List BillingReservation) (evidence : Int) (evidenceID : String) : Prop :=
  ∃ after settlements, settleRecoveredReservations env accountID reservations evidence evidenceID ledger =
      (.ok (if capacity ledger accountID reservations < evidence then 1 else 0, min (max evidence 0) (capacity ledger accountID reservations)), after) ∧
    SettledEach ledger after accountID reservations (min (max evidence 0) (capacity ledger accountID reservations)) settlements

section Recovery

variable {env : LedgerEnv} {ledger : Ledger} {accountID : String} {reservations : List BillingReservation}

theorem recovery_keys_apart (first second : String) (same : recoverySettleKey first = recoverySettleKey second) : first = second := by
  simpa [recoverySettleKey] using same

-- The function up to its loop.
theorem recovery_value (recoverable : Recoverable env ledger accountID reservations) (evidence : Int) (evidenceID : String) :
    settleRecoveredReservations env accountID reservations evidence evidenceID ledger =
      let room := wrap (capacity ledger accountID reservations)
      let settled := if room < max evidence 0 then room else max evidence 0
      (settleEach env evidenceID recoverySettleKey settled reservations >>= fun _ =>
        (pure (if room < max evidence 0 then 1 else 0, settled) : LedgerTx (Int × Int))) ledger := by
  have locked : lockBalanceSnapshot accountID ledger = (.ok (ledger.balance accountID), ledger) := by
    rw [lockBalanceSnapshot, findSnapshot, Tx.bind_view]
    simp only [recoverable.snapshot]
    rfl
  have reserved : (reservations.map BillingReservation.reservedAmount).foldl (fun total amount => wrap (total + amount)) 0 =
      wrap (reservedTotal reservations) := by
    have folded := wrap_foldl (reservations.map BillingReservation.reservedAmount) 0
    rwa [Int.zero_add] at folded
  have claimed : (if evidence < 0 then 0 else evidence) = max evidence 0 := by omega
  rw [settleRecoveredReservations, Tx.bind_ran locked]
  simp only [reserved, claimed, wrap_wrap_add, capacity]
  rfl

theorem recovers_of_fits (recoverable : Recoverable env ledger accountID reservations) (evidence : Int) (evidenceID : String)
    (fits : capacity ledger accountID reservations ≤ maxInt64) : Recovers env ledger accountID reservations evidence evidenceID := by
  have holds : 0 ≤ reservedTotal reservations := by
    apply List.sum_nonneg
    rw [List.forall_mem_map]
    exact recoverable.nonneg
  have available := recoverable.available
  have exact : wrap (capacity ledger accountID reservations) = capacity ledger accountID reservations := by
    apply wrap_of_in
    simp only [InInt64, maxInt64, capacity] at fits ⊢
    omega
  have amount : (if capacity ledger accountID reservations < max evidence 0 then capacity ledger accountID reservations else max evidence 0) =
      min (max evidence 0) (capacity ledger accountID reservations) := by omega
  have capped : (if capacity ledger accountID reservations < max evidence 0 then (1 : Int) else 0) =
      if capacity ledger accountID reservations < evidence then 1 else 0 := by
    simp only [capacity]
    split_ifs <;> omega
  obtain ⟨after, settlements, ran, settled⟩ := settle_each_ran recovery_keys_apart evidenceID reservations recoverable.present
    (min (max evidence 0) (capacity ledger accountID reservations)) ledger recoverable.toHeldOpen (by simp only [capacity]; omega) available
    (by simp only [capacity]; omega)
  refine ⟨after, settlements, ?_, settled⟩
  rw [recovery_value recoverable]
  simp only [exact, amount, capped]
  rw [Tx.bind_ran ran]
  rfl

-- A negative amount is refused at the first hold.
theorem settle_each_negative (key : String → String) (evidenceID : String) (present : reservations ≠ []) (remaining : Int) (negative : remaining < 0)
    (after : Ledger) : settleEach env evidenceID key remaining reservations ledger ≠ (.ok (), after) := by
  have refused : ∀ (params : SettleReservationParams) settlement middle, params.actualAmount < 0 →
      settleReservationTx env params ledger ≠ (.ok settlement, middle) := by
    intro params settlement middle below ran
    simp only [settleReservationTx, Tx.ran_bind, Tx.ran_reject] at ran
    obtain ⟨_, _, _, _, _, ⟨passed, _⟩, _⟩ := ran
    exact passed below
  intro ran
  match reservations, present with
  | [last], _ =>
      simp only [settleEach, Tx.ran_bind] at ran
      obtain ⟨settlement, middle, settled, _⟩ := ran
      exact refused _ settlement middle negative settled
  | reservation :: next :: rest, _ =>
      simp only [settleEach, Tx.ran_bind] at ran
      obtain ⟨settlement, middle, settled, _⟩ := ran
      exact refused _ settlement middle (by dsimp only; omega) settled

theorem fits_of_recovers (recoverable : Recoverable env ledger accountID reservations) (evidence : Int) (evidenceID : String)
    (recovers : Recovers env ledger accountID reservations evidence evidenceID) : capacity ledger accountID reservations ≤ maxInt64 := by
  by_contra beyond
  have bounds := recoverable.availableColumn
  have covered := recoverable.covered
  have column := recoverable.reservedColumn
  simp only [InInt64, maxInt64, capacity] at beyond bounds column
  have wrapped : wrap (capacity ledger accountID reservations) < 0 := by
    rw [wrap_above (by simp only [capacity]; omega) (by simp only [capacity]; omega)]
    simp only [capacity]
    omega
  obtain ⟨after, settlements, ran, _⟩ := recovers
  rw [recovery_value recoverable] at ran
  simp only at ran
  rw [if_pos (by omega), Tx.ran_bind] at ran
  obtain ⟨_, middle, settled, _⟩ := ran
  exact settle_each_negative recoverySettleKey evidenceID recoverable.present _ wrapped middle settled

end Recovery

theorem recovers_iff (env : LedgerEnv) (ledger : Ledger) (accountID : String) (reservations : List BillingReservation)
    (recoverable : Recoverable env ledger accountID reservations) (evidence : Int) (evidenceID : String) :
    Recovers env ledger accountID reservations evidence evidenceID ↔
      reservedTotal reservations + (ledger.balance accountID).availableBalance ≤ maxInt64 :=
  ⟨fits_of_recovers recoverable evidence evidenceID, recovers_of_fits recoverable evidence evidenceID⟩

-- Two holds of one request, 6 and 4, with what is left on the account.
def openHold (reservationID key : String) (amount : Int) : BillingReservation :=
  { reservationID, requestID := "req", workflowID := "", accountID := "wallet", reservedAmount := amount, status := .opened, idempotencyKey := key,
    expiresAt := none, createdAt := 0 }

def twoHolds : List BillingReservation := [openHold "idf" "first" 6, openHold "id1f" "second" 4]

def heldLedger (available : Int) : Ledger :=
  { Ledger.empty with
    snapshots := ⟨[{ accountID := "wallet", availableBalance := available, reservedBalance := 10 }], by simp⟩
    reservations := ⟨twoHolds, by decide⟩
    drawn := 2 }

theorem held_recoverable (available : Int) (nonneg : 0 ≤ available) (column : InInt64 available) :
    Recoverable tallyEnv (heldLedger available) "wallet" twoHolds where
  unused := by
    refine ⟨tally_tight, tally_apart, ?_, by simp [heldLedger, Ledger.empty], by simp [heldLedger, Ledger.empty], by simp [heldLedger, Ledger.empty]⟩
    intro row member drawn bound same
    have old : row.reservationID = tallyEnv.uuid 0 ∨ row.reservationID = tallyEnv.uuid 1 := by
      simp only [heldLedger, twoHolds, List.mem_cons, List.not_mem_nil, or_false] at member
      rcases member with rfl | rfl
      · exact .inl (by decide)
      · exact .inr (by decide)
    simp only [heldLedger] at bound
    rcases old with first | second
    · have place := tally_apart 0 drawn (first.symm.trans same)
      omega
    · have place := tally_apart 1 drawn (second.symm.trans same)
      omega
  snapshot := by simp [heldLedger, Ledger.balance, balanceOf, Table.find?]
  account := by simp [twoHolds, openHold]
  nonneg := by simp [twoHolds, openHold]
  settleable := by
    intro reservation member
    refine ⟨member, ?_, ?_, ?_, ?_, by simp [heldLedger, Ledger.empty], by simp [heldLedger, Ledger.empty], by simp [heldLedger, Ledger.empty],
      by simp [heldLedger, Ledger.empty]⟩
    all_goals
      simp only [twoHolds, List.mem_cons, List.not_mem_nil, or_false] at member
      rcases member with rfl | rfl <;> decide
  distinct := by decide
  covered := by simp [heldLedger, Ledger.balance, balanceOf, Table.find?, reservedTotal, twoHolds, openHold]
  present := by simp [twoHolds]
  available := by simpa [heldLedger, Ledger.balance, balanceOf, Table.find?] using nonneg
  availableColumn := by simpa [heldLedger, Ledger.balance, balanceOf, Table.find?] using column
  reservedColumn := by simp [heldLedger, Ledger.balance, balanceOf, Table.find?, InInt64]

-- 12 is claimed where 15 is at hand: the holds give 6 and 6.
theorem recovers_twelve : Recovers tallyEnv (heldLedger 5) "wallet" twoHolds 12 "log" :=
  (recovers_iff tallyEnv (heldLedger 5) "wallet" twoHolds (held_recoverable 5 (by decide) (by decide)) 12 "log").mpr (by decide)

-- A full balance beside the holds: the capacity wraps below zero, and no amount can be settled.
theorem full_balance_not_recovered : ¬ ∀ env ledger accountID reservations, Recoverable env ledger accountID reservations →
    ∀ evidence evidenceID, Recovers env ledger accountID reservations evidence evidenceID := by
  intro every
  have recoverable := held_recoverable maxInt64 (by decide) (by decide)
  have fits := fits_of_recovers recoverable 1 "log" (every _ _ _ _ recoverable 1 "log")
  revert fits
  decide

end CodeGo.Subscription
