import CodeGo.Ledger.Conservation

set_option autoImplicit false

namespace CodeGo.Billing

open Relational Text

/- The reconciler recomputes a snapshot from the account's entries, the settlements of its
   reservations and its open reservations. -/

def availableValue (entry : BillingLedgerEntry) : Int :=
  match entry.entryType with
  | .grantCredit | .reserveRelease | .settleCredit => entry.amount
  | .reserveHold | .settleDebit => -entry.amount
  | .adjustment => 0

def grantedValue (entry : BillingLedgerEntry) : Int := if entry.entryType = .grantCredit then entry.amount else 0

def directConsumedValue (entry : BillingLedgerEntry) : Int :=
  if entry.entryType = .settleDebit ∧ entry.referenceType ≠ "settlement" then entry.amount else 0

def directRefundedValue (entry : BillingLedgerEntry) : Int :=
  if entry.entryType = .settleCredit ∧ entry.referenceType ≠ "settlement" then entry.amount else 0

def refundedValue (settlement : BillingSettlement) : Int := if settlement.deltaAmount < 0 then -settlement.deltaAmount else 0

def entrySum (ledger : Ledger) (accountID : String) (value : BillingLedgerEntry → Int) : Int :=
  ledger.entries.total fun entry => if entry.accountID = accountID then value entry else 0

-- Settlements carry no account of their own: the query joins them to their reservations.
def settlementSum (ledger : Ledger) (accountID : String) (value : BillingSettlement → Int) : Int :=
  ledger.settlements.total fun settlement => ledger.reservations.total fun reservation =>
    if reservation.reservationID = settlement.reservationID ∧ reservation.accountID = accountID ∧ settlement.status = .completed then
      value settlement
    else 0

def aggregateExpectedBalanceSnapshot (ledger : Ledger) (accountID : String) : BillingBalanceSnapshot :=
  { accountID,
    availableBalance := entrySum ledger accountID availableValue,
    reservedBalance := openHolds ledger accountID,
    consumedTotal := settlementSum ledger accountID BillingSettlement.actualAmount + entrySum ledger accountID directConsumedValue,
    refundedTotal := settlementSum ledger accountID refundedValue + entrySum ledger accountID directRefundedValue,
    grantedTotal := entrySum ledger accountID grantedValue }

def rebuildBalanceSnapshotTx (accountID : String) : LedgerTx Unit := do
  match ← findSnapshot accountID with
  | none => Tx.fail .recordNotFound
  | some _ =>
      let snapshot ← Tx.view fun ledger => aggregateExpectedBalanceSnapshot ledger accountID
      saveSnapshot snapshot

-- Every counter of the stored snapshot is what the history adds up to.
structure Replayed (ledger : Ledger) : Prop where
  available : ∀ accountID, (ledger.balance accountID).availableBalance = entrySum ledger accountID availableValue
  granted : ∀ accountID, (ledger.balance accountID).grantedTotal = entrySum ledger accountID grantedValue
  consumed : ∀ accountID, (ledger.balance accountID).consumedTotal =
    settlementSum ledger accountID BillingSettlement.actualAmount + entrySum ledger accountID directConsumedValue
  refunded : ∀ accountID, (ledger.balance accountID).refundedTotal =
    settlementSum ledger accountID refundedValue + entrySum ledger accountID directRefundedValue

theorem entry_sum_append (ledger after : Ledger) (entries : List BillingLedgerEntry) (accountID : String) (value : BillingLedgerEntry → Int)
    (appended : after.entries.rows = ledger.entries.rows ++ entries) :
    entrySum after accountID value = entrySum ledger accountID value +
      (entries.map fun entry => if entry.accountID = accountID then value entry else 0).sum := by
  rw [entrySum, Table.total_append _ _ _ _ appended, entrySum]

theorem settlement_sum_same (ledger after : Ledger) (accountID : String) (value : BillingSettlement → Int)
    (reservations : after.reservations = ledger.reservations) (settlements : after.settlements = ledger.settlements) :
    settlementSum after accountID value = settlementSum ledger accountID value := by
  simp only [settlementSum, reservations, settlements]

-- A rewritten reservation keeps its id and account, so the join sees the same pairs.
theorem settlement_sum_replaced (ledger after : Ledger) (old new : BillingReservation) (accountID : String) (value : BillingSettlement → Int)
    (replaced : Table.Replaced ledger.reservations after.reservations old new) (sameID : new.reservationID = old.reservationID)
    (sameAccount : new.accountID = old.accountID) (settlements : after.settlements = ledger.settlements) :
    settlementSum after accountID value = settlementSum ledger accountID value := by
  simp only [settlementSum, settlements, replaced.total, sameID, sameAccount]
  simp

theorem settlement_sum_held (ledger after : Ledger) (reservation : BillingReservation) (accountID : String) (value : BillingSettlement → Int)
    (lifecycle : Lifecycle ledger) (appended : after.reservations.rows = ledger.reservations.rows ++ [reservation])
    (settlements : after.settlements = ledger.settlements) :
    settlementSum after accountID value = settlementSum ledger accountID value := by
  rw [settlementSum, settlementSum, settlements]
  refine Table.total_congr _ _ _ fun settlement member => ?_
  rw [Table.total_append _ _ _ _ appended]
  -- The new reservation has a fresh id, so no earlier settlement joins with it.
  have apart : reservation.reservationID ≠ settlement.reservationID := by
    intro same
    obtain ⟨other, otherIn, named⟩ := lifecycle.settlements settlement member
    have pairs := after.reservations.unique
    rw [appended, List.pairwise_append] at pairs
    exact pairs.2.2 other otherIn reservation (by simp) (.inl (named.trans same.symm))
  simp [apart]

theorem settlement_sum_settled (ledger after : Ledger) (params : SettleReservationParams) (current : BillingReservation)
    (settlement : BillingSettlement) (accountID : String) (value : BillingSettlement → Int)
    (settled : Settled ledger params current settlement after) :
    settlementSum after accountID value =
      settlementSum ledger accountID value + if current.accountID = accountID then value settlement else 0 := by
  have joined : ∀ other : BillingSettlement, (after.reservations.total fun reservation =>
      if reservation.reservationID = other.reservationID ∧ reservation.accountID = accountID ∧ other.status = .completed then value other
      else 0) = ledger.reservations.total fun reservation =>
      if reservation.reservationID = other.reservationID ∧ reservation.accountID = accountID ∧ other.status = .completed then value other
      else 0 := by
    intro other
    rw [settled.reservations.total]
    simp
  obtain ⟨settlementID, settledAt, completed⟩ := settled.completed
  have alone := Table.total_single (fun reservation : BillingReservation =>
    if reservation.reservationID = settlement.reservationID ∧ reservation.accountID = accountID ∧ settlement.status = .completed then
      value settlement
    else 0) ledger.reservations current settled.reservations.old_mem (by
      intro other _ apart
      have different : other.reservationID ≠ settlement.reservationID := by
        intro same
        exact apart (clash_of_reservation_id _ _ (by simp [same, completed]))
      simp [different])
  simp only [settlementSum, joined, Table.total_append _ _ _ _ settled.settlements]
  simp only [List.map_cons, List.map_nil, List.sum_cons, List.sum_nil, alone]
  simp [completed]

theorem entry_sum_posted (ledger after : Ledger) (balance : BillingBalanceSnapshot) (entries : List BillingLedgerEntry) (accountID : String)
    (value : BillingLedgerEntry → Int) (posted : Posted ledger after balance entries)
    (owned : ∀ entry ∈ entries, entry.accountID = balance.accountID) :
    entrySum after accountID value =
      entrySum ledger accountID value + if accountID = balance.accountID then (entries.map value).sum else 0 := by
  rw [entry_sum_append ledger after entries accountID value posted.entries]
  congr 1
  split
  · rename_i same
    rw [List.map_congr_left fun entry member => if_pos ((owned entry member).trans same.symm)]
  · rename_i different
    rw [List.map_congr_left fun entry member => if_neg fun same => different (same.symm.trans (owned entry member))]
    simp

-- A posting keeps the snapshot in step when each counter moves by what its entries and settlement are worth.
theorem Replayed.posted {ledger after : Ledger} {balance : BillingBalanceSnapshot} {entries : List BillingLedgerEntry}
    (replayed : Replayed ledger) (posted : Posted ledger after balance entries) (worth : (BillingSettlement → Int) → Int)
    (owned : ∀ entry ∈ entries, entry.accountID = balance.accountID)
    (settlements : ∀ accountID value, settlementSum after accountID value =
      settlementSum ledger accountID value + if accountID = balance.accountID then worth value else 0)
    (available : balance.availableBalance = (ledger.balance balance.accountID).availableBalance + (entries.map availableValue).sum)
    (granted : balance.grantedTotal = (ledger.balance balance.accountID).grantedTotal + (entries.map grantedValue).sum)
    (consumed : balance.consumedTotal = (ledger.balance balance.accountID).consumedTotal + worth BillingSettlement.actualAmount +
      (entries.map directConsumedValue).sum)
    (refunded : balance.refundedTotal = (ledger.balance balance.accountID).refundedTotal + worth refundedValue +
      (entries.map directRefundedValue).sum) : Replayed after := by
  have sums := fun accountID value => entry_sum_posted ledger after balance entries accountID value posted owned
  refine ⟨fun accountID => ?_, fun accountID => ?_, fun accountID => ?_, fun accountID => ?_⟩
  all_goals
    simp only [posted.balance accountID, sums, settlements]
    split
  · rename_i same
    rw [available, ← same, replayed.available]
  · rw [replayed.available, Int.add_zero]
  · rename_i same
    rw [granted, ← same, replayed.granted]
  · rw [replayed.granted, Int.add_zero]
  · rename_i same
    rw [consumed, ← same, replayed.consumed]
    omega
  · rw [replayed.consumed, Int.add_zero, Int.add_zero]
  · rename_i same
    rw [refunded, ← same, replayed.refunded]
    omega
  · rw [replayed.refunded, Int.add_zero, Int.add_zero]

theorem Replayed.noted {ledger after : Ledger} (replayed : Replayed ledger) (entries : List BillingLedgerEntry)
    (balances : ∀ accountID, after.balance accountID = ledger.balance accountID)
    (appended : after.entries.rows = ledger.entries.rows ++ entries) (inert : ∀ entry ∈ entries, entry.entryType = .adjustment)
    (reservations : after.reservations = ledger.reservations) (settlements : after.settlements = ledger.settlements) : Replayed after := by
  have worthless : ∀ accountID (value : BillingLedgerEntry → Int), (∀ entry, entry.entryType = .adjustment → value entry = 0) →
      entrySum after accountID value = entrySum ledger accountID value := by
    intro accountID value zero
    rw [entry_sum_append ledger after entries accountID value appended,
      List.map_congr_left fun entry member => by rw [zero entry (inert entry member)]]
    simp
  refine ⟨fun accountID => ?_, fun accountID => ?_, fun accountID => ?_, fun accountID => ?_⟩
  all_goals simp only [balances, settlement_sum_same ledger after _ _ reservations settlements]
  · rw [worthless _ _ fun entry kind => by simp [availableValue, kind], replayed.available]
  · rw [worthless _ _ fun entry kind => by simp [grantedValue, kind], replayed.granted]
  · rw [worthless _ _ fun entry kind => by simp [directConsumedValue, kind], replayed.consumed]
  · rw [worthless _ _ fun entry kind => by simp [directRefundedValue, kind], replayed.refunded]

theorem Replayed.settled {ledger after : Ledger} {params : SettleReservationParams} {current : BillingReservation}
    {settlement : BillingSettlement} (replayed : Replayed ledger) (settled : Settled ledger params current settlement after) :
    Replayed after := by
  obtain ⟨entries, posted, shape⟩ := settled.posted
  obtain ⟨settlementID, settledAt, completed⟩ := settled.completed
  have sums : ∀ accountID value, settlementSum after accountID value =
      settlementSum ledger accountID value + if accountID = current.accountID then value settlement else 0 := by
    intro accountID value
    simpa only [eq_comm] using settlement_sum_settled ledger after params current settlement accountID value settled
  rcases shape with ⟨equal, rfl⟩ | ⟨_, entry, _, _, _, rfl, rfl⟩
  · refine replayed.posted posted (fun value => value settlement) (by simp) (by simpa [Ledger.balance] using sums) ?_ ?_ ?_ ?_
    · simp [settle_funds_available, Ledger.balance, equal]
    · simp [settle_funds_granted, Ledger.balance]
    · simp [settle_funds_consumed, Ledger.balance, completed]
    · simp [settle_funds_refunded, Ledger.balance, completed, refundedValue]
  · refine replayed.posted posted (fun value => value settlement) (by simp [settlementEntry, Ledger.balance])
      (by simpa [Ledger.balance] using sums) ?_ ?_ ?_ ?_
    · rw [settle_funds_available, settle_funds_account, List.map_singleton, List.sum_singleton]
      by_cases less : params.actualAmount - current.reservedAmount < 0
      · simp only [settlementEntry, availableValue, less, if_true, ledger_balance_account]
        omega
      · simp only [settlementEntry, availableValue, less, if_false, ledger_balance_account]
        omega
    · rw [settle_funds_granted, settle_funds_account, List.map_singleton, List.sum_singleton]
      simp only [settlementEntry, grantedValue, ledger_balance_account]
      split_ifs <;> simp_all
    · simp [settle_funds_consumed, Ledger.balance, completed, settlementEntry, directConsumedValue]
    · simp [settle_funds_refunded, Ledger.balance, completed, settlementEntry, directRefundedValue, refundedValue]

theorem Replayed.adjusted {ledger after : Ledger} {params : AdjustAvailableBalanceParams} {entry : BillingLedgerEntry}
    (replayed : Replayed ledger) (adjusted : Adjusted ledger params entry after) (direct : trimSpace params.referenceType ≠ "settlement") :
    Replayed after := by
  have direct : entry.referenceType ≠ "settlement" := by
    rw [adjusted.line.referenceType, defaultIfEmpty]
    split
    · decide
    · exact direct
  refine replayed.posted adjusted.posted (fun _ => 0) (by simp [adjusted.line.account, Ledger.balance]) ?_ ?_ ?_ ?_ ?_
  · simp [settlement_sum_same ledger after _ _ adjusted.reservations adjusted.settlements]
  all_goals rw [adjust_funds_account, List.map_singleton, List.sum_singleton, ledger_balance_account]
  · rw [adjust_funds_available, availableValue, adjusted.line.kind, adjusted.line.amount]
    split_ifs <;> dsimp only <;> omega
  · rw [adjust_funds_granted, grantedValue, adjusted.line.kind]
    split_ifs <;> simp_all
  · rw [adjust_funds_consumed, directConsumedValue, adjusted.line.kind, adjusted.line.amount]
    split_ifs <;> simp_all
  · rw [adjust_funds_refunded, directRefundedValue, adjusted.line.kind, adjusted.line.amount]
    split_ifs <;> simp_all

-- The adjustments the reconciler can tell apart from settlement entries.
def LedgerOp.Direct : LedgerOp → Prop
  | .adjustAvailableBalance params => trimSpace params.referenceType ≠ "settlement"
  | _ => True

theorem Replayed.effect {ledger after : Ledger} {op : LedgerOp} (replayed : Replayed ledger) (lifecycle : Lifecycle ledger)
    (effect : Effect ledger after op) (direct : op.Direct) : Replayed after := by
  cases effect with
  | unmoved _ same => exact replayed.noted [] same.balances (by simp [same.entries]) (by simp) same.reservations same.settlements
  | audited params entry audited =>
      exact replayed.noted [entry] audited.balances audited.entries (by simp [audited.kind]) audited.reservations audited.settlements
  | credited params entry credited =>
      refine replayed.posted credited.posted (fun _ => 0) (by simp [credited.line.account, creditFunds, Ledger.balance]) ?_ ?_ ?_ ?_ ?_
      · simp [settlement_sum_same ledger after _ _ credited.reservations credited.settlements]
      all_goals simp [creditFunds, Ledger.balance, availableValue, grantedValue, directConsumedValue, directRefundedValue,
        credited.line.kind, credited.line.amount]
  | held params reservation held =>
      obtain ⟨entry, posted, line⟩ := held.posted
      refine replayed.posted posted (fun _ => 0) (by simp [line.account, holdFunds, Ledger.balance]) ?_ ?_ ?_ ?_ ?_
      · simp [settlement_sum_held ledger after reservation _ _ lifecycle held.reservations held.settlements]
      all_goals simp [holdFunds, Ledger.balance, availableValue, grantedValue, directConsumedValue, directRefundedValue, line.kind, line.amount,
        Int.sub_eq_add_neg]
  | raised params current raised =>
      obtain ⟨entry, posted, line⟩ := raised.posted
      refine replayed.posted posted (fun _ => 0) (by simp [line.account, holdFunds, Ledger.balance]) ?_ ?_ ?_ ?_ ?_
      · simp [settlement_sum_replaced ledger after current _ _ _ raised.reservations rfl rfl raised.settlements]
      all_goals simp [holdFunds, Ledger.balance, availableValue, grantedValue, directConsumedValue, directRefundedValue, line.kind, line.amount,
        Int.sub_eq_add_neg]
  | released params current released =>
      obtain ⟨entry, posted, line⟩ := released.posted
      refine replayed.posted posted (fun _ => 0) (by simp [line.account, freeFunds, Ledger.balance]) ?_ ?_ ?_ ?_ ?_
      · simp [settlement_sum_replaced ledger after current _ _ _ released.reservations rfl rfl released.settlements]
      all_goals simp [freeFunds, Ledger.balance, availableValue, grantedValue, directConsumedValue, directRefundedValue, line.kind, line.amount]
  | dropped params current dropped => exact (lifecycle.not_dropped dropped).elim
  | settled params current settlement settled => exact replayed.settled settled
  | adjusted params entry _ adjusted => exact replayed.adjusted adjusted direct

theorem replayed_empty : Replayed Ledger.empty := by
  constructor <;> intro accountID <;> simp [Ledger.balance, balanceOf, Ledger.empty, Table.find?, entrySum, settlementSum]

theorem aggregate_eq_balance (ledger : Ledger) (accountID : String) (replayed : Replayed ledger) (solvent : Solvent ledger) :
    aggregateExpectedBalanceSnapshot ledger accountID = ledger.balance accountID := by
  have account : (ledger.balance accountID).accountID = accountID := balance_account_id _ _
  cases stored : ledger.balance accountID with
  | mk storedID available reserved consumed refunded granted =>
      have facts := And.intro (replayed.available accountID) (And.intro (solvent.reserved accountID) (And.intro (replayed.consumed accountID)
        (And.intro (replayed.refunded accountID) (replayed.granted accountID))))
      simp only [stored] at account facts
      obtain ⟨sameAvailable, sameReserved, sameConsumed, sameRefunded, sameGranted⟩ := facts
      simp only [aggregateExpectedBalanceSnapshot, account, sameAvailable, sameReserved, sameConsumed, sameRefunded, sameGranted]

-- Saving the balance an account already has writes nothing.
theorem save_balance_fixed (ledger : Ledger) (accountID : String) :
    (saveSnapshot (ledger.balance accountID) ledger).2 = ledger := by
  have same : ledger.snapshots.update (fun row => row.accountID = (ledger.balance accountID).accountID)
      (fun row => { ledger.balance accountID with accountID := row.accountID }) (fun _ => rfl) = ledger.snapshots := by
    refine Table.ext _ _ ?_
    rw [Table.rows_update]
    refine (List.map_congr_left ?_).trans (List.map_id _)
    intro row member
    by_cases here : row.accountID = accountID
    · have stored : ledger.balance row.accountID = row := balance_of_mem ledger.snapshots row member
      subst here
      simp [stored]
    · simp [here]
  simp only [saveSnapshot, Tx.edit, same]

-- In every reachable ledger the stored snapshots are what the reconciler recomputes, so it has nothing to repair.
theorem snapshot_eq_replay (env : LedgerEnv) (ops : List LedgerOp) (direct : ∀ op ∈ ops, op.Direct) :
    let ledger := run (step env) Ledger.empty ops
    (∀ snapshot ∈ ledger.snapshots.rows, snapshot = aggregateExpectedBalanceSnapshot ledger snapshot.accountID) ∧
    ∀ accountID, (rebuildBalanceSnapshotTx accountID ledger).2 = ledger := by
  intro ledger
  have kept : Lifecycle ledger ∧ Replayed ledger :=
    run_keeps (step env) (fun state => Lifecycle state ∧ Replayed state) LedgerOp.Direct
      (fun state op allowed kept => ⟨kept.1.effect (step_effect env state op), kept.2.effect kept.1 (step_effect env state op) allowed⟩)
      Ledger.empty ⟨lifecycle_empty, replayed_empty⟩ ops direct
  have agrees := fun accountID => aggregate_eq_balance ledger accountID kept.2 (solvent_run env ops)
  refine ⟨fun snapshot member => ?_, fun accountID => ?_⟩
  · rw [agrees]
    exact (balance_of_mem ledger.snapshots snapshot member).symm
  · cases found : ledger.snapshots.find? fun row => row.accountID = accountID with
    | none => simp [rebuildBalanceSnapshotTx, findSnapshot, Bind.bind, Tx.bind, Tx.view, found, Tx.fail]
    | some stored =>
        have saved := save_balance_fixed ledger accountID
        simpa [rebuildBalanceSnapshotTx, findSnapshot, Bind.bind, Tx.bind, Tx.view, found, agrees] using saved

def sampleEnv : LedgerEnv := { postgres := true, uuid := fun drawn => "uuid-" ++ toString drawn }

def settledOps : List LedgerOp :=
  [.creditAccount { accountID := "wallet", amount := 10, idempotencyKey := "grant" },
    .createReservation { accountID := "wallet", reservedAmount := 6, idempotencyKey := "hold" },
    .settleReservation { reservationID := "uuid-2", actualAmount := 4, idempotencyKey := "settle" },
    .adjustAvailableBalance { accountID := "wallet", usageAmount := 3, idempotencyKey := "spend" }]

theorem snapshot_eq_replay_settled :
    (run (step sampleEnv) Ledger.empty settledOps).snapshots.rows =
        [{ accountID := "wallet", availableBalance := 3, consumedTotal := 7, refundedTotal := 2, grantedTotal := 10 }] ∧
      ∀ snapshot ∈ (run (step sampleEnv) Ledger.empty settledOps).snapshots.rows,
        snapshot = aggregateExpectedBalanceSnapshot (run (step sampleEnv) Ledger.empty settledOps) snapshot.accountID :=
  ⟨by decide, (snapshot_eq_replay sampleEnv settledOps (by simp [settledOps, LedgerOp.Direct]; decide)).1⟩

-- The reference type is trimmed on its way into the entry: with white space around it, it still names settlements.
def paddedOps : List LedgerOp :=
  [.creditAccount { accountID := "wallet", amount := 10, idempotencyKey := "grant" },
    .adjustAvailableBalance { accountID := "wallet", usageAmount := 4, idempotencyKey := "spend", referenceType := " settlement" }]

theorem padded_reference_type_drifts :
    (∀ params, LedgerOp.adjustAvailableBalance params ∈ paddedOps → params.referenceType ≠ "settlement") ∧
      ∃ snapshot ∈ (run (step sampleEnv) Ledger.empty paddedOps).snapshots.rows,
        snapshot ≠ aggregateExpectedBalanceSnapshot (run (step sampleEnv) Ledger.empty paddedOps) snapshot.accountID := by
  constructor
  · intro params member
    simp only [paddedOps, List.mem_cons, List.not_mem_nil, reduceCtorEq, false_or, or_false, LedgerOp.adjustAvailableBalance.injEq] at member
    subst member
    decide
  · decide

end CodeGo.Billing
