import CodeGo.Ledger.Lifecycle

set_option autoImplicit false

namespace CodeGo.Billing

open Relational Text

def openHolds (ledger : Ledger) (accountID : String) : Int :=
  ledger.reservations.total fun row => if row.accountID = accountID ∧ row.status = .opened then row.reservedAmount else 0

structure Solvent (ledger : Ledger) : Prop where
  available : ∀ accountID, 0 ≤ (ledger.balance accountID).availableBalance
  positive : ∀ reservation ∈ ledger.reservations.rows, 0 < reservation.reservedAmount
  reserved : ∀ accountID, (ledger.balance accountID).reservedBalance = openHolds ledger accountID

theorem Posted.balance {ledger after : Ledger} {balance : BillingBalanceSnapshot} {entries : List BillingLedgerEntry}
    (posted : Posted ledger after balance entries) (accountID : String) :
    after.balance accountID = if accountID = balance.accountID then balance else ledger.balance accountID := by
  split
  · rename_i here
    rw [here]
    exact posted.balances.here
  · rename_i elsewhere
    exact posted.balances.elsewhere accountID elsewhere

theorem open_holds_replaced (ledger after : Ledger) (old new : BillingReservation) (accountID : String)
    (replaced : Table.Replaced ledger.reservations after.reservations old new) (opened : old.status = .opened) :
    openHolds after accountID = openHolds ledger accountID - (if old.accountID = accountID then old.reservedAmount else 0) +
      if new.accountID = accountID ∧ new.status = .opened then new.reservedAmount else 0 := by
  rw [openHolds, replaced.total]
  simp [openHolds, opened]

-- What one posting must add up to for the two balance columns to stay in step with the holds.
theorem Solvent.posted {ledger after : Ledger} {balance : BillingBalanceSnapshot} {entries : List BillingLedgerEntry}
    (solvent : Solvent ledger) (posted : Posted ledger after balance entries) (available : 0 ≤ balance.availableBalance)
    (positive : ∀ reservation ∈ after.reservations.rows, 0 < reservation.reservedAmount)
    (here : balance.reservedBalance - (ledger.balance balance.accountID).reservedBalance =
      openHolds after balance.accountID - openHolds ledger balance.accountID)
    (elsewhere : ∀ other, other ≠ balance.accountID → openHolds after other = openHolds ledger other) : Solvent after := by
  refine ⟨?_, positive, ?_⟩
  · intro accountID
    rw [posted.balance accountID]
    split
    · exact available
    · exact solvent.available accountID
  · intro accountID
    rw [posted.balance accountID]
    split
    · rename_i same
      have before := solvent.reserved accountID
      subst same
      omega
    · rename_i other
      rw [elsewhere accountID other]
      exact solvent.reserved accountID

theorem positive_replaced (reservations next : Table BillingReservation) (old new : BillingReservation)
    (replaced : Table.Replaced reservations next old new) (positive : ∀ row ∈ reservations.rows, 0 < row.reservedAmount)
    (newPositive : 0 < new.reservedAmount) : ∀ row ∈ next.rows, 0 < row.reservedAmount := by
  intro row member
  rcases replaced.mem row member with rfl | ⟨kept, _⟩
  · exact newPositive
  · exact positive row kept

theorem Solvent.held {ledger after : Ledger} {params : CreateReservationParams} {reservation : BillingReservation}
    (solvent : Solvent ledger) (held : Held ledger params reservation after) : Solvent after := by
  obtain ⟨entry, posted, _⟩ := held.posted
  obtain ⟨reservationID, now, rfl⟩ := held.opened
  have holds : ∀ accountID, openHolds after accountID =
      openHolds ledger accountID + if params.accountID = accountID then params.reservedAmount else 0 := by
    intro accountID
    rw [openHolds, Table.total_append _ _ _ _ held.reservations]
    simp [openHolds, openReservation]
  have covered := held.covered
  refine solvent.posted posted (by simp only [holdFunds]; omega) ?_ ?_ ?_
  · intro row member
    rw [held.reservations, List.mem_append, List.mem_singleton] at member
    rcases member with old | rfl
    · exact solvent.positive row old
    · exact held.positive
  · simp only [holdFunds, ledger_balance_account, holds, if_true]
    omega
  · intro other different
    have apart : params.accountID ≠ other := by simpa [holdFunds, Ledger.balance, eq_comm] using different
    simp [holds, apart]

theorem Solvent.raised {ledger after : Ledger} {params : IncreaseReservationParams} {current : BillingReservation}
    (solvent : Solvent ledger) (raised : Raised ledger params current after) : Solvent after := by
  obtain ⟨entry, posted, _⟩ := raised.posted
  have holds := fun accountID => open_holds_replaced ledger after current _ accountID raised.reservations raised.opened
  have covered := raised.covered
  have added := raised.positive
  have before := solvent.positive current raised.reservations.old_mem
  refine solvent.posted posted (by simp only [holdFunds]; omega)
    (positive_replaced _ _ _ _ raised.reservations solvent.positive (by dsimp only; omega)) ?_ ?_
  · simp only [holdFunds, ledger_balance_account, holds, raised.opened, if_true, true_and]
    omega
  · intro other different
    have apart : current.accountID ≠ other := by simpa [holdFunds, Ledger.balance, eq_comm] using different
    simp [holds, apart]

theorem Solvent.released {ledger after : Ledger} {params : ReleaseReservationParams} {current : BillingReservation}
    (solvent : Solvent ledger) (released : Released ledger params current after) : Solvent after := by
  obtain ⟨entry, posted, _⟩ := released.posted
  have holds := fun accountID => open_holds_replaced ledger after current _ accountID released.reservations released.opened
  have before := solvent.positive current released.reservations.old_mem
  have funds := solvent.available current.accountID
  refine solvent.posted posted (by simp only [freeFunds]; omega)
    (positive_replaced _ _ _ _ released.reservations solvent.positive before) ?_ ?_
  · simp [freeFunds, Ledger.balance, holds]
  · intro other different
    have apart : current.accountID ≠ other := by simpa [freeFunds, Ledger.balance, eq_comm] using different
    simp [holds, apart]

theorem settle_funds_reserved (snapshot : BillingBalanceSnapshot) (held actual : Int) :
    (settleFunds snapshot held actual).reservedBalance = snapshot.reservedBalance - held := by
  unfold settleFunds
  dsimp only
  split_ifs <;> rfl

-- Whatever the settled amount is, the available balance pays for the excess over the hold.
theorem settle_funds_available (snapshot : BillingBalanceSnapshot) (held actual : Int) :
    (settleFunds snapshot held actual).availableBalance = snapshot.availableBalance - (actual - held) := by
  unfold settleFunds
  dsimp only
  split_ifs <;> dsimp only <;> omega

theorem settle_funds_consumed (snapshot : BillingBalanceSnapshot) (held actual : Int) :
    (settleFunds snapshot held actual).consumedTotal = snapshot.consumedTotal + actual := by
  unfold settleFunds
  dsimp only
  split_ifs <;> rfl

theorem settle_funds_granted (snapshot : BillingBalanceSnapshot) (held actual : Int) :
    (settleFunds snapshot held actual).grantedTotal = snapshot.grantedTotal := by
  unfold settleFunds
  dsimp only
  split_ifs <;> rfl

theorem settle_funds_refunded (snapshot : BillingBalanceSnapshot) (held actual : Int) :
    (settleFunds snapshot held actual).refundedTotal =
      snapshot.refundedTotal + if actual - held < 0 then -(actual - held) else 0 := by
  unfold settleFunds
  dsimp only
  split_ifs <;> dsimp only <;> omega

theorem Solvent.settled {ledger after : Ledger} {params : SettleReservationParams} {current : BillingReservation}
    {settlement : BillingSettlement} (solvent : Solvent ledger) (settled : Settled ledger params current settlement after) :
    Solvent after := by
  obtain ⟨entries, posted, _⟩ := settled.posted
  have holds := fun accountID => open_holds_replaced ledger after current _ accountID settled.reservations settled.opened
  have before := solvent.positive current settled.reservations.old_mem
  have funds := solvent.available current.accountID
  have affordable := settled.affordable
  refine solvent.posted posted (by rw [settle_funds_available]; omega)
    (positive_replaced _ _ _ _ settled.reservations solvent.positive before) ?_ ?_
  · simp [settle_funds_reserved, Ledger.balance, holds]
  · intro other different
    have apart : current.accountID ≠ other := by simpa [Ledger.balance, eq_comm] using different
    simp [holds, apart]

theorem adjust_funds_available (snapshot : BillingBalanceSnapshot) (usage : Int) :
    (adjustFunds snapshot usage).availableBalance = snapshot.availableBalance - usage := by
  unfold adjustFunds
  split_ifs
  · rfl
  · dsimp only
    omega

theorem adjust_funds_reserved (snapshot : BillingBalanceSnapshot) (usage : Int) :
    (adjustFunds snapshot usage).reservedBalance = snapshot.reservedBalance := by
  unfold adjustFunds
  split_ifs <;> rfl

theorem adjust_funds_consumed (snapshot : BillingBalanceSnapshot) (usage : Int) :
    (adjustFunds snapshot usage).consumedTotal = snapshot.consumedTotal + if usage < 0 then 0 else usage := by
  unfold adjustFunds
  split_ifs <;> dsimp only <;> omega

theorem adjust_funds_granted (snapshot : BillingBalanceSnapshot) (usage : Int) :
    (adjustFunds snapshot usage).grantedTotal = snapshot.grantedTotal := by
  unfold adjustFunds
  split_ifs <;> rfl

theorem adjust_funds_refunded (snapshot : BillingBalanceSnapshot) (usage : Int) :
    (adjustFunds snapshot usage).refundedTotal = snapshot.refundedTotal + if usage < 0 then -usage else 0 := by
  unfold adjustFunds
  split_ifs <;> dsimp only <;> omega

theorem Solvent.effect {ledger after : Ledger} {op : LedgerOp} (solvent : Solvent ledger) (lifecycle : Lifecycle ledger)
    (effect : Effect ledger after op) : Solvent after := by
  cases effect with
  | unmoved _ same =>
      refine ⟨fun accountID => ?_, ?_, fun accountID => ?_⟩
      · rw [same.balances]
        exact solvent.available accountID
      · rw [same.reservations]
        exact solvent.positive
      · rw [same.balances, openHolds, same.reservations]
        exact solvent.reserved accountID
  | audited params entry audited =>
      refine ⟨fun accountID => ?_, ?_, fun accountID => ?_⟩
      · rw [audited.balances]
        exact solvent.available accountID
      · rw [audited.reservations]
        exact solvent.positive
      · rw [audited.balances, openHolds, audited.reservations]
        exact solvent.reserved accountID
  | credited params entry credited =>
      have funds := solvent.available params.accountID
      have added := credited.positive
      refine solvent.posted credited.posted (by simp only [creditFunds]; omega) (by rw [credited.reservations]; exact solvent.positive) ?_ ?_
      · simp [creditFunds, Ledger.balance, openHolds, credited.reservations]
      · simp [openHolds, credited.reservations]
  | held params reservation held => exact solvent.held held
  | raised params current raised => exact solvent.raised raised
  | released params current released => exact solvent.released released
  | dropped params current dropped => exact (lifecycle.not_dropped dropped).elim
  | settled params current settlement settled => exact solvent.settled settled
  | adjusted params entry _ adjusted =>
      have funds := solvent.available params.accountID
      have affordable := adjusted.affordable
      refine solvent.posted adjusted.posted (by rw [adjust_funds_available]; omega)
        (by rw [adjusted.reservations]; exact solvent.positive) ?_ ?_
      · simp [adjust_funds_reserved, Ledger.balance, openHolds, adjusted.reservations]
      · simp [openHolds, adjusted.reservations]

theorem solvent_empty : Solvent Ledger.empty :=
  ⟨fun _ => by simp [Ledger.balance, balanceOf, Ledger.empty, Table.find?], by simp [Ledger.empty],
    fun _ => by simp [Ledger.balance, balanceOf, openHolds, Ledger.empty, Table.find?]⟩

theorem solvent_run (env : LedgerEnv) (ops : List LedgerOp) : Solvent (run (step env) Ledger.empty ops) :=
  (run_keeps (step env) (fun ledger => Lifecycle ledger ∧ Solvent ledger) (fun _ => True)
    (fun ledger op _ kept => ⟨kept.1.effect (step_effect env ledger op), kept.2.effect kept.1 (step_effect env ledger op)⟩)
    Ledger.empty ⟨lifecycle_empty, solvent_empty⟩ ops (fun _ _ => trivial)).2

-- Credit in circulation beyond what was granted.
def balanceSurplus (balance : BillingBalanceSnapshot) : Int :=
  balance.availableBalance + balance.reservedBalance + balance.consumedTotal - balance.grantedTotal

def surplus (ledger : Ledger) (accountID : String) : Int := balanceSurplus (ledger.balance accountID)

-- What one operation returns to an account by a direct adjustment: nothing when it fails or replays a known key.
def directReturn (env : LedgerEnv) (ledger : Ledger) (accountID : String) : LedgerOp → Int
  | .adjustAvailableBalance params =>
      match (transact env (.adjustAvailableBalance params) ledger).1 with
      | .error _ => 0
      | .ok _ =>
          if params.accountID = accountID ∧ params.usageAmount < 0 ∧
            (ledger.entries.find? fun row => row.idempotencyKey = params.idempotencyKey) = none then -params.usageAmount else 0
  | _ => 0

def directReturns (env : LedgerEnv) (accountID : String) : Ledger → List LedgerOp → Int
  | _, [] => 0
  | ledger, op :: rest => directReturn env ledger accountID op + directReturns env accountID (step env ledger op) rest

theorem surplus_posted (ledger after : Ledger) (balance : BillingBalanceSnapshot) (entries : List BillingLedgerEntry) (accountID : String)
    (posted : Posted ledger after balance entries) :
    surplus after accountID = surplus ledger accountID +
      if accountID = balance.accountID then balanceSurplus balance - balanceSurplus (ledger.balance balance.accountID) else 0 := by
  simp only [surplus, posted.balance accountID]
  split
  · rename_i same
    subst same
    omega
  · rw [Int.add_zero]

theorem balance_surplus_settle (snapshot : BillingBalanceSnapshot) (held actual : Int) :
    balanceSurplus (settleFunds snapshot held actual) = balanceSurplus snapshot := by
  rw [balanceSurplus, settle_funds_available, settle_funds_reserved, settle_funds_consumed, settle_funds_granted, balanceSurplus]
  omega

theorem balance_surplus_adjust (snapshot : BillingBalanceSnapshot) (usage : Int) :
    balanceSurplus (adjustFunds snapshot usage) = balanceSurplus snapshot + if usage < 0 then -usage else 0 := by
  rw [balanceSurplus, adjust_funds_available, adjust_funds_reserved, adjust_funds_consumed, adjust_funds_granted, balanceSurplus]
  split_ifs <;> omega

theorem surplus_still (ledger after : Ledger) (balance : BillingBalanceSnapshot) (entries : List BillingLedgerEntry) (accountID : String)
    (posted : Posted ledger after balance entries)
    (even : balanceSurplus balance = balanceSurplus (ledger.balance balance.accountID)) :
    surplus after accountID = surplus ledger accountID := by
  rw [surplus_posted ledger after balance entries accountID posted, even]
  split <;> omega

-- Credits, holds, releases and settlements move money between columns; none creates it.
theorem surplus_effect (ledger after : Ledger) (op : LedgerOp) (accountID : String) (effect : Effect ledger after op)
    (other : ∀ params, op ≠ .adjustAvailableBalance params) : surplus after accountID = surplus ledger accountID := by
  cases effect with
  | unmoved _ same => simp only [surplus, same.balances]
  | audited params entry audited => simp only [surplus, audited.balances]
  | credited params entry credited =>
      refine surplus_still _ _ _ _ _ credited.posted ?_
      simp only [creditFunds, balanceSurplus, ledger_balance_account]
      omega
  | held params reservation held =>
      obtain ⟨entry, posted, _⟩ := held.posted
      refine surplus_still _ _ _ _ _ posted ?_
      simp only [holdFunds, balanceSurplus, ledger_balance_account]
      omega
  | raised params current raised =>
      obtain ⟨entry, posted, _⟩ := raised.posted
      refine surplus_still _ _ _ _ _ posted ?_
      simp only [holdFunds, balanceSurplus, ledger_balance_account]
      omega
  | released params current released =>
      obtain ⟨entry, posted, _⟩ := released.posted
      refine surplus_still _ _ _ _ _ posted ?_
      simp only [freeFunds, balanceSurplus, ledger_balance_account]
      omega
  | dropped params current dropped => simp only [surplus, dropped.balances]
  | settled params current settlement settled =>
      obtain ⟨entries, posted, _⟩ := settled.posted
      refine surplus_still _ _ _ _ _ posted ?_
      rw [balance_surplus_settle, settle_funds_account]
      simp only [ledger_balance_account]
  | adjusted params entry _ adjusted => exact (other params rfl).elim

theorem surplus_step (env : LedgerEnv) (ledger : Ledger) (op : LedgerOp) (accountID : String) :
    surplus (step env ledger op) accountID = surplus ledger accountID + directReturn env ledger accountID op := by
  cases op with
  | adjustAvailableBalance params =>
      cases ran : execute env (.adjustAvailableBalance params) ledger with
      | mk outcome after =>
          cases outcome with
          | error problem => simp [step, transact, Tx.atomic, ran, directReturn]
          | ok row =>
              have stepped : step env ledger (.adjustAvailableBalance params) = after := by simp [step, transact, Tx.atomic, ran]
              have committed : (transact env (.adjustAvailableBalance params) ledger).1 = .ok row := by simp [transact, Tx.atomic, ran]
              simp only [directReturn, stepped, committed]
              obtain ⟨result, moved, _⟩ := ran_adjust env params ledger after row ran
              obtain ⟨rfl, zero, _⟩ | ⟨rfl, entry, entryIn, _, key, _⟩ | ⟨unknown, entry, _, adjusted⟩ :=
                adjusted_of_adjust env params _ _ result moved
              · simp [zero]
              · have known : (after.entries.find? fun row => row.idempotencyKey = params.idempotencyKey) ≠ none := by
                  intro missing
                  simpa [key] using (Table.find?_eq_none_iff _ _).mp missing entry entryIn
                simp [known]
              · rw [surplus_posted _ _ _ _ _ adjusted.posted, balance_surplus_adjust, adjust_funds_account]
                simp only [ledger_balance_account, unknown, and_true]
                by_cases same : params.accountID = accountID
                · subst same
                  simp
                · have apart : accountID ≠ params.accountID := fun equal => same equal.symm
                  simp [same, apart]
  | ensureBillingAccount params => simpa [directReturn] using surplus_effect _ _ _ accountID (step_effect env ledger (.ensureBillingAccount params)) (by simp)
  | recordAdjustment params => simpa [directReturn] using surplus_effect _ _ _ accountID (step_effect env ledger (.recordAdjustment params)) (by simp)
  | creditAccount params => simpa [directReturn] using surplus_effect _ _ _ accountID (step_effect env ledger (.creditAccount params)) (by simp)
  | createReservation params => simpa [directReturn] using surplus_effect _ _ _ accountID (step_effect env ledger (.createReservation params)) (by simp)
  | increaseReservation params => simpa [directReturn] using surplus_effect _ _ _ accountID (step_effect env ledger (.increaseReservation params)) (by simp)
  | releaseReservation params => simpa [directReturn] using surplus_effect _ _ _ accountID (step_effect env ledger (.releaseReservation params)) (by simp)
  | settleReservation params => simpa [directReturn] using surplus_effect _ _ _ accountID (step_effect env ledger (.settleReservation params)) (by simp)
  | tick seconds => simpa [directReturn] using surplus_effect _ _ _ accountID (step_effect env ledger (.tick seconds)) (by simp)

theorem surplus_run (env : LedgerEnv) (ledger : Ledger) (ops : List LedgerOp) (accountID : String) :
    surplus (run (step env) ledger ops) accountID = surplus ledger accountID + directReturns env accountID ledger ops := by
  induction ops generalizing ledger with
  | nil => simp [directReturns]
  | cons op rest ih =>
      rw [run_cons, ih, surplus_step, directReturns]
      omega

theorem failed_step (env : LedgerEnv) (ledger : Ledger) (op : LedgerOp) (problem : LedgerError)
    (failed : (transact env op ledger).1 = .error problem) : step env ledger op = ledger := by
  rcases Tx.atomic_store (execute env op) ledger with ⟨row, committed⟩ | ⟨_, rolledBack⟩
  · have answered := congrArg Prod.fst ((Tx.ran_atomic _ _ _ _).mpr committed)
    cases failed.symm.trans answered
  · exact rolledBack

-- In every reachable ledger nothing is overdrawn, the reserved balance is what the open reservations hold,
-- and all granted and directly returned credit is available, reserved or consumed.
theorem ledger_conservation (env : LedgerEnv) (ops : List LedgerOp) :
    let ledger := run (step env) Ledger.empty ops
    (∀ accountID, 0 ≤ (ledger.balance accountID).availableBalance ∧
      (ledger.balance accountID).reservedBalance = openHolds ledger accountID ∧
      (ledger.balance accountID).grantedTotal + directReturns env accountID Ledger.empty ops =
        (ledger.balance accountID).availableBalance + (ledger.balance accountID).reservedBalance +
          (ledger.balance accountID).consumedTotal) ∧
    ∀ op problem, (transact env op ledger).1 = .error problem → step env ledger op = ledger := by
  intro ledger
  have solvent : Solvent ledger := solvent_run env ops
  refine ⟨fun accountID => ⟨solvent.available accountID, solvent.reserved accountID, ?_⟩, fun op problem => failed_step env ledger op problem⟩
  have conserved : surplus ledger accountID = surplus Ledger.empty accountID + directReturns env accountID Ledger.empty ops :=
    surplus_run env Ledger.empty ops accountID
  have started : surplus Ledger.empty accountID = 0 := by
    simp [surplus, balanceSurplus, Ledger.balance, balanceOf, Ledger.empty, Table.find?]
  simp only [surplus, balanceSurplus] at conserved started
  omega

end CodeGo.Billing
