import CodeGo.Subscription.Grants

set_option autoImplicit false

namespace CodeGo.Subscription

open Relational Text Billing Machine Renewal

/- What stands on an account came there by entries, so an account without any is empty. From
   there each call of the ledger takes the account one stage on. -/

structure Vacant (ledger : Ledger) (accountID : String) : Prop where
  available : (ledger.balance accountID).availableBalance = 0
  reserved : (ledger.balance accountID).reservedBalance = 0
  unheld : ∀ row ∈ ledger.reservations.rows, row.accountID ≠ accountID

def Traced (ledger : Ledger) : Prop :=
  ∀ accountID, (∀ entry ∈ ledger.entries.rows, entry.accountID ≠ accountID) → Vacant ledger accountID

section Tracing

variable {ledger after : Ledger}

theorem Traced.grown (traced : Traced ledger) (entries : ∀ entry ∈ ledger.entries.rows, entry ∈ after.entries.rows)
    (kept : ∀ accountID, (∀ entry ∈ after.entries.rows, entry.accountID ≠ accountID) → Vacant ledger accountID →
      after.balance accountID = ledger.balance accountID ∧ ∀ row ∈ after.reservations.rows, row.accountID ≠ accountID) : Traced after := by
  intro accountID none
  have vacant := traced accountID fun entry entryIn => none entry (entries entry entryIn)
  obtain ⟨balance, unheld⟩ := kept accountID none vacant
  exact ⟨by rw [balance, vacant.available], by rw [balance, vacant.reserved], unheld⟩

theorem unheld_replaced {old new : BillingReservation} {accountID : String} (replaced : Table.Replaced ledger.reservations after.reservations old new)
    (same : new.accountID = old.accountID) (vacant : Vacant ledger accountID) : ∀ row ∈ after.reservations.rows, row.accountID ≠ accountID := by
  intro row member
  obtain rfl | ⟨kept, _⟩ := replaced.mem row member
  · rw [same]
    exact vacant.unheld old replaced.old_mem
  · exact vacant.unheld row kept

-- A posting that leaves an entry on its account.
theorem Traced.posted {balance : BillingBalanceSnapshot} {entry : BillingLedgerEntry} (traced : Traced ledger)
    (posted : Posted ledger after balance [entry]) (names : entry.accountID = balance.accountID)
    (unheld : ∀ accountID, accountID ≠ balance.accountID → Vacant ledger accountID → ∀ row ∈ after.reservations.rows, row.accountID ≠ accountID) :
    Traced after := by
  apply traced.grown
  · intro row member
    rw [posted.entries]
    exact List.mem_append_left _ member
  · intro accountID none vacant
    have apart : accountID ≠ balance.accountID := by
      rintro rfl
      apply none entry _ names
      rw [posted.entries]
      simp
    exact ⟨posted.balances.elsewhere accountID apart, unheld accountID apart vacant⟩

theorem Traced.effect {op : LedgerOp} (traced : Traced ledger) (effect : Effect ledger after op) : Traced after := by
  cases effect with
  | unmoved _ same =>
      refine traced.grown (fun entry member => same.entries ▸ member) fun accountID _ vacant => ⟨same.balances accountID, ?_⟩
      rw [same.reservations]
      exact vacant.unheld
  | audited _ entry audited =>
      refine traced.grown (fun row member => ?_) fun accountID _ vacant => ⟨audited.balances accountID, ?_⟩
      · rw [audited.entries]
        exact List.mem_append_left _ member
      · rw [audited.reservations]
        exact vacant.unheld
  | credited params entry credited =>
      apply traced.posted credited.posted
      · rw [credited.line.account]
        simp [creditFunds]
      · intro accountID _ vacant
        rw [credited.reservations]
        exact vacant.unheld
  | held params reservation held =>
      obtain ⟨entry, posted, line⟩ := held.posted
      obtain ⟨_, _, opened⟩ := held.opened
      have owner : reservation.accountID = params.accountID := by rw [opened, openReservation]
      apply traced.posted posted
      · rw [line.account]
        simp [holdFunds]
      · intro accountID apart vacant row member
        rw [held.reservations, List.mem_append, List.mem_singleton] at member
        obtain old | rfl := member
        · exact vacant.unheld row old
        · rw [owner]
          simpa [holdFunds, eq_comm] using apart
  | raised params current raised =>
      obtain ⟨entry, posted, line⟩ := raised.posted
      apply traced.posted posted
      · rw [line.account]
        simp [holdFunds]
      · exact fun accountID _ vacant => unheld_replaced raised.reservations rfl vacant
  | released params current released =>
      obtain ⟨entry, posted, line⟩ := released.posted
      apply traced.posted posted
      · rw [line.account]
        simp [freeFunds]
      · exact fun accountID _ vacant => unheld_replaced released.reservations rfl vacant
  | dropped params current dropped =>
      exact traced.grown (fun entry member => dropped.entries ▸ member)
        fun accountID _ vacant => ⟨dropped.balances accountID, unheld_replaced dropped.reservations rfl vacant⟩
  | settled params current settlement settled =>
      obtain ⟨entries, posted, _⟩ := settled.posted
      apply traced.grown
      · intro row member
        rw [posted.entries]
        exact List.mem_append_left _ member
      · -- The settlement may leave no entry, but the hold it closes left one.
        intro accountID _ vacant
        have apart : accountID ≠ current.accountID := fun same => vacant.unheld current settled.reservations.old_mem same.symm
        refine ⟨posted.balances.elsewhere accountID ?_, unheld_replaced settled.reservations rfl vacant⟩
        simpa using apart
  | adjusted params entry _ adjusted =>
      apply traced.posted adjusted.posted
      · rw [adjusted.line.account]
        simp
      · intro accountID _ vacant
        rw [adjusted.reservations]
        exact vacant.unheld

end Tracing

theorem traced_empty : Traced Ledger.empty := by
  intro accountID _
  exact ⟨rfl, rfl, fun row member => by simp [Ledger.empty] at member⟩

theorem traced_run (env : LedgerEnv) (ops : List LedgerOp) : Traced (run (step env) Ledger.empty ops) :=
  run_keeps (step env) Traced (fun _ => True) (fun ledger op _ kept => kept.effect (step_effect env ledger op)) Ledger.empty traced_empty ops
    fun _ _ => trivial

-- An account without holds: what is available on it, and the keys of its entries.
structure Stage (ledger : Ledger) (accountID : String) (available : Int) (keys : List String) : Prop where
  sound : Sound ledger
  available : (ledger.balance accountID).availableBalance = available
  reserved : (ledger.balance accountID).reservedBalance = 0
  entered : ∀ entry ∈ ledger.entries.rows, entry.accountID = accountID → entry.idempotencyKey ∈ keys
  unheld : ∀ row ∈ ledger.reservations.rows, row.accountID ≠ accountID

theorem stage_vacant {ledger : Ledger} {accountID : String} (sound : Sound ledger) (traced : Traced ledger)
    (none : ∀ entry ∈ ledger.entries.rows, entry.accountID ≠ accountID) : Stage ledger accountID 0 [] := by
  have vacant := traced accountID none
  exact ⟨sound, vacant.available, vacant.reserved, fun entry member same => (none entry member same).elim, vacant.unheld⟩

section Staging

variable {env : LedgerEnv} {ledger after : Ledger} {accountID : String} {available : Int} {keys : List String}

theorem Stage.unwritten (stage : Stage ledger accountID available []) : ∀ entry ∈ ledger.entries.rows, entry.accountID ≠ accountID :=
  fun entry member same => by simpa using stage.entered entry member same

theorem Stage.unmoved (stage : Stage ledger accountID available keys) (unmoved : Unmoved ledger after) (sound : Sound after) :
    Stage after accountID available keys where
  sound := sound
  available := by rw [unmoved.balances, stage.available]
  reserved := by rw [unmoved.balances, stage.reserved]
  entered := by
    rw [unmoved.entries]
    exact stage.entered
  unheld := by
    rw [unmoved.reservations]
    exact stage.unheld

theorem funding_of_member {subscriptionID : Int} {account : BillingAccount} (member : account ∈ ledger.accounts.rows)
    (funds : FundedBy account subscriptionID) : fundingAccountID env ledger subscriptionID = account.accountID := by
  cases looked : ledger.accounts.find? fun row => FundedBy row subscriptionID with
  | none =>
      have miss := (Table.find?_eq_none_iff _ _).mp looked account member
      exact (of_decide_eq_false miss funds).elim
  | some found =>
      obtain ⟨foundIn, foundFunds⟩ := Table.mem_of_find? _ _ _ looked
      rw [fundingAccountID, looked, account_unique foundIn member (of_decide_eq_true foundFunds) funds]

theorem Stage.opened {subscriptionID : Int} {account : BillingAccount}
    (stage : Stage ledger (fundingAccountID env ledger subscriptionID) available keys)
    (ran : ensureBillingAccountTx env (subscriptionAccountParams subscriptionID) ledger = (.ok account, after)) :
    account.accountID = fundingAccountID env ledger subscriptionID ∧ Stage after account.accountID available keys ∧
      account ∈ after.accounts.rows ∧ FundedBy account subscriptionID := by
  obtain ⟨carried, _, _, _, member, funds⟩ := account_of_ensure env _ _ _ _ ran
  have names := ensured_funding ran
  have unmoved := (ensured_account env _ _ _ _ ran).unmoved
  refine ⟨names, ?_, member, funds⟩
  rw [names]
  exact stage.unmoved unmoved (carried.sound stage.sound)

theorem Stage.backed (stage : Stage ledger accountID available []) {backed : Bool}
    (ran : subscriptionLedgerHasEntriesTx accountID ledger = (.ok backed, after)) : ledger = after ∧ backed = false := by
  obtain ⟨rfl, answer⟩ := ran_has_entries _ _ _ _ ran
  refine ⟨rfl, ?_⟩
  cases backed with
  | false => rfl
  | true =>
      obtain ⟨_, entry, member, same⟩ := answer.mp rfl
      exact (stage.unwritten entry member same).elim

theorem Stage.credited (stage : Stage ledger accountID available keys) {params : CreditAccountParams} {entry : BillingLedgerEntry}
    (on : params.accountID = accountID) (fresh : params.idempotencyKey ∉ keys) (ran : creditAccountTx env params ledger = (.ok entry, after)) :
    Stage after accountID (available + params.amount) (trimSpace params.idempotencyKey :: keys) ∧ after.accounts = ledger.accounts ∧
      entry ∈ after.entries.rows ∧ entry.accountID = accountID := by
  have sound := stage.sound.effect (credit_effect env params _ _ _ ran)
  obtain ⟨_, member, key, _, same, _⟩ | credited := credited_of_credit env params _ _ _ ran
  · have listed := stage.entered entry member (same.trans on)
    rw [key] at listed
    exact (fresh listed).elim
  · have shifted := shifted_of_posted credited.posted accountID (by simp [creditFunds, on])
    rw [on] at shifted
    have appended := credited.posted.entries
    refine ⟨⟨sound, ?_, ?_, fun row member here => ?_, ?_⟩, credited.posted.accounts, ?_, credited.line.account.trans on⟩
    · rw [shifted.available, stage.available]
      simp only [creditFunds, stage.available]
      omega
    · rw [shifted.held, stage.reserved]
      simp only [creditFunds, stage.reserved]
      omega
    · rw [appended, List.mem_append, List.mem_singleton] at member
      obtain old | rfl := member
      · exact List.mem_cons_of_mem _ (stage.entered row old here)
      · rw [credited.line.key]
        exact List.mem_cons_self
    · rw [credited.reservations]
      exact stage.unheld
    · rw [appended]
      simp

theorem Stage.recorded (stage : Stage ledger accountID available keys) {params : RecordAdjustmentParams} {entry : BillingLedgerEntry}
    (ran : recordAdjustmentTx env params ledger = (.ok entry, after)) :
    ∃ more, Stage after accountID available more ∧ ∀ key ∈ more, key ∈ keys ∨ key = params.idempotencyKey := by
  have sound := stage.sound.effect (record_effect env params _ _ _ ran)
  obtain ⟨rfl, _⟩ | audited := audited_of_record env params _ _ _ ran
  · exact ⟨keys, stage, fun key member => .inl member⟩
  · refine ⟨params.idempotencyKey :: keys, ⟨sound, ?_, ?_, fun row member here => ?_, ?_⟩, ?_⟩
    · rw [audited.balances, stage.available]
    · rw [audited.balances, stage.reserved]
    · rw [audited.entries, List.mem_append, List.mem_singleton] at member
      obtain old | rfl := member
      · exact List.mem_cons_of_mem _ (stage.entered row old here)
      · rw [audited.key]
        exact List.mem_cons_self
    · rw [audited.reservations]
      exact stage.unheld
    · intro key member
      rw [List.mem_cons] at member
      exact member.symm

theorem Stage.adjusted (stage : Stage ledger accountID available keys) {params : AdjustAvailableBalanceParams}
    {result : Option BillingLedgerEntry} (on : params.accountID = accountID) (fresh : params.idempotencyKey ∉ keys)
    (ran : adjustAvailableBalanceTx env params ledger = (.ok result, after)) :
    ∃ more, Stage after accountID (available - params.usageAmount) more ∧ ∀ key ∈ more, key ∈ keys ∨ key = trimSpace params.idempotencyKey := by
  have sound := stage.sound.effect (adjust_effect env params _ _ _ ran)
  obtain ⟨rfl, zero, _⟩ | ⟨rfl, entry, member, _, key, kind, nonzero⟩ | ⟨_, entry, _, adjusted⟩ := adjusted_of_adjust env params _ _ _ ran
  · rw [zero, Int.sub_zero]
    exact ⟨keys, stage, fun key member => .inl member⟩
  · -- A known key is answered for its own account only, and there it is not among the keys.
    have known : (after.entries.find? fun row => row.idempotencyKey = params.idempotencyKey) = some entry := by
      apply Table.find?_of_mem _ _ entry member (decide_eq_true key)
      intro other same
      exact .inr (key.trans (of_decide_eq_true same).symm)
    simp only [adjustAvailableBalanceTx, if_neg nonzero, findLedgerEntryByIdempotency, Tx.ran_bind, Tx.ran_reject, Tx.ran_view] at ran
    obtain ⟨_, _, ⟨_, rfl⟩, _, _, ⟨rfl, rfl⟩, ran⟩ := ran
    simp only [known, Tx.ran_bind, Tx.ran_reject] at ran
    obtain ⟨_, _, ⟨matched, _⟩, _⟩ := ran
    push Not at matched
    have listed := stage.entered entry member (matched.1.trans on)
    rw [key] at listed
    exact (fresh listed).elim
  · have shifted := shifted_of_posted adjusted.posted accountID (by simp [on])
    rw [on] at shifted
    have appended := adjusted.posted.entries
    refine ⟨trimSpace params.idempotencyKey :: keys, ⟨sound, ?_, ?_, fun row member here => ?_, ?_⟩, ?_⟩
    · rw [shifted.available, adjust_funds_available, stage.available]
      omega
    · rw [shifted.held, adjust_funds_reserved, stage.reserved]
      omega
    · rw [appended, List.mem_append, List.mem_singleton] at member
      obtain old | rfl := member
      · exact List.mem_cons_of_mem _ (stage.entered row old here)
      · rw [adjusted.line.key]
        exact List.mem_cons_self
    · rw [adjusted.reservations]
      exact stage.unheld
    · intro key member
      rw [List.mem_cons] at member
      exact member.symm

-- A hold moves the amount within the account.
theorem Stage.held (stage : Stage ledger accountID available keys) {params : CreateReservationParams} {reservation : BillingReservation}
    (on : params.accountID = accountID) (ran : createReservationTx env params ledger = (.ok reservation, after)) :
    Sound after ∧ (after.balance accountID).availableBalance = available - params.reservedAmount ∧
      (after.balance accountID).reservedBalance = params.reservedAmount ∧ reservation ∈ after.reservations.rows ∧
      reservation.status = .opened ∧ reservation.accountID = accountID ∧ reservation.reservedAmount = params.reservedAmount := by
  have sound := stage.sound.effect (create_effect env params _ _ _ ran)
  obtain ⟨_, member, _, matched⟩ | held := held_of_create env params _ _ _ ran
  · rw [ReservationMismatch] at matched
    push Not at matched
    exact (stage.unheld reservation member (matched.1.trans on)).elim
  · obtain ⟨entry, posted, _⟩ := held.posted
    obtain ⟨reservationID, now, opened⟩ := held.opened
    have shifted := shifted_of_posted posted accountID (by simp [holdFunds, on])
    rw [on] at shifted
    refine ⟨sound, ?_, ?_, ?_, ?_, ?_, ?_⟩
    · rw [shifted.available]
      simp only [holdFunds, stage.available]
      omega
    · rw [shifted.held]
      simp only [holdFunds, stage.reserved]
      omega
    · rw [held.reservations]
      simp
    · rw [opened, openReservation]
    · rw [opened, openReservation, on]
    · rw [opened, openReservation]

end Staging

end CodeGo.Subscription
