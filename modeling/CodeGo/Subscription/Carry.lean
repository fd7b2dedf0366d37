import CodeGo.Subscription.Maintenance

set_option autoImplicit false

namespace CodeGo.Subscription

open Relational Text Billing

/- What the operations of this package do to the ledger, told twice: what every one of them
   carries on, and how far it moves the balance of the one account it works on. -/

-- Everything but a new hold. A hold that is open afterwards was open before.
structure Carried (ledger after : Ledger) : Prop where
  sound : Sound ledger → Sound after
  extended : Extends ledger after
  accounts : ∀ account ∈ ledger.accounts.rows, account ∈ after.accounts.rows
  kinds : ∀ account ∈ after.accounts.rows, account ∈ ledger.accounts.rows ∨ ∃ subscriptionID, FundedBy account subscriptionID
  opened : ∀ row ∈ after.reservations.rows, row.status = .opened → row ∈ ledger.reservations.rows
  keys : ∀ row ∈ after.reservations.rows, ∃ before ∈ ledger.reservations.rows, before.idempotencyKey = row.idempotencyKey

structure Shifted (ledger after : Ledger) (accountID : String) (available held : Int) : Prop where
  available : (after.balance accountID).availableBalance = (ledger.balance accountID).availableBalance + available
  held : (after.balance accountID).reservedBalance = (ledger.balance accountID).reservedBalance + held
  elsewhere : ∀ other, other ≠ accountID → after.balance other = ledger.balance other

theorem Carried.refl (ledger : Ledger) : Carried ledger ledger :=
  ⟨id, .refl ledger, fun _ member => member, fun _ member => .inl member, fun _ member _ => member, fun row member => ⟨row, member, rfl⟩⟩

theorem Carried.trans {first second third : Ledger} (early : Carried first second) (late : Carried second third) : Carried first third := by
  refine ⟨fun sound => late.sound (early.sound sound), early.extended.trans late.extended,
    fun account member => late.accounts account (early.accounts account member), fun account member => ?_, fun row member opened => ?_,
    fun row member => ?_⟩
  · rcases late.kinds account member with kept | opened
    · exact early.kinds account kept
    · exact .inr opened
  · exact early.opened row (late.opened row member opened) opened
  · obtain ⟨middle, middleIn, sameKey⟩ := late.keys row member
    obtain ⟨before, beforeIn, beforeKey⟩ := early.keys middle middleIn
    exact ⟨before, beforeIn, beforeKey.trans sameKey⟩

theorem Shifted.still {ledger after : Ledger} (same : ∀ accountID, after.balance accountID = ledger.balance accountID) (accountID : String) :
    Shifted ledger after accountID 0 0 :=
  ⟨by simp [same], by simp [same], fun other _ => same other⟩

theorem Shifted.refl (ledger : Ledger) (accountID : String) : Shifted ledger ledger accountID 0 0 := .still (fun _ => rfl) accountID

theorem Shifted.amounts {ledger after : Ledger} {accountID : String} {available held more further : Int}
    (shifted : Shifted ledger after accountID available held) (first : available = more) (second : held = further) :
    Shifted ledger after accountID more further := by
  subst first second
  exact shifted

theorem shifted_of_posted {ledger after : Ledger} {balance : BillingBalanceSnapshot} {entries : List BillingLedgerEntry}
    (posted : Posted ledger after balance entries) (accountID : String) (names : balance.accountID = accountID) :
    Shifted ledger after accountID (balance.availableBalance - (ledger.balance accountID).availableBalance)
      (balance.reservedBalance - (ledger.balance accountID).reservedBalance) := by
  subst names
  have here := posted.balance balance.accountID
  rw [if_pos rfl] at here
  refine ⟨by rw [here]; omega, by rw [here]; omega, fun other different => ?_⟩
  rw [posted.balance other, if_neg different]

-- Operations that neither open a hold nor raise one.
def Quiet : LedgerOp → Prop
  | .createReservation _ => False
  | .increaseReservation _ => False
  | _ => True

theorem opened_of_replaced {reservations next : Table BillingReservation} {old new row : BillingReservation}
    (replaced : Table.Replaced reservations next old new) (closed : new.status ≠ .opened) (member : row ∈ next.rows)
    (opened : row.status = .opened) : row ∈ reservations.rows := by
  rcases replaced.mem row member with rfl | ⟨kept, _⟩
  · exact (closed opened).elim
  · exact kept

theorem opened_of_effect {ledger after : Ledger} {op : LedgerOp} (effect : Effect ledger after op) (quiet : Quiet op)
    (row : BillingReservation) (member : row ∈ after.reservations.rows) (opened : row.status = .opened) : row ∈ ledger.reservations.rows := by
  cases effect with
  | unmoved _ same => rwa [same.reservations] at member
  | audited params entry audited => rwa [audited.reservations] at member
  | credited params entry credited => rwa [credited.reservations] at member
  | held params reservation held => exact quiet.elim
  | raised params current raised => exact quiet.elim
  | released params current released => exact opened_of_replaced released.reservations (by simp) member opened
  | dropped params current dropped => exact opened_of_replaced dropped.reservations (by simp) member opened
  | settled params current settlement settled => exact opened_of_replaced settled.reservations (by simp) member opened
  | adjusted params entry _ adjusted => rwa [adjusted.reservations] at member

theorem carried_of_effect {ledger after : Ledger} {op : LedgerOp} (effect : Effect ledger after op) (quiet : Quiet op)
    (accounts : ∀ account ∈ after.accounts.rows, account ∈ ledger.accounts.rows ∨ ∃ subscriptionID, FundedBy account subscriptionID) :
    Carried ledger after := by
  have moves := Moves.single effect
  refine ⟨moves.sound, moves.extends, moves.accounts, accounts, opened_of_effect effect quiet, fun row member => ?_⟩
  rcases effect.reservation_key row member with known | created
  · exact known
  · cases op <;> simp_all [LedgerOp.reservationKeys, Quiet]

theorem kinds_of_same {ledger after : Ledger} (same : after.accounts = ledger.accounts) :
    ∀ account ∈ after.accounts.rows, account ∈ ledger.accounts.rows ∨ ∃ subscriptionID, FundedBy account subscriptionID :=
  fun _ member => .inl (same ▸ member)

theorem owner_type_trimmed : trimSpace "user_subscription" = "user_subscription" := by decide

theorem account_type_trimmed : trimSpace "subscription" = "subscription" := by decide

theorem quota_trimmed : (if Blank "quota" then "quota" else trimSpace "quota") = "quota" := by decide

-- Opening the account of a subscription moves nothing.
theorem account_of_ensure (env : LedgerEnv) (subscriptionID : Int) (ledger after : Ledger) (account : BillingAccount)
    (ran : ensureBillingAccountTx env (subscriptionAccountParams subscriptionID) ledger = (.ok account, after)) :
    Carried ledger after ∧ (∀ accountID, after.balance accountID = ledger.balance accountID) ∧ after.entries = ledger.entries ∧
      after.reservations = ledger.reservations ∧ account ∈ after.accounts.rows ∧ FundedBy account subscriptionID := by
  have ensured := ensured_account env _ _ _ _ ran
  have funded : FundedBy account subscriptionID :=
    ⟨ensured.kind.trans account_type_trimmed, ensured.owner.1.trans owner_type_trimmed, ensured.owner.2, ensured.unit.trans quota_trimmed⟩
  have effect : Effect ledger after (.ensureBillingAccount (subscriptionAccountParams subscriptionID)) := .unmoved _ ensured.unmoved
  refine ⟨carried_of_effect effect trivial fun other member => ?_, ensured.unmoved.balances, ensured.unmoved.entries,
    ensured.unmoved.reservations, ensured.member, funded⟩
  rcases ensured.opened with same | appended
  · exact .inl (same ▸ member)
  · rw [appended, List.mem_append, List.mem_singleton] at member
    refine member.imp_right fun new => ⟨subscriptionID, ?_⟩
    rwa [new]

-- No two accounts fund one subscription.
theorem account_unique {ledger : Ledger} {first second : BillingAccount} {subscriptionID : Int} (firstIn : first ∈ ledger.accounts.rows)
    (secondIn : second ∈ ledger.accounts.rows) (firstFunds : FundedBy first subscriptionID) (secondFunds : FundedBy second subscriptionID) :
    first = second := by
  obtain ⟨kind, owner, ownerID, unit⟩ := firstFunds
  obtain ⟨kind', owner', ownerID', unit'⟩ := secondFunds
  refine Table.eq_of_clash ledger.accounts first second firstIn secondIn (.inr ?_)
  simp [Indexed.index, kind, owner, ownerID, unit, kind', owner', ownerID', unit']

theorem carried_of_record (env : LedgerEnv) (params : RecordAdjustmentParams) (ledger after : Ledger) (entry : BillingLedgerEntry)
    (ran : recordAdjustmentTx env params ledger = (.ok entry, after)) :
    Carried ledger after ∧ ∀ accountID, after.balance accountID = ledger.balance accountID := by
  have effect := record_effect env params _ _ _ ran
  obtain ⟨rfl, _⟩ | audited := audited_of_record env params _ _ _ ran
  · exact ⟨.refl _, fun _ => rfl⟩
  · exact ⟨carried_of_effect effect trivial (kinds_of_same audited.accounts), audited.balances⟩

-- A credit is posted, or its key was known with the same account and amount.
theorem carried_of_credit (env : LedgerEnv) (params : CreditAccountParams) (ledger after : Ledger) (entry : BillingLedgerEntry)
    (ran : creditAccountTx env params ledger = (.ok entry, after)) :
    Carried ledger after ∧ 0 < params.amount ∧ (Shifted ledger after params.accountID params.amount 0 ∨
      (after = ledger ∧ entry ∈ ledger.entries.rows ∧ entry.idempotencyKey = params.idempotencyKey ∧ entry.entryType = .grantCredit ∧
        entry.accountID = params.accountID ∧ entry.amount = params.amount)) := by
  have effect := credit_effect env params _ _ _ ran
  have positive : 0 < params.amount := by
    simp only [creditAccountTx, Tx.ran_bind, Tx.ran_reject] at ran
    obtain ⟨_, _, ⟨accepted, _⟩, _⟩ := ran
    push Not at accepted
    exact accepted.2.1
  obtain ⟨rfl, replayed⟩ | credited := credited_of_credit env params _ _ _ ran
  · exact ⟨.refl _, positive, .inr ⟨rfl, replayed⟩⟩
  · refine ⟨carried_of_effect effect trivial (kinds_of_same credited.posted.accounts), positive, .inl ?_⟩
    refine (shifted_of_posted credited.posted params.accountID (by simp [creditFunds])).amounts ?_ ?_
    · simp only [creditFunds]
      omega
    · simp [creditFunds]

theorem carried_of_adjust (env : LedgerEnv) (params : AdjustAvailableBalanceParams) (ledger after : Ledger) (result : Option BillingLedgerEntry)
    (ran : adjustAvailableBalanceTx env params ledger = (.ok result, after)) :
    Carried ledger after ∧ (Shifted ledger after params.accountID (-params.usageAmount) 0 ∨
      (after = ledger ∧ ∃ entry ∈ ledger.entries.rows, entry.idempotencyKey = params.idempotencyKey)) := by
  have effect := adjust_effect env params _ _ _ ran
  obtain ⟨rfl, zero, _⟩ | ⟨rfl, entry, member, _, key, _⟩ | ⟨_, entry, _, adjusted⟩ := adjusted_of_adjust env params _ _ _ ran
  · exact ⟨.refl _, .inl ((Shifted.refl _ _).amounts (by simp [zero]) rfl)⟩
  · exact ⟨.refl _, .inr ⟨rfl, entry, member, key⟩⟩
  · refine ⟨carried_of_effect effect trivial (kinds_of_same adjusted.posted.accounts), .inl ?_⟩
    refine (shifted_of_posted adjusted.posted params.accountID (by simp)).amounts ?_ ?_
    · rw [adjust_funds_available]
      omega
    · rw [adjust_funds_reserved]
      omega

-- An open hold has no settlement yet and no release, so closing it is never a replay.
theorem carried_of_settle (env : LedgerEnv) (params : SettleReservationParams) (ledger after : Ledger) (settlement : BillingSettlement)
    (sound : Sound ledger) (reservation : BillingReservation) (member : reservation ∈ ledger.reservations.rows)
    (opened : reservation.status = .opened) (names : params.reservationID = reservation.reservationID)
    (ran : settleReservationTx env params ledger = (.ok settlement, after)) :
    Carried ledger after ∧ 0 ≤ params.actualAmount ∧
      Shifted ledger after reservation.accountID (-(params.actualAmount - reservation.reservedAmount)) (-reservation.reservedAmount) ∧
      Table.Replaced ledger.reservations after.reservations reservation { reservation with status := .settled } := by
  have effect := settle_effect env params _ _ _ ran
  obtain ⟨rfl, known, _, same, _⟩ | ⟨current, currentIn, settled⟩ := settled_of_settle env params _ _ _ ran
  · have nothing := ((sound.lifecycle.staged reservation member).opened opened).unsettled
    rw [settlementRows, List.filter_eq_nil_iff] at nothing
    exact (nothing settlement known (by simp [same, names])).elim
  · obtain rfl : current = reservation := Table.eq_of_clash _ _ _ currentIn member (clash_of_reservation_id _ _ (settled.named.trans names))
    obtain ⟨entries, posted, _⟩ := settled.posted
    refine ⟨carried_of_effect effect trivial (kinds_of_same posted.accounts), settled.actual, ?_, settled.reservations⟩
    refine (shifted_of_posted posted current.accountID (by simp)).amounts ?_ ?_
    · rw [settle_funds_available]
      omega
    · rw [settle_funds_reserved]
      omega

end CodeGo.Subscription
