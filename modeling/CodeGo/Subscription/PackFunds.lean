import CodeGo.Lib.Commits
import CodeGo.Subscription.FirstWrites

set_option autoImplicit false

namespace CodeGo.Subscription.Packs

open Relational Text Billing

/- A credit pack is credited once, to its own account. Metering holds, settles and gives back holds there, so what the account
   carries never grows again. -/

theorem funds_of_posted {ledger after : Ledger} {balance : BillingBalanceSnapshot} {entries : List BillingLedgerEntry}
    (posted : Posted ledger after balance entries)
    (less : balance.availableBalance + balance.reservedBalance ≤ funds ledger balance.accountID) (accountID : String) :
    funds after accountID ≤ funds ledger accountID := by
  rw [funds, posted.balance accountID]
  by_cases here : accountID = balance.accountID
  · rw [if_pos here, here]
    exact less
  · rw [if_neg here, ← funds]

theorem funds_same {ledger after : Ledger} (same : ∀ accountID, after.balance accountID = ledger.balance accountID) (accountID : String) :
    funds after accountID ≤ funds ledger accountID := by
  rw [funds, same, ← funds]

-- Everything but a credit and a correction.
def Metering : LedgerOp → Prop
  | .creditAccount _ => False
  | .adjustAvailableBalance _ => False
  | .createReservation params => ∃ rest, params.idempotencyKey = "subscription:" ++ rest
  | _ => True

theorem funds_of_effect {ledger after : Ledger} {op : LedgerOp} (effect : Effect ledger after op) (metering : Metering op) (accountID : String) :
    funds after accountID ≤ funds ledger accountID := by
  cases effect with
  | unmoved _ same => exact funds_same same.balances accountID
  | audited params entry audited => exact funds_same audited.balances accountID
  | credited params entry credited => exact metering.elim
  | held params reservation held =>
      obtain ⟨entry, posted, _⟩ := held.posted
      apply funds_of_posted posted
      simp only [holdFunds, funds, ledger_balance_account]
      omega
  | raised params current raised =>
      obtain ⟨entry, posted, _⟩ := raised.posted
      apply funds_of_posted posted
      simp only [holdFunds, funds, ledger_balance_account]
      omega
  | released params current released =>
      obtain ⟨entry, posted, _⟩ := released.posted
      apply funds_of_posted posted
      simp only [freeFunds, funds, ledger_balance_account]
      omega
  | dropped params current dropped => exact funds_same dropped.balances accountID
  | settled params current settlement settled =>
      obtain ⟨entries, posted, _⟩ := settled.posted
      have actual := settled.actual
      apply funds_of_posted posted
      rw [settle_funds_available, settle_funds_reserved, settle_funds_account, funds, ledger_balance_account]
      omega
  | adjusted params entry _ adjusted => exact metering.elim

-- The account of a pack, which its purchase has credited.
structure PackReady (pack : UserSubscription) (account : BillingAccount) (ledger : Ledger) : Prop where
  sound : Sound ledger
  backed : Backed ledger account pack.id

theorem PackReady.effect {pack : UserSubscription} {account : BillingAccount} {ledger after : Ledger} {op : LedgerOp}
    (ready : PackReady pack account ledger) (effect : Effect ledger after op) : PackReady pack account after := by
  have moves := Moves.single effect
  exact ⟨ready.sound.effect effect, ready.backed.carried moves.accounts moves.extends.entries⟩

def MeteringKey (key : String) : Prop := ∃ rest, key = trimSpace ("subscription:" ++ rest)

-- What metering does to the ledger of a pack.
structure Metered (account : BillingAccount) (ledger after : Ledger) : Prop where
  drained : funds after account.accountID ≤ funds ledger account.accountID
  keys : ∀ row ∈ after.reservations.rows,
    (∃ before ∈ ledger.reservations.rows, before.idempotencyKey = row.idempotencyKey) ∨ MeteringKey row.idempotencyKey

def MetersLedger (pack : UserSubscription) (account : BillingAccount) (ledger after : Ledger) : Prop :=
  PackReady pack account ledger → PackReady pack account after ∧ Metered account ledger after

theorem Metered.trans {account : BillingAccount} {first second third : Ledger} (early : Metered account first second)
    (late : Metered account second third) : Metered account first third := by
  refine ⟨late.drained.trans early.drained, fun row member => ?_⟩
  obtain ⟨middle, middleIn, sameKey⟩ | fresh := late.keys row member
  · rw [← sameKey]
    exact early.keys middle middleIn
  · exact .inr fresh

theorem meters_composable (pack : UserSubscription) (account : BillingAccount) : Tx.Composable (MetersLedger pack account) := by
  constructor
  · intro ledger ready
    exact ⟨ready, le_rfl, fun row member => .inl ⟨row, member, rfl⟩⟩
  · intro first second third early late ready
    obtain ⟨middle, metered⟩ := early ready
    obtain ⟨final, further⟩ := late middle
    exact ⟨final, metered.trans further⟩

section Ledgers

variable {pack : UserSubscription} {account : BillingAccount}

theorem meters_of_effect {ledger after : Ledger} {op : LedgerOp} (effect : Effect ledger after op) (metering : Metering op) :
    MetersLedger pack account ledger after := by
  intro ready
  refine ⟨ready.effect effect, funds_of_effect effect metering _, ?_⟩
  intro row member
  obtain known | created := effect.reservation_key row member
  · exact .inl known
  · right
    cases op with
    | createReservation params =>
        obtain ⟨rest, named⟩ := metering
        rw [LedgerOp.reservationKeys, List.mem_singleton, named] at created
        exact ⟨rest, created⟩
    | _ => simp [LedgerOp.reservationKeys] at created

theorem meters_ensure (env : LedgerEnv) (subscriptionID : Int) :
    Tx.Commits (MetersLedger pack account) (ensureBillingAccountTx env (subscriptionAccountParams subscriptionID)) := by
  intro ledger opened after ran
  exact meters_of_effect (.unmoved (.ensureBillingAccount (subscriptionAccountParams subscriptionID)) (ensured_account env _ _ _ _ ran).unmoved) trivial

theorem meters_create (env : LedgerEnv) {params : CreateReservationParams} {rest : String} (key : params.idempotencyKey = "subscription:" ++ rest) :
    Tx.Commits (MetersLedger pack account) (createReservationTx env params) := by
  intro ledger reservation after ran
  exact meters_of_effect (create_effect env params ledger after reservation ran) ⟨rest, key⟩

theorem meters_settle (env : LedgerEnv) (params : SettleReservationParams) :
    Tx.Commits (MetersLedger pack account) (settleReservationTx env params) := by
  intro ledger settlement after ran
  exact meters_of_effect (settle_effect env params ledger after settlement ran) trivial

theorem meters_release (env : LedgerEnv) (params : ReleaseReservationParams) :
    Tx.Commits (MetersLedger pack account) (releaseReservationTx env params) := by
  intro ledger released after ran
  exact meters_of_effect (release_effect env params ledger after released ran) trivial

theorem meters_record (env : LedgerEnv) (params : RecordAdjustmentParams) :
    Tx.Commits (MetersLedger pack account) (recordAdjustmentTx env params) := by
  intro ledger entry after ran
  exact meters_of_effect (record_effect env params ledger after entry ran) trivial

theorem meters_settle_each (env : LedgerEnv) (evidenceID : String) (key : String → String) (reservations : List BillingReservation) (remaining : Int) :
    Tx.Commits (MetersLedger pack account) (settleEach env evidenceID key remaining reservations) := by
  have composes := meters_composable pack account
  induction reservations generalizing remaining with
  | nil => exact Tx.commits_pure composes ()
  | cons reservation rest ih =>
      cases rest with
      | nil => exact Tx.commits_bind composes (meters_settle env _) fun _ => Tx.commits_pure composes ()
      | cons next rest => exact Tx.commits_bind composes (meters_settle env _) fun _ => ih _

theorem meters_release_each (env : LedgerEnv) (key : String → String) (reasonCode : String) (reservations : List BillingReservation) :
    Tx.Commits (MetersLedger pack account) (releaseEach env key reasonCode reservations) := by
  have composes := meters_composable pack account
  induction reservations with
  | nil => exact Tx.commits_pure composes ()
  | cons reservation rest ih => exact Tx.commits_bind composes (meters_release env _) fun _ => ih

-- The account of a pack has entries, so nothing is brought into it.
theorem meters_bootstrap (env : SubscriptionEnv) {sub : UserSubscription} (same : sub.id = pack.id) (requestID : String) :
    Tx.Commits (MetersLedger pack account) (bootstrapSubscription env sub requestID) := by
  intro ledger found after ran ready
  simp only [bootstrapSubscription, Tx.ran_bind] at ran
  obtain ⟨opened, _, ensured, backed, _, asked, ran⟩ := ran
  have metered := @meters_ensure pack account env.toLedgerEnv sub.id _ _ _ ensured ready
  obtain ⟨_, _, _, _, member, funded⟩ := account_of_ensure env.toLedgerEnv _ _ _ _ ensured
  rw [same] at funded
  obtain rfl := account_unique member metered.1.backed.member funded metered.1.backed.funds
  obtain ⟨rfl, answer⟩ := ran_has_entries _ _ _ _ asked
  have known : backed = true := answer.mpr ⟨metered.1.backed.named, metered.1.backed.entered⟩
  rw [if_pos (.inl known), Tx.ran_pure] at ran
  obtain ⟨_, rfl⟩ := ran
  exact metered

theorem reserve_key_front (requestID : String) : ∃ rest, reserveKey requestID = "subscription:" ++ rest := ⟨_, String.append_assoc⟩

theorem extra_key_front (requestID : String) (used : Int) : ∃ rest, reserveExtraKey requestID used = "subscription:" ++ rest :=
  ⟨_, String.append_assoc.trans String.append_assoc⟩

theorem meters_reserve (env : SubscriptionEnv) {sub : UserSubscription} (same : sub.id = pack.id) (record : SubscriptionPreConsumeRecord)
    (locked : Option BillingAccount) : Tx.Commits (MetersLedger pack account) (reserveSubscriptionLedgerTx env sub record locked) := by
  have composes := meters_composable pack account
  obtain ⟨rest, front⟩ := reserve_key_front record.requestID
  unfold reserveSubscriptionLedgerTx
  split
  · exact Tx.commits_pure composes none
  · apply Tx.commits_bind composes
    · cases locked with
      | none => exact meters_bootstrap env same _
      | some known => exact Tx.commits_pure composes known
    · intro funding
      refine Tx.commits_bind composes (Tx.commits_view composes _) fun expiresAt => ?_
      exact Tx.commits_bind composes (meters_create env.toLedgerEnv front) fun _ => Tx.commits_pure composes _

end Ledgers

-- What the purchase of a pack has fixed.
structure SamePack (pack sub : UserSubscription) : Prop where
  id : sub.id = pack.id
  granted : sub.creditPackGrantedQuota = pack.creditPackGrantedQuota
  paid : sub.creditPackPaidQuota = pack.creditPackPaidQuota
  total : sub.amountTotal = pack.amountTotal

structure PackStored (pack : UserSubscription) (account : BillingAccount) (store : SubscriptionStore) : Prop where
  ready : PackReady pack account store.ledger
  row : ∃ sub, store.subscription pack.id = some sub ∧ SamePack pack sub

def Meters (pack : UserSubscription) (account : BillingAccount) (store after : SubscriptionStore) : Prop :=
  PackStored pack account store → PackStored pack account after ∧ Metered account store.ledger after.ledger

theorem meters_store_composable (pack : UserSubscription) (account : BillingAccount) : Tx.Composable (Meters pack account) := by
  constructor
  · intro store stored
    exact ⟨stored, le_rfl, fun row member => .inl ⟨row, member, rfl⟩⟩
  · intro first second third early late stored
    obtain ⟨middle, metered⟩ := early stored
    obtain ⟨final, further⟩ := late middle
    exact ⟨final, metered.trans further⟩

section Stores

variable {pack : UserSubscription} {account : BillingAccount}

theorem meters_on_ledger {α : Type} {work : LedgerTx α} (meters : Tx.Commits (MetersLedger pack account) work) :
    Tx.Commits (Meters pack account) (onLedger work) := by
  intro store result after ran stored
  obtain ⟨ledger, moved, rfl⟩ := (ran_on_ledger work result).mp ran
  obtain ⟨ready, metered⟩ := meters _ _ _ moved stored.ready
  exact ⟨⟨ready, stored.row⟩, metered⟩

-- A write beside the ledger and the subscriptions.
theorem meters_aside {store after : SubscriptionStore} (ledger : after.ledger = store.ledger) (rows : after.subscriptions = store.subscriptions) :
    Meters pack account store after := by
  intro stored
  obtain ⟨sub, row, same⟩ := stored.row
  refine ⟨⟨by rw [ledger]; exact stored.ready, sub, ?_, same⟩, ?_⟩
  · rw [SubscriptionStore.subscription, rows]
    exact row
  · rw [ledger]
    exact ⟨le_rfl, fun row member => .inl ⟨row, member, rfl⟩⟩

theorem meters_saved {store : SubscriptionStore} {used : UserSubscription} (same : used.id = pack.id → SamePack pack used) :
    Meters pack account store (saved store used) := by
  intro stored
  obtain ⟨sub, row, before⟩ := stored.row
  refine ⟨⟨stored.ready, ?_⟩, le_rfl, fun row member => .inl ⟨row, member, rfl⟩⟩
  rw [saved_subscription]
  by_cases here : pack.id = used.id
  · rw [if_pos here, row]
    exact ⟨used, rfl, same here.symm⟩
  · rw [if_neg here]
    exact ⟨sub, row, before⟩

theorem same_of_row {store : SubscriptionStore} {sub : UserSubscription} {subscriptionID : Int} (stored : PackStored pack account store)
    (row : store.subscription subscriptionID = some sub) (named : sub.id = subscriptionID) (here : sub.id = pack.id) : SamePack pack sub := by
  obtain ⟨known, knownRow, same⟩ := stored.row
  rw [← named, here, knownRow] at row
  rw [← Option.some.inj row]
  exact same

theorem same_of_used {plan : SubscriptionPlan} {sub used : UserSubscription} {modelName : String} {delta : Int} (same : SamePack pack sub)
    (applied : applySubscriptionUsageDelta plan sub modelName delta = .ok used) : SamePack pack used := by
  rw [used_of_delta applied]
  exact ⟨same.id, same.granted, same.paid, same.total⟩

theorem used_id {plan : SubscriptionPlan} {sub used : UserSubscription} {modelName : String} {delta : Int}
    (applied : applySubscriptionUsageDelta plan sub modelName delta = .ok used) : used.id = sub.id := by
  rw [used_of_delta applied]

theorem meters_post_consume (subscriptionID : Int) (modelName : String) (delta : Int) :
    Tx.Commits (Meters pack account) (postConsumeUserSubscriptionUsageDeltaTx subscriptionID modelName delta) := by
  intro store result after ran stored
  simp only [postConsumeUserSubscriptionUsageDeltaTx, Tx.ran_bind, Tx.ran_lift, ran_save_subscription] at ran
  obtain ⟨sub, _, locked, plan, _, planned, used, _, ⟨applied, rfl⟩, rfl⟩ := ran
  obtain ⟨rfl, row, named⟩ := ran_lock_subscription _ _ locked
  obtain ⟨rfl, _⟩ := ran_plan _ _ planned
  exact meters_saved (fun here => same_of_used (same_of_row stored row named ((used_id applied).symm.trans here)) applied) stored

theorem meters_save_record (record : SubscriptionPreConsumeRecord) : Tx.Commits (Meters pack account) (saveRecord record) := by
  intro store result after ran
  rw [ran_save_record] at ran
  subst ran
  exact meters_aside rfl rfl

theorem meters_lock_subscription (subscriptionID : Int) : Tx.Commits (Meters pack account) (lockUserSubscriptionRecordTx subscriptionID) := by
  intro store sub after ran
  obtain ⟨rfl, _⟩ := ran_lock_subscription _ _ ran
  exact (meters_store_composable pack account).refl _

theorem meters_open_reservations (requestID : String) :
    Tx.Commits (Meters pack account) (onLedger (findOpenSubscriptionReservationsTx requestID)) :=
  meters_on_ledger (Tx.commits_view (meters_composable pack account) _)

theorem meters_settle_finite (env : SubscriptionEnv) (record : SubscriptionPreConsumeRecord) (actualAmount : Int) :
    Tx.Commits (Meters pack account) (settleFiniteReservationTx env record actualAmount) := by
  have composes := meters_store_composable pack account
  refine Tx.commits_bind composes (meters_open_reservations _) fun reservations => ?_
  split
  · exact Tx.commits_bind composes (Tx.commits_view composes _) fun settled => Tx.commits_reject composes _ _
  · refine Tx.commits_bind composes (meters_on_ledger (meters_settle_each _ _ _ _ _)) fun _ => ?_
    split
    · exact Tx.commits_pure composes ()
    · exact meters_post_consume _ _ _

theorem meters_refund_finite (env : SubscriptionEnv) (record : SubscriptionPreConsumeRecord) :
    Tx.Commits (Meters pack account) (refundFinite env record) := by
  have composes := meters_store_composable pack account
  refine Tx.commits_bind composes (meters_open_reservations _) fun reservations => ?_
  apply Tx.commits_bind composes (Tx.commits_reject composes _ _)
  intro _
  apply Tx.commits_bind composes (meters_on_ledger (meters_release_each _ _ _ _))
  intro _
  exact Tx.commits_bind composes (meters_post_consume _ _ _) fun _ => meters_save_record _

-- Usage of an unlimited subscription is noted in the ledger and moves no balance.
theorem meters_adjust_unlimited (env : SubscriptionEnv) {sub : UserSubscription} (plan : SubscriptionPlan) (opened : BillingAccount)
    (modelName : String) (delta : Int) (key : String) (other : sub.id ≠ pack.id) :
    Tx.Commits (Meters pack account) (adjustUnlimitedUsage env sub plan opened modelName delta key) := by
  intro store result after ran
  simp only [adjustUnlimitedUsage, noteEvidence, Tx.ran_bind, Tx.ran_reject, Tx.ran_lift, Tx.ran_edit, ran_save_subscription] at ran
  obtain ⟨_, _, ⟨_, rfl⟩, used, _, ⟨applied, rfl⟩, entry, middle, recorded, _, _, rfl, rfl⟩ := ran
  have composes := meters_store_composable pack account
  have early := meters_on_ledger (@meters_record pack account env.toLedgerEnv _) _ _ _ recorded
  have noted : Meters pack account middle { middle with evidence := (entry.entryID, { delta, model := modelName }) :: middle.evidence } :=
    meters_aside rfl rfl
  apply composes.trans _ _ _ early
  apply composes.trans _ _ _ noted
  exact meters_saved fun here => (other ((used_id applied).symm.trans here)).elim

theorem meters_adjust {env : SubscriptionEnv} {store after : SubscriptionStore} {subscriptionID : Int} {modelName operationKey : String} {delta : Int}
    {applied : Bool} {sub : UserSubscription} (row : store.subscription subscriptionID = some sub) (unlimited : sub.amountTotal = 0)
    (other : sub.id ≠ pack.id) (ran : adjustUserSubscriptionUsageDeltaTx env subscriptionID modelName delta operationKey store = (.ok applied, after)) :
    Meters pack account store after := by
  have composes := meters_store_composable pack account
  simp only [adjustUserSubscriptionUsageDeltaTx, Tx.ran_bind, Tx.ran_reject] at ran
  obtain ⟨_, _, ⟨_, rfl⟩, ran⟩ := ran
  split at ran
  · simp only [Tx.ran_pure] at ran
    obtain ⟨_, rfl⟩ := ran
    exact composes.refl _
  · simp only [Tx.ran_bind] at ran
    obtain ⟨found, _, locked, opened, middle, ensured, prior, _, looked, ran⟩ := ran
    obtain ⟨rfl, foundRow, _⟩ := ran_lock_subscription _ _ locked
    obtain rfl := Option.some.inj (row.symm.trans foundRow)
    have early := meters_on_ledger (@meters_ensure pack account env.toLedgerEnv subscriptionID) _ _ _ ensured
    obtain ⟨_, reading, rfl⟩ := (ran_on_ledger _ _).mp looked
    simp only [findLedgerEntryByIdempotency, Tx.ran_view] at reading
    obtain ⟨_, rfl⟩ := reading
    apply composes.trans _ _ _ early
    cases prior with
    | some entry =>
        simp only [storedEvidence, Tx.ran_bind, Tx.ran_view, Tx.ran_reject, Tx.ran_pure] at ran
        obtain ⟨_, _, ⟨_, rfl⟩, _, _, ⟨_, rfl⟩, _, rfl⟩ := ran
        exact composes.refl _
    | none =>
        simp only [adjustUsage, Tx.ran_bind, if_pos unlimited, Tx.ran_pure] at ran
        obtain ⟨_, _, ⟨plan, _, planned, adjusted⟩, _, rfl⟩ := ran
        obtain ⟨rfl, _⟩ := ran_plan _ _ planned
        exact meters_adjust_unlimited env _ _ _ _ _ other _ _ _ adjusted

theorem meters_settle_pack (env : SubscriptionEnv) (finite : pack.amountTotal ≠ 0) (requestID modelName : String) (actualAmount : Int) :
    Tx.Commits (Meters pack account) (settleSubscriptionReservationTx env requestID pack.id modelName actualAmount) := by
  intro store result after ran stored
  simp only [settleSubscriptionReservationTx, Tx.ran_bind, Tx.ran_reject] at ran
  obtain ⟨_, _, ⟨_, rfl⟩, _, _, ⟨_, rfl⟩, _, _, ⟨_, rfl⟩, record, _, found, _, _, ⟨owned, rfl⟩, _, _, ⟨_, rfl⟩, sub, _, locked, ran⟩ := ran
  obtain ⟨rfl, _⟩ := ran_lock_record _ _ found
  obtain ⟨rfl, row, named⟩ := ran_lock_subscription _ _ locked
  have same := same_of_row stored row named (named.trans (not_not.mp owned))
  rw [if_neg (by rw [same.total]; exact finite)] at ran
  exact meters_settle_finite env record actualAmount _ _ _ ran stored

theorem meters_refund (env : SubscriptionEnv) (finite : pack.amountTotal ≠ 0) (requestID : String) :
    Tx.Commits (Meters pack account) (refundSubscriptionPreConsume env requestID) := by
  have composes := meters_store_composable pack account
  intro store result after ran stored
  simp only [refundSubscriptionPreConsume, Tx.ran_bind, Tx.ran_reject] at ran
  obtain ⟨_, _, ⟨_, rfl⟩, record, _, found, ran⟩ := ran
  obtain ⟨rfl, _⟩ := ran_lock_record _ _ found
  split at ran
  · simp only [Tx.ran_pure] at ran
    obtain ⟨_, rfl⟩ := ran
    exact composes.refl _ stored
  · split at ran
    · exact meters_save_record _ _ _ _ ran stored
    · simp only [Tx.ran_bind] at ran
      obtain ⟨sub, _, locked, ran⟩ := ran
      obtain ⟨rfl, row, named⟩ := ran_lock_subscription _ _ locked
      split at ran
      · rename_i unlimited
        have other : sub.id ≠ pack.id := by
          intro here
          exact finite ((same_of_row stored row named here).total.symm.trans unlimited)
        simp only [refundUnlimited, Tx.ran_bind] at ran
        obtain ⟨_, middle, adjusted, ran⟩ := ran
        exact composes.trans _ middle _ (meters_adjust row unlimited other adjusted) (meters_save_record _ _ _ _ ran) stored
      · exact meters_refund_finite env record _ _ _ ran stored

theorem meters_reserve_more (env : SubscriptionEnv) (requestID : String) (subscriptionID : Int) (modelName : String) (amount now : Int) :
    Tx.Commits (Meters pack account) (reserveAdditionalSubscriptionQuota env requestID subscriptionID modelName amount now) := by
  have composes := meters_store_composable pack account
  intro store result after ran stored
  simp only [reserveAdditionalSubscriptionQuota, Tx.ran_bind, Tx.ran_reject] at ran
  obtain ⟨_, _, ⟨_, rfl⟩, sub, _, locked, ran⟩ := ran
  obtain ⟨rfl, row, named⟩ := ran_lock_subscription _ _ locked
  split at ran
  · simp only [Tx.ran_pure] at ran
    obtain ⟨_, rfl⟩ := ran
    exact composes.refl _ stored
  · simp only [holdExtra, Tx.ran_bind, Tx.ran_reject, Tx.ran_lift, ran_save_subscription, Tx.ran_pure] at ran
    obtain ⟨_, _, ⟨_, rfl⟩, _, final, ⟨plan, _, planned, opened, middle, snapshot, _, _, ⟨_, rfl⟩, used, _, ⟨applied, rfl⟩, _, _, rfl,
      expiresAt, _, expiry, reservation, _, created, _, rfl⟩, _, rfl⟩ := ran
    obtain ⟨rfl, _⟩ := ran_plan _ _ planned
    have counted : applySubscriptionUsageDelta plan sub modelName amount = .ok used := by
      cases outcome : applySubscriptionUsageDelta plan sub modelName amount with
      | error problem => simp [outcome] at applied
      | ok result => simpa [outcome] using applied
    have opening : Tx.Commits (MetersLedger pack account) (lockSubscriptionSnapshot env sub.id) := by
      have inner := meters_composable pack account
      refine Tx.commits_bind inner (meters_ensure env.toLedgerEnv sub.id) fun opened => ?_
      refine Tx.commits_bind inner ?_ fun snapshot => Tx.commits_pure inner _
      intro ledger snapshot after ran
      obtain ⟨rfl, _⟩ := ran_lock_balance _ _ _ _ ran
      exact inner.refl _
    obtain ⟨early, first⟩ := meters_on_ledger opening _ _ _ snapshot stored
    obtain ⟨saving, second⟩ := @meters_saved _ _ middle _ (fun here =>
      same_of_used (same_of_row stored row named ((used_id counted).symm.trans here)) counted) early
    obtain ⟨waiting, third⟩ := meters_on_ledger (Tx.commits_view (meters_composable pack account) _) _ _ _ expiry saving
    obtain ⟨rest, front⟩ := extra_key_front requestID used.amountUsed
    obtain ⟨final, fourth⟩ := meters_on_ledger (meters_create env.toLedgerEnv front) _ _ _ created waiting
    exact ⟨final, first.trans (second.trans (third.trans fourth))⟩

-- Reading what is available changes nothing of the row but what it says is used.
theorem synced_row {ledger later : Ledger} {sub synced : UserSubscription} {plan : SubscriptionPlan} {modelName : String} {amount : Int}
    {locked : Option BillingAccount} (ran : subscriptionCanPreConsume sub plan modelName amount ledger = (.ok (some (synced, locked)), later)) :
    ledger = later ∧ synced = { sub with amountUsed := synced.amountUsed } := by
  obtain ⟨same, _⟩ := quoted_of_can_pre_consume ran
  refine ⟨same, ?_⟩
  simp only [subscriptionCanPreConsume, Tx.ran_bind] at ran
  obtain ⟨⟨row, found⟩, _, available, ran⟩ := ran
  have read : row = { sub with amountUsed := row.amountUsed } := by
    rw [subscriptionLedgerAvailableQuotaTx] at available
    split at available
    · simp only [Tx.ran_pure, Prod.mk.injEq] at available
      rw [← available.1.1]
    · simp only [findSubscriptionAccount, Tx.ran_bind, Tx.ran_view] at available
      obtain ⟨opened, _, _, available⟩ := available
      cases opened with
      | none =>
          simp only [Tx.ran_pure, Prod.mk.injEq] at available
          rw [← available.1.1]
      | some opened =>
          simp only [Tx.ran_bind] at available
          obtain ⟨backed, _, _, available⟩ := available
          split at available
          · simp only [Tx.ran_bind, Tx.ran_pure, Prod.mk.injEq] at available
            obtain ⟨snapshot, _, _, ⟨rfl, _⟩, _⟩ := available
            split <;> rfl
          · simp only [Tx.ran_pure, Prod.mk.injEq] at available
            rw [← available.1.1]
  split at ran
  · simp only [Tx.ran_pure, Option.some.injEq, Prod.mk.injEq] at ran
    rw [← ran.1.1]
    exact read
  · simp at ran

-- A pack owes no reset.
theorem unreset_of_pack {env : SubscriptionEnv} {sub reset : UserSubscription} {plan : SubscriptionPlan} {now : Int} {store after : SubscriptionStore}
    (bought : sub.CreditPack) (ran : maybeResetUserSubscriptionWithPlanTx env sub plan now store = (.ok reset, after)) : store = after ∧ sub = reset := by
  have nothing : dueReset env.calendar plan sub now = none := by rw [dueReset, if_pos (.inl bought)]
  simp only [maybeResetUserSubscriptionWithPlanTx, nothing] at ran
  rw [if_neg (by tauto)] at ran
  simp only [Tx.ran_pure] at ran
  exact ⟨ran.2, ran.1⟩

theorem meters_create_record (record : SubscriptionPreConsumeRecord) : Tx.Commits (Meters pack account) (createRecord record) := by
  intro store result after ran
  obtain ⟨records, rfl, _⟩ := ran_create_record _ _ ran
  exact meters_aside rfl rfl

theorem meters_replayed (record : SubscriptionPreConsumeRecord) :
    Tx.Commits (Meters pack account) (subscriptionPreConsumeResultFromRecord record) := by
  have composes := meters_store_composable pack account
  apply Tx.commits_bind composes (Tx.commits_reject composes _ _)
  intro _
  refine Tx.commits_bind composes (meters_lock_subscription _) fun sub => Tx.commits_bind composes ?_ fun plan => ?_
  · intro store plan after ran
    obtain ⟨rfl, _⟩ := ran_plan _ _ ran
    exact composes.refl _
  · refine Tx.commits_bind composes ?_ fun reservation => Tx.commits_pure composes _
    exact meters_on_ledger (Tx.commits_view (meters_composable pack account) _)

theorem meters_pre_consume (env : SubscriptionEnv) (bought : 0 < pack.creditPackGrantedQuota) (request : PreConsumeRequest)
    (known : Option SubscriptionPlan) : Tx.Commits (Meters pack account) (preConsumeCandidateTx env request pack.id known) := by
  have composes := meters_store_composable pack account
  intro store result after ran stored
  simp only [preConsumeCandidateTx, Tx.ran_bind, ran_find_record] at ran
  obtain ⟨existing, _, ⟨_, rfl⟩, ran⟩ := ran
  cases existing with
  | some record =>
      apply Tx.commits_bind composes (Tx.commits_reject composes _ _) _ _ _ _ ran stored
      exact fun _ => meters_replayed record
  | none =>
      simp only [Tx.ran_bind] at ran
      obtain ⟨locked, _, found, plan, _, planned, sub, _, entered, quoted, _, asked, ran⟩ := ran
      obtain ⟨rfl, row⟩ := candidate_row found
      obtain ⟨rfl, _⟩ := candidate_plan planned
      have named : locked.id = pack.id := by
        rw [SubscriptionStore.subscription] at row
        simpa using (Table.mem_of_find? _ _ _ row).2
      have same := same_of_row stored row named named
      have isPack : locked.CreditPack := by
        rw [UserSubscription.CreditPack, same.granted]
        exact bought
      obtain ⟨rfl, rfl⟩ := unreset_of_pack isPack entered
      obtain ⟨ledger, read, rfl⟩ := (ran_on_ledger _ _).mp asked
      cases quoted with
      | none => simp only [Tx.ran_fail] at ran
      | some pair =>
          obtain ⟨synced, lockedAccount⟩ := pair
          obtain ⟨rfl, columns⟩ := synced_row read
          have samePack : SamePack pack synced := by
            rw [columns]
            exact ⟨same.id, same.granted, same.paid, same.total⟩
          simp only [holdSubscription, Tx.ran_bind, Tx.ran_lift, ran_save_subscription, Tx.ran_pure] at ran
          obtain ⟨_, _, created, reservation, middle, reserved, used, _, ⟨applied, rfl⟩, _, _, rfl, _, rfl⟩ := ran
          obtain ⟨noted, first⟩ := meters_create_record _ _ _ _ created stored
          obtain ⟨holding, second⟩ := meters_on_ledger (meters_reserve env samePack.id _ lockedAccount) _ _ _ reserved noted
          obtain ⟨final, third⟩ := @meters_saved _ _ middle _ (fun _ => same_of_used samePack applied) holding
          exact ⟨final, first.trans (second.trans third)⟩

end Stores

end CodeGo.Subscription.Packs
