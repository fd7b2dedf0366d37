import CodeGo.Ledger.Credits
import CodeGo.Subscription.Distribution

set_option autoImplicit false

namespace CodeGo.Subscription.Adjustment

open Relational Text Billing Distribution

/- An adjustment of the usage of a subscription leaves a receipt: an entry under its key,
   with what was adjusted in the metadata column. -/

structure Receipt (store : SubscriptionStore) (subscriptionID : Int) (operationKey : String) (delta : Int) (modelName : String) : Prop where
  identified : 0 < subscriptionID
  named : ¬ Blank operationKey
  subscription : ∃ sub, store.subscription subscriptionID = some sub
  entry : ∃ account ∈ store.ledger.accounts.rows, FundedBy account subscriptionID ∧
    (∃ snapshot, store.ledger.snapshots.find? (fun row => row.accountID = account.accountID) = some snapshot) ∧
    ∃ entry ∈ store.ledger.entries.rows, entry.accountID = account.accountID ∧ entry.idempotencyKey = usageAdjustKey operationKey ∧
      store.evidence.lookup entry.entryID = some { delta, model := modelName }

theorem entry_found {ledger : Ledger} {entry : BillingLedgerEntry} (member : entry ∈ ledger.entries.rows) :
    findLedgerEntryByIdempotency entry.idempotencyKey ledger = (.ok (some entry), ledger) := by
  have found : ledger.entries.find? (fun row => row.idempotencyKey = entry.idempotencyKey) = some entry := by
    apply Table.find?_of_mem _ _ entry member (by simp)
    intro other same
    exact .inr (of_decide_eq_true same).symm
  rw [findLedgerEntryByIdempotency]
  exact congrArg (fun found => (Except.ok found, ledger)) found

theorem account_found (env : LedgerEnv) {ledger : Ledger} {account : BillingAccount} {subscriptionID : Int} {snapshot : BillingBalanceSnapshot}
    (positive : 0 < subscriptionID) (member : account ∈ ledger.accounts.rows) (funds : FundedBy account subscriptionID)
    (kept : ledger.snapshots.find? (fun row => row.accountID = account.accountID) = some snapshot) :
    ensureBillingAccountTx env (subscriptionAccountParams subscriptionID) ledger = (.ok account, ledger) := by
  obtain ⟨kind, owner, ownerID, unit⟩ := funds
  have found : ledger.accounts.find? (fun row => row.ownerType = trimSpace "user_subscription" ∧ row.ownerID = subscriptionID ∧
      row.accountType = trimSpace "subscription" ∧ row.quotaUnit = if Blank "quota" then "quota" else trimSpace "quota") = some account := by
    rw [owner_type_trimmed, account_type_trimmed, quota_trimmed]
    apply Table.find?_of_mem _ _ account member (by simp [kind, owner, ownerID, unit])
    intro other same
    obtain ⟨otherOwner, otherID, otherKind, otherUnit⟩ := of_decide_eq_true same
    refine .inr ?_
    simp [Indexed.index, kind, owner, ownerID, unit, otherOwner, otherID, otherKind, otherUnit]
  have known : ensureBalanceSnapshot account.accountID ledger = (.ok (), ledger) := by
    rw [ensureBalanceSnapshot, findSnapshot, Tx.bind_view, kept]
    rfl
  rw [ensureBillingAccountTx, subscriptionAccountParams, Tx.bind_accepted (by dsimp only; omega), Tx.bind_accepted (by dsimp only; decide), Tx.bind_view, found]
  exact Tx.bind_ran known _

-- A key that has its receipt is not used again: the same adjustment is passed over and any
-- other is refused.
theorem Receipt.replay {store : SubscriptionStore} {subscriptionID : Int} {operationKey : String} {delta : Int} {modelName : String}
    (receipt : Receipt store subscriptionID operationKey delta modelName) (env : SubscriptionEnv) (again : Int) (nonzero : again ≠ 0)
    (least : again ≠ -2 ^ 63) (otherName : String) :
    adjustUserSubscriptionUsageDeltaTx env subscriptionID otherName again operationKey store =
      if again = delta ∧ otherName = modelName then (.ok false, store) else (.error (.ledger .ledgerConflict), store) := by
  obtain ⟨identified, named, ⟨sub, row⟩, account, accountIn, funds, ⟨snapshot, kept⟩, entry, entryIn, onAccount, key, evidence⟩ := receipt
  have passed : ¬ (subscriptionID ≤ 0 ∨ Blank operationKey ∨ again = -2 ^ 63) := by
    rw [not_or, not_or]
    exact ⟨by omega, named, least⟩
  have ensured := (@ran_on_ledger store store _ _ _).2 ⟨store.ledger, account_found env.toLedgerEnv identified accountIn funds kept, rfl⟩
  have looked := (@ran_on_ledger store store _ _ _).2 ⟨store.ledger, key ▸ entry_found entryIn, rfl⟩
  rw [adjustUserSubscriptionUsageDeltaTx, Tx.bind_accepted passed, if_neg nonzero, Tx.bind_ran (subscription_ran row), Tx.bind_ran ensured,
    Tx.bind_ran looked]
  dsimp only
  rw [storedEvidence, Tx.bind_view, evidence, Option.getD_some]
  by_cases same : again = delta ∧ otherName = modelName
  · have matched : ¬ (entry.accountID ≠ account.accountID ∨ delta ≠ again ∨ modelName ≠ otherName) := by
      rw [same.1, same.2]
      simp [onAccount]
    rw [if_pos same, Tx.bind_accepted matched]
    rfl
  · have differs : entry.accountID ≠ account.accountID ∨ delta ≠ again ∨ modelName ≠ otherName := by
      grind
    rw [if_neg same, Tx.bind_rejected differs]

-- What an account can be charged with once the projection is brought into it.
def spendable (ledger : Ledger) (sub : UserSubscription) (account : BillingAccount) : Int :=
  (ledger.balance account.accountID).availableBalance +
    if (∃ entry ∈ ledger.entries.rows, entry.accountID = account.accountID) then 0 else sub.amountTotal - sub.amountUsed

-- The first use of a key.
structure Applied (store after : SubscriptionStore) (subscriptionID : Int) (operationKey : String) (delta : Int) (modelName : String)
    (sub used : UserSubscription) (account : BillingAccount) : Prop where
  before : store.subscription subscriptionID = some sub
  now : after.subscription subscriptionID = some used
  others : ∀ other, other ≠ subscriptionID → after.subscription other = store.subscription other
  same : SameSubscription sub used
  first : ∀ entry ∈ store.ledger.entries.rows, entry.idempotencyKey ≠ usageAdjustKey operationKey
  member : account ∈ after.ledger.accounts.rows
  funds : FundedBy account subscriptionID
  holds : after.ledger.reservations = store.ledger.reservations
  reserved : ∀ accountID, (after.ledger.balance accountID).reservedBalance = (store.ledger.balance accountID).reservedBalance
  elsewhere : ∀ accountID, accountID ≠ account.accountID → after.ledger.balance accountID = store.ledger.balance accountID
  finite : sub.amountTotal ≠ 0 → (after.ledger.balance account.accountID).availableBalance = spendable store.ledger sub account - delta ∧
    used.amountUsed = used.amountTotal - (after.ledger.balance account.accountID).availableBalance
  -- Of what is used, only what is not held can be given back.
  settled : sub.amountTotal ≠ 0 → delta < 0 → -delta ≤ sub.amountTotal - spendable store.ledger sub account -
    (store.ledger.balance account.accountID).reservedBalance
  unlimited : sub.amountTotal = 0 → used.amountUsed = sub.amountUsed + delta ∧ (delta < 0 → -delta ≤ sub.amountUsed) ∧
    (after.ledger.balance account.accountID).availableBalance = (store.ledger.balance account.accountID).availableBalance
  receipt : Receipt after subscriptionID operationKey delta modelName

section Writes

variable {env : LedgerEnv} {ledger after : Ledger}

theorem recorded_of_free {params : RecordAdjustmentParams} {entry : BillingLedgerEntry}
    (free : ∀ row ∈ ledger.entries.rows, row.idempotencyKey ≠ params.idempotencyKey)
    (ran : recordAdjustmentTx env params ledger = (.ok entry, after)) :
    Audited ledger params entry after ∧ entry.accountID = params.accountID ∧ after.snapshots = ledger.snapshots := by
  have missing : ledger.entries.find? (fun row => row.idempotencyKey = params.idempotencyKey) = none := by
    rw [Table.find?_eq_none_iff]
    intro row member
    exact decide_eq_false (free row member)
  simp only [recordAdjustmentTx, findLedgerEntryByIdempotency, Tx.ran_bind, Tx.ran_reject, Tx.ran_view] at ran
  obtain ⟨_, _, ⟨_, rfl⟩, _, _, ⟨rfl, rfl⟩, ran⟩ := ran
  simp only [missing, Tx.ran_bind, Tx.ran_pure] at ran
  obtain ⟨row, _, created, _, _, recorded, rfl, rfl⟩ := ran
  obtain ⟨⟨_, _, stamped⟩, entries, _, rfl, appended⟩ := ran_create_entry env _ _ _ _ created
  obtain ⟨outbox, _, rfl⟩ := ran_record_outbox env _ _ _ recorded
  exact ⟨⟨fun _ => rfl, appended, by simp [stamped], by simp [stamped], rfl, rfl, rfl⟩, by simp [stamped], rfl⟩

-- An adjustment under a key that is free is posted on its account.
theorem adjusted_of_free {params : AdjustAvailableBalanceParams} {result : Option BillingLedgerEntry}
    (free : ∀ row ∈ ledger.entries.rows, row.idempotencyKey ≠ params.idempotencyKey) (nonzero : params.usageAmount ≠ 0)
    (ran : adjustAvailableBalanceTx env params ledger = (.ok result, after)) :
    (∃ entry, result = some entry ∧ Adjusted ledger params entry after) ∧
      ∃ snapshot, after.snapshots.find? (fun row => row.accountID = params.accountID) = some snapshot := by
  have missing : ledger.entries.find? (fun row => row.idempotencyKey = params.idempotencyKey) = none := by
    rw [Table.find?_eq_none_iff]
    intro row member
    exact decide_eq_false (free row member)
  constructor
  · obtain ⟨_, zero, _⟩ | ⟨_, entry, member, _, key, _⟩ | ⟨_, adjusted⟩ := adjusted_of_adjust env params ledger after result ran
    · exact (nonzero zero).elim
    · exact (free entry member key).elim
    · exact adjusted
  · simp only [adjustAvailableBalanceTx, Tx.ran_bind, Tx.ran_reject, if_neg nonzero, findLedgerEntryByIdempotency, Tx.ran_view] at ran
    obtain ⟨_, _, ⟨_, rfl⟩, _, _, ⟨rfl, rfl⟩, ran⟩ := ran
    simp only [missing, saveSnapshot, Tx.ran_bind, Tx.ran_reject, Tx.ran_edit, Tx.ran_pure] at ran
    obtain ⟨_, locked, lock, _, _, ⟨_, rfl⟩, _, _, rfl, row, _, created, _, _, recorded, rfl, rfl⟩ := ran
    obtain ⟨_, entries, _, rfl, _⟩ := ran_create_entry env _ _ _ _ created
    obtain ⟨outbox, _, rfl⟩ := ran_record_outbox env _ _ _ recorded
    obtain ⟨rfl, seeded⟩ := ran_ensure_and_lock _ _ _ _ lock
    have looked := Table.find?_update locked.snapshots (fun row => row.accountID = (adjustFunds (ledger.balance params.accountID) params.usageAmount).accountID)
      (fun row => row.accountID = params.accountID)
      (fun row => { adjustFunds (ledger.balance params.accountID) params.usageAmount with accountID := row.accountID }) (fun _ => rfl) fun _ => rfl
    rw [seeded.found] at looked
    exact ⟨_, looked⟩

end Writes

-- What the projection says, brought into the ledger of a finite subscription.
structure Backing (ledger after : Ledger) (sub : UserSubscription) (account : BillingAccount) : Prop where
  available : (after.balance account.accountID).availableBalance = spendable ledger sub account
  reserved : ∀ accountID, (after.balance accountID).reservedBalance = (ledger.balance accountID).reservedBalance
  elsewhere : ∀ accountID, accountID ≠ account.accountID → after.balance accountID = ledger.balance accountID
  accounts : after.accounts = ledger.accounts
  reservations : after.reservations = ledger.reservations
  keys : ∀ operationKey, ∀ entry ∈ after.entries.rows, entry.idempotencyKey = usageAdjustKey operationKey → entry ∈ ledger.entries.rows

theorem backing_of_back {env : SubscriptionEnv} {sub : UserSubscription} {account : BillingAccount} {store after : SubscriptionStore}
    (named : ¬ Blank account.accountID) (ran : backSubscription env sub account store = (.ok (), after)) :
    ∃ ledger, after = { store with ledger } ∧ Backing store.ledger ledger sub account := by
  simp only [backSubscription, Tx.ran_bind, ran_on_ledger] at ran
  obtain ⟨backed, _, ⟨_, asked, rfl⟩, ran⟩ := ran
  obtain ⟨rfl, answer⟩ := ran_has_entries _ _ _ _ asked
  cases backed with
  | true =>
      simp only [if_true, Tx.ran_pure] at ran
      obtain ⟨_, rfl⟩ := ran
      refine ⟨store.ledger, rfl, ?_, fun _ => rfl, fun _ _ => rfl, rfl, rfl, fun _ _ member _ => member⟩
      rw [spendable, if_pos (answer.1 rfl).2, Int.add_zero]
  | false =>
      have empty : ¬ ∃ entry ∈ store.ledger.entries.rows, entry.accountID = account.accountID := fun entered => by
        simpa using answer.2 ⟨named, entered⟩
      have apart : Apart "subscription-bootstrap:" "subscription-usage-adjust:" := by decide
      simp only [Bool.false_eq_true, if_false, Tx.ran_bind, Tx.ran_reject, bootstrapReceipt, ran_on_ledger] at ran
      obtain ⟨_, _, ⟨valid, rfl⟩, ledger, ran, rfl⟩ := ran
      push Not at valid
      refine ⟨ledger, rfl, ?_⟩
      split at ran
      · simp only [Tx.ran_bind, Tx.ran_pure] at ran
        obtain ⟨entry, _, granted, _, rfl⟩ := ran
        obtain ⟨_, member, _, _, same, _⟩ | credited := credited_of_credit env.toLedgerEnv _ _ _ _ granted
        · exact (empty ⟨entry, member, same⟩).elim
        · have shifted := shifted_of_posted credited.posted account.accountID (by simp [creditFunds])
          refine ⟨?_, ?_, shifted.elsewhere, credited.posted.accounts, credited.reservations, fun operationKey row member key => ?_⟩
          · rw [shifted.available, spendable, if_neg empty]
            simp only [creditFunds]
            omega
          · intro accountID
            by_cases here : accountID = account.accountID
            · rw [here, shifted.held]
              simp [creditFunds]
            · rw [shifted.elsewhere accountID here]
          · rw [credited.posted.entries, List.mem_append, List.mem_singleton] at member
            obtain old | rfl := member
            · exact old
            · rw [credited.line.key] at key
              exact (apart.trim_ne (by decide) _ _ key).elim
      · rename_i whole
        simp only [Tx.ran_bind, Tx.ran_pure] at ran
        obtain ⟨entry, _, recorded, _, rfl⟩ := ran
        have nothing : sub.amountTotal - sub.amountUsed = 0 := by omega
        obtain ⟨rfl, _⟩ | audited := audited_of_record env.toLedgerEnv _ _ _ _ recorded
        · refine ⟨?_, fun _ => rfl, fun _ _ => rfl, rfl, rfl, fun _ _ member _ => member⟩
          rw [spendable, if_neg empty, nothing, Int.add_zero]
        · refine ⟨?_, ?_, fun accountID _ => audited.balances accountID, audited.accounts, audited.reservations, fun operationKey row member key => ?_⟩
          · rw [audited.balances, spendable, if_neg empty, nothing, Int.add_zero]
          · intro accountID
            rw [audited.balances]
          · rw [audited.entries, List.mem_append, List.mem_singleton] at member
            obtain old | rfl := member
            · exact old
            · rw [audited.key] at key
              exact (apart.ne _ _ key).elim

theorem usage_key_trimmed {operationKey : String} (solid : SolidLast operationKey) :
    trimSpace (usageAdjustKey operationKey) = usageAdjustKey operationKey :=
  trim_space_tight _ (tight_append _ _ (by decide) solid)

section FirstUse

variable {env : SubscriptionEnv} {store after : SubscriptionStore} {sub : UserSubscription} {plan : SubscriptionPlan} {account : BillingAccount}
  {modelName operationKey : String} {delta : Int}

theorem applied_of_limited (row : store.subscription sub.id = some sub) (identified : 0 < sub.id) (finite : sub.amountTotal ≠ 0)
    (member : account ∈ store.ledger.accounts.rows) (funds : FundedBy account sub.id) (named : ¬ Blank operationKey) (solid : SolidLast operationKey)
    (nonzero : delta ≠ 0) (first : ∀ entry ∈ store.ledger.entries.rows, entry.idempotencyKey ≠ usageAdjustKey operationKey)
    (ran : adjustLimitedUsage env sub plan account modelName delta (usageAdjustKey operationKey) store = (.ok (), after)) :
    ∃ used, Applied store after sub.id operationKey delta modelName sub used account := by
  simp only [adjustLimitedUsage, noteEvidence, Tx.ran_bind, Tx.ran_reject, Tx.ran_lift, Tx.ran_edit, ran_on_ledger, ran_save_subscription] at ran
  obtain ⟨_, opened, backed, balance, _, ⟨locked, lock, rfl⟩, _, _, ⟨consistent, rfl⟩, _, _, ⟨returned, rfl⟩, _, _, ⟨affordable, rfl⟩,
    used, _, ⟨applied, rfl⟩, result, _, ⟨ledger, adjusted, rfl⟩, _, _, rfl, rfl⟩ := ran
  have onAccount : ¬ Blank account.accountID := by
    simp only [adjustAvailableBalanceTx, Tx.ran_bind, Tx.ran_reject] at adjusted
    obtain ⟨_, _, ⟨present, _⟩, _⟩ := adjusted
    exact fun blank => present (.inl blank)
  obtain ⟨middle, rfl, backing⟩ := backing_of_back onAccount backed
  obtain ⟨rfl, rfl⟩ := ran_lock_balance _ _ _ _ lock
  dsimp only at consistent returned affordable applied adjusted
  obtain ⟨⟨entry, rfl, posted⟩, snapshot, kept⟩ := adjusted_of_free (fun entry entryIn key => first entry (backing.keys _ entry entryIn key) key)
    nonzero adjusted
  push Not at consistent returned affordable
  have projected := used_of_delta applied
  have shifted := shifted_of_posted posted.posted account.accountID (by simp)
  have id : used.id = sub.id := by rw [projected]
  have level : (ledger.balance account.accountID).availableBalance = spendable store.ledger sub account - delta := by
    rw [shifted.available, adjust_funds_available, ← backing.available]
    dsimp only
    omega
  have held : ∀ accountID, (ledger.balance accountID).reservedBalance = (store.ledger.balance accountID).reservedBalance := by
    intro accountID
    rw [← backing.reserved accountID]
    by_cases here : accountID = account.accountID
    · rw [here, shifted.held, adjust_funds_reserved]
      dsimp only
      omega
    · rw [shifted.elsewhere accountID here]
  have total : used.amountTotal = sub.amountTotal := by rw [projected]
  rw [backing.available, backing.reserved] at consistent returned
  have amount : used.amountUsed = max (sub.amountTotal - spendable store.ledger sub account + delta) 0 := by
    rw [projected, if_neg nonzero, backing.available]
  have rows : (saved { store with ledger, evidence := (entry.entryID, { delta, model := modelName }) :: store.evidence } used).subscription sub.id = some used := by
    rw [saved_subscription, if_pos id.symm]
    exact congrArg (Option.map fun _ => used) row
  refine ⟨used, row, rows, fun other apart => ?_, ⟨id, ?_, ?_, ?_, total, ?_⟩, first, ?_, funds, ?_, held, ?_, fun _ => ⟨level, ?_⟩, fun _ => ?_,
    fun unlimited => (finite unlimited).elim, ?_⟩
  · rw [saved_subscription, if_neg (id ▸ apart)]
    rfl
  · rw [projected]
  · rw [projected]
  · rw [projected]
  · rw [projected]
  · exact posted.posted.accounts ▸ backing.accounts ▸ member
  · exact posted.reservations.trans backing.reservations
  · intro accountID apart
    exact (shifted.elsewhere accountID apart).trans (backing.elsewhere accountID apart)
  · -- What is given back is at most what is used, so the projection does not stop at zero.
    show used.amountUsed = used.amountTotal - (ledger.balance account.accountID).availableBalance
    rw [level, total, amount]
    omega
  · intro negative
    have bound := returned negative
    omega
  · refine ⟨identified, named, ⟨used, rows⟩, account, posted.posted.accounts ▸ backing.accounts ▸ member, funds, ⟨snapshot, kept⟩, entry, ?_,
      posted.line.account, posted.line.key.trans (usage_key_trimmed solid), List.lookup_cons_self ..⟩
    show entry ∈ ledger.entries.rows
    rw [posted.posted.entries]
    simp

theorem applied_of_unlimited (row : store.subscription sub.id = some sub) (identified : 0 < sub.id) (unlimited : sub.amountTotal = 0)
    (member : account ∈ store.ledger.accounts.rows) (funds : FundedBy account sub.id) (named : ¬ Blank operationKey) (nonzero : delta ≠ 0)
    (kept : ∃ snapshot, store.ledger.snapshots.find? (fun row => row.accountID = account.accountID) = some snapshot)
    (first : ∀ entry ∈ store.ledger.entries.rows, entry.idempotencyKey ≠ usageAdjustKey operationKey)
    (ran : adjustUnlimitedUsage env sub plan account modelName delta (usageAdjustKey operationKey) store = (.ok (), after)) :
    ∃ used, Applied store after sub.id operationKey delta modelName sub used account := by
  simp only [adjustUnlimitedUsage, noteEvidence, Tx.ran_bind, Tx.ran_reject, Tx.ran_lift, Tx.ran_edit, ran_on_ledger, ran_save_subscription] at ran
  obtain ⟨_, _, ⟨inRange, rfl⟩, used, _, ⟨applied, rfl⟩, entry, _, ⟨ledger, recorded, rfl⟩, _, _, rfl, rfl⟩ := ran
  obtain ⟨audited, onAccount, snapshots⟩ := recorded_of_free first recorded
  push Not at inRange
  have projected := used_of_delta applied
  have id : used.id = sub.id := by rw [projected]
  have rows : (saved { store with ledger, evidence := (entry.entryID, { delta, model := modelName }) :: store.evidence } used).subscription sub.id = some used := by
    rw [saved_subscription, if_pos id.symm]
    exact congrArg (Option.map fun _ => used) row
  refine ⟨used, row, rows, fun other apart => ?_, ⟨id, ?_, ?_, ?_, ?_, ?_⟩, first, ?_, funds, audited.reservations, fun accountID => ?_,
    fun accountID _ => audited.balances accountID, fun finite => (finite unlimited).elim, fun finite => (finite unlimited).elim, fun _ => ⟨?_, ?_, ?_⟩, ?_⟩
  · rw [saved_subscription, if_neg (id ▸ apart)]
    rfl
  · rw [projected]
  · rw [projected]
  · rw [projected]
  · rw [projected]
  · rw [projected]
  · exact audited.accounts ▸ member
  · exact congrArg BillingBalanceSnapshot.reservedBalance (audited.balances accountID)
  · rw [projected, if_neg nonzero]
    dsimp only
    omega
  · omega
  · exact congrArg BillingBalanceSnapshot.availableBalance (audited.balances account.accountID)
  · refine ⟨identified, named, ⟨used, rows⟩, account, audited.accounts ▸ member, funds, snapshots ▸ kept, entry, ?_, onAccount, audited.key,
      List.lookup_cons_self ..⟩
    show entry ∈ ledger.entries.rows
    rw [audited.entries]
    simp

-- Opening the account beforehand changes none of this.
theorem Applied.of_unmoved {ledger : Ledger} {subscriptionID : Int} {used : UserSubscription}
    (applied : Applied { store with ledger } after subscriptionID operationKey delta modelName sub used account) (unmoved : Unmoved store.ledger ledger) :
    Applied store after subscriptionID operationKey delta modelName sub used account := by
  have same : spendable ledger sub account = spendable store.ledger sub account := by
    rw [spendable, spendable, unmoved.balances, unmoved.entries]
  refine ⟨applied.before, applied.now, applied.others, applied.same, unmoved.entries ▸ applied.first, applied.member, applied.funds,
    applied.holds.trans unmoved.reservations, fun accountID => ?_, fun accountID apart => ?_, fun finite => ?_, fun finite negative => ?_, fun unlimited => ?_,
    applied.receipt⟩
  · rw [applied.reserved accountID, unmoved.balances]
  · exact (applied.elsewhere accountID apart).trans (unmoved.balances accountID)
  · rw [← same]
    exact applied.finite finite
  · have bound := applied.settled finite negative
    rwa [same, unmoved.balances] at bound
  · have level := applied.unlimited unlimited
    rwa [unmoved.balances] at level

-- A call that succeeds applied the adjustment, or found it applied already.
theorem adjust_outcome {subscriptionID : Int} {applied : Bool} (nonzero : delta ≠ 0) (solid : Blank operationKey ∨ SolidLast operationKey)
    (ran : adjustUserSubscriptionUsageDeltaTx env subscriptionID modelName delta operationKey store = (.ok applied, after)) :
    (applied = true ∧ ∃ sub used account, Applied store after subscriptionID operationKey delta modelName sub used account) ∨
    (applied = false ∧ (∃ entry ∈ store.ledger.entries.rows, entry.idempotencyKey = usageAdjustKey operationKey ∧
      (store.evidence.lookup entry.entryID).getD {} = { delta, model := modelName }) ∧
      ∃ ledger, after = { store with ledger } ∧ Unmoved store.ledger ledger) := by
  simp only [adjustUserSubscriptionUsageDeltaTx, if_neg nonzero, findLedgerEntryByIdempotency, Tx.ran_bind, Tx.ran_reject, ran_on_ledger, Tx.ran_view] at ran
  obtain ⟨_, _, ⟨passed, rfl⟩, sub, _, locked, account, _, ⟨ledger, ensured, rfl⟩, prior, _, ⟨_, ⟨looked, rfl⟩, rfl⟩, ran⟩ := ran
  obtain ⟨rfl, row, rfl⟩ := ran_lock_subscription _ _ locked
  obtain ⟨_, balances, entries, reservations, member, funds⟩ := account_of_ensure env.toLedgerEnv _ _ _ _ ensured
  have unmoved := (ensured_account env.toLedgerEnv _ _ _ _ ensured).unmoved
  rw [not_or, not_or] at passed
  cases prior with
  | some entry =>
      simp only [storedEvidence, Tx.ran_bind, Tx.ran_view, Tx.ran_reject, Tx.ran_pure] at ran
      obtain ⟨_, _, ⟨rfl, rfl⟩, _, _, ⟨matched, rfl⟩, rfl, rfl⟩ := ran
      push Not at matched
      obtain ⟨entryIn, key⟩ := Table.mem_of_find? _ _ _ looked
      refine .inr ⟨rfl, ⟨entry, entries ▸ entryIn, of_decide_eq_true key, ?_⟩, ledger, rfl, unmoved⟩
      rw [← matched.2.1, ← matched.2.2]
  | none =>
      simp only [adjustUsage, Tx.ran_bind, Tx.ran_pure] at ran
      obtain ⟨_, _, ⟨plan, _, planned, ran⟩, rfl, rfl⟩ := ran
      obtain ⟨rfl, _⟩ := ran_plan _ _ planned
      have first : ∀ entry ∈ ledger.entries.rows, entry.idempotencyKey ≠ usageAdjustKey operationKey := by
        intro entry entryIn
        exact of_decide_eq_false ((Table.find?_eq_none_iff _ _).1 looked entry entryIn)
      have identified : 0 < sub.id := by omega
      have found : ({ store with ledger } : SubscriptionStore).subscription sub.id = some sub := row
      refine .inl ⟨rfl, ?_⟩
      split at ran
      · rename_i unlimited
        obtain ⟨used, applied⟩ := applied_of_unlimited found identified unlimited member funds passed.2.1 nonzero (ensured_snapshot ensured) first ran
        exact ⟨sub, used, account, applied.of_unmoved unmoved⟩
      · rename_i finite
        obtain ⟨used, applied⟩ := applied_of_limited found identified finite member funds passed.2.1 (solid.resolve_left passed.2.1) nonzero first ran
        exact ⟨sub, used, account, applied.of_unmoved unmoved⟩

end FirstUse

-- Refused without a trace, applied once with its receipt, or known already.
def Replayable (env : SubscriptionEnv) (store : SubscriptionStore) (subscriptionID : Int) (modelName : String) (delta : Int) (operationKey : String) : Prop :=
  (∃ problem, Tx.atomic (adjustUserSubscriptionUsageDeltaTx env subscriptionID modelName delta operationKey) store = (.error problem, store)) ∨
  (∃ after sub used account, Tx.atomic (adjustUserSubscriptionUsageDeltaTx env subscriptionID modelName delta operationKey) store = (.ok true, after) ∧
    Applied store after subscriptionID operationKey delta modelName sub used account ∧
    -- The second call, on whichever store the receipt still stands.
    ∀ later, Receipt later subscriptionID operationKey delta modelName → ∀ again, again ≠ 0 → again ≠ -2 ^ 63 → ∀ otherName,
      adjustUserSubscriptionUsageDeltaTx env subscriptionID otherName again operationKey later =
        if again = delta ∧ otherName = modelName then (.ok false, later) else (.error (.ledger .ledgerConflict), later)) ∨
  (∃ ledger, Tx.atomic (adjustUserSubscriptionUsageDeltaTx env subscriptionID modelName delta operationKey) store = (.ok false, { store with ledger }) ∧
    Unmoved store.ledger ledger ∧ ∃ entry ∈ store.ledger.entries.rows, entry.idempotencyKey = usageAdjustKey operationKey ∧
      (store.evidence.lookup entry.entryID).getD {} = { delta, model := modelName })

theorem adjustment_replayable (env : SubscriptionEnv) (store : SubscriptionStore) (subscriptionID : Int) (modelName : String) (delta : Int)
    (operationKey : String) (nonzero : delta ≠ 0) (solid : Blank operationKey ∨ SolidLast operationKey) :
    Replayable env store subscriptionID modelName delta operationKey := by
  cases ran : adjustUserSubscriptionUsageDeltaTx env subscriptionID modelName delta operationKey store with
  | mk outcome after =>
      cases outcome with
      | error problem => exact .inl ⟨problem, by simp only [Tx.atomic, ran]⟩
      | ok applied =>
          have committed := (Tx.ran_atomic ..).2 ran
          obtain ⟨rfl, sub, used, account, applied⟩ | ⟨rfl, known, ledger, rfl, unmoved⟩ := adjust_outcome nonzero solid ran
          · exact .inr (.inl ⟨after, sub, used, account, committed, applied,
              fun later receipt again other least otherName => receipt.replay env again other least otherName⟩)
          · exact .inr (.inr ⟨ledger, committed, unmoved, known⟩)

theorem adjustment_replayable_five : Replayable tallySubscriptionEnv (spreadStore 10) 1 "" 5 "op" :=
  adjustment_replayable tallySubscriptionEnv (spreadStore 10) 1 "" 5 "op" (by decide) (.inr (by decide))

-- Nothing to adjust is nothing to record.
theorem zero_adjusts_nothing (env : SubscriptionEnv) (store : SubscriptionStore) (subscriptionID : Int) (modelName operationKey : String)
    (identified : 0 < subscriptionID) (named : ¬ Blank operationKey) :
    adjustUserSubscriptionUsageDeltaTx env subscriptionID modelName 0 operationKey store = (.ok false, store) := by
  have passed : ¬ (subscriptionID ≤ 0 ∨ Blank operationKey ∨ (0 : Int) = -2 ^ 63) := by
    rw [not_or, not_or]
    exact ⟨by omega, named, by decide⟩
  rw [adjustUserSubscriptionUsageDeltaTx, Tx.bind_accepted passed, if_pos rfl]
  rfl

def receiptAccount : BillingAccount :=
  { accountID := "wallet", accountType := "subscription", ownerType := "user_subscription", ownerID := 1, quotaUnit := "quota" }

def receiptEntry : BillingLedgerEntry :=
  { entryID := "id2f", accountID := "wallet", referenceType := "user_subscription", referenceID := "1", entryType := .settleDebit, direction := .debit,
    amount := 5, idempotencyKey := usageAdjustKey "op", reasonCode := "subscription_usage_adjustment", operatorType := "system" }

-- A subscription charged with 5 under the key op.
def receiptStore : SubscriptionStore :=
  { spreadStore 10 with
    ledger := { (spreadStore 10).ledger with accounts := ⟨[receiptAccount], by simp⟩, entries := ⟨[receiptEntry], by simp⟩ }
    evidence := [("id2f", { delta := 5, model := "" })] }

theorem receipt_store_receipt : Receipt receiptStore 1 "op" 5 "" where
  identified := by decide
  named := by decide
  subscription := ⟨spreadSubscription 10, by simp [receiptStore, spreadStore, spreadSubscription, SubscriptionStore.subscription, Table.find?]⟩
  entry := by
    refine ⟨receiptAccount, List.mem_singleton_self _, by decide, ⟨{ accountID := "wallet", availableBalance := 90, reservedBalance := 10 }, ?_⟩,
      receiptEntry, List.mem_singleton_self _, rfl, rfl, by decide⟩
    simp [receiptStore, receiptAccount, spreadStore, Table.find?]

theorem zero_is_no_conflict : ¬ ∀ env store subscriptionID operationKey delta modelName, Receipt store subscriptionID operationKey delta modelName →
    ∀ again, again ≠ -2 ^ 63 → ∀ otherName, again ≠ delta ∨ otherName ≠ modelName →
      adjustUserSubscriptionUsageDeltaTx env subscriptionID otherName again operationKey store = (.error (.ledger .ledgerConflict), store) := by
  intro every
  have conflict := every tallySubscriptionEnv receiptStore 1 "op" 5 "" receipt_store_receipt 0 (by decide) "" (.inl (by decide))
  rw [zero_adjusts_nothing tallySubscriptionEnv receiptStore 1 "" "op" (by decide) (by decide)] at conflict
  exact nomatch conflict

end CodeGo.Subscription.Adjustment
