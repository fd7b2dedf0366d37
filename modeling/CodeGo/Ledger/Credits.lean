import CodeGo.Ledger.Progress

set_option autoImplicit false

namespace CodeGo.Billing

open Relational Text

/- When an account can be opened and credited: the ids to come are on no account, and the
   keys of the credit are on no entry and no event. -/

theorem ensured_snapshot {env : LedgerEnv} {ledger after : Ledger} {params : EnsureAccountParams} {account : BillingAccount}
    (ran : ensureBillingAccountTx env params ledger = (.ok account, after)) :
    ∃ snapshot, after.snapshots.find? (fun row => row.accountID = account.accountID) = some snapshot := by
  simp only [ensureBillingAccountTx, Tx.ran_bind, Tx.ran_reject, Tx.ran_view] at ran
  obtain ⟨_, _, ⟨_, rfl⟩, _, _, ⟨_, rfl⟩, found, _, ⟨_, rfl⟩, ran⟩ := ran
  cases found with
  | some existing =>
      simp only [Tx.ran_bind, Tx.ran_pure] at ran
      obtain ⟨_, _, ensured, rfl, rfl⟩ := ran
      exact ⟨_, (ran_ensure_snapshot _ _ _ ensured).found⟩
  | none =>
      simp only [Tx.ran_bind, Tx.ran_pure] at ran
      obtain ⟨_, _, _, _, _, ensured, rfl, rfl⟩ := ran
      exact ⟨_, (ran_ensure_snapshot _ _ _ ensured).found⟩

structure Openable (env : LedgerEnv) (ledger : Ledger) : Prop where
  unused : Unused env ledger
  present : ∀ row ∈ ledger.accounts.rows, ¬ Blank row.accountID
  accounts : ∀ row ∈ ledger.accounts.rows, ∀ drawn, ledger.drawn ≤ drawn → row.accountID ≠ env.uuid drawn
  snapshots : ∀ row ∈ ledger.snapshots.rows, ∀ drawn, ledger.drawn ≤ drawn → row.accountID ≠ env.uuid drawn

-- The account has a row of balances.
def Ledger.Seen (ledger : Ledger) (accountID : String) : Prop :=
  ledger.snapshots.find? (fun row => row.accountID = accountID) = some (ledger.balance accountID)

theorem seen_of_found {ledger : Ledger} {accountID : String} {snapshot : BillingBalanceSnapshot}
    (found : ledger.snapshots.find? (fun row => row.accountID = accountID) = some snapshot) : ledger.Seen accountID := by
  rw [Ledger.Seen, Ledger.balance, balanceOf, found, Option.getD_some]

-- What is left of an openable ledger once an account is open.
structure OpenedFor (env : LedgerEnv) (ledger : Ledger) (account : BillingAccount) (after : Ledger) : Prop where
  openable : Openable env after
  outbox : after.outbox = ledger.outbox
  ahead : ledger.drawn ≤ after.drawn
  present : ¬ Blank account.accountID
  old : account ∈ ledger.accounts.rows ∨ ledger.balance account.accountID = { accountID := account.accountID }
  seen : after.Seen account.accountID
  kept : ∀ accountID, ledger.Seen accountID → after.Seen accountID

theorem balance_missing {ledger : Ledger} {accountID : String} (missing : ∀ row ∈ ledger.snapshots.rows, row.accountID ≠ accountID) :
    ledger.balance accountID = { accountID } := by
  have absent : ledger.snapshots.find? (fun row => row.accountID = accountID) = none := by
    rw [Table.find?_eq_none_iff]
    intro row member
    exact decide_eq_false (missing row member)
  rw [Ledger.balance, balanceOf, absent]
  rfl

-- A snapshot row is made where there is none, and the insert meets no other row.
theorem ensure_snapshot_ran (accountID : String) (ledger : Ledger) :
    ∃ snapshots, ensureBalanceSnapshot accountID ledger = (.ok (), { ledger with snapshots }) ∧
      (∀ row ∈ snapshots.rows, row ∈ ledger.snapshots.rows ∨ row.accountID = accountID) ∧
      ∀ other, ledger.Seen other → ({ ledger with snapshots }).Seen other := by
  cases looked : ledger.snapshots.find? fun row => row.accountID = accountID with
  | some snapshot =>
      refine ⟨ledger.snapshots, ?_, fun row member => .inl member, fun _ seen => seen⟩
      rw [ensureBalanceSnapshot, findSnapshot, Tx.bind_view, looked]
      rfl
  | none =>
      have fresh : Table.Fresh ledger.snapshots { accountID := accountID } := by
        intro row member clash
        have miss := (Table.find?_eq_none_iff _ _).mp looked row member
        simp only [decide_eq_false_iff_not] at miss
        exact miss clash
      obtain ⟨snapshots, inserted, rows⟩ := Table.insert?_of_fresh _ _ fresh
      refine ⟨snapshots, ?_, ?_, ?_⟩
      · have created : createSnapshot { accountID } ledger = (.ok { accountID }, { ledger with snapshots }) := by
          rw [createSnapshot, insertRow, Tx.bind_view, inserted]
          rfl
        have attempted : (createSnapshot { accountID }).attempt ledger = (.ok (.ok { accountID }), { ledger with snapshots }) := by
          rw [Tx.attempt, created]
        rw [ensureBalanceSnapshot, findSnapshot, Tx.bind_view, looked]
        simp only
        rw [Tx.bind_ran attempted]
        rfl
      · intro row member
        rw [rows, List.mem_append, List.mem_singleton] at member
        refine member.imp_right ?_
        rintro rfl
        rfl
      · intro other seen
        apply seen_of_found
        rw [Table.find?, rows, List.find?_append]
        exact congrArg (fun found => Option.or found _) seen

section Opening

variable {env : LedgerEnv} {ledger : Ledger}

theorem Openable.seeded (openable : Openable env ledger) {snapshots : Table BillingBalanceSnapshot} {accountID : String}
    (rows : ∀ row ∈ snapshots.rows, row ∈ ledger.snapshots.rows ∨ row.accountID = accountID)
    (apart : ∀ drawn, ledger.drawn ≤ drawn → accountID ≠ env.uuid drawn) : Openable env { ledger with snapshots } where
  unused := ⟨openable.unused.tight, openable.unused.apart, openable.unused.reservations, openable.unused.entries, openable.unused.settlements,
    openable.unused.outbox⟩
  present := openable.present
  accounts := openable.accounts
  snapshots row member drawn ahead := by
    obtain old | named := rows row member
    · exact openable.snapshots row old drawn ahead
    · rw [named]
      exact apart drawn ahead

theorem Unused.later (unused : Unused env ledger) {after : Ledger} (reservations : after.reservations = ledger.reservations)
    (entries : after.entries = ledger.entries) (settlements : after.settlements = ledger.settlements) (outbox : after.outbox = ledger.outbox)
    (ahead : ledger.drawn ≤ after.drawn) : Unused env after where
  tight := unused.tight
  apart := unused.apart
  reservations row member drawn bound := unused.reservations row (reservations ▸ member) drawn (ahead.trans bound)
  entries row member drawn bound := unused.entries row (entries ▸ member) drawn (ahead.trans bound)
  settlements row member drawn bound := unused.settlements row (settlements ▸ member) drawn (ahead.trans bound)
  outbox row member drawn bound := unused.outbox row (outbox ▸ member) drawn (ahead.trans bound)

theorem ensure_ran (openable : Openable env ledger) (params : EnsureAccountParams) (owner : 0 < params.ownerID)
    (texts : ¬ (Blank params.ownerType ∨ Blank params.accountType)) :
    ∃ account after, ensureBillingAccountTx env params ledger = (.ok account, after) ∧ OpenedFor env ledger account after := by
  have unused := openable.unused
  rw [ensureBillingAccountTx, Tx.bind_accepted (by omega), Tx.bind_accepted texts, Tx.bind_view]
  cases looked : ledger.accounts.find? fun row => row.ownerType = trimSpace params.ownerType ∧ row.ownerID = params.ownerID ∧
      row.accountType = trimSpace params.accountType ∧
        row.quotaUnit = if Blank params.quotaUnit then "quota" else trimSpace params.quotaUnit with
  | some account =>
      have member := (Table.mem_of_find? _ _ _ looked).1
      obtain ⟨snapshots, ensured, rows, kept⟩ := ensure_snapshot_ran account.accountID ledger
      refine ⟨account, { ledger with snapshots }, Tx.bind_ran ensured _, ?_⟩
      exact ⟨openable.seeded rows (openable.accounts account member), rfl, le_rfl, openable.present account member, .inl member,
        seen_of_found (ran_ensure_snapshot _ _ _ ensured).found, kept⟩
  | none =>
      have unit := normal_unit params.quotaUnit
      let account : BillingAccount :=
        { accountID := env.uuid ledger.drawn, accountType := trimSpace params.accountType, ownerType := trimSpace params.ownerType,
          ownerID := params.ownerID, quotaUnit := if Blank params.quotaUnit then "quota" else trimSpace params.quotaUnit }
      have fresh : Table.Fresh ledger.accounts account := by
        rintro row member (sameID | sameOwner)
        · exact openable.accounts row member ledger.drawn le_rfl sameID
        · have miss := (Table.find?_eq_none_iff _ _).mp looked row member
          rw [decide_eq_false_iff_not] at miss
          apply miss
          simpa [Indexed.index, account] using sameOwner
      obtain ⟨accounts, inserted, appended⟩ := Table.insert?_of_fresh _ _ fresh
      have created : createAccount env { accountType := account.accountType, ownerType := account.ownerType, ownerID := account.ownerID, quotaUnit := account.quotaUnit } ledger =
          (.ok account, { ledger with accounts, drawn := ledger.drawn + 1 }) := by
        rw [createAccount, Tx.bind_ran (fill_value env ledger)]
        simp only [account, unit]
        have value := insert_then Ledger.accounts (fun ledger accounts => { ledger with accounts }) account pure
          { ledger with drawn := ledger.drawn + 1 } inserted
        rwa [Tx.bind_pure_right] at value
      obtain ⟨snapshots, ensured, rows, kept⟩ := ensure_snapshot_ran account.accountID { ledger with accounts, drawn := ledger.drawn + 1 }
      refine ⟨account, _, (Tx.bind_ran created _).trans (Tx.bind_ran ensured _), ?_⟩
      have grown : Openable env { ledger with accounts, drawn := ledger.drawn + 1 } := by
        refine ⟨unused.later rfl rfl rfl rfl (Nat.le_succ _), ?_, ?_, ?_⟩
        · intro row member
          rw [appended, List.mem_append, List.mem_singleton] at member
          obtain old | rfl := member
          · exact openable.present row old
          · exact not_blank_of_tight _ (unused.tight ledger.drawn)
        · intro row member drawn ahead
          rw [appended, List.mem_append, List.mem_singleton] at member
          obtain old | rfl := member
          · exact openable.accounts row old drawn (Nat.le_of_succ_le ahead)
          · intro same
            have equal := unused.apart _ _ same
            simp only at ahead
            omega
        · intro row member drawn ahead
          exact openable.snapshots row member drawn (Nat.le_of_succ_le ahead)
      refine ⟨grown.seeded rows ?_, rfl, Nat.le_succ _, not_blank_of_tight _ (unused.tight ledger.drawn), .inr ?_,
        seen_of_found (ran_ensure_snapshot _ _ _ ensured).found, kept⟩
      · intro drawn ahead same
        have equal := unused.apart _ _ same
        simp only at ahead
        omega
      · exact balance_missing fun row member => openable.snapshots row member ledger.drawn le_rfl

end Opening

-- The keys that a credit under a key writes.
def creditKeys (key : String) : Keys := { entry := [trimSpace key], event := ["outbox:" ++ trimSpace key] }

-- No row of the ledger stands in the way of a credit.
structure Creditable (ledger : Ledger) (accountID key : String) : Prop where
  account : ¬ Blank accountID
  present : ¬ Blank key
  given : ∀ row ∈ ledger.entries.rows, row.idempotencyKey ≠ key
  entry : ∀ row ∈ ledger.entries.rows, row.idempotencyKey ≠ trimSpace key
  event : ∀ row ∈ ledger.outbox.rows, row.idempotencyKey ≠ "outbox:" ++ trimSpace key
  snapshot : ledger.Seen accountID

-- The account can take an amount more without leaving the registers.
def CreditRoom (balance : BillingBalanceSnapshot) (amount : Int) : Prop :=
  balance.availableBalance ≤ maxInt64 - amount ∧ balance.grantedTotal ≤ maxInt64 - amount

section Crediting

variable {env : LedgerEnv} {ledger : Ledger} {params : CreditAccountParams}

theorem credit_ran (params : CreditAccountParams) (unused : Unused env ledger) (creditable : Creditable ledger params.accountID params.idempotencyKey)
    (positive : 0 < params.amount) (room : CreditRoom (ledger.balance params.accountID) params.amount) :
    ∃ entry after, creditAccountTx env params ledger = (.ok entry, after) ∧ Grown env (creditKeys params.idempotencyKey) ledger after := by
  obtain ⟨account, present, given, freeEntry, freeEvent, found⟩ := creditable
  have arguments : ¬ (Blank params.accountID ∨ params.amount ≤ 0 ∨ Blank params.idempotencyKey) := by
    simp only [account, present, or_false, false_or]
    omega
  have missing : ledger.entries.find? (fun row => row.idempotencyKey = params.idempotencyKey) = none := by
    rw [Table.find?_eq_none_iff]
    intro row member
    exact decide_eq_false (given row member)
  have fits : ¬ ((ledger.balance params.accountID).availableBalance > maxInt64 - params.amount ∨
      (ledger.balance params.accountID).grantedTotal > maxInt64 - params.amount) := by
    rw [not_or, not_lt, not_lt]
    exact room
  rw [creditAccountTx, Tx.bind_accepted arguments, findLedgerEntryByIdempotency, Tx.bind_view]
  simp only [missing]
  rw [Tx.bind_ran (lock_ran found), Tx.bind_accepted fits]
  obtain ⟨snapshots, saved, seen⟩ := save_snapshot_ran (creditFunds (ledger.balance params.accountID) params.amount) ledger
  obtain ⟨entries, posted, appended⟩ := entry_ran unused { ledger with snapshots } le_rfl rfl
    { accountID := params.accountID, referenceType := defaultIfEmpty (trimSpace params.referenceType) "migration",
      referenceID := defaultIfEmpty (trimSpace params.referenceID) params.accountID, entryType := .grantCredit, direction := .credit,
      amount := params.amount, balanceAfter := some (creditFunds (ledger.balance params.accountID) params.amount).availableBalance,
      idempotencyKey := trimSpace params.idempotencyKey, reasonCode := defaultIfEmpty (trimSpace params.reasonCode) "grant_credit",
      reasonDetail := trimSpace params.reasonDetail, operatorType := defaultIfEmpty (trimSpace params.operatorType) "system",
      operatorID := trimSpace params.operatorID } rfl rfl freeEntry
  have recordable := recordable_event account (show Tight "ledger_entry" by decide) (unused.tight ledger.drawn)
    (show Tight "billing.credit_granted" by decide) present
  obtain ⟨outbox, recorded, noted⟩ := record_ran unused { ledger with snapshots, entries, drawn := ledger.drawn + 1 } (Nat.le_succ _) rfl _
    recordable freeEvent
  refine ⟨_, { ledger with snapshots, entries, outbox, drawn := ledger.drawn + 2 },
    (Tx.bind_ran saved _).trans ((Tx.bind_ran posted _).trans (Tx.bind_ran recorded _)), ?_⟩
  refine grown_of_appended (by simp) seen (fun row member => ⟨row, member, rfl, rfl⟩) appended (List.append_nil _).symm noted ?_ ?_ ?_
  · rw [List.forall_mem_singleton]
    exact ⟨by simp [entryOf, creditKeys], ledger.drawn, le_rfl, by simp, rfl⟩
  · simp
  · rw [List.forall_mem_singleton]
    exact ⟨by simp [eventOf, creditKeys], ledger.drawn + 1, by omega, by simp, rfl⟩

-- A credit in the way of which no row stands has had a positive amount and room for it.
theorem credit_needs {entry : BillingLedgerEntry} {after : Ledger} (given : ∀ row ∈ ledger.entries.rows, row.idempotencyKey ≠ params.idempotencyKey)
    (ran : creditAccountTx env params ledger = (.ok entry, after)) : 0 < params.amount ∧ CreditRoom (ledger.balance params.accountID) params.amount := by
  simp only [creditAccountTx, findLedgerEntryByIdempotency, Tx.ran_bind, Tx.ran_reject, Tx.ran_view] at ran
  obtain ⟨_, _, ⟨accepted, rfl⟩, _, _, ⟨rfl, rfl⟩, ran⟩ := ran
  have missing : ledger.entries.find? (fun row => row.idempotencyKey = params.idempotencyKey) = none := by
    rw [Table.find?_eq_none_iff]
    intro row member
    exact decide_eq_false (given row member)
  simp only [missing, Tx.ran_bind, Tx.ran_reject] at ran
  obtain ⟨snapshot, _, locked, _, _, ⟨room, rfl⟩, _⟩ := ran
  rw [(ran_ensure_and_lock _ _ _ _ locked).1] at room
  rw [not_or, not_lt, not_lt] at room
  refine ⟨?_, room⟩
  by_contra small
  exact accepted (.inr (.inl (not_lt.mp small)))

end Crediting

end CodeGo.Billing
