import CodeGo.Ledger.Refusal
import CodeGo.Wallet.Store

set_option autoImplicit false

namespace CodeGo.Billing

open Relational Text

@[simp] theorem ran_on_ledger {α : Type} (work : LedgerTx α) (wallet after : Wallet) (result : α) :
    onLedger work wallet = (.ok result, after) ↔ ∃ ledger, work wallet.ledger = (.ok result, ledger) ∧ { wallet with ledger } = after :=
  Tx.ran_zoom _ _ _ _ _ _

theorem Moves.unmoved {ledger after : Ledger} (op : LedgerOp) (same : Unmoved ledger after) : Moves [op] ledger after :=
  .single (.unmoved op same)

theorem Unmoved.drawn (ledger : Ledger) (drawn : Nat) : Unmoved ledger { ledger with drawn } :=
  ⟨fun _ => rfl, rfl, rfl, rfl, [], by simp⟩

theorem Unmoved.trans {ledger middle after : Ledger} (early : Unmoved ledger middle) (late : Unmoved middle after) : Unmoved ledger after := by
  obtain ⟨first, firstRows⟩ := early.accounts
  obtain ⟨second, secondRows⟩ := late.accounts
  exact ⟨fun accountID => (late.balances accountID).trans (early.balances accountID), late.entries.trans early.entries,
    late.reservations.trans early.reservations, late.settlements.trans early.settlements, first ++ second, by simp [secondRows, firstRows]⟩

theorem Unmoved.kept {ledger after : Ledger} (unmoved : Unmoved ledger after) (account : BillingAccount)
    (member : account ∈ ledger.accounts.rows) : account ∈ after.accounts.rows := by
  obtain ⟨opened, appended⟩ := unmoved.accounts
  simp [appended, member]

def Wallet.quota (wallet : Wallet) (userID : Int) : Int :=
  ((wallet.users.find? fun user => user.id = userID).map User.claudeQuota).getD 0

theorem ran_get_quota (userID : Int) (wallet after : Wallet) (quota : Int)
    (ran : getUserClaudeWalletQuotaTx userID wallet = (.ok quota, after)) : quota = wallet.quota userID ∧ wallet = after := by
  simp only [getUserClaudeWalletQuotaTx, findUser, Tx.ran_bind, Tx.ran_view] at ran
  obtain ⟨_, _, ⟨rfl, rfl⟩, answered⟩ := ran
  cases looked : wallet.users.find? fun user => user.id = userID with
  | some user =>
      simp only [looked, Tx.ran_pure] at answered
      exact ⟨by simp [Wallet.quota, looked, answered.1], answered.2⟩
  | none =>
      simp only [looked, Tx.ran_pure] at answered
      exact ⟨by simp [Wallet.quota, looked, answered.1], answered.2⟩

-- The account of an owner for one purpose; the owner columns identify the row.
structure AccountOf (accountType ownerType : String) (ownerID : Int) (account : BillingAccount) : Prop where
  kind : account.accountType = accountType
  ownerType : account.ownerType = ownerType
  owner : account.ownerID = ownerID
  unit : account.quotaUnit = "quota"

abbrev ClaudeWalletOf (userID : Int) (account : BillingAccount) : Prop := AccountOf billingAccountTypeClaudeWallet "user" userID account

theorem clash_of_account_id (first second : BillingAccount) (same : first.accountID = second.accountID) : Clash first second := .inl same

theorem clash_of_entry_key (first second : BillingLedgerEntry) (same : first.idempotencyKey = second.idempotencyKey) : Clash first second :=
  .inr same

theorem AccountOf.unique {ledger : Ledger} {accountType ownerType : String} {ownerID : Int} {first second : BillingAccount}
    (firstOf : AccountOf accountType ownerType ownerID first) (secondOf : AccountOf accountType ownerType ownerID second)
    (firstIn : first ∈ ledger.accounts.rows) (secondIn : second ∈ ledger.accounts.rows) : first = second := by
  refine Table.eq_of_clash ledger.accounts first second firstIn secondIn (.inr ?_)
  simp [Indexed.index, firstOf.kind, firstOf.ownerType, firstOf.owner, firstOf.unit, secondOf.kind, secondOf.ownerType, secondOf.owner,
    secondOf.unit]

-- Two accounts of different kinds never share an id.
theorem account_id_ne_of_kind {ledger : Ledger} {first second : BillingAccount} (firstIn : first ∈ ledger.accounts.rows)
    (secondIn : second ∈ ledger.accounts.rows) (kinds : first.accountType ≠ second.accountType) : first.accountID ≠ second.accountID := by
  intro same
  exact kinds (congrArg BillingAccount.accountType
    (Table.eq_of_clash ledger.accounts first second firstIn secondIn (clash_of_account_id first second same)))

theorem Ensured.account_of {ledger after : Ledger} {accountType ownerType : String} {ownerID : Int} {account : BillingAccount}
    (ensured : Ensured ledger { accountType, ownerType, ownerID, quotaUnit := "quota" } account after) (kind : trimSpace accountType = accountType)
    (owner : trimSpace ownerType = ownerType) : AccountOf accountType ownerType ownerID account := by
  have unit : (if Blank "quota" then "quota" else trimSpace "quota") = "quota" := by decide
  exact ⟨ensured.kind.trans kind, ensured.owner.1.trans owner, ensured.owner.2, ensured.unit.trans unit⟩

@[simp] theorem credit_funds_zero (snapshot : BillingBalanceSnapshot) : creditFunds snapshot 0 = snapshot := by
  simp [creditFunds]

theorem Credited.balance {ledger after : Ledger} {params : CreditAccountParams} {entry : BillingLedgerEntry}
    (credited : Credited ledger params entry after) (accountID : String) :
    after.balance accountID =
      if accountID = params.accountID then creditFunds (ledger.balance accountID) params.amount else ledger.balance accountID := by
  rw [credited.posted.balance]
  have here : (creditFunds (ledger.balance params.accountID) params.amount).accountID = params.accountID := by simp [creditFunds]
  rw [here]
  split
  · rename_i same
    rw [same]
  · rfl

def mirrorBootstrap (accountID : String) (userID legacyBalance : Int) : CreditAccountParams :=
  { accountID, amount := legacyBalance, idempotencyKey := mirrorBootstrapKey userID, reasonCode := "mirror_bootstrap",
    referenceType := "user", referenceID := toString userID, operatorType := "ledger_sync", operatorID := "mirror_bootstrap" }

theorem mirror_key_ne (userID : Int) {front : String} (apart : Apart "mirror-bootstrap:user:" front) (rest : String) :
    trimSpace (mirrorBootstrapKey userID) ≠ front ++ rest := by
  have tight : Tight "mirror-bootstrap:user:" := by decide
  obtain ⟨suffix, joined⟩ : ∃ suffix, mirrorBootstrapKey userID = "mirror-bootstrap:user:" ++ suffix :=
    ⟨_, String.append_assoc.trans String.append_assoc⟩
  rw [joined]
  exact apart.trim_ne tight suffix rest

-- The wallet of a user is found or opened, and may take over the quota of the legacy column.
structure Mirrored (ledger : Ledger) (userID legacyBalance : Int) (account : BillingAccount) (after : Ledger) : Prop where
  moves : Moves [.ensureBillingAccount (claudeWalletParams userID),
    .creditAccount (mirrorBootstrap account.accountID userID legacyBalance)] ledger after
  member : account ∈ after.accounts.rows
  owner : ClaudeWalletOf userID account
  opened : after.accounts.rows = ledger.accounts.rows ∨ after.accounts.rows = ledger.accounts.rows ++ [account]
  here : ∃ bootstrap, 0 ≤ bootstrap ∧ after.balance account.accountID = creditFunds (ledger.balance account.accountID) bootstrap ∧
    (bootstrap ≠ 0 → bootstrap = legacyBalance ∧ ¬ hasNonZeroSnapshot (ledger.balance account.accountID))
  elsewhere : ∀ other, other ≠ account.accountID → after.balance other = ledger.balance other
  reservations : after.reservations = ledger.reservations
  settlements : after.settlements = ledger.settlements

theorem mirrored_of_ensure (env : LedgerEnv) (userID legacyBalance : Int) (ledger after : Ledger) (account : BillingAccount)
    (ran : ensureMirroredUserAccountTx env userID legacyBalance ledger = (.ok account, after)) :
    Mirrored ledger userID legacyBalance account after := by
  simp only [ensureMirroredUserAccountTx, loadBalanceSnapshotTx, findSnapshot, Tx.ran_bind, Tx.ran_view] at ran
  obtain ⟨row, middle, opening, _, _, ⟨_, _, ⟨rfl, rfl⟩, loaded⟩, continued⟩ := ran
  have ensured := ensured_account env _ _ _ _ opening
  have same := ensured.unmoved
  have first : Effect ledger middle (.ensureBillingAccount (claudeWalletParams userID)) := .unmoved _ same
  cases found : middle.snapshots.find? fun snapshot => snapshot.accountID = row.accountID with
  | none => simp [found] at loaded
  | some snapshot =>
      simp only [found, Tx.ran_pure] at loaded
      obtain ⟨rfl, rfl⟩ := loaded
      split at continued
      · rw [Tx.ran_pure] at continued
        obtain ⟨rfl, rfl⟩ := continued
        exact ⟨.cons first (.unmoved _ (.refl _)), ensured.member, ensured.account_of (by decide) (by decide), ensured.opened,
          ⟨0, by simp, by simp [same.balances], by simp⟩, fun other _ => same.balances other, same.reservations, same.settlements⟩
      · rename_i fresh
        rw [not_or, Int.not_le] at fresh
        simp only [Tx.ran_bind, Tx.ran_pure] at continued
        obtain ⟨entry, _, credit, rfl, rfl⟩ := continued
        have second := credit_effect env _ _ _ _ credit
        obtain ⟨rfl, _⟩ | credited := credited_of_credit env _ _ _ entry credit
        · exact ⟨.cons first (.single second), ensured.member, ensured.account_of (by decide) (by decide), ensured.opened,
            ⟨0, by simp, by simp [same.balances], by simp⟩, fun other _ => same.balances other, same.reservations, same.settlements⟩
        · have zero : ¬ hasNonZeroSnapshot (ledger.balance row.accountID) := by
            rw [← same.balances]
            simpa [Ledger.balance, balanceOf, found] using fresh.1
          refine ⟨.cons first (.single second), by simpa [credited.posted.accounts] using ensured.member, ensured.account_of (by decide) (by decide),
            by simpa [credited.posted.accounts] using ensured.opened, ⟨legacyBalance, by omega, ?_, fun _ => ⟨rfl, zero⟩⟩,
            fun other different => ?_, credited.reservations.trans same.reservations, credited.settlements.trans same.settlements⟩
          · rw [credited.balance, if_pos rfl, same.balances]
          · rw [credited.balance, if_neg different, same.balances]

theorem ran_create_lot (env : WalletEnv) (lot row : FundingLot) (wallet after : Wallet) (ran : createLot env lot wallet = (.ok row, after)) :
    ∃ lotID drawn lots, row = { lot with lotID, createdAt := wallet.ledger.clock } ∧
      after = { wallet with ledger := { wallet.ledger with drawn }, lots } ∧ lots.rows = wallet.lots.rows ++ [row] := by
  simp only [createLot, Tx.ran_bind, Tx.ran_view, ran_on_ledger] at ran
  obtain ⟨lotID, _, ⟨_, filled, rfl⟩, _, _, ⟨rfl, rfl⟩, _, _, ⟨rfl, rfl⟩, continued⟩ := ran
  obtain ⟨drawn, rfl⟩ := ran_fill_id env.toLedgerEnv _ _ _ _ filled
  cases accepted : wallet.lots.insert? { lot with lotID, createdAt := wallet.ledger.clock } with
  | none => simp [accepted] at continued
  | some lots =>
      simp only [accepted, Tx.ran_bind, Tx.ran_edit, Tx.ran_pure] at continued
      obtain ⟨_, _, rfl, rfl, rfl⟩ := continued
      exact ⟨lotID, drawn, lots, rfl, rfl, ((Table.insert?_eq_some_iff _ _ _).mp accepted).2⟩

-- A credit leaves one new lot behind, unless a lot with its key is there already.
structure LotRecorded (wallet : Wallet) (accountID : String) (amount : Int) (key : String) (after : Wallet) : Prop where
  frame : ∃ drawn lots, after = { wallet with ledger := { wallet.ledger with drawn }, lots }
  lots : after.lots = wallet.lots ∨ ∃ lot, after.lots.rows = wallet.lots.rows ++ [lot] ∧ lot.accountID = accountID ∧
    lot.remainingAmount = amount ∧ lot.originalAmount = amount ∧ lot.idempotencyKey = key

theorem lot_recorded (env : WalletEnv) (accountID : String) (amount : Int) (key reasonCode referenceType referenceID : String)
    (wallet after : Wallet) (ran : recordFundingLotTx env accountID amount key reasonCode referenceType referenceID wallet = (.ok (), after)) :
    LotRecorded wallet accountID amount key after := by
  unfold recordFundingLotTx at ran
  split at ran
  · rw [Tx.ran_pure] at ran
    obtain ⟨_, rfl⟩ := ran
    exact ⟨⟨_, _, rfl⟩, .inl rfl⟩
  · simp only [findLotByKey, Tx.ran_bind, Tx.ran_view] at ran
    obtain ⟨_, _, ⟨rfl, rfl⟩, continued⟩ := ran
    cases looked : wallet.lots.find? fun lot => lot.idempotencyKey = key with
    | some lot =>
        simp only [looked, Tx.ran_pure] at continued
        obtain ⟨_, rfl⟩ := continued
        exact ⟨⟨_, _, rfl⟩, .inl rfl⟩
    | none =>
        simp only [looked, Tx.ran_bind, Tx.ran_pure] at continued
        obtain ⟨row, _, created, _, rfl⟩ := continued
        obtain ⟨lotID, drawn, lots, rfl, rfl, appended⟩ := ran_create_lot env _ _ _ _ created
        exact ⟨⟨_, _, rfl⟩, .inr ⟨_, appended, rfl, rfl, rfl, rfl⟩⟩

-- The answer of a wallet credit up to the projection: a replay, or a posted credit with its lot.
theorem credited_of_credit_wallet (env : WalletEnv) (credit : WalletCredit) (project : String → WalletTx Unit) (wallet after : Wallet)
    (ran : creditMirroredWalletTx env credit project wallet = (.ok (), after)) :
    ∃ account ledger, Mirrored wallet.ledger credit.userID (wallet.quota credit.userID) account ledger ∧
      ((after = { wallet with ledger } ∧ ∃ entry ∈ ledger.entries.rows, entry.idempotencyKey = credit.idempotencyKey ∧
          entry.entryType = .grantCredit ∧ entry.accountID = account.accountID ∧ entry.amount = credit.amount) ∨
        ∃ entry posted middle, Credited ledger (credit.params account.accountID) entry posted ∧
          LotRecorded { wallet with ledger := posted } account.accountID credit.amount credit.idempotencyKey middle ∧
          project account.accountID middle = (.ok (), after)) := by
  simp only [creditMirroredWalletTx, findAccountEntry, Tx.ran_bind, ran_on_ledger, Tx.ran_view] at ran
  obtain ⟨legacyBalance, start, read, account, _, ⟨ledger, ensured, rfl⟩, existing, _, ⟨_, ⟨found, rfl⟩, rfl⟩, entry, _,
    ⟨posted, credited, rfl⟩, continued⟩ := ran
  obtain ⟨rfl, rfl⟩ := ran_get_quota _ _ _ _ read
  refine ⟨account, ledger, mirrored_of_ensure _ _ _ _ _ _ ensured, ?_⟩
  obtain ⟨rfl, entryIn, key, kind, owner, amount⟩ | posting := credited_of_credit _ _ _ _ _ credited
  · -- The two lookups of the key agree on a replay, so nothing else is written.
    have seen : existing.isSome := by
      rw [← found, Table.find?, List.find?_isSome]
      exact ⟨entry, entryIn, decide_eq_true ⟨owner, key⟩⟩
    rw [if_pos seen, Tx.ran_pure] at continued
    exact .inl ⟨continued.2.symm, entry, entryIn, key, kind, owner, amount⟩
  · by_cases seen : existing.isSome
    · -- An entry with this key would have made the credit a replay.
      rw [← found, Table.find?, List.find?_isSome] at seen
      obtain ⟨other, otherIn, hit⟩ := seen
      exact (posting.unknown other otherIn (of_decide_eq_true hit).2).elim
    · rw [if_neg seen, Tx.ran_bind] at continued
      obtain ⟨_, middle, recorded, projected⟩ := continued
      exact .inr ⟨entry, posted, middle, posting, lot_recorded env _ _ _ _ _ _ _ _ recorded, projected⟩

-- A write to the legacy column leaves every other column of the users alone.
def User.profile (user : User) : User := { user with claudeQuota := 0 }

structure Projected (wallet after : Wallet) : Prop where
  frame : ∃ users, after = { wallet with users }
  profiles : after.users.rows.map User.profile = wallet.users.rows.map User.profile

theorem projected_update (userID : Int) (change : Int → Int) (wallet after : Wallet)
    (ran : updateClaudeQuota userID change wallet = (.ok (), after)) : Projected wallet after := by
  rw [updateClaudeQuota, Tx.ran_edit] at ran
  subst ran
  refine ⟨⟨_, rfl⟩, ?_⟩
  rw [Table.rows_update, List.map_map]
  refine List.map_congr_left fun user _ => ?_
  by_cases hit : user.id = userID <;> simp [User.profile, hit]

theorem ran_load_snapshot (accountID : String) (ledger after : Ledger) (snapshot : BillingBalanceSnapshot)
    (ran : loadBalanceSnapshotTx accountID ledger = (.ok snapshot, after)) : snapshot = ledger.balance accountID ∧ ledger = after := by
  simp only [loadBalanceSnapshotTx, findSnapshot, Tx.ran_bind, Tx.ran_view] at ran
  obtain ⟨_, _, ⟨rfl, rfl⟩, answered⟩ := ran
  cases looked : ledger.snapshots.find? fun row => row.accountID = accountID with
  | none => simp [looked] at answered
  | some row =>
      simp only [looked, Tx.ran_pure] at answered
      exact ⟨by simp [Ledger.balance, balanceOf, looked, answered.1], answered.2⟩

theorem projected_align (userID : Int) (accountID : String) (wallet after : Wallet)
    (ran : alignClaudeQuota userID accountID wallet = (.ok (), after)) : Projected wallet after := by
  simp only [alignClaudeQuota, Tx.ran_bind, ran_on_ledger] at ran
  obtain ⟨snapshot, _, ⟨ledger, loaded, rfl⟩, updated⟩ := ran
  obtain ⟨_, rfl⟩ := ran_load_snapshot _ _ _ _ loaded
  exact projected_update userID _ _ _ updated

-- A committed wallet credit, whether it posted its entry now or found it there.
structure WalletCredited (wallet : Wallet) (credit : WalletCredit) (account : BillingAccount) (after : Wallet) : Prop where
  moves : Moves [.ensureBillingAccount (claudeWalletParams credit.userID),
    .creditAccount (mirrorBootstrap account.accountID credit.userID (wallet.quota credit.userID)),
    .creditAccount (credit.params account.accountID), .tick 0] wallet.ledger after.ledger
  member : account ∈ after.ledger.accounts.rows
  owner : ClaudeWalletOf credit.userID account
  opened : after.ledger.accounts.rows = wallet.ledger.accounts.rows ∨ after.ledger.accounts.rows = wallet.ledger.accounts.rows ++ [account]
  elsewhere : ∀ other, other ≠ account.accountID → after.ledger.balance other = wallet.ledger.balance other
  entry : ∃ entry ∈ after.ledger.entries.rows, entry.accountID = account.accountID ∧ entry.entryType = .grantCredit ∧
    entry.amount = credit.amount ∧ (entry.idempotencyKey = credit.idempotencyKey ∨ entry.idempotencyKey = trimSpace credit.idempotencyKey)
  reservations : after.ledger.reservations = wallet.ledger.reservations
  settlements : after.ledger.settlements = wallet.ledger.settlements
  profiles : after.users.rows.map User.profile = wallet.users.rows.map User.profile

theorem wallet_credited (env : WalletEnv) (credit : WalletCredit) (project : String → WalletTx Unit) (wallet after : Wallet)
    (ran : creditMirroredWalletTx env credit project wallet = (.ok (), after))
    (projects : ∀ accountID middle final, project accountID middle = (.ok (), final) → Projected middle final) :
    ∃ account, WalletCredited wallet credit account after := by
  obtain ⟨account, ledger, mirrored, ⟨rfl, entry, entryIn, key, kind, owner, amount⟩ | ⟨entry, posted, middle, credited, recorded, ran⟩⟩ :=
    credited_of_credit_wallet env credit project wallet after ran
  · refine ⟨account, mirrored.moves.append (.cons (.unmoved _ (.refl ledger)) (.unmoved _ (.refl ledger))), mirrored.member, mirrored.owner,
      mirrored.opened, mirrored.elsewhere, ⟨entry, entryIn, owner, kind, amount, .inl key⟩, mirrored.reservations, mirrored.settlements, rfl⟩
  · have projected := projects account.accountID middle after ran
    obtain ⟨users, rfl⟩ := projected.frame
    obtain ⟨drawn, lots, rfl⟩ := recorded.frame
    refine ⟨account, mirrored.moves.append (.cons (.credited _ entry credited) (.unmoved _ (.drawn posted drawn))),
      by simpa [credited.posted.accounts] using mirrored.member, mirrored.owner, by simpa [credited.posted.accounts] using mirrored.opened,
      fun other different => ?_, ⟨entry, by simp [credited.posted.entries], credited.line.account, credited.line.kind, credited.line.amount,
        .inr credited.line.key⟩, credited.reservations.trans mirrored.reservations, credited.settlements.trans mirrored.settlements,
      projected.profiles⟩
    have apart : other ≠ (credit.params account.accountID).accountID := different
    have kept := credited.balance other
    rw [if_neg apart, mirrored.elsewhere other different] at kept
    exact kept

theorem marketplace_credited (env : WalletEnv) (userID amount : Int) (key reasonCode : String) (wallet after : Wallet)
    (ran : creditMarketplaceOwnerEarningsTx env userID amount key reasonCode wallet = (.ok (), after)) :
    0 < amount ∧ ∃ account, WalletCredited wallet
      { userID, amount, idempotencyKey := key, reasonCode, fallbackReason := "marketplace_owner_release",
        operatorType := "marketplace_settlement" } account after := by
  simp only [creditMarketplaceOwnerEarningsTx, Tx.ran_bind, Tx.ran_reject] at ran
  obtain ⟨_, _, ⟨accepted, rfl⟩, credited⟩ := ran
  push Not at accepted
  exact ⟨accepted.2.1, wallet_credited env _ _ _ _ credited fun accountID middle final ran => projected_align _ _ _ _ ran⟩

theorem never_short_on_ledger {α : Type} (work : LedgerTx α) (inner : NeverShort work) : NeverShort (onLedger work) := Tx.avoids_zoom inner

theorem never_short_load_snapshot (accountID : String) : NeverShort (loadBalanceSnapshotTx accountID) := by
  refine Tx.avoids_bind (Tx.avoids_view _) fun found => ?_
  cases found with
  | some snapshot => exact Tx.avoids_pure _
  | none => exact Tx.avoids_fail (by decide)

theorem never_short_mirrored_account (env : LedgerEnv) (userID legacyBalance : Int) :
    NeverShort (ensureMirroredUserAccountTx env userID legacyBalance) := by
  refine Tx.avoids_bind (never_short_account env _) fun account => Tx.avoids_bind (never_short_load_snapshot _) fun snapshot => ?_
  split
  · exact Tx.avoids_pure _
  · exact Tx.avoids_bind (never_short_credit env _) fun _ => Tx.avoids_pure _

theorem never_short_record_lot (env : WalletEnv) (accountID : String) (amount : Int) (key reasonCode referenceType referenceID : String) :
    NeverShort (recordFundingLotTx env accountID amount key reasonCode referenceType referenceID) := by
  unfold recordFundingLotTx
  split
  · exact Tx.avoids_pure _
  · refine Tx.avoids_bind (Tx.avoids_view _) fun found => ?_
    cases found with
    | some lot => exact Tx.avoids_pure _
    | none =>
        refine Tx.avoids_bind ?_ fun _ => Tx.avoids_pure _
        refine Tx.avoids_bind (never_short_on_ledger _ (avoids_fill _ _ _)) fun _ => Tx.avoids_bind (Tx.avoids_view _) fun _ =>
          Tx.avoids_bind (Tx.avoids_view _) fun inserted => ?_
        cases inserted with
        | none => exact Tx.avoids_fail (by decide)
        | some lots => exact Tx.avoids_bind (Tx.avoids_edit _) fun _ => Tx.avoids_pure _

theorem never_short_marketplace_credit (env : WalletEnv) (userID amount : Int) (key reasonCode : String) :
    NeverShort (creditMarketplaceOwnerEarningsTx env userID amount key reasonCode) := by
  refine Tx.avoids_bind (Tx.avoids_reject _ (by simp)) fun _ => Tx.avoids_bind ?_ fun legacyBalance => ?_
  · refine Tx.avoids_bind (Tx.avoids_view _) fun found => ?_
    cases found <;> exact Tx.avoids_pure _
  · refine Tx.avoids_bind (never_short_on_ledger _ (never_short_mirrored_account _ _ _)) fun account =>
      Tx.avoids_bind (never_short_on_ledger _ (Tx.avoids_view _)) fun existing =>
        Tx.avoids_bind (never_short_on_ledger _ (never_short_credit _ _)) fun entry => ?_
    split
    · exact Tx.avoids_pure _
    · exact Tx.avoids_bind (never_short_record_lot env _ _ _ _ _ _) fun _ =>
        Tx.avoids_bind (never_short_on_ledger _ (never_short_load_snapshot _)) fun _ => Tx.avoids_edit _

end CodeGo.Billing
