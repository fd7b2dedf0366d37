import CodeGo.Marketplace.Lifecycle

set_option autoImplicit false

namespace CodeGo.Marketplace

open Relational Text Billing

-- Whose wallet a closed settlement goes to, and under which key. Forfeited earnings go to user 1.
def Settlement.payee (item : Settlement) : Option (String × Int) :=
  match item.status with
  | .pending => none
  | .released => some (releaseCreditKey item.id, item.ownerUserID)
  | .reclaimed => some (releaseCreditKey item.id, item.ownerUserID)
  | .forfeited => some (forfeitCreditKey item.id, 1)

-- The credits of settlements in the ledger are exactly what the closed rows say.
structure Paid (market : Market) : Prop where
  backed : ∀ entry ∈ market.wallet.ledger.entries.rows, ∀ settlementID, CreditKey entry.idempotencyKey settlementID →
    ∃ item ∈ market.settlements.rows, ∃ userID, item.id = settlementID ∧ item.payee = some (entry.idempotencyKey, userID) ∧
      entry.amount = item.ownerNetAmount ∧
      ∃ account ∈ market.wallet.ledger.accounts.rows, account.accountID = entry.accountID ∧ ClaudeWalletOf userID account
  posted : ∀ item ∈ market.settlements.rows, ∀ key userID, item.payee = some (key, userID) → 0 < item.ownerNetAmount →
    ∃ entry ∈ market.wallet.ledger.entries.rows, entry.idempotencyKey = key

theorem credit_key_injective (first second key : String) (firstKey : CreditKey key first) (secondKey : CreditKey key second) : first = second := by
  have apart : Apart "marketplace-release-credit:" "marketplace-forfeit:" := by decide
  rcases firstKey with rfl | rfl
  · rcases secondKey with same | same
    · exact append_left_injective _ _ _ same
    · exact (apart.ne _ _ (same.trans String.append_assoc)).elim
  · rcases secondKey with same | same
    · exact (apart.ne _ _ (same.symm.trans String.append_assoc)).elim
    · exact append_left_injective _ _ _ (append_right_injective _ _ _ same)

theorem payee_credit_key (item : Settlement) (key : String) (userID : Int) (payee : item.payee = some (key, userID)) : CreditKey key item.id := by
  unfold Settlement.payee at payee
  cases status : item.status with
  | pending => simp [status] at payee
  | released =>
      simp only [status, Option.some.injEq, Prod.mk.injEq] at payee
      exact .inl payee.1.symm
  | reclaimed =>
      simp only [status, Option.some.injEq, Prod.mk.injEq] at payee
      exact .inl payee.1.symm
  | forfeited =>
      simp only [status, Option.some.injEq, Prod.mk.injEq] at payee
      exact .inr payee.1.symm

theorem payee_none_iff (item : Settlement) : item.payee = none ↔ item.status = .pending := by
  unfold Settlement.payee
  cases item.status <;> simp

-- An edit never changes what a closed settlement has paid to whom.
theorem edit_payee {item next : Settlement} (edit : RowEdit item next) :
    next.id = item.id ∧ next.payee = item.payee ∧ (item.payee ≠ none → next.ownerNetAmount = item.ownerNetAmount) := by
  cases edit with
  | drafted draft =>
      cases draft with
      | charged amount pending _ _ => exact ⟨rfl, rfl, fun closed => (closed ((payee_none_iff item).mpr pending)).elim⟩
      | completed => exact ⟨rfl, rfl, fun _ => rfl⟩
      | dated => exact ⟨rfl, rfl, fun _ => rfl⟩
  | reclaimed amount released _ _ =>
      refine ⟨rfl, ?_, fun _ => rfl⟩
      simp only [Settlement.payee, reclaimRow, released]
      split <;> rename_i kept <;> split at kept <;> simp_all

theorem edits_payee {item next : Settlement} (path : Relation.ReflTransGen RowEdit item next) :
    next.id = item.id ∧ next.payee = item.payee ∧ (item.payee ≠ none → next.ownerNetAmount = item.ownerNetAmount) := by
  induction path with
  | refl => exact ⟨rfl, rfl, fun _ => rfl⟩
  | tail _ edit ih =>
      obtain ⟨named, payee, net⟩ := edit_payee edit
      refine ⟨named.trans ih.1, payee.trans ih.2.1, fun closed => ?_⟩
      rw [net (by rwa [ih.2.1]), ih.2.2 closed]

theorem Paid.edited {market after : Market} (paid : Paid market) (edited : Edited market after) : Paid after := by
  refine ⟨fun entry entryIn settlementID keyed => ?_, fun item itemIn key userID payee positive => ?_⟩
  · rcases edited.quiet.fresh entry entryIn with old | quiet
    · obtain ⟨item, itemIn, userID, named, payee, amount, account, accountIn, owner⟩ := paid.backed entry old settlementID keyed
      obtain ⟨later, laterIn, path⟩ := edited.rows.kept item itemIn
      obtain ⟨sameID, samePayee, sameNet⟩ := edits_payee path
      refine ⟨later, laterIn, userID, sameID.trans named, samePayee.trans payee, ?_, account, edited.quiet.accounts account accountIn, owner⟩
      rw [sameNet (by simp [payee]), amount]
    · exact (quiet settlementID keyed).elim
  · rcases edited.rows.origin item itemIn with ⟨old, oldIn, path⟩ | ⟨born, facts, path⟩
    · obtain ⟨_, samePayee, sameNet⟩ := edits_payee path
      rw [samePayee] at payee
      rw [sameNet (by simp [payee])] at positive
      obtain ⟨entry, entryIn, keyed⟩ := paid.posted old oldIn key userID payee positive
      exact ⟨entry, edited.quiet.entries entry entryIn, keyed⟩
    · obtain ⟨_, samePayee, _⟩ := edits_payee path
      rw [samePayee, (payee_none_iff born).mpr facts.pending] at payee
      cases payee

-- The payment that closes a settlement: something quiet, then one wallet credit under the row's key.
structure Payment (wallet : Wallet) (key : String) (userID amount : Int) (after : Wallet) : Prop where
  keyed : Keyed closingFronts wallet.ledger after.ledger
  kept : ∀ entry ∈ wallet.ledger.entries.rows, entry ∈ after.ledger.entries.rows
  accounts : ∀ account ∈ wallet.ledger.accounts.rows, account ∈ after.ledger.accounts.rows
  fresh : ∀ entry ∈ after.ledger.entries.rows, entry ∈ wallet.ledger.entries.rows ∨ (∀ settlementID, ¬ CreditKey entry.idempotencyKey settlementID) ∨
    entry.idempotencyKey = key
  posted : ∃ entry ∈ after.ledger.entries.rows, entry.idempotencyKey = key ∧ entry.amount = amount ∧
    ∃ account ∈ after.ledger.accounts.rows, account.accountID = entry.accountID ∧ ClaudeWalletOf userID account

theorem payment_of_credit {wallet middle after : Wallet} {credit : WalletCredit} {account : BillingAccount}
    (spent : Routine wallet.ledger middle.ledger) (credited : WalletCredited middle credit account after) (tight : Tight credit.idempotencyKey)
    (fronted : Fronted closingFronts credit.idempotencyKey) : Payment wallet credit.idempotencyKey credit.userID credit.amount after := by
  have quiet := routine_quiet spent
  have moved := credited.moves.extends
  refine ⟨(spent.mono fun front member => List.mem_append_left _ member).trans ⟨_, credited.moves, fun op opIn => ?_⟩, fun entry member => moved.entries entry (quiet.entries entry member),
    fun row member => credited.moves.accounts row (quiet.accounts row member), fun entry member => ?_, ?_⟩
  · simp only [List.mem_cons, List.not_mem_nil, or_false] at opIn
    rcases opIn with rfl | rfl | rfl | rfl
    · simp [LedgerOp.entryKeys, LedgerOp.reservationKeys]
    · refine ⟨fun key keyed => ?_, by simp [LedgerOp.reservationKeys]⟩
      rw [LedgerOp.entryKeys, List.mem_singleton] at keyed
      exact keyed ▸ mirror_fronted _ _ (by decide)
    · refine ⟨fun key keyed => ?_, by simp [LedgerOp.reservationKeys]⟩
      rw [LedgerOp.entryKeys, List.mem_singleton, WalletCredit.params, trim_space_tight _ tight] at keyed
      exact keyed ▸ fronted
    · simp [LedgerOp.entryKeys, LedgerOp.reservationKeys]
  · rcases credited.moves.entry_key entry member with old | ⟨op, opIn, key⟩
    · exact (quiet.fresh entry old).imp_right .inl
    · simp only [List.mem_cons, List.not_mem_nil, or_false] at opIn
      rcases opIn with rfl | rfl | rfl | rfl
      · simp [LedgerOp.entryKeys] at key
      · exact .inr (.inl fun settlementID => mirror_not_credit_key _ _ _ _ settlementID key)
      · rw [LedgerOp.entryKeys, List.mem_singleton, WalletCredit.params, trim_space_tight _ tight] at key
        exact .inr (.inr key)
      · simp [LedgerOp.entryKeys] at key
  · obtain ⟨entry, member, owner, _, amount, key⟩ := credited.entry
    rw [trim_space_tight _ tight, or_self] at key
    exact ⟨entry, member, key, amount, account, credited.member, owner.symm, credited.owner⟩

-- Closing one settlement, with or without a payment.
structure ClosedRow (market after : Market) (item : Settlement) : Prop where
  paid : Paid after
  keyed : Keyed closingFronts market.wallet.ledger after.wallet.ledger
  rows : Evolves RowClose market.settlements after.settlements
  known : ∀ later ∈ after.settlements.rows, ∃ row ∈ market.settlements.rows, row.id = later.id
  others : ∀ row ∈ market.settlements.rows, row.id ≠ item.id → row ∈ after.settlements.rows

theorem Paid.closed {market : Market} {wallet : Wallet} {settlements : Table Settlement} {item next : Settlement} {key : String} {userID : Int}
    (paid : Paid market) (replaced : Table.Replaced market.settlements settlements item next) (close : RowClose item next)
    (payee : next.payee = some (key, userID))
    (payment : (item.ownerNetAmount = 0 ∧ wallet = market.wallet) ∨ Payment market.wallet key userID item.ownerNetAmount wallet) :
    ClosedRow market { market with wallet, settlements } item := by
  have sameID : next.id = item.id := by cases close <;> rfl
  have sameNet : next.ownerNetAmount = item.ownerNetAmount := by cases close <;> rfl
  have pending : item.status = .pending := by cases close <;> assumption
  have unpaid := (payee_none_iff item).mpr pending
  have kept : (∀ entry ∈ market.wallet.ledger.entries.rows, entry ∈ wallet.ledger.entries.rows) ∧
      ∀ account ∈ market.wallet.ledger.accounts.rows, account ∈ wallet.ledger.accounts.rows := by
    rcases payment with ⟨_, rfl⟩ | payment
    · exact ⟨fun _ member => member, fun _ member => member⟩
    · exact ⟨payment.kept, payment.accounts⟩
  refine ⟨⟨fun entry entryIn settlementID keyed => ?_, fun row rowIn rowKey rowUser rowPayee positive => ?_⟩, ?_, .replaced replaced close,
    fun row rowIn => ?_, fun row rowIn different => ?_⟩
  · have backed : entry ∈ market.wallet.ledger.entries.rows → ∃ row ∈ settlements.rows, ∃ userID, row.id = settlementID ∧
        row.payee = some (entry.idempotencyKey, userID) ∧ entry.amount = row.ownerNetAmount ∧
        ∃ account ∈ wallet.ledger.accounts.rows, account.accountID = entry.accountID ∧ ClaudeWalletOf userID account := by
      intro old
      obtain ⟨row, rowIn, rowUser, named, rowPayee, amount, account, accountIn, owner⟩ := paid.backed entry old settlementID keyed
      rcases replaced.kept row rowIn with rfl | stays
      · rw [unpaid] at rowPayee
        cases rowPayee
      · exact ⟨row, stays, rowUser, named, rowPayee, amount, account, kept.2 account accountIn, owner⟩
    rcases payment with ⟨_, rfl⟩ | payment
    · exact backed entryIn
    · rcases payment.fresh entry entryIn with old | quiet | isKey
      · exact backed old
      · exact (quiet settlementID keyed).elim
      · obtain ⟨line, lineIn, lineKey, amount, account, accountIn, named, owner⟩ := payment.posted
        have same : entry = line := Table.eq_of_clash _ _ _ entryIn lineIn (.inr (isKey.trans lineKey.symm))
        subst same
        refine ⟨next, replaced.new_mem, userID, ?_, by rw [isKey, payee], amount.trans sameNet.symm, account, accountIn, named, owner⟩
        exact credit_key_injective _ _ _ (payee_credit_key next key userID payee) (isKey ▸ keyed)
  · rcases replaced.mem row rowIn with rfl | ⟨old, _⟩
    · rw [payee, Option.some.injEq, Prod.mk.injEq] at rowPayee
      rcases payment with ⟨nothing, _⟩ | payment
      · omega
      · obtain ⟨line, lineIn, lineKey, _⟩ := payment.posted
        exact ⟨line, lineIn, lineKey.trans rowPayee.1⟩
    · obtain ⟨entry, entryIn, entryKey⟩ := paid.posted row old rowKey rowUser rowPayee positive
      exact ⟨entry, kept.1 entry entryIn, entryKey⟩
  · rcases payment with ⟨_, rfl⟩ | payment
    · exact .refl _ _
    · exact payment.keyed
  · rcases replaced.mem row rowIn with rfl | ⟨old, _⟩
    · exact ⟨item, replaced.old_mem, sameID.symm⟩
    · exact ⟨row, old, rfl⟩
  · rcases replaced.kept row rowIn with rfl | stays
    · exact (different rfl).elim
    · exact stays

theorem payment_of_release (env : WalletEnv) (item : Settlement) (wallet after : Wallet) (ran : releasePayout env item wallet = (.ok (), after))
    (named : Tight item.id) : Payment wallet (releaseCreditKey item.id) item.ownerUserID item.ownerNetAmount after := by
  simp only [releasePayout, Tx.ran_bind, ran_on_ledger] at ran
  obtain ⟨reservation, _, ⟨middle, created, rfl⟩, settlement, _, ⟨ledger, settled, rfl⟩, credited⟩ := ran
  obtain ⟨_, owner, paid⟩ := marketplace_credited env _ _ _ _ _ _ credited
  have spent : Routine wallet.ledger ledger := by
    refine routine_spend _ _ _ _ _ _ _ _ created settled ?_ ?_ ?_
    · exact fronted_trim _ _ (by decide) (by decide)
    · exact fronted_entry _ "entry:marketplace-release-reserve:" _ rfl (by decide) (by decide)
    · exact fronted_entry _ "entry:marketplace-release-settle:" _ rfl (by decide) (by decide)
  exact @payment_of_credit wallet { wallet with ledger } after _ owner spent paid (tight_append _ _ (by decide) named.2)
    ⟨"marketplace-release-credit:", by decide, item.id, rfl⟩

theorem payment_of_forfeit (env : WalletEnv) (item : Settlement) (wallet after : Wallet)
    (ran : forfeitMarketplacePendingEarningsTx env item.pendingAccountID 1 item.ownerNetAmount ("marketplace-forfeit:" ++ item.id) wallet =
      (.ok (), after)) : Payment wallet (forfeitCreditKey item.id) 1 item.ownerNetAmount after := by
  simp only [forfeitMarketplacePendingEarningsTx, Tx.ran_bind, ran_on_ledger] at ran
  obtain ⟨reservation, _, ⟨middle, created, rfl⟩, settlement, _, ⟨ledger, settled, rfl⟩, credited⟩ := ran
  obtain ⟨_, owner, paid⟩ := marketplace_credited env _ _ _ _ _ _ credited
  have spent : Routine wallet.ledger ledger := by
    refine routine_spend _ _ _ _ _ _ _ _ created settled ?_ ?_ ?_
    · rw [String.append_assoc]
      exact fronted_trim _ _ (by decide) (by decide)
    · rw [String.append_assoc]
      exact fronted_entry _ "entry:marketplace-forfeit:" _ rfl (by decide) (by decide)
    · rw [String.append_assoc]
      exact fronted_entry _ "entry:marketplace-forfeit:" _ rfl (by decide) (by decide)
  exact @payment_of_credit wallet { wallet with ledger } after _ owner spent paid (tight_wrapped _ _ _ (by decide) (by decide))
    ⟨"marketplace-forfeit:", by decide, item.id ++ ":credit", String.append_assoc⟩

theorem closed_row_of_close (market after : Market) (item : Settlement) (status : SettlementStatus) (pay : WalletTx Unit) (key : String) (userID : Int)
    (ran : closePending item status pay market = (.ok (), after)) (paid : Paid market) (member : item ∈ market.settlements.rows)
    (closes : item.status = .pending → item.referralRebatePending = false → RowClose item { item with status })
    (payee : Settlement.payee { item with status } = some (key, userID))
    (pays : ∀ wallet, pay market.wallet = (.ok (), wallet) → Payment market.wallet key userID item.ownerNetAmount wallet) :
    ClosedRow market after item := by
  unfold closePending at ran
  split at ran
  · rw [Tx.ran_pure] at ran
    obtain ⟨_, rfl⟩ := ran
    exact ⟨paid, .refl _ _, .refl _, fun row rowIn => ⟨row, rowIn, rfl⟩, fun row rowIn _ => rowIn⟩
  · rename_i isPending
    simp only [Tx.ran_bind, Tx.ran_reject] at ran
    obtain ⟨_, _, ⟨allocated, rfl⟩, ran⟩ := ran
    have close := closes (by simpa using isPending) (by simpa using allocated)
    split at ran
    · rename_i nothing
      obtain ⟨replaced, settlements, rfl⟩ := replaced_settlement market after item _ _ member ran
      exact paid.closed replaced close payee (.inl ⟨nothing, rfl⟩)
    · simp only [Tx.ran_bind, ran_on_wallet] at ran
      obtain ⟨_, _, ⟨wallet, paying, rfl⟩, marked⟩ := ran
      obtain ⟨replaced, settlements, rfl⟩ := replaced_settlement { market with wallet } after item _ _ member marked
      exact paid.closed replaced close payee (.inr (pays wallet paying))

theorem closed_row_by_release (env : WalletEnv) (item : Settlement) (market after : Market)
    (ran : closePending item .released (releasePayout env item) market = (.ok (), after)) (paid : Paid market)
    (member : item ∈ market.settlements.rows) (named : Tight item.id) : ClosedRow market after item :=
  closed_row_of_close market after item .released _ _ _ ran paid member (.released item) rfl fun wallet paying =>
    payment_of_release env item _ wallet paying named

theorem closed_row_by_forfeit (env : WalletEnv) (item : Settlement) (market after : Market)
    (ran : forfeitOneTx env item market = (.ok (), after)) (paid : Paid market) (member : item ∈ market.settlements.rows) :
    ClosedRow market after item :=
  closed_row_of_close market after item .forfeited _ _ _ ran paid member (.forfeited item) rfl fun wallet paying =>
    payment_of_forfeit env item _ wallet paying

end CodeGo.Marketplace
