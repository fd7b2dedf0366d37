import CodeGo.Marketplace.Credits

set_option autoImplicit false

namespace CodeGo.Marketplace

open Relational Text Billing

structure Settled (market : Market) : Prop where
  rows : ∀ item ∈ market.settlements.rows, RowSound item
  paid : Paid market

-- How the settlements of one store became those of another.
structure Follows (market after : Market) : Prop where
  kept : ∀ item ∈ market.settlements.rows, ∃ later ∈ after.settlements.rows, SameIncome item later ∧
    Relation.ReflTransGen StatusStep item.status later.status
  fresh : ∀ later ∈ after.settlements.rows, (∃ item ∈ market.settlements.rows, item.id = later.id) ∨ later.status = .pending
  waits : ∀ item ∈ market.settlements.rows, item.status = .pending → item.referralRebatePending = true →
    ∃ later ∈ after.settlements.rows, later.id = item.id ∧ later.status = .pending

theorem Evolves.follows {move : Settlement → Settlement → Prop} {market after : Market}
    (rows : Evolves move market.settlements after.settlements) (moves : ∀ item later, move item later → RowMove item later)
    (item : Settlement) (member : item ∈ market.settlements.rows) :
    ∃ later ∈ after.settlements.rows, SameIncome item later ∧ Relation.ReflTransGen StatusStep item.status later.status := by
  obtain ⟨later, laterIn, path⟩ := rows.kept item member
  exact ⟨later, laterIn, path_follows (Relation.ReflTransGen.mono moves _ _ path)⟩

theorem edits_pending {item later : Settlement} (path : Relation.ReflTransGen RowEdit item later) (pending : item.status = .pending) :
    later.status = .pending := by
  induction path with
  | refl => exact pending
  | tail _ edit ih =>
      cases edit with
      | drafted draft => exact draft.status.trans ih
      | reclaimed _ released _ _ => simp [released] at ih

theorem Edited.follows {market after : Market} (edited : Edited market after) : Follows market after := by
  refine ⟨edited.rows.follows fun _ _ => .inl, fun later member => ?_, fun item member pending _ => ?_⟩
  · rcases edited.rows.origin later member with ⟨item, itemIn, path⟩ | ⟨born, facts, path⟩
    · exact .inl ⟨item, itemIn, (edits_payee path).1.symm⟩
    · exact .inr (edits_pending path facts.pending)
  · obtain ⟨later, laterIn, path⟩ := edited.rows.kept item member
    exact ⟨later, laterIn, (edits_payee path).1, edits_pending path pending⟩

-- A row whose referrals are not allocated yet has no closing step.
theorem closes_allocated {item later : Settlement} (path : Relation.ReflTransGen RowClose item later) (waiting : item.referralRebatePending = true) :
    later = item := by
  cases path.cases_head with
  | inl same => exact same.symm
  | inr step =>
      obtain ⟨middle, close, _⟩ := step
      cases close with
      | released _ allocated => simp [allocated] at waiting
      | forfeited _ allocated => simp [allocated] at waiting

structure Closing (market after : Market) : Prop where
  paid : Paid after
  keyed : Keyed closingFronts market.wallet.ledger after.wallet.ledger
  rows : Evolves RowClose market.settlements after.settlements
  known : ∀ later ∈ after.settlements.rows, ∃ row ∈ market.settlements.rows, row.id = later.id

theorem ClosedRow.closing {market after : Market} {item : Settlement} (closed : ClosedRow market after item) : Closing market after :=
  ⟨closed.paid, closed.keyed, closed.rows, closed.known⟩

theorem Closing.trans {market middle after : Market} (early : Closing market middle) (late : Closing middle after) : Closing market after := by
  refine ⟨late.paid, early.keyed.trans late.keyed, early.rows.trans late.rows, fun later member => ?_⟩
  obtain ⟨between, betweenIn, sameID⟩ := late.known later member
  obtain ⟨row, rowIn, same⟩ := early.known between betweenIn
  exact ⟨row, rowIn, same.trans sameID⟩

theorem Closing.follows {market after : Market} (closing : Closing market after) : Follows market after := by
  refine ⟨closing.rows.follows fun _ _ => .inr, fun later member => .inl (closing.known later member), fun item member pending waiting => ?_⟩
  obtain ⟨later, laterIn, path⟩ := closing.rows.kept item member
  obtain rfl := closes_allocated path waiting
  exact ⟨later, laterIn, rfl, pending⟩

theorem closing_by_forfeit_all (env : WalletEnv) (items : List Settlement) (market after : Market)
    (ran : forfeitAll env items market = (.ok (), after)) (paid : Paid market) (members : ∀ item ∈ items, item ∈ market.settlements.rows)
    (distinct : items.Pairwise fun first second => first.id ≠ second.id) : Closing market after := by
  induction items generalizing market with
  | nil =>
      rw [forfeitAll, Tx.ran_pure] at ran
      obtain ⟨_, rfl⟩ := ran
      exact ⟨paid, .refl _ _, .refl _, fun row rowIn => ⟨row, rowIn, rfl⟩⟩
  | cons item rest ih =>
      rw [forfeitAll, Tx.ran_bind] at ran
      obtain ⟨_, middle, first, later⟩ := ran
      have closed := closed_row_by_forfeit env item market middle first paid (members item (by simp))
      rw [List.pairwise_cons] at distinct
      refine closed.closing.trans (ih middle later closed.paid (fun row rowIn => ?_) distinct.2)
      exact closed.others row (members row (by simp [rowIn])) fun same => distinct.1 row rowIn same.symm

-- What one operation of the market does to the settlements: drafts that pay nobody, or closings that pay.
inductive MarketMoved (market after : Market) : Prop where
  | drafted (drafted : Drafted market after)
  | closing (closing : Closing market after)

theorem moved_by_market (env : WalletEnv) (ids : ∀ number, Tight (env.uuid number)) (market : Market) (settled : Settled market) (op : MarketOp) :
    MarketMoved market (marketStep env market op) := by
  rcases Tx.atomic_store (executeMarket env op) market with ⟨_, committed⟩ | ⟨_, rolledBack⟩
  · cases op with
    | record params => exact .drafted (drafted_by_record env params market _ committed ids)
    | recoverUsage log =>
        simp only [executeMarket, Tx.ran_bind, Tx.ran_pure] at committed
        obtain ⟨item, final, recovered, _, same⟩ := committed
        rw [marketStep, executeMarket, ← same]
        exact .drafted (drafted_by_recover env log market final item recovered ids)
    | referral params debits completes => exact .drafted (drafted_by_referral env params debits completes market _ committed ids)
    | release settlementID =>
        simp only [executeMarket, releaseOne, Tx.ran_bind] at committed
        obtain ⟨item, _, lock, closed⟩ := committed
        obtain ⟨rfl, member⟩ := ran_lock_settlement _ _ _ _ lock
        exact .closing (closed_row_by_release env item market _ closed settled.paid member (settled.rows item member).named).closing
    | forfeit settlementID =>
        simp only [executeMarket, forfeitOne, Tx.ran_bind] at committed
        obtain ⟨item, _, lock, closed⟩ := committed
        obtain ⟨rfl, member⟩ := ran_lock_settlement _ _ _ _ lock
        exact .closing (closed_row_by_forfeit env item market _ closed settled.paid member).closing
    | forfeitChannel channelID =>
        simp only [executeMarket, forfeitChannelPendingTx, Tx.ran_bind, Tx.ran_view] at committed
        obtain ⟨items, _, ⟨rfl, rfl⟩, closed⟩ := committed
        refine .closing (closing_by_forfeit_all env _ market _ closed settled.paid (fun item itemIn => (List.mem_filter.mp itemIn).1) ?_)
        refine (market.settlements.unique.imp ?_).filter _
        intro first second apart same
        exact apart (clash_of_settlement_id first second same)
  · rw [marketStep, rolledBack]
    exact .drafted (.refl _)

inductive TreasuryMoved (market after : Market) : Prop where
  | edited (edited : Edited market after)
  | closing (closing : Closing market after)

theorem moved_by_treasury (env : WalletEnv) (ids : ∀ number, Tight (env.uuid number)) (treasury : Treasury) (settled : Settled treasury.market)
    (op : TreasuryOp) : TreasuryMoved treasury.market (treasuryStep env treasury op).market := by
  cases op with
  | market op =>
      cases moved_by_market env ids treasury.market settled op with
      | drafted drafted => exact .edited drafted.edited
      | closing closing => exact .closing closing
  | createReclaim filter => exact .edited (edited_by_create env filter treasury)
  | processReclaim operationID => exact .edited (edited_by_process env operationID treasury)
  | processDirect operationID => exact .edited (edited_by_direct env operationID treasury)

theorem TreasuryMoved.settled {market after : Market} (moved : TreasuryMoved market after) (settled : Settled market) : Settled after := by
  cases moved with
  | edited edited => exact ⟨(edited.rows.mono fun _ _ => .inl).sound settled.rows, settled.paid.edited edited⟩
  | closing closing => exact ⟨(closing.rows.mono fun _ _ => .inr).sound settled.rows, closing.paid⟩

theorem TreasuryMoved.follows {market after : Market} (moved : TreasuryMoved market after) : Follows market after := by
  cases moved with
  | edited edited => exact edited.follows
  | closing closing => exact closing.follows

theorem settled_run (env : WalletEnv) (ids : ∀ number, Tight (env.uuid number)) (treasury : Treasury) (settled : Settled treasury.market)
    (ops : List TreasuryOp) : Settled (run (treasuryStep env) treasury ops).market := by
  induction ops generalizing treasury with
  | nil => exact settled
  | cons op rest ih => exact ih _ ((moved_by_treasury env ids treasury settled op).settled settled)

theorem status_run (env : WalletEnv) (ids : ∀ number, Tight (env.uuid number)) (treasury : Treasury) (settled : Settled treasury.market)
    (ops : List TreasuryOp) (item : Settlement) (member : item ∈ treasury.market.settlements.rows) :
    ∃ later ∈ (run (treasuryStep env) treasury ops).market.settlements.rows, SameIncome item later ∧
      Relation.ReflTransGen StatusStep item.status later.status := by
  induction ops generalizing treasury item with
  | nil => exact ⟨item, member, ⟨rfl, rfl, rfl, rfl⟩, .refl⟩
  | cons op rest ih =>
      have moved := moved_by_treasury env ids treasury settled op
      obtain ⟨middle, middleIn, same, first⟩ := moved.follows.kept item member
      obtain ⟨later, laterIn, again, second⟩ := ih _ (moved.settled settled) middle middleIn
      refine ⟨later, laterIn, ⟨again.id.trans same.id, again.request.trans same.request, again.owner.trans same.owner,
        again.gross.trans same.gross⟩, first.trans second⟩

-- An entry of the ledger that moved quota in the wallet of a user.
def InWalletOf (ledger : Ledger) (userID : Int) (entry : BillingLedgerEntry) : Prop :=
  ∃ account ∈ ledger.accounts.rows, account.accountID = entry.accountID ∧ account.accountType = billingAccountTypeClaudeWallet ∧
    account.ownerType = "user" ∧ account.ownerID = userID

instance (ledger : Ledger) (userID : Int) (entry : BillingLedgerEntry) : Decidable (InWalletOf ledger userID entry) :=
  inferInstanceAs (Decidable (∃ account ∈ ledger.accounts.rows, _))

instance (key settlementID : String) : Decidable (CreditKey key settlementID) := inferInstanceAs (Decidable (_ ∨ _))

-- What the wallet of a user was credited for a settlement.
def incomeCredits (ledger : Ledger) (userID : Int) (settlementID : String) : List BillingLedgerEntry :=
  ledger.entries.rows.filter fun entry => CreditKey entry.idempotencyKey settlementID ∧ InWalletOf ledger userID entry

def creditedIncome (ledger : Ledger) (userID : Int) (settlementID : String) : Int :=
  ((incomeCredits ledger userID settlementID).map BillingLedgerEntry.amount).sum

theorem Paid.line {market : Market} (paid : Paid market) (item : Settlement) (member : item ∈ market.settlements.rows) (userID : Int)
    (entry : BillingLedgerEntry) (listed : entry ∈ incomeCredits market.wallet.ledger userID item.id) :
    item.payee = some (entry.idempotencyKey, userID) ∧ entry.amount = item.ownerNetAmount := by
  rw [incomeCredits, List.mem_filter, decide_eq_true_eq] at listed
  obtain ⟨entryIn, keyed, wallet, walletIn, walletID, _, _, walletOwner⟩ := listed
  obtain ⟨row, rowIn, payer, named, payee, amount, account, accountIn, accountID, owner⟩ := paid.backed entry entryIn item.id keyed
  obtain rfl : row = item := Table.eq_of_clash _ _ _ rowIn member (clash_of_settlement_id _ _ named)
  obtain rfl : wallet = account := Table.eq_of_clash _ _ _ walletIn accountIn (clash_of_account_id _ _ (walletID.trans accountID.symm))
  rw [← owner.owner, walletOwner] at payee
  exact ⟨payee, amount⟩

theorem Paid.credited {market : Market} (paid : Paid market) (item : Settlement) (member : item ∈ market.settlements.rows) (net : 0 ≤ item.ownerNetAmount)
    (key : String) (userID : Int) (payee : item.payee = some (key, userID)) :
    creditedIncome market.wallet.ledger userID item.id = item.ownerNetAmount := by
  by_cases positive : 0 < item.ownerNetAmount
  · obtain ⟨entry, entryIn, keyed⟩ := paid.posted item member key userID payee positive
    have credit : CreditKey entry.idempotencyKey item.id := keyed ▸ payee_credit_key item key userID payee
    obtain ⟨row, rowIn, payer, named, rowPayee, amount, account, accountIn, accountID, owner⟩ := paid.backed entry entryIn item.id credit
    obtain rfl : row = item := Table.eq_of_clash _ _ _ rowIn member (clash_of_settlement_id _ _ named)
    rw [payee, Option.some.injEq, Prod.mk.injEq] at rowPayee
    have inWallet : InWalletOf market.wallet.ledger userID entry :=
      ⟨account, accountIn, accountID, owner.kind, owner.ownerType, owner.owner.trans rowPayee.2.symm⟩
    have single : incomeCredits market.wallet.ledger userID row.id = [entry] := by
      refine Table.filter_single _ _ entry entryIn (by simp [credit, inWallet]) fun other otherIn hit => ?_
      have listed : other ∈ incomeCredits market.wallet.ledger userID row.id := List.mem_filter.mpr ⟨otherIn, hit⟩
      have otherPayee := (paid.line row member userID other listed).1
      rw [payee, Option.some.injEq, Prod.mk.injEq] at otherPayee
      exact .inr (keyed.trans otherPayee.1)
    simp [creditedIncome, single, amount]
  · have nothing : item.ownerNetAmount = 0 := by omega
    rw [nothing, creditedIncome]
    refine List.sum_eq_zero fun amount listed => ?_
    obtain ⟨entry, entryIn, rfl⟩ := List.mem_map.mp listed
    rw [(paid.line item member userID entry entryIn).2, nothing]

theorem Paid.uncredited {market : Market} (paid : Paid market) (item : Settlement) (member : item ∈ market.settlements.rows) (userID : Int)
    (unpaid : ∀ key, item.payee ≠ some (key, userID)) : creditedIncome market.wallet.ledger userID item.id = 0 := by
  have none : incomeCredits market.wallet.ledger userID item.id = [] := by
    refine List.eq_nil_iff_forall_not_mem.mpr fun entry listed => ?_
    exact unpaid _ (paid.line item member userID entry listed).1
  simp [creditedIncome, none]

theorem settled_opening (market : Market) (unsettled : market.settlements.rows = [])
    (uncredited : ∀ entry ∈ market.wallet.ledger.entries.rows, ∀ settlementID, ¬ CreditKey entry.idempotencyKey settlementID) : Settled market := by
  refine ⟨by simp [unsettled], fun entry member settlementID keyed => (uncredited entry member settlementID keyed).elim, ?_⟩
  simp [unsettled]

-- The whole life of every settlement, from a store before its first one. Forfeited earnings go
-- to user 1, so only an owner who is that user is ever credited for a forfeit.
theorem settlement_lifecycle (env : WalletEnv) (ids : ∀ number, Tight (env.uuid number)) (start : Treasury)
    (unsettled : start.market.settlements.rows = [])
    (uncredited : ∀ entry ∈ start.market.wallet.ledger.entries.rows, ∀ settlementID, ¬ CreditKey entry.idempotencyKey settlementID)
    (ops : List TreasuryOp) (final : Treasury) (reached : run (treasuryStep env) start ops = final) :
    (∀ first ∈ final.market.settlements.rows, ∀ second ∈ final.market.settlements.rows, first.requestID = second.requestID → first = second) ∧
    (∀ item ∈ final.market.settlements.rows, RowSound item ∧
      (item.status = .released ∨ item.status = .reclaimed →
        creditedIncome final.market.wallet.ledger item.ownerUserID item.id = item.ownerNetAmount) ∧
      (item.status = .pending → creditedIncome final.market.wallet.ledger item.ownerUserID item.id = 0) ∧
      (item.status = .forfeited → item.ownerUserID ≠ 1 → creditedIncome final.market.wallet.ledger item.ownerUserID item.id = 0)) ∧
    (∀ op, Follows final.market (treasuryStep env final op).market) ∧
    ∀ more, ∀ item ∈ final.market.settlements.rows, ∃ later ∈ (run (treasuryStep env) final more).market.settlements.rows,
      SameIncome item later ∧ Relation.ReflTransGen StatusStep item.status later.status := by
  have settled : Settled final.market := reached ▸ settled_run env ids start (settled_opening _ unsettled uncredited) ops
  refine ⟨fun first firstIn second secondIn same => ?_, fun item member => ?_, fun op => ?_, fun more => ?_⟩
  · exact Table.eq_of_clash _ _ _ firstIn secondIn (.inr same)
  · have sound := settled.rows item member
    refine ⟨sound, fun closed => ?_, fun pending => ?_, fun forfeited other => ?_⟩
    · refine settled.paid.credited item member sound.net (releaseCreditKey item.id) item.ownerUserID ?_
      rcases closed with released | reclaimed
      · simp [Settlement.payee, released]
      · simp [Settlement.payee, reclaimed]
    · exact settled.paid.uncredited item member _ (by simp [Settlement.payee, pending])
    · refine settled.paid.uncredited item member _ fun key => ?_
      simp only [Settlement.payee, forfeited, ne_eq, Option.some.injEq, Prod.mk.injEq, not_and]
      exact fun _ same => other same.symm
  · exact (moved_by_treasury env ids final settled op).follows
  · exact status_run env ids final settled more

-- The administrator and one channel owner, before the first settlement.
def newTreasury : Treasury := ⟨{ emptyMarket with wallet := ⟨Ledger.empty, ⟨[{ id := 1 }, { id := 7 }], by decide⟩, .empty, .empty⟩ }, .empty⟩

def reclaimedOps : List TreasuryOp :=
  [.market (.record (sampleRecord "req1")), .market (.release "a2f"), .createReclaim { ownerUserIDs := [7], operationID := "task" },
    .processReclaim "task"]

theorem settlement_lifecycle_reclaimed :
    ∃ item ∈ (run (treasuryStep (sampleWalletEnv true)) newTreasury reclaimedOps).market.settlements.rows, item.status = .reclaimed ∧
      item.reclaimedAmount = item.ownerNetAmount ∧
      creditedIncome (run (treasuryStep (sampleWalletEnv true)) newTreasury reclaimedOps).market.wallet.ledger 7 item.id = item.ownerNetAmount := by
  obtain ⟨item, member, reclaimed, owner⟩ : ∃ item ∈ (run (treasuryStep (sampleWalletEnv true)) newTreasury reclaimedOps).market.settlements.rows,
      item.status = .reclaimed ∧ item.ownerUserID = 7 := by decide +kernel
  obtain ⟨sound, credited, _⟩ := (settlement_lifecycle (sampleWalletEnv true) (fun _ => tight_wrapped _ _ _ (by decide) (by decide)) newTreasury
    rfl (by simp [newTreasury, Ledger.empty]) reclaimedOps _ rfl).2.1 item member
  exact ⟨item, member, reclaimed, (sound.full.mp reclaimed).1, owner ▸ credited (.inr reclaimed)⟩

def administratorOps : List TreasuryOp :=
  [.market (.record { sampleRecord "req1" with ownerUserID := 1 }), .market (.forfeit "a2f")]

-- The administrator's own channel: the forfeit pays the owner after all.
theorem administrator_keeps_forfeit :
    ∃ item ∈ (run (treasuryStep (sampleWalletEnv true)) newTreasury administratorOps).market.settlements.rows,
      item.status = .forfeited ∧ item.ownerUserID = 1 ∧
        creditedIncome (run (treasuryStep (sampleWalletEnv true)) newTreasury administratorOps).market.wallet.ledger item.ownerUserID item.id = 95 := by
  decide +kernel

end CodeGo.Marketplace
