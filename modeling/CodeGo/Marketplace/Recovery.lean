import CodeGo.Marketplace.Runs

set_option autoImplicit false

namespace CodeGo.Marketplace

open Relational Text Billing

/- Two derivations of the income of one relay request: the live one from the relay's memory,
   and the recovery from the consume log. Prices are only copied and compared with zero, so
   the rationals stand for the floating point numbers of the source. -/

def billingSourceWallet : String := "wallet"

def billingSourceSubscription : String := "subscription"

structure RelayInfo where
  requestID : String
  userID : Int
  channelID : Int
  marketplaceGroupID : String
  marketplaceOwnerID : Int
  marketplaceMultiplier : ℚ
  billingSource : String := ""
  subscriptionGroupMultiplier : ℚ := 0
  creditPackGrantedQuota : Int := 0
  creditPackPaidQuota : Int := 0
  creditPackChannelShareBPS : Int := 0

-- A purchased subscription is monthly, with empty pack columns, or a credit pack.
structure SubscriptionFunding where
  creditPackGrantedQuota : Int
  creditPackPaidQuota : Int
  creditPackChannelShareBPS : Int
  groupMultiplier : ℚ
  purchased : (creditPackGrantedQuota = 0 ∧ creditPackPaidQuota = 0 ∧ creditPackChannelShareBPS = 0) ∨ 0 < creditPackGrantedQuota
  priced : 0 ≤ groupMultiplier

inductive FundedBy where
  | wallet
  | subscription (funding : SubscriptionFunding)

def syncRelayInfo (info : RelayInfo) : FundedBy → RelayInfo
  | .wallet => { info with
      billingSource := billingSourceWallet, subscriptionGroupMultiplier := 0, creditPackGrantedQuota := 0, creditPackPaidQuota := 0,
      creditPackChannelShareBPS := 0 }
  | .subscription funding => { info with
      billingSource := billingSourceSubscription, subscriptionGroupMultiplier := funding.groupMultiplier,
      creditPackGrantedQuota := funding.creditPackGrantedQuota, creditPackPaidQuota := funding.creditPackPaidQuota,
      creditPackChannelShareBPS := funding.creditPackChannelShareBPS }

def subscriptionSettlementGross (consumerDebit : Int) : Int :=
  if consumerDebit ≤ 0 then 0
  else if consumerDebit.tmod 10 ≥ 5 then consumerDebit.tdiv 10 + 1 else consumerDebit.tdiv 10

def marketplaceSettlementParams (info : RelayInfo) (consumerDebit : Int) : RecordParams :=
  { requestID := info.requestID, groupID := info.marketplaceGroupID, ownerUserID := info.marketplaceOwnerID, consumerUserID := info.userID,
    billingSource := info.billingSource, consumerDebitAmount := consumerDebit,
    settlementGrossAmount :=
      if info.billingSource = billingSourceSubscription ∧ info.creditPackGrantedQuota = 0 then subscriptionSettlementGross consumerDebit
      else consumerDebit,
    walletMultiplier := info.marketplaceMultiplier, subscriptionMultiplier := info.subscriptionGroupMultiplier,
    creditPackGrantedQuota := info.creditPackGrantedQuota, creditPackPaidQuota := info.creditPackPaidQuota,
    creditPackChannelShareBPS := info.creditPackChannelShareBPS, feePolicyVersion := feePolicyPaidBonusV2 }

-- The part of the bookkeeping after a settled relay call that writes marketplace income.
def recordSettledUsage (env : WalletEnv) (info : RelayInfo) (settledQuota : Int) : MarketTx Unit := do
  if info.marketplaceGroupID = "" ∨ settledQuota ≤ 0 then return ()
  else recordTx env (marketplaceSettlementParams info settledQuota)

-- The billing columns of a consume log, as they decode again.
def appendBillingInfo (info : RelayInfo) : FrozenUsage :=
  let routed := info.marketplaceGroupID ≠ ""
  let subscribed := info.billingSource = billingSourceSubscription
  let pack := subscribed ∧ info.creditPackGrantedQuota > 0
  { groupID := info.marketplaceGroupID, multiplier := if routed then info.marketplaceMultiplier else 0,
    billingSource := info.billingSource,
    subscriptionGroupMultiplier := if subscribed ∧ info.subscriptionGroupMultiplier > 0 then info.subscriptionGroupMultiplier else 0,
    subscriptionBillingVersion := if pack then "credit_pack" else "",
    creditPackGrantedQuota := if pack then info.creditPackGrantedQuota else 0,
    creditPackPaidQuota := if pack then info.creditPackPaidQuota else 0,
    creditPackChannelShareBPS := if pack then some info.creditPackChannelShareBPS else none,
    feePolicyVersion := if routed then feePolicyPaidBonusV2 else "" }

def usageLog (info : RelayInfo) (amount now : Int) : UsageLog :=
  { consume := true, requestID := info.requestID, userID := info.userID, channelID := info.channelID, quota := amount, createdAt := now,
    other := some (appendBillingInfo info) }

def marketplaceSettlementUsage (info : RelayInfo) (amount now : Int) : Except LedgerError (Option UsageLog) :=
  if info.marketplaceGroupID = "" ∨ amount ≤ 0 then .ok none
  else if info.requestID = "" ∨ info.marketplaceOwnerID ≤ 0 ∨ info.userID ≤ 0 ∨ info.channelID ≤ 0 then
    .error (.message "marketplace settlement routing evidence is missing")
  else .ok (some (usageLog info amount now))

-- Everything but the creation times.
def undated (settlements : Table Settlement) : Table Settlement :=
  settlements.update (fun _ => true) (fun item => { item with createdAt := 0 }) fun _ => rfl

def Market.undated (market : Market) : Market := { market with settlements := Marketplace.undated market.settlements }

inductive IncomeStep where
  | live
  | recovery
deriving DecidableEq

def executeIncome (env : WalletEnv) (info : RelayInfo) (amount : Int) (log : UsageLog) : IncomeStep → MarketTx Unit
  | .live => recordSettledUsage env info amount
  | .recovery => do let _ ← recoverUsageTx env log

def incomeStep (env : WalletEnv) (info : RelayInfo) (amount : Int) (log : UsageLog) (market : Market) (step : IncomeStep) : Market :=
  (Tx.atomic (executeIncome env info amount log step) market).2

theorem usage_log_of_relay (info : RelayInfo) (amount now : Int) (log : UsageLog)
    (built : marketplaceSettlementUsage info amount now = .ok (some log)) :
    (info.marketplaceGroupID ≠ "" ∧ 0 < amount ∧ info.requestID ≠ "" ∧ 0 < info.marketplaceOwnerID) ∧
      log = usageLog info amount now := by
  unfold marketplaceSettlementUsage at built
  split at built
  · simp at built
  · rename_i wanted
    split at built
    · simp at built
    · rename_i evident
      push Not at wanted evident
      simp only [Except.ok.injEq, Option.some.injEq] at built
      exact ⟨⟨wanted.1, wanted.2, evident.1, evident.2.1⟩, built.symm⟩

theorem recovered_gross (info : RelayInfo) (funding : FundedBy) (amount : Int) (positive : 0 < amount) :
    recoveredGross (appendBillingInfo (syncRelayInfo info funding)) amount =
      (marketplaceSettlementParams (syncRelayInfo info funding) amount).settlementGrossAmount := by
  cases funding with
  | wallet => simp [recoveredGross, appendBillingInfo, syncRelayInfo, marketplaceSettlementParams, billingSourceWallet, billingSourceSubscription]
  | subscription funding =>
      rcases funding.purchased with ⟨granted, _, _⟩ | granted
      · simp [recoveredGross, appendBillingInfo, syncRelayInfo, marketplaceSettlementParams, billingSourceSubscription, granted,
          FrozenUsage.pack, subscriptionSettlementGross, positive]
      · simp [recoveredGross, appendBillingInfo, syncRelayInfo, marketplaceSettlementParams, billingSourceSubscription, granted,
          FrozenUsage.pack, granted.ne']

-- The log decodes into the parameters the relay itself records.
theorem recovered_params (info : RelayInfo) (funding : FundedBy) (amount now : Int) (group : Group) (positive : 0 < amount)
    (routed : info.marketplaceGroupID ≠ "") (sameGroup : group.id = info.marketplaceGroupID)
    (sameOwner : group.ownerUserID = info.marketplaceOwnerID) :
    recoveryParams (usageLog (syncRelayInfo info funding) amount now) (appendBillingInfo (syncRelayInfo info funding)) group =
      marketplaceSettlementParams (syncRelayInfo info funding) amount := by
  have gross := recovered_gross info funding amount positive
  cases funding with
  | wallet =>
      simp only [recoveryParams, usageLog, gross, sameGroup, sameOwner]
      simp [appendBillingInfo, syncRelayInfo, marketplaceSettlementParams, billingSourceWallet, billingSourceSubscription, routed,
        FrozenUsage.revenueMultiplier]
  | subscription funding =>
      have multiplier : (if 0 < funding.groupMultiplier then funding.groupMultiplier else 0) = funding.groupMultiplier := by
        split
        · rfl
        · rename_i free
          exact Rat.le_antisymm funding.priced (Rat.not_lt.mp free)
      simp only [recoveryParams, usageLog, gross, sameGroup, sameOwner]
      rcases funding.purchased with ⟨granted, paid, share⟩ | granted
      · simp [appendBillingInfo, syncRelayInfo, marketplaceSettlementParams, routed, FrozenUsage.revenueMultiplier, granted, paid, share,
          multiplier]
      · simp [appendBillingInfo, syncRelayInfo, marketplaceSettlementParams, routed, FrozenUsage.revenueMultiplier, granted, multiplier]

theorem undated_of_date (log : UsageLog) (item dated : Settlement) (market after : Market) (ran : dateRecovered log item market = (.ok dated, after))
    (member : item ∈ market.settlements.rows) :
    after.undated = market.undated ∧ dated ∈ after.settlements.rows ∧ dated.requestID = item.requestID := by
  unfold dateRecovered at ran
  split at ran
  · rw [Tx.ran_bind] at ran
    obtain ⟨_, middle, updated, answered⟩ := ran
    rw [Tx.ran_pure] at answered
    obtain ⟨rfl, rfl⟩ := answered
    have replaced := (replaced_settlement market _ item _ _ member updated).1
    rw [updateSettlement, Tx.ran_edit] at updated
    subst updated
    refine ⟨?_, replaced.new_mem, rfl⟩
    simp only [Market.undated, Market.mk.injEq, true_and, and_true]
    apply Table.ext
    simp only [undated, Table.rows_update, List.map_map]
    refine List.map_congr_left fun row _ => ?_
    by_cases hit : row.id = item.id <;> simp [hit]
  · rw [Tx.ran_pure] at ran
    obtain ⟨rfl, rfl⟩ := ran
    exact ⟨rfl, member, rfl⟩

section Request

variable (env : WalletEnv) (info : RelayInfo) (funding : FundedBy) (amount now : Int) (log : UsageLog)

-- The group a request was routed through still names the owner the relay recorded.
def Routed (market : Market) : Prop :=
  ∀ group ∈ market.groups, group.id = info.marketplaceGroupID → group.ownerUserID = info.marketplaceOwnerID

variable {env info funding amount now log}

theorem live_of_rebuilt (built : marketplaceSettlementUsage (syncRelayInfo info funding) amount now = .ok (some log)) (market : Market)
    (routed : Routed info market) (frozen : FrozenUsage) (group : Group) (evidence : log.other = some frozen) (groupIn : group ∈ market.groups)
    (isGroup : group.id = frozen.groupID) :
    recoveryParams log frozen group = marketplaceSettlementParams (syncRelayInfo info funding) amount := by
  obtain ⟨⟨named, positive, _⟩, rfl⟩ := usage_log_of_relay _ _ _ _ built
  have sameNames : (syncRelayInfo info funding).marketplaceGroupID = info.marketplaceGroupID := by cases funding <;> rfl
  simp only [usageLog, Option.some.injEq] at evidence
  subst evidence
  have sameGroup : group.id = info.marketplaceGroupID := isGroup.trans sameNames
  exact recovered_params info funding amount now group positive (sameNames ▸ named) sameGroup (routed group groupIn sameGroup)

theorem live_records (built : marketplaceSettlementUsage (syncRelayInfo info funding) amount now = .ok (some log)) :
    recordSettledUsage env (syncRelayInfo info funding) amount = recordTx env (marketplaceSettlementParams (syncRelayInfo info funding) amount) := by
  obtain ⟨⟨named, positive, _⟩, _⟩ := usage_log_of_relay _ _ _ _ built
  rw [recordSettledUsage, if_neg]
  rintro (nameless | nothing)
  · exact named nameless
  · omega

-- An accepted attempt either finds nothing to record or leaves the live record behind.
inductive IncomeRan (env : WalletEnv) (info : RelayInfo) (amount : Int) (market : Market) : Market → Prop where
  | idle (nothing : (marketplaceSettlementParams info amount).settlementGrossAmount ≤ 0 ∨
      ∃ item ∈ market.settlements.rows, item.requestID = info.requestID) : IncomeRan env info amount market market
  | recorded (lived after : Market) (item : Settlement) (income : 0 < (marketplaceSettlementParams info amount).settlementGrossAmount)
      (unknown : ∀ row ∈ market.settlements.rows, row.requestID ≠ info.requestID)
      (live : recordTx env (marketplaceSettlementParams info amount) market = (.ok (), lived))
      (same : after.undated = lived.undated) (member : item ∈ after.settlements.rows) (named : item.requestID = info.requestID) :
      IncomeRan env info amount market after

theorem income_ran (built : marketplaceSettlementUsage (syncRelayInfo info funding) amount now = .ok (some log)) (market after : Market)
    (step : IncomeStep) (ran : executeIncome env (syncRelayInfo info funding) amount log step market = (.ok (), after))
    (routed : Routed info market) : IncomeRan env (syncRelayInfo info funding) amount market after := by
  obtain ⟨⟨grouped, positive, identified, owned⟩, isLog⟩ := usage_log_of_relay _ _ _ _ built
  have sameRequest : log.requestID = (syncRelayInfo info funding).requestID := by rw [isLog]; rfl
  cases step with
  | live =>
      rw [executeIncome, live_records built] at ran
      cases ran_record env _ market after ran with
      | idle nothing =>
          rcases nothing with nameless | ungrouped | unowned | nothing
          · exact (identified nameless).elim
          · exact (grouped ungrouped).elim
          · exact (Int.not_le.mpr owned unowned).elim
          · exact .idle nothing
      | recorded discount fee account platform first second third ledger number drawn settlements item entry wanted unknown _ _ _ _ isItem
          appended =>
          push Not at wanted
          exact .recorded _ _ item wanted.2.2.2 unknown ran rfl (by simp [appended]) (by simp [isItem, recordedSettlement, marketplaceSettlementParams])
  | recovery =>
      simp only [executeIncome, Tx.ran_bind, Tx.ran_pure] at ran
      obtain ⟨row, final, recovered, _, rfl⟩ := ran
      cases ran_recover env log market final row recovered with
      | found member named => exact .idle (.inr ⟨row, member, named.trans sameRequest⟩)
      | rebuilt frozen group lived _ item _ evidence unknown groupIn isGroup income record member named dated =>
          have params := live_of_rebuilt built market routed frozen group evidence groupIn isGroup
          rw [params] at record
          obtain ⟨same, rowIn, rowNamed⟩ := undated_of_date log item row lived final dated member
          exact .recorded lived final row (by rw [← params]; exact income) (by rwa [sameRequest] at unknown) record same rowIn
            (rowNamed.trans (named.trans sameRequest))

-- Once there is nothing left to record, no further attempt changes anything.
theorem income_steady (built : marketplaceSettlementUsage (syncRelayInfo info funding) amount now = .ok (some log)) (market : Market)
    (routed : Routed info market) (nothing : (marketplaceSettlementParams (syncRelayInfo info funding) amount).settlementGrossAmount ≤ 0 ∨
      ∃ item ∈ market.settlements.rows, item.requestID = (syncRelayInfo info funding).requestID) (step : IncomeStep) :
    incomeStep env (syncRelayInfo info funding) amount log market step = market := by
  rcases Tx.atomic_store (executeIncome env (syncRelayInfo info funding) amount log step) market with ⟨_, committed⟩ | ⟨_, rolledBack⟩
  · have ran := income_ran built market _ step committed routed
    rw [incomeStep]
    generalize (Tx.atomic (executeIncome env (syncRelayInfo info funding) amount log step) market).2 = after at ran
    cases ran with
    | idle _ => rfl
    | recorded lived _ _ income unknown =>
        rcases nothing with free | ⟨item, member, named⟩
        · exact (Int.not_le.mpr income free).elim
        · exact (unknown item member named).elim
  · exact rolledBack

theorem groups_of_record (params : RecordParams) (market after : Market) (ran : recordTx env params market = (.ok (), after)) :
    after.groups = market.groups := by
  cases ran_record env params market after ran with
  | idle _ => rfl
  | recorded => rfl

theorem IncomeRan.routed {market after : Market} (ran : IncomeRan env (syncRelayInfo info funding) amount market after)
    (routed : Routed info market) : Routed info after := by
  cases ran with
  | idle _ => exact routed
  | recorded lived _ item _ _ live same _ _ =>
      have sameGroups : after.undated.groups = lived.undated.groups := by rw [same]
      simp only [Market.undated] at sameGroups
      rwa [Routed, sameGroups, groups_of_record _ _ _ live]

-- What the first accepted attempt leaves behind, every later attempt keeps.
theorem income_settled (built : marketplaceSettlementUsage (syncRelayInfo info funding) amount now = .ok (some log)) (market after lived : Market)
    (step : IncomeStep) (ran : executeIncome env (syncRelayInfo info funding) amount log step market = (.ok (), after))
    (routed : Routed info market) (live : recordSettledUsage env (syncRelayInfo info funding) amount market = (.ok (), lived)) :
    after.undated = lived.undated ∧ ∀ later, incomeStep env (syncRelayInfo info funding) amount log after later = after := by
  have accepted := income_ran built market after step ran routed
  have settled := accepted.routed routed
  have lives : IncomeRan env (syncRelayInfo info funding) amount market lived := income_ran built market lived .live live routed
  rw [live_records built] at live
  cases accepted with
  | idle nothing =>
      refine ⟨?_, income_steady built market routed nothing⟩
      cases lives with
      | idle _ => rfl
      | recorded _ _ _ income unknown =>
          rcases nothing with free | ⟨item, member, named⟩
          · exact (Int.not_le.mpr income free).elim
          · exact (unknown item member named).elim
  | recorded other _ item income unknown record same member named =>
      rw [live, Prod.mk.injEq] at record
      obtain ⟨_, rfl⟩ := record
      exact ⟨same, income_steady built after settled (.inr ⟨item, member, named⟩)⟩

theorem income_run (built : marketplaceSettlementUsage (syncRelayInfo info funding) amount now = .ok (some log)) (start lived : Market)
    (routed : Routed info start) (live : recordSettledUsage env (syncRelayInfo info funding) amount start = (.ok (), lived))
    (steps : List IncomeStep)
    (accepted : ∃ step ∈ steps, ∃ after, executeIncome env (syncRelayInfo info funding) amount log step start = (.ok (), after)) :
    (run (incomeStep env (syncRelayInfo info funding) amount log) start steps).undated = lived.undated := by
  induction steps with
  | nil => simp at accepted
  | cons step rest ih =>
      rw [run_cons]
      rcases Tx.atomic_store (executeIncome env (syncRelayInfo info funding) amount log step) start with ⟨_, committed⟩ | ⟨⟨_, refused⟩, rolledBack⟩
      · obtain ⟨same, steady⟩ := income_settled built start _ lived step committed routed live
        rw [incomeStep, run_fixed _ _ steady, same]
      · rw [incomeStep, rolledBack]
        refine ih ?_
        obtain ⟨other, otherIn, after, ran⟩ := accepted
        rw [List.mem_cons] at otherIn
        rcases otherIn with rfl | later
        · simp [ran] at refused
        · exact ⟨other, later, after, ran⟩

end Request

def platformKey (requestID : String) : String := "marketplace-platform:" ++ requestID

-- The one settlement of a request with the owner's credit and, where the platform earns
-- anything, the platform's.
structure Income (start final : Market) (params : RecordParams) (item : Settlement) : Prop where
  single : final.settlements.rows.filter (fun row => row.requestID = params.requestID) = [item]
  ownerCredit : ∃ entry, final.wallet.ledger.entries.rows.filter
      (fun entry => entry.idempotencyKey = trimSpace (pendingKey params.requestID)) = [entry] ∧
    entry.entryType = .grantCredit ∧ entry.accountID = item.pendingAccountID ∧ entry.amount = item.ownerNetAmount
  platformCredit : 0 < item.platformCommission + item.transactionFee → ∃ entry, final.wallet.ledger.entries.rows.filter
      (fun entry => entry.idempotencyKey = trimSpace (platformKey params.requestID)) = [entry] ∧
    entry.entryType = .grantCredit ∧ entry.amount = item.platformCommission + item.transactionFee
  freeOfCharge : item.platformCommission + item.transactionFee ≤ 0 → ∀ entry ∈ final.wallet.ledger.entries.rows,
    entry.idempotencyKey = trimSpace (platformKey params.requestID) → entry ∈ start.wallet.ledger.entries.rows

-- The row of a credit carries the trimmed key, also when the credit is a replay.
theorem granted_of_credit (env : LedgerEnv) (params : CreditAccountParams) (ledger after : Ledger) (entry : BillingLedgerEntry)
    (ran : creditAccountTx env params ledger = (.ok entry, after)) (trimmed : Trimmed ledger) :
    entry ∈ after.entries.rows ∧ entry.idempotencyKey = trimSpace params.idempotencyKey ∧ entry.entryType = .grantCredit ∧
      entry.accountID = params.accountID ∧ entry.amount = params.amount := by
  obtain ⟨rfl, member, key, kind, owner, amount⟩ | credited := credited_of_credit env params ledger after entry ran
  · have tidy := trimmed.entries entry member (by rw [kind]; decide)
    exact ⟨member, by rw [← key, tidy], kind, owner, amount⟩
  · exact ⟨by simp [credited.posted.entries], credited.line.key, credited.line.kind, credited.line.account, credited.line.amount⟩

theorem single_entry (ledger : Ledger) (entry : BillingLedgerEntry) (key : String) (member : entry ∈ ledger.entries.rows)
    (keyed : entry.idempotencyKey = key) : ledger.entries.rows.filter (fun row => row.idempotencyKey = key) = [entry] :=
  Table.filter_single _ _ entry member (by simp [keyed]) fun other _ hit =>
    clash_of_entry_key _ _ (keyed.trans (of_decide_eq_true hit).symm)

theorem income_of_record (env : WalletEnv) (params : RecordParams) (market after : Market) (ran : recordTx env params market = (.ok (), after))
    (sound : Sound market.wallet.ledger) (wanted : params.requestID ≠ "" ∧ params.groupID ≠ "" ∧ 0 < params.ownerUserID)
    (income : 0 < params.settlementGrossAmount) (unknown : ∀ row ∈ market.settlements.rows, row.requestID ≠ params.requestID) :
    ∃ item, Income market after params item := by
  cases ran_record env params market after ran with
  | idle nothing =>
      rcases nothing with nameless | ungrouped | unowned | free | ⟨row, member, named⟩
      · exact (wanted.1 nameless).elim
      · exact (wanted.2.1 ungrouped).elim
      · omega
      · omega
      · exact (unknown row member named).elim
  | recorded discount fee account platform first second third ledger number drawn settlements item entry _ _ _ _ pendingOpened platformOpened
      isItem appended credited finished =>
      have unmoved : Unmoved market.wallet.ledger { second with drawn } :=
        ((ensured_account _ _ _ _ _ pendingOpened).unmoved.trans (ensured_account _ _ _ _ _ platformOpened).unmoved).trans (.drawn second drawn)
      have openedSound := (Moves.unmoved (.tick 0) unmoved).sound sound
      have firstMove := Moves.single (credit_effect _ _ _ _ _ credited)
      obtain ⟨entryIn, key, kind, owner, amount⟩ := granted_of_credit _ _ _ _ _ credited openedSound.trimmed
      have itemAccount : item.pendingAccountID = account.accountID := by simp [isItem, recordedSettlement]
      have itemShare : item.platformCommission + item.transactionFee = percentage params.settlementGrossAmount 5 + fee := by
        simp [isItem, recordedSettlement]
      have request : item.requestID = params.requestID := by simp [isItem, recordedSettlement]
      have listed : item ∈ settlements.rows := by simp [appended]
      refine ⟨item, Table.filter_single settlements _ item listed (by simp [request]) fun other _ hit =>
        .inr (request.trans (of_decide_eq_true hit).symm), ?_, ?_, ?_⟩
      · have kept : entry ∈ ledger.entries.rows := by
          rcases finished with ⟨_, rfl⟩ | ⟨_, paid, payment⟩
          · exact entryIn
          · exact (Moves.single (credit_effect _ _ _ _ _ payment)).extends.entries entry entryIn
        exact ⟨entry, single_entry _ entry _ kept key, kind, owner.trans itemAccount.symm, amount⟩
      · intro earns
        rcases finished with ⟨free, _⟩ | ⟨_, paid, payment⟩
        · omega
        · obtain ⟨paidIn, paidKey, paidKind, _, paidAmount⟩ := granted_of_credit _ _ _ _ _ payment (firstMove.sound openedSound).trimmed
          exact ⟨paid, single_entry _ paid _ paidIn paidKey, paidKind, paidAmount.trans itemShare.symm⟩
      · intro free other otherIn isPlatform
        rcases finished with ⟨_, rfl⟩ | ⟨earns, _⟩
        · rcases firstMove.entry_key other otherIn with old | ⟨op, opIn, key⟩
          · exact unmoved.entries ▸ old
          · rw [List.mem_singleton] at opIn
            subst opIn
            rw [LedgerOp.entryKeys, List.mem_singleton] at key
            have apart : Apart "marketplace-pending:" "marketplace-platform:" := by decide
            obtain ⟨rest, trimmed⟩ := trim_space_front "marketplace-platform:" params.requestID (by decide)
            exact (apart.trim_ne (by decide) params.requestID rest (key.symm.trans (isPlatform.trans trimmed))).elim
        · omega

theorem Income.undated {start final : Market} {params : RecordParams} {item : Settlement} (income : Income start final params item) :
    Income start final.undated params { item with createdAt := 0 } := by
  refine ⟨?_, income.ownerCredit, income.platformCredit, income.freeOfCharge⟩
  have mapped := congrArg (List.map fun row : Settlement => { row with createdAt := 0 }) income.single
  simpa [Market.undated, Marketplace.undated, List.filter_map, Function.comp_def] using mapped

-- A row that recovery rebuilds is the row of the live record up to its date, and any mix of
-- attempts of both kinds leaves one settlement with its credits.
theorem recovered_income_matches (env : WalletEnv) (info : RelayInfo) (funding : FundedBy) (amount now : Int) (log : UsageLog)
    (built : marketplaceSettlementUsage (syncRelayInfo info funding) amount now = .ok (some log)) (start : Market) (routed : Routed info start)
    (sound : Sound start.wallet.ledger) (unsettled : ∀ item ∈ start.settlements.rows, item.requestID ≠ info.requestID) :
    (∀ row after, recoverUsageTx env log start = (.ok row, after) →
      ∃ lived, recordSettledUsage env (syncRelayInfo info funding) amount start = (.ok (), lived) ∧ after.undated = lived.undated ∧
        after.settlements.rows.filter (fun item => item.requestID = info.requestID) = [row]) ∧
    ∀ lived, recordSettledUsage env (syncRelayInfo info funding) amount start = (.ok (), lived) →
      ∀ steps, (∃ step ∈ steps, ∃ after, executeIncome env (syncRelayInfo info funding) amount log step start = (.ok (), after)) →
        (run (incomeStep env (syncRelayInfo info funding) amount log) start steps).undated = lived.undated ∧
          (0 < (marketplaceSettlementParams (syncRelayInfo info funding) amount).settlementGrossAmount →
            ∃ item, Income start (run (incomeStep env (syncRelayInfo info funding) amount log) start steps).undated
              (marketplaceSettlementParams (syncRelayInfo info funding) amount) item) := by
  have sameRequest : (syncRelayInfo info funding).requestID = info.requestID := by cases funding <;> rfl
  obtain ⟨⟨grouped, _, identified, owned⟩, isLog⟩ := usage_log_of_relay _ _ _ _ built
  refine ⟨fun row after recovered => ?_, fun lived live steps accepted => ?_⟩
  · cases ran_recover env log start after row recovered with
    | found member named => exact (unsettled row member (named.trans (by rw [isLog]; exact sameRequest))).elim
    | rebuilt frozen group lived _ item _ evidence _ groupIn isGroup _ record member named dated =>
        rw [live_of_rebuilt built start routed frozen group evidence groupIn isGroup, ← live_records built] at record
        obtain ⟨same, rowIn, rowNamed⟩ := undated_of_date log item row lived after dated member
        have request : row.requestID = info.requestID := rowNamed.trans (named.trans (by rw [isLog]; exact sameRequest))
        exact ⟨lived, record, same, Table.filter_single _ _ row rowIn (by simp [request]) fun other _ hit =>
          .inr (request.trans (of_decide_eq_true hit).symm)⟩
  · have same := income_run built start lived routed live steps accepted
    refine ⟨same, fun income => ?_⟩
    rw [live_records built] at live
    obtain ⟨item, once⟩ := income_of_record env _ start lived live sound ⟨identified, grouped, owned⟩ income
      (by simpa [marketplaceSettlementParams, sameRequest] using unsettled)
    exact ⟨_, same ▸ once.undated⟩

def sampleRelay : RelayInfo :=
  { requestID := "req1", userID := 9, channelID := 101, marketplaceGroupID := "g", marketplaceOwnerID := 7, marketplaceMultiplier := 2 }

def sampleGrant : CreditAccountParams :=
  { accountID := "a0f", amount := 5000, idempotencyKey := "grant", reasonCode := "grant", referenceType := "user", referenceID := "9",
    operatorType := "system", operatorID := "" }

def sampleDebit (amount : Int) : List LedgerOp :=
  [.ensureBillingAccount (claudeWalletParams 9), .creditAccount sampleGrant,
    .createReservation { accountID := "a0f", requestID := "req1", reservedAmount := amount, idempotencyKey := "req1:reserve" },
    .settleReservation { reservationID := "a3f", actualAmount := amount, idempotencyKey := "req1:settle" }]

-- A relay call that the consumer's wallet has paid for.
def paidMarket (amount : Int) : Market :=
  { emptyMarket with
    wallet := { emptyMarket.wallet with ledger := run (step (sampleWalletEnv false).toLedgerEnv) Ledger.empty (sampleDebit amount) }
    groups := [⟨"g", "c", 7, false⟩]
    channels := [⟨"c", 7, some 101⟩] }

theorem recovered_income_matches_wallet :
    ∃ row after lived,
      recoverUsageTx (sampleWalletEnv false) (usageLog (syncRelayInfo sampleRelay .wallet) 1000 5) (paidMarket 1000) = (.ok row, after) ∧
        recordSettledUsage (sampleWalletEnv false) (syncRelayInfo sampleRelay .wallet) 1000 (paidMarket 1000) = (.ok (), lived) ∧
        after.undated = lived.undated ∧ after.settlements.rows.filter (fun item => item.requestID = "req1") = [row] := by
  have answered : (recoverUsageTx (sampleWalletEnv false) (usageLog (syncRelayInfo sampleRelay .wallet) 1000 5) (paidMarket 1000)).1.isOk =
      true := by decide +kernel
  obtain ⟨row, recovered⟩ := Tx.ran_of_accepted _ _ answered
  obtain ⟨lived, live, same, single⟩ := (recovered_income_matches (sampleWalletEnv false) sampleRelay .wallet 1000 5 _ rfl (paidMarket 1000)
    (by simp [Routed, paidMarket, sampleRelay]) (sound_run _ _) (by simp [paidMarket, emptyMarket])).1 row _ recovered
  exact ⟨row, _, lived, recovered, live, same, single⟩

-- Nine units round to no commission, so the platform gets no credit at all.
theorem small_income_has_one_credit :
    (recordSettledUsage (sampleWalletEnv false) (syncRelayInfo sampleRelay .wallet) 9 (paidMarket 9)).1 = .ok () ∧
      ((recordSettledUsage (sampleWalletEnv false) (syncRelayInfo sampleRelay .wallet) 9 (paidMarket 9)).2.wallet.ledger.entries.rows.filter
        (fun entry => entry.referenceType = "marketplace_settlement")).length = 1 := by
  decide +kernel

end CodeGo.Marketplace
