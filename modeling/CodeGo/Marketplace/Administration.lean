import CodeGo.Lib.Trace
import CodeGo.Marketplace.Earnings

set_option autoImplicit false

namespace CodeGo.Marketplace

open Relational Text Billing

/- An administrator releases or forfeits pending settlements in bulk. The rows are read once
   without a lock; each is closed in a transaction of its own, and whatever else commits
   between two of them is work of the same store. -/

inductive AdminCall where
  | releasePending (filter : ReleaseFilter)
  | forfeitChannelPending (channelID : String)

def ReleaseFilter.SelectsPending (filter : ReleaseFilter) (item : Settlement) : Prop :=
  item.status = .pending ∧ filter.Covers item.ownerUserID ∧
    (filter.startTimestamp > 0 → item.createdAt ≥ filter.startTimestamp) ∧ (filter.endTimestamp > 0 → item.createdAt < filter.endTimestamp + 1)

instance (filter : ReleaseFilter) (item : Settlement) : Decidable (filter.SelectsPending item) := inferInstanceAs (Decidable (_ ∧ _))

def groupOfChannel (market : Market) (channelID : String) : String :=
  ((market.groups.find? fun group => group.channelID = channelID ∧ group.deleted = false).map Group.id).getD ""

-- The answers the query of the call may give. Rows of one creation time come in any order.
def AdminCall.Selected (market : Market) (rows : List Settlement) : AdminCall → Prop
  | .releasePending filter =>
      ∃ ordered : List Settlement, ordered.Perm (market.settlements.rows.filter fun item => filter.SelectsPending item) ∧
        (ordered.Pairwise fun first second => first.createdAt ≤ second.createdAt) ∧
        rows = ordered.take (if filter.limit ≤ 0 then 5000 else filter.limit.toNat)
  | .forfeitChannelPending channelID =>
      rows.Perm (market.settlements.rows.filter fun item => item.groupID = groupOfChannel market channelID ∧ item.status = .pending)

def AdminCall.closes : AdminCall → SettlementStatus
  | .releasePending _ => .released
  | .forfeitChannelPending _ => .forfeited

def AdminCall.pay (env : WalletEnv) (item : Settlement) : AdminCall → WalletTx Unit
  | .releasePending _ => releasePayout env item
  | .forfeitChannelPending _ =>
      forfeitMarketplacePendingEarningsTx env item.pendingAccountID 1 item.ownerNetAmount ("marketplace-forfeit:" ++ item.id)

def AdminCall.closeOne (env : WalletEnv) (settlementID : String) : AdminCall → MarketTx Unit
  | .releasePending _ => releaseOne env settlementID
  | .forfeitChannelPending _ => forfeitOne env settlementID

-- The payments for settlements that one ledger has and an earlier one had not.
def incomePaid (before after : Market) : List BillingLedgerEntry :=
  after.wallet.ledger.entries.rows.filter fun entry => entry ∉ before.wallet.ledger.entries.rows ∧
    ∃ item ∈ after.settlements.rows, CreditKey entry.idempotencyKey item.id

-- A call between two of its transactions: what it will report, and what it has paid.
structure CallState where
  treasury : Treasury
  count : Int := 0
  amount : Int := 0
  stopped : Option LedgerError := none
  paid : List BillingLedgerEntry := []

-- One turn of the loop, after the work that has been committed meanwhile.
def AdminCall.turn (env : WalletEnv) (call : AdminCall) (state : CallState) (next : List TreasuryOp × Settlement) : CallState :=
  match state.stopped with
  | some _ => state
  | none =>
      let treasury := run (treasuryStep env) state.treasury next.1
      match Tx.atomic (call.closeOne env next.2.id) treasury.market with
      | (.error problem, _) => { state with treasury, stopped := some problem }
      | (.ok _, market) =>
          { treasury := { treasury with market }, count := state.count + 1, amount := state.amount + next.2.ownerNetAmount,
            paid := state.paid ++ incomePaid treasury.market market }

-- What was read is closed by now, or waits for its referrals.
def Served (market : Market) (item : Settlement) : Prop :=
  ∀ row ∈ market.settlements.rows, row.id = item.id → row.status = .pending → row.referralRebatePending = true

-- Nothing that could be closed is left, and the report is what was paid.
structure Honest (rows : List Settlement) (final : CallState) : Prop where
  complete : ∀ item ∈ rows, Served final.treasury.market item
  count : final.count = final.paid.length
  amount : final.amount = (final.paid.map BillingLedgerEntry.amount).sum

-- A row that waits for its referrals stops the loop, so then nothing behind it may be due.
def AdminCall.Fair (env : WalletEnv) (call : AdminCall) (state : CallState) (next : List TreasuryOp × Settlement) : Prop :=
  match state.stopped with
  | some _ => Served state.treasury.market next.2
  | none =>
      let market := (run (treasuryStep env) state.treasury next.1).market
      ∀ row ∈ market.settlements.rows, row.id = next.2.id → row.status = .pending ∧ (row.referralRebatePending = true ∨
        (0 < row.ownerNetAmount ∧ row.ownerNetAmount = next.2.ownerNetAmount ∧ ∃ wallet, call.pay env row market.wallet = (.ok (), wallet)))

-- A row as it was read, and what has become of it.
structure Aged (item row : Settlement) : Prop where
  id : row.id = item.id
  net : row.ownerNetAmount ≤ item.ownerNetAmount
  closed : item.status ≠ .pending → row.status ≠ .pending

theorem Aged.refl (item : Settlement) : Aged item item := ⟨rfl, le_rfl, fun closed => closed⟩

theorem Aged.trans {first second third : Settlement} (early : Aged first second) (late : Aged second third) : Aged first third :=
  ⟨late.id.trans early.id, late.net.trans early.net, fun closed => late.closed (early.closed closed)⟩

theorem RowMove.aged {item next : Settlement} (move : RowMove item next) : Aged item next := by
  obtain edit | close := move
  · cases edit with
    | drafted draft =>
        cases draft with
        | charged amount _ positive _ =>
            refine ⟨rfl, ?_, fun closed => closed⟩
            simp only [chargeReferral]
            omega
        | completed => exact ⟨rfl, le_rfl, fun closed => closed⟩
        | dated => exact ⟨rfl, le_rfl, fun closed => closed⟩
    | reclaimed amount released _ _ =>
        refine ⟨rfl, le_rfl, fun _ => ?_⟩
        simp only [reclaimRow, released]
        split <;> simp
  · cases close with
    | released pending _ => exact ⟨rfl, le_rfl, fun closed => (closed pending).elim⟩
    | forfeited pending _ => exact ⟨rfl, le_rfl, fun closed => (closed pending).elim⟩

theorem aged_of_path {item next : Settlement} (path : Relation.ReflTransGen RowMove item next) : Aged item next := by
  induction path with
  | refl => exact .refl _
  | tail _ move ih => exact ih.trans move.aged

-- The store after other work: the rows read before are all still there, older.
structure Moved (market after : Market) : Prop where
  settled : Settled after
  rows : ∀ item ∈ market.settlements.rows, ∃ row ∈ after.settlements.rows, Aged item row

theorem Moved.refl {market : Market} (settled : Settled market) : Moved market market := ⟨settled, fun item member => ⟨item, member, .refl item⟩⟩

theorem Moved.trans {first second third : Market} (early : Moved first second) (late : Moved second third) : Moved first third := by
  refine ⟨late.settled, fun item member => ?_⟩
  obtain ⟨row, rowIn, aged⟩ := early.rows item member
  obtain ⟨last, lastIn, older⟩ := late.rows row rowIn
  exact ⟨last, lastIn, aged.trans older⟩

theorem TreasuryMoved.moved {market after : Market} (moved : TreasuryMoved market after) (settled : Settled market) : Moved market after := by
  refine ⟨moved.settled settled, fun item member => ?_⟩
  cases moved with
  | edited edited =>
      obtain ⟨row, rowIn, path⟩ := edited.rows.kept item member
      exact ⟨row, rowIn, aged_of_path (Relation.ReflTransGen.mono (fun _ _ => .inl) _ _ path)⟩
  | closing closing =>
      obtain ⟨row, rowIn, path⟩ := closing.rows.kept item member
      exact ⟨row, rowIn, aged_of_path (Relation.ReflTransGen.mono (fun _ _ => .inr) _ _ path)⟩

theorem moved_by_run (env : WalletEnv) (ids : ∀ number, Tight (env.uuid number)) (treasury : Treasury) (settled : Settled treasury.market)
    (ops : List TreasuryOp) : Moved treasury.market (run (treasuryStep env) treasury ops).market := by
  induction ops generalizing treasury with
  | nil => exact .refl settled
  | cons op rest ih =>
      have first := (moved_by_treasury env ids treasury settled op).moved settled
      exact first.trans (ih _ first.settled)

section Closings

variable {env : WalletEnv} {call : AdminCall} {market after : Market} {row : Settlement}

theorem close_one_row (env : WalletEnv) (call : AdminCall) (member : row ∈ market.settlements.rows) :
    call.closeOne env row.id market = closePending row call.closes (call.pay env row) market := by
  have found : market.settlements.find? (fun item => item.id = row.id) = some row := by
    apply Table.find?_of_mem _ _ row member (by simp)
    intro other same
    exact clash_of_settlement_id _ _ (of_decide_eq_true same).symm
  have locked : lockSettlement row.id market = (.ok row, market) := by
    rw [lockSettlement, Tx.bind_view, found]
    rfl
  cases call with
  | releasePending filter =>
      rw [AdminCall.closeOne, releaseOne, Tx.bind_ran locked]
      rfl
  | forfeitChannelPending channelID =>
      rw [AdminCall.closeOne, forfeitOne, Tx.bind_ran locked]
      rfl

theorem close_closed (status : SettlementStatus) (pay : WalletTx Unit) (closed : row.status ≠ .pending) :
    closePending row status pay market = (.ok (), market) := by
  rw [closePending, if_pos closed]
  rfl

theorem close_waiting (status : SettlementStatus) (pay : WalletTx Unit) (pending : row.status = .pending)
    (waiting : row.referralRebatePending = true) :
    closePending row status pay market = (.error (.message "marketplace referral allocation is pending"), market) := by
  rw [closePending, if_neg (by simp [pending]), Tx.bind_rejected waiting]

theorem close_empty (status : SettlementStatus) (pay : WalletTx Unit) (pending : row.status = .pending)
    (allocated : row.referralRebatePending = false) (nothing : row.ownerNetAmount = 0) :
    ∃ settlements, closePending row status pay market = (.ok (), { market with settlements }) := by
  rw [closePending, if_neg (by simp [pending]), Tx.bind_accepted (by simp [allocated]), if_pos nothing]
  exact ⟨_, rfl⟩

theorem close_accepts {status : SettlementStatus} {pay : WalletTx Unit} (pending : row.status = .pending)
    (allocated : row.referralRebatePending = false) (owed : row.ownerNetAmount ≠ 0)
    (ran : closePending row status pay market = (.ok (), after)) : ∃ wallet, pay market.wallet = (.ok (), wallet) := by
  rw [closePending, if_neg (by simp [pending]), Tx.bind_accepted (by simp [allocated]), if_neg owed, Tx.ran_bind] at ran
  obtain ⟨_, _, paying, _⟩ := ran
  rw [ran_on_wallet] at paying
  obtain ⟨wallet, paid, _⟩ := paying
  exact ⟨wallet, paid⟩

theorem close_pays (status : SettlementStatus) (pay : WalletTx Unit) (pending : row.status = .pending)
    (allocated : row.referralRebatePending = false) (owed : row.ownerNetAmount ≠ 0) {wallet : Wallet} (paying : pay market.wallet = (.ok (), wallet)) :
    closePending row status pay market = markStatus row.id status { market with wallet } := by
  have moved : onWallet pay market = (.ok (), { market with wallet }) := (ran_on_wallet ..).mpr ⟨wallet, paying, rfl⟩
  rw [closePending, if_neg (by simp [pending]), Tx.bind_accepted (by simp [allocated]), if_neg owed, Tx.bind_ran moved]

theorem AdminCall.closes_final (call : AdminCall) : call.closes ≠ .pending := by
  cases call <;> simp [AdminCall.closes]

theorem marked_row {wallet : Wallet} (status : SettlementStatus) (member : row ∈ market.settlements.rows) :
    ∃ settlements, markStatus row.id status { market with wallet } = (.ok (), { market with wallet, settlements }) ∧
      Table.Replaced market.settlements settlements row { row with status } := by
  refine ⟨_, rfl, ?_⟩
  obtain ⟨replaced, _⟩ := replaced_settlement { market with wallet } _ row (fun item => { item with status }) (fun _ => rfl) member rfl
  exact replaced

-- The key and the wallet a payment of the call goes by.
def AdminCall.payee (call : AdminCall) (row : Settlement) : String × Int :=
  match call with
  | .releasePending _ => (releaseCreditKey row.id, row.ownerUserID)
  | .forfeitChannelPending _ => (forfeitCreditKey row.id, 1)

theorem payee_key (call : AdminCall) (row : Settlement) : CreditKey (call.payee row).1 row.id := by
  cases call with
  | releasePending filter => exact .inl rfl
  | forfeitChannelPending channelID => exact .inr rfl

theorem payment_of_call {wallet paid : Wallet} (named : Tight row.id) (ran : call.pay env row wallet = (.ok (), paid)) :
    Payment wallet (call.payee row).1 (call.payee row).2 row.ownerNetAmount paid := by
  cases call with
  | releasePending filter => exact payment_of_release env row wallet paid ran named
  | forfeitChannelPending channelID => exact payment_of_forfeit env row wallet paid ran

-- A payment of the call leaves one entry that pays for a settlement, and it is for the amount of the row.
theorem income_of_payment {wallet : Wallet} {settlements : Table Settlement} {userID : Int} {key : String} (settled : Settled market)
    (member : row ∈ market.settlements.rows) (pending : row.status = .pending) (keyed : CreditKey key row.id)
    (known : ∃ item ∈ settlements.rows, item.id = row.id) (payment : Payment market.wallet key userID row.ownerNetAmount wallet) :
    ∃ entry, incomePaid market { market with wallet, settlements } = [entry] ∧ entry.amount = row.ownerNetAmount := by
  obtain ⟨entry, entryIn, isKey, amount, _⟩ := payment.posted
  refine ⟨entry, ?_, amount⟩
  have new : entry ∉ market.wallet.ledger.entries.rows := by
    intro old
    obtain ⟨item, itemIn, payeeID, named, payee, _⟩ := settled.paid.backed entry old row.id (isKey ▸ keyed)
    obtain rfl : item = row := Table.eq_of_clash _ _ _ itemIn member (clash_of_settlement_id _ _ named)
    rw [(payee_none_iff item).mpr pending] at payee
    cases payee
  obtain ⟨item, itemIn, named⟩ := known
  apply Table.filter_single _ _ entry entryIn
  · rw [decide_eq_true_eq]
    exact ⟨new, item, itemIn, named ▸ isKey ▸ keyed⟩
  · intro other otherIn hit
    obtain ⟨fresh, about, _, credit⟩ := of_decide_eq_true hit
    obtain old | quiet | sameKey := payment.fresh other otherIn
    · exact (fresh old).elim
    · exact (quiet _ credit).elim
    · exact .inr (isKey.trans sameKey.symm)

theorem no_income (settlements : Table Settlement) : incomePaid market { market with settlements } = [] := by
  rw [incomePaid, List.filter_eq_nil_iff]
  intro entry member hit
  exact (of_decide_eq_true hit).1 member

end Closings

def AdminCall.op (settlementID : String) : AdminCall → MarketOp
  | .releasePending _ => .release settlementID
  | .forfeitChannelPending _ => .forfeit settlementID

section Turns

variable {env : WalletEnv} {call : AdminCall} {state : CallState} {next : List TreasuryOp × Settlement}

theorem turn_stopped {problem : LedgerError} (stopped : state.stopped = some problem) (next : List TreasuryOp × Settlement) :
    call.turn env state next = state := by
  rw [AdminCall.turn, stopped]

theorem run_stopped {problem : LedgerError} (stopped : state.stopped = some problem) (turns : List (List TreasuryOp × Settlement)) :
    run (call.turn env) state turns = state := by
  induction turns with
  | nil => rfl
  | cons next rest ih => rw [run_cons, turn_stopped stopped, ih]

theorem turn_treasury (going : state.stopped = none) :
    (call.turn env state next).treasury = treasuryStep env (run (treasuryStep env) state.treasury next.1) (.market (call.op next.2.id)) := by
  have step (market : Market) : marketStep env market (call.op next.2.id) = (Tx.atomic (call.closeOne env next.2.id) market).2 := by
    cases call <;> rfl
  simp only [AdminCall.turn, going, treasuryStep, step]
  cases closed : Tx.atomic (call.closeOne env next.2.id) (run (treasuryStep env) state.treasury next.1).market with
  | mk outcome market =>
      cases outcome with
      | error problem =>
          obtain ⟨_, committed⟩ | ⟨_, rolledBack⟩ := Tx.atomic_store (call.closeOne env next.2.id) (run (treasuryStep env) state.treasury next.1).market
          · have failed := ((Tx.ran_atomic ..).mpr committed).symm.trans closed
            cases failed
          · rw [closed] at rolledBack
            dsimp only at rolledBack ⊢
            rw [rolledBack]
      | ok _ => rfl

theorem turn_moved (ids : ∀ number, Tight (env.uuid number)) (settled : Settled state.treasury.market) (next : List TreasuryOp × Settlement) :
    Moved state.treasury.market (call.turn env state next).treasury.market := by
  cases going : state.stopped with
  | some problem =>
      rw [turn_stopped going]
      exact .refl settled
  | none =>
      have meanwhile := moved_by_run env ids state.treasury settled next.1
      rw [turn_treasury going]
      exact meanwhile.trans ((moved_by_treasury env ids _ meanwhile.settled _).moved meanwhile.settled)

theorem turns_moved (ids : ∀ number, Tight (env.uuid number)) (settled : Settled state.treasury.market)
    (turns : List (List TreasuryOp × Settlement)) : Moved state.treasury.market (run (call.turn env) state turns).treasury.market := by
  induction turns generalizing state with
  | nil => exact .refl settled
  | cons next rest ih =>
      have first := @turn_moved env call state ids settled next
      exact first.trans (ih first.settled)

end Turns

-- What a turn finds in the row it is about, and what it makes of the call.
inductive Turned (env : WalletEnv) (call : AdminCall) (state : CallState) (read row : Settlement) (market : Market) : CallState → Prop where
  | waits (treasury : Treasury) (problem : LedgerError) (same : treasury.market = market) (pending : row.status = .pending)
      (waiting : row.referralRebatePending = true) : Turned env call state read row market { state with treasury, stopped := some problem }
  | refused (treasury : Treasury) (problem : LedgerError) (same : treasury.market = market) (pending : row.status = .pending)
      (allocated : row.referralRebatePending = false) (owed : row.ownerNetAmount ≠ 0)
      (refused : ¬ ∃ wallet, call.pay env row market.wallet = (.ok (), wallet)) :
      Turned env call state read row market { state with treasury, stopped := some problem }
  | unpaid (treasury : Treasury) (idle : row.status ≠ .pending ∨ row.referralRebatePending = false ∧ row.ownerNetAmount = 0) :
      Turned env call state read row market
        { state with treasury, count := state.count + 1, amount := state.amount + read.ownerNetAmount, stopped := none }
  | paid (treasury : Treasury) (entry : BillingLedgerEntry) (pending : row.status = .pending) (allocated : row.referralRebatePending = false)
      (owed : row.ownerNetAmount ≠ 0) (accepted : ∃ wallet, call.pay env row market.wallet = (.ok (), wallet))
      (amount : entry.amount = row.ownerNetAmount)
      (closed : ∃ later ∈ treasury.market.settlements.rows, later.id = row.id ∧ later.status ≠ .pending) :
      Turned env call state read row market
        { treasury, count := state.count + 1, amount := state.amount + read.ownerNetAmount, paid := state.paid ++ [entry] }

theorem turned (env : WalletEnv) (call : AdminCall) (state : CallState) (next : List TreasuryOp × Settlement) (row : Settlement)
    (going : state.stopped = none) (settled : Settled (run (treasuryStep env) state.treasury next.1).market)
    (member : row ∈ (run (treasuryStep env) state.treasury next.1).market.settlements.rows) (named : row.id = next.2.id) :
    Turned env call state next.2 row (run (treasuryStep env) state.treasury next.1).market (call.turn env state next) := by
  have closing := close_one_row env call member
  rw [named] at closing
  simp only [AdminCall.turn, going, Tx.atomic, closing]
  generalize run (treasuryStep env) state.treasury next.1 = treasury at *
  by_cases pending : row.status = .pending
  · by_cases waiting : row.referralRebatePending = true
    · rw [close_waiting _ _ pending waiting]
      exact .waits _ _ rfl pending waiting
    · rw [Bool.not_eq_true] at waiting
      by_cases nothing : row.ownerNetAmount = 0
      · obtain ⟨settlements, emptied⟩ := @close_empty treasury.market row call.closes (call.pay env row) pending waiting nothing
        rw [emptied]
        dsimp only
        rw [no_income, List.append_nil]
        have unpaid := @Turned.unpaid env call state next.2 row treasury.market { treasury with market := { treasury.market with settlements } }
          (.inr ⟨waiting, nothing⟩)
        exact unpaid
      · by_cases accepted : ∃ wallet, call.pay env row treasury.market.wallet = (.ok (), wallet)
        · obtain ⟨wallet, paying⟩ := accepted
          have pays := @close_pays treasury.market row call.closes (call.pay env row) pending waiting nothing wallet paying
          obtain ⟨settlements, marked, replaced⟩ := @marked_row treasury.market row wallet call.closes member
          rw [pays, marked]
          have named := (settled.rows row member).named
          have payment := payment_of_call named paying
          obtain ⟨entry, paid, amount⟩ := income_of_payment settled member pending (payee_key call row) ⟨_, replaced.new_mem, rfl⟩ payment
          dsimp only
          rw [paid]
          exact .paid _ entry pending waiting nothing ⟨wallet, paying⟩ amount ⟨_, replaced.new_mem, rfl, call.closes_final⟩
        · cases closed : closePending row call.closes (call.pay env row) treasury.market with
          | mk outcome market =>
              cases outcome with
              | error problem => exact .refused _ _ rfl pending waiting nothing accepted
              | ok _ => exact (accepted (close_accepts pending waiting nothing closed)).elim
  · rw [close_closed _ _ pending]
    have none := @no_income treasury.market treasury.market.settlements
    dsimp only at none ⊢
    rw [none, List.append_nil]
    have unpaid := @Turned.unpaid env call state next.2 row treasury.market treasury (.inl pending)
    exact unpaid

-- Turns that were counted without a payment, and quota that was reported without one.
def CallState.unpaid (state : CallState) : Int := state.count - state.paid.length

def CallState.overstated (state : CallState) : Int := state.amount - (state.paid.map BillingLedgerEntry.amount).sum

section Reports

variable {env : WalletEnv} {call : AdminCall} {state after : CallState} {next : List TreasuryOp × Settlement} {read row : Settlement}
  {market : Market}

theorem Turned.slack (turned : Turned env call state read row market after) (aged : Aged read row) (sound : RowSound row) :
    state.unpaid ≤ after.unpaid ∧ state.overstated ≤ after.overstated := by
  have less := aged.net
  have net := sound.net
  cases turned with
  | waits => exact ⟨le_rfl, le_rfl⟩
  | refused => exact ⟨le_rfl, le_rfl⟩
  | unpaid =>
      simp only [CallState.unpaid, CallState.overstated]
      omega
  | paid treasury entry _ _ _ _ amount _ =>
      simp only [CallState.unpaid, CallState.overstated, List.length_append, List.length_singleton, List.map_append, List.map_cons, List.map_nil,
        List.sum_append, List.sum_singleton, amount]
      omega

-- The rows the remaining turns are about are in the store, older than they were read.
def Awaited (market : Market) (turns : List (List TreasuryOp × Settlement)) : Prop :=
  ∀ next ∈ turns, ∃ row ∈ market.settlements.rows, Aged next.2 row

theorem Awaited.moved {turns : List (List TreasuryOp × Settlement)} {later : Market} (awaited : Awaited market turns) (moved : Moved market later) :
    Awaited later turns := by
  intro next member
  obtain ⟨row, rowIn, aged⟩ := awaited next member
  obtain ⟨last, lastIn, older⟩ := moved.rows row rowIn
  exact ⟨last, lastIn, aged.trans older⟩

theorem turned_next (ids : ∀ number, Tight (env.uuid number)) (going : state.stopped = none) (settled : Settled state.treasury.market)
    (awaited : ∃ row ∈ state.treasury.market.settlements.rows, Aged next.2 row) :
    Settled (run (treasuryStep env) state.treasury next.1).market ∧
      ∃ row ∈ (run (treasuryStep env) state.treasury next.1).market.settlements.rows, Aged next.2 row ∧
        Turned env call state next.2 row (run (treasuryStep env) state.treasury next.1).market (call.turn env state next) := by
  have meanwhile := moved_by_run env ids state.treasury settled next.1
  obtain ⟨row, rowIn, aged⟩ := awaited
  obtain ⟨last, lastIn, older⟩ := meanwhile.rows row rowIn
  have agedLast := aged.trans older
  exact ⟨meanwhile.settled, last, lastIn, agedLast, turned env call state next last going meanwhile.settled lastIn agedLast.id⟩

theorem turns_slack (ids : ∀ number, Tight (env.uuid number)) (turns : List (List TreasuryOp × Settlement))
    (settled : Settled state.treasury.market) (awaited : Awaited state.treasury.market turns) :
    state.unpaid ≤ (run (call.turn env) state turns).unpaid ∧ state.overstated ≤ (run (call.turn env) state turns).overstated := by
  induction turns generalizing state with
  | nil => exact ⟨le_rfl, le_rfl⟩
  | cons next rest ih =>
      have moved := @turn_moved env call state ids settled next
      have others : Awaited state.treasury.market rest := fun other member => awaited other (List.mem_cons_of_mem _ member)
      obtain ⟨count, amount⟩ := ih moved.settled (others.moved moved)
      have first : state.unpaid ≤ (call.turn env state next).unpaid ∧ state.overstated ≤ (call.turn env state next).overstated := by
        cases going : state.stopped with
        | some problem =>
            rw [turn_stopped going]
            exact ⟨le_rfl, le_rfl⟩
        | none =>
            obtain ⟨kept, row, rowIn, aged, turned⟩ := @turned_next env call state next ids going settled (awaited next List.mem_cons_self)
            exact turned.slack aged (kept.rows row rowIn)
      exact ⟨first.1.trans count, first.2.trans amount⟩

theorem every_stopped {problem : LedgerError} (stopped : state.stopped = some problem) (turns : List (List TreasuryOp × Settlement)) :
    Every (call.turn env) (call.Fair env) state turns ↔ ∀ item ∈ turns.map Prod.snd, Served state.treasury.market item := by
  induction turns with
  | nil => simp [Every]
  | cons next rest ih =>
      have fair : call.Fair env state next ↔ Served state.treasury.market next.2 := by
        simp only [AdminCall.Fair, stopped]
      rw [Every, turn_stopped stopped, ih, fair, List.map_cons, List.forall_mem_cons]

theorem fair_going (going : state.stopped = none) (member : row ∈ (run (treasuryStep env) state.treasury next.1).market.settlements.rows)
    (named : row.id = next.2.id) : call.Fair env state next ↔ row.status = .pending ∧ (row.referralRebatePending = true ∨
      (0 < row.ownerNetAmount ∧ row.ownerNetAmount = next.2.ownerNetAmount ∧
        ∃ wallet, call.pay env row (run (treasuryStep env) state.treasury next.1).market.wallet = (.ok (), wallet))) := by
  simp only [AdminCall.Fair, going]
  constructor
  · exact fun fair => fair row member named
  · intro fair other otherIn same
    obtain rfl : other = row := Table.eq_of_clash _ _ _ otherIn member (clash_of_settlement_id _ _ (same.trans named.symm))
    exact fair

theorem served_row (member : row ∈ market.settlements.rows) (named : row.id = read.id)
    (fine : row.status = .pending → row.referralRebatePending = true) : Served market read := by
  intro other otherIn same pending
  obtain rfl : other = row := Table.eq_of_clash _ _ _ otherIn member (clash_of_settlement_id _ _ (same.trans named.symm))
  exact fine pending

theorem honest_from (ids : ∀ number, Tight (env.uuid number)) (turns : List (List TreasuryOp × Settlement))
    (settled : Settled state.treasury.market) (awaited : Awaited state.treasury.market turns) :
    ((∀ item ∈ turns.map Prod.snd, Served (run (call.turn env) state turns).treasury.market item) ∧
        (run (call.turn env) state turns).unpaid = state.unpaid ∧ (run (call.turn env) state turns).overstated = state.overstated) ↔
      Every (call.turn env) (call.Fair env) state turns := by
  induction turns generalizing state with
  | nil => simp [Every]
  | cons next rest ih =>
      cases going : state.stopped with
      | some problem => simp only [run_stopped going, every_stopped going, and_true]
      | none =>
          have moved := @turn_moved env call state ids settled next
          have others : Awaited state.treasury.market rest := fun other member => awaited other (List.mem_cons_of_mem _ member)
          have later := ih moved.settled (others.moved moved)
          obtain ⟨count, amount⟩ := @turns_slack env call (call.turn env state next) ids rest moved.settled (others.moved moved)
          have final := @turns_moved env call (call.turn env state next) ids moved.settled rest
          obtain ⟨kept, row, rowIn, aged, turned⟩ := @turned_next env call state next ids going settled (awaited next List.mem_cons_self)
          have sound := kept.rows row rowIn
          rw [run_cons, List.map_cons, List.forall_mem_cons, Every, fair_going going rowIn aged.id, ← later]
          clear later ih
          generalize call.turn env state next = after at *
          cases turned with
          | waits treasury problem same pending waiting =>
              have served : Served treasury.market next.2 := by
                rw [same]
                exact served_row rowIn aged.id fun _ => waiting
              have halted : (({ state with treasury, stopped := some problem } : CallState)).stopped = some problem := rfl
              rw [run_stopped halted]
              constructor
              · rintro ⟨⟨_, behind⟩, _⟩
                exact ⟨⟨pending, .inl waiting⟩, behind, rfl, rfl⟩
              · rintro ⟨_, behind, _⟩
                exact ⟨⟨served, behind⟩, rfl, rfl⟩
          | refused treasury problem same pending allocated owed refused =>
              have halted : (({ state with treasury, stopped := some problem } : CallState)).stopped = some problem := rfl
              rw [run_stopped halted]
              constructor
              · rintro ⟨⟨served, _⟩, _⟩
                have waiting := served row (same ▸ rowIn) aged.id pending
                rw [allocated] at waiting
                cases waiting
              · rintro ⟨⟨_, fair⟩, _⟩
                obtain waiting | ⟨_, _, accepted⟩ := fair
                · rw [allocated] at waiting
                  cases waiting
                · exact (refused accepted).elim
          | unpaid treasury idle =>
              have more : ({ state with treasury, count := state.count + 1, amount := state.amount + next.2.ownerNetAmount, stopped := none } :
                  CallState).unpaid = state.unpaid + 1 := by
                simp only [CallState.unpaid]
                omega
              constructor
              · rintro ⟨_, even, _⟩
                omega
              · rintro ⟨⟨pending, fair⟩, _⟩
                obtain closed | ⟨allocated, nothing⟩ := idle
                · exact (closed pending).elim
                · rw [allocated, nothing] at fair
                  simp at fair
          | paid treasury entry pending allocated owed accepted paidAmount closed =>
              have less := aged.net
              have net := sound.net
              have sameCount : ({ treasury, count := state.count + 1, amount := state.amount + next.2.ownerNetAmount, paid := state.paid ++ [entry] } :
                  CallState).unpaid = state.unpaid := by
                simp only [CallState.unpaid, List.length_append, List.length_singleton]
                omega
              have sameAmount : ({ treasury, count := state.count + 1, amount := state.amount + next.2.ownerNetAmount, paid := state.paid ++ [entry] } :
                  CallState).overstated = state.overstated + (next.2.ownerNetAmount - row.ownerNetAmount) := by
                simp only [CallState.overstated, List.map_append, List.map_cons, List.map_nil, List.sum_append, List.sum_singleton, paidAmount]
                omega
              rw [sameCount, sameAmount]
              rw [sameAmount] at amount
              constructor
              · rintro ⟨⟨_, behind⟩, even, level⟩
                exact ⟨⟨pending, .inr ⟨by omega, by omega, accepted⟩⟩, behind, even, by omega⟩
              · rintro ⟨⟨_, fair⟩, behind, even, level⟩
                obtain waiting | ⟨_, unchanged, _⟩ := fair
                · rw [allocated] at waiting
                  cases waiting
                · refine ⟨⟨?_, behind⟩, even, by omega⟩
                  obtain ⟨done, doneIn, doneID, doneClosed⟩ := closed
                  obtain ⟨last, lastIn, agedLast⟩ := final.rows done doneIn
                  exact served_row lastIn (agedLast.id.trans (doneID.trans aged.id)) fun reopened => (agedLast.closed doneClosed reopened).elim

end Reports

theorem selected_rows {call : AdminCall} {market : Market} {rows : List Settlement} (selected : call.Selected market rows) :
    ∀ item ∈ rows, item ∈ market.settlements.rows := by
  intro item member
  cases call with
  | releasePending filter =>
      obtain ⟨ordered, same, _, rfl⟩ := selected
      exact (List.mem_filter.mp (same.subset (List.mem_of_mem_take member))).1
  | forfeitChannelPending channelID => exact (List.mem_filter.mp (selected.subset member)).1

-- Two settlements of one owner; the referrals of the first are allocated if it was not paid from a credit pack.
def twoRecords (granted : Int) : Treasury :=
  run (treasuryStep (sampleWalletEnv true)) newTreasury
    [.market (.record { sampleRecord "req1" with
        creditPackGrantedQuota := granted, creditPackPaidQuota := granted, billingSource := if granted = 0 then "wallet" else "credit_pack" }),
      .market (.record (sampleRecord "req2"))]

theorem sample_ids (number : Nat) : Tight ((sampleWalletEnv true).uuid number) := tight_wrapped _ _ _ (by decide) (by decide)

theorem two_records_settled (granted : Int) : Settled (twoRecords granted).market :=
  settled_run (sampleWalletEnv true) sample_ids newTreasury (settled_opening _ rfl (by simp [newTreasury, Ledger.empty])) _

def quietTurns (granted : Int) : List (List TreasuryOp × Settlement) :=
  ((twoRecords granted).market.settlements.rows.filter fun item => ReleaseFilter.SelectsPending { ownerUserIDs := [] } item).map fun item => ([], item)

theorem quiet_turns_selected (granted : Int)
    (ordered : ((quietTurns granted).map Prod.snd).Pairwise fun first second => first.createdAt ≤ second.createdAt)
    (few : (quietTurns granted).length ≤ 5000) :
    (AdminCall.releasePending { ownerUserIDs := [] }).Selected (twoRecords granted).market ((quietTurns granted).map Prod.snd) := by
  refine ⟨(quietTurns granted).map Prod.snd, ?_, ordered, ?_⟩
  · rw [quietTurns, List.map_map]
    simp
  · rw [List.take_of_length_le]
    simpa using few

end CodeGo.Marketplace
