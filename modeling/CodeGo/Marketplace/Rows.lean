import CodeGo.Marketplace.Runs
import CodeGo.Marketplace.Reclaim
import CodeGo.Wallet.Debit
import Mathlib.Logic.Relation

set_option autoImplicit false

namespace CodeGo.Marketplace

open Relational Text Billing

/- What the operations can do to one settlement row. Drafts and edits leave the status alone
   except for the reclaim of the last unit; closing is the only way out of pending. -/

inductive RowDraft : Settlement → Settlement → Prop where
  | charged (item : Settlement) (amount : Int) (pending : item.status = .pending) (positive : 0 < amount)
      (covered : amount ≤ item.ownerNetAmount) : RowDraft item (chargeReferral item amount)
  | completed (item : Settlement) (pending : item.status = .pending) : RowDraft item { item with referralRebatePending := false }
  | dated (item : Settlement) (createdAt : Int) (pending : item.status = .pending) : RowDraft item { item with createdAt }

inductive RowEdit : Settlement → Settlement → Prop where
  | drafted {item next : Settlement} (draft : RowDraft item next) : RowEdit item next
  | reclaimed (item : Settlement) (amount : Int) (released : item.status = .released) (positive : 0 < amount)
      (covered : amount ≤ item.reclaimable) : RowEdit item (reclaimRow amount item)

inductive RowClose : Settlement → Settlement → Prop where
  | released (item : Settlement) (pending : item.status = .pending) (allocated : item.referralRebatePending = false) :
      RowClose item { item with status := .released }
  | forfeited (item : Settlement) (pending : item.status = .pending) (allocated : item.referralRebatePending = false) :
      RowClose item { item with status := .forfeited }

def RowMove (item next : Settlement) : Prop := RowEdit item next ∨ RowClose item next

-- A row as recordTx writes it.
structure RowBorn (item : Settlement) : Prop where
  named : Tight item.id
  pending : item.status = .pending
  conserved : item.settlementGrossAmount = item.platformCommission + item.transactionFee + item.referralRebateAmount + item.ownerNetAmount
  commission : 0 ≤ item.platformCommission
  fee : 0 ≤ item.transactionFee
  rebate : item.referralRebateAmount = 0
  net : 0 ≤ item.ownerNetAmount
  untouched : item.reclaimedAmount = 0

-- Every old row has its successor and every new row its origin.
structure Evolves (move : Settlement → Settlement → Prop) (settlements next : Table Settlement) : Prop where
  kept : ∀ item ∈ settlements.rows, ∃ later ∈ next.rows, Relation.ReflTransGen move item later
  origin : ∀ later ∈ next.rows, (∃ item ∈ settlements.rows, Relation.ReflTransGen move item later) ∨
    ∃ born, RowBorn born ∧ Relation.ReflTransGen move born later

section Evolution

variable {move : Settlement → Settlement → Prop} {settlements middle next : Table Settlement}

theorem Evolves.refl (settlements : Table Settlement) : Evolves move settlements settlements :=
  ⟨fun item member => ⟨item, member, .refl⟩, fun item member => .inl ⟨item, member, .refl⟩⟩

theorem Evolves.trans (early : Evolves move settlements middle) (late : Evolves move middle next) : Evolves move settlements next := by
  refine ⟨fun item member => ?_, fun later member => ?_⟩
  · obtain ⟨between, betweenIn, first⟩ := early.kept item member
    obtain ⟨last, lastIn, second⟩ := late.kept between betweenIn
    exact ⟨last, lastIn, first.trans second⟩
  · rcases late.origin later member with ⟨between, betweenIn, second⟩ | born
    · rcases early.origin between betweenIn with ⟨item, itemIn, first⟩ | ⟨born, facts, first⟩
      · exact .inl ⟨item, itemIn, first.trans second⟩
      · exact .inr ⟨born, facts, first.trans second⟩
    · exact .inr born

theorem Evolves.mono {wider : Settlement → Settlement → Prop} (evolves : Evolves move settlements next)
    (widens : ∀ item later, move item later → wider item later) : Evolves wider settlements next := by
  refine ⟨fun item member => ?_, fun later member => ?_⟩
  · obtain ⟨last, lastIn, path⟩ := evolves.kept item member
    exact ⟨last, lastIn, Relation.ReflTransGen.mono widens _ _ path⟩
  · rcases evolves.origin later member with ⟨item, itemIn, path⟩ | ⟨born, facts, path⟩
    · exact .inl ⟨item, itemIn, Relation.ReflTransGen.mono widens _ _ path⟩
    · exact .inr ⟨born, facts, Relation.ReflTransGen.mono widens _ _ path⟩

theorem Evolves.replaced {item new : Settlement} (replaced : Table.Replaced settlements next item new) (moved : move item new) :
    Evolves move settlements next := by
  refine ⟨fun row member => ?_, fun row member => ?_⟩
  · rcases replaced.kept row member with rfl | kept
    · exact ⟨new, replaced.new_mem, .single moved⟩
    · exact ⟨row, kept, .refl⟩
  · rcases replaced.mem row member with rfl | ⟨old, _⟩
    · exact .inl ⟨item, replaced.old_mem, .single moved⟩
    · exact .inl ⟨row, old, .refl⟩

theorem Evolves.appended {item : Settlement} (rows : next.rows = settlements.rows ++ [item]) (born : RowBorn item) :
    Evolves move settlements next := by
  refine ⟨fun row member => ⟨row, by simp [rows, member], .refl⟩, fun row member => ?_⟩
  rw [rows, List.mem_append, List.mem_singleton] at member
  rcases member with old | rfl
  · exact .inl ⟨row, old, .refl⟩
  · exact .inr ⟨row, born, .refl⟩

end Evolution

theorem rounded_ratio_nonneg (numerator denominator : Int) (positive : 0 ≤ numerator) (divides : 0 ≤ denominator) :
    0 ≤ roundedRatio numerator denominator := by
  have quotient := Int.tdiv_nonneg positive divides
  unfold roundedRatio
  split <;> omega

theorem charges_nonneg (params : RecordParams) (discount fee : Int) (gross : 0 < params.settlementGrossAmount)
    (charges : creditPackCharges params = .ok (discount, fee)) : 0 ≤ fee := by
  unfold creditPackCharges at charges
  split at charges
  · simp at charges
  split at charges
  · split at charges
    · simp at charges
    · simp only [Except.ok.injEq, Prod.mk.injEq] at charges
      omega
  split at charges
  · simp at charges
  rename_i valid
  push Not at valid
  obtain ⟨granted, paid, within, share, _⟩ := valid
  have divides : 0 ≤ (if params.feePolicyVersion = feePolicyPaidBonusV2 then params.creditPackPaidQuota else params.creditPackGrantedQuota) * 10000 := by
    split <;> omega
  generalize (if params.feePolicyVersion = feePolicyPaidBonusV2 then params.creditPackPaidQuota else params.creditPackGrantedQuota) = denominator
    at charges divides
  simp only at charges
  split at charges
  · simp at charges
  · simp only [Except.ok.injEq, Prod.mk.injEq] at charges
    rw [← charges.2]
    exact rounded_ratio_nonneg _ _ (Int.mul_nonneg (Int.mul_nonneg (by omega) (by omega)) share) divides

theorem born_of_record (params : RecordParams) (discount fee : Int) (accountID id : String) (createdAt : Int)
    (gross : 0 < params.settlementGrossAmount) (charges : creditPackCharges params = .ok (discount, fee))
    (affordable : fee ≤ params.settlementGrossAmount - percentage params.settlementGrossAmount 5) (named : Tight id) :
    RowBorn { recordedSettlement params (percentage params.settlementGrossAmount 5) discount fee
      (params.settlementGrossAmount - percentage params.settlementGrossAmount 5 - fee) accountID with id, createdAt } := by
  have commission : 0 ≤ percentage params.settlementGrossAmount 5 := rounded_ratio_nonneg _ _ (by omega) (by decide)
  have feeNonneg := charges_nonneg params discount fee gross charges
  refine ⟨named, rfl, ?_, commission, feeNonneg, rfl, ?_, rfl⟩
  · simp only [recordedSettlement]
    omega
  · simp only [recordedSettlement]
    omega

def releaseCreditKey (settlementID : String) : String := "marketplace-release-credit:" ++ settlementID

def forfeitCreditKey (settlementID : String) : String := "marketplace-forfeit:" ++ settlementID ++ ":credit"

-- The two keys under which a closed settlement reaches somebody's wallet.
def CreditKey (key settlementID : String) : Prop := key = releaseCreditKey settlementID ∨ key = forfeitCreditKey settlementID

-- A change of the ledger that credits nobody for a settlement.
structure Quiet (ledger after : Ledger) : Prop where
  accounts : ∀ account ∈ ledger.accounts.rows, account ∈ after.accounts.rows
  entries : ∀ entry ∈ ledger.entries.rows, entry ∈ after.entries.rows
  fresh : ∀ entry ∈ after.entries.rows, entry ∈ ledger.entries.rows ∨ ∀ settlementID, ¬ CreditKey entry.idempotencyKey settlementID

theorem Quiet.refl (ledger : Ledger) : Quiet ledger ledger := ⟨fun _ member => member, fun _ member => member, fun _ member => .inl member⟩

theorem Quiet.trans {ledger middle after : Ledger} (early : Quiet ledger middle) (late : Quiet middle after) : Quiet ledger after := by
  refine ⟨fun account member => late.accounts account (early.accounts account member),
    fun entry member => late.entries entry (early.entries entry member), fun entry member => ?_⟩
  rcases late.fresh entry member with old | quiet
  · exact early.fresh entry old
  · exact .inr quiet

theorem quiet_of_moves {ops : List LedgerOp} {ledger after : Ledger} (moves : Moves ops ledger after)
    (quiet : ∀ op ∈ ops, ∀ key ∈ op.entryKeys, ∀ settlementID, ¬ CreditKey key settlementID) : Quiet ledger after := by
  refine ⟨moves.accounts, moves.extends.entries, fun entry member => ?_⟩
  rcases moves.entry_key entry member with old | ⟨op, opIn, key⟩
  · exact .inl old
  · exact .inr (quiet op opIn _ key)

theorem not_credit_key {front : String} (release : Apart front "marketplace-release-credit:") (forfeit : Apart front "marketplace-forfeit:")
    (rest settlementID : String) : ¬ CreditKey (front ++ rest) settlementID := by
  rintro (same | same)
  · exact release.ne _ _ same
  · exact forfeit.ne _ _ (same.trans String.append_assoc)

theorem trimmed_not_credit_key {front : String} (release : Apart front "marketplace-release-credit:") (forfeit : Apart front "marketplace-forfeit:")
    (tight : Tight front) (rest settlementID : String) : ¬ CreditKey (trimSpace (front ++ rest)) settlementID := by
  obtain ⟨kept, trimmed⟩ := trim_space_front front rest tight
  rw [trimmed]
  exact not_credit_key release forfeit kept settlementID

theorem mirror_not_credit_key (accountID : String) (userID legacyBalance : Int) (key settlementID : String)
    (keyed : key ∈ (LedgerOp.creditAccount (mirrorBootstrap accountID userID legacyBalance)).entryKeys) : ¬ CreditKey key settlementID := by
  rw [LedgerOp.entryKeys, List.mem_singleton] at keyed
  subst keyed
  rintro (same | same)
  · exact mirror_key_ne userID (by decide) _ same
  · exact mirror_key_ne userID (by decide) _ (same.trans String.append_assoc)

-- The keys of the market's own bookkeeping: neither a payment for a settlement nor a reclaim.
def routineFronts : List String :=
  ["marketplace-pending:", "marketplace-platform:", "mirror-bootstrap:user:", "entry:marketplace-release-reserve:",
    "entry:marketplace-release-settle:", "entry:marketplace-forfeit:", "entry:marketplace-referral:"]

-- Closing a settlement also pays somebody.
def closingFronts : List String := routineFronts ++ ["marketplace-release-credit:", "marketplace-forfeit:"]

def routineHolds : List String := ["marketplace-release-reserve:", "marketplace-forfeit:", "marketplace-referral:"]

def Fronted (fronts : List String) (key : String) : Prop := ∃ front ∈ fronts, ∃ rest, key = front ++ rest

theorem Fronted.ne {fronts : List String} {key other : String} (fronted : Fronted fronts key) (apart : ∀ front ∈ fronts, Apart front other)
    (rest : String) : key ≠ other ++ rest := by
  obtain ⟨front, frontIn, tail, rfl⟩ := fronted
  exact (apart front frontIn).ne tail rest

theorem fronted_trim {fronts : List String} (front rest : String) (member : front ∈ fronts) (tight : Tight front) :
    Fronted fronts (trimSpace (front ++ rest)) := by
  obtain ⟨kept, trimmed⟩ := trim_space_front front rest tight
  exact ⟨front, member, kept, trimmed⟩

theorem fronted_entry {fronts : List String} (front whole rest : String) (joined : "entry:" ++ front = whole) (member : whole ∈ fronts)
    (tight : Tight front) : Fronted fronts ("entry:" ++ trimSpace (front ++ rest)) := by
  obtain ⟨kept, trimmed⟩ := trim_space_front front rest tight
  refine ⟨whole, member, kept, ?_⟩
  rw [trimmed, ← joined]
  exact String.append_assoc.symm

-- A change of the ledger whose keys all start with one of the given texts.
def Keyed (fronts : List String) (ledger after : Ledger) : Prop :=
  ∃ ops, Moves ops ledger after ∧ ∀ op ∈ ops,
    (∀ key ∈ op.entryKeys, Fronted fronts key) ∧ ∀ key ∈ op.reservationKeys, Fronted routineHolds key

theorem Keyed.refl (fronts : List String) (ledger : Ledger) : Keyed fronts ledger ledger := ⟨[], .nil ledger, by simp⟩

theorem Keyed.trans {fronts : List String} {ledger middle after : Ledger} (early : Keyed fronts ledger middle) (late : Keyed fronts middle after) :
    Keyed fronts ledger after := by
  obtain ⟨first, firstMoves, firstKeyed⟩ := early
  obtain ⟨second, secondMoves, secondKeyed⟩ := late
  refine ⟨first ++ second, firstMoves.append secondMoves, fun op opIn => ?_⟩
  rw [List.mem_append] at opIn
  exact opIn.elim (firstKeyed op) (secondKeyed op)

theorem Keyed.mono {fronts more : List String} {ledger after : Ledger} (keyed : Keyed fronts ledger after) (wider : ∀ front ∈ fronts, front ∈ more) :
    Keyed more ledger after := by
  obtain ⟨ops, moves, fronted⟩ := keyed
  refine ⟨ops, moves, fun op opIn => ⟨fun key keyIn => ?_, (fronted op opIn).2⟩⟩
  obtain ⟨front, frontIn, rest, same⟩ := (fronted op opIn).1 key keyIn
  exact ⟨front, wider front frontIn, rest, same⟩

abbrev Routine (ledger after : Ledger) : Prop := Keyed routineFronts ledger after

theorem routine_unmoved {ledger after : Ledger} (same : Unmoved ledger after) : Routine ledger after :=
  ⟨[.tick 0], .unmoved _ same, by simp [LedgerOp.entryKeys, LedgerOp.reservationKeys]⟩

theorem routine_credit (env : LedgerEnv) (params : CreditAccountParams) (ledger after : Ledger) (entry : BillingLedgerEntry)
    (ran : creditAccountTx env params ledger = (.ok entry, after)) (fronted : Fronted routineFronts (trimSpace params.idempotencyKey)) :
    Routine ledger after :=
  ⟨_, .single (credit_effect _ _ _ _ _ ran), by simpa [LedgerOp.entryKeys, LedgerOp.reservationKeys] using fronted⟩

-- A hold and its settlement leave entries under keys of their own.
theorem routine_spend (env : LedgerEnv) (create : CreateReservationParams) (settle : SettleReservationParams) (ledger middle after : Ledger)
    (reservation : BillingReservation) (settlement : BillingSettlement) (created : createReservationTx env create ledger = (.ok reservation, middle))
    (settled : settleReservationTx env settle middle = (.ok settlement, after)) (hold : Fronted routineHolds (trimSpace create.idempotencyKey))
    (held : Fronted routineFronts ("entry:" ++ trimSpace create.idempotencyKey))
    (spent : Fronted routineFronts ("entry:" ++ trimSpace settle.idempotencyKey)) : Routine ledger after := by
  refine ⟨_, .cons (create_effect _ _ _ _ _ created) (.single (settle_effect _ _ _ _ _ settled)), fun op opIn => ?_⟩
  simp only [List.mem_cons, List.not_mem_nil, or_false] at opIn
  rcases opIn with rfl | rfl
  · exact ⟨by simpa [LedgerOp.entryKeys] using held, by simpa [LedgerOp.reservationKeys] using hold⟩
  · exact ⟨by simpa [LedgerOp.entryKeys] using spent, by simp [LedgerOp.reservationKeys]⟩

theorem mirror_fronted {fronts : List String} (accountID : String) {userID : Int} (legacyBalance : Int)
    (member : "mirror-bootstrap:user:" ∈ fronts) : Fronted fronts (trimSpace (mirrorBootstrap accountID userID legacyBalance).idempotencyKey) := by
  have assoc : mirrorBootstrapKey userID = "mirror-bootstrap:user:" ++ (toString userID ++ (":" ++ billingAccountTypeClaudeWallet)) :=
    String.append_assoc.trans String.append_assoc
  rw [mirrorBootstrap, assoc]
  exact fronted_trim _ _ member (by decide)

theorem routine_mirror {ledger after : Ledger} {userID legacyBalance : Int} {account : BillingAccount}
    (mirrored : Mirrored ledger userID legacyBalance account after) : Routine ledger after := by
  refine ⟨_, mirrored.moves, fun op opIn => ?_⟩
  simp only [List.mem_cons, List.not_mem_nil, or_false] at opIn
  rcases opIn with rfl | rfl
  · simp [LedgerOp.entryKeys, LedgerOp.reservationKeys]
  · refine ⟨fun key keyed => ?_, by simp [LedgerOp.reservationKeys]⟩
    rw [LedgerOp.entryKeys, List.mem_singleton] at keyed
    exact keyed ▸ mirror_fronted _ _ (by decide)

theorem routine_quiet {ledger after : Ledger} (routine : Routine ledger after) : Quiet ledger after := by
  obtain ⟨ops, moves, quiet⟩ := routine
  refine quiet_of_moves moves fun op opIn key keyed settlementID credit => ?_
  have fronted := (quiet op opIn).1 key keyed
  rcases credit with release | forfeit
  · exact fronted.ne (by decide) settlementID release
  · exact fronted.ne (by decide) (settlementID ++ ":credit") (forfeit.trans String.append_assoc)

-- The marketplace rows were edited and nobody was paid for one.
structure Edited (market after : Market) : Prop where
  rows : Evolves RowEdit market.settlements after.settlements
  quiet : Quiet market.wallet.ledger after.wallet.ledger

theorem Edited.refl (market : Market) : Edited market market := ⟨.refl _, .refl _⟩

-- Pending rows were written by the market itself.
structure Drafted (market after : Market) : Prop where
  rows : Evolves RowDraft market.settlements after.settlements
  routine : Routine market.wallet.ledger after.wallet.ledger

theorem Drafted.refl (market : Market) : Drafted market market := ⟨.refl _, .refl _ _⟩

theorem Drafted.trans {market middle after : Market} (early : Drafted market middle) (late : Drafted middle after) : Drafted market after :=
  ⟨early.rows.trans late.rows, early.routine.trans late.routine⟩

theorem Drafted.edited {market after : Market} (drafted : Drafted market after) : Edited market after :=
  ⟨drafted.rows.mono fun _ _ => .drafted, routine_quiet drafted.routine⟩

theorem drafted_by_record (env : WalletEnv) (params : RecordParams) (market after : Market) (ran : recordTx env params market = (.ok (), after))
    (ids : ∀ number, Tight (env.uuid number)) : Drafted market after := by
  cases ran_record env params market after ran with
  | idle _ => exact .refl _
  | recorded discount fee account platform first second third ledger number drawn settlements item entry wanted _ charges affordable pendingOpened
      platformOpened isItem appended credited finished =>
      push Not at wanted
      refine ⟨.appended appended (isItem ▸ born_of_record params discount fee _ _ _ wanted.2.2.2 charges affordable (ids number)), ?_⟩
      have opened : Unmoved market.wallet.ledger { second with drawn } :=
        ((ensured_account _ _ _ _ _ pendingOpened).unmoved.trans (ensured_account _ _ _ _ _ platformOpened).unmoved).trans (.drawn second drawn)
      have promised := (routine_unmoved opened).trans (routine_credit _ _ _ _ _ credited (fronted_trim _ _ (by decide) (by decide)))
      rcases finished with ⟨_, rfl⟩ | ⟨_, paid, payment⟩
      · exact promised
      · exact promised.trans (routine_credit _ _ _ _ _ payment (fronted_trim _ _ (by decide) (by decide)))

theorem drafted_by_recover (env : WalletEnv) (log : UsageLog) (market after : Market) (row : Settlement)
    (ran : recoverUsageTx env log market = (.ok row, after)) (ids : ∀ number, Tight (env.uuid number)) : Drafted market after := by
  cases ran_recover env log market after row ran with
  | found _ _ => exact .refl _
  | rebuilt frozen group recorded _ item _ _ _ _ _ _ record member _ dated =>
      refine (drafted_by_record env _ _ _ record ids).trans ?_
      unfold dateRecovered at dated
      split at dated
      · rename_i pending
        rw [Tx.ran_bind] at dated
        obtain ⟨_, middle, updated, answered⟩ := dated
        rw [Tx.ran_pure] at answered
        obtain ⟨_, rfl⟩ := answered
        obtain ⟨replaced, settlements, rfl⟩ := replaced_settlement recorded _ item _ _ member updated
        exact ⟨.replaced replaced (.dated item _ pending), .refl _ _⟩
      · rw [Tx.ran_pure] at dated
        exact dated.2 ▸ .refl _

theorem referral_key_assoc (financialSettlementID back : String) :
    referralKey financialSettlementID ++ back = "marketplace-referral:" ++ (financialSettlementID ++ back) := String.append_assoc

theorem drafted_by_debits (env : WalletEnv) (debits : List (String × Int)) (item charged : Settlement) (market after : Market)
    (ran : debitReferrals env item debits market = (.ok charged, after)) (member : item ∈ market.settlements.rows) :
    Drafted market after ∧ charged ∈ after.settlements.rows := by
  induction debits generalizing item market with
  | nil =>
      rw [debitReferrals, Tx.ran_pure] at ran
      obtain ⟨rfl, rfl⟩ := ran
      exact ⟨.refl _, member⟩
  | cons debit rest ih =>
      obtain ⟨financialSettlementID, amount⟩ := debit
      rw [debitReferrals, Tx.ran_bind] at ran
      obtain ⟨next, middle, first, later⟩ := ran
      have step : Drafted market middle ∧ next ∈ middle.settlements.rows := by
        cases ran_debit env item next financialSettlementID amount market middle first member with
        | idle => exact ⟨.refl _, member⟩
        | charged reservation settlement held ledger settlements positive pending covered _ created settled replaced =>
            refine ⟨⟨.replaced replaced (.charged item amount pending positive covered), ?_⟩, replaced.new_mem⟩
            refine routine_spend _ _ _ _ _ _ _ _ created settled ?_ ?_ ?_
            · rw [debitReserve, debitKey, referral_key_assoc]
              exact fronted_trim _ _ (by decide) (by decide)
            · rw [debitReserve, debitKey, referral_key_assoc]
              exact fronted_entry _ "entry:marketplace-referral:" _ rfl (by decide) (by decide)
            · rw [debitSettlement, referral_key_assoc]
              exact fronted_entry _ "entry:marketplace-referral:" _ rfl (by decide) (by decide)
      obtain ⟨tail, chargedIn⟩ := ih next middle later step.2
      exact ⟨step.1.trans tail, chargedIn⟩

theorem drafted_by_referral (env : WalletEnv) (params : RecordParams) (debits : List (String × Int)) (completes : Bool) (market after : Market)
    (ran : referralTx env params debits completes market = (.ok (), after)) (ids : ∀ number, Tight (env.uuid number)) : Drafted market after := by
  simp only [referralTx, lockCreditPackReferralTx, Tx.ran_bind, Tx.ran_reject] at ran
  obtain ⟨item, middle, ⟨_, _, ⟨_, rfl⟩, _, recorded, record, found, _, find, answered⟩, charged, final, debited, ran⟩ := ran
  obtain ⟨rfl, members⟩ := ran_find_by_request _ _ _ _ find
  cases found with
  | none => simp at answered
  | some row =>
      simp only [Tx.ran_bind, Tx.ran_reject, Tx.ran_pure] at answered
      obtain ⟨_, _, ⟨_, rfl⟩, _, _, ⟨_, rfl⟩, rfl, rfl⟩ := answered
      obtain ⟨chargedRows, chargedIn⟩ := drafted_by_debits env debits row charged _ _ debited (members row rfl)
      refine (drafted_by_record env params _ _ record ids).trans (chargedRows.trans ?_)
      split at ran
      · simp only [completeCreditPackReferralTx, Tx.ran_bind, Tx.ran_reject] at ran
        obtain ⟨_, _, ⟨pending, rfl⟩, updated⟩ := ran
        rw [Decidable.not_not] at pending
        obtain ⟨replaced, settlements, rfl⟩ := replaced_settlement final after charged _ _ chargedIn updated
        exact ⟨.replaced replaced (.completed charged pending), .refl _ _⟩
      · rw [Tx.ran_pure] at ran
        exact ran.2 ▸ .refl _

theorem reclaimable_of_selected {filter : ReleaseFilter} {item : Settlement} (selected : filter.Selects item) : 0 < item.reclaimable := by
  have left := selected.2.1
  unfold Settlement.reclaimable
  omega

theorem mem_reclaim_query (filter : ReleaseFilter) (market : Market) (item : Settlement) :
    item ∈ reclaimSettlementQuery filter market ↔ item ∈ market.settlements.rows ∧ filter.Selects item := by
  simp [reclaimSettlementQuery, List.mem_insertionSort]

theorem reclaim_query_distinct (filter : ReleaseFilter) (market : Market) :
    (reclaimSettlementQuery filter market).Pairwise fun first second => first.id ≠ second.id := by
  have filtered : (market.settlements.rows.filter fun item => filter.Selects item).Pairwise fun first second => first.id ≠ second.id := by
    refine (market.settlements.unique.imp ?_).filter _
    intro first second apart same
    exact apart (clash_of_settlement_id first second same)
  exact (List.perm_insertionSort Settlement.Before _).symm.pairwise filtered fun apart same => apart same.symm

-- A part of an allotment is a piece of what its settlement still has.
def Allotted (part : Settlement × Int) : Prop := 0 < part.2 ∧ part.2 ≤ part.1.reclaimable

theorem allot_none (items : List Settlement) : allot none items = items.map fun item => (item, item.reclaimable) := by
  induction items with
  | nil => rfl
  | cons item rest ih => simp [allot, ih]

theorem allot_spent (limit : Int) (items : List Settlement) (spent : limit ≤ 0) : allot (some limit) items = [] := by
  cases items with
  | nil => rfl
  | cons item rest =>
      have nothing : min item.reclaimable limit ≤ 0 := (Int.min_le_right _ _).trans spent
      simp only [allot, nothing, if_true]

theorem allot_items (limit : Option Int) (items : List Settlement) : ((allot limit items).map Prod.fst).Sublist items := by
  induction items generalizing limit with
  | nil => simp [allot]
  | cons item rest ih =>
      cases limit with
      | none => simpa [allot] using ih none
      | some remaining =>
          simp only [allot]
          split
          · simp
          · simpa using ih (some (remaining - min item.reclaimable remaining))

theorem allot_parts (limit : Option Int) (items : List Settlement) (left : ∀ item ∈ items, 0 < item.reclaimable) :
    ∀ part ∈ allot limit items, Allotted part := by
  induction items generalizing limit with
  | nil => simp [allot]
  | cons item rest ih =>
      have here := left item (by simp)
      have later := fun limit => ih limit fun row member => left row (by simp [member])
      cases limit with
      | none =>
          simp only [allot, List.mem_cons]
          rintro part (rfl | member)
          · exact ⟨here, Int.le_refl _⟩
          · exact later none part member
      | some remaining =>
          simp only [allot]
          split
          · simp
          · rename_i positive
            simp only [List.mem_cons]
            rintro part (rfl | member)
            · exact ⟨Int.not_le.mp positive, Int.min_le_left _ _⟩
            · exact later _ part member

theorem allotted_total_nonneg {allotted : List (Settlement × Int)} (parts : ∀ part ∈ allotted, Allotted part) : 0 ≤ allottedTotal allotted :=
  List.sum_nonneg (List.forall_mem_map.mpr fun part member => Int.le_of_lt (parts part member).1)

-- A row after none or some of its earnings were reclaimed.
structure Reduced (row old : Settlement) : Prop where
  named : row.id = old.id
  owner : row.ownerUserID = old.ownerUserID
  created : row.createdAt = old.createdAt
  released : row.status = .released → old.status = .released
  less : row.reclaimable ≤ old.reclaimable

theorem Reduced.refl (row : Settlement) : Reduced row row := ⟨rfl, rfl, rfl, fun released => released, Int.le_refl _⟩

theorem Reduced.trans {row middle old : Settlement} (late : Reduced row middle) (early : Reduced middle old) : Reduced row old :=
  ⟨late.named.trans early.named, late.owner.trans early.owner, late.created.trans early.created,
    fun released => early.released (late.released released), Int.le_trans late.less early.less⟩

theorem reduced_row (item : Settlement) (amount : Int) (released : item.status = .released) (positive : 0 < amount) :
    Reduced (reclaimRow amount item) item := by
  refine ⟨rfl, rfl, rfl, fun _ => released, ?_⟩
  simp only [reclaimRow, Settlement.reclaimable]
  omega

-- The rows after an allotment was taken from them, and what that does to any total over the rows.
structure RowsReclaimed (market : Market) (allotted : List (Settlement × Int)) (after : Market) : Prop where
  frame : ∃ settlements, after = { market with settlements }
  rows : Evolves RowEdit market.settlements after.settlements
  parts : ∀ part ∈ allotted, Allotted part
  source : ∀ row ∈ after.settlements.rows, ∃ old ∈ market.settlements.rows, Reduced row old
  origin : ∀ part ∈ allotted, part.1.status = .released ∧ ∃ old ∈ market.settlements.rows, Reduced part.1 old
  totals : ∀ weight : Settlement → Int, after.settlements.total weight =
    market.settlements.total weight + (allotted.map fun part => weight (reclaimRow part.2 part.1) - weight part.1).sum

theorem RowsReclaimed.refl (market : Market) : RowsReclaimed market [] market :=
  ⟨⟨_, rfl⟩, .refl _, by simp, fun row member => ⟨row, member, .refl row⟩, by simp, by simp⟩

theorem RowsReclaimed.trans {market middle after : Market} {early late : List (Settlement × Int)} (first : RowsReclaimed market early middle)
    (second : RowsReclaimed middle late after) : RowsReclaimed market (early ++ late) after := by
  have older : ∀ row, (∃ between ∈ middle.settlements.rows, Reduced row between) → ∃ old ∈ market.settlements.rows, Reduced row old := by
    rintro row ⟨between, betweenIn, reduced⟩
    obtain ⟨old, oldIn, before⟩ := first.source between betweenIn
    exact ⟨old, oldIn, reduced.trans before⟩
  refine ⟨?_, first.rows.trans second.rows, fun part member => ?_, fun row member => older row (second.source row member), fun part member => ?_,
    fun weight => ?_⟩
  · obtain ⟨_, rfl⟩ := first.frame
    obtain ⟨_, rfl⟩ := second.frame
    exact ⟨_, rfl⟩
  · rw [List.mem_append] at member
    exact member.elim (first.parts part) (second.parts part)
  · rw [List.mem_append] at member
    rcases member with earlyIn | lateIn
    · exact first.origin part earlyIn
    · obtain ⟨released, between⟩ := second.origin part lateIn
      exact ⟨released, older part.1 between⟩
  · rw [second.totals, first.totals, List.map_append, List.sum_append, Int.add_assoc]

theorem row_reclaimed {market : Market} {settlements : Table Settlement} {item : Settlement} {amount : Int}
    (replaced : Table.Replaced market.settlements settlements item (reclaimRow amount item)) (released : item.status = .released)
    (piece : Allotted (item, amount)) : RowsReclaimed market [(item, amount)] { market with settlements } := by
  refine ⟨⟨_, rfl⟩, .replaced replaced (.reclaimed item amount released piece.1 piece.2), by simpa using piece, fun row member => ?_, ?_,
    fun weight => ?_⟩
  · rcases replaced.mem row member with rfl | ⟨old, _⟩
    · exact ⟨item, replaced.old_mem, reduced_row item amount released piece.1⟩
    · exact ⟨row, old, .refl row⟩
  · intro part member
    rw [List.mem_singleton] at member
    subst member
    exact ⟨released, item, replaced.old_mem, .refl item⟩
  · simp only [List.map_cons, List.map_nil, List.sum_cons, List.sum_nil]
    rw [replaced.total]
    omega

theorem ran_reclaim_rows (allotted : List (Settlement × Int)) (market after : Market) (ran : reclaimRows allotted market = (.ok (), after))
    (members : ∀ part ∈ allotted, part.1 ∈ market.settlements.rows ∧ part.1.status = .released) (parts : ∀ part ∈ allotted, Allotted part)
    (distinct : (allotted.map Prod.fst).Pairwise fun first second => first.id ≠ second.id) : RowsReclaimed market allotted after := by
  induction allotted generalizing market with
  | nil =>
      rw [reclaimRows, Tx.ran_pure] at ran
      exact ran.2 ▸ .refl _
  | cons part rest ih =>
      obtain ⟨item, amount⟩ := part
      rw [reclaimRows, Tx.ran_bind] at ran
      obtain ⟨_, middle, updated, later⟩ := ran
      obtain ⟨itemIn, released⟩ := members (item, amount) (by simp)
      obtain ⟨replaced, settlements, rfl⟩ := replaced_settlement market middle item _ _ itemIn updated
      have first := row_reclaimed replaced released (parts (item, amount) (by simp))
      rw [List.map_cons, List.pairwise_cons] at distinct
      refine first.trans (ih _ later (fun other otherIn => ?_) (fun other otherIn => parts other (by simp [otherIn])) distinct.2)
      obtain ⟨old, otherReleased⟩ := members other (by simp [otherIn])
      rcases replaced.kept other.1 old with same | kept
      · exact (distinct.1 other.1 (List.mem_map_of_mem otherIn) (congrArg Settlement.id same.symm)).elim
      · exact ⟨kept, otherReleased⟩

-- Any allotment over a part of the query's answer.
theorem reclaimed_from_query (filter : ReleaseFilter) (limit : Option Int) (items : List Settlement) (market after : Market)
    (ran : reclaimRows (allot limit items) market = (.ok (), after)) (chosen : items.Sublist (reclaimSettlementQuery filter market)) :
    RowsReclaimed market (allot limit items) after ∧ ∀ part ∈ allot limit items, filter.Selects part.1 := by
  have selected : ∀ item ∈ items, item ∈ market.settlements.rows ∧ filter.Selects item := fun item member =>
    (mem_reclaim_query filter market item).mp (chosen.subset member)
  have listed : ∀ part ∈ allot limit items, part.1 ∈ items := fun part member =>
    (allot_items limit items).subset (List.mem_map_of_mem member)
  refine ⟨ran_reclaim_rows _ market after ran (fun part member => ?_) (allot_parts limit items fun item member => ?_) ?_,
    fun part member => (selected part.1 (listed part member)).2⟩
  · obtain ⟨partIn, released, _⟩ := selected part.1 (listed part member)
    exact ⟨partIn, released⟩
  · exact reclaimable_of_selected (selected item member).2
  · exact ((reclaim_query_distinct filter market).sublist chosen).sublist (allot_items limit items)

theorem window_amounts_eq (remaining preceding : Int) (items : List Settlement) (left : ∀ item ∈ items, 0 < item.reclaimable) :
    (windowAmounts remaining preceding items).filter (fun part => part.2 > 0) = allot (some (remaining - preceding)) items := by
  induction items generalizing preceding with
  | nil => rfl
  | cons item rest ih =>
      have here := left item (by simp)
      have later := ih (preceding + item.reclaimable) fun other member => left other (by simp [member])
      simp only [windowAmounts, allot]
      by_cases reached : remaining - preceding ≤ 0
      · have nothing : ¬ min item.reclaimable (max (remaining - preceding) 0) > 0 := by omega
        rw [List.filter_cons_of_neg (by simpa using nothing), later, if_pos (by omega)]
        exact allot_spent _ _ (by omega)
      · have something : min item.reclaimable (max (remaining - preceding) 0) > 0 := by omega
        rw [List.filter_cons_of_pos (by simpa using something), later, if_neg (by omega)]
        have same : max (remaining - preceding) 0 = remaining - preceding := by omega
        rw [same]
        by_cases whole : item.reclaimable ≤ remaining - preceding
        · rw [min_eq_left whole, Int.sub_sub]
        · rw [allot_spent _ rest (by omega), allot_spent _ rest (by omega)]

-- The statement for a page gives what the loop over its rows gives.
theorem page_amounts_eq (remaining : Int) (locked : List Settlement) (left : ∀ item ∈ locked, 0 < item.reclaimable) :
    pageAmounts remaining locked = allot (allotmentLimit remaining) locked := by
  unfold pageAmounts allotmentLimit
  by_cases limited : remaining > 0
  · simp only [limited, if_true]
    rw [window_amounts_eq remaining 0 locked left, Int.sub_zero]
  · simp only [limited, if_false]
    rw [allot_none]
    refine List.filter_eq_self.mpr fun part member => ?_
    obtain ⟨item, itemIn, rfl⟩ := List.mem_map.mp member
    exact decide_eq_true (left item itemIn)

theorem reclaimed_by_batch (filter : ReleaseFilter) (remaining : Int) (cursor : Option Settlement) (market after : Market) (batch : ReclaimBatch)
    (ran : reclaimPostgresTx filter remaining cursor market = (.ok batch, after)) :
    RowsReclaimed market batch.allotted after ∧ ∀ part ∈ batch.allotted, filter.Selects part.1 := by
  simp only [reclaimPostgresTx, Tx.ran_bind, Tx.ran_view, Tx.ran_pure] at ran
  obtain ⟨_, _, ⟨rfl, rfl⟩, _, middle, rows, rfl, rfl⟩ := ran
  have page := (List.take_sublist reclaimBatchSize ((reclaimSettlementQuery filter market).filter fun item =>
    cursor.all fun last => ¬ item.Before last)).trans List.filter_sublist
  rw [page_amounts_eq remaining _ fun item member => reclaimable_of_selected ((mem_reclaim_query _ _ _).mp (page.subset member)).2] at rows ⊢
  exact reclaimed_from_query filter _ _ market middle rows page

theorem reclaimed_by_rounds (filter : ReleaseFilter) (reclaimAll : Bool) (remaining : Int) (rounds : Nat) (market after : Market)
    (allotted gathered : List (Settlement × Int)) (cursor : Option Settlement)
    (ran : reclaimRounds filter reclaimAll remaining rounds allotted cursor market = (.ok gathered, after)) :
    ∃ added, gathered = allotted ++ added ∧ RowsReclaimed market added after ∧ ∀ part ∈ added, filter.Selects part.1 := by
  induction rounds generalizing market allotted cursor with
  | zero =>
      rw [reclaimRounds, Tx.ran_pure] at ran
      obtain ⟨rfl, rfl⟩ := ran
      exact ⟨[], by simp, .refl _, by simp⟩
  | succ rounds ih =>
      rw [reclaimRounds, Tx.ran_bind] at ran
      obtain ⟨batch, middle, batched, ran⟩ := ran
      obtain ⟨reclaimed, selected⟩ := reclaimed_by_batch filter _ _ market middle batch batched
      split at ran
      · rw [Tx.ran_pure] at ran
        obtain ⟨rfl, rfl⟩ := ran
        exact ⟨_, rfl, reclaimed, selected⟩
      · obtain ⟨added, rfl, later, laterSelected⟩ := ih middle _ _ ran
        refine ⟨batch.allotted ++ added, List.append_assoc _ _ _, reclaimed.trans later, fun part member => ?_⟩
        rw [List.mem_append] at member
        exact member.elim (selected part) (laterSelected part)

theorem reclaimed_by_task (env : WalletEnv) (task : IncomeReclaim) (reclaimAll : Bool) (market after : Market)
    (allotted : List (Settlement × Int)) (ran : reclaimAllotted env task reclaimAll market = (.ok allotted, after)) :
    RowsReclaimed market allotted after ∧ ∀ part ∈ allotted, task.filter.Selects part.1 := by
  unfold reclaimAllotted at ran
  split at ran
  · simp only [Tx.ran_bind, Tx.ran_view, Tx.ran_reject, Tx.ran_pure] at ran
    obtain ⟨_, _, ⟨rfl, rfl⟩, gathered, _, rounds, _, _, ⟨_, rfl⟩, rfl, rfl⟩ := ran
    obtain ⟨added, rfl, reclaimed⟩ := reclaimed_by_rounds _ _ _ _ _ _ _ _ _ rounds
    exact reclaimed
  · simp only [Tx.ran_bind, Tx.ran_view, Tx.ran_pure] at ran
    obtain ⟨_, _, ⟨rfl, rfl⟩, _, middle, rows, rfl, rfl⟩ := ran
    exact reclaimed_from_query task.filter _ _ market middle rows (List.take_sublist _ _)

end CodeGo.Marketplace
