import CodeGo.Marketplace.Tasks

set_option autoImplicit false

namespace CodeGo.Marketplace

open Relational Text Billing

theorem reclaim_key_front (taskID stage : String) (owner : Int) : ∃ rest, reclaimKey taskID stage owner = "marketplace-reclaim:" ++ rest :=
  ⟨_, String.append_assoc.trans (String.append_assoc.trans (String.append_assoc.trans String.append_assoc))⟩

theorem quiet_wallet_debit {env : WalletEnv} {wallet after : Wallet} {userID amount : Int} {operationID : String} {account : BillingAccount}
    {mirror held spent : Ledger} {reservation : BillingReservation} {settlement : BillingSettlement}
    (debited : WalletDebited env wallet userID amount operationID account mirror held spent reservation settlement after) :
    Quiet wallet.ledger after.ledger := by
  refine quiet_of_moves debited.moves fun op opIn key keyed settlementID => ?_
  simp only [List.mem_cons, List.not_mem_nil, or_false] at opIn
  rcases opIn with rfl | rfl | rfl | rfl | rfl
  · simp [LedgerOp.entryKeys] at keyed
  · exact mirror_not_credit_key _ _ _ key settlementID keyed
  · rw [LedgerOp.entryKeys, List.mem_singleton] at keyed
    exact keyed ▸ not_credit_key (by decide) (by decide) _ settlementID
  · rw [LedgerOp.entryKeys, List.mem_singleton] at keyed
    exact keyed ▸ not_credit_key (by decide) (by decide) _ settlementID
  · simp [LedgerOp.entryKeys] at keyed

-- A wallet credit is quiet unless its own key belongs to a settlement.
theorem quiet_wallet_credit {wallet after : Wallet} {credit : WalletCredit} {account : BillingAccount}
    (credited : WalletCredited wallet credit account after)
    (foreign : ∀ settlementID, ¬ CreditKey (trimSpace credit.idempotencyKey) settlementID) : Quiet wallet.ledger after.ledger := by
  refine quiet_of_moves credited.moves fun op opIn key keyed settlementID => ?_
  simp only [List.mem_cons, List.not_mem_nil, or_false] at opIn
  rcases opIn with rfl | rfl | rfl | rfl
  · simp [LedgerOp.entryKeys] at keyed
  · exact mirror_not_credit_key _ _ _ key settlementID keyed
  · rw [LedgerOp.entryKeys, List.mem_singleton] at keyed
    exact keyed ▸ foreign settlementID
  · simp [LedgerOp.entryKeys] at keyed

theorem quiet_reclaim (env : WalletEnv) (owner amount : Int) (taskID stage : String) (wallet after : Wallet)
    (ran : reclaimMarketplaceOwnerEarningsTx env owner 1 amount (reclaimKey taskID stage owner) wallet = (.ok (), after)) :
    Quiet wallet.ledger after.ledger := by
  rw [reclaimMarketplaceOwnerEarningsTx, Tx.ran_bind] at ran
  obtain ⟨_, middle, debit, credit⟩ := ran
  obtain ⟨account, mirror, held, spent, reservation, settlement, debited⟩ := wallet_debited env _ _ _ _ _ _ debit
  obtain ⟨_, admin, credited⟩ := marketplace_credited env _ _ _ _ _ _ credit
  refine (quiet_wallet_debit debited).trans (quiet_wallet_credit credited fun settlementID => ?_)
  obtain ⟨rest, key⟩ := reclaim_key_front taskID stage owner
  have joined : reclaimKey taskID stage owner ++ ":credit" = "marketplace-reclaim:" ++ (rest ++ ":credit") := by
    rw [key]
    exact String.append_assoc
  exact joined ▸ trimmed_not_credit_key (by decide) (by decide) (by decide) _ settlementID

theorem quiet_debit_owners (env : WalletEnv) (taskID stage : String) (amounts : List (Int × Int)) (wallet after : Wallet)
    (ran : debitOwners env taskID stage amounts wallet = (.ok (), after)) : Quiet wallet.ledger after.ledger := by
  induction amounts generalizing wallet with
  | nil =>
      rw [debitOwners, Tx.ran_pure] at ran
      exact ran.2 ▸ .refl _
  | cons part rest ih =>
      rw [debitOwners, Tx.ran_bind] at ran
      obtain ⟨_, middle, first, later⟩ := ran
      exact (quiet_reclaim env _ _ _ _ _ _ first).trans (ih middle later)

theorem routine_balances (env : WalletEnv) (owners : List Int) (wallet after : Wallet) (balances : List (Int × Int))
    (ran : lockMarketplaceReclaimBalancesTx env owners wallet = (.ok balances, after)) : Routine wallet.ledger after.ledger := by
  induction owners generalizing wallet balances with
  | nil =>
      rw [lockMarketplaceReclaimBalancesTx, Tx.ran_pure] at ran
      exact ran.2 ▸ .refl _ _
  | cons owner rest ih =>
      simp only [lockMarketplaceReclaimBalancesTx, Tx.ran_bind, ran_on_ledger, Tx.ran_pure] at ran
      obtain ⟨legacy, _, read, account, _, ⟨mirror, ensured, rfl⟩, snapshot, _, ⟨_, loaded, rfl⟩, others, _, later, _, rfl⟩ := ran
      obtain ⟨rfl, rfl⟩ := ran_get_quota _ _ _ _ read
      obtain ⟨_, rfl⟩ := ran_load_snapshot _ _ _ _ loaded
      exact (routine_mirror (mirrored_of_ensure _ _ _ _ _ _ ensured)).trans (ih _ _ later)

theorem RowsReclaimed.edited {market after : Market} {allotted : List (Settlement × Int)} (reclaimed : RowsReclaimed market allotted after) :
    Edited market after := by
  refine ⟨reclaimed.rows, ?_⟩
  obtain ⟨_, rfl⟩ := reclaimed.frame
  exact .refl _

theorem Edited.paid {market middle : Market} {wallet : Wallet} (edited : Edited market middle) (quiet : Quiet middle.wallet.ledger wallet.ledger) :
    Edited market { middle with wallet } :=
  ⟨edited.rows, edited.quiet.trans quiet⟩

theorem edited_by_process (env : WalletEnv) (operationID : String) (treasury : Treasury) :
    Edited treasury.market (processIncomeReclaimTask env operationID treasury).market := by
  unfold processIncomeReclaimTask
  split
  · rename_i _ after ran
    cases ran_process env operationID treasury after ran with
    | idle => exact .refl _
    | refused => exact .refl _
    | batch task _ _ _ _ batch =>
        cases batch with
        | drained market reclaims reclaimed _ => exact reclaimed.edited
        | debited allotted market wallet reclaims next reclaimed _ paid _ _ =>
            exact reclaimed.edited.paid (quiet_debit_owners env _ _ _ _ _ paid)
  · exact .refl _

theorem edited_by_direct (env : WalletEnv) (operationID : String) (treasury : Treasury) :
    Edited treasury.market (processDirectIncomeReclaimTask env operationID treasury).market := by
  unfold processDirectIncomeReclaimTask
  split
  · rename_i _ after ran
    cases ran_direct env operationID treasury after ran with
    | idle => exact .refl _
    | charged task balances locked wallet amounts total reclaims next _ _ _ read _ paid _ _ =>
        exact (Edited.refl _).paid ((routine_quiet (routine_balances env _ _ _ _ read)).trans (quiet_debit_owners env _ _ _ _ _ paid))
    | drained => exact .refl _
    | audited task owner remaining allotted market reclaims next _ _ _ reclaimed _ _ _ _ _ => exact reclaimed.edited
  · exact .refl _

theorem edited_by_create (env : WalletEnv) (filter : ReleaseFilter) (treasury : Treasury) :
    Edited treasury.market (Tx.atomic (createIncomeReclaimTask env filter) treasury).2.market := by
  rcases Tx.atomic_store (createIncomeReclaimTask env filter) treasury with ⟨task, committed⟩ | ⟨_, rolledBack⟩
  · obtain ⟨operationID, market, drafted, _, created⟩ := ran_create_reclaim env filter treasury _ task committed
    generalize (Tx.atomic (createIncomeReclaimTask env filter) treasury).2 = after at created
    cases created with
    | kept => exact drafted.edited
    | resumed => exact drafted.edited
    | inserted => exact drafted.edited
  · rw [rolledBack]
    exact .refl _

-- What holds of every settlement row, whatever was done to it.
structure RowSound (item : Settlement) : Prop where
  named : Tight item.id
  conserved : item.settlementGrossAmount = item.platformCommission + item.transactionFee + item.referralRebateAmount + item.ownerNetAmount
  commission : 0 ≤ item.platformCommission
  fee : 0 ≤ item.transactionFee
  rebate : 0 ≤ item.referralRebateAmount
  net : 0 ≤ item.ownerNetAmount
  reclaimed : 0 ≤ item.reclaimedAmount
  covered : item.reclaimedAmount ≤ item.ownerNetAmount
  untouched : item.status = .pending ∨ item.status = .forfeited → item.reclaimedAmount = 0
  full : item.status = .reclaimed ↔ item.reclaimedAmount = item.ownerNetAmount ∧ 0 < item.ownerNetAmount
  allocated : item.status ≠ .pending → item.referralRebatePending = false

theorem RowBorn.sound {item : Settlement} (born : RowBorn item) : RowSound item := by
  have rebate := born.rebate
  have untouched := born.untouched
  have net := born.net
  refine ⟨born.named, born.conserved, born.commission, born.fee, by omega, net, by omega, by omega, fun _ => untouched, ?_,
    fun closed => (closed born.pending).elim⟩
  simp only [born.pending, reduceCtorEq, false_iff]
  omega

theorem RowSound.draft {item next : Settlement} (sound : RowSound item) (draft : RowDraft item next) : RowSound next := by
  have conserved := sound.conserved
  have rebate := sound.rebate
  have covered := sound.covered
  cases draft with
  | charged amount pending positive within =>
      have untouched := sound.untouched (.inl pending)
      refine ⟨sound.named, ?_, sound.commission, sound.fee, ?_, ?_, sound.reclaimed, ?_, fun _ => untouched, ?_, fun closed => (closed pending).elim⟩
      · simp only [chargeReferral]
        omega
      · simp only [chargeReferral]
        omega
      · simp only [chargeReferral]
        omega
      · simp only [chargeReferral]
        omega
      · simp only [chargeReferral, pending, reduceCtorEq, false_iff]
        omega
  | completed pending =>
      exact ⟨sound.named, conserved, sound.commission, sound.fee, rebate, sound.net, sound.reclaimed, covered, sound.untouched, sound.full,
        fun closed => (closed pending).elim⟩
  | dated createdAt pending =>
      exact ⟨sound.named, conserved, sound.commission, sound.fee, rebate, sound.net, sound.reclaimed, covered, sound.untouched, sound.full,
        fun closed => (closed pending).elim⟩

theorem RowSound.edit {item next : Settlement} (sound : RowSound item) (edit : RowEdit item next) : RowSound next := by
  cases edit with
  | drafted draft => exact sound.draft draft
  | reclaimed amount released positive within =>
      have before := sound.reclaimed
      simp only [Settlement.reclaimable] at within
      refine ⟨sound.named, sound.conserved, sound.commission, sound.fee, sound.rebate, sound.net, ?_, ?_, ?_, ?_,
        fun _ => sound.allocated (by simp [released])⟩
      · simp only [reclaimRow]
        omega
      · simp only [reclaimRow]
        omega
      · simp only [reclaimRow, released]
        split <;> simp
      · simp only [reclaimRow, released]
        split
        · simp only [true_iff]
          omega
        · simp only [reduceCtorEq, false_iff]
          omega

theorem RowSound.close {item next : Settlement} (sound : RowSound item) (close : RowClose item next) : RowSound next := by
  have untouched : item.status = .pending → item.reclaimedAmount = 0 := fun pending => sound.untouched (.inl pending)
  cases close with
  | released pending allocated =>
      have nothing := untouched pending
      refine ⟨sound.named, sound.conserved, sound.commission, sound.fee, sound.rebate, sound.net, sound.reclaimed, sound.covered, fun _ => nothing, ?_,
        fun _ => allocated⟩
      simp only [reduceCtorEq, false_iff]
      omega
  | forfeited pending allocated =>
      have nothing := untouched pending
      refine ⟨sound.named, sound.conserved, sound.commission, sound.fee, sound.rebate, sound.net, sound.reclaimed, sound.covered, fun _ => nothing, ?_,
        fun _ => allocated⟩
      simp only [reduceCtorEq, false_iff]
      omega

theorem RowSound.path {item next : Settlement} (sound : RowSound item) (path : Relation.ReflTransGen RowMove item next) : RowSound next := by
  induction path with
  | refl => exact sound
  | tail _ move ih => exact move.elim ih.edit ih.close

theorem Evolves.sound {settlements next : Table Settlement} (evolves : Evolves RowMove settlements next)
    (sound : ∀ item ∈ settlements.rows, RowSound item) : ∀ item ∈ next.rows, RowSound item := by
  intro item member
  rcases evolves.origin item member with ⟨old, oldIn, path⟩ | ⟨born, facts, path⟩
  · exact (sound old oldIn).path path
  · exact facts.sound.path path

-- The only ways a status may change.
inductive StatusStep : SettlementStatus → SettlementStatus → Prop where
  | release : StatusStep .pending .released
  | forfeit : StatusStep .pending .forfeited
  | reclaim : StatusStep .released .reclaimed

theorem RowDraft.status {item next : Settlement} (draft : RowDraft item next) : next.status = item.status := by
  cases draft <;> rfl

theorem RowMove.status {item next : Settlement} (move : RowMove item next) : next.status = item.status ∨ StatusStep item.status next.status := by
  rcases move with edit | close
  · cases edit with
    | drafted draft => exact .inl draft.status
    | reclaimed amount released _ _ =>
        simp only [reclaimRow, released]
        split
        · exact .inr .reclaim
        · exact .inl rfl
  · cases close with
    | released pending _ => exact .inr (by simpa [pending] using StatusStep.release)
    | forfeited pending _ => exact .inr (by simpa [pending] using StatusStep.forfeit)

-- The columns that name a settlement never change.
structure SameIncome (item next : Settlement) : Prop where
  id : next.id = item.id
  request : next.requestID = item.requestID
  owner : next.ownerUserID = item.ownerUserID
  gross : next.settlementGrossAmount = item.settlementGrossAmount

theorem RowDraft.same {item next : Settlement} (draft : RowDraft item next) : SameIncome item next := by
  cases draft <;> exact ⟨rfl, rfl, rfl, rfl⟩

theorem RowMove.same {item next : Settlement} (move : RowMove item next) : SameIncome item next := by
  rcases move with edit | close
  · cases edit with
    | drafted draft => exact draft.same
    | reclaimed => exact ⟨rfl, rfl, rfl, rfl⟩
  · cases close <;> exact ⟨rfl, rfl, rfl, rfl⟩

theorem path_follows {item next : Settlement} (path : Relation.ReflTransGen RowMove item next) :
    SameIncome item next ∧ Relation.ReflTransGen StatusStep item.status next.status := by
  induction path with
  | refl => exact ⟨⟨rfl, rfl, rfl, rfl⟩, .refl⟩
  | tail _ move ih =>
      have same := move.same
      refine ⟨⟨same.id.trans ih.1.id, same.request.trans ih.1.request, same.owner.trans ih.1.owner, same.gross.trans ih.1.gross⟩, ?_⟩
      rcases move.status with kept | step
      · rw [kept]
        exact ih.2
      · exact ih.2.tail step

end CodeGo.Marketplace
