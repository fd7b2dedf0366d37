import CodeGo.Marketplace.Earnings
import CodeGo.Lib.Numeral

set_option autoImplicit false

namespace CodeGo.Marketplace

open Relational Text Billing

/- What reclaim tasks have taken from an owner's wallet, read from the ledger. A debit holds its
   amount and settles all of it, so the entry of the hold is the one line it leaves. -/

def reclaimHoldFront : String := "ledger-reservation:marketplace-reclaim:"

def reclaimEntryFront : String := "entry:ledger-reservation:marketplace-reclaim:"

def StartsWith (front text : String) : Prop := front.toList <+: text.toList

instance (front text : String) : Decidable (StartsWith front text) := inferInstanceAs (Decidable (_ <+: _))

def TakenBack (ledger : Ledger) (owner : Int) (entry : BillingLedgerEntry) : Prop :=
  entry.entryType = .reserveHold ∧ StartsWith reclaimEntryFront entry.idempotencyKey ∧ InWalletOf ledger owner entry

instance (ledger : Ledger) (owner : Int) (entry : BillingLedgerEntry) : Decidable (TakenBack ledger owner entry) :=
  inferInstanceAs (Decidable (_ ∧ _))

def debitedByReclaims (ledger : Ledger) (owner : Int) : Int :=
  ledger.entries.total fun entry => if TakenBack ledger owner entry then entry.amount else 0

theorem starts_with_append (front rest : String) : StartsWith front (front ++ rest) := by
  rw [StartsWith, String.toList_append]
  exact List.prefix_append _ _

theorem StartsWith.split {front text : String} (starts : StartsWith front text) : ∃ rest, text = front ++ rest := by
  obtain ⟨rest, joined⟩ := starts
  refine ⟨String.ofList rest, String.toList_inj.mp ?_⟩
  rw [String.toList_append, String.toList_ofList, joined]

theorem Fronted.not_starts {fronts : List String} {key front : String} (fronted : Fronted fronts key) (apart : ∀ other ∈ fronts, Apart other front) :
    ¬ StartsWith front key := by
  intro starts
  obtain ⟨rest, same⟩ := starts.split
  exact fronted.ne apart rest same

def reclaimHoldKey (taskID stage : String) (owner : Int) : String := "ledger-reservation:" ++ (reclaimKey taskID stage owner ++ ":debit")

theorem tight_reclaim_hold (taskID stage : String) (owner : Int) : Tight (reclaimHoldKey taskID stage owner) :=
  tight_append _ _ (by decide) (solid_last_append _ _ (by decide))

theorem append_inner (first second third fourth : String) :
    first ++ (second ++ third ++ fourth) = first ++ second ++ (third ++ fourth) := by
  simp only [String.append_assoc]

theorem reclaim_hold_front (taskID stage : String) (owner : Int) :
    ∃ rest, reclaimHoldKey taskID stage owner = reclaimHoldFront ++ rest ∧ "entry:" ++ reclaimHoldKey taskID stage owner = reclaimEntryFront ++ rest := by
  obtain ⟨rest, key⟩ := reclaim_key_front taskID stage owner
  have joined : "ledger-reservation:" ++ "marketplace-reclaim:" = reclaimHoldFront := rfl
  have entryJoined : "entry:" ++ reclaimHoldFront = reclaimEntryFront := rfl
  -- The keys are joined by terms: rewriting would try to evaluate the literals.
  have hold : reclaimHoldKey taskID stage owner = reclaimHoldFront ++ (rest ++ ":debit") :=
    (congrArg (fun text => "ledger-reservation:" ++ (text ++ ":debit")) key).trans
      ((append_inner _ _ _ _).trans (congrArg (fun front => front ++ (rest ++ ":debit")) joined))
  exact ⟨rest ++ ":debit", hold, (congrArg (fun text => "entry:" ++ text) hold).trans
    (String.append_assoc.symm.trans (congrArg (fun front => front ++ (rest ++ ":debit")) entryJoined))⟩

theorem colon_shape (front taskID colon stage word number : String) :
    front ++ taskID ++ colon ++ stage ++ (word ++ colon) ++ number = (front ++ (taskID ++ colon ++ stage) ++ word) ++ colon ++ number := by
  simp only [String.append_assoc]

theorem reclaim_key_shape (taskID stage : String) (owner : Int) :
    reclaimKey taskID stage owner = ("marketplace-reclaim:" ++ (taskID ++ ":" ++ stage) ++ ":owner") ++ ":" ++ toString owner := by
  have tail : ":owner:" = ":owner" ++ ":" := rfl
  exact (congrArg (fun back => "marketplace-reclaim:" ++ taskID ++ ":" ++ stage ++ back ++ toString owner) tail).trans (colon_shape _ _ _ _ _ _)

-- The owner is read off the end of a key, then what stands in front of it.
theorem reclaim_hold_split (firstTask secondTask firstStage secondStage : String) (firstOwner secondOwner : Int)
    (same : reclaimHoldKey firstTask firstStage firstOwner = reclaimHoldKey secondTask secondStage secondOwner) :
    firstOwner = secondOwner ∧ firstTask ++ ":" ++ firstStage = secondTask ++ ":" ++ secondStage := by
  have keys := append_right_injective _ _ _ (append_left_injective _ _ _ same)
  rw [reclaim_key_shape, reclaim_key_shape] at keys
  obtain ⟨fronts, owners⟩ := last_colon_unique _ _ _ _ (plain_int _) (plain_int _) keys
  exact ⟨int_text_injective _ _ owners, append_left_injective _ _ _ (append_right_injective _ _ _ fronts)⟩

theorem batch_stage_shape (taskID : String) (batchNumber : Nat) :
    taskID ++ ":" ++ batchStage batchNumber = (taskID ++ ":batch") ++ ":" ++ toString batchNumber := by
  have front : "batch:" = "batch" ++ ":" := rfl
  have middle : ":batch" = ":" ++ "batch" := rfl
  have shape : ∀ task colon word number : String, task ++ colon ++ (word ++ colon ++ number) = (task ++ (colon ++ word)) ++ colon ++ number := by
    intro task colon word number
    simp only [String.append_assoc]
  rw [batchStage, front, middle]
  exact shape _ _ _ _

theorem batch_hold_injective (firstTask secondTask : String) (firstBatch secondBatch : Nat) (firstOwner secondOwner : Int)
    (same : reclaimHoldKey firstTask (batchStage firstBatch) firstOwner = reclaimHoldKey secondTask (batchStage secondBatch) secondOwner) :
    firstTask = secondTask ∧ firstBatch = secondBatch ∧ firstOwner = secondOwner := by
  obtain ⟨owners, stages⟩ := reclaim_hold_split _ _ _ _ _ _ same
  rw [batch_stage_shape, batch_stage_shape] at stages
  obtain ⟨tasks, batches⟩ := last_colon_unique _ _ _ _ (plain_nat _) (plain_nat _) stages
  exact ⟨append_right_injective _ _ _ tasks, nat_text_injective _ _ batches, owners⟩

theorem direct_hold_injective (firstTask secondTask : String) (firstOwner secondOwner : Int)
    (same : reclaimHoldKey firstTask "direct" firstOwner = reclaimHoldKey secondTask "direct" secondOwner) :
    firstTask = secondTask ∧ firstOwner = secondOwner := by
  obtain ⟨owners, stages⟩ := reclaim_hold_split _ _ _ _ _ _ same
  exact ⟨append_right_injective _ _ _ (append_right_injective _ _ _ stages), owners⟩

theorem direct_hold_ne_batch (firstTask secondTask : String) (batch : Nat) (firstOwner secondOwner : Int) :
    reclaimHoldKey firstTask "direct" firstOwner ≠ reclaimHoldKey secondTask (batchStage batch) secondOwner := by
  intro same
  obtain ⟨_, stages⟩ := reclaim_hold_split _ _ _ _ _ _ same
  rw [batch_stage_shape] at stages
  obtain ⟨_, word⟩ := last_colon_unique _ _ _ _ (by decide) (plain_nat _) stages
  exact nat_text_ne batch "direct" 'd' (by decide) (by decide) word.symm

-- Every line of a reclaim stands on an account that exists.
def Housed (ledger : Ledger) : Prop :=
  ∀ entry ∈ ledger.entries.rows, StartsWith reclaimEntryFront entry.idempotencyKey → ∃ account ∈ ledger.accounts.rows, account.accountID = entry.accountID

-- A change of the ledger in which no task takes anything back.
structure Calm (ledger after : Ledger) : Prop where
  accounts : ∀ account ∈ ledger.accounts.rows, account ∈ after.accounts.rows
  entries : ∀ entry ∈ ledger.entries.rows, entry ∈ after.entries.rows
  fresh : ∀ entry ∈ after.entries.rows, entry ∈ ledger.entries.rows ∨ ¬ StartsWith reclaimEntryFront entry.idempotencyKey

theorem calm_of_moves {ops : List LedgerOp} {ledger after : Ledger} (moves : Moves ops ledger after)
    (foreign : ∀ op ∈ ops, ∀ key ∈ op.entryKeys, ¬ StartsWith reclaimEntryFront key) : Calm ledger after := by
  refine ⟨moves.accounts, moves.extends.entries, fun entry member => ?_⟩
  rcases moves.entry_key entry member with old | ⟨op, opIn, key⟩
  · exact .inl old
  · exact .inr (foreign op opIn _ key)

theorem Keyed.calm {ledger after : Ledger} (keyed : Keyed closingFronts ledger after) : Calm ledger after := by
  obtain ⟨ops, moves, fronted⟩ := keyed
  exact calm_of_moves moves fun op opIn key keyIn => ((fronted op opIn).1 key keyIn).not_starts (by decide)

theorem Calm.housed {ledger after : Ledger} (calm : Calm ledger after) (housed : Housed ledger) : Housed after := by
  intro entry member taken
  rcases calm.fresh entry member with old | foreign
  · obtain ⟨account, accountIn, named⟩ := housed entry old taken
    exact ⟨account, calm.accounts account accountIn, named⟩
  · exact (foreign taken).elim

-- The wallet of a line never changes: its account is known and account ids are unique.
theorem taken_back_kept {ledger after : Ledger} (accounts : ∀ account ∈ ledger.accounts.rows, account ∈ after.accounts.rows) (housed : Housed ledger)
    (owner : Int) (entry : BillingLedgerEntry) (member : entry ∈ ledger.entries.rows) : TakenBack after owner entry ↔ TakenBack ledger owner entry := by
  refine and_congr_right fun _ => and_congr_right fun taken => ⟨?_, ?_⟩
  · rintro ⟨wallet, walletIn, named, facts⟩
    obtain ⟨account, accountIn, accountID⟩ := housed entry member taken
    obtain rfl : wallet = account :=
      Table.eq_of_clash _ _ _ walletIn (accounts account accountIn) (clash_of_account_id _ _ (named.trans accountID.symm))
    exact ⟨wallet, accountIn, named, facts⟩
  · rintro ⟨wallet, walletIn, facts⟩
    exact ⟨wallet, accounts wallet walletIn, facts⟩

theorem Calm.debited {ledger after : Ledger} (calm : Calm ledger after) (housed : Housed ledger) (owner : Int) :
    debitedByReclaims after owner = debitedByReclaims ledger owner := by
  have known : debitedByReclaims ledger owner = ledger.entries.total fun entry => if TakenBack after owner entry then entry.amount else 0 :=
    Table.total_congr _ _ _ fun entry member => by simp only [taken_back_kept calm.accounts housed owner entry member]
  rw [known, debitedByReclaims]
  refine Table.total_eq_successors BillingLedgerEntry.idempotencyKey clash_of_entry_key _ _
    (fun entry member => ⟨entry, calm.entries entry member, rfl, rfl⟩) fun entry member => ?_
  rcases calm.fresh entry member with old | foreign
  · exact .inl ⟨entry, old, rfl⟩
  · exact .inr (if_neg fun taken => foreign taken.2.1)

theorem Calm.trans {ledger middle after : Ledger} (early : Calm ledger middle) (late : Calm middle after) : Calm ledger after := by
  refine ⟨fun account member => late.accounts account (early.accounts account member),
    fun entry member => late.entries entry (early.entries entry member), fun entry member => ?_⟩
  rcases late.fresh entry member with old | foreign
  · exact early.fresh entry old
  · exact .inr foreign

theorem calm_routine {ledger after : Ledger} (routine : Routine ledger after) : Calm ledger after :=
  (routine.mono fun _ member => List.mem_append_left _ member).calm

theorem in_wallet_iff {ledger : Ledger} {owner : Int} {account : BillingAccount} (member : account ∈ ledger.accounts.rows)
    (owned : ClaudeWalletOf owner account) (entry : BillingLedgerEntry) (named : entry.accountID = account.accountID) (other : Int) :
    InWalletOf ledger other entry ↔ other = owner := by
  constructor
  · rintro ⟨wallet, walletIn, walletID, _, _, walletOwner⟩
    obtain rfl : wallet = account := Table.eq_of_clash _ _ _ walletIn member (clash_of_account_id _ _ (walletID.trans named))
    exact walletOwner.symm.trans owned.owner
  · rintro rfl
    exact ⟨account, member, named.symm, owned.kind, owned.ownerType, owned.owner⟩

-- The hold of a debit is the line that counts.
theorem debited_by_hold {ledger after : Ledger} {entry : BillingLedgerEntry} {owner : Int} {account : BillingAccount} (housed : Housed ledger)
    (appended : after.entries.rows = ledger.entries.rows ++ [entry]) (accounts : after.accounts = ledger.accounts)
    (member : account ∈ ledger.accounts.rows) (owned : ClaudeWalletOf owner account) (named : entry.accountID = account.accountID)
    (kind : entry.entryType = .reserveHold) (keyed : StartsWith reclaimEntryFront entry.idempotencyKey) :
    Housed after ∧ ∀ other, debitedByReclaims after other = debitedByReclaims ledger other + if other = owner then entry.amount else 0 := by
  have sameWallet : ∀ other row, TakenBack after other row ↔ TakenBack ledger other row := fun other row => by
    simp only [TakenBack, InWalletOf, accounts]
  refine ⟨fun row rowIn taken => ?_, fun other => ?_⟩
  · rw [appended, List.mem_append, List.mem_singleton] at rowIn
    rw [accounts]
    rcases rowIn with old | rfl
    · exact housed row old taken
    · exact ⟨account, member, named.symm⟩
  · have counts : TakenBack ledger other entry ↔ other = owner := by
      simp only [TakenBack, kind, keyed, true_and]
      exact in_wallet_iff member owned entry named other
    simp only [debitedByReclaims, sameWallet]
    rw [Table.total_append _ _ _ [entry] appended, List.map_singleton, List.sum_singleton]
    simp only [counts]

-- One owner's debit under a key that no reservation has used.
structure OwnerDebited (wallet : Wallet) (taskID stage : String) (owner amount : Int) (after : Wallet) : Prop where
  positive : 0 < amount
  housed : Housed after.ledger
  debited : ∀ other, debitedByReclaims after.ledger other = debitedByReclaims wallet.ledger other + if other = owner then amount else 0
  holds : ∀ reservation ∈ after.ledger.reservations.rows,
    (∃ old ∈ wallet.ledger.reservations.rows, old.idempotencyKey = reservation.idempotencyKey) ∨
      reservation.idempotencyKey = reclaimHoldKey taskID stage owner

theorem owner_debited (env : WalletEnv) (owner amount : Int) (taskID stage : String) (wallet after : Wallet)
    (ran : reclaimMarketplaceOwnerEarningsTx env owner 1 amount (reclaimKey taskID stage owner) wallet = (.ok (), after))
    (unused : ∀ reservation ∈ wallet.ledger.reservations.rows, reservation.idempotencyKey ≠ reclaimHoldKey taskID stage owner)
    (housed : Housed wallet.ledger) : OwnerDebited wallet taskID stage owner amount after := by
  rw [reclaimMarketplaceOwnerEarningsTx, Tx.ran_bind] at ran
  obtain ⟨_, middle, debit, credit⟩ := ran
  obtain ⟨account, mirror, held, spent, reservation, settlement, debited⟩ := wallet_debited env _ _ _ _ _ _ debit
  obtain ⟨_, admin, credited⟩ := marketplace_credited env _ _ _ _ _ _ credit
  obtain ⟨rest, holdKey, entryKey⟩ := reclaim_hold_front taskID stage owner
  have opened := calm_routine (routine_mirror debited.mirrored)
  have holding : Held mirror (debitHold env account.accountID amount (reclaimKey taskID stage owner ++ ":debit")) reservation held := by
    rcases held_of_create _ _ _ _ _ debited.hold with ⟨_, known, key, _⟩ | fresh
    · rw [debited.mirrored.reservations] at known
      exact (unused reservation known key).elim
    · exact fresh
  obtain ⟨entry, posted, line⟩ := holding.posted
  have tight : trimSpace (reclaimHoldKey taskID stage owner) = reclaimHoldKey taskID stage owner :=
    trim_space_tight _ (tight_reclaim_hold taskID stage owner)
  have lineKey : entry.idempotencyKey = reclaimEntryFront ++ rest :=
    line.key.trans ((congrArg (fun text => "entry:" ++ text) tight).trans entryKey)
  have taken := debited_by_hold (opened.housed housed) posted.entries posted.accounts debited.mirrored.member debited.mirrored.owner
    line.account line.kind (lineKey ▸ starts_with_append _ _)
  -- Settling the hold and paying the administrator write under other keys.
  have settled : Calm held middle.ledger := by
    obtain ⟨drawn, final⟩ := debited.ledger
    rw [final]
    refine calm_of_moves (.cons (settle_effect _ _ _ _ _ debited.settle) (.unmoved (.tick 0) (.drawn spent drawn))) fun op opIn key keyIn => ?_
    simp only [List.mem_cons, List.not_mem_nil, or_false] at opIn
    rcases opIn with rfl | rfl
    · rw [LedgerOp.entryKeys, List.mem_singleton] at keyIn
      have fronted : Fronted ["entry:ledger-settlement:"] key := keyIn ▸ fronted_entry _ _ _ rfl (by decide) (by decide)
      exact fronted.not_starts (by decide)
    · simp [LedgerOp.entryKeys] at keyIn
  have paid : Calm middle.ledger after.ledger := by
    refine calm_of_moves credited.moves fun op opIn key keyIn => ?_
    simp only [List.mem_cons, List.not_mem_nil, or_false] at opIn
    rcases opIn with rfl | rfl | rfl | rfl
    · simp [LedgerOp.entryKeys] at keyIn
    · rw [LedgerOp.entryKeys, List.mem_singleton] at keyIn
      have fronted : Fronted ["mirror-bootstrap:user:"] key := keyIn ▸ mirror_fronted _ _ (by decide)
      exact fronted.not_starts (by decide)
    · rw [LedgerOp.entryKeys, List.mem_singleton] at keyIn
      obtain ⟨tail, front⟩ := reclaim_key_front taskID stage owner
      have creditKey : reclaimKey taskID stage owner ++ ":credit" = "marketplace-reclaim:" ++ (tail ++ ":credit") :=
        (congrArg (fun text => text ++ ":credit") front).trans String.append_assoc
      have fronted : Fronted ["marketplace-reclaim:"] key :=
        keyIn ▸ (congrArg trimSpace creditKey).symm ▸ fronted_trim _ _ (by decide) (by decide)
      exact fronted.not_starts (by decide)
    · simp [LedgerOp.entryKeys] at keyIn
  have finished := settled.trans paid
  refine ⟨debited.positive, finished.housed taken.1, fun other => ?_, fun row member => ?_⟩
  · rw [finished.debited taken.1, taken.2, opened.debited housed, line.amount]
    rfl
  · rw [credited.reservations] at member
    rcases debited.moves.reservation_key row member with old | ⟨op, opIn, key⟩
    · exact .inl old
    · refine .inr ?_
      simp only [List.mem_cons, List.not_mem_nil, or_false] at opIn
      rcases opIn with rfl | rfl | rfl | rfl | rfl
      · simp [LedgerOp.reservationKeys] at key
      · simp [LedgerOp.reservationKeys] at key
      · rw [LedgerOp.reservationKeys, List.mem_singleton] at key
        exact key.trans tight
      · simp [LedgerOp.reservationKeys] at key
      · simp [LedgerOp.reservationKeys] at key

def partsOf (owner : Int) (amounts : List (Int × Int)) : Int := (amounts.map fun part => if part.1 = owner then part.2 else 0).sum

structure OwnersDebited (wallet : Wallet) (taskID stage : String) (amounts : List (Int × Int)) (after : Wallet) : Prop where
  positive : ∀ part ∈ amounts, 0 < part.2
  housed : Housed after.ledger
  debited : ∀ other, debitedByReclaims after.ledger other = debitedByReclaims wallet.ledger other + partsOf other amounts
  holds : ∀ reservation ∈ after.ledger.reservations.rows,
    (∃ old ∈ wallet.ledger.reservations.rows, old.idempotencyKey = reservation.idempotencyKey) ∨
      ∃ part ∈ amounts, reservation.idempotencyKey = reclaimHoldKey taskID stage part.1

theorem owners_debited (env : WalletEnv) (taskID stage : String) (amounts : List (Int × Int)) (wallet after : Wallet)
    (ran : debitOwners env taskID stage amounts wallet = (.ok (), after)) (distinct : (amounts.map Prod.fst).Nodup)
    (unused : ∀ part ∈ amounts, ∀ reservation ∈ wallet.ledger.reservations.rows, reservation.idempotencyKey ≠ reclaimHoldKey taskID stage part.1)
    (housed : Housed wallet.ledger) : OwnersDebited wallet taskID stage amounts after := by
  induction amounts generalizing wallet with
  | nil =>
      rw [debitOwners, Tx.ran_pure] at ran
      obtain ⟨_, rfl⟩ := ran
      exact ⟨by simp, housed, by simp [partsOf], fun row member => .inl ⟨row, member, rfl⟩⟩
  | cons part rest ih =>
      obtain ⟨owner, amount⟩ := part
      rw [debitOwners, Tx.ran_bind] at ran
      obtain ⟨_, middle, first, later⟩ := ran
      have paid := owner_debited env owner amount taskID stage wallet middle first (unused (owner, amount) (by simp)) housed
      rw [List.map_cons, List.nodup_cons] at distinct
      have others := ih middle later distinct.2 (fun part partIn reservation member same => ?_) paid.housed
      · refine ⟨?_, others.housed, fun other => ?_, fun row member => ?_⟩
        · rw [List.forall_mem_cons]
          exact ⟨paid.positive, others.positive⟩
        · rw [others.debited, paid.debited]
          simp only [partsOf, List.map_cons, List.sum_cons, eq_comm]
          omega
        · rcases others.holds row member with ⟨between, betweenIn, sameKey⟩ | ⟨part, partIn, key⟩
          · rcases paid.holds between betweenIn with ⟨old, oldIn, oldKey⟩ | key
            · exact .inl ⟨old, oldIn, oldKey.trans sameKey⟩
            · exact .inr ⟨(owner, amount), by simp, sameKey.symm.trans key⟩
          · exact .inr ⟨part, by simp [partIn], key⟩
      · rcases paid.holds reservation member with ⟨old, oldIn, oldKey⟩ | key
        · exact unused part (by simp [partIn]) old oldIn (oldKey.trans same)
        · have owners := (reclaim_hold_split _ _ _ _ _ _ (key.symm.trans same)).1
          exact distinct.1 (owners.symm ▸ List.mem_map.mpr ⟨part, partIn, rfl⟩)

end CodeGo.Marketplace
