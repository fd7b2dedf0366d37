import CodeGo.Lib.Fifo
import CodeGo.Lib.Table
import CodeGo.Lib.Transaction
import Mathlib.Data.List.Sort
import Mathlib.Data.Rat.Floor
import Mathlib.Algebra.Order.Ring.Rat
import Mathlib.Tactic.Linarith
import Mathlib.Tactic.Positivity

set_option autoImplicit false

namespace CodeGo.Billing.RewardHolds

open Relational

/- Rewards that a young account may spend but not pass on. Identifiers carry the store's own order,
   times are nanoseconds, amounts are exact integers. -/

section model

variable {Id : Type} [LinearOrder Id]

structure WalletRewardHold (Id : Type) where
  holdID : Id
  accountID : String
  originalAmount : Int
  consumedAmount : Int := 0
  createdAt : Int := 0
deriving DecidableEq, Repr

instance : Indexed (WalletRewardHold Id) where
  Index := Id
  index hold := hold.holdID
  clash first second := first = second
  clash_symm _ _ clash := clash.symm
  clashDecidable := inferInstance

def hour : Int := 3600 * 1000000000
def walletRewardTransferReleaseStart : Int := 24 * hour
def walletRewardTransferReleaseFull : Int := 72 * hour

def age (createdAt now : Int) : Int := now - createdAt * 1000000000

def walletRewardReleaseRatio (createdAt now : Int) : ℚ :=
  if createdAt ≤ 0 then 1
  else if age createdAt now < walletRewardTransferReleaseStart then 0
  else if walletRewardTransferReleaseFull ≤ age createdAt now then 1
  else
    let ratio : ℚ := (age createdAt now - walletRewardTransferReleaseStart : Int) /
      (walletRewardTransferReleaseFull - walletRewardTransferReleaseStart : Int)
    if ratio < 0 then 0 else min 1 ratio

def unreleasedWalletRewardAmount (original consumed createdAt now : Int) : Int :=
  if original ≤ 0 then 0
  else
    let released : ℚ := original * walletRewardReleaseRatio createdAt now
    let locked := original - consumed - ⌊released⌋
    if locked < 0 then 0 else locked

-- The clock is read once for each hold.
def lockedFrom (createdAt : Int) : (ℕ → Int) → List (WalletRewardHold Id) → Int
  | _, [] => 0
  | now, hold :: rest =>
      unreleasedWalletRewardAmount hold.originalAmount hold.consumedAmount createdAt (now 0) +
        lockedFrom createdAt (fun reading => now (reading + 1)) rest

def Open (accountID : String) (hold : WalletRewardHold Id) : Prop :=
  hold.accountID = accountID ∧ hold.consumedAmount < hold.originalAmount

instance (accountID : String) (hold : WalletRewardHold Id) : Decidable (Open accountID hold) := inferInstanceAs (Decidable (_ ∧ _))

def lockedAmount (accountID : String) (createdAt : Int) (now : ℕ → Int) (table : Table (WalletRewardHold Id)) : Int :=
  lockedFrom createdAt now (table.rows.filter fun hold => Open accountID hold)

inductive TransferError where
  | invalidWalletTransferQuota
  | insufficientBalance
  | walletRewardTransferLocked
  | store (problem : String)
deriving DecidableEq, Repr

inductive LookupError where
  | recordNotFound
  | failed (problem : String)
deriving DecidableEq, Repr

-- The store before the migration that creates the table of holds has none.
def ensureWalletTransferQuotaTx (userID amount : Int) (balance : Except String Int) (holds : Option (Table (WalletRewardHold Id)))
    (account : Except LookupError String) (createdAt : Except String Int) (now : ℕ → Int) : Except TransferError Unit :=
  if userID ≤ 0 ∨ amount ≤ 0 then .error .invalidWalletTransferQuota
  else
    match balance with
    | .error problem => .error (.store problem)
    | .ok balance =>
        match holds with
        | none => if balance < amount then .error .insufficientBalance else .ok ()
        | some table =>
            match account with
            | .error .recordNotFound => if balance < amount then .error .insufficientBalance else .ok ()
            | .error (.failed problem) => .error (.store problem)
            | .ok accountID =>
                match createdAt with
                | .error problem => .error (.store problem)
                | .ok createdAt =>
                    let transferable := balance - lockedAmount accountID createdAt now table
                    if transferable < amount then .error .walletRewardTransferLocked else .ok ()

def Earlier (first second : WalletRewardHold Id) : Prop :=
  first.createdAt < second.createdAt ∨ (first.createdAt = second.createdAt ∧ first.holdID ≤ second.holdID)

instance : DecidableRel (@Earlier Id _) := fun _ _ => inferInstanceAs (Decidable (_ ∨ _))

-- The rows that the loop saves.
def consumeLoop : Int → List (WalletRewardHold Id) → List (WalletRewardHold Id)
  | _, [] => []
  | remaining, hold :: rest =>
      let available := hold.originalAmount - hold.consumedAmount
      if available ≤ 0 then consumeLoop remaining rest
      else
        let consumed := if available > remaining then remaining else available
        { hold with consumedAmount := hold.consumedAmount + consumed } ::
          if remaining - consumed = 0 then [] else consumeLoop (remaining - consumed) rest

def updateConsumed (table : Table (WalletRewardHold Id)) (saved : WalletRewardHold Id) : Table (WalletRewardHold Id) :=
  table.update (fun row => decide (row.holdID = saved.holdID)) (fun row => { row with consumedAmount := saved.consumedAmount })
    fun _ => rfl

def consumeHolds (accountID : String) (amount : Int) (table : Table (WalletRewardHold Id)) : Table (WalletRewardHold Id) :=
  let holds := (table.rows.filter fun hold => Open accountID hold).insertionSort Earlier
  (consumeLoop amount holds).foldl updateConsumed table

def consumeWalletRewardHoldsTx (accountID : String) (amount : Int) (holds : Option (Table (WalletRewardHold Id))) :
    Option (Table (WalletRewardHold Id)) :=
  if accountID = "" ∨ amount ≤ 0 then holds else holds.map (consumeHolds accountID amount)

end model

variable {Id : Type}

-- What the rows of a table promise: they are created with nothing consumed.
def Sound (hold : WalletRewardHold Id) : Prop := 0 ≤ hold.consumedAmount ∧ hold.consumedAmount ≤ hold.originalAmount

def left (hold : WalletRewardHold Id) : Int := hold.originalAmount - hold.consumedAmount

def take (used : Int) (hold : WalletRewardHold Id) : WalletRewardHold Id :=
  { hold with consumedAmount := hold.consumedAmount + used }

structure Raised (before after : WalletRewardHold Id) : Prop where
  id : after.holdID = before.holdID
  account : after.accountID = before.accountID
  original : after.originalAmount = before.originalAmount
  created : after.createdAt = before.createdAt
  more : before.consumedAmount ≤ after.consumedAmount
  within : before.consumedAmount ≤ before.originalAmount → after.consumedAmount ≤ after.originalAmount

theorem left_take (used : Int) (hold : WalletRewardHold Id) : left (take used hold) = left hold - used := by
  simp only [left, take]
  omega

theorem take_take (used more : Int) (hold : WalletRewardHold Id) : take more (take used hold) = take (used + more) hold := by
  simp only [take, Int.add_assoc]

theorem take_zero (hold : WalletRewardHold Id) : take 0 hold = hold := by
  simp only [take, Int.add_zero]

theorem Sound.left_nonneg {hold : WalletRewardHold Id} (sound : Sound hold) : 0 ≤ left hold := by
  have within := sound.2
  unfold left
  omega

theorem take_raised {hold : WalletRewardHold Id} {used : Int} (nonneg : 0 ≤ used) (there : used ≤ left hold) :
    Raised hold (take used hold) := by
  refine ⟨rfl, rfl, rfl, rfl, ?_, ?_⟩
  · simp only [take]
    omega
  · unfold left at there
    simp only [take]
    omega

theorem Raised.refl (hold : WalletRewardHold Id) : Raised hold hold := ⟨rfl, rfl, rfl, rfl, le_refl _, fun within => within⟩

theorem Raised.trans {first second third : WalletRewardHold Id} (early : Raised first second) (late : Raised second third) :
    Raised first third :=
  ⟨late.id.trans early.id, late.account.trans early.account, late.original.trans early.original, late.created.trans early.created,
    le_trans early.more late.more, fun within => late.within (early.within within)⟩

theorem Raised.sound {before after : WalletRewardHold Id} (raised : Raised before after) (sound : Sound before) : Sound after :=
  ⟨le_trans sound.1 raised.more, raised.within sound.2⟩

def drain (amount : Int) (holds : List (WalletRewardHold Id)) : List (WalletRewardHold Id) := Fifo.drain left take amount holds

def Distinct (holds : List (WalletRewardHold Id)) : Prop := holds.Pairwise fun first second => first.holdID ≠ second.holdID

section draining

variable {holds : List (WalletRewardHold Id)} {amount : Int}

theorem lefts (sound : ∀ hold ∈ holds, Sound hold) : ∀ hold ∈ holds, 0 ≤ left hold := fun hold listed => (sound hold listed).left_nonneg

theorem drain_raised (nonneg : 0 ≤ amount) (sound : ∀ hold ∈ holds, Sound hold) : List.Forall₂ Raised holds (drain amount holds) :=
  Fifo.drain_pairs Raised (fun _ _ nonneg there => take_raised nonneg there) amount nonneg holds (lefts sound)

theorem drain_none (sound : ∀ hold ∈ holds, Sound hold) : drain 0 holds = holds := Fifo.drain_nothing take_zero holds (lefts sound)

theorem loop_open {hold : WalletRewardHold Id} (room : 0 < left hold) :
    consumeLoop amount (hold :: holds) = take (min (left hold) amount) hold ::
      if amount - min (left hold) amount = 0 then [] else consumeLoop (amount - min (left hold) amount) holds := by
  have used : (if left hold > amount then amount else left hold) = min (left hold) amount := by
    split <;> omega
  rw [consumeLoop]
  change (if left hold ≤ 0 then _ else
    take (if left hold > amount then amount else left hold) hold ::
      if amount - (if left hold > amount then amount else left hold) = 0 then []
      else consumeLoop (amount - (if left hold > amount then amount else left hold)) holds) = _
  rw [if_neg (by omega), used]

theorem loop_full {hold : WalletRewardHold Id} (full : left hold ≤ 0) : consumeLoop amount (hold :: holds) = consumeLoop amount holds := by
  rw [consumeLoop]
  exact if_pos full

theorem loop_ids (amount : Int) (holds : List (WalletRewardHold Id)) :
    ((consumeLoop amount holds).map (·.holdID)).Sublist (holds.map (·.holdID)) := by
  induction holds generalizing amount with
  | nil => exact List.Sublist.refl _
  | cons hold rest ih =>
      by_cases full : left hold ≤ 0
      · rw [loop_full full]
        exact (ih amount).cons _
      · rw [loop_open (by omega), List.map_cons, List.map_cons]
        apply List.Sublist.cons_cons
        split
        · exact List.nil_sublist _
        · exact ih _

theorem loop_distinct (amount : Int) (distinct : Distinct holds) : Distinct (consumeLoop amount holds) := by
  apply List.pairwise_map.mp
  exact (List.pairwise_map.mpr distinct).sublist (loop_ids amount holds)

end draining

variable [LinearOrder Id]

-- The holds of an account in the order in which they are consumed.
def accountHolds (accountID : String) (table : Table (WalletRewardHold Id)) : List (WalletRewardHold Id) :=
  (table.rows.filter fun hold => hold.accountID = accountID).insertionSort Earlier

-- A row with the consumption of the saved row of its identifier.
def patch : List (WalletRewardHold Id) → WalletRewardHold Id → WalletRewardHold Id
  | [], row => row
  | saved :: rest, row => if row.holdID = saved.holdID then { row with consumedAmount := saved.consumedAmount } else patch rest row

section patches

variable {holds saved again : List (WalletRewardHold Id)} {row hold : WalletRewardHold Id}

@[simp] theorem patch_nil : patch [] row = row := rfl

theorem patch_cons_same (same : row.holdID = hold.holdID) :
    patch (hold :: saved) row = { row with consumedAmount := hold.consumedAmount } := by
  rw [patch, if_pos same]

theorem patch_cons_other (other : row.holdID ≠ hold.holdID) : patch (hold :: saved) row = patch saved row := by
  rw [patch, if_neg other]

theorem patch_absent (absent : ∀ hold ∈ saved, row.holdID ≠ hold.holdID) : patch saved row = row := by
  induction saved with
  | nil => rfl
  | cons first rest ih =>
      obtain ⟨here, others⟩ := List.forall_mem_cons.mp absent
      rw [patch_cons_other here, ih others]

theorem patch_keeps : (patch saved row).holdID = row.holdID ∧ (patch saved row).accountID = row.accountID ∧
    (patch saved row).originalAmount = row.originalAmount ∧ (patch saved row).createdAt = row.createdAt := by
  induction saved with
  | nil => exact ⟨rfl, rfl, rfl, rfl⟩
  | cons first rest ih =>
      by_cases same : row.holdID = first.holdID
      · rw [patch_cons_same same]
        exact ⟨rfl, rfl, rfl, rfl⟩
      · rw [patch_cons_other same]
        exact ih

@[simp] theorem patch_holdID : (patch saved row).holdID = row.holdID := patch_keeps.1
@[simp] theorem patch_accountID : (patch saved row).accountID = row.accountID := patch_keeps.2.1
@[simp] theorem patch_originalAmount : (patch saved row).originalAmount = row.originalAmount := patch_keeps.2.2.1
@[simp] theorem patch_createdAt : (patch saved row).createdAt = row.createdAt := patch_keeps.2.2.2

theorem patch_later (first : WalletRewardHold Id) (apart : ∀ hold ∈ saved, first.holdID ≠ hold.holdID) :
    patch saved (patch [first] row) = patch (first :: saved) row := by
  by_cases same : row.holdID = first.holdID
  · rw [patch_cons_same same, patch_cons_same same]
    apply patch_absent
    intro hold listed
    rw [same]
    exact apart hold listed
  · rw [patch_cons_other same, patch_cons_other same, patch_nil]

theorem patch_patch (same : List.Forall₂ (fun first second => second.holdID = first.holdID) saved again) :
    patch again (patch saved row) = patch again row := by
  induction same with
  | nil => rfl
  | cons pair rest ih =>
      rename_i first second saved again
      by_cases here : row.holdID = first.holdID
      · have kept : ({ row with consumedAmount := first.consumedAmount } : WalletRewardHold Id).holdID = second.holdID :=
          here.trans pair.symm
        rw [patch_cons_same here, patch_cons_same kept, patch_cons_same (here.trans pair.symm)]
      · have elsewhere : row.holdID ≠ second.holdID := pair ▸ here
        rw [patch_cons_other here, patch_cons_other elsewhere, patch_cons_other (by rw [patch_holdID]; exact elsewhere), ih]

theorem saved_rows (table : Table (WalletRewardHold Id)) (distinct : Distinct saved) :
    (saved.foldl updateConsumed table).rows = table.rows.map (patch saved) := by
  induction saved generalizing table with
  | nil =>
      show table.rows = table.rows.map fun row => row
      rw [List.map_id']
  | cons first rest ih =>
      obtain ⟨apart, others⟩ := List.pairwise_cons.mp distinct
      have one : (updateConsumed table first).rows = table.rows.map (patch [first]) := by
        apply List.map_congr_left
        intro row _
        by_cases same : row.holdID = first.holdID
        · rw [patch_cons_same same, if_pos (decide_eq_true same)]
        · rw [patch_cons_other same, if_neg (by simpa using same), patch_nil]
      rw [List.foldl_cons, ih _ others, one, List.map_map]
      apply List.map_congr_left
      intro row _
      exact patch_later first apart

theorem Raised.of_patch (raised : List.Forall₂ Raised holds saved) (distinct : Distinct holds) : holds.map (patch saved) = saved := by
  induction raised with
  | nil => rfl
  | cons pair rest ih =>
      rename_i first second holds saved
      obtain ⟨apart, others⟩ := List.pairwise_cons.mp distinct
      have head : patch (second :: saved) first = second := by
        rw [patch_cons_same pair.id.symm]
        cases first
        cases second
        obtain ⟨rfl, rfl, rfl, rfl, _, _⟩ := pair
        rfl
      have tail : holds.map (patch (second :: saved)) = holds.map (patch saved) := by
        apply List.map_congr_left
        intro row listed
        apply patch_cons_other
        rw [pair.id]
        exact (apart row listed).symm
      rw [List.map_cons, head, tail, ih others]

end patches

section patching

variable {holds : List (WalletRewardHold Id)} {amount : Int}

theorem loop_elsewhere (amount : Int) {row : WalletRewardHold Id} (absent : ∀ hold ∈ holds, row.holdID ≠ hold.holdID) :
    patch (consumeLoop amount holds) row = row := by
  apply patch_absent
  intro saved listed same
  obtain ⟨hold, there, id⟩ := List.mem_map.mp ((loop_ids amount holds).subset (List.mem_map_of_mem listed))
  exact absent hold there (same.trans id.symm)

theorem drained_elsewhere (nonneg : 0 ≤ amount) (sound : ∀ hold ∈ holds, Sound hold) {row : WalletRewardHold Id}
    (absent : ∀ hold ∈ holds, row.holdID ≠ hold.holdID) : patch (drain amount holds) row = row := by
  apply patch_absent
  intro saved listed same
  obtain ⟨hold, there, raised⟩ := pairs_back (drain_raised nonneg sound) listed
  exact absent hold there (same.trans raised.id)

theorem patch_self (distinct : Distinct holds) {row : WalletRewardHold Id} (listed : row ∈ holds) : patch holds row = row := by
  induction holds with
  | nil => simp at listed
  | cons first rest ih =>
      obtain ⟨apart, others⟩ := List.pairwise_cons.mp distinct
      obtain rfl | deeper := List.mem_cons.mp listed
      · rw [patch_cons_same rfl]
      · rw [patch_cons_other (apart row deeper).symm, ih others deeper]

-- The rows that the loop does not save keep what they had consumed.
theorem loop_patches (positive : 0 < amount) (accountID : String) (sound : ∀ hold ∈ holds, Sound hold)
    (owned : ∀ hold ∈ holds, hold.accountID = accountID) (distinct : Distinct holds) {row : WalletRewardHold Id} (listed : row ∈ holds) :
    patch (consumeLoop amount (holds.filter fun hold => Open accountID hold)) row = patch (drain amount holds) row := by
  induction holds generalizing amount with
  | nil => simp at listed
  | cons hold rest ih =>
      obtain ⟨apart, others⟩ := List.pairwise_cons.mp distinct
      obtain ⟨here, soundRest⟩ := List.forall_mem_cons.mp sound
      obtain ⟨owner, ownedRest⟩ := List.forall_mem_cons.mp owned
      have whole := here.left_nonneg
      rw [drain, Fifo.drain]
      by_cases opened : Open accountID hold
      · have room : 0 < left hold := by
          have less := opened.2
          unfold left
          omega
        rw [List.filter_cons_of_pos (by simpa using opened), loop_open room]
        obtain rfl | deeper := List.mem_cons.mp listed
        · have same : row.holdID = (take (min (left row) amount) row).holdID := rfl
          rw [patch_cons_same same, patch_cons_same same]
        · have other : row.holdID ≠ (take (min (left hold) amount) hold).holdID := (apart row deeper).symm
          rw [patch_cons_other other, patch_cons_other other]
          split
          · rename_i spent
            rw [spent, patch_nil]
            change row = patch (drain 0 rest) row
            rw [drain_none soundRest, patch_self others deeper]
          · exact ih (by omega) soundRest ownedRest others deeper
      · have full : left hold = 0 := by
          have within := here.2
          have more : ¬ hold.consumedAmount < hold.originalAmount := fun less => opened ⟨owner, less⟩
          unfold left
          omega
        rw [List.filter_cons_of_neg (by simpa using opened), full, min_eq_left (le_of_lt positive), sub_zero, take_zero]
        obtain rfl | deeper := List.mem_cons.mp listed
        · rw [patch_cons_same rfl]
          apply loop_elsewhere
          intro other kept
          exact apart other (List.mem_of_mem_filter kept)
        · rw [patch_cons_other (apart row deeper).symm]
          exact ih positive soundRest ownedRest others deeper

end patching

theorem accountHolds_perm (accountID : String) (table : Table (WalletRewardHold Id)) :
    (accountHolds accountID table).Perm (table.rows.filter fun hold => hold.accountID = accountID) :=
  List.perm_insertionSort Earlier _

theorem mem_accountHolds {accountID : String} {table : Table (WalletRewardHold Id)} {hold : WalletRewardHold Id} :
    hold ∈ accountHolds accountID table ↔ hold ∈ table.rows ∧ hold.accountID = accountID := by
  rw [(accountHolds_perm accountID table).mem_iff, List.mem_filter, decide_eq_true_eq]

theorem distinct_rows (table : Table (WalletRewardHold Id)) : Distinct table.rows := table.unique

theorem accountHolds_distinct (accountID : String) (table : Table (WalletRewardHold Id)) : Distinct (accountHolds accountID table) :=
  ((distinct_rows table).filter _).perm (accountHolds_perm accountID table).symm fun apart => apart.symm

theorem earlier_total (first second : WalletRewardHold Id) : Earlier first second ∨ Earlier second first := by
  unfold Earlier
  obtain before | same | after := lt_trichotomy first.createdAt second.createdAt
  · exact Or.inl (Or.inl before)
  · obtain less | more := le_total first.holdID second.holdID
    · exact Or.inl (Or.inr ⟨same, less⟩)
    · exact Or.inr (Or.inr ⟨same.symm, more⟩)
  · exact Or.inr (Or.inl after)

theorem earlier_trans (first second third : WalletRewardHold Id) (early : Earlier first second) (late : Earlier second third) :
    Earlier first third := by
  unfold Earlier at *
  obtain before | ⟨same, less⟩ := early
  · obtain after | ⟨again, _⟩ := late
    · exact Or.inl (lt_trans before after)
    · exact Or.inl (again ▸ before)
  · obtain after | ⟨again, more⟩ := late
    · exact Or.inl (same ▸ after)
    · exact Or.inr ⟨same.trans again, le_trans less more⟩

theorem earlier_antisymm {first second : WalletRewardHold Id} (early : Earlier first second) (late : Earlier second first) :
    first.holdID = second.holdID := by
  unfold Earlier at *
  obtain before | ⟨same, less⟩ := early
  · obtain after | ⟨again, _⟩ := late
    · omega
    · omega
  · obtain after | ⟨_, more⟩ := late
    · omega
    · exact le_antisymm less more

instance : Std.Total (@Earlier Id _) := ⟨earlier_total⟩
instance : IsTrans (WalletRewardHold Id) Earlier := ⟨earlier_trans⟩

theorem accountHolds_ordered (accountID : String) (table : Table (WalletRewardHold Id)) :
    (accountHolds accountID table).Pairwise Earlier := List.pairwise_insertionSort Earlier _

-- Two listings in order of the same distinct holds are one.
theorem ordered_unique {first second : List (WalletRewardHold Id)} (distinct : Distinct first) (perm : first.Perm second)
    (early : first.Pairwise Earlier) (late : second.Pairwise Earlier) : first = second := by
  apply perm.eq_of_pairwise _ early late
  intro a b aIn bIn before after
  have nodup : (first.map (·.holdID)).Nodup := List.pairwise_map.mpr distinct
  exact List.inj_on_of_nodup_map nodup aIn (perm.symm.subset bIn) (earlier_antisymm before after)

theorem openHolds_sorted (accountID : String) (table : Table (WalletRewardHold Id)) :
    (table.rows.filter fun hold => Open accountID hold).insertionSort Earlier =
      (accountHolds accountID table).filter fun hold => Open accountID hold := by
  have narrower : (table.rows.filter fun hold => hold.accountID = accountID).filter (fun hold => Open accountID hold) =
      table.rows.filter fun hold => Open accountID hold := by
    rw [List.filter_filter]
    apply List.filter_congr
    intro hold _
    simp only [Open]
    grind
  apply ordered_unique
  · exact ((distinct_rows table).filter _).perm (List.perm_insertionSort Earlier _).symm fun apart => apart.symm
  · rw [← narrower]
    exact (List.perm_insertionSort Earlier _).trans ((accountHolds_perm accountID table).symm.filter _)
  · exact List.pairwise_insertionSort Earlier _
  · exact (accountHolds_ordered accountID table).filter _

section consumption

variable {accountID : String} {amount : Int} {table : Table (WalletRewardHold Id)}

def AllSound (table : Table (WalletRewardHold Id)) : Prop := ∀ hold ∈ table.rows, Sound hold

theorem AllSound.accountHolds (sound : AllSound table) (accountID : String) : ∀ hold ∈ accountHolds accountID table, Sound hold :=
  fun hold listed => sound hold (mem_accountHolds.mp listed).1

theorem elsewhere {row : WalletRewardHold Id} (listed : row ∈ table.rows) (foreign : row.accountID ≠ accountID) :
    ∀ hold ∈ accountHolds accountID table, row.holdID ≠ hold.holdID := by
  intro hold there same
  obtain ⟨stored, account⟩ := mem_accountHolds.mp there
  have one := Table.eq_of_clash table row hold listed stored same
  exact foreign (one ▸ account)

-- What a call does to the rows: those of the account become their place in the drained queue.
theorem consumeHolds_rows (positive : 0 < amount) (sound : AllSound table) :
    (consumeHolds accountID amount table).rows = table.rows.map (patch (drain amount (accountHolds accountID table))) := by
  have mine := sound.accountHolds accountID
  have apart := accountHolds_distinct accountID table
  rw [consumeHolds, saved_rows _ (loop_distinct amount _), openHolds_sorted]
  · apply List.map_congr_left
    intro row listed
    by_cases owned : row.accountID = accountID
    · have here : row ∈ accountHolds accountID table := mem_accountHolds.mpr ⟨listed, owned⟩
      exact loop_patches positive accountID mine (fun hold there => (mem_accountHolds.mp there).2) apart here
    · have absent := elsewhere listed owned
      rw [drained_elsewhere (le_of_lt positive) mine absent]
      apply loop_elsewhere
      intro hold kept
      exact absent hold (List.mem_of_mem_filter kept)
  · rw [openHolds_sorted]
    exact apart.filter _

theorem accountHolds_consumed (positive : 0 < amount) (sound : AllSound table) :
    accountHolds accountID (consumeHolds accountID amount table) = drain amount (accountHolds accountID table) := by
  have raised := drain_raised (le_of_lt positive) (sound.accountHolds accountID)
  have kept := Raised.of_patch raised (accountHolds_distinct accountID table)
  have owners : (fun hold : WalletRewardHold Id => decide (hold.accountID = accountID)) ∘
      patch (drain amount (accountHolds accountID table)) = fun hold => decide (hold.accountID = accountID) := by
    funext hold
    simp
  rw [accountHolds, consumeHolds_rows positive sound, List.filter_map, owners]
  rw [← List.map_insertionSort (r := Earlier)]
  · exact kept
  · intro a _ b _
    simp [Earlier]

-- How a call changes a row: one of the account may have consumed more, one of another account is left alone.
def Consumed (accountID : String) (before after : WalletRewardHold Id) : Prop :=
  Raised before after ∧ (before.accountID ≠ accountID → after = before)

theorem consumeHolds_consumed (positive : 0 < amount) (sound : AllSound table) :
    List.Forall₂ (Consumed accountID) table.rows (consumeHolds accountID amount table).rows := by
  have mine := sound.accountHolds accountID
  have raised := drain_raised (le_of_lt positive) mine
  rw [← Raised.of_patch raised (accountHolds_distinct accountID table), List.forall₂_map_right_iff, List.forall₂_same] at raised
  rw [consumeHolds_rows positive sound, List.forall₂_map_right_iff, List.forall₂_same]
  intro row listed
  by_cases owned : row.accountID = accountID
  · have here := raised row (mem_accountHolds.mpr ⟨listed, owned⟩)
    exact ⟨here, fun foreign => absurd owned foreign⟩
  · rw [drained_elsewhere (le_of_lt positive) mine (elsewhere listed owned)]
    exact ⟨Raised.refl row, fun _ => rfl⟩

theorem consumeHolds_twice {first second : Int} (firstPositive : 0 < first) (secondPositive : 0 < second) (sound : AllSound table) :
    consumeHolds accountID second (consumeHolds accountID first table) = consumeHolds accountID (first + second) table := by
  have mine := sound.accountHolds accountID
  have still : AllSound (consumeHolds accountID first table) := by
    intro after listed
    obtain ⟨before, was, consumed⟩ := pairs_back (consumeHolds_consumed firstPositive sound) listed
    exact consumed.1.sound (sound before was)
  have both : drain second (drain first (accountHolds accountID table)) = drain (first + second) (accountHolds accountID table) :=
    Fifo.drain_drain left_take take_take first second (le_of_lt firstPositive) (le_of_lt secondPositive) _ (lefts mine)
  have drained : ∀ hold ∈ drain first (accountHolds accountID table), Sound hold := by
    rw [← accountHolds_consumed firstPositive sound]
    exact still.accountHolds accountID
  have ids := (drain_raised (le_of_lt secondPositive) drained).imp fun before after raised => raised.id
  apply Table.ext
  rw [consumeHolds_rows secondPositive still, consumeHolds_rows firstPositive sound, consumeHolds_rows (by omega) sound,
    accountHolds_consumed firstPositive sound, List.map_map, ← both]
  apply List.map_congr_left
  intro row _
  exact patch_patch ids

end consumption

end CodeGo.Billing.RewardHolds
