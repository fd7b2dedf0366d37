import CodeGo.Wallet.RewardHolds

set_option autoImplicit false

namespace CodeGo.Billing.RewardHolds

open Relational

variable {Id : Type}

section release

variable {createdAt : Int}

theorem releaseRatio_bounds (now : Int) : 0 ≤ walletRewardReleaseRatio createdAt now ∧ walletRewardReleaseRatio createdAt now ≤ 1 := by
  unfold walletRewardReleaseRatio
  split
  · exact ⟨zero_le_one, le_refl _⟩
  · split
    · exact ⟨le_refl _, zero_le_one⟩
    · split
      · exact ⟨zero_le_one, le_refl _⟩
      · dsimp only
        split
        · exact ⟨le_refl _, zero_le_one⟩
        · rename_i nonneg
          exact ⟨le_min zero_le_one (not_lt.mp nonneg), min_le_left _ _⟩

-- Between the two ends of the release the ratio is that of the elapsed part.
theorem releaseRatio_within {now : Int} (dated : 0 < createdAt) (begun : walletRewardTransferReleaseStart ≤ age createdAt now)
    (going : age createdAt now < walletRewardTransferReleaseFull) :
    walletRewardReleaseRatio createdAt now =
      ((age createdAt now - walletRewardTransferReleaseStart : Int) : ℚ) /
        (walletRewardTransferReleaseFull - walletRewardTransferReleaseStart : Int) := by
  have span : (0 : ℚ) < (walletRewardTransferReleaseFull - walletRewardTransferReleaseStart : Int) := by
    norm_num [walletRewardTransferReleaseFull, walletRewardTransferReleaseStart, hour]
  have nonneg : (0 : ℚ) ≤ (age createdAt now - walletRewardTransferReleaseStart : Int) := by
    exact_mod_cast sub_nonneg.mpr begun
  have short : ((age createdAt now - walletRewardTransferReleaseStart : Int) : ℚ) ≤
      (walletRewardTransferReleaseFull - walletRewardTransferReleaseStart : Int) := by
    exact_mod_cast sub_le_sub_right (le_of_lt going) _
  rw [walletRewardReleaseRatio, if_neg (by omega), if_neg (by omega), if_neg (by omega)]
  dsimp only
  rw [if_neg (not_lt.mpr (div_nonneg nonneg (le_of_lt span))), min_eq_right ((div_le_one span).mpr short)]

theorem releaseRatio_mono {early late : Int} (later : early ≤ late) :
    walletRewardReleaseRatio createdAt early ≤ walletRewardReleaseRatio createdAt late := by
  by_cases dated : 0 < createdAt
  · have older : age createdAt early ≤ age createdAt late := by
      unfold age
      omega
    by_cases begun : walletRewardTransferReleaseStart ≤ age createdAt early
    · by_cases going : age createdAt late < walletRewardTransferReleaseFull
      · rw [releaseRatio_within dated begun (by omega), releaseRatio_within dated (by omega) going]
        apply div_le_div_of_nonneg_right
        · exact_mod_cast sub_le_sub_right older _
        · norm_num [walletRewardTransferReleaseFull, walletRewardTransferReleaseStart, hour]
      · have full : walletRewardReleaseRatio createdAt late = 1 := by
          have started : walletRewardTransferReleaseStart ≤ age createdAt late := by omega
          rw [walletRewardReleaseRatio, if_neg (by omega), if_neg (by omega), if_pos (by omega)]
        rw [full]
        exact (releaseRatio_bounds early).2
    · have none : walletRewardReleaseRatio createdAt early = 0 := by
        rw [walletRewardReleaseRatio, if_neg (by omega), if_pos (by omega)]
      rw [none]
      exact (releaseRatio_bounds late).1
  · rw [walletRewardReleaseRatio, walletRewardReleaseRatio, if_pos (by omega), if_pos (by omega)]

theorem releaseRatio_full {now : Int} (old : walletRewardTransferReleaseFull ≤ age createdAt now) :
    walletRewardReleaseRatio createdAt now = 1 := by
  have started : ¬ age createdAt now < walletRewardTransferReleaseStart := by
    unfold walletRewardTransferReleaseFull at old
    unfold walletRewardTransferReleaseStart
    have unit : 0 < hour := by decide
    omega
  by_cases dated : 0 < createdAt
  · rw [walletRewardReleaseRatio, if_neg (by omega), if_neg started, if_pos old]
  · rw [walletRewardReleaseRatio, if_pos (by omega)]

def released (original createdAt now : Int) : Int := ⌊(original : ℚ) * walletRewardReleaseRatio createdAt now⌋

theorem released_mono {original early late : Int} (nonneg : 0 ≤ original) (later : early ≤ late) :
    released original createdAt early ≤ released original createdAt late := by
  apply Int.floor_le_floor
  apply mul_le_mul_of_nonneg_left (releaseRatio_mono later)
  exact_mod_cast nonneg

theorem releaseRatio_nonneg (now : Int) : 0 ≤ walletRewardReleaseRatio createdAt now := (releaseRatio_bounds now).1

theorem released_nonneg {original : Int} (nonneg : 0 ≤ original) (now : Int) : 0 ≤ released original createdAt now := by
  apply Int.floor_nonneg.mpr
  apply mul_nonneg _ (releaseRatio_nonneg now)
  exact_mod_cast nonneg

theorem released_full {original now : Int} (old : walletRewardTransferReleaseFull ≤ age createdAt now) :
    released original createdAt now = original := by
  rw [released, releaseRatio_full old, mul_one, Int.floor_intCast]

def unreleased (createdAt now : Int) (hold : WalletRewardHold Id) : Int :=
  unreleasedWalletRewardAmount hold.originalAmount hold.consumedAmount createdAt now

theorem unreleased_eq {hold : WalletRewardHold Id} (sound : Sound hold) (now : Int) :
    unreleased createdAt now hold = max 0 (left hold - released hold.originalAmount createdAt now) := by
  obtain ⟨nonneg, within⟩ := sound
  rw [unreleased, unreleasedWalletRewardAmount, left]
  by_cases nothing : hold.originalAmount ≤ 0
  · have zero : hold.originalAmount = 0 := by omega
    have free : released 0 createdAt now = 0 := by
      rw [released, Int.cast_zero, zero_mul, Int.floor_zero]
    rw [if_pos nothing, zero, free]
    omega
  · rw [if_neg nothing]
    simp only [released]
    split <;> omega

theorem unreleased_nonneg (now : Int) (hold : WalletRewardHold Id) : 0 ≤ unreleased createdAt now hold := by
  rw [unreleased, unreleasedWalletRewardAmount]
  split
  · exact le_refl _
  · dsimp only
    split <;> omega

-- What is taken from a hold unlocks as much of it as was locked.
theorem unreleased_take {hold : WalletRewardHold Id} (sound : Sound hold) {used : Int} (nonneg : 0 ≤ used) (there : used ≤ left hold)
    (now : Int) : unreleased createdAt now (take used hold) =
      unreleased createdAt now hold - min used (unreleased createdAt now hold) := by
  have after := (take_raised nonneg there).sound sound
  rw [unreleased_eq after, unreleased_eq sound, left_take]
  show max 0 (left hold - used - released hold.originalAmount createdAt now) = _
  omega

theorem unreleased_mono {before after : WalletRewardHold Id} (raised : Raised before after) (sound : Sound before) {early late : Int}
    (later : early ≤ late) : unreleased createdAt late after ≤ unreleased createdAt early before := by
  have more := raised.more
  have original : 0 ≤ before.originalAmount := le_trans sound.1 sound.2
  have release := @released_mono createdAt before.originalAmount early late original later
  rw [unreleased_eq (raised.sound sound), unreleased_eq sound, left, left, raised.original]
  omega

theorem unreleased_full {hold : WalletRewardHold Id} (sound : Sound hold) {now : Int}
    (old : walletRewardTransferReleaseFull ≤ age createdAt now) : unreleased createdAt now hold = 0 := by
  have nonneg := sound.1
  rw [unreleased_eq sound, released_full old, left]
  omega

theorem lockedFrom_cons (now : ℕ → Int) (hold : WalletRewardHold Id) (rest : List (WalletRewardHold Id)) :
    lockedFrom createdAt now (hold :: rest) =
      unreleased createdAt (now 0) hold + lockedFrom createdAt (fun reading => now (reading + 1)) rest := rfl

theorem lockedFrom_full (holds : List (WalletRewardHold Id)) (sound : ∀ hold ∈ holds, Sound hold) (now : ℕ → Int)
    (old : ∀ reading, walletRewardTransferReleaseFull ≤ age createdAt (now reading)) : lockedFrom createdAt now holds = 0 := by
  induction holds generalizing now with
  | nil => rfl
  | cons hold rest ih =>
      obtain ⟨here, others⟩ := List.forall_mem_cons.mp sound
      rw [lockedFrom_cons, unreleased_full here (old 0), ih others _ fun reading => old (reading + 1), add_zero]

-- A hold that is closed by the consumption drops out of the later reading.
theorem lockedFrom_mono (accountID : String) {before after : List (WalletRewardHold Id)} (raised : List.Forall₂ Raised before after)
    (sound : ∀ hold ∈ before, Sound hold) (early late : ℕ → Int) (later : ∀ first second, early first ≤ late second) :
    lockedFrom createdAt late (after.filter fun hold => Open accountID hold) ≤
      lockedFrom createdAt early (before.filter fun hold => Open accountID hold) := by
  induction raised generalizing early late with
  | nil => exact le_refl _
  | cons pair rest ih =>
      rename_i first second before after
      obtain ⟨here, others⟩ := List.forall_mem_cons.mp sound
      by_cases opened : Open accountID second
      · have was : Open accountID first := by
          have more := pair.more
          refine ⟨pair.account.symm.trans opened.1, ?_⟩
          have less := opened.2
          rw [pair.original] at less
          omega
        rw [List.filter_cons_of_pos (by simpa using opened), List.filter_cons_of_pos (by simpa using was), lockedFrom_cons, lockedFrom_cons]
        apply add_le_add
        · exact unreleased_mono pair here (later 0 0)
        · exact ih others _ _ fun first second => later (first + 1) (second + 1)
      · rw [List.filter_cons_of_neg (by simpa using opened)]
        by_cases was : Open accountID first
        · rw [List.filter_cons_of_pos (by simpa using was), lockedFrom_cons]
          have rest := ih others (fun reading => early (reading + 1)) late fun first second => later (first + 1) second
          exact le_trans rest (le_add_of_nonneg_left (unreleased_nonneg _ first))
        · rw [List.filter_cons_of_neg (by simpa using was)]
          exact ih others early late later

end release

section locks

variable {accountID : String} {createdAt now amount : Int}

-- At one moment the locked amount is a sum over the rows: a hold that is used up locks nothing.
theorem lockedFrom_still (rows : List (WalletRewardHold Id)) (sound : ∀ hold ∈ rows, Sound hold) :
    lockedFrom createdAt (fun _ => now) (rows.filter fun hold => Open accountID hold) =
      Fifo.held (fun hold => if hold.accountID = accountID then unreleased createdAt now hold else 0) rows := by
  induction rows with
  | nil => rfl
  | cons hold rest ih =>
      obtain ⟨here, others⟩ := List.forall_mem_cons.mp sound
      rw [Fifo.held_cons, ← ih others]
      by_cases owned : hold.accountID = accountID
      · rw [if_pos owned]
        by_cases opened : Open accountID hold
        · rw [List.filter_cons_of_pos (by simpa using opened), lockedFrom_cons]
        · have closed : left hold = 0 := by
            have within := here.2
            have full : ¬ hold.consumedAmount < hold.originalAmount := fun less => opened ⟨owned, less⟩
            unfold left
            omega
          have nothing : unreleased createdAt now hold = 0 := by
            have freed := @released_nonneg createdAt _ (le_trans here.1 here.2) now
            rw [unreleased_eq here, closed]
            omega
          rw [List.filter_cons_of_neg (by simpa using opened), nothing, zero_add]
      · have shut : ¬ Open accountID hold := fun opened => owned opened.1
        rw [List.filter_cons_of_neg (by simpa using shut), if_neg owned, zero_add]

-- What a consumption takes of the locked part of each hold.
def covered (createdAt now : Int) (before after : List (WalletRewardHold Id)) : Int :=
  (List.zipWith (fun was is => min (is.consumedAmount - was.consumedAmount) (unreleased createdAt now was)) before after).sum

theorem Raised.is_take {before after : WalletRewardHold Id} (raised : Raised before after) :
    after = take (after.consumedAmount - before.consumedAmount) before := by
  cases before
  cases after
  obtain ⟨rfl, rfl, rfl, rfl, _, _⟩ := raised
  simp [take]

theorem held_covered {before after : List (WalletRewardHold Id)} (pairs : List.Forall₂ (Consumed accountID) before after)
    (sound : ∀ hold ∈ before, Sound hold) :
    Fifo.held (fun hold => if hold.accountID = accountID then unreleased createdAt now hold else 0) after =
      Fifo.held (fun hold => if hold.accountID = accountID then unreleased createdAt now hold else 0) before -
        covered createdAt now before after := by
  induction pairs with
  | nil => rfl
  | cons pair rest ih =>
      rename_i was is before after
      obtain ⟨here, others⟩ := List.forall_mem_cons.mp sound
      have tail := ih others
      have unlocked : (if is.accountID = accountID then unreleased createdAt now is else 0) =
          (if was.accountID = accountID then unreleased createdAt now was else 0) -
            min (is.consumedAmount - was.consumedAmount) (unreleased createdAt now was) := by
        obtain ⟨raised, foreign⟩ := pair
        have more := raised.more
        have within := raised.within here.2
        by_cases owned : was.accountID = accountID
        · have there : is.consumedAmount - was.consumedAmount ≤ left was := by
            rw [raised.original] at within
            unfold left
            omega
          have fewer := @unreleased_take Id createdAt was here _ (by omega) there now
          rw [← raised.is_take] at fewer
          rw [if_pos owned, if_pos (raised.account.trans owned), fewer]
        · have locked := @unreleased_nonneg Id createdAt now was
          rw [foreign owned, if_neg owned]
          omega
      rw [Fifo.held_cons, Fifo.held_cons, tail, unlocked, covered, covered, List.zipWith_cons_cons, List.sum_cons]
      ring

variable [LinearOrder Id]

def stored (holds : Option (Table (WalletRewardHold Id))) : Table (WalletRewardHold Id) := holds.getD Table.empty

theorem stored_consumed (holds : Option (Table (WalletRewardHold Id))) (named : accountID ≠ "") (positive : 0 < amount) :
    stored (consumeWalletRewardHoldsTx accountID amount holds) = consumeHolds accountID amount (stored holds) := by
  rw [consumeWalletRewardHoldsTx, if_neg (by simp [named, positive])]
  cases holds <;> rfl

theorem consume_some (table : Table (WalletRewardHold Id)) (named : accountID ≠ "") (positive : 0 < amount) :
    consumeWalletRewardHoldsTx accountID amount (some table) = some (consumeHolds accountID amount table) := by
  rw [consumeWalletRewardHoldsTx, if_neg (by simp [named, positive]), Option.map_some]

theorem stored_unchanged (holds : Option (Table (WalletRewardHold Id))) (idle : accountID = "" ∨ amount ≤ 0) :
    consumeWalletRewardHoldsTx accountID amount holds = holds := by
  rw [consumeWalletRewardHoldsTx, if_pos idle]

def consume (holds : Option (Table (WalletRewardHold Id))) (call : String × Int) : Option (Table (WalletRewardHold Id)) :=
  consumeWalletRewardHoldsTx call.1 call.2 holds

theorem consume_raised (holds : Option (Table (WalletRewardHold Id))) (sound : AllSound (stored holds)) (call : String × Int) :
    List.Forall₂ Raised (stored holds).rows (stored (consume holds call)).rows := by
  by_cases idle : call.1 = "" ∨ call.2 ≤ 0
  · rw [consume, stored_unchanged holds idle, List.forall₂_same]
    intro hold _
    exact Raised.refl hold
  · rw [not_or, not_le] at idle
    rw [consume, stored_consumed holds idle.1 idle.2]
    exact (consumeHolds_consumed idle.2 sound).imp fun _ _ consumed => consumed.1

theorem Raised.all_sound {before after : Table (WalletRewardHold Id)} (raised : List.Forall₂ Raised before.rows after.rows)
    (sound : AllSound before) : AllSound after := by
  intro hold listed
  obtain ⟨was, there, more⟩ := pairs_back raised listed
  exact more.sound (sound was there)

theorem run_raised (holds : Option (Table (WalletRewardHold Id))) (sound : AllSound (stored holds)) (calls : List (String × Int)) :
    List.Forall₂ Raised (stored holds).rows (stored (run consume holds calls)).rows := by
  induction calls generalizing holds with
  | nil =>
      rw [run_nil, List.forall₂_same]
      intro hold _
      exact Raised.refl hold
  | cons call rest ih =>
      have first := consume_raised holds sound call
      rw [run_cons]
      have others := ih (consume holds call) (Raised.all_sound first sound)
      apply pairs_trans _ first others
      intro was between is early late
      exact early.trans late

def ownedBy (accountID : String) (table : Table (WalletRewardHold Id)) : List (WalletRewardHold Id) :=
  table.rows.filter fun hold => hold.accountID = accountID

def consumedTotal (accountID : String) (table : Table (WalletRewardHold Id)) : Int :=
  ((ownedBy accountID table).map (·.consumedAmount)).sum

def unconsumedTotal (accountID : String) (table : Table (WalletRewardHold Id)) : Int :=
  ((ownedBy accountID table).map left).sum

theorem consumed_exactly {table : Table (WalletRewardHold Id)} (positive : 0 < amount) (sound : AllSound table) :
    consumedTotal accountID (consumeHolds accountID amount table) =
      consumedTotal accountID table + min amount (unconsumedTotal accountID table) := by
  have weights (weight : WalletRewardHold Id → Int) (rows : Table (WalletRewardHold Id)) :
      ((ownedBy accountID rows).map weight).sum = Fifo.held weight (accountHolds accountID rows) :=
    ((accountHolds_perm accountID rows).map weight).sum_eq.symm
  rw [consumedTotal, consumedTotal, unconsumedTotal, weights, weights, weights, accountHolds_consumed positive sound]
  exact @Fifo.weight_drain _ left take (·.consumedAmount) (fun _ _ => rfl) amount (le_of_lt positive) _ (lefts (sound.accountHolds accountID))

theorem unlocked_exactly {table : Table (WalletRewardHold Id)} (positive : 0 < amount) (sound : AllSound table) :
    lockedAmount accountID createdAt (fun _ => now) (consumeHolds accountID amount table) =
      lockedAmount accountID createdAt (fun _ => now) table -
        covered createdAt now table.rows (consumeHolds accountID amount table).rows := by
  have pairs := @consumeHolds_consumed Id _ accountID _ _ positive sound
  have still := Raised.all_sound (pairs.imp fun _ _ consumed => consumed.1) sound
  rw [lockedAmount, lockedAmount, lockedFrom_still _ still, lockedFrom_still _ sound]
  exact held_covered pairs sound

-- What a transfer may not touch: nothing where the store has no table of holds or the user has no wallet account.
def lockedFor (holds : Option (Table (WalletRewardHold Id))) (account : Except LookupError String) (createdAt : Except String Int)
    (now : ℕ → Int) : Int :=
  match holds, account, createdAt with
  | some table, .ok accountID, .ok createdAt => lockedAmount accountID createdAt now table
  | _, _, _ => 0

theorem admitted_leaves {userID amount : Int} {balance : Except String Int} {holds : Option (Table (WalletRewardHold Id))}
    {account : Except LookupError String} {createdAt : Except String Int} {now : ℕ → Int}
    (admitted : ensureWalletTransferQuotaTx userID amount balance holds account createdAt now = .ok ()) :
    ∃ credit, balance = .ok credit ∧ lockedFor holds account createdAt now ≤ credit - amount := by
  unfold ensureWalletTransferQuotaTx at admitted
  split at admitted
  · cases admitted
  · cases balance with
    | error problem => cases admitted
    | ok credit =>
        refine ⟨credit, rfl, ?_⟩
        cases holds with
        | none =>
            dsimp only at admitted
            split at admitted
            · cases admitted
            · simp only [lockedFor]
              omega
        | some table =>
            cases account with
            | error problem =>
                cases problem with
                | recordNotFound =>
                    dsimp only at admitted
                    split at admitted
                    · cases admitted
                    · simp only [lockedFor]
                      omega
                | failed problem => cases admitted
            | ok accountID =>
                cases createdAt with
                | error problem => cases admitted
                | ok createdAt =>
                    dsimp only at admitted
                    split at admitted
                    · cases admitted
                    · simp only [lockedFor]
                      omega

theorem holds_lock_unreleased (accountID : String) (named : accountID ≠ "") (holds : Option (Table (WalletRewardHold Id)))
    (sound : AllSound (stored holds)) (calls : List (String × Int)) :
    AllSound (stored (run consume holds calls)) ∧
      (∀ amount, 0 < amount →
        consumedTotal accountID (stored (consumeWalletRewardHoldsTx accountID amount (run consume holds calls))) =
            consumedTotal accountID (stored (run consume holds calls)) +
              min amount (unconsumedTotal accountID (stored (run consume holds calls))) ∧
          accountHolds accountID (stored (consumeWalletRewardHoldsTx accountID amount (run consume holds calls))) =
            drain amount (accountHolds accountID (stored (run consume holds calls)))) ∧
      (∀ first second, 0 < first → 0 < second →
        consumeWalletRewardHoldsTx accountID second (consumeWalletRewardHoldsTx accountID first (run consume holds calls)) =
          consumeWalletRewardHoldsTx accountID (first + second) (run consume holds calls)) ∧
      (∀ createdAt early late, (∀ first second : ℕ, early first ≤ late second) →
        lockedAmount accountID createdAt late (stored (run consume holds calls)) ≤
          lockedAmount accountID createdAt early (stored holds)) ∧
      (∀ createdAt now, (∀ reading : ℕ, walletRewardTransferReleaseFull ≤ age createdAt (now reading)) →
        lockedAmount accountID createdAt now (stored (run consume holds calls)) = 0) ∧
      (∀ createdAt now balance amount, 0 < amount →
        balance - amount -
            lockedAmount accountID createdAt (fun _ => now)
              (stored (consumeWalletRewardHoldsTx accountID amount (run consume holds calls))) =
          balance - lockedAmount accountID createdAt (fun _ => now) (stored (run consume holds calls)) -
            (amount - covered createdAt now (stored (run consume holds calls)).rows
              (stored (consumeWalletRewardHoldsTx accountID amount (run consume holds calls))).rows)) ∧
      (∀ userID amount balance account createdAt now,
        ensureWalletTransferQuotaTx userID amount balance (run consume holds calls) account createdAt now = .ok () →
        ∃ credit, balance = .ok credit ∧ lockedFor (run consume holds calls) account createdAt now ≤ credit - amount) := by
  have raised := run_raised holds sound calls
  have still := Raised.all_sound raised sound
  generalize run consume holds calls = reached at raised still ⊢
  refine ⟨still, ?_, ?_, ?_, ?_, ?_, ?_⟩
  · intro amount positive
    rw [stored_consumed reached named positive]
    exact ⟨consumed_exactly positive still, accountHolds_consumed positive still⟩
  · intro first second firstPositive secondPositive
    cases reached with
    | none => simp [consumeWalletRewardHoldsTx]
    | some table =>
        have twice := @consumeHolds_twice Id _ accountID table _ _ firstPositive secondPositive still
        rw [consume_some table named firstPositive, consume_some _ named secondPositive,
          consume_some table named (add_pos firstPositive secondPositive), twice]
  · intro createdAt early late later
    exact lockedFrom_mono accountID raised sound early late later
  · intro createdAt now old
    exact lockedFrom_full _ (fun hold listed => still hold (List.mem_of_mem_filter listed)) now old
  · intro createdAt now balance amount positive
    rw [stored_consumed reached named positive, unlocked_exactly positive still]
    ring
  · intro userID amount balance account createdAt now admitted
    exact admitted_leaves admitted

end locks

-- Two rewards of an account that is two days old: half of each is released.
def twoRewards : Table (WalletRewardHold ℕ) :=
  ⟨[{ holdID := 1, accountID := "wallet", originalAmount := 100, createdAt := 5 },
    { holdID := 2, accountID := "wallet", originalAmount := 100, createdAt := 7 }], by decide⟩

theorem holds_lock_unreleased_rewards :
    consumedTotal "wallet" (stored (consumeWalletRewardHoldsTx "wallet" 150 (run consume (some twoRewards) [("wallet", 20)]))) =
      consumedTotal "wallet" (stored (run consume (some twoRewards) [("wallet", 20)])) +
        min 150 (unconsumedTotal "wallet" (stored (run consume (some twoRewards) [("wallet", 20)]))) :=
  ((holds_lock_unreleased "wallet" (by decide) (some twoRewards) (by unfold AllSound Sound; decide) [("wallet", 20)]).2.1
    150 (by decide)).1

-- The released half of the older reward is spent before the locked half of the newer one.
theorem released_half_spent_first :
    ¬ ∀ (table : Table (WalletRewardHold ℕ)) (accountID : String) (createdAt now balance amount : Int), AllSound table → 0 < amount →
      (balance - lockedAmount accountID createdAt (fun _ => now) table) -
          (balance - amount - lockedAmount accountID createdAt (fun _ => now)
            (stored (consumeWalletRewardHoldsTx accountID amount (some table)))) ≤
        max 0 (amount - lockedAmount accountID createdAt (fun _ => now) table) := by
  intro bounded
  have short := bounded twoRewards "wallet" 1 (1000000000 + 48 * hour) 200 100 (by unfold AllSound Sound; decide) (by decide)
  revert short
  decide +kernel

end CodeGo.Billing.RewardHolds
