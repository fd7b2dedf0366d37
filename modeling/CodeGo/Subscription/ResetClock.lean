import CodeGo.Lib.Gregorian
import CodeGo.Subscription.Resets

set_option autoImplicit false

namespace CodeGo.Subscription.Clock

open Machine Gregorian Relational Billing

/- The catch-up of a periodic reset in a zone of fixed offset, with the custom period taken
   through time.Duration: a count of nanoseconds in a 64-bit register. -/

def localDay (offset base : Int) : Int := (base + offset) / 86400

def midnight (offset day : Int) : Int := day * 86400 - offset

def nextDay (offset base : Int) : Int := midnight offset (localDay offset base + 1)

def nextWeek (base : Int) : Int := base + 7 * 86400

def nextMonth (offset base : Int) : Int := midnight offset (monthStart (monthOf (localDay offset base) + 1))

theorem next_month_later (offset base : Int) : base < nextMonth offset base := by
  have after := (month_of_spec (localDay offset base)).2
  unfold nextMonth midnight
  generalize monthStart (monthOf (localDay offset base) + 1) = day at *
  unfold localDay at after
  omega

def fixedZone (offset : Int) : Calendar where
  nextDay := nextDay offset
  nextWeek := nextWeek
  nextMonth := nextMonth offset
  later base := by
    refine ⟨?_, ?_, next_month_later offset base⟩
    · unfold nextDay midnight localDay
      omega
    · unfold nextWeek
      omega

-- The seconds by which time.Duration(seconds) * time.Second moves a time.
def customStride (seconds : Int) : Int := wrap (seconds * 10 ^ 9) / 10 ^ 9

def nextReset (offset : Int) (plan : SubscriptionPlan) (base : Int) : Int :=
  match plan.quotaResetPeriod with
  | .never => 0
  | .daily => nextDay offset base
  | .weekly => nextWeek base
  | .monthly => nextMonth offset base
  | .custom => if plan.quotaResetCustomSeconds ≤ 0 then 0 else base + customStride plan.quotaResetCustomSeconds

def calcNextSubscriptionResetTime (offset base : Int) (plan : SubscriptionPlan) (endUnix : Int) : Int :=
  if 0 < endUnix ∧ endUnix < nextReset offset plan base then 0 else nextReset offset plan base

-- The loop may not come to an end, so its turns are counted.
def catchUp (offset : Int) (plan : SubscriptionPlan) (endUnix now : Int) : Nat → Int → Int → Option (Int × Int)
  | 0, _, _ => none
  | fuel + 1, base, next =>
      if 0 < next ∧ next ≤ now then catchUp offset plan endUnix now fuel next (calcNextSubscriptionResetTime offset next plan endUnix)
      else some (base, next)

-- The row a reset leaves, its quota given back.
def advanced (plan : SubscriptionPlan) (sub : UserSubscription) (passed following : Int) : UserSubscription :=
  let cleared := if UsesLegacySubscriptionPeriodicQuota plan sub then { sub with amountUsed := 0 } else { sub with periodUsed := 0 }
  { cleared with modelUsage := [], lastResetTime := passed, nextResetTime := following }

def maybeReset (offset : Int) (fuel : Nat) (sub : UserSubscription) (plan : SubscriptionPlan) (now : Int) : Option UserSubscription :=
  let base := resetBase sub
  let next := calcNextSubscriptionResetTime offset base plan sub.endTime
  if sub.CreditPack ∨ plan.quotaResetPeriod = .never then some sub
  else if next = 0 ∨ now < next then some { sub with lastResetTime := base, nextResetTime := next }
  else if next < 0 then some sub
  else (catchUp offset plan sub.endTime now fuel base next).map fun times => advanced plan sub times.1 times.2

def Reaches (offset : Int) (plan : SubscriptionPlan) (endUnix now base next passed following : Int) : Prop :=
  ∃ fuel, catchUp offset plan endUnix now fuel base next = some (passed, following)

def Resets (offset : Int) (plan : SubscriptionPlan) (sub : UserSubscription) (now : Int) (after : UserSubscription) : Prop :=
  ∃ fuel, maybeReset offset fuel sub plan now = some after

section Loop

variable {offset : Int} {plan : SubscriptionPlan} {endUnix now base next passed following : Int}

theorem reaches_stopped (stop : ¬ (0 < next ∧ next ≤ now)) :
    Reaches offset plan endUnix now base next passed following ↔ passed = base ∧ following = next := by
  constructor
  · intro ⟨fuel, ran⟩
    cases fuel with
    | zero => exact nomatch ran
    | succ fuel =>
        rw [catchUp, if_neg stop, Option.some.injEq, Prod.mk.injEq] at ran
        exact ⟨ran.1.symm, ran.2.symm⟩
  · intro ⟨samePassed, sameFollowing⟩
    exact ⟨1, by rw [catchUp, if_neg stop, samePassed, sameFollowing]⟩

theorem reaches_turn (due : 0 < next ∧ next ≤ now) :
    Reaches offset plan endUnix now base next passed following ↔
      Reaches offset plan endUnix now next (calcNextSubscriptionResetTime offset next plan endUnix) passed following := by
  constructor
  · intro ⟨fuel, ran⟩
    cases fuel with
    | zero => exact nomatch ran
    | succ fuel =>
        rw [catchUp, if_pos due] at ran
        exact ⟨fuel, ran⟩
  · intro ⟨fuel, ran⟩
    exact ⟨fuel + 1, by rw [catchUp, if_pos due, ran]⟩

-- Stopping on the way, and going on at a later time from there, reaches the same.
theorem reaches_staged {later last then_ : Int} (after : now ≤ later) (early : Reaches offset plan endUnix now base next passed following) :
    Reaches offset plan endUnix later base next last then_ ↔ Reaches offset plan endUnix later passed following last then_ := by
  obtain ⟨fuel, ran⟩ := early
  induction fuel generalizing base next with
  | zero => exact nomatch ran
  | succ fuel ih =>
      by_cases due : 0 < next ∧ next ≤ now
      · rw [catchUp, if_pos due] at ran
        rw [reaches_turn ⟨due.1, by omega⟩]
        exact ih ran
      · rw [catchUp, if_neg due, Option.some.injEq, Prod.mk.injEq] at ran
        rw [ran.1, ran.2]

end Loop

-- A period that moves time on. The calendar's always do.
def Forward (plan : SubscriptionPlan) : Prop := plan.quotaResetPeriod = .custom → 0 < customStride plan.quotaResetCustomSeconds

instance (plan : SubscriptionPlan) : Decidable (Forward plan) := inferInstanceAs (Decidable (_ → _))

theorem calc_forward {plan : SubscriptionPlan} (forward : Forward plan) (offset base endUnix : Int) :
    calcNextSubscriptionResetTime offset base plan endUnix = 0 ∨ base < calcNextSubscriptionResetTime offset base plan endUnix := by
  unfold calcNextSubscriptionResetTime
  split
  · exact .inl rfl
  · obtain ⟨day, week, month⟩ := (fixedZone offset).later base
    unfold nextReset
    split
    · exact .inl rfl
    · exact .inr day
    · exact .inr week
    · exact .inr month
    · rename_i custom
      have stride := forward custom
      split
      · exact .inl rfl
      · exact .inr (by omega)

theorem calc_custom {plan : SubscriptionPlan} (custom : plan.quotaResetPeriod = .custom) (positive : 0 < plan.quotaResetCustomSeconds)
    (offset base endUnix : Int) (uncut : ¬ (0 < endUnix ∧ endUnix < base + customStride plan.quotaResetCustomSeconds)) :
    calcNextSubscriptionResetTime offset base plan endUnix = base + customStride plan.quotaResetCustomSeconds := by
  have next : nextReset offset plan base = base + customStride plan.quotaResetCustomSeconds := by
    rw [nextReset, custom]
    exact if_neg (by omega)
  rw [calcNextSubscriptionResetTime, next, if_neg uncut]

-- A period that moves time on catches up with every time.
theorem forward_reaches {plan : SubscriptionPlan} (forward : Forward plan) (offset endUnix now base next : Int) :
    ∃ passed following, Reaches offset plan endUnix now base next passed following ∧ ¬ (0 < following ∧ following ≤ now) ∧
      ((passed = base ∧ following = next) ∨
        (next ≤ passed ∧ 0 < passed ∧ passed ≤ now ∧ following = calcNextSubscriptionResetTime offset passed plan endUnix)) := by
  generalize turns : (now + 1 - next).toNat = count
  induction count using Nat.strong_induction_on generalizing base next with
  | _ count ih =>
      by_cases due : 0 < next ∧ next ≤ now
      · obtain none | later := calc_forward forward offset next endUnix
        · refine ⟨next, 0, (reaches_turn due).2 ((reaches_stopped ?_).2 ⟨rfl, none.symm⟩), by omega, .inr ⟨le_refl _, due.1, due.2, none.symm⟩⟩
          omega
        · obtain ⟨passed, following, reached, stopped, place⟩ :=
            ih (now + 1 - calcNextSubscriptionResetTime offset next plan endUnix).toNat (by omega) next _ rfl
          refine ⟨passed, following, (reaches_turn due).2 reached, stopped, .inr ?_⟩
          obtain ⟨rfl, rfl⟩ | ⟨above, positive, within, scheduled⟩ := place
          · exact ⟨le_refl _, due.1, due.2, rfl⟩
          · exact ⟨by omega, positive, within, scheduled⟩
      · exact ⟨base, next, (reaches_stopped due).2 ⟨rfl, rfl⟩, due, .inl ⟨rfl, rfl⟩⟩

section Backward

variable {plan : SubscriptionPlan} (custom : plan.quotaResetPeriod = .custom) (positive : 0 < plan.quotaResetCustomSeconds)
  (backward : customStride plan.quotaResetCustomSeconds ≤ 0)

include custom positive backward

-- A period that moves back counts down, and stops at or below zero if it stops.
theorem backward_lands {offset endUnix now base next passed following : Int} (due : 0 < next ∧ next ≤ now) (uncut : ¬ (0 < endUnix ∧ endUnix < next))
    (reached : Reaches offset plan endUnix now base next passed following) :
    following ≤ 0 ∧ (following = 0 → passed = -customStride plan.quotaResetCustomSeconds ∧ -customStride plan.quotaResetCustomSeconds ∣ next) := by
  obtain ⟨fuel, ran⟩ := reached
  induction fuel generalizing base next with
  | zero => exact nomatch ran
  | succ fuel ih =>
      rw [catchUp, if_pos due, calc_custom custom positive offset next endUnix (by omega)] at ran
      generalize customStride plan.quotaResetCustomSeconds = stride at *
      by_cases more : 0 < next + stride
      · obtain ⟨landed, zero⟩ := ih ⟨more, by omega⟩ (by omega) ran
        refine ⟨landed, fun same => ⟨(zero same).1, ?_⟩⟩
        have divides := Int.dvd_add (zero same).2 (Int.dvd_refl (-stride))
        rwa [Int.add_assoc, Int.add_right_neg, Int.add_zero] at divides
      · obtain ⟨samePassed, sameFollowing⟩ := (reaches_stopped (by omega)).1 ⟨fuel, ran⟩
        refine ⟨by omega, fun same => ?_⟩
        have last : next = -stride := by omega
        exact ⟨samePassed.trans last, last ▸ Int.dvd_refl _⟩

theorem backward_reaches {offset endUnix now base next : Int} (due : 0 < next ∧ next ≤ now) (uncut : ¬ (0 < endUnix ∧ endUnix < next))
    (divides : -customStride plan.quotaResetCustomSeconds ∣ next) :
    Reaches offset plan endUnix now base next (-customStride plan.quotaResetCustomSeconds) 0 := by
  generalize turns : next.toNat = count
  induction count using Nat.strong_induction_on generalizing base next with
  | _ count ih =>
      apply (reaches_turn due).2
      rw [calc_custom custom positive offset next endUnix (by omega)]
      generalize customStride plan.quotaResetCustomSeconds = stride at *
      obtain ⟨times, count⟩ := divides
      have nonzero : stride ≠ 0 := by
        rintro rfl
        omega
      have fewer : -stride ∣ next + stride := ⟨times - 1, by rw [count, Int.mul_sub]; omega⟩
      have above : -stride ≤ next := Int.le_of_dvd due.1 ⟨times, count⟩
      by_cases last : next = -stride
      · apply (reaches_stopped (by omega)).2
        omega
      · exact ih _ (by omega) ⟨by omega, by omega⟩ (by omega) fewer rfl

end Backward

def firstReset (offset : Int) (plan : SubscriptionPlan) (sub : UserSubscription) : Int :=
  calcNextSubscriptionResetTime offset (resetBase sub) plan sub.endTime

-- The calls that leave the row as it is, whatever it says.
def Skipped (offset : Int) (plan : SubscriptionPlan) (sub : UserSubscription) (now : Int) : Prop :=
  sub.CreditPack ∨ plan.quotaResetPeriod = .never ∨ (firstReset offset plan sub < 0 ∧ firstReset offset plan sub ≤ now)

instance (offset : Int) (plan : SubscriptionPlan) (sub : UserSubscription) (now : Int) : Decidable (Skipped offset plan sub now) :=
  inferInstanceAs (Decidable (_ ∨ _ ∨ _))

section Call

variable {offset : Int} {plan : SubscriptionPlan} {sub after : UserSubscription} {now : Int}

theorem resets_skipped (skipped : Skipped offset plan sub now) : Resets offset plan sub now after ↔ after = sub := by
  have same : ∀ fuel, maybeReset offset fuel sub plan now = some sub := by
    intro fuel
    unfold Skipped firstReset at skipped
    unfold maybeReset
    grind
  constructor
  · intro ⟨fuel, ran⟩
    exact (Option.some.inj ((same fuel).symm.trans ran)).symm
  · intro kept
    exact ⟨0, kept ▸ same 0⟩

theorem resets_noted (called : ¬ Skipped offset plan sub now) (early : firstReset offset plan sub = 0 ∨ now < firstReset offset plan sub) :
    Resets offset plan sub now after ↔ after = { sub with lastResetTime := resetBase sub, nextResetTime := firstReset offset plan sub } := by
  unfold Skipped at called
  have noted : ∀ fuel, maybeReset offset fuel sub plan now =
      some { sub with lastResetTime := resetBase sub, nextResetTime := firstReset offset plan sub } := by
    intro fuel
    rw [maybeReset, if_neg (by tauto)]
    exact if_pos early
  constructor
  · intro ⟨fuel, ran⟩
    exact (Option.some.inj ((noted fuel).symm.trans ran)).symm
  · intro kept
    exact ⟨0, kept ▸ noted 0⟩

theorem resets_due (called : ¬ Skipped offset plan sub now) (due : 0 < firstReset offset plan sub ∧ firstReset offset plan sub ≤ now) :
    Resets offset plan sub now after ↔ ∃ passed following,
      Reaches offset plan sub.endTime now (resetBase sub) (firstReset offset plan sub) passed following ∧ after = advanced plan sub passed following := by
  unfold Skipped at called
  have looped : ∀ fuel, maybeReset offset fuel sub plan now =
      (catchUp offset plan sub.endTime now fuel (resetBase sub) (firstReset offset plan sub)).map fun times => advanced plan sub times.1 times.2 := by
    intro fuel
    rw [maybeReset, if_neg (by tauto)]
    rw [← firstReset, if_neg (by omega), if_neg (by omega)]
  constructor
  · intro ⟨fuel, ran⟩
    rw [looped, Option.map_eq_some_iff] at ran
    obtain ⟨times, caught, row⟩ := ran
    exact ⟨times.1, times.2, ⟨fuel, caught⟩, row.symm⟩
  · intro ⟨passed, following, ⟨fuel, caught⟩, row⟩
    exact ⟨fuel, by rw [looped, caught, row, Option.map_some]⟩

end Call

theorem called_cases (offset : Int) (plan : SubscriptionPlan) (sub : UserSubscription) (now : Int) :
    Skipped offset plan sub now ∨ (¬ Skipped offset plan sub now ∧ (firstReset offset plan sub = 0 ∨ now < firstReset offset plan sub)) ∨
      (¬ Skipped offset plan sub now ∧ 0 < firstReset offset plan sub ∧ firstReset offset plan sub ≤ now) := by
  by_cases skipped : Skipped offset plan sub now
  · exact .inl skipped
  · have reset := skipped
    unfold Skipped at reset
    by_cases early : firstReset offset plan sub = 0 ∨ now < firstReset offset plan sub
    · exact .inr (.inl ⟨skipped, early⟩)
    · exact .inr (.inr ⟨skipped, by omega, by omega⟩)

-- What a caller of the catch-up counts on.
structure CaughtUp (offset : Int) (plan : SubscriptionPlan) (sub : UserSubscription) (now : Int) (after : UserSubscription) : Prop where
  ran : Resets offset plan sub now after
  following : after.nextResetTime = 0 ∨ now < after.nextResetTime
  passed : after.lastResetTime ≤ now
  again : Resets offset plan after now after
  direct : ∀ later, now ≤ later → ∃ staged straight, Resets offset plan after later staged ∧ Resets offset plan sub later straight ∧
    staged.lastResetTime = straight.lastResetTime ∧ staged.nextResetTime = straight.nextResetTime

-- When it can: the row was right already and is left alone; or time moves on and the row
-- does not start in the future; or a period that moves back comes down on zero exactly.
def Timely (offset : Int) (plan : SubscriptionPlan) (sub : UserSubscription) (now : Int) : Prop :=
  if Skipped offset plan sub now then (sub.nextResetTime = 0 ∨ now < sub.nextResetTime) ∧ sub.lastResetTime ≤ now
  else if firstReset offset plan sub = 0 ∨ now < firstReset offset plan sub ∨ Forward plan then
    -- Before the epoch a reset that falls due later is passed over, so it has to be on the row.
    resetBase sub ≤ now ∧
      (firstReset offset plan sub < 0 → sub.lastResetTime = resetBase sub ∧ sub.nextResetTime = firstReset offset plan sub)
  else -customStride plan.quotaResetCustomSeconds ∣ firstReset offset plan sub ∧
    (0 < sub.startTime → -customStride plan.quotaResetCustomSeconds < sub.startTime → -customStride plan.quotaResetCustomSeconds ∣ sub.startTime)

-- A row that says when its last reset fell due keeps that base.
theorem reset_base_kept (sub row : UserSubscription) (start : row.startTime = sub.startTime) (last : row.lastResetTime = resetBase sub) :
    resetBase row = resetBase sub := by
  unfold resetBase at *
  grind

theorem reset_base_of_passed (row : UserSubscription) (positive : 0 < row.lastResetTime) (started : row.startTime ≤ row.lastResetTime) :
    resetBase row = row.lastResetTime := by
  unfold resetBase
  grind

theorem start_le_base (sub : UserSubscription) : sub.startTime ≤ resetBase sub := by
  unfold resetBase
  split <;> omega

@[simp] theorem advanced_start (plan : SubscriptionPlan) (sub : UserSubscription) (passed following : Int) :
    (advanced plan sub passed following).startTime = sub.startTime := by
  unfold advanced
  split <;> rfl

@[simp] theorem advanced_end (plan : SubscriptionPlan) (sub : UserSubscription) (passed following : Int) :
    (advanced plan sub passed following).endTime = sub.endTime := by
  unfold advanced
  split <;> rfl

@[simp] theorem advanced_pack (plan : SubscriptionPlan) (sub : UserSubscription) (passed following : Int) :
    (advanced plan sub passed following).CreditPack ↔ sub.CreditPack := by
  unfold advanced
  split <;> rfl

@[simp] theorem advanced_last (plan : SubscriptionPlan) (sub : UserSubscription) (passed following : Int) :
    (advanced plan sub passed following).lastResetTime = passed := rfl

@[simp] theorem advanced_next (plan : SubscriptionPlan) (sub : UserSubscription) (passed following : Int) :
    (advanced plan sub passed following).nextResetTime = following := rfl

@[simp] theorem advanced_legacy (plan : SubscriptionPlan) (sub : UserSubscription) (passed following : Int) :
    UsesLegacySubscriptionPeriodicQuota plan (advanced plan sub passed following) ↔ UsesLegacySubscriptionPeriodicQuota plan sub := by
  rw [advanced]
  split <;> rfl

-- Emptying a period twice is emptying it once.
theorem advanced_twice (plan : SubscriptionPlan) (sub : UserSubscription) (passed following last then_ : Int) :
    advanced plan (advanced plan sub passed following) last then_ = advanced plan sub last then_ := by
  rw [advanced]
  by_cases legacy : UsesLegacySubscriptionPeriodicQuota plan sub
  · rw [if_pos ((advanced_legacy ..).2 legacy), advanced, advanced, if_pos legacy]
  · rw [if_neg fun same => legacy ((advanced_legacy ..).1 same), advanced, advanced, if_neg legacy]

-- A second call that finds the same base and nothing new due keeps the row.
theorem rest_kept {offset : Int} {plan : SubscriptionPlan} {row : UserSubscription} {now : Int}
    (base : row.lastResetTime = resetBase row) (next : row.nextResetTime = firstReset offset plan row)
    (early : row.nextResetTime = 0 ∨ now < row.nextResetTime) : Resets offset plan row now row := by
  by_cases skipped : Skipped offset plan row now
  · exact (resets_skipped skipped).2 rfl
  · rw [next] at early
    exact (resets_noted skipped early).2 (by rw [← base, ← next])

section Timely

variable {offset : Int} {plan : SubscriptionPlan} {sub after : UserSubscription} {now : Int}

theorem skipped_later {later : Int} (order : now ≤ later) (skipped : Skipped offset plan sub now) : Skipped offset plan sub later :=
  skipped.imp_right fun others => others.imp_right fun negative => ⟨negative.1, negative.2.trans order⟩

theorem first_negative {later : Int} (called : ¬ Skipped offset plan sub now) (skipped : Skipped offset plan sub later) :
    firstReset offset plan sub < 0 := by
  obtain pack | never | negative := skipped
  · exact (called (.inl pack)).elim
  · exact (called (.inr (.inl never))).elim
  · exact negative.1

theorem caught_up_skipped (skipped : Skipped offset plan sub now) :
    (∃ after, CaughtUp offset plan sub now after) ↔ (sub.nextResetTime = 0 ∨ now < sub.nextResetTime) ∧ sub.lastResetTime ≤ now := by
  constructor
  · intro ⟨after, caught⟩
    have kept := (resets_skipped skipped).1 caught.ran
    rw [← kept]
    exact ⟨caught.following, caught.passed⟩
  · intro ⟨following, passed⟩
    have stays : ∀ later, now ≤ later → Resets offset plan sub later sub := fun later order => (resets_skipped (skipped_later order skipped)).2 rfl
    exact ⟨sub, stays now (le_refl _), following, passed, stays now (le_refl _), fun later order => ⟨sub, sub, stays later order, stays later order, rfl, rfl⟩⟩

-- The row a call notes its base on.
def noted (offset : Int) (plan : SubscriptionPlan) (sub : UserSubscription) : UserSubscription :=
  { sub with lastResetTime := resetBase sub, nextResetTime := firstReset offset plan sub }

theorem noted_base (offset : Int) (plan : SubscriptionPlan) (sub : UserSubscription) : resetBase (noted offset plan sub) = resetBase sub :=
  reset_base_kept sub (noted offset plan sub) rfl rfl

theorem noted_first (offset : Int) (plan : SubscriptionPlan) (sub : UserSubscription) :
    firstReset offset plan (noted offset plan sub) = firstReset offset plan sub := by
  rw [firstReset, noted_base]
  rfl

theorem noted_skipped : Skipped offset plan (noted offset plan sub) now ↔ Skipped offset plan sub now := by
  rw [Skipped, noted_first]
  rfl

-- A period that moves back leaves no reset after the base.
theorem forward_of_early (base : resetBase sub ≤ now) (early : now < firstReset offset plan sub)
    (next : firstReset offset plan sub ≠ 0) : Forward plan := by
  intro custom
  unfold firstReset calcNextSubscriptionResetTime nextReset at *
  rw [custom] at early next
  grind

theorem caught_up_early (called : ¬ Skipped offset plan sub now) (early : firstReset offset plan sub = 0 ∨ now < firstReset offset plan sub) :
    (∃ after, CaughtUp offset plan sub now after) ↔ resetBase sub ≤ now ∧
      (firstReset offset plan sub < 0 → sub.lastResetTime = resetBase sub ∧ sub.nextResetTime = firstReset offset plan sub) := by
  have calledNoted : ¬ Skipped offset plan (noted offset plan sub) now := fun skipped => called (noted_skipped.1 skipped)
  constructor
  · intro ⟨after, caught⟩
    have row : after = noted offset plan sub := (resets_noted called early).1 caught.ran
    have passed := caught.passed
    rw [row] at passed
    refine ⟨passed, fun negative => ?_⟩
    obtain ⟨staged, straight, first, second, last, next⟩ := caught.direct 0 (by omega)
    have skipped : Skipped offset plan sub 0 := .inr (.inr ⟨negative, by omega⟩)
    rw [row, resets_skipped (noted_skipped.2 skipped)] at first
    rw [resets_skipped skipped] at second
    rw [first, second] at last next
    exact ⟨last.symm, next.symm⟩
  · intro ⟨base, settled⟩
    refine ⟨noted offset plan sub, (resets_noted called early).2 rfl, early, base, ?_, fun later order => ?_⟩
    · exact rest_kept (noted_base ..).symm (noted_first ..).symm early
    · obtain skipped | ⟨called, early⟩ | ⟨called, due⟩ := called_cases offset plan sub later
      · refine ⟨_, _, (resets_skipped (noted_skipped.2 skipped)).2 rfl, (resets_skipped skipped).2 rfl, ?_⟩
        obtain ⟨last, next⟩ := settled (first_negative (fun skipped => calledNoted (noted_skipped.2 skipped)) skipped)
        exact ⟨last.symm, next.symm⟩
      · refine ⟨_, _, (resets_noted (fun skipped => called (noted_skipped.1 skipped)) ?_).2 rfl, (resets_noted called early).2 rfl, ?_, ?_⟩
        · rw [noted_first]
          exact early
        · exact noted_base ..
        · exact noted_first ..
      · have forward := forward_of_early base (early.resolve_left due.1.ne') due.1.ne'
        obtain ⟨passed, following, reached, _⟩ := forward_reaches forward offset sub.endTime later (resetBase sub) (firstReset offset plan sub)
        refine ⟨_, _, (resets_due (fun skipped => called (noted_skipped.1 skipped)) ?_).2 ⟨passed, following, ?_, rfl⟩,
          (resets_due called due).2 ⟨passed, following, reached, rfl⟩, rfl, rfl⟩
        · rw [noted_first]
          exact due
        · rw [noted_first, noted_base]
          exact reached

theorem called_of {row : UserSubscription} {time : Int} (called : ¬ Skipped offset plan sub now) (pack : row.CreditPack ↔ sub.CreditPack)
    (reset : 0 ≤ firstReset offset plan row) : ¬ Skipped offset plan row time := by
  unfold Skipped at called ⊢
  rw [pack]
  grind

theorem caught_up_forward (called : ¬ Skipped offset plan sub now) (due : 0 < firstReset offset plan sub ∧ firstReset offset plan sub ≤ now)
    (forward : Forward plan) : ∃ after, CaughtUp offset plan sub now after := by
  obtain ⟨passed, following, reached, stopped, place⟩ := forward_reaches forward offset sub.endTime now (resetBase sub) (firstReset offset plan sub)
  obtain ⟨_, same⟩ | ⟨later, positive, within, scheduled⟩ := place
  · rw [same] at stopped
    exact (stopped due).elim
  have start := start_le_base sub
  have first : resetBase sub < firstReset offset plan sub := (calc_forward forward offset (resetBase sub) sub.endTime).resolve_left due.1.ne'
  have early : following = 0 ∨ now < following := by
    have next := calc_forward forward offset passed sub.endTime
    omega
  have base : resetBase (advanced plan sub passed following) = passed := reset_base_of_passed _ positive (by rw [advanced_start, advanced_last]; omega)
  have next : firstReset offset plan (advanced plan sub passed following) = following := by
    rw [firstReset, base, advanced_end, scheduled]
  refine ⟨advanced plan sub passed following, (resets_due called due).2 ⟨passed, following, reached, rfl⟩, early, within,
    rest_kept base.symm next.symm early, fun time order => ?_⟩
  have calledLater : ¬ Skipped offset plan sub time := called_of called Iff.rfl due.1.le
  have calledAgain : ¬ Skipped offset plan (advanced plan sub passed following) time := by
    apply called_of called (advanced_pack ..)
    omega
  obtain ⟨last, after, reachedLater, _⟩ := forward_reaches forward offset sub.endTime time (resetBase sub) (firstReset offset plan sub)
  have straight := (resets_due calledLater ⟨due.1, due.2.trans order⟩).2 ⟨last, after, reachedLater, rfl⟩
  have onward := (reaches_staged order reached).1 reachedLater
  by_cases rests : following = 0 ∨ time < following
  · obtain ⟨sameLast, sameAfter⟩ := (reaches_stopped (by omega)).1 onward
    refine ⟨_, _, (resets_noted calledAgain (next.symm ▸ rests)).2 rfl, straight, ?_, ?_⟩
    · exact base.trans sameLast.symm
    · exact next.trans sameAfter.symm
  · refine ⟨_, _, (resets_due calledAgain (by omega)).2 ⟨last, after, ?_, rfl⟩, straight, rfl, rfl⟩
    rw [base, next, advanced_end]
    exact onward

theorem first_backward (backward : ¬ Forward plan) (next : firstReset offset plan sub ≠ 0) :
    plan.quotaResetPeriod = .custom ∧ 0 < plan.quotaResetCustomSeconds ∧ customStride plan.quotaResetCustomSeconds ≤ 0 ∧
      firstReset offset plan sub = resetBase sub + customStride plan.quotaResetCustomSeconds ∧
      ¬ (0 < sub.endTime ∧ sub.endTime < firstReset offset plan sub) := by
  obtain ⟨custom, stride⟩ := Classical.not_imp.1 backward
  unfold firstReset calcNextSubscriptionResetTime nextReset at *
  rw [custom] at next ⊢
  grind

-- A row whose last reset precedes its start begins again at the start.
theorem restarted {row : UserSubscription} (custom : plan.quotaResetPeriod = .custom) (positive : 0 < plan.quotaResetCustomSeconds)
    (started : 0 < row.startTime) (before : row.lastResetTime < row.startTime)
    (uncut : ¬ (0 < row.endTime ∧ row.endTime < row.startTime + customStride plan.quotaResetCustomSeconds)) :
    resetBase row = row.startTime ∧ firstReset offset plan row = row.startTime + customStride plan.quotaResetCustomSeconds := by
  have base : resetBase row = row.startTime := if_pos (.inr ⟨started, before⟩)
  refine ⟨base, ?_⟩
  rw [firstReset, base]
  exact calc_custom custom positive offset row.startTime row.endTime uncut

theorem caught_up_backward (called : ¬ Skipped offset plan sub now) (due : 0 < firstReset offset plan sub ∧ firstReset offset plan sub ≤ now)
    (backward : ¬ Forward plan) : (∃ after, CaughtUp offset plan sub now after) ↔
      -customStride plan.quotaResetCustomSeconds ∣ firstReset offset plan sub ∧
      (0 < sub.startTime → -customStride plan.quotaResetCustomSeconds < sub.startTime → -customStride plan.quotaResetCustomSeconds ∣ sub.startTime) := by
  obtain ⟨custom, positive, back, first, uncut⟩ := first_backward backward due.1.ne'
  have start := start_le_base sub
  constructor
  · intro ⟨after, caught⟩
    obtain ⟨passed, following, reached, row⟩ := (resets_due called due).1 caught.ran
    obtain ⟨landed, zero⟩ := backward_lands custom positive back due uncut reached
    have none : following = 0 := by
      have late := caught.following
      rw [row, advanced_next] at late
      omega
    obtain ⟨last, divides⟩ := zero none
    refine ⟨divides, fun started longer => ?_⟩
    have again := caught.again
    rw [row, none, last] at again
    obtain ⟨base, second⟩ := @restarted offset plan (advanced plan sub (-customStride plan.quotaResetCustomSeconds) 0) custom positive
      (by rwa [advanced_start]) (by rwa [advanced_start, advanced_last]) (by rw [advanced_start, advanced_end]; omega)
    rw [advanced_start] at base second
    have due : 0 < sub.startTime + customStride plan.quotaResetCustomSeconds ∧ sub.startTime + customStride plan.quotaResetCustomSeconds ≤ now := by omega
    have calledAgain := @called_of offset plan sub now _ now called (advanced_pack plan sub (-customStride plan.quotaResetCustomSeconds) 0)
      (by rw [second]; exact due.1.le)
    obtain ⟨passed, following, reached, same⟩ := (resets_due calledAgain (by rw [second]; exact due)).1 again
    rw [base, second, advanced_end] at reached
    have zero : following = 0 := (congrArg UserSubscription.nextResetTime same).symm
    have restart := ((backward_lands custom positive back due (by omega) reached).2 zero).2
    have whole := Int.dvd_add restart (Int.dvd_refl (-customStride plan.quotaResetCustomSeconds))
    rwa [Int.add_assoc, Int.add_right_neg, Int.add_zero] at whole
  · intro ⟨divides, started⟩
    have small := Int.le_of_dvd due.1 divides
    have moves : customStride plan.quotaResetCustomSeconds ≠ 0 := by
      intro still
      rw [still, Int.neg_zero, Int.zero_dvd] at divides
      omega
    have lands : ∀ time, now ≤ time → Resets offset plan sub time (advanced plan sub (-customStride plan.quotaResetCustomSeconds) 0) := by
      intro time order
      have dueLater := And.intro due.1 (due.2.trans order)
      exact (resets_due (called_of called Iff.rfl due.1.le) dueLater).2 ⟨_, _, backward_reaches custom positive back dueLater uncut divides, rfl⟩
    have stays : ∀ time, now ≤ time → Resets offset plan (advanced plan sub (-customStride plan.quotaResetCustomSeconds) 0) time
        (advanced plan sub (-customStride plan.quotaResetCustomSeconds) 0) := by
      intro time order
      by_cases restart : 0 < sub.startTime ∧ -customStride plan.quotaResetCustomSeconds < sub.startTime
      · obtain ⟨base, second⟩ := @restarted offset plan (advanced plan sub (-customStride plan.quotaResetCustomSeconds) 0) custom positive
          (by rw [advanced_start]; exact restart.1) (by rw [advanced_start, advanced_last]; exact restart.2) (by rw [advanced_start, advanced_end]; omega)
        rw [advanced_start] at base second
        have whole := Int.dvd_sub (started restart.1 restart.2) (Int.dvd_refl (-customStride plan.quotaResetCustomSeconds))
        rw [Int.sub_neg] at whole
        have dueAgain : 0 < sub.startTime + customStride plan.quotaResetCustomSeconds ∧
            sub.startTime + customStride plan.quotaResetCustomSeconds ≤ time := by omega
        have calledAgain := @called_of offset plan sub now _ time called (advanced_pack plan sub (-customStride plan.quotaResetCustomSeconds) 0)
          (by rw [second]; exact dueAgain.1.le)
        apply (resets_due calledAgain (by rw [second]; exact dueAgain)).2
        refine ⟨-customStride plan.quotaResetCustomSeconds, 0, ?_, (advanced_twice ..).symm⟩
        rw [base, second, advanced_end]
        exact backward_reaches custom positive back dueAgain (by omega) whole
      · have base : resetBase (advanced plan sub (-customStride plan.quotaResetCustomSeconds) 0) = -customStride plan.quotaResetCustomSeconds := by
          apply reset_base_of_passed
          · rw [advanced_last]
            omega
          · rw [advanced_start, advanced_last]
            omega
        apply rest_kept base.symm
        · rw [firstReset, base, advanced_end, calc_custom custom positive _ _ _ (by omega), Int.add_left_neg, advanced_next]
        · exact .inl rfl
    refine ⟨_, lands now (le_refl _), .inl rfl, ?_, stays now (le_refl _), fun time order => ⟨_, _, stays time order, lands time order, rfl, rfl⟩⟩
    rw [advanced_last]
    omega

end Timely

theorem catches_up_iff (offset : Int) (plan : SubscriptionPlan) (sub : UserSubscription) (now : Int) :
    (∃ after, CaughtUp offset plan sub now after) ↔ Timely offset plan sub now := by
  obtain skipped | ⟨called, early⟩ | ⟨called, due⟩ := called_cases offset plan sub now
  · rw [Timely, if_pos skipped]
    exact caught_up_skipped skipped
  · rw [Timely, if_neg called, if_pos (early.imp_right Or.inl)]
    exact caught_up_early called early
  · rw [Timely, if_neg called]
    by_cases forward : Forward plan
    · rw [if_pos (.inr (.inr forward))]
      have base := (calc_forward forward offset (resetBase sub) sub.endTime).resolve_left due.1.ne'
      rw [← firstReset] at base
      exact iff_of_true (caught_up_forward called due forward) ⟨by omega, by omega⟩
    · have standing : ¬ (firstReset offset plan sub = 0 ∨ now < firstReset offset plan sub ∨ Forward plan) := by
        intro cases
        obtain zero | early | moves := cases
        · omega
        · omega
        · exact forward moves
      rw [if_neg standing]
      exact caught_up_backward called due forward

-- 2^55 seconds come out as no time at all, and the loop runs in place.
def endlessPlan : SubscriptionPlan := { id := 1, quotaResetPeriod := .custom, quotaResetCustomSeconds := 2 ^ 55 }

def endlessSubscription : UserSubscription := { id := 1, userID := 1, planID := 1, amountTotal := 100, startTime := 1, endTime := 0 }

theorem endless_catch_up : ¬ ∃ after, CaughtUp 0 endlessPlan endlessSubscription 10 after := by
  rintro ⟨after, caught⟩
  have first : firstReset 0 endlessPlan endlessSubscription = 1 := by decide
  obtain ⟨passed, following, ⟨fuel, ran⟩, _⟩ := (resets_due (by decide) (by rw [first]; decide)).1 caught.ran
  rw [first] at ran
  generalize resetBase endlessSubscription = base at ran
  induction fuel generalizing base with
  | zero => exact nomatch ran
  | succ fuel ih =>
      have turn : calcNextSubscriptionResetTime 0 1 endlessPlan endlessSubscription.endTime = 1 := by decide
      rw [catchUp, if_pos (by decide), turn] at ran
      exact ih 1 ran

end CodeGo.Subscription.Clock
