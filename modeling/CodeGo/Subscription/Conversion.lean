import CodeGo.Lib.Decimal
import CodeGo.Lib.Trace
import CodeGo.Subscription.Grants

set_option autoImplicit false

namespace CodeGo.Subscription

open Relational Machine

/- What a monthly pass and a credit pack are worth to the wallet. Prices and ratios are exact decimals. -/

structure PricedPlan extends SubscriptionPlan where
  priceAmount : Rat := 0

-- The quote without a target is the one that converts nothing.
structure MonthlyPassConversionQuote where
  remainingQuota : Int := 0
  planPriceAmount : Rat := 0
  unusedRatio : Rat := 0
  targetQuota : Int := 0
  baseQuota : Int := 0
  bonusQuota : Int := 0
  conversionPercent : Int := 0
  maxConversionPercent : Int := 0
deriving DecidableEq, Repr

-- The integer part is read from the low 64 bits.
def floorPart (value : Rat) : Int := wrap value.floor

def remainingQuotaOf (sub : UserSubscription) : Int := wrap (sub.amountTotal - sub.amountUsed)

def unusedRatioOf (sub : UserSubscription) : Rat := Decimal.div (remainingQuotaOf sub) sub.amountTotal

def maxConversionPercentOf (sub : UserSubscription) : Int :=
  let percent := floorPart (unusedRatioOf sub * 100)
  if percent ≤ 0 then 1 else percent

-- What is left is converted whole at the largest percentage and else as a share of the total.
def conversionRatioOf (sub : UserSubscription) (percent : Int) : Rat :=
  if percent = maxConversionPercentOf sub then unusedRatioOf sub else Decimal.div percent 100

def convertedQuotaOf (sub : UserSubscription) (percent : Int) : Int :=
  if percent = maxConversionPercentOf sub then remainingQuotaOf sub else floorPart (sub.amountTotal * Decimal.div percent 100)

def conversionValueOf (quotaPerUnit : Rat) (plan : PricedPlan) (sub : UserSubscription) (percent : Int) : Int :=
  floorPart (plan.priceAmount * conversionRatioOf sub percent * quotaPerUnit)

-- The conversion of all that is left credits one unit at least.
def LeastCredit (quotaPerUnit : Rat) (plan : PricedPlan) (sub : UserSubscription) (percent : Int) : Prop :=
  conversionValueOf quotaPerUnit plan sub percent ≤ 0 ∧ percent = maxConversionPercentOf sub

instance (quotaPerUnit : Rat) (plan : PricedPlan) (sub : UserSubscription) (percent : Int) : Decidable (LeastCredit quotaPerUnit plan sub percent) :=
  inferInstanceAs (Decidable (_ ∧ _))

def conversionTargetOf (quotaPerUnit : Rat) (plan : PricedPlan) (sub : UserSubscription) (percent : Int) : Int :=
  if LeastCredit quotaPerUnit plan sub percent then 1 else conversionValueOf quotaPerUnit plan sub percent

def monthlyPassQuote (quotaPerUnit : Rat) (plan : PricedPlan) (sub : UserSubscription) (percent : Int) : MonthlyPassConversionQuote :=
  let convertedQuota := convertedQuotaOf sub percent
  let target := conversionTargetOf quotaPerUnit plan sub percent
  if convertedQuota ≤ 0 ∨ remainingQuotaOf sub < convertedQuota ∨ target ≤ 0 then {}
  else
    { remainingQuota := convertedQuota, planPriceAmount := plan.priceAmount, unusedRatio := unusedRatioOf sub, targetQuota := target,
      baseQuota := target, conversionPercent := percent, maxConversionPercent := maxConversionPercentOf sub }

-- No percentage is a preview of the largest one.
def calculateMonthlyPassConversionQuote (quotaPerUnit : Rat) (plan : PricedPlan) (sub : UserSubscription) (now conversionPercent : Int) :
    MonthlyPassConversionQuote :=
  if sub.status ≠ .active ∨ sub.endTime ≤ now ∨ sub.CreditPack ∨ plan.creditPack = true ∨ plan.priceAmount ≤ 0 ∨ sub.amountTotal ≤ 0 then {}
  else if remainingQuotaOf sub ≤ 0 then {}
  else
    let percent := if conversionPercent = 0 then maxConversionPercentOf sub else conversionPercent
    if percent ≤ 0 ∨ maxConversionPercentOf sub < percent then {} else monthlyPassQuote quotaPerUnit plan sub percent

def maxInt32 : Int := 2147483647

-- Whether a pack can be converted; the source is the column that says how the subscription was bought.
def ConvertiblePack (source : String) (sub : UserSubscription) : Prop :=
  sub.status = .active ∧ sub.endTime = 0 ∧ source = "credit_pack" ∧ 0 < sub.creditPackGrantedQuota ∧ 0 < sub.creditPackPaidQuota ∧
    sub.creditPackPaidQuota ≤ sub.creditPackGrantedQuota ∧ sub.amountTotal = sub.creditPackGrantedQuota ∧ 0 ≤ sub.amountUsed ∧
    sub.amountUsed < sub.amountTotal

instance (source : String) (sub : UserSubscription) : Decidable (ConvertiblePack source sub) := inferInstanceAs (Decidable (_ ∧ _))

def packSourceQuota (sub : UserSubscription) (percent : Int) : Int :=
  floorPart (Decimal.div (remainingQuotaOf sub * percent) 100)

-- An integer division, not a rounded decimal one.
def packTargetQuota (sub : UserSubscription) (percent : Int) : Int :=
  wrap ((packSourceQuota sub percent * sub.creditPackPaidQuota).tdiv sub.creditPackGrantedQuota)

def calculateCreditPackConversionQuote (quotaPerUnit : Rat) (source : String) (sub : UserSubscription) (conversionPercent : Int) :
    MonthlyPassConversionQuote :=
  if ¬ ConvertiblePack source sub then {}
  else
    let percent := if conversionPercent = 0 then 100 else conversionPercent
    if percent < 1 ∨ 100 < percent then {}
    else
      let converted := packSourceQuota sub percent
      let target := packTargetQuota sub percent
      if converted ≤ 0 ∨ target ≤ 0 ∨ maxInt32 < target then {}
      else
        { remainingQuota := converted, targetQuota := target, baseQuota := target,
          planPriceAmount := Decimal.div sub.creditPackPaidQuota quotaPerUnit,
          unusedRatio := Decimal.div (remainingQuotaOf sub) sub.amountTotal, conversionPercent := percent, maxConversionPercent := 100 }

/- A monthly pass converted piece by piece. -/

-- The row, the wallet quota credited so far, the units of it that were the least credit, and the quota converted each time.
structure PassConversion where
  sub : UserSubscription
  credited : Int := 0
  least : Int := 0
  sources : List Int := []

def leastUnit (quotaPerUnit : Rat) (plan : PricedPlan) (sub : UserSubscription) (percent : Int) : Int :=
  if LeastCredit quotaPerUnit plan sub percent then 1 else 0

-- The percentage and the time of a request.
def convertPass (quotaPerUnit : Rat) (plan : PricedPlan) (pass : PassConversion) (request : Int × Int) : PassConversion :=
  let quote := calculateMonthlyPassConversionQuote quotaPerUnit plan pass.sub request.2 request.1
  if request.1 ≤ 0 ∨ 100 < request.1 ∨ quote.targetQuota ≤ 0 then pass
  else
    { sub := converted plan.toSubscriptionPlan pass.sub quote.remainingQuota request.2
      credited := pass.credited + quote.baseQuota
      least := pass.least + leastUnit quotaPerUnit plan pass.sub request.1
      sources := pass.sources ++ [quote.remainingQuota] }

-- Nothing is rounded away from what is deducted: a share is a whole number, and the ratio of all that is left is not rounded up.
def Unrounded (sub : UserSubscription) (percent : Int) : Prop :=
  (percent = maxConversionPercentOf sub → unusedRatioOf sub ≤ (remainingQuotaOf sub : Rat) / sub.amountTotal) ∧
    (percent < maxConversionPercentOf sub → 100 ∣ sub.amountTotal * percent)

instance (sub : UserSubscription) (percent : Int) : Decidable (Unrounded sub percent) := inferInstanceAs (Decidable ((_ → _) ∧ (_ → _)))

section Quotes

variable {quotaPerUnit : Rat} {plan : PricedPlan} {sub : UserSubscription} {now percent : Int}

theorem remaining_exact (total : InInt64 sub.amountTotal) (used : InInt64 sub.amountUsed) (whole : 0 < sub.amountTotal)
    (left : 0 < remainingQuotaOf sub) : remainingQuotaOf sub = sub.amountTotal - sub.amountUsed := by
  unfold remainingQuotaOf InInt64 wrap at *
  omega

theorem floor_part_le (value : Rat) (nonneg : 0 ≤ value) : (floorPart value : Rat) ≤ value := by
  have whole : 0 ≤ value.floor := Rat.le_floor_iff.mpr nonneg
  have wrapped : floorPart value ≤ value.floor := by
    unfold floorPart wrap
    omega
  exact (Int.cast_le.mpr wrapped).trans (Rat.floor_le value)

theorem share_exact (total : InInt64 sub.amountTotal) (whole : 0 < sub.amountTotal) (low : 0 < percent) (high : percent ≤ 100)
    (divides : 100 ∣ sub.amountTotal * percent) : (floorPart (sub.amountTotal * Decimal.div percent 100) : Rat) = sub.amountTotal * percent / 100 := by
  obtain ⟨share, product⟩ := divides
  have value : (sub.amountTotal : Rat) * Decimal.div percent 100 = (share : Int) := by
    rw [Decimal.div_hundred, ← mul_div_assoc, ← Int.cast_mul, product]
    push_cast
    ring
  have bounded : sub.amountTotal * percent ≤ sub.amountTotal * 100 := Int.mul_le_mul_of_nonneg_left high whole.le
  have positive : 0 < sub.amountTotal * percent := Int.mul_pos whole low
  have within : InInt64 share := by
    unfold InInt64 at *
    omega
  rw [floorPart, value, Rat.floor_intCast, wrap_of_in within, ← Int.cast_mul, product]
  push_cast
  ring

-- What an accepted quote deducts and what it credits.
structure PassQuote (quotaPerUnit : Rat) (plan : PricedPlan) (sub : UserSubscription) (percent : Int) (quote : MonthlyPassConversionQuote) : Prop where
  active : sub.status = .active
  whole : 0 < sub.amountTotal
  priced : 0 < plan.priceAmount
  left : 0 < remainingQuotaOf sub
  within : percent ≤ maxConversionPercentOf sub
  deducted : 0 < quote.remainingQuota ∧ quote.remainingQuota ≤ remainingQuotaOf sub
  source : quote.remainingQuota = convertedQuotaOf sub percent
  credited : quote.baseQuota = conversionTargetOf quotaPerUnit plan sub percent

theorem pass_quote (given : 0 < percent)
    (accepted : ¬ (calculateMonthlyPassConversionQuote quotaPerUnit plan sub now percent).targetQuota ≤ 0) :
    PassQuote quotaPerUnit plan sub percent (calculateMonthlyPassConversionQuote quotaPerUnit plan sub now percent) := by
  unfold calculateMonthlyPassConversionQuote at accepted ⊢
  split at accepted
  · simp at accepted
  · rename_i usable
    rw [if_neg usable]
    split at accepted
    · simp at accepted
    · rename_i left
      rw [if_neg left]
      simp only [if_neg (show percent ≠ 0 by omega)] at accepted ⊢
      split at accepted
      · simp at accepted
      · rename_i fits
        rw [if_neg fits]
        unfold monthlyPassQuote at accepted ⊢
        dsimp only at accepted ⊢
        split at accepted
        · simp at accepted
        · rename_i sourced
          rw [if_neg sourced]
          simp only [not_or, not_le, not_lt, ne_eq, not_not] at usable left fits sourced
          exact ⟨usable.1, usable.2.2.2.2.2, usable.2.2.2.2.1, left, fits.2, ⟨sourced.1, sourced.2.1⟩, rfl, rfl⟩

-- What is credited is worth no more than what is deducted, but for the least credit.
theorem PassQuote.fair {quote : MonthlyPassConversionQuote} (accepted : PassQuote quotaPerUnit plan sub percent quote) (unit : 0 < quotaPerUnit)
    (total : InInt64 sub.amountTotal) (low : 0 < percent) (high : percent ≤ 100) (unrounded : Unrounded sub percent) :
    (quote.baseQuota : Rat) ≤ plan.priceAmount * quotaPerUnit * quote.remainingQuota / sub.amountTotal +
      leastUnit quotaPerUnit plan sub percent := by
  have whole : (0 : Rat) < sub.amountTotal := Int.cast_pos.mpr accepted.whole
  have value : 0 < plan.priceAmount * quotaPerUnit := mul_pos accepted.priced unit
  rw [accepted.credited, conversionTargetOf, leastUnit]
  by_cases least : LeastCredit quotaPerUnit plan sub percent
  · have deducted : (0 : Rat) < quote.remainingQuota := Int.cast_pos.mpr accepted.deducted.1
    have worth : 0 < plan.priceAmount * quotaPerUnit * quote.remainingQuota / sub.amountTotal := div_pos (mul_pos value deducted) whole
    rw [if_pos least, if_pos least]
    push_cast
    linarith
  · rw [if_neg least, if_neg least, Int.cast_zero, add_zero, conversionValueOf]
    by_cases all : percent = maxConversionPercentOf sub
    · have everything : quote.remainingQuota = remainingQuotaOf sub := by rw [accepted.source, convertedQuotaOf, if_pos all]
      have ratio : unusedRatioOf sub ≤ (quote.remainingQuota : Rat) / sub.amountTotal := by
        rw [everything]
        exact unrounded.1 all
      have nonneg : 0 ≤ unusedRatioOf sub := Decimal.quotient_nonneg (Int.cast_nonneg accepted.left.le) whole.le
      have floored := floor_part_le (plan.priceAmount * unusedRatioOf sub * quotaPerUnit) (mul_nonneg (mul_nonneg accepted.priced.le nonneg) unit.le)
      have scaled := mul_le_mul_of_nonneg_left ratio value.le
      rw [conversionRatioOf, if_pos all]
      calc (floorPart (plan.priceAmount * unusedRatioOf sub * quotaPerUnit) : Rat)
          ≤ plan.priceAmount * quotaPerUnit * unusedRatioOf sub := by linarith
        _ ≤ plan.priceAmount * quotaPerUnit * quote.remainingQuota / sub.amountTotal := by rwa [mul_div_assoc]
    · have divides : 100 ∣ sub.amountTotal * percent := unrounded.2 (lt_of_le_of_ne accepted.within all)
      have source : (quote.remainingQuota : Rat) = sub.amountTotal * percent / 100 := by
        rw [accepted.source, convertedQuotaOf, if_neg all]
        exact share_exact total accepted.whole low high divides
      have share : (0 : Rat) ≤ percent / 100 := div_nonneg (Int.cast_nonneg low.le) (by norm_num)
      have floored := floor_part_le (plan.priceAmount * (percent / 100) * quotaPerUnit) (mul_nonneg (mul_nonneg accepted.priced.le share) unit.le)
      have exactly : plan.priceAmount * quotaPerUnit * quote.remainingQuota / sub.amountTotal = plan.priceAmount * (percent / 100) * quotaPerUnit := by
        rw [source]
        field_simp
      rw [conversionRatioOf, if_neg all, Decimal.div_hundred, exactly]
      exact floored

-- The least credit comes with all that is left.
theorem PassQuote.last {quote : MonthlyPassConversionQuote} (accepted : PassQuote quotaPerUnit plan sub percent quote) :
    leastUnit quotaPerUnit plan sub percent ≤ if quote.remainingQuota = remainingQuotaOf sub then 1 else 0 := by
  unfold leastUnit
  by_cases least : LeastCredit quotaPerUnit plan sub percent
  · have everything : quote.remainingQuota = remainingQuotaOf sub := by rw [accepted.source, convertedQuotaOf, if_pos least.2]
    rw [if_pos least, if_pos everything]
  · rw [if_neg least]
    split <;> decide

end Quotes

section Runs

variable {quotaPerUnit : Rat} {plan : PricedPlan} {start : UserSubscription} {pass : PassConversion}

theorem converted_columns (plain : SubscriptionPlan) (sub : UserSubscription) (amount now : Int) (fits : amount ≤ sub.amountTotal - sub.amountUsed) :
    (converted plain sub amount now).amountUsed = sub.amountUsed + amount ∧ (converted plain sub amount now).amountTotal = sub.amountTotal := by
  unfold converted
  split
  · exact ⟨by dsimp only; omega, rfl⟩
  · exact ⟨rfl, rfl⟩

-- A request converts nothing or what its quote says.
theorem convert_step (pass : PassConversion) (request : Int × Int) :
    convertPass quotaPerUnit plan pass request = pass ∨
      ∃ quote, PassQuote quotaPerUnit plan pass.sub request.1 quote ∧ 0 < request.1 ∧ request.1 ≤ 100 ∧
        convertPass quotaPerUnit plan pass request =
          { sub := converted plan.toSubscriptionPlan pass.sub quote.remainingQuota request.2, credited := pass.credited + quote.baseQuota
            least := pass.least + leastUnit quotaPerUnit plan pass.sub request.1, sources := pass.sources ++ [quote.remainingQuota] } := by
  unfold convertPass
  dsimp only
  split
  · exact .inl rfl
  · rename_i valid
    rw [not_or, not_or, not_le, not_lt] at valid
    exact .inr ⟨_, pass_quote valid.1 valid.2.2, valid.1, valid.2.1, rfl⟩

-- The row and the sources of its conversions agree.
structure PassTraced (start : UserSubscription) (pass : PassConversion) : Prop where
  total : pass.sub.amountTotal = start.amountTotal
  used : pass.sub.amountUsed = start.amountUsed + pass.sources.sum
  column : InInt64 pass.sub.amountUsed

theorem PassTraced.step (traced : PassTraced start pass) (total : InInt64 start.amountTotal) (request : Int × Int) :
    PassTraced start (convertPass quotaPerUnit plan pass request) := by
  rcases @convert_step quotaPerUnit plan pass request with same | ⟨quote, accepted, _, _, moved⟩
  · rw [same]
    exact traced
  · have left := remaining_exact (traced.total ▸ total) traced.column accepted.whole accepted.left
    have fits := accepted.deducted
    rw [left] at fits
    obtain ⟨used, kept⟩ := converted_columns plan.toSubscriptionPlan pass.sub quote.remainingQuota request.2 fits.2
    rw [moved]
    refine ⟨kept.trans traced.total, ?_, ?_⟩
    · rw [used, traced.used, List.sum_append, List.sum_singleton, Int.add_assoc]
    · have column := traced.column
      rw [← traced.total] at total
      unfold InInt64 at *
      dsimp only
      omega

def Sourced (quotaPerUnit : Rat) (plan : PricedPlan) (pass : PassConversion) (request : Int × Int) : Prop :=
  ∀ source, (convertPass quotaPerUnit plan pass request).sources = pass.sources ++ [source] →
    0 < source ∧ source ≤ pass.sub.amountTotal - pass.sub.amountUsed

theorem PassTraced.sourced (traced : PassTraced start pass) (total : InInt64 start.amountTotal) (request : Int × Int) : Sourced quotaPerUnit plan pass request := by
  intro source grown
  rcases @convert_step quotaPerUnit plan pass request with same | ⟨quote, accepted, _, _, moved⟩
  · rw [same] at grown
    simpa using congrArg List.length grown
  · rw [moved] at grown
    obtain rfl : quote.remainingQuota = source := by simpa using grown
    rw [← remaining_exact (traced.total ▸ total) traced.column accepted.whole accepted.left]
    exact accepted.deducted

-- The one unit over is for the end of the pass.
def lastUnit (sub : UserSubscription) : Int := if sub.amountUsed < sub.amountTotal then 0 else 1

theorem last_unit_step {quote : MonthlyPassConversionQuote} (traced : PassTraced start pass) (total : InInt64 start.amountTotal) {request : Int × Int}
    (accepted : PassQuote quotaPerUnit plan pass.sub request.1 quote) :
    lastUnit pass.sub = 0 ∧ leastUnit quotaPerUnit plan pass.sub request.1 ≤
      lastUnit (converted plan.toSubscriptionPlan pass.sub quote.remainingQuota request.2) := by
  have exactly := remaining_exact (traced.total ▸ total) traced.column accepted.whole accepted.left
  have left := accepted.left
  have fits := accepted.deducted
  have last := accepted.last
  rw [exactly] at left fits last
  obtain ⟨used, kept⟩ := converted_columns plan.toSubscriptionPlan pass.sub quote.remainingQuota request.2 fits.2
  refine ⟨if_pos (by omega), ?_⟩
  rw [lastUnit, used, kept]
  by_cases all : quote.remainingQuota = pass.sub.amountTotal - pass.sub.amountUsed
  · rw [if_pos all] at last
    rwa [if_neg (by omega)]
  · rw [if_neg all] at last
    rwa [if_pos (by omega)]

structure Fair (quotaPerUnit : Rat) (plan : PricedPlan) (start : UserSubscription) (pass : PassConversion) : Prop where
  worth : (pass.credited : Rat) ≤ plan.priceAmount * quotaPerUnit * pass.sources.sum / start.amountTotal + pass.least
  least : pass.least ≤ lastUnit pass.sub

theorem fair_step (traced : PassTraced start pass) (fair : Fair quotaPerUnit plan start pass) (unit : 0 < quotaPerUnit) (total : InInt64 start.amountTotal)
    (request : Int × Int) (unrounded : Unrounded pass.sub request.1) : Fair quotaPerUnit plan start (convertPass quotaPerUnit plan pass request) := by
  rcases @convert_step quotaPerUnit plan pass request with same | ⟨quote, accepted, low, high, moved⟩
  · rw [same]
    exact fair
  · have value := accepted.fair unit (traced.total ▸ total) low high unrounded
    obtain ⟨unspent, last⟩ := last_unit_step traced total accepted
    have worth := fair.worth
    have least := fair.least
    rw [traced.total] at value
    rw [moved]
    constructor
    · dsimp only
      rw [List.sum_append, List.sum_singleton, Int.cast_add, Int.cast_add, Int.cast_add, mul_add, add_div]
      linarith
    · dsimp only
      omega

theorem last_unit_nonneg (sub : UserSubscription) : 0 ≤ lastUnit sub := by
  unfold lastUnit
  split <;> decide

theorem pass_traced_run (total : InInt64 start.amountTotal) (used : InInt64 start.amountUsed) (requests : List (Int × Int)) :
    PassTraced start (run (convertPass quotaPerUnit plan) { sub := start } requests) ∧
      Every (convertPass quotaPerUnit plan) (Sourced quotaPerUnit plan) { sub := start } requests := by
  have keeps : ∀ pass request, PassTraced start pass → True →
      PassTraced start (convertPass quotaPerUnit plan pass request) ∧ Sourced quotaPerUnit plan pass request := by
    intro pass request traced _
    exact ⟨traced.step total request, traced.sourced total request⟩
  exact Every.keeps { sub := start } ⟨rfl, by simp, used⟩ keeps requests (every_of_all (fun _ _ => trivial) _ _)

theorem fair_run (unit : 0 < quotaPerUnit) (total : InInt64 start.amountTotal) (used : InInt64 start.amountUsed) (requests : List (Int × Int))
    (unrounded : Every (convertPass quotaPerUnit plan) (fun pass request => Unrounded pass.sub request.1) { sub := start } requests) :
    Fair quotaPerUnit plan start (run (convertPass quotaPerUnit plan) { sub := start } requests) := by
  have keeps : ∀ pass request, PassTraced start pass ∧ Fair quotaPerUnit plan start pass → Unrounded pass.sub request.1 →
      (PassTraced start (convertPass quotaPerUnit plan pass request) ∧ Fair quotaPerUnit plan start (convertPass quotaPerUnit plan pass request)) ∧ True := by
    intro pass request kept fresh
    exact ⟨⟨kept.1.step total request, fair_step kept.1 kept.2 unit total request fresh⟩, trivial⟩
  have fresh : Fair quotaPerUnit plan start { sub := start } := by
    refine ⟨?_, last_unit_nonneg start⟩
    rw [List.sum_nil, Int.cast_zero, mul_zero, zero_div, zero_add]
  have begins : PassTraced start { sub := start } ∧ Fair quotaPerUnit plan start { sub := start } := ⟨⟨rfl, by simp, used⟩, fresh⟩
  obtain ⟨kept, _⟩ := @Every.keeps _ _ _ _ (fun _ _ => True) (fun pass => PassTraced start pass ∧ Fair quotaPerUnit plan start pass) _ begins keeps
    requests unrounded
  exact kept.2

end Runs

def monthlyPlan (priceAmount : Rat) : PricedPlan := { id := 1, priceAmount }

def monthlyPass (amountTotal : Int) : UserSubscription := { id := 1, userID := 1, planID := 1, amountTotal, startTime := 0, endTime := 1000 }

end CodeGo.Subscription
