import CodeGo.Checkout.Schema
import CodeGo.Subscription.Conversion
import CodeGo.Subscription.PackFunds
import CodeGo.Wallet.Effects

set_option autoImplicit false

namespace CodeGo.Subscription.Packs

open Relational Text Billing Machine

/- Credit packs converted into wallet quota while they are metered. -/

structure SubscriptionClaudeConversion where
  userID : Int
  userSubscriptionID : Int
  requestID : String
  sourceQuota : Int
  targetQuota : Int
  planPriceAmount : Rat
  unusedRatio : Rat
  conversionPercent : Int
deriving DecidableEq, Repr

instance : Indexed SubscriptionClaudeConversion where
  Index := String
  index conversion := conversion.requestID
  clash first second := first = second
  clash_symm _ _ clash := clash.symm
  clashDecidable _ _ := inferInstanceAs (Decidable (_ = _))

structure PackOrder extends Checkout.SubscriptionOrder where
  targetSubscriptionID : Int
deriving DecidableEq, Repr

-- The source column of the subscriptions is kept beside them.
structure PackStore where
  store : SubscriptionStore
  users : Table User
  lots : Table FundingLot
  allocations : Table FundingAllocation
  sources : List (Int × String)
  settings : Checkout.PaymentSettings
  orders : List PackOrder
  conversions : Table SubscriptionClaudeConversion
  conversionEnabled : Bool

structure PackEnv extends ConversionEnv where
  digest : Nat → String → String

def PackEnv.wallet (env : PackEnv) : WalletEnv := { toLedgerEnv := env.toLedgerEnv, digest := env.digest }

abbrev PackTx (α : Type) : Type := Tx PackStore SubscriptionError α

def onSubscriptions {α : Type} (work : SubscriptionTx α) : PackTx α :=
  work.zoom PackStore.store fun book store => { book with store }

def PackStore.wallet (book : PackStore) : Wallet :=
  { ledger := book.store.ledger, users := book.users, lots := book.lots, allocations := book.allocations }

def onWallet {α : Type} (work : WalletTx α) : PackTx α :=
  (work.withError .ledger).zoom PackStore.wallet fun book wallet => { book with
    store := { book.store with ledger := wallet.ledger }, users := wallet.users, lots := wallet.lots, allocations := wallet.allocations }

def subscriptionConversionDisabled : SubscriptionError := .message "套餐转余额未开启"

def subscriptionConversionInvalid : SubscriptionError := .message "套餐转换请求无效"

def subscriptionConversionInProgress : SubscriptionError := .message "套餐存在待结算请求，请稍后重试"

-- The order names the pack it paid for and the quota that was paid.
def OrderMatches (settings : Checkout.PaymentSettings) (order : PackOrder) (sub : UserSubscription) : Prop :=
  order.userID = sub.userID ∧ order.planID = sub.planID ∧ order.status = .success ∧ order.fulfillmentStatus = .completed ∧
    order.purchaseType = .normal ∧ 0 < order.money ∧ order.creditPackQuota = sub.creditPackGrantedQuota ∧
    order.creditPackPaidQuota = sub.creditPackPaidQuota ∧ Checkout.quotaUnitsFromUSD settings order.money = sub.creditPackPaidQuota

instance (settings : Checkout.PaymentSettings) (order : PackOrder) (sub : UserSubscription) : Decidable (OrderMatches settings order sub) :=
  inferInstanceAs (Decidable (_ ∧ _))

def creditPackConversionOrderTx (sub : UserSubscription) : PackTx Unit := do
  match ← Tx.view fun book => (book.orders.filter fun order => order.targetSubscriptionID = sub.id).take 2 with
  | [order] =>
      let settings ← Tx.view PackStore.settings
      Tx.reject (¬ OrderMatches settings order sub) (.message "额度包付款快照不一致，暂不可转换")
      Tx.reject (order.refund ≠ {}) (.message "额度包存在退款记录，暂不可转换")
  | _ => Tx.fail (.message "额度包缺少唯一有效付款订单，暂不可转换")

-- Whatever the unit of the account.
def findPackAccount (subscriptionID : Int) : LedgerTx (Option BillingAccount) :=
  Tx.view fun ledger => ledger.accounts.find? fun row =>
    row.accountType = "subscription" ∧ row.ownerType = "user_subscription" ∧ row.ownerID = subscriptionID

def lockCreditPackConversionBalanceTx (sub : UserSubscription) : SubscriptionTx Unit := do
  match ← onLedger (findPackAccount sub.id) with
  | none => Tx.fail .recordNotFound
  | some account =>
      let balance ← onLedger (lockBalanceSnapshot account.accountID)
      let open_ ← Tx.view fun store =>
        (store.ledger.reservations.rows.filter fun row => row.accountID = account.accountID ∧ row.status = .opened).length
      Tx.reject (0 < open_ ∨ balance.reservedBalance ≠ 0) subscriptionConversionInProgress
      Tx.reject (balance.availableBalance ≠ sub.amountTotal - sub.amountUsed) (.message "额度包账务尚未同步，请稍后重试")

structure ConversionRequest where
  requestID : String
  userID : Int
  subscriptionID : Int
  conversionPercent : Int
  now : Int
deriving DecidableEq, Repr

def monthlyPassWalletReceiptKey (env : PackEnv) (requestID component : String) : String :=
  "monthly-pass-wallet-conversion:" ++ env.sha256 requestID ++ ":" ++ component

def conversionOf (request : ConversionRequest) (sub : UserSubscription) (quote : MonthlyPassConversionQuote) : SubscriptionClaudeConversion :=
  { userID := request.userID, userSubscriptionID := sub.id, requestID := request.requestID, sourceQuota := quote.remainingQuota,
    targetQuota := quote.targetQuota, planPriceAmount := quote.planPriceAmount, unusedRatio := quote.unusedRatio,
    conversionPercent := request.conversionPercent }

def createConversion (conversion : SubscriptionClaudeConversion) : PackTx Unit := do
  match ← Tx.view fun book => book.conversions.insert? conversion with
  | none => Tx.fail .uniqueViolation
  | some conversions => Tx.edit fun book => { book with conversions }

-- The conversion of a pack: its quota out of the ledger and the row, its worth into the wallet, and the record of both.
def convertCreditPackTx (env : PackEnv) (request : ConversionRequest) (sub : UserSubscription) (plan : SubscriptionPlan) : PackTx Unit := do
  creditPackConversionOrderTx sub
  let quote ← Tx.view fun book => calculateCreditPackConversionQuote book.settings.quotaPerUnit ((book.sources.lookup sub.id).getD "") sub
    request.conversionPercent
  onSubscriptions (lockCreditPackConversionBalanceTx sub)
  Tx.reject (quote.targetQuota ≤ 0) subscriptionConversionNoTarget
  (onSubscriptions (onLedger (consumeMonthlyPassConversionQuotaTx env.toConversionEnv sub quote.remainingQuota request.requestID))).withError
    conversionProblem
  onSubscriptions (saveSubscription (converted plan sub quote.remainingQuota request.now))
  let owner ← Tx.view fun book => book.users.find? fun user => user.id = request.userID
  Tx.reject (owner = none) .recordNotFound
  onWallet (creditUnifiedWalletQuotaTx env.wallet request.userID quote.baseQuota (monthlyPassWalletReceiptKey env request.requestID "base")
    "subscription_conversion_base")
  createConversion (conversionOf request sub quote)

-- How the function goes on with a monthly pass is its own matter here.
abbrev MonthlyPath : Type := ConversionRequest → UserSubscription → SubscriptionPlan → PackTx Unit

-- A known request is answered from its record. One transaction is one step, so the second look at the record finds nothing new.
def convertRequestTx (env : PackEnv) (monthlyPass : MonthlyPath) (request : ConversionRequest) : PackTx Unit := do
  match ← Tx.view fun book => book.conversions.find? fun conversion => conversion.requestID = request.requestID with
  | some existing =>
      Tx.reject (existing.userID ≠ request.userID ∨ existing.userSubscriptionID ≠ request.subscriptionID ∨
        existing.conversionPercent ≠ request.conversionPercent) subscriptionConversionInvalid
  | none =>
      match ← Tx.view fun book => book.store.subscriptions.find? fun row => row.id = request.subscriptionID ∧ row.userID = request.userID with
      | none => Tx.fail subscriptionConversionNoTarget
      | some sub =>
          let plan ← (onSubscriptions (getSubscriptionPlanRecordTx sub.planID)).withError fun _ => subscriptionConversionNoTarget
          if 0 < sub.creditPackGrantedQuota ∨ plan.creditPack = true then convertCreditPackTx env request sub plan
          else monthlyPass request sub plan

def convertMonthlyPassToUnifiedCredit (env : PackEnv) (monthlyPass : MonthlyPath) (request : ConversionRequest) : PackTx Unit := do
  let enabled ← Tx.view PackStore.conversionEnabled
  Tx.reject (enabled = false) subscriptionConversionDisabled
  let requestID := trimSpace request.requestID
  Tx.reject (requestID = "" ∨ 128 < requestID.utf8ByteSize ∨ request.userID ≤ 0 ∨ request.subscriptionID ≤ 0 ∨ request.conversionPercent ≤ 0 ∨
    100 < request.conversionPercent) subscriptionConversionInvalid
  Tx.atomic (convertRequestTx env monthlyPass { request with requestID })

section Quotes

variable {quotaPerUnit : Rat} {source : String} {sub : UserSubscription} {percent : Int}

-- The share of what is left, and what was paid for it, both rounded down.
def exactSource (sub : UserSubscription) (percent : Int) : Int := (sub.amountTotal - sub.amountUsed) * percent / 100

def exactTarget (sub : UserSubscription) (percent : Int) : Int :=
  exactSource sub percent * sub.creditPackPaidQuota / sub.creditPackGrantedQuota

theorem floor_hundredth (value : Int) : ((value : Rat) / 100).floor = value / 100 := by
  apply le_antisymm
  · rw [Int.le_ediv_iff_mul_le (by omega), ← @Int.cast_le Rat]
    push_cast
    rw [← le_div_iff₀ (by norm_num)]
    exact Rat.floor_le _
  · rw [Rat.le_floor_iff, le_div_iff₀ (by norm_num)]
    exact_mod_cast Int.ediv_mul_le value (by omega)

-- What a pack gives up lies within what is left of it, and its worth within what it gives up: nothing leaves 64 bits.
theorem pack_amounts (convertible : ConvertiblePack source sub) (low : 1 ≤ percent) (high : percent ≤ 100) :
    0 ≤ exactSource sub percent ∧ exactSource sub percent ≤ sub.amountTotal - sub.amountUsed ∧ 0 ≤ exactTarget sub percent ∧
      exactTarget sub percent ≤ exactSource sub percent := by
  obtain ⟨_, _, _, granted, paid, within, _, used, left⟩ := convertible
  have positive : 0 ≤ sub.amountTotal - sub.amountUsed := by omega
  have share := Int.mul_le_mul_of_nonneg_left high positive
  have nonneg : 0 ≤ (sub.amountTotal - sub.amountUsed) * percent := Int.mul_nonneg positive (by omega)
  have given : 0 ≤ exactSource sub percent := by
    unfold exactSource
    omega
  have fits : exactSource sub percent ≤ sub.amountTotal - sub.amountUsed := by
    unfold exactSource
    omega
  have worth : exactSource sub percent * sub.creditPackPaidQuota ≤ exactSource sub percent * sub.creditPackGrantedQuota :=
    Int.mul_le_mul_of_nonneg_left within given
  refine ⟨given, fits, ?_, ?_⟩
  · exact Int.ediv_nonneg (Int.mul_nonneg given (by omega)) (by omega)
  · exact Int.ediv_le_of_le_mul granted worth

theorem pack_source (convertible : ConvertiblePack source sub) (column : InInt64 sub.amountTotal) (low : 1 ≤ percent) (high : percent ≤ 100) :
    packSourceQuota sub percent = exactSource sub percent := by
  obtain ⟨given, fits, _, _⟩ := pack_amounts convertible low high
  have used := convertible.2.2.2.2.2.2.2
  have remaining : remainingQuotaOf sub = sub.amountTotal - sub.amountUsed := by
    apply wrap_of_in
    unfold InInt64 at *
    omega
  rw [packSourceQuota, remaining, ← Int.cast_mul, Decimal.div_hundred, floorPart, floor_hundredth]
  apply wrap_of_in
  unfold exactSource at given fits
  unfold InInt64 at *
  omega

theorem pack_target (convertible : ConvertiblePack source sub) (column : InInt64 sub.amountTotal) (low : 1 ≤ percent) (high : percent ≤ 100) :
    packTargetQuota sub percent = exactTarget sub percent := by
  obtain ⟨given, fits, worth, less⟩ := pack_amounts convertible low high
  have paid : 0 < sub.creditPackPaidQuota := convertible.2.2.2.2.1
  have used : 0 ≤ sub.amountUsed := convertible.2.2.2.2.2.2.2.1
  have nonneg : 0 ≤ exactSource sub percent * sub.creditPackPaidQuota := Int.mul_nonneg given paid.le
  rw [packTargetQuota, pack_source convertible column low high, Int.tdiv_eq_ediv_of_nonneg nonneg, ← exactTarget]
  apply wrap_of_in
  unfold InInt64 at *
  omega

-- A quote says nothing exactly where there is nothing to say.
theorem empty_pack_quote (column : InInt64 sub.amountTotal) (low : 1 ≤ percent) (high : percent ≤ 100)
    (nothing : calculateCreditPackConversionQuote quotaPerUnit source sub percent = {}) :
    ¬ ConvertiblePack source sub ∨ exactSource sub percent = 0 ∨ exactTarget sub percent = 0 ∨ maxInt32 < exactTarget sub percent := by
  by_cases convertible : ConvertiblePack source sub
  · right
    obtain ⟨given, _, worth, _⟩ := pack_amounts convertible low high
    unfold calculateCreditPackConversionQuote at nothing
    rw [if_neg (not_not.mpr convertible)] at nothing
    simp only [if_neg (show percent ≠ 0 by omega), if_neg (show ¬ (percent < 1 ∨ 100 < percent) by omega),
      pack_source convertible column low high, pack_target convertible column low high] at nothing
    split at nothing
    · rename_i short
      omega
    · rename_i full
      have quoted := congrArg MonthlyPassConversionQuote.remainingQuota nothing
      dsimp only at quoted
      omega
  · exact .inl convertible

structure PackQuote (source : String) (sub : UserSubscription) (percent : Int) (quote : MonthlyPassConversionQuote) : Prop where
  convertible : ConvertiblePack source sub
  source : quote.remainingQuota = exactSource sub percent ∧ 0 < quote.remainingQuota
  target : quote.targetQuota = exactTarget sub percent ∧ 0 < quote.targetQuota ∧ quote.targetQuota ≤ maxInt32
  base : quote.baseQuota = quote.targetQuota

theorem quote_of_pack (column : InInt64 sub.amountTotal) (low : 1 ≤ percent) (high : percent ≤ 100)
    (accepted : ¬ (calculateCreditPackConversionQuote quotaPerUnit source sub percent).targetQuota ≤ 0) :
    PackQuote source sub percent (calculateCreditPackConversionQuote quotaPerUnit source sub percent) := by
  by_cases convertible : ConvertiblePack source sub
  · unfold calculateCreditPackConversionQuote at accepted ⊢
    rw [if_neg (not_not.mpr convertible)] at accepted ⊢
    simp only [if_neg (show percent ≠ 0 by omega), if_neg (show ¬ (percent < 1 ∨ 100 < percent) by omega),
      pack_source convertible column low high, pack_target convertible column low high] at accepted ⊢
    split at accepted
    · simp at accepted
    · rename_i full
      rw [if_neg full]
      exact ⟨convertible, ⟨rfl, by dsimp only; omega⟩, ⟨rfl, by dsimp only; omega, by dsimp only; omega⟩, rfl⟩
  · rw [calculateCreditPackConversionQuote, if_pos convertible] at accepted
    simp at accepted

end Quotes

section Consuming

variable {env : PackEnv} {pack sub : UserSubscription} {account : BillingAccount}

-- What a conversion takes from the ledger: its source quota from the account of the pack.
structure Consumed (pack : UserSubscription) (account : BillingAccount) (amount : Int) (requestID : String) (ledger after : Ledger) : Prop where
  ready : PackReady pack account after
  covered : amount ≤ (ledger.balance account.accountID).availableBalance
  taken : after.balance account.accountID = consumeFunds (ledger.balance account.accountID) amount
  keys : ∀ row ∈ after.reservations.rows,
    (∃ before ∈ ledger.reservations.rows, before.idempotencyKey = row.idempotencyKey) ∨ row.idempotencyKey = trimSpace (conversionReserveKey requestID)

theorem consumed_of_ran {ledger after : Ledger} {amount : Int} {requestID : String} (ready : PackReady pack account ledger) (same : sub.id = pack.id)
    (unused : ∀ row ∈ ledger.reservations.rows, row.idempotencyKey ≠ conversionReserveKey requestID)
    (ran : consumeMonthlyPassConversionQuotaTx env.toConversionEnv sub amount requestID ledger = (.ok (), after)) :
    Consumed pack account amount requestID ledger after := by
  simp only [consumeMonthlyPassConversionQuotaTx, Tx.ran_bind, Tx.ran_pure] at ran
  obtain ⟨opened, first, ensured, _, second, projected, reservation, held, created, settlement, final, settled, _, rfl⟩ := ran
  have unmoved := (ensured_account env.toLedgerEnv _ _ _ _ ensured).unmoved
  have opening : Effect ledger first (.ensureBillingAccount (subscriptionAccountParams sub.id)) := .unmoved _ unmoved
  have begun := ready.effect opening
  obtain ⟨_, _, _, _, member, funded⟩ := account_of_ensure env.toLedgerEnv _ _ _ _ ensured
  rw [same] at funded
  obtain rfl := account_unique member begun.backed.member funded begun.backed.funds
  -- The account of a pack has entries, so nothing is brought into it.
  simp only [bootstrapProjection, Tx.ran_bind] at projected
  obtain ⟨backed, _, asked, projected⟩ := projected
  obtain ⟨rfl, answer⟩ := ran_has_entries _ _ _ _ asked
  have known : backed = true := answer.mpr ⟨begun.backed.named, begun.backed.entered⟩
  rw [known, if_neg (by simp), Tx.ran_pure] at projected
  obtain ⟨_, rfl⟩ := projected
  have holding := create_effect env.toLedgerEnv _ _ _ _ created
  have settling := settle_effect env.toLedgerEnv _ _ _ _ settled
  have spent : Spent first final opened.accountID amount := by
    refine spent_of_create_settle env.toLedgerEnv _ _ first held final reservation settlement begun.sound ?_ created rfl rfl settled
    rw [unmoved.reservations]
    exact unused
  refine ⟨(begun.effect holding).effect settling, ?_, ?_, fun row member => ?_⟩
  · rw [← unmoved.balances]
    exact spent.covered
  · rw [← unmoved.balances]
    exact spent.here
  · obtain ⟨middle, middleIn, sameKey⟩ | created := settling.reservation_key row member
    · rw [← sameKey]
      obtain known | fresh := holding.reservation_key middle middleIn
      · rw [unmoved.reservations] at known
        exact .inl known
      · exact .inr (List.mem_singleton.mp fresh)
    · simp [LedgerOp.reservationKeys] at created

-- The wallet is another account: the pack, its row and its records stay as they are.
structure WalletOnly (pack : UserSubscription) (account : BillingAccount) (book after : PackStore) : Prop where
  ready : PackReady pack account after.store.ledger
  balance : after.store.ledger.balance account.accountID = book.store.ledger.balance account.accountID
  reservations : after.store.ledger.reservations = book.store.ledger.reservations
  subscriptions : after.store.subscriptions = book.store.subscriptions
  conversions : after.conversions = book.conversions

theorem wallet_only {book after : PackStore} {userID amount : Int} {key reasonCode : String} (ready : PackReady pack account book.store.ledger)
    (ran : onWallet (creditUnifiedWalletQuotaTx env.wallet userID amount key reasonCode) book = (.ok (), after)) : WalletOnly pack account book after := by
  simp only [onWallet, Tx.ran_zoom, Tx.ran_with_error, creditUnifiedWalletQuotaTx, creditUserWalletQuotaTx, Tx.ran_bind, Tx.ran_reject] at ran
  obtain ⟨wallet, ⟨_, _, ⟨_, rfl⟩, _, _, ⟨_, rfl⟩, _, _, ⟨_, rfl⟩, ran⟩, rfl⟩ := ran
  obtain ⟨owner, credited⟩ := wallet_credited env.wallet _ _ _ _ ran fun _ middle final moved => projected_update _ _ middle final moved
  have moves := credited.moves
  have member := moves.accounts account ready.backed.member
  have kinds : account.accountType ≠ owner.accountType := by
    rw [ready.backed.funds.1, credited.owner.kind]
    decide
  have apart := account_id_ne_of_kind member credited.member kinds
  exact ⟨⟨moves.sound ready.sound, ready.backed.carried moves.accounts moves.extends.entries⟩, credited.elsewhere _ apart, credited.reservations,
    rfl, rfl⟩

theorem order_checked {book after : PackStore} (ran : creditPackConversionOrderTx sub book = (.ok (), after)) : book = after := by
  simp only [creditPackConversionOrderTx, Tx.ran_bind, Tx.ran_view] at ran
  obtain ⟨orders, _, ⟨_, rfl⟩, ran⟩ := ran
  split at ran
  · simp only [Tx.ran_bind, Tx.ran_view, Tx.ran_reject] at ran
    obtain ⟨_, _, ⟨_, rfl⟩, _, _, ⟨_, rfl⟩, _, rfl⟩ := ran
    rfl
  · simp only [Tx.ran_fail] at ran

theorem balance_locked {store after : SubscriptionStore} (ran : lockCreditPackConversionBalanceTx sub store = (.ok (), after)) : store = after := by
  simp only [lockCreditPackConversionBalanceTx, Tx.ran_bind] at ran
  obtain ⟨found, _, looked, ran⟩ := ran
  obtain ⟨ledger, reading, rfl⟩ := (ran_on_ledger _ _).mp looked
  simp only [findPackAccount, Tx.ran_view] at reading
  obtain ⟨_, rfl⟩ := reading
  cases found with
  | none => simp only [Tx.ran_fail] at ran
  | some opened =>
      simp only [Tx.ran_bind, Tx.ran_view, Tx.ran_reject] at ran
      obtain ⟨_, _, locked, _, _, ⟨_, rfl⟩, _, _, ⟨_, rfl⟩, _, rfl⟩ := ran
      obtain ⟨ledger, reading, rfl⟩ := (ran_on_ledger _ _).mp locked
      obtain ⟨rfl, _⟩ := ran_lock_balance _ _ _ _ reading
      rfl

end Consuming

section Converting

variable {env : PackEnv} {monthlyPass : MonthlyPath} {pack : UserSubscription} {account : BillingAccount}

-- What a conversion that went through has done to the pack and written down.
structure ConvertedPack (pack : UserSubscription) (account : BillingAccount) (book after : PackStore) (record : SubscriptionClaudeConversion)
    (sub used : UserSubscription) : Prop where
  ready : PackReady pack account after.store.ledger
  before : book.store.subscription pack.id = some sub
  row : after.store.subscription pack.id = some used
  same : SamePack pack used
  recorded : after.conversions.rows = book.conversions.rows ++ [record]
  owned : record.userSubscriptionID = pack.id
  source : record.sourceQuota = exactSource sub record.conversionPercent
  target : record.targetQuota = exactTarget sub record.conversionPercent
  within : 0 < record.sourceQuota ∧ record.sourceQuota ≤ sub.amountTotal - sub.amountUsed
  worth : 0 < record.targetQuota ∧ record.targetQuota ≤ record.sourceQuota ∧ record.targetQuota ≤ maxInt32
  removed : used.amountUsed = sub.amountUsed + record.sourceQuota
  covered : record.sourceQuota ≤ (book.store.ledger.balance account.accountID).availableBalance
  taken : after.store.ledger.balance account.accountID = consumeFunds (book.store.ledger.balance account.accountID) record.sourceQuota
  keys : ∀ row ∈ after.store.ledger.reservations.rows,
    (∃ before ∈ book.store.ledger.reservations.rows, before.idempotencyKey = row.idempotencyKey) ∨
      row.idempotencyKey = trimSpace (conversionReserveKey record.requestID)

theorem converted_same {plan : SubscriptionPlan} {sub : UserSubscription} {amount now : Int} (same : SamePack pack sub) :
    SamePack pack (converted plan sub amount now) := by
  unfold converted
  split
  · exact ⟨same.id, same.granted, same.paid, same.total⟩
  · exact ⟨same.id, same.granted, same.paid, same.total⟩

theorem converted_of_ran {book after : PackStore} {request : ConversionRequest} {sub : UserSubscription} {plan : SubscriptionPlan}
    (ready : PackReady pack account book.store.ledger) (row : book.store.subscription pack.id = some sub) (same : SamePack pack sub)
    (column : InInt64 pack.amountTotal) (low : 1 ≤ request.conversionPercent) (high : request.conversionPercent ≤ 100)
    (unused : ∀ row ∈ book.store.ledger.reservations.rows, row.idempotencyKey ≠ conversionReserveKey request.requestID)
    (ran : convertCreditPackTx env request sub plan book = (.ok (), after)) :
    ∃ record used, record.requestID = request.requestID ∧ ConvertedPack pack account book after record sub used := by
  simp only [convertCreditPackTx, onSubscriptions, createConversion, Tx.ran_bind, Tx.ran_view, Tx.ran_reject, Tx.ran_zoom, Tx.ran_with_error,
    ran_on_ledger, ran_save_subscription] at ran
  obtain ⟨_, _, checked, quote, _, ⟨quoted, rfl⟩, _, _, ⟨_, locked, rfl⟩, _, _, ⟨accepted, rfl⟩, _, _, ⟨_, ⟨ledger, consumed, rfl⟩, rfl⟩, _, _,
    ⟨_, rfl, rfl⟩, _, _, ⟨_, rfl⟩, _, _, ⟨_, rfl⟩, _, paid, credited, table, _, ⟨appended, rfl⟩, ran⟩ := ran
  obtain rfl := order_checked checked
  obtain rfl := balance_locked locked
  have facts := quote_of_pack (same.total ▸ column) low high (quoted ▸ accepted)
  rw [quoted] at facts
  obtain ⟨convertible, source, target, base⟩ := facts
  obtain ⟨given, fits, worth, less⟩ := pack_amounts convertible low high
  have taken := consumed_of_ran ready same.id unused consumed
  have only := wallet_only taken.ready credited
  have left : quote.remainingQuota ≤ sub.amountTotal - sub.amountUsed := by omega
  have profit : quote.targetQuota ≤ quote.remainingQuota := by omega
  cases table with
  | none => simp only [Tx.ran_fail] at ran
  | some conversions =>
      simp only [Tx.ran_edit] at ran
      subst ran
      have written := ((Table.insert?_eq_some_iff _ _ _).mp appended).2
      have stored : paid.store.subscription pack.id = some (converted plan sub quote.remainingQuota request.now) := by
        have saving := saved_subscription { book.store with ledger } (converted plan sub quote.remainingQuota request.now) pack.id
        rw [if_pos (converted_same same).id.symm] at saving
        rw [SubscriptionStore.subscription] at row saving ⊢
        rw [only.subscriptions, saving, SubscriptionStore.subscription]
        simp only [row, Option.map_some]
      refine ⟨conversionOf request sub quote, converted plan sub quote.remainingQuota request.now, rfl, ?_⟩
      constructor
      · exact only.ready
      · exact row
      · exact stored
      · exact converted_same same
      · rw [← only.conversions]
        exact written
      · exact same.id
      · exact source.1
      · exact target.1
      · exact ⟨source.2, left⟩
      · exact ⟨target.2.1, profit, target.2.2⟩
      · exact (converted_columns plan sub quote.remainingQuota request.now left).1
      · exact taken.covered
      · exact Eq.trans only.balance taken.taken
      · intro row member
        dsimp only at member
        rw [only.reservations] at member
        exact taken.keys row member

-- A conversion that commits answers from its record or converts.
theorem request_outcome {book after : PackStore} {request : ConversionRequest} (ready : PackReady pack account book.store.ledger)
    (bought : 0 < pack.creditPackGrantedQuota) (stored : ∃ sub, book.store.subscription pack.id = some sub ∧ SamePack pack sub)
    (column : InInt64 pack.amountTotal) (named : request.subscriptionID = pack.id) (low : 1 ≤ request.conversionPercent)
    (high : request.conversionPercent ≤ 100)
    (keyed : ∀ row ∈ book.store.ledger.reservations.rows, ∀ requestID, row.idempotencyKey = conversionReserveKey requestID →
      ∃ record ∈ book.conversions.rows, record.requestID = requestID)
    (ran : convertRequestTx env monthlyPass request book = (.ok (), after)) :
    book = after ∨ ∃ record sub used, record.requestID = request.requestID ∧ ConvertedPack pack account book after record sub used := by
  simp only [convertRequestTx, Tx.ran_bind, Tx.ran_view] at ran
  obtain ⟨existing, _, ⟨looked, rfl⟩, ran⟩ := ran
  cases existing with
  | some record =>
      simp only [Tx.ran_reject] at ran
      exact .inl ran.2
  | none =>
      simp only [Tx.ran_bind, Tx.ran_view] at ran
      obtain ⟨found, _, ⟨rfl, rfl⟩, ran⟩ := ran
      cases looking : book.store.subscriptions.find? fun row => row.id = request.subscriptionID ∧ row.userID = request.userID with
      | none => simp only [looking, Tx.ran_fail] at ran
      | some sub =>
          simp only [looking, onSubscriptions, Tx.ran_bind, Tx.ran_zoom, Tx.ran_with_error] at ran
          obtain ⟨plan, _, ⟨_, planned, rfl⟩, ran⟩ := ran
          obtain ⟨rfl, _⟩ := ran_plan _ _ planned
          obtain ⟨row, _⟩ := row_of_find looking
          rw [named] at row
          obtain ⟨known, knownRow, same⟩ := stored
          obtain rfl := Option.some.inj (row.symm.trans knownRow)
          rw [if_pos (.inl (same.granted ▸ bought))] at ran
          have unused : ∀ row ∈ book.store.ledger.reservations.rows, row.idempotencyKey ≠ conversionReserveKey request.requestID := by
            intro row member key
            obtain ⟨record, recordIn, sameID⟩ := keyed row member request.requestID key
            have missing := (Table.find?_eq_none_iff _ _).mp looked record recordIn
            exact of_decide_eq_false missing sameID
          obtain ⟨record, used, recorded, converted⟩ := converted_of_ran ready row same column low high unused ran
          exact .inr ⟨record, sub, used, recorded, converted⟩

end Converting

inductive PackEvent where
  | convert (request : ConversionRequest)
  | preConsume (request : PreConsumeRequest) (known : Option SubscriptionPlan)
  | reserveMore (requestID modelName : String) (amount now : Int)
  | settle (requestID modelName : String) (actualAmount : Int)
  | refund (requestID : String)
deriving DecidableEq, Repr

-- Conversions and the metering of one pack, in any order.
def PackEvent.applyTx (env : PackEnv) (monthlyPass : MonthlyPath) (packID : Int) : PackEvent → PackTx Unit
  | .convert request => convertMonthlyPassToUnifiedCredit env monthlyPass { request with subscriptionID := packID }
  | .preConsume request known => onSubscriptions do let _ ← preConsumeCandidateTx env.toSubscriptionEnv request packID known
  | .reserveMore requestID modelName amount now =>
      onSubscriptions do let _ ← reserveAdditionalSubscriptionQuota env.toSubscriptionEnv requestID packID modelName amount now
  | .settle requestID modelName actualAmount =>
      onSubscriptions (settleSubscriptionReservationTx env.toSubscriptionEnv requestID packID modelName actualAmount)
  | .refund requestID => onSubscriptions (refundSubscriptionPreConsume env.toSubscriptionEnv requestID)

def step (env : PackEnv) (monthlyPass : MonthlyPath) (packID : Int) (book : PackStore) (event : PackEvent) : PackStore :=
  (Tx.atomic (event.applyTx env monthlyPass packID) book).2

def sourcedQuota (book : PackStore) (packID : Int) : Int :=
  book.conversions.total fun record => if record.userSubscriptionID = packID then record.sourceQuota else 0

def creditedQuota (book : PackStore) (packID : Int) : Int :=
  book.conversions.total fun record => if record.userSubscriptionID = packID then record.targetQuota else 0

section Books

variable {env : PackEnv} {monthlyPass : MonthlyPath} {pack : UserSubscription} {account : BillingAccount} {book : PackStore}

-- A pack as it was bought, before any of it is converted. Conversions leave reservations under their own keys alone.
structure BoughtPack (pack : UserSubscription) (account : BillingAccount) (book : PackStore) : Prop where
  paid : 0 < pack.creditPackPaidQuota
  priced : pack.creditPackPaidQuota ≤ pack.creditPackGrantedQuota
  total : pack.amountTotal = pack.creditPackGrantedQuota
  column : InInt64 pack.amountTotal
  row : book.store.subscription pack.id = some pack
  ready : PackReady pack account book.store.ledger
  funded : funds book.store.ledger account.accountID ≤ pack.creditPackGrantedQuota
  keyed : ∀ row ∈ book.store.ledger.reservations.rows, ∀ requestID, row.idempotencyKey = conversionReserveKey requestID →
    ∃ record ∈ book.conversions.rows, record.requestID = requestID
  unconverted : ∀ record ∈ book.conversions.rows, record.userSubscriptionID ≠ pack.id

-- What has been converted and what the account carries never add up to more than was granted.
structure PackBooks (pack : UserSubscription) (account : BillingAccount) (book : PackStore) : Prop where
  stored : PackStored pack account book.store
  keyed : ∀ row ∈ book.store.ledger.reservations.rows, ∀ requestID, row.idempotencyKey = conversionReserveKey requestID →
    ∃ record ∈ book.conversions.rows, record.requestID = requestID
  worth : creditedQuota book pack.id * pack.creditPackGrantedQuota ≤ pack.creditPackPaidQuota * sourcedQuota book pack.id
  spent : sourcedQuota book pack.id + funds book.store.ledger account.accountID ≤ pack.creditPackGrantedQuota

theorem unconverted_total (weight : SubscriptionClaudeConversion → Int) (unconverted : ∀ record ∈ book.conversions.rows, record.userSubscriptionID ≠ pack.id) :
    (book.conversions.total fun record => if record.userSubscriptionID = pack.id then weight record else 0) = 0 := by
  have none : ∀ record ∈ book.conversions.rows, (if record.userSubscriptionID = pack.id then weight record else 0) = (0 : Int) := by
    intro record member
    rw [if_neg (unconverted record member)]
  rw [Table.total, List.map_congr_left none]
  simp

theorem BoughtPack.books (bought : BoughtPack pack account book) : PackBooks pack account book := by
  refine ⟨⟨bought.ready, pack, bought.row, rfl, rfl, rfl, rfl⟩, bought.keyed, ?_, ?_⟩
  · rw [creditedQuota, sourcedQuota, unconverted_total _ bought.unconverted, unconverted_total _ bought.unconverted, Int.zero_mul, Int.mul_zero]
  · rw [sourcedQuota, unconverted_total _ bought.unconverted, Int.zero_add]
    exact bought.funded

theorem conversion_key_apart {key requestID : String} (metering : MeteringKey key) : key ≠ conversionReserveKey requestID := by
  obtain ⟨rest, rfl⟩ := metering
  have apart : Apart "subscription:" "monthly-pass-conversion:" := by decide
  obtain ⟨suffix, joined⟩ : ∃ suffix, conversionReserveKey requestID = "monthly-pass-conversion:" ++ suffix := ⟨_, String.append_assoc⟩
  rw [joined]
  exact apart.trim_ne (by decide) rest suffix

theorem conversion_key_trimmed (requestID : String) : trimSpace (conversionReserveKey requestID) = conversionReserveKey requestID := by
  have head : SolidHead ("monthly-pass-conversion:" ++ requestID) := solid_head_append "monthly-pass-conversion:" requestID (by decide)
  exact trim_space_tight _ (tight_append ("monthly-pass-conversion:" ++ requestID) ":reserve" head (by decide))

theorem conversion_key_injective {first second : String} (same : conversionReserveKey first = conversionReserveKey second) : first = second := by
  unfold conversionReserveKey at same
  simpa using same

-- What metering does to the books.
theorem PackBooks.metered (books : PackBooks pack account book) {store : SubscriptionStore} (meters : Meters pack account book.store store) :
    PackBooks pack account { book with store } := by
  obtain ⟨stored, metered⟩ := meters books.stored
  refine ⟨stored, fun row member requestID key => ?_, books.worth, ?_⟩
  · obtain ⟨before, beforeIn, sameKey⟩ | fresh := metered.keys row member
    · exact books.keyed before beforeIn requestID (sameKey.trans key)
    · exact (conversion_key_apart fresh key).elim
  · have spent := books.spent
    have drained := metered.drained
    rw [sourcedQuota] at spent ⊢
    dsimp only
    omega

theorem PackBooks.converted {after : PackStore} {record : SubscriptionClaudeConversion} {sub used : UserSubscription}
    (books : PackBooks pack account book) (granted : 0 < pack.creditPackGrantedQuota) (same : SamePack pack sub)
    (converted : ConvertedPack pack account book after record sub used) : PackBooks pack account after := by
  have sourced : sourcedQuota after pack.id = sourcedQuota book pack.id + record.sourceQuota := by
    rw [sourcedQuota, Table.total_append _ _ _ _ converted.recorded, ← sourcedQuota, List.map_singleton, List.sum_singleton, if_pos converted.owned]
  have credited : creditedQuota after pack.id = creditedQuota book pack.id + record.targetQuota := by
    rw [creditedQuota, Table.total_append _ _ _ _ converted.recorded, ← creditedQuota, List.map_singleton, List.sum_singleton, if_pos converted.owned]
  refine ⟨⟨converted.ready, used, converted.row, converted.same⟩, fun row member requestID key => ?_, ?_, ?_⟩
  · rw [converted.recorded]
    obtain ⟨before, beforeIn, sameKey⟩ | created := converted.keys row member
    · obtain ⟨known, knownIn, named⟩ := books.keyed before beforeIn requestID (sameKey.trans key)
      exact ⟨known, List.mem_append_left _ knownIn, named⟩
    · rw [conversion_key_trimmed, key] at created
      exact ⟨record, by simp, (conversion_key_injective created).symm⟩
  · have share : record.targetQuota * pack.creditPackGrantedQuota ≤ record.sourceQuota * pack.creditPackPaidQuota := by
      rw [converted.target, exactTarget, ← converted.source, same.granted, same.paid]
      exact Int.ediv_mul_le _ (by omega)
    have worth := books.worth
    rw [credited, sourced, Int.add_mul, Int.mul_add, Int.mul_comm pack.creditPackPaidQuota record.sourceQuota]
    omega
  · have spent := books.spent
    rw [sourced, funds, converted.taken]
    rw [funds] at spent
    simp only [consumeFunds]
    omega

-- What one event does: the records of the conversions stay as they are, or the pack is converted once more.
def Tallied (pack : UserSubscription) (account : BillingAccount) (book after : PackStore) : Prop :=
  after.conversions = book.conversions ∨ ∃ record sub used, ConvertedPack pack account book after record sub used

theorem step_of_meters {work : SubscriptionTx Unit} (books : PackBooks pack account book)
    (meters : Tx.Commits (Meters pack account) work) :
    PackBooks pack account (Tx.atomic (onSubscriptions work) book).2 ∧ Tallied pack account book (Tx.atomic (onSubscriptions work) book).2 := by
  obtain ⟨result, committed⟩ | ⟨_, back⟩ := Tx.atomic_store (onSubscriptions work) book
  · obtain ⟨store, ran, final⟩ := (Tx.ran_zoom _ _ _ _ _ _).mp committed
    rw [← final]
    exact ⟨books.metered (meters _ _ _ ran), .inl rfl⟩
  · rw [back]
    exact ⟨books, .inl rfl⟩

theorem step_of_conversion (request : ConversionRequest) (books : PackBooks pack account book) (granted : 0 < pack.creditPackGrantedQuota)
    (column : InInt64 pack.amountTotal) (named : request.subscriptionID = pack.id) :
    PackBooks pack account (Tx.atomic (convertMonthlyPassToUnifiedCredit env monthlyPass request) book).2 ∧
      Tallied pack account book (Tx.atomic (convertMonthlyPassToUnifiedCredit env monthlyPass request) book).2 := by
  obtain ⟨result, committed⟩ | ⟨_, back⟩ := Tx.atomic_store (convertMonthlyPassToUnifiedCredit env monthlyPass request) book
  · generalize (Tx.atomic (convertMonthlyPassToUnifiedCredit env monthlyPass request) book).2 = after at committed ⊢
    simp only [convertMonthlyPassToUnifiedCredit, Tx.ran_bind, Tx.ran_view, Tx.ran_reject, Tx.ran_atomic] at committed
    obtain ⟨_, _, ⟨_, rfl⟩, _, _, ⟨_, rfl⟩, _, _, ⟨valid, rfl⟩, ran⟩ := committed
    have low : 1 ≤ request.conversionPercent := by omega
    have high : request.conversionPercent ≤ 100 := by omega
    obtain rfl | ⟨record, sub, used, _, converted⟩ := @request_outcome env monthlyPass pack account book after
      { request with requestID := trimSpace request.requestID } books.stored.ready granted books.stored.row column named low high books.keyed ran
    · exact ⟨books, .inl rfl⟩
    · obtain ⟨known, row, same⟩ := books.stored.row
      obtain rfl := Option.some.inj (row.symm.trans converted.before)
      exact ⟨books.converted granted same converted, .inr ⟨record, known, used, converted⟩⟩
  · rw [back]
    exact ⟨books, .inl rfl⟩

theorem pack_step (event : PackEvent) (books : PackBooks pack account book) (granted : 0 < pack.creditPackGrantedQuota)
    (total : pack.amountTotal = pack.creditPackGrantedQuota) (column : InInt64 pack.amountTotal) :
    PackBooks pack account (step env monthlyPass pack.id book event) ∧ Tallied pack account book (step env monthlyPass pack.id book event) := by
  have composes := meters_store_composable pack account
  have finite : pack.amountTotal ≠ 0 := by omega
  cases event with
  | convert request => exact step_of_conversion _ books granted column rfl
  | preConsume request known =>
      exact step_of_meters books (Tx.commits_bind composes (meters_pre_consume env.toSubscriptionEnv granted request known)
        fun _ => Tx.commits_pure composes ())
  | reserveMore requestID modelName amount now =>
      exact step_of_meters books (Tx.commits_bind composes (meters_reserve_more env.toSubscriptionEnv requestID pack.id modelName amount now)
        fun _ => Tx.commits_pure composes ())
  | settle requestID modelName actualAmount =>
      exact step_of_meters books (meters_settle_pack env.toSubscriptionEnv finite requestID modelName actualAmount)
  | refund requestID => exact step_of_meters books (meters_refund env.toSubscriptionEnv finite requestID)

theorem pack_run (bought : BoughtPack pack account book) (events : List PackEvent) :
    PackBooks pack account (run (step env monthlyPass pack.id) book events) ∧
      Every (step env monthlyPass pack.id) (fun book event => Tallied pack account book (step env monthlyPass pack.id book event)) book events := by
  have granted : 0 < pack.creditPackGrantedQuota := lt_of_lt_of_le bought.paid bought.priced
  have keeps : ∀ book event, PackBooks pack account book → True →
      PackBooks pack account (step env monthlyPass pack.id book event) ∧ Tallied pack account book (step env monthlyPass pack.id book event) := by
    intro book event books _
    exact pack_step event books granted bought.total bought.column
  exact Every.keeps book bought.books keeps events (every_of_all (fun _ _ => trivial) _ _)

theorem funds_nonneg {ledger : Ledger} (sound : Sound ledger) (accountID : String) : 0 ≤ funds ledger accountID := by
  have available := sound.solvent.available accountID
  have held : 0 ≤ (ledger.balance accountID).reservedBalance := by
    rw [sound.solvent.reserved, openHolds, Table.total]
    apply List.sum_nonneg
    intro amount member
    obtain ⟨row, rowIn, rfl⟩ := List.mem_map.mp member
    have positive := sound.solvent.positive row rowIn
    split <;> omega
  rw [funds]
  omega

end Books

-- A pack of 100 bought for 95.
def soldPack : UserSubscription :=
  { id := 1, userID := 1, planID := 1, creditPackGrantedQuota := 100, creditPackPaidQuota := 95, amountTotal := 100, startTime := 0, endTime := 0 }

def soldAccount : BillingAccount :=
  { accountID := tallyEnv.uuid 0, accountType := "subscription", ownerType := "user_subscription", ownerID := 1, quotaUnit := "quota" }

def soldOrder : PackOrder :=
  { userID := 1, planID := 1, money := 19 / 100000, tradeNo := "T1", paymentMethod := "alipay", paymentProvider := .epay, creditPackQuota := 100,
    creditPackPaidQuota := 95, status := .success, fulfillmentStatus := .completed, createTime := 0, targetSubscriptionID := 1 }

def soldStore : PackStore :=
  { store := { Renewal.heldStore 0 with subscriptions := ⟨[soldPack], by simp⟩ }, users := ⟨[{ id := 1 }], by simp⟩, lots := .empty, allocations := .empty,
    sources := [(1, "credit_pack")], settings := { usdExchangeRate := 1, stripeHKDUnitPrice := 1, stripeCNYUnitPrice := 1, stripeUSDUnitPrice := 1 },
    orders := [soldOrder], conversions := .empty, conversionEnabled := true }

def tallyPackEnv : PackEnv := ⟨tallyConversionEnv, fun _ text => text⟩

theorem sold_pack_bought : BoughtPack soldPack soldAccount soldStore where
  paid := by decide
  priced := by decide
  total := rfl
  column := by decide
  row := rfl
  ready := by
    refine ⟨sound_run tallyEnv _, ?_, ?_, by decide, ?_⟩
    · decide +kernel
    · decide
    · decide +kernel
  funded := by decide +kernel
  keyed row member := by
    have none : soldStore.store.ledger.reservations.rows = [] := by decide +kernel
    rw [none] at member
    simp at member
  unconverted record member := by simp [soldStore, Table.empty] at member

def halfPack : PackEvent := .convert { requestID := "half", userID := 1, subscriptionID := 1, conversionPercent := 50, now := 5 }

example : creditedQuota (run (step tallyPackEnv (fun _ _ _ => Tx.fail .recordNotFound) 1) soldStore [halfPack]) 1 = 47 := by decide +kernel

end CodeGo.Subscription.Packs
