import CodeGo.Ledger.Credits
import CodeGo.Marketplace.Runs
import Mathlib.Algebra.Order.Round
import Mathlib.Data.Rat.Floor
import Mathlib.Tactic.FieldSimp
import Mathlib.Tactic.Linarith

set_option autoImplicit false

namespace CodeGo.Marketplace

open Relational Text Billing

/- What a marketplace request is charged, as roundings of rational numbers, and when its
   settlement is recorded. -/

def creditPackChannelShareBPS : Int := 6000

def validCreditPackPurchaseQuota (granted paid : Int) : Prop :=
  0 < granted ∧ 0 < paid ∧ granted * 100 ≥ paid * 105 ∧ granted * 100 ≤ paid * 110

instance (granted paid : Int) : Decidable (validCreditPackPurchaseQuota granted paid) := inferInstanceAs (Decidable (_ ∧ _ ∧ _ ∧ _))

-- A record of a gross amount with a purchase snapshot, under either fee policy.
structure PackSale (params : RecordParams) : Prop where
  request : params.requestID ≠ ""
  group : params.groupID ≠ ""
  owner : 0 < params.ownerUserID
  gross : 0 < params.settlementGrossAmount
  range : params.settlementGrossAmount ≤ maxInt64
  paid : 0 < params.creditPackPaidQuota
  granted : params.creditPackPaidQuota ≤ params.creditPackGrantedQuota
  share : 0 ≤ params.creditPackChannelShareBPS ∧ params.creditPackChannelShareBPS ≤ 10000
  policy : params.feePolicyVersion = "" ∨ params.feePolicyVersion = feePolicyPaidBonusV2

def commissionOf (params : RecordParams) : Int := round (5 * params.settlementGrossAmount / 100 : ℚ)

def discountOf (params : RecordParams) : Int :=
  round (params.settlementGrossAmount * (params.creditPackGrantedQuota - params.creditPackPaidQuota) / params.creditPackGrantedQuota : ℚ)

def feeBase (params : RecordParams) : Int :=
  if params.feePolicyVersion = feePolicyPaidBonusV2 then params.creditPackPaidQuota else params.creditPackGrantedQuota

def exactFee (params : RecordParams) : ℚ :=
  params.settlementGrossAmount * (params.creditPackGrantedQuota - params.creditPackPaidQuota) * params.creditPackChannelShareBPS /
    (10000 * feeBase params)

def feeOf (params : RecordParams) : Int := round (exactFee params)

def netOf (params : RecordParams) : Int := params.settlementGrossAmount - commissionOf params - feeOf params

section Rounding

theorem round_of_between {numerator denominator whole : Int} (positive : 0 < denominator)
    (low : 2 * (whole * denominator) ≤ 2 * numerator + denominator) (high : 2 * numerator + denominator < 2 * ((whole + 1) * denominator)) :
    round ((numerator : ℚ) / denominator) = whole := by
  have below : (0 : ℚ) < 2 * denominator := by
    have whole : (0 : ℚ) < denominator := by exact_mod_cast positive
    linarith
  have half : (numerator : ℚ) / denominator + 1 / 2 = (2 * numerator + denominator) / (2 * denominator) := by
    have nonzero : (denominator : ℚ) ≠ 0 := by exact_mod_cast positive.ne'
    field_simp
  have lowest : (2 * (whole * denominator) : ℚ) ≤ 2 * numerator + denominator := by exact_mod_cast low
  have highest : (2 * numerator + denominator : ℚ) < 2 * ((whole + 1) * denominator) := by exact_mod_cast high
  rw [round_eq, half, Int.floor_eq_iff, le_div_iff₀ below, div_lt_iff₀ below]
  constructor
  · linarith
  · linarith

-- The rounding of integers by their remainder is the rounding of the rational quotient.
theorem round_half_up {numerator denominator : Int} (nonneg : 0 ≤ numerator) (positive : 0 < denominator) :
    roundedRatio numerator denominator = round ((numerator : ℚ) / denominator) := by
  have parts := Int.mul_ediv_add_emod numerator denominator
  have least := Int.emod_nonneg numerator positive.ne'
  have most := Int.emod_lt_of_pos numerator positive
  rw [roundedRatio, Int.tdiv_eq_ediv_of_nonneg nonneg, Int.tmod_eq_emod_of_nonneg nonneg]
  by_cases half : 2 * (numerator % denominator) ≥ denominator
  · rw [if_pos half, round_of_between positive]
    · linarith
    · linarith
  · rw [if_neg half, round_of_between positive]
    · linarith
    · linarith

theorem round_bounds (value : ℚ) : (round value : ℚ) ≤ value + 1 / 2 := by
  rw [round_eq]
  exact Int.floor_le _

theorem round_nonneg {value : ℚ} (nonneg : 0 ≤ value) : 0 ≤ round value := by
  rw [round_eq]
  exact Int.floor_nonneg.mpr (by linarith)

theorem round_le_of_le {value : ℚ} {whole : Int} (below : value ≤ whole) : round value ≤ whole := by
  have half := round_bounds value
  have less : (round value : ℚ) < (whole + 1 : Int) := by
    push_cast
    linarith
  exact Int.lt_add_one_iff.mp (by exact_mod_cast less)

end Rounding

section Charges

variable {params : RecordParams}

theorem fee_base_pos (sale : PackSale params) : 0 < feeBase params := by
  have paid := sale.paid
  have granted := sale.granted
  unfold feeBase
  split <;> omega

theorem commission_eq (sale : PackSale params) : percentage params.settlementGrossAmount 5 = commissionOf params := by
  have gross := sale.gross
  rw [percentage, round_half_up (by omega) (by decide), commissionOf]
  push_cast
  rw [mul_comm]

def feeNumerator (params : RecordParams) : Int :=
  params.settlementGrossAmount * (params.creditPackGrantedQuota - params.creditPackPaidQuota) * params.creditPackChannelShareBPS

theorem exact_fee_eq (params : RecordParams) : exactFee params = (feeNumerator params : ℚ) / ((feeBase params * 10000 : Int) : ℚ) := by
  rw [exactFee, feeNumerator]
  push_cast
  rw [mul_comm (feeBase params : ℚ)]

theorem fee_numerator_nonneg (sale : PackSale params) : 0 ≤ feeNumerator params :=
  Int.mul_nonneg (Int.mul_nonneg sale.gross.le (Int.sub_nonneg.mpr sale.granted)) sale.share.1

-- What is left of the charges once the snapshot has passed its checks.
theorem charges_value (sale : PackSale params) : creditPackCharges params =
    if feeNumerator params > params.settlementGrossAmount * (feeBase params * 10000) then
      .error (.message "credit pack fees exceed settlement gross amount")
    else .ok (discountOf params, feeOf params) := by
  have base := fee_base_pos sale
  have gross := sale.gross
  have paid := sale.paid
  have granted := sale.granted
  have share := sale.share
  have known : ¬ (params.feePolicyVersion ≠ "" ∧ params.feePolicyVersion ≠ feePolicyPaidBonusV2) := by
    have policy := sale.policy
    tauto
  have present : ¬ (params.creditPackGrantedQuota = 0 ∧ params.creditPackPaidQuota = 0 ∧ params.creditPackChannelShareBPS = 0) := by omega
  have valid : ¬ (params.creditPackGrantedQuota ≤ 0 ∨ params.creditPackPaidQuota ≤ 0 ∨ params.creditPackPaidQuota > params.creditPackGrantedQuota ∨
      params.creditPackChannelShareBPS < 0 ∨ params.creditPackChannelShareBPS > 10000) := by omega
  have numerator : 0 ≤ params.settlementGrossAmount * (params.creditPackGrantedQuota - params.creditPackPaidQuota) :=
    Int.mul_nonneg gross.le (by omega)
  have discount : roundedRatio (params.settlementGrossAmount * (params.creditPackGrantedQuota - params.creditPackPaidQuota))
      params.creditPackGrantedQuota = discountOf params := by
    rw [round_half_up numerator (by omega), discountOf]
    push_cast
    rfl
  have fee : roundedRatio (feeNumerator params) (feeBase params * 10000) = feeOf params := by
    rw [round_half_up (fee_numerator_nonneg sale) (by omega), feeOf, exact_fee_eq]
  rw [creditPackCharges, if_neg known, if_neg present, if_neg valid, ← discount, ← fee]
  rfl

theorem fee_within_iff (sale : PackSale params) :
    ¬ feeNumerator params > params.settlementGrossAmount * (feeBase params * 10000) ↔ exactFee params ≤ params.settlementGrossAmount := by
  have below : (0 : ℚ) < ((feeBase params * 10000 : Int) : ℚ) := by
    have base := fee_base_pos sale
    exact_mod_cast (by omega : 0 < feeBase params * 10000)
  rw [not_lt, exact_fee_eq, div_le_iff₀ below]
  norm_cast

theorem charges_eq (sale : PackSale params) {charges : Int × Int} (accepted : creditPackCharges params = .ok charges) :
    charges = (discountOf params, feeOf params) ∧ exactFee params ≤ params.settlementGrossAmount := by
  rw [charges_value sale] at accepted
  by_cases above : feeNumerator params > params.settlementGrossAmount * (feeBase params * 10000)
  · rw [if_pos above] at accepted
    cases accepted
  · rw [if_neg above, Except.ok.injEq] at accepted
    exact ⟨accepted.symm, (fee_within_iff sale).mp above⟩

theorem exact_fee_nonneg (sale : PackSale params) : 0 ≤ exactFee params := by
  have base := fee_base_pos sale
  rw [exact_fee_eq]
  exact div_nonneg (by exact_mod_cast fee_numerator_nonneg sale) (by exact_mod_cast (by omega : 0 ≤ feeBase params * 10000))

-- The three charges stay between nothing and the gross amount.
theorem charges_within (sale : PackSale params) (within : exactFee params ≤ params.settlementGrossAmount) :
    (0 ≤ commissionOf params ∧ commissionOf params ≤ params.settlementGrossAmount) ∧
      (0 ≤ discountOf params ∧ discountOf params ≤ params.settlementGrossAmount) ∧
      (0 ≤ feeOf params ∧ feeOf params ≤ params.settlementGrossAmount) := by
  have gross : (0 : ℚ) < params.settlementGrossAmount := by exact_mod_cast sale.gross
  have paid : (0 : ℚ) < params.creditPackPaidQuota := by exact_mod_cast sale.paid
  have granted : (params.creditPackPaidQuota : ℚ) ≤ params.creditPackGrantedQuota := by exact_mod_cast sale.granted
  have whole : (0 : ℚ) < params.creditPackGrantedQuota := by linarith
  refine ⟨⟨round_nonneg ?_, round_le_of_le ?_⟩, ⟨round_nonneg ?_, round_le_of_le ?_⟩, round_nonneg (exact_fee_nonneg sale), round_le_of_le within⟩
  · linarith
  · linarith
  · exact div_nonneg (mul_nonneg gross.le (by linarith)) whole.le
  · rw [div_le_iff₀ whole]
    exact mul_le_mul_of_nonneg_left (by linarith) gross.le

-- A snapshot that a purchase may have.
structure PurchasedSale (params : RecordParams) : Prop where
  quota : validCreditPackPurchaseQuota params.creditPackGrantedQuota params.creditPackPaidQuota
  share : params.creditPackChannelShareBPS = creditPackChannelShareBPS

-- At most six parts of a hundred are the fee, and five the commission.
theorem purchased_fee_le (sale : PackSale params) (purchased : PurchasedSale params) :
    exactFee params ≤ 6 * params.settlementGrossAmount / 100 := by
  obtain ⟨_, _, _, most⟩ := purchased.quota
  have gross : (0 : ℚ) < params.settlementGrossAmount := by exact_mod_cast sale.gross
  have base : (0 : ℚ) < 10000 * feeBase params := by
    have base := fee_base_pos sale
    exact_mod_cast (by omega : 0 < 10000 * feeBase params)
  have bonus : ((params.creditPackGrantedQuota - params.creditPackPaidQuota : Int) : ℚ) * 10 ≤ feeBase params := by
    have least : params.creditPackPaidQuota ≤ feeBase params := by
      have granted := sale.granted
      unfold feeBase
      split <;> omega
    exact_mod_cast (by omega : (params.creditPackGrantedQuota - params.creditPackPaidQuota) * 10 ≤ feeBase params)
  have share : (params.creditPackChannelShareBPS : ℚ) = 6000 := by
    rw [purchased.share]
    rfl
  push_cast at bonus
  rw [exactFee, share, div_le_iff₀ base]
  have scaled := mul_le_mul_of_nonneg_left bonus gross.le
  linarith

theorem purchased_net_pos (sale : PackSale params) (purchased : PurchasedSale params) : 0 < netOf params := by
  have gross := sale.gross
  have fee : feeOf params * 100 ≤ 6 * params.settlementGrossAmount + 50 := by
    have rounded := round_bounds (exactFee params)
    have bound := purchased_fee_le sale purchased
    have cast : (feeOf params * 100 : ℚ) ≤ 6 * params.settlementGrossAmount + 50 := by
      rw [feeOf]
      linarith
    exact_mod_cast cast
  have commission : commissionOf params * 100 ≤ 5 * params.settlementGrossAmount + 50 := by
    have rounded := round_bounds (5 * params.settlementGrossAmount / 100 : ℚ)
    have cast : (commissionOf params * 100 : ℚ) ≤ 5 * params.settlementGrossAmount + 50 := by
      rw [commissionOf]
      linarith
    exact_mod_cast cast
  unfold netOf
  omega

theorem purchased_accepted (sale : PackSale params) (purchased : PurchasedSale params) :
    creditPackCharges params = .ok (discountOf params, feeOf params) := by
  have bound := purchased_fee_le sale purchased
  have gross : (0 : ℚ) < params.settlementGrossAmount := by exact_mod_cast sale.gross
  rw [charges_value sale, if_neg ((fee_within_iff sale).mpr (by linarith))]

end Charges

def Market.withLedger (market : Market) (ledger : Ledger) : Market := { market with wallet := { market.wallet with ledger } }

@[simp] theorem with_ledger_again (market : Market) (first second : Ledger) :
    (market.withLedger first).withLedger second = market.withLedger second := rfl

theorem on_ledger_ran {α : Type} {work : LedgerTx α} {market : Market} {result : α} {ledger : Ledger}
    (ran : work market.wallet.ledger = (.ok result, ledger)) : onWallet (onLedger work) market = (.ok result, market.withLedger ledger) := by
  rw [ran_on_wallet]
  refine ⟨{ market.wallet with ledger }, ?_, rfl⟩
  rw [ran_on_ledger]
  exact ⟨ledger, ran, rfl⟩

-- The two accounts of a record have their own kinds.
def PlatformAccountOf (account : BillingAccount) : Prop := AccountOf "marketplace_platform_revenue" "system" 1 account

-- Nothing of the request is on the books, and the ids to come are on no row.
structure Unrecorded (env : WalletEnv) (params : RecordParams) (market : Market) : Prop where
  openable : Openable env.toLedgerEnv market.wallet.ledger
  settlements : ∀ row ∈ market.settlements.rows, ∀ drawn, market.wallet.ledger.drawn ≤ drawn → row.id ≠ env.uuid drawn
  request : ∀ row ∈ market.settlements.rows, row.requestID ≠ params.requestID
  given : ∀ row ∈ market.wallet.ledger.entries.rows,
    row.idempotencyKey ≠ "marketplace-pending:" ++ params.requestID ∧ row.idempotencyKey ≠ "marketplace-platform:" ++ params.requestID
  entries : ∀ row ∈ market.wallet.ledger.entries.rows,
    row.idempotencyKey ≠ trimSpace ("marketplace-pending:" ++ params.requestID) ∧
      row.idempotencyKey ≠ trimSpace ("marketplace-platform:" ++ params.requestID)
  events : ∀ row ∈ market.wallet.ledger.outbox.rows,
    row.idempotencyKey ≠ "outbox:" ++ trimSpace ("marketplace-pending:" ++ params.requestID) ∧
      row.idempotencyKey ≠ "outbox:" ++ trimSpace ("marketplace-platform:" ++ params.requestID)

-- What accounts of the two kinds there are can take their parts of the gross amount.
structure RecordRoom (params : RecordParams) (market : Market) : Prop where
  pending : ∀ account ∈ market.wallet.ledger.accounts.rows, PendingAccountOf params.ownerUserID account →
    CreditRoom (market.wallet.ledger.balance account.accountID) (netOf params)
  platform : 0 < commissionOf params + feeOf params → ∀ account ∈ market.wallet.ledger.accounts.rows, PlatformAccountOf account →
    CreditRoom (market.wallet.ledger.balance account.accountID) (commissionOf params + feeOf params)

-- The settlement of the request with the parts of its gross amount, and the owner's part credited.
structure Charged (params : RecordParams) (market after : Market) (item : Settlement) : Prop where
  appended : after.settlements.rows = market.settlements.rows ++ [item]
  request : item.requestID = params.requestID
  owner : item.ownerUserID = params.ownerUserID
  pending : item.status = .pending
  gross : item.settlementGrossAmount = params.settlementGrossAmount
  commission : item.platformCommission = commissionOf params
  discount : item.creditPackDiscountAmount = discountOf params
  fee : item.transactionFee = feeOf params
  net : item.ownerNetAmount = params.settlementGrossAmount - item.platformCommission - item.transactionFee
  nonneg : 0 ≤ item.ownerNetAmount ∧ 0 ≤ item.platformCommission ∧ 0 ≤ item.creditPackDiscountAmount ∧ 0 ≤ item.transactionFee
  range : item.ownerNetAmount ≤ maxInt64 ∧ item.platformCommission ≤ maxInt64 ∧ item.creditPackDiscountAmount ≤ maxInt64 ∧
    item.transactionFee ≤ maxInt64
  credited : (after.wallet.ledger.balance item.pendingAccountID).availableBalance =
    (market.wallet.ledger.balance item.pendingAccountID).availableBalance + item.ownerNetAmount

def Recorded (env : WalletEnv) (params : RecordParams) (market : Market) : Prop :=
  ∃ item after, recordTx env params market = (.ok (), after) ∧ Charged params market after item

def Refused (env : WalletEnv) (params : RecordParams) (market : Market) : Prop :=
  feeOf params > params.settlementGrossAmount - commissionOf params ∧
    recordTx env params market = (.error (.message "credit pack fees exceed settlement gross amount"), market)

section Recording

variable {env : WalletEnv} {params : RecordParams} {market : Market}

theorem PackSale.wanted (sale : PackSale params) :
    ¬ (params.requestID = "" ∨ params.groupID = "" ∨ params.ownerUserID ≤ 0 ∨ params.settlementGrossAmount ≤ 0) := by
  have owner := sale.owner
  have gross := sale.gross
  simp only [sale.request, sale.group, false_or]
  omega

theorem unknown_request (unrecorded : Unrecorded env params market) :
    findSettlementByRequest params.requestID market = (.ok none, market) := by
  have missing : market.settlements.find? (fun item => item.requestID = params.requestID) = none := by
    rw [Table.find?_eq_none_iff]
    intro row member
    exact decide_eq_false (unrecorded.request row member)
  rw [findSettlementByRequest]
  exact congrArg (fun found => (Except.ok found, market)) missing

theorem settlement_row_ran {item : Settlement} (unnamed : item.id = "")
    (ids : ∀ row ∈ market.settlements.rows, row.id ≠ env.uuid market.wallet.ledger.drawn)
    (free : ∀ row ∈ market.settlements.rows, row.requestID ≠ item.requestID) :
    ∃ settlements, createSettlementRow env item market =
        (.ok { item with id := env.uuid market.wallet.ledger.drawn, createdAt := market.wallet.ledger.clock },
          { market.withLedger { market.wallet.ledger with drawn := market.wallet.ledger.drawn + 1 } with settlements }) := by
  have fresh : Table.Fresh market.settlements
      { item with id := env.uuid market.wallet.ledger.drawn, createdAt := market.wallet.ledger.clock } := by
    rintro row member (sameID | sameRequest)
    · exact ids row member sameID
    · exact free row member sameRequest
  obtain ⟨settlements, inserted, _⟩ := Table.insert?_of_fresh _ _ fresh
  have drawn : onWallet (onLedger (getUUID env.toLedgerEnv)) market =
      (.ok (env.uuid market.wallet.ledger.drawn), market.withLedger { market.wallet.ledger with drawn := market.wallet.ledger.drawn + 1 }) :=
    on_ledger_ran rfl
  refine ⟨settlements, ?_⟩
  rw [createSettlementRow, if_pos unnamed, Tx.bind_ran drawn]
  beta_reduce
  rw [Tx.bind_view, Tx.bind_view]
  simp only [Market.withLedger, inserted]
  rfl

-- The accounts of a record are two, whatever owner the pending one has.
theorem accounts_apart {ledger : Ledger} {account platform : BillingAccount} (accountIn : account ∈ ledger.accounts.rows)
    (platformIn : platform ∈ ledger.accounts.rows) (accountOf : PendingAccountOf params.ownerUserID account) (platformOf : PlatformAccountOf platform) :
    platform.accountID ≠ account.accountID := by
  intro same
  have equal := Table.eq_of_clash ledger.accounts platform account platformIn accountIn (clash_of_account_id _ _ same)
  have kinds : pendingAccountType = "marketplace_platform_revenue" := by
    rw [← accountOf.kind, ← platformOf.kind, equal]
  exact absurd kinds (by decide)

theorem keys_apart (requestID : String) :
    trimSpace ("marketplace-pending:" ++ requestID) ≠ trimSpace ("marketplace-platform:" ++ requestID) ∧
      trimSpace ("marketplace-pending:" ++ requestID) ≠ "marketplace-platform:" ++ requestID := by
  have apart : Apart "marketplace-pending:" "marketplace-platform:" := by decide
  obtain ⟨rest, trimmed⟩ := trim_space_front "marketplace-platform:" requestID (by decide)
  constructor
  · rw [trimmed]
    exact apart.trim_ne (by decide) requestID rest
  · exact apart.trim_ne (by decide) requestID requestID

theorem refused_of_dear (sale : PackSale params) (unrecorded : Unrecorded env params market)
    (accepted : creditPackCharges params = .ok (discountOf params, feeOf params))
    (dear : feeOf params > params.settlementGrossAmount - commissionOf params) : Refused env params market := by
  have lifted : Tx.lift (creditPackCharges params) market = (.ok (discountOf params, feeOf params), market) :=
    congrArg (fun outcome => (outcome, market)) accepted
  refine ⟨dear, ?_⟩
  rw [recordTx, if_neg sale.wanted, Tx.bind_ran (unknown_request unrecorded)]
  simp only
  rw [Tx.bind_ran lifted]
  simp only
  rw [commission_eq sale, Tx.bind_rejected dear]

-- What a first credit under a key has found and left.
structure FirstCredit (ledger after : Ledger) (accountID : String) (amount : Int) (key : String) : Prop where
  positive : 0 < amount
  room : CreditRoom (ledger.balance accountID) amount
  here : (after.balance accountID).availableBalance = (ledger.balance accountID).availableBalance + amount
  elsewhere : ∀ other, other ≠ accountID → after.balance other = ledger.balance other
  entries : ∀ row ∈ after.entries.rows, row ∈ ledger.entries.rows ∨ row.idempotencyKey = trimSpace key

theorem first_credit {ledger after : Ledger} {accountID key reasonCode settlementID : String} {amount : Int} {entry : BillingLedgerEntry}
    (given : ∀ row ∈ ledger.entries.rows, row.idempotencyKey ≠ key)
    (ran : creditAccountTx env.toLedgerEnv (settlementCredit accountID amount key reasonCode settlementID) ledger = (.ok entry, after)) :
    FirstCredit ledger after accountID amount key := by
  obtain ⟨positive, room⟩ := credit_needs given ran
  obtain ⟨_, member, same, _⟩ | credited := credited_of_credit _ _ ledger after entry ran
  · exact absurd same (given entry member)
  · have balances : Rebalanced ledger.snapshots after.snapshots (creditFunds (ledger.balance accountID) amount).accountID
        (creditFunds (ledger.balance accountID) amount) := credited.posted.balances
    rw [show (creditFunds (ledger.balance accountID) amount).accountID = accountID from ledger_balance_account ledger accountID] at balances
    refine ⟨positive, room, ?_, balances.elsewhere, ?_⟩
    · have here : after.balance accountID = creditFunds (ledger.balance accountID) amount := balances.here
      rw [here]
      rfl
    · intro row member
      rw [credited.posted.entries, List.mem_append, List.mem_singleton] at member
      refine member.imp_right ?_
      rintro rfl
      exact credited.line.key

-- A record that has gone through had something for the owner and room for both credits.
theorem recorded_needs (sale : PackSale params) (unrecorded : Unrecorded env params market) {after : Market}
    (ran : recordTx env params market = (.ok (), after)) :
    0 < netOf params ∧ RecordRoom params market ∧ ∃ item, Charged params market after item := by
  cases ran_record env params market after ran with
  | idle nothing =>
      obtain nameless | ungrouped | unowned | free | ⟨row, member, named⟩ := nothing
      · exact absurd nameless sale.request
      · exact absurd ungrouped sale.group
      · exact absurd sale.owner (not_lt.mpr unowned)
      · exact absurd sale.gross (not_lt.mpr free)
      · exact absurd named (unrecorded.request row member)
  | recorded discount fee account platform first second third ledger number drawn settlements item entry _ _ charges affordable pendingOpened
      platformOpened isItem appended credited finished =>
      obtain ⟨same, within⟩ := charges_eq sale charges
      rw [Prod.mk.injEq] at same
      obtain ⟨rfl, rfl⟩ := same
      rw [commission_eq sale] at affordable isItem finished
      have pendingEnsured := ensured_account _ _ _ _ _ pendingOpened
      have platformEnsured := ensured_account _ _ _ _ _ platformOpened
      have accountOf : PendingAccountOf params.ownerUserID account := pendingEnsured.account_of (by decide) (by decide)
      have platformOf : PlatformAccountOf platform := platformEnsured.account_of (by decide) (by decide)
      have unmoved : Unmoved market.wallet.ledger { second with drawn } :=
        (pendingEnsured.unmoved.trans platformEnsured.unmoved).trans (.drawn second drawn)
      have accountIn : account ∈ ({ second with drawn }).accounts.rows := platformEnsured.unmoved.kept account pendingEnsured.member
      have platformIn : platform ∈ ({ second with drawn }).accounts.rows := platformEnsured.member
      generalize ({ second with drawn } : Ledger) = opened at credited unmoved accountIn platformIn
      have apart := accounts_apart accountIn platformIn accountOf platformOf
      have net : item.ownerNetAmount = netOf params := by simp [isItem, recordedSettlement, netOf]
      rw [net] at credited
      have ownerCredit := first_credit (by rw [unmoved.entries]; exact fun row member => (unrecorded.given row member).1) credited
      have given : ∀ row ∈ third.entries.rows, row.idempotencyKey ≠ "marketplace-platform:" ++ params.requestID := by
        intro row member
        obtain old | key := ownerCredit.entries row member
        · rw [unmoved.entries] at old
          exact (unrecorded.given row old).2
        · rw [key]
          exact (keys_apart params.requestID).2
      have platformCredit : 0 < commissionOf params + feeOf params → FirstCredit third ledger platform.accountID
          (commissionOf params + feeOf params) ("marketplace-platform:" ++ params.requestID) := by
        intro earns
        obtain ⟨free, _⟩ | ⟨_, paid, payment⟩ := finished
        · exact absurd earns (not_lt.mpr free)
        · exact first_credit given payment
      have later : ledger.balance account.accountID = third.balance account.accountID := by
        obtain ⟨_, rfl⟩ | ⟨earns, _⟩ := finished
        · rfl
        · exact (platformCredit earns).elsewhere _ apart.symm
      refine ⟨ownerCredit.positive, ⟨?_, ?_⟩, item, ?_⟩
      · intro other member otherOf
        rw [otherOf.unique accountOf (unmoved.kept other member) accountIn, ← unmoved.balances]
        exact ownerCredit.room
      · intro earns other member otherOf
        rw [AccountOf.unique otherOf platformOf (unmoved.kept other member) platformIn, ← unmoved.balances, ← ownerCredit.elsewhere _ apart]
        exact (platformCredit earns).room
      · have owner : item.pendingAccountID = account.accountID := by simp [isItem, recordedSettlement]
        have commission : item.platformCommission = commissionOf params := by simp [isItem, recordedSettlement]
        have discount : item.creditPackDiscountAmount = discountOf params := by simp [isItem, recordedSettlement]
        have fee : item.transactionFee = feeOf params := by simp [isItem, recordedSettlement]
        obtain ⟨⟨commissionLow, commissionHigh⟩, ⟨discountLow, discountHigh⟩, feeLow, feeHigh⟩ := charges_within sale within
        have range := sale.range
        constructor
        case appended => exact appended
        case commission => exact commission
        case discount => exact discount
        case fee => exact fee
        case net => rw [net, netOf, commission, fee]
        case nonneg =>
          rw [net, netOf, commission, discount, fee]
          omega
        case range =>
          rw [net, netOf, commission, discount, fee]
          omega
        case credited =>
          rw [owner, net, ← unmoved.balances, ← ownerCredit.here]
          exact congrArg BillingBalanceSnapshot.availableBalance later
        all_goals simp [isItem, recordedSettlement]

theorem room_of_opened {ledger middle : Ledger} {account : BillingAccount} {amount : Int} (small : amount ≤ maxInt64)
    (opened : OpenedFor env.toLedgerEnv ledger account middle) (room : account ∈ ledger.accounts.rows → CreditRoom (ledger.balance account.accountID) amount) :
    CreditRoom (ledger.balance account.accountID) amount := by
  obtain old | bare := opened.old
  · exact room old
  · rw [bare]
    exact ⟨by simpa using small, by simpa using small⟩

-- The last part of a record.
def payPlatform (env : WalletEnv) (platform : BillingAccount) (amount : Int) (requestID settlementID : String) : MarketTx Unit :=
  if amount ≤ 0 then return ()
  else do
    let _ ← onWallet (onLedger (creditAccountTx env.toLedgerEnv
      (settlementCredit platform.accountID amount ("marketplace-platform:" ++ requestID) "marketplace_platform_revenue" settlementID)))

-- Where the owner earns something and there is room, the record goes through.
theorem record_goes_through (sale : PackSale params) (unrecorded : Unrecorded env params market)
    (accepted : creditPackCharges params = .ok (discountOf params, feeOf params)) (positive : 0 < netOf params)
    (room : RecordRoom params market) : ∃ after, recordTx env params market = (.ok (), after) := by
  have within := (charges_eq sale accepted).2
  obtain ⟨⟨commissionLow, commissionHigh⟩, _, feeLow, feeHigh⟩ := charges_within sale within
  have range := sale.range
  have small : netOf params ≤ maxInt64 := by
    unfold netOf
    omega
  have share : commissionOf params + feeOf params ≤ maxInt64 := by
    unfold netOf at positive
    omega
  have affordable : ¬ feeOf params > params.settlementGrossAmount - commissionOf params := by
    unfold netOf at positive
    omega
  have lifted : Tx.lift (creditPackCharges params) market = (.ok (discountOf params, feeOf params), market) :=
    congrArg (fun outcome => (outcome, market)) accepted
  obtain ⟨account, first, pendingRan, pendingOpened⟩ := ensure_ran unrecorded.openable (pendingAccountParams params.ownerUserID) sale.owner
    (show ¬ (Blank "user" ∨ Blank "marketplace_owner_pending") by decide)
  obtain ⟨platform, second, platformRan, platformOpened⟩ := ensure_ran pendingOpened.openable platformAccountParams (by decide) (by decide)
  have pendingEnsured := ensured_account _ _ _ _ _ pendingRan
  have platformEnsured := ensured_account _ _ _ _ _ platformRan
  have accountOf : PendingAccountOf params.ownerUserID account := pendingEnsured.account_of (by decide) (by decide)
  have platformOf : PlatformAccountOf platform := platformEnsured.account_of (by decide) (by decide)
  have unmoved := pendingEnsured.unmoved.trans platformEnsured.unmoved
  have accountIn : account ∈ second.accounts.rows := platformEnsured.unmoved.kept account pendingEnsured.member
  have apart := accounts_apart accountIn platformEnsured.member accountOf platformOf
  have outbox : second.outbox = market.wallet.ledger.outbox := platformOpened.outbox.trans pendingOpened.outbox
  obtain ⟨settlements, created⟩ := @settlement_row_ran env (market.withLedger second)
    (recordedSettlement params (commissionOf params) (discountOf params) (feeOf params)
      (params.settlementGrossAmount - commissionOf params - feeOf params) account.accountID) rfl
    (fun other member => unrecorded.settlements other member second.drawn (pendingOpened.ahead.trans platformOpened.ahead)) unrecorded.request
  have unused : Unused env.toLedgerEnv { second with drawn := second.drawn + 1 } :=
    platformOpened.openable.unused.later rfl rfl rfl rfl (Nat.le_succ _)
  have pendingRoom : CreditRoom (second.balance account.accountID) (netOf params) := by
    rw [unmoved.balances]
    exact room_of_opened small pendingOpened fun old => room.pending account old accountOf
  have creditable : Creditable { second with drawn := second.drawn + 1 } account.accountID ("marketplace-pending:" ++ params.requestID) := by
    refine ⟨pendingOpened.present, not_blank_front _ _ (by decide), ?_, ?_, ?_, platformOpened.kept _ pendingOpened.seen⟩
    · rw [unmoved.entries]
      exact fun row member => (unrecorded.given row member).1
    · rw [unmoved.entries]
      exact fun row member => (unrecorded.entries row member).1
    · rw [outbox]
      exact fun row member => (unrecorded.events row member).1
  obtain ⟨entry, third, credited, grown⟩ := credit_ran (settlementCredit account.accountID (netOf params)
    ("marketplace-pending:" ++ params.requestID) "marketplace_owner_pending" (env.uuid second.drawn)) unused creditable positive pendingRoom
  have begun : recordTx env params market =
      payPlatform env platform (commissionOf params + feeOf params) params.requestID (env.uuid second.drawn)
        { market.withLedger third with settlements } := by
    rw [recordTx, if_neg sale.wanted, Tx.bind_ran (unknown_request unrecorded)]
    simp only
    rw [Tx.bind_ran lifted]
    simp only
    rw [commission_eq sale, Tx.bind_accepted affordable, Tx.bind_ran (on_ledger_ran pendingRan), Tx.bind_ran (on_ledger_ran platformRan),
      with_ledger_again, Tx.bind_ran created]
    exact Tx.bind_ran (on_ledger_ran credited) _
  rw [begun, payPlatform]
  by_cases free : commissionOf params + feeOf params ≤ 0
  · rw [if_pos free]
    exact ⟨_, rfl⟩
  · have facts := first_credit creditable.given credited
    have platformRoom : CreditRoom (third.balance platform.accountID) (commissionOf params + feeOf params) := by
      have before : third.balance platform.accountID = first.balance platform.accountID :=
        (facts.elsewhere _ apart).trans (platformEnsured.unmoved.balances _)
      rw [before]
      apply room_of_opened share platformOpened
      intro old
      have origin : platform ∈ market.wallet.ledger.accounts.rows := by
        obtain same | appended := pendingEnsured.opened
        · rwa [same] at old
        · rw [appended, List.mem_append, List.mem_singleton] at old
          obtain old | rfl := old
          · exact old
          · exact absurd rfl apart
      rw [pendingEnsured.unmoved.balances]
      exact room.platform (not_le.mp free) platform origin platformOf
    have payable : Creditable third platform.accountID ("marketplace-platform:" ++ params.requestID) := by
      obtain ⟨trimmed, given⟩ := keys_apart params.requestID
      refine ⟨platformOpened.present, not_blank_front _ _ (by decide), ?_, ?_, ?_, grown.snapshots _ _ platformOpened.seen⟩
      · intro row member
        obtain old | key := facts.entries row member
        · rw [unmoved.entries] at old
          exact (unrecorded.given row old).2
        · rw [key]
          exact given
      · intro row member
        obtain old | key := facts.entries row member
        · rw [unmoved.entries] at old
          exact (unrecorded.entries row old).2
        · rw [key]
          exact trimmed
      · intro row member
        obtain old | ⟨key, _⟩ := grown.outbox row member
        · rw [outbox] at old
          exact (unrecorded.events row old).2
        · rw [List.mem_singleton.mp key]
          intro same
          exact trimmed (append_left_injective _ _ _ same)
    obtain ⟨_, fourth, payment, _⟩ := credit_ran (settlementCredit platform.accountID (commissionOf params + feeOf params)
      ("marketplace-platform:" ++ params.requestID) "marketplace_platform_revenue" (env.uuid second.drawn)) (grown.unused unused) payable
      (not_le.mp free) platformRoom
    rw [if_neg free]
    exact ⟨_, Tx.bind_ran (on_ledger_ran payment) _⟩

end Recording

-- A charge that is accepted is recorded or found too dear, unless it leaves the owner exactly
-- nothing or an account is full; a purchased snapshot always leaves the owner something.
theorem record_admissible_iff (env : WalletEnv) (params : RecordParams) (market : Market) (sale : PackSale params)
    (unrecorded : Unrecorded env params market) :
    (∀ charges, creditPackCharges params = .ok charges →
      ((Recorded env params market ∨ Refused env params market) ↔
        feeOf params > params.settlementGrossAmount - commissionOf params ∨
          (feeOf params < params.settlementGrossAmount - commissionOf params ∧ RecordRoom params market))) ∧
    (PurchasedSale params → (Recorded env params market ↔ RecordRoom params market)) := by
  constructor
  · intro charges accepted
    rw [(charges_eq sale accepted).1] at accepted
    constructor
    · rintro (⟨_, after, ran, _⟩ | refused)
      · obtain ⟨positive, room, _⟩ := recorded_needs sale unrecorded ran
        unfold netOf at positive
        exact .inr ⟨by omega, room⟩
      · exact .inl refused.1
    · rintro (dear | ⟨cheap, room⟩)
      · exact .inr (refused_of_dear sale unrecorded accepted dear)
      · have positive : 0 < netOf params := by
          unfold netOf
          omega
        obtain ⟨after, ran⟩ := record_goes_through sale unrecorded accepted positive room
        obtain ⟨_, _, item, charged⟩ := recorded_needs sale unrecorded ran
        exact .inl ⟨item, after, ran, charged⟩
  · intro purchased
    constructor
    · rintro ⟨_, after, ran, _⟩
      exact (recorded_needs sale unrecorded ran).2.1
    · intro room
      obtain ⟨after, ran⟩ := record_goes_through sale unrecorded (purchased_accepted sale purchased) (purchased_net_pos sale purchased) room
      obtain ⟨_, _, item, charged⟩ := recorded_needs sale unrecorded ran
      exact ⟨item, after, ran, charged⟩

def tallyWalletEnv : WalletEnv := { tallyEnv with digest := fun _ text => text }

def saleTwelve (gross granted paid share : Int) : RecordParams where
  requestID := "relay-12"
  groupID := "group-12"
  ownerUserID := 12
  consumerUserID := 7
  billingSource := "credit_pack"
  consumerDebitAmount := gross
  settlementGrossAmount := gross
  creditPackGrantedQuota := granted
  creditPackPaidQuota := paid
  creditPackChannelShareBPS := share
  feePolicyVersion := feePolicyPaidBonusV2

theorem empty_unrecorded (params : RecordParams) : Unrecorded tallyWalletEnv params emptyMarket where
  openable := ⟨⟨tally_tight, tally_apart, by simp [emptyMarket, Ledger.empty], by simp [emptyMarket, Ledger.empty],
    by simp [emptyMarket, Ledger.empty], by simp [emptyMarket, Ledger.empty]⟩, by simp [emptyMarket, Ledger.empty],
    by simp [emptyMarket, Ledger.empty], by simp [emptyMarket, Ledger.empty]⟩
  settlements := by simp [emptyMarket]
  request := by simp [emptyMarket]
  given := by simp [emptyMarket, Ledger.empty]
  entries := by simp [emptyMarket, Ledger.empty]
  events := by simp [emptyMarket, Ledger.empty]

theorem empty_room (params : RecordParams) : RecordRoom params emptyMarket where
  pending := by simp [emptyMarket, Ledger.empty]
  platform := by simp [emptyMarket, Ledger.empty]

theorem sale_twelve_pack : PackSale (saleTwelve 1000 107 100 6000) := by
  constructor <;> decide

theorem record_admissible_twelve : Recorded tallyWalletEnv (saleTwelve 1000 107 100 6000) emptyMarket :=
  ((record_admissible_iff tallyWalletEnv (saleTwelve 1000 107 100 6000) emptyMarket sale_twelve_pack (empty_unrecorded _)).2
    ⟨by decide, rfl⟩).mpr (empty_room _)

theorem sale_one_pack : PackSale (saleTwelve 1 2 1 10000) := by
  constructor <;> decide

-- One unit of which the fee takes all: the charge is accepted and the income is lost.
theorem nothing_left_is_not_recorded : creditPackCharges (saleTwelve 1 2 1 10000) = .ok (1, 1) ∧
    commissionOf (saleTwelve 1 2 1 10000) = 0 ∧ ¬ Recorded tallyWalletEnv (saleTwelve 1 2 1 10000) emptyMarket ∧
      ¬ Refused tallyWalletEnv (saleTwelve 1 2 1 10000) emptyMarket := by
  have commission : commissionOf (saleTwelve 1 2 1 10000) = 0 := by decide +kernel
  have fee : feeOf (saleTwelve 1 2 1 10000) = 1 := by decide +kernel
  refine ⟨rfl, commission, ?_, ?_⟩
  · rintro ⟨_, after, ran, _⟩
    have positive := (recorded_needs sale_one_pack (empty_unrecorded _) ran).1
    rw [netOf, commission, fee] at positive
    exact absurd positive (by decide)
  · rintro ⟨dear, _⟩
    rw [commission, fee] at dear
    exact absurd dear (by decide)

end CodeGo.Marketplace
