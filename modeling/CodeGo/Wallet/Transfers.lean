import CodeGo.Wallet.Debit
import CodeGo.Wallet.RewardHolds
import CodeGo.Lib.Trace
import CodeGo.Lib.Int64

set_option autoImplicit false

namespace CodeGo.Billing.Transfers

open Relational Text RewardHolds

/- Transfers between two users' wallets, from the admission on: each is one transaction, which is taken back when it fails. -/

structure Profile where
  id : Int
  externalID : String
  enabled : Bool
  deleted : Bool := false
deriving DecidableEq, Repr

structure WalletTransfer where
  requestID : String
  senderUserID : Int
  recipientUserID : Int
  senderExternalID : String
  recipientExternalID : String
  amountQuota : Int
  feeQuota : Int
  totalDebitQuota : Int
  senderBalanceAfter : Int
  recipientBalanceAfter : Int
deriving DecidableEq, Repr

instance : Indexed WalletTransfer where
  Index := String
  index transfer := transfer.requestID
  clash first second := first = second
  clash_symm _ _ clash := clash.symm
  clashDecidable := inferInstance

structure TransferStore where
  wallet : Wallet
  profiles : List Profile
  holds : Option (Table (WalletRewardHold String))
  transfers : Table WalletTransfer

abbrev TransferTx (α : Type) : Type := Tx TransferStore LedgerError α

-- The readings of the clock while the holds are read, and whether the two audit lines of a receipt are written.
structure TransferEnv extends WalletEnv where
  now : ℕ → Int
  quotaPerUnit : Int
  audited : WalletTransfer → Bool

structure CreateWalletTransferRequest where
  recipientExternalID : String
  amountQuota : Int
  requestID : String
deriving DecidableEq, Repr

def errWalletTransferInvalid : LedgerError := .message "额度转账参数无效"
def errWalletTransferRecipientNotFound : LedgerError := .message "未找到可接收额度的用户"
def errWalletTransferSelf : LedgerError := .message "不能向自己转账"
def errWalletTransferInsufficientBalance : LedgerError := .message "通用额度余额不足"

def externalUserIDLength : Nat := 6

def walletTransferFeeBPS : Int := 100

def walletTransferFee (amount : Int) : Int :=
  amount.tdiv 10000 * walletTransferFeeBPS + (amount.tmod 10000 * walletTransferFeeBPS + 9999).tdiv 10000

def minimumWalletTransferQuota (quotaPerUnit : Int) : Int := if quotaPerUnit.tdiv 100 < 1 then 1 else quotaPerUnit.tdiv 100

-- The payment password has been checked at the admission.
def validWalletTransferRequest (quotaPerUnit senderUserID : Int) (req : CreateWalletTransferRequest) : Prop :=
  0 < senderUserID ∧ req.recipientExternalID.utf8ByteSize = externalUserIDLength ∧ minimumWalletTransferQuota quotaPerUnit ≤ req.amountQuota ∧
    req.amountQuota.tmod (minimumWalletTransferQuota quotaPerUnit) = 0 ∧ req.amountQuota ≤ maxInt64 - walletTransferFee req.amountQuota ∧
    req.requestID ≠ "" ∧ req.requestID.utf8ByteSize ≤ 128

structure AuthorizedWalletTransfer (quotaPerUnit : Int) where
  senderUserID : Int
  request : CreateWalletTransferRequest
  valid : validWalletTransferRequest quotaPerUnit senderUserID request

def onWallet {α : Type} (work : WalletTx α) : TransferTx α :=
  work.zoom TransferStore.wallet fun store wallet => { store with wallet }

def findUserClaudeWalletAccountTx (userID : Int) : WalletTx (Option BillingAccount) :=
  Tx.view fun wallet => wallet.ledger.accounts.find? fun account =>
    account.ownerType = "user" ∧ account.ownerID = userID ∧ account.accountType = billingAccountTypeClaudeWallet ∧ account.quotaUnit = "quota"

def getUnifiedCreditBalanceTx (userID : Int) : WalletTx Int := do
  Tx.reject (userID ≤ 0) (.message "invalid unified credit lookup")
  let legacyBalance ← getUserClaudeWalletQuotaTx userID
  match ← findUserClaudeWalletAccountTx userID with
  | none => return legacyBalance
  | some account =>
      match ← onLedger (findSnapshot account.accountID) with
      | none => return legacyBalance
      | some snapshot => return snapshot.availableBalance

def transferFault : TransferError → LedgerError
  | .invalidWalletTransferQuota => .message "invalid wallet transfer quota"
  | .insufficientBalance => .insufficientBalance
  | .walletRewardTransferLocked => .message "盲盒奖励正在释放，暂不可转出"
  | .store problem => .message problem

def ensureTransferQuota (env : TransferEnv) (userID amount : Int) : TransferTx Unit := do
  let balance ← onWallet (getUnifiedCreditBalanceTx userID)
  let account ← onWallet (findUserClaudeWalletAccountTx userID)
  let user ← onWallet (findUser userID)
  let holds ← Tx.view TransferStore.holds
  let found : Except LookupError String := match account with
    | none => .error .recordNotFound
    | some account => .ok account.accountID
  let createdAt : Except String Int := match user with
    | none => .error "record not found"
    | some user => .ok user.createdAt
  Tx.lift ((ensureWalletTransferQuotaTx userID amount (.ok balance) holds found createdAt env.now).mapError transferFault)

def loadTransferRecipientTx (externalID : String) : TransferTx Profile := do
  match ← Tx.view fun store => store.profiles.find? fun user => user.externalID = externalID ∧ user.enabled ∧ !user.deleted with
  | some user => return user
  | none => Tx.fail errWalletTransferRecipientNotFound

def lockTransferUser (userID : Int) : TransferTx Profile := do
  match ← Tx.view fun store => store.profiles.find? fun user => user.id = userID ∧ !user.deleted with
  | some user => return user
  | none => Tx.fail errWalletTransferRecipientNotFound

def operationOf (requestID : String) : String := "wallet-transfer:" ++ requestID

def newWalletTransfer (sender recipient : Profile) (req : CreateWalletTransferRequest) (feeQuota senderAfter recipientAfter : Int) : WalletTransfer :=
  { requestID := req.requestID, senderUserID := sender.id, recipientUserID := recipient.id, senderExternalID := sender.externalID,
    recipientExternalID := recipient.externalID, amountQuota := req.amountQuota, feeQuota, totalDebitQuota := req.amountQuota + feeQuota,
    senderBalanceAfter := senderAfter, recipientBalanceAfter := recipientAfter }

-- The two debits and the credit.
def movePeerQuota (env : WalletEnv) (senderID recipientID : Int) (req : CreateWalletTransferRequest) : WalletTx Unit := do
  debitClaudeWalletQuotaAmountTx env senderID req.amountQuota (operationOf req.requestID ++ ":debit") "wallet_peer_transfer_debit"
  if 0 < walletTransferFee req.amountQuota then
    debitClaudeWalletQuotaAmountTx env senderID (walletTransferFee req.amountQuota) (operationOf req.requestID ++ ":fee") "wallet_peer_transfer_fee"
  creditUserWalletQuotaTx env recipientID req.amountQuota (operationOf req.requestID ++ ":credit") "wallet_peer_transfer_credit"

def executeWalletTransferTx (env : TransferEnv) (sender recipient : Profile) (req : CreateWalletTransferRequest) : TransferTx WalletTransfer := do
  let senderBalance ← onWallet (getUnifiedCreditBalanceTx sender.id)
  let recipientBalance ← onWallet (getUnifiedCreditBalanceTx recipient.id)
  let feeQuota := walletTransferFee req.amountQuota
  let totalDebit := req.amountQuota + feeQuota
  Tx.reject (maxInt64 - req.amountQuota < recipientBalance) errWalletTransferInvalid
  Tx.reject (senderBalance < totalDebit) errWalletTransferInsufficientBalance
  ensureTransferQuota env sender.id totalDebit
  onWallet (movePeerQuota env.toWalletEnv sender.id recipient.id req)
  let transfer := newWalletTransfer sender recipient req feeQuota (senderBalance - totalDebit) (recipientBalance + req.amountQuota)
  match ← Tx.view fun store => store.transfers.insert? transfer with
  | none => Tx.fail .uniqueViolation
  | some transfers => Tx.edit fun store => { store with transfers }
  Tx.reject (env.audited transfer = false) (.message "audit")
  return transfer

def transferTx (env : TransferEnv) (authorized : AuthorizedWalletTransfer env.quotaPerUnit) : TransferTx WalletTransfer := do
  let req := authorized.request
  let found ← loadTransferRecipientTx req.recipientExternalID
  Tx.reject (found.id = authorized.senderUserID) errWalletTransferSelf
  let sender ← lockTransferUser authorized.senderUserID
  let recipient ← lockTransferUser found.id
  match ← Tx.view fun store => store.transfers.find? fun transfer => transfer.requestID = req.requestID with
  | some existing =>
      Tx.reject (existing.senderUserID ≠ sender.id ∨ existing.recipientUserID ≠ recipient.id ∨ existing.amountQuota ≠ req.amountQuota)
        errWalletTransferInvalid
      return existing
  | none =>
      Tx.reject (sender.enabled = false ∨ recipient.enabled = false) errWalletTransferRecipientNotFound
      executeWalletTransferTx env sender recipient req

def transferAuthorizedWalletQuota (env : TransferEnv) (authorized : AuthorizedWalletTransfer env.quotaPerUnit) : TransferTx WalletTransfer :=
  Tx.atomic (transferTx env authorized)

section Balances

def granted (wallet : Wallet) (accountID : String) : Int := (wallet.ledger.balance accountID).grantedTotal

def available (wallet : Wallet) (accountID : String) : Int := (wallet.ledger.balance accountID).availableBalance

-- The spendable balance of one wallet moves, and no other balance changes. A wallet that was never granted anything may take
-- over what its legacy column holds.
structure Shifted (wallet : Wallet) (userID change : Int) (account : BillingAccount) (after : Wallet) : Prop where
  member : account ∈ after.ledger.accounts.rows
  owner : ClaudeWalletOf userID account
  here : ∃ taken, 0 ≤ taken ∧ (granted wallet account.accountID ≠ 0 → taken = 0) ∧
    available after account.accountID = available wallet account.accountID + taken + change
  kept : granted wallet account.accountID ≠ 0 → 0 < change ∨ granted after account.accountID ≠ 0
  elsewhere : ∀ other, other ≠ account.accountID → after.ledger.balance other = wallet.ledger.balance other

variable {wallet after : Wallet} {userID amount : Int} {account : BillingAccount}

theorem taken_untouched {accountID : String} {taken legacy : Int}
    (cause : taken ≠ 0 → taken = legacy ∧ ¬ hasNonZeroSnapshot (wallet.ledger.balance accountID)) (touched : granted wallet accountID ≠ 0) : taken = 0 := by
  by_contra some_
  exact (cause some_).2 (.inr (.inr (.inr (.inr touched))))

-- Settling a hold for what it holds moves nothing that is spendable.
theorem settle_whole (env : LedgerEnv) {held spent : Ledger} {reservation : BillingReservation} {settlement : BillingSettlement}
    (member : reservation ∈ held.reservations.rows) (key : String)
    (ran : settleReservationTx env { reservationID := reservation.reservationID, actualAmount := reservation.reservedAmount, idempotencyKey := key } held =
      (.ok settlement, spent)) (accountID : String) :
    (spent.balance accountID).availableBalance = (held.balance accountID).availableBalance ∧
      (spent.balance accountID).grantedTotal = (held.balance accountID).grantedTotal ∧
      (accountID ≠ reservation.accountID → spent.balance accountID = held.balance accountID) ∧ spent.accounts = held.accounts := by
  rcases settled_of_settle env _ _ _ _ ran with ⟨rfl, _⟩ | ⟨current, currentIn, settled⟩
  · exact ⟨rfl, rfl, fun _ => rfl, rfl⟩
  · obtain rfl : current = reservation := Table.eq_of_clash _ _ _ currentIn member (.inl settled.named)
    obtain ⟨entries, posted, _⟩ := settled.posted
    have written := posted.balance accountID
    rw [settle_funds_account, ledger_balance_account] at written
    rw [written]
    by_cases here : accountID = current.accountID
    · subst here
      rw [if_pos rfl]
      exact ⟨by simp [settleFunds], settle_funds_granted _ _ _, fun other => absurd rfl other, posted.accounts⟩
    · rw [if_neg here]
      exact ⟨rfl, rfl, fun _ => rfl, posted.accounts⟩

theorem debit_shifts (env : WalletEnv) (operationID reasonCode : String) (fresh : ∀ reservation ∈ wallet.ledger.reservations.rows,
      reservation.idempotencyKey ≠ "ledger-reservation:" ++ operationID)
    (ran : debitClaudeWalletQuotaAmountTx env userID amount operationID reasonCode wallet = (.ok (), after)) :
    ∃ account, Shifted wallet userID (-amount) account after := by
  obtain ⟨account, mirror, held, spent, reservation, settlement, debited⟩ := wallet_debited env _ _ _ _ _ _ ran
  obtain ⟨drawn, final⟩ := debited.ledger
  have holding : Held mirror (debitHold env account.accountID amount operationID) reservation held := by
    rcases held_of_create _ _ _ _ _ debited.hold with ⟨_, known, key, _⟩ | holding
    · rw [debited.mirrored.reservations] at known
      exact (fresh reservation known key).elim
    · exact holding
  obtain ⟨entry, posted, _⟩ := holding.posted
  obtain ⟨reservationID, now, opened⟩ := holding.opened
  have owned : reservation.accountID = account.accountID := by
    rw [opened]
    rfl
  have whole : reservation.reservedAmount = amount := by
    rw [opened]
    rfl
  have member : reservation ∈ held.reservations.rows := by
    rw [holding.reservations]
    exact List.mem_append_right _ (List.mem_singleton.mpr rfl)
  have settling := debited.settle
  rw [debitSettle, ← whole] at settling
  have settled := settle_whole env.toLedgerEnv member _ settling
  have balances : ∀ accountID, after.ledger.balance accountID = spent.balance accountID := fun _ => by
    rw [final]
    rfl
  have shown : ∀ accountID, held.balance accountID =
      if accountID = account.accountID then holdFunds (mirror.balance account.accountID) amount else mirror.balance accountID := fun accountID => by
    have named : (holdFunds (mirror.balance account.accountID) amount).accountID = account.accountID := by simp [holdFunds]
    have written := posted.balance accountID
    rwa [debitHold, named] at written
  obtain ⟨taken, least, moved, cause⟩ := debited.mirrored.here
  have untouched := taken_untouched cause
  have here := settled account.accountID
  rw [shown, if_pos rfl, moved, ← balances] at here
  obtain ⟨spendable, grants, _, accounts⟩ := here
  simp only [holdFunds, creditFunds] at spendable grants
  refine ⟨account, ?_, debited.mirrored.owner, ⟨taken, least, untouched, ?_⟩, fun touched => .inr ?_, fun other apart => ?_⟩
  · rw [final]
    change account ∈ spent.accounts.rows
    rw [accounts, posted.accounts]
    exact debited.mirrored.member
  · rw [available, spendable, available]
    omega
  · rwa [granted, grants, untouched touched, Int.add_zero]
  · rw [balances, (settled other).2.2.1 (owned ▸ apart), shown, if_neg apart, debited.mirrored.elsewhere other apart]

theorem credit_shifts (env : WalletEnv) (key reasonCode : String) (fresh : ∀ entry ∈ wallet.ledger.entries.rows, entry.idempotencyKey ≠ key)
    (other : trimSpace (mirrorBootstrapKey userID) ≠ key)
    (ran : creditUserWalletQuotaTx env userID amount key reasonCode wallet = (.ok (), after)) :
    0 < amount ∧ ∃ account, Shifted wallet userID amount account after := by
  simp only [creditUserWalletQuotaTx, Tx.ran_bind, Tx.ran_reject] at ran
  obtain ⟨_, _, ⟨_, rfl⟩, _, _, ⟨positive, rfl⟩, _, _, ⟨_, rfl⟩, ran⟩ := ran
  obtain ⟨account, ledger, mirrored, ⟨_, entry, entryIn, keyed, _⟩ | ⟨entry, posted, middle, credited, recorded, projected⟩⟩ :=
    credited_of_credit_wallet env _ _ _ _ ran
  · rcases mirrored.moves.entry_key entry entryIn with old | ⟨op, opIn, written⟩
    · exact absurd keyed (fresh entry old)
    · simp only [List.mem_cons, List.not_mem_nil, or_false] at opIn
      rcases opIn with rfl | rfl
      · simp [LedgerOp.entryKeys] at written
      · rw [LedgerOp.entryKeys, List.mem_singleton, keyed] at written
        exact absurd written.symm other
  · obtain ⟨users, rfl⟩ := (projected_update _ _ _ _ projected).frame
    obtain ⟨drawn, lots, rfl⟩ := recorded.frame
    have grows : 0 < amount := not_le.mp positive
    obtain ⟨taken, least, moved, cause⟩ := mirrored.here
    have balances := credited.balance account.accountID
    rw [WalletCredit.params, if_pos rfl, moved] at balances
    refine ⟨grows, account, ?_, mirrored.owner, ⟨taken, least, taken_untouched cause, ?_⟩, fun _ => .inl grows, fun other apart => ?_⟩
    · change account ∈ posted.accounts.rows
      rw [credited.posted.accounts]
      exact mirrored.member
    · change (posted.balance account.accountID).availableBalance = _
      rw [balances]
      rfl
    · change posted.balance other = _
      rw [credited.balance, WalletCredit.params, if_neg apart, mirrored.elsewhere other apart]

end Balances

section Keys

def holdKeys (requestID : String) : List String :=
  ["ledger-reservation:" ++ (operationOf requestID ++ ":debit"), "ledger-reservation:" ++ (operationOf requestID ++ ":fee")]

def creditKey (requestID : String) : String := operationOf requestID ++ ":credit"

theorem credit_key_eq (requestID : String) : creditKey requestID = "wallet-transfer:" ++ (requestID ++ ":credit") := String.append_assoc

-- A change of the ledger whose new reservations and entries are written under certain keys only.
def Writes (hold entry : String → Prop) (ledger after : Ledger) : Prop :=
  ∃ ops, Moves ops ledger after ∧ ∀ op ∈ ops, (∀ key ∈ op.reservationKeys, hold key) ∧ ∀ key ∈ op.entryKeys, entry key

theorem Writes.trans {hold entry : String → Prop} {ledger middle after : Ledger} (early : Writes hold entry ledger middle)
    (late : Writes hold entry middle after) : Writes hold entry ledger after := by
  obtain ⟨first, firstMoves, firstKeys⟩ := early
  obtain ⟨second, secondMoves, secondKeys⟩ := late
  exact ⟨first ++ second, firstMoves.append secondMoves, fun op listed => (List.mem_append.mp listed).elim (firstKeys op) (secondKeys op)⟩

theorem Writes.mono {hold entry wider broader : String → Prop} {ledger after : Ledger} (writes : Writes hold entry ledger after)
    (holds : ∀ key, hold key → wider key) (entries : ∀ key, entry key → broader key) : Writes wider broader ledger after := by
  obtain ⟨ops, moves, keys⟩ := writes
  exact ⟨ops, moves, fun op listed => ⟨fun key written => holds key ((keys op listed).1 key written),
    fun key written => entries key ((keys op listed).2 key written)⟩⟩

theorem Writes.fresh_hold {hold entry : String → Prop} {ledger after : Ledger} (writes : Writes hold entry ledger after) {key : String}
    (other : ¬ hold key) (fresh : ∀ reservation ∈ ledger.reservations.rows, reservation.idempotencyKey ≠ key) :
    ∀ reservation ∈ after.reservations.rows, reservation.idempotencyKey ≠ key := by
  obtain ⟨ops, moves, keys⟩ := writes
  rintro reservation member rfl
  rcases moves.reservation_key reservation member with ⟨before, known, same⟩ | ⟨op, listed, written⟩
  · exact fresh before known same
  · exact other ((keys op listed).1 _ written)

theorem Writes.fresh_entry {hold entry : String → Prop} {ledger after : Ledger} (writes : Writes hold entry ledger after) {key : String}
    (other : ¬ entry key) (fresh : ∀ row ∈ ledger.entries.rows, row.idempotencyKey ≠ key) :
    ∀ row ∈ after.entries.rows, row.idempotencyKey ≠ key := by
  obtain ⟨ops, moves, keys⟩ := writes
  rintro row member rfl
  rcases moves.entry_key row member with known | ⟨op, listed, written⟩
  · exact fresh row known rfl
  · exact other ((keys op listed).2 _ written)

theorem debit_ne_fee (first second : String) : first ++ ":debit" ≠ second ++ ":fee" := by
  intro same
  have last := congrArg (fun text : String => text.toList.getLast?) same
  simp [String.toList_append, List.getLast?_append] at last

theorem hold_key_injective {key first second : String} (one : key ∈ holdKeys first) (other : key ∈ holdKeys second) : first = second := by
  simp only [holdKeys, List.mem_cons, List.not_mem_nil, or_false] at one other
  rcases one with rfl | rfl <;> rcases other with same | same
  · exact append_left_injective _ _ _ (append_right_injective _ _ _ (append_left_injective _ _ _ same))
  · exact absurd (append_left_injective _ _ _ same) (debit_ne_fee _ _)
  · exact absurd (append_left_injective _ _ _ same).symm (debit_ne_fee _ _)
  · exact append_left_injective _ _ _ (append_right_injective _ _ _ (append_left_injective _ _ _ same))

theorem credit_key_injective {first second : String} (same : creditKey first = creditKey second) : first = second :=
  append_left_injective _ _ _ (append_right_injective _ _ _ same)

theorem not_credit_key {front : String} (apart : Apart front "wallet-transfer:") (rest requestID : String) : front ++ rest ≠ creditKey requestID := by
  rw [credit_key_eq]
  exact apart.ne rest _

variable {wallet after : Wallet} {userID amount : Int} {requestID : String}

theorem mirror_ne_credit (userID : Int) (requestID : String) : trimSpace (mirrorBootstrapKey userID) ≠ creditKey requestID := by
  rw [credit_key_eq]
  exact mirror_key_ne userID (by decide) _

def NotCredit (key : String) : Prop := ∀ requestID, key ≠ creditKey requestID

theorem debit_writes (env : WalletEnv) (stage reasonCode : String) (last : SolidLast stage)
    (ran : debitClaudeWalletQuotaAmountTx env userID amount (operationOf requestID ++ stage) reasonCode wallet = (.ok (), after)) :
    Writes (· = "ledger-reservation:" ++ (operationOf requestID ++ stage)) NotCredit wallet.ledger after.ledger := by
  obtain ⟨account, mirror, held, spent, reservation, settlement, debited⟩ := wallet_debited env _ _ _ _ _ _ ran
  refine ⟨_, debited.moves, fun op listed => ?_⟩
  have tight : Tight ("ledger-reservation:" ++ (operationOf requestID ++ stage)) :=
    tight_append _ _ (by decide) (solid_last_append _ _ last)
  simp only [List.mem_cons, List.not_mem_nil, or_false] at listed
  rcases listed with rfl | rfl | rfl | rfl | rfl
  · simp [LedgerOp.entryKeys, LedgerOp.reservationKeys]
  · refine ⟨by simp [LedgerOp.reservationKeys], fun key written other => ?_⟩
    rw [List.mem_singleton.mp written]
    exact mirror_ne_credit userID other
  · refine ⟨fun key written => ?_, fun key written other => ?_⟩
    · rwa [LedgerOp.reservationKeys, List.mem_singleton, debitHold, trim_space_tight _ tight] at written
    · rw [List.mem_singleton.mp written]
      exact not_credit_key (by decide) _ other
  · refine ⟨by simp [LedgerOp.reservationKeys], fun key written other => ?_⟩
    rw [List.mem_singleton.mp written]
    exact not_credit_key (by decide) _ other
  · simp [LedgerOp.entryKeys, LedgerOp.reservationKeys]

theorem credit_writes (env : WalletEnv) (reasonCode : String)
    (ran : creditUserWalletQuotaTx env userID amount (creditKey requestID) reasonCode wallet = (.ok (), after)) :
    Writes (fun _ => False) (fun key => key = creditKey requestID ∨ NotCredit key) wallet.ledger after.ledger := by
  simp only [creditUserWalletQuotaTx, Tx.ran_bind, Tx.ran_reject] at ran
  obtain ⟨_, _, ⟨_, rfl⟩, _, _, ⟨_, rfl⟩, _, _, ⟨_, rfl⟩, ran⟩ := ran
  obtain ⟨account, credited⟩ := wallet_credited env _ _ _ _ ran fun _ _ _ projected => projected_update _ _ _ _ projected
  refine ⟨_, credited.moves, fun op listed => ?_⟩
  have tight : Tight (creditKey requestID) := tight_append _ _ (solid_head_append _ _ (by decide)) (by decide)
  simp only [List.mem_cons, List.not_mem_nil, or_false] at listed
  rcases listed with rfl | rfl | rfl | rfl
  · simp [LedgerOp.entryKeys, LedgerOp.reservationKeys]
  · refine ⟨by simp [LedgerOp.reservationKeys], fun key written => .inr fun other => ?_⟩
    rw [List.mem_singleton.mp written]
    exact mirror_ne_credit userID other
  · refine ⟨by simp [LedgerOp.reservationKeys], fun key written => .inl ?_⟩
    rwa [LedgerOp.entryKeys, List.mem_singleton, WalletCredit.params, trim_space_tight _ tight] at written
  · simp [LedgerOp.entryKeys, LedgerOp.reservationKeys]

def Unused (ledger : Ledger) (requestID : String) : Prop :=
  (∀ reservation ∈ ledger.reservations.rows, reservation.idempotencyKey ∉ holdKeys requestID) ∧
    ∀ entry ∈ ledger.entries.rows, entry.idempotencyKey ≠ creditKey requestID

-- A change of the ledger that writes under the keys of the transfers of certain requests only, and under other keys.
def WritesFor (mine : String → Prop) : Ledger → Ledger → Prop :=
  Writes (fun key => ∀ requestID, key ∈ holdKeys requestID → mine requestID) fun key => ∀ requestID, key = creditKey requestID → mine requestID

theorem WritesFor.unused {mine : String → Prop} {ledger after : Ledger} (writes : WritesFor mine ledger after) (foreign : ¬ mine requestID)
    (unused : Unused ledger requestID) : Unused after requestID := by
  refine ⟨fun reservation member keyed => ?_, writes.fresh_entry (fun allowed => foreign (allowed requestID rfl)) unused.2⟩
  refine writes.fresh_hold (fun allowed => foreign (allowed requestID keyed)) (fun row known same => ?_) reservation member rfl
  exact unused.1 row known (same ▸ keyed)

end Keys

section Peers

variable {wallet middle after : Wallet} {senderID recipientID userID : Int} {account : BillingAccount} {quotaPerUnit : Int}
  {req : CreateWalletTransferRequest}

theorem Shifted.trans {first second : Int} {other : BillingAccount} (early : Shifted wallet userID first account middle)
    (late : Shifted middle userID second other after) (lower : first < 0 ∧ second < 0)
    (grown : ∀ row ∈ middle.ledger.accounts.rows, row ∈ after.ledger.accounts.rows) : Shifted wallet userID (first + second) account after := by
  obtain rfl : other = account := late.owner.unique early.owner late.member (grown _ early.member)
  obtain ⟨taken, least, touched, moved⟩ := early.here
  obtain ⟨more, moreLeast, moreTouched, moreMoved⟩ := late.here
  have still : granted wallet other.accountID ≠ 0 → granted middle other.accountID ≠ 0 := fun spent => (early.kept spent).resolve_left (by omega)
  refine ⟨late.member, late.owner, ⟨taken + more, by omega, fun spent => ?_, by omega⟩, fun spent => ?_, fun row apart => ?_⟩
  · rw [touched spent, moreTouched (still spent), Int.add_zero]
  · exact .inr ((late.kept (still spent)).resolve_left (by omega))
  · rw [late.elsewhere row apart, early.elsewhere row apart]

-- One percent, rounded up.
theorem fee_bounds {amount : Int} (positive : 0 < amount) : amount ≤ 100 * walletTransferFee amount ∧ 100 * walletTransferFee amount < amount + 100 := by
  have rest := Int.emod_nonneg amount (show (10000 : Int) ≠ 0 by decide)
  rw [walletTransferFee, walletTransferFeeBPS, Int.tdiv_eq_ediv_of_nonneg (by omega), Int.tmod_eq_emod_of_nonneg (by omega),
    Int.tdiv_eq_ediv_of_nonneg (by omega)]
  omega

theorem valid_positive (valid : validWalletTransferRequest quotaPerUnit senderID req) : 0 < req.amountQuota := by
  have least := valid.2.2.1
  rw [minimumWalletTransferQuota] at least
  split at least <;> omega

-- What leaves the sender is the amount and the fee, what reaches the recipient is the amount, and nobody else's balance changes.
structure Moved (wallet : Wallet) (senderID recipientID amount fee : Int) (payer payee : BillingAccount) (after : Wallet) : Prop where
  apart : payer.accountID ≠ payee.accountID
  payerOf : ClaudeWalletOf senderID payer
  payeeOf : ClaudeWalletOf recipientID payee
  paid : ∃ taken, 0 ≤ taken ∧ (granted wallet payer.accountID ≠ 0 → taken = 0) ∧
    available after payer.accountID = available wallet payer.accountID + taken - (amount + fee)
  received : ∃ taken, 0 ≤ taken ∧ (granted wallet payee.accountID ≠ 0 → taken = 0) ∧
    available after payee.accountID = available wallet payee.accountID + taken + amount
  elsewhere : ∀ other, other ≠ payer.accountID → other ≠ payee.accountID → after.ledger.balance other = wallet.ledger.balance other

theorem Writes.accounts {hold entry : String → Prop} {ledger final : Ledger} (writes : Writes hold entry ledger final) :
    ∀ row ∈ ledger.accounts.rows, row ∈ final.accounts.rows := by
  obtain ⟨ops, moves, _⟩ := writes
  exact fun row member => moves.accounts row member

theorem move_peer (env : WalletEnv) (apart : recipientID ≠ senderID) (positive : 0 < req.amountQuota) (unused : Unused wallet.ledger req.requestID)
    (ran : movePeerQuota env senderID recipientID req wallet = (.ok (), after)) :
    (∃ payer payee, Moved wallet senderID recipientID req.amountQuota (walletTransferFee req.amountQuota) payer payee after) ∧
      WritesFor (· = req.requestID) wallet.ledger after.ledger := by
  have fee : 0 < walletTransferFee req.amountQuota := by
    have bounds := fee_bounds positive
    omega
  simp only [movePeerQuota, if_pos fee, Tx.ran_bind] at ran
  obtain ⟨_, paid, debit, _, charged, feeDebit, credit⟩ := ran
  have fresh : ∀ key ∈ holdKeys req.requestID, ∀ reservation ∈ wallet.ledger.reservations.rows, reservation.idempotencyKey ≠ key :=
    fun key mine reservation member same => unused.1 reservation member (same ▸ mine)
  have debitWrites := debit_writes env _ _ (by decide) debit
  have feeWrites := debit_writes env _ _ (by decide) feeDebit
  have creditWrites := credit_writes env _ credit
  obtain ⟨payer, first⟩ := debit_shifts env _ _ (fresh _ (by simp [holdKeys])) debit
  obtain ⟨same, second⟩ := debit_shifts env _ _
    (debitWrites.fresh_hold (fun key => debit_ne_fee _ _ (append_left_injective _ _ _ key).symm) (fresh _ (by simp [holdKeys]))) feeDebit
  have both := first.trans second (by omega) feeWrites.accounts
  obtain ⟨_, payee, third⟩ := credit_shifts env _ _
    (feeWrites.fresh_entry (fun other => other _ rfl) (debitWrites.fresh_entry (fun other => other _ rfl) unused.2)) (mirror_ne_credit _ _) credit
  have different : payee.accountID ≠ payer.accountID := by
    intro clash
    have one := Table.eq_of_clash _ _ _ third.member (creditWrites.accounts _ both.member) (clash_of_account_id _ _ clash)
    exact apart (third.owner.owner.symm.trans (one ▸ both.owner.owner))
  refine ⟨⟨payer, payee, Ne.symm different, both.owner, third.owner, ?_, ?_, fun other notPayer notPayee => ?_⟩, ?_⟩
  · obtain ⟨taken, least, touched, moved⟩ := both.here
    refine ⟨taken, least, touched, ?_⟩
    rw [available, third.elsewhere _ (Ne.symm different)]
    rw [available] at moved
    omega
  · have here := third.here
    simpa only [available, granted, both.elsewhere _ different] using here
  · rw [third.elsewhere other notPayee, both.elsewhere other notPayer]
  · have mine : ∀ stage, "ledger-reservation:" ++ (operationOf req.requestID ++ stage) ∈ holdKeys req.requestID →
        ∀ key, key = "ledger-reservation:" ++ (operationOf req.requestID ++ stage) → ∀ other, key ∈ holdKeys other → other = req.requestID :=
      fun _ own key same other keyed => hold_key_injective (same ▸ keyed) own
    have silent : ∀ key, NotCredit key → ∀ other, key = creditKey other → other = req.requestID := fun key apart other same => absurd same (apart other)
    refine ((debitWrites.mono (mine _ (by simp [holdKeys])) silent).trans (feeWrites.mono (mine _ (by simp [holdKeys])) silent)).trans
      (creditWrites.mono (fun _ => False.elim) fun key own other same => own.elim (fun credits => ?_) fun apart => silent key apart other same)
    exact credit_key_injective (same.symm.trans credits)

end Peers

section Runs

def Booked (store : TransferStore) : Prop :=
  ∀ requestID, (∀ receipt ∈ store.transfers.rows, receipt.requestID ≠ requestID) → Unused store.wallet.ledger requestID

inductive Answer {quotaPerUnit : Int} (authorized : AuthorizedWalletTransfer quotaPerUnit) (store after : TransferStore) :
    Except LedgerError WalletTransfer → Prop where
  | refused (problem : LedgerError) (same : after = store) : Answer authorized store after (.error problem)
  | repeated (receipt : WalletTransfer) (known : receipt ∈ store.transfers.rows) (asked : receipt.requestID = authorized.request.requestID)
      (agrees : receipt.senderUserID = authorized.senderUserID ∧ receipt.amountQuota = authorized.request.amountQuota) (same : after = store) :
      Answer authorized store after (.ok receipt)
  | transferred (receipt : WalletTransfer) (payer payee : BillingAccount) (asked : receipt.requestID = authorized.request.requestID)
      (first : ∀ known ∈ store.transfers.rows, known.requestID ≠ authorized.request.requestID)
      (written : after.transfers.rows = store.transfers.rows ++ [receipt]) (solvent : 0 ≤ receipt.senderBalanceAfter)
      (moved : Moved store.wallet authorized.senderUserID receipt.recipientUserID authorized.request.amountQuota
        (walletTransferFee authorized.request.amountQuota) payer payee after.wallet) : Answer authorized store after (.ok receipt)

theorem read_only_on_wallet {α : Type} {work : WalletTx α} (reads : Tx.ReadOnly work) : Tx.ReadOnly (onWallet work) := fun store =>
  congrArg (fun wallet => { store with wallet }) (reads store.wallet)

theorem read_only_balance (userID : Int) : Tx.ReadOnly (getUnifiedCreditBalanceTx userID) := by
  refine Tx.read_only_bind (Tx.read_only_reject _ _) fun _ => Tx.read_only_bind (fun wallet => ?_) fun _ =>
    Tx.read_only_bind (Tx.read_only_view _) fun found => ?_
  · cases looked : wallet.users.find? fun user => user.id = userID <;>
      simp [getUserClaudeWalletQuotaTx, findUser, Tx.bind_view, looked, Pure.pure, Tx.pure]
  · cases found with
    | none => exact Tx.read_only_pure _
    | some account =>
        refine Tx.read_only_bind (fun _ => rfl) fun snapshot => ?_
        cases snapshot <;> exact Tx.read_only_pure _

theorem read_only_ensure (env : TransferEnv) (userID amount : Int) : Tx.ReadOnly (ensureTransferQuota env userID amount) :=
  Tx.read_only_bind (read_only_on_wallet (read_only_balance _)) fun _ => Tx.read_only_bind (fun _ => rfl) fun _ =>
    Tx.read_only_bind (fun _ => rfl) fun _ => Tx.read_only_bind (fun _ => rfl) fun _ _ => rfl

theorem found_profile {wanted : Profile → Bool} {problem : LedgerError} {store after : TransferStore} {user : Profile}
    (ran : (Tx.view (fun store : TransferStore => store.profiles.find? wanted) >>= fun found =>
      match found with
      | some user => pure user
      | none => Tx.fail problem : TransferTx Profile) store = (.ok user, after)) : wanted user = true ∧ after = store := by
  simp only [Tx.ran_bind, Tx.ran_view] at ran
  obtain ⟨found, _, ⟨looked, rfl⟩, ran⟩ := ran
  cases found with
  | none => simp at ran
  | some row =>
      obtain ⟨rfl, rfl⟩ := (Tx.ran_pure _ _ _ _).mp ran
      exact ⟨List.find?_some looked, rfl⟩

theorem execute_moves (env : TransferEnv) {sender recipient : Profile} {req : CreateWalletTransferRequest} {store after : TransferStore}
    {receipt : WalletTransfer} (apart : recipient.id ≠ sender.id) (positive : 0 < req.amountQuota) (unused : Unused store.wallet.ledger req.requestID)
    (ran : executeWalletTransferTx env sender recipient req store = (.ok receipt, after)) :
    receipt.requestID = req.requestID ∧ receipt.recipientUserID = recipient.id ∧ 0 ≤ receipt.senderBalanceAfter ∧
      after.transfers.rows = store.transfers.rows ++ [receipt] ∧
      (∃ payer payee, Moved store.wallet sender.id recipient.id req.amountQuota (walletTransferFee req.amountQuota) payer payee after.wallet) ∧
      WritesFor (· = req.requestID) store.wallet.ledger after.wallet.ledger := by
  simp only [executeWalletTransferTx, Tx.ran_bind, Tx.ran_reject, Tx.ran_view] at ran
  obtain ⟨senderBalance, _, firstRead, recipientBalance, _, secondRead, _, _, ⟨_, rfl⟩, _, _, ⟨enough, rfl⟩, _, _, ensured, _, middle, moving,
    inserted, _, ⟨looked, rfl⟩, ran⟩ := ran
  obtain rfl := (read_only_on_wallet (read_only_balance _)).same firstRead
  obtain rfl := (read_only_on_wallet (read_only_balance _)).same secondRead
  obtain rfl := (read_only_ensure _ _ _).same ensured
  obtain ⟨wallet, moved, rfl⟩ := (Tx.ran_zoom _ _ _ _ _ _).mp moving
  cases inserted with
  | none => simp at ran
  | some transfers =>
      simp only [Tx.ran_bind, Tx.ran_edit, Tx.ran_reject, Tx.ran_pure] at ran
      obtain ⟨_, _, rfl, _, _, ⟨_, rfl⟩, rfl, rfl⟩ := ran
      refine ⟨rfl, rfl, ?_, ((Table.insert?_eq_some_iff _ _ _).mp looked).2, move_peer env.toWalletEnv apart positive unused moved⟩
      simp only [newWalletTransfer]
      omega

theorem transfer_answers (env : TransferEnv) (authorized : AuthorizedWalletTransfer env.quotaPerUnit) {store : TransferStore} (booked : Booked store) :
    Answer authorized store (transferAuthorizedWalletQuota env authorized store).2 (transferAuthorizedWalletQuota env authorized store).1 ∧
      Booked (transferAuthorizedWalletQuota env authorized store).2 := by
  rw [transferAuthorizedWalletQuota, Tx.atomic_outcome]
  rcases Tx.atomic_store (transferTx env authorized) store with ⟨receipt, ran⟩ | ⟨⟨problem, failed⟩, same⟩
  · generalize (Tx.atomic (transferTx env authorized) store).2 = after at ran
    rw [ran]
    simp only [transferTx, Tx.ran_bind, Tx.ran_reject, Tx.ran_view] at ran
    obtain ⟨found, _, first, _, _, ⟨apart, rfl⟩, sender, _, second, recipient, _, third, existing, _, ⟨looked, rfl⟩, ran⟩ := ran
    obtain ⟨_, rfl⟩ := found_profile first
    obtain ⟨senderIs, rfl⟩ := found_profile second
    obtain ⟨recipientIs, rfl⟩ := found_profile third
    simp only [decide_eq_true_eq] at senderIs recipientIs
    cases existing with
    | some row =>
        simp only [Tx.ran_bind, Tx.ran_reject, Tx.ran_pure] at ran
        obtain ⟨_, _, ⟨agrees, rfl⟩, rfl, rfl⟩ := ran
        push Not at agrees
        obtain ⟨known, asked⟩ := Table.mem_of_find? _ _ _ looked
        exact ⟨.repeated row known (by simpa using asked) ⟨agrees.1.trans senderIs.1, agrees.2.2⟩ rfl, booked⟩
    | none =>
        have absent := (Table.find?_eq_none_iff _ _).mp looked
        simp only [decide_eq_false_iff_not] at absent
        simp only [Tx.ran_bind, Tx.ran_reject] at ran
        obtain ⟨_, _, ⟨_, rfl⟩, ran⟩ := ran
        obtain ⟨asked, reached, solvent, written, ⟨payer, payee, moved⟩, writes⟩ :=
          execute_moves env (by rwa [senderIs.1, recipientIs.1]) (valid_positive authorized.valid) (booked _ absent) ran
        rw [senderIs.1, ← reached] at moved
        refine ⟨.transferred receipt payer payee asked absent written solvent moved, fun requestID unseen => ?_⟩
        rw [written] at unseen
        refine writes.unused (fun same => unseen receipt (by simp) (asked.trans same.symm)) (booked _ fun known member => unseen known (by simp [member]))
  · rw [same, failed]
    exact ⟨.refused problem rfl, booked⟩

inductive Action where
  | transfer (env : TransferEnv) (authorized : AuthorizedWalletTransfer env.quotaPerUnit)
  | other (change : TransferStore → TransferStore)
      (foreign : ∀ store, (change store).transfers = store.transfers ∧ WritesFor (fun _ => False) store.wallet.ledger (change store).wallet.ledger)

def step (store : TransferStore) : Action → TransferStore
  | .transfer env authorized => (transferAuthorizedWalletQuota env authorized store).2
  | .other change _ => change store

def Lawful (store : TransferStore) : Action → Prop
  | .transfer env authorized => Answer authorized store (step store (.transfer env authorized)) (transferAuthorizedWalletQuota env authorized store).1
  | .other _ _ => True

theorem transfers_lawful (start : TransferStore) (begins : Booked start) (actions : List Action) :
    Booked (run step start actions) ∧ Every step Lawful start actions := by
  have unguarded : Every step (fun _ _ => True) start actions := every_of_all (fun _ _ => trivial) _ _
  refine unguarded.keeps start begins (fun store action booked _ => ?_) actions
  cases action with
  | transfer env authorized => exact (transfer_answers env authorized booked).symm
  | other change foreign =>
      refine ⟨fun requestID unseen => (foreign store).2.unused not_false (booked _ ?_), trivial⟩
      rwa [← (foreign store).1]

def transferEnv : TransferEnv :=
  { postgres := true, uuid := toString, digest := fun _ text => text, now := fun _ => 0, quotaPerUnit := 500000, audited := fun _ => true }

def sentOnce : Action :=
  .transfer transferEnv ⟨1, { recipientExternalID := "222222", amountQuota := 10000, requestID := "r" }, by
    simp only [validWalletTransferRequest, transferEnv]
    decide +kernel⟩

def twoUsers : TransferStore :=
  { wallet := { ledger := .empty, users := ⟨[{ id := 1, claudeQuota := 20000 }, { id := 2 }], by decide⟩, lots := .empty, allocations := .empty }
    profiles := [{ id := 1, externalID := "111111", enabled := true }, { id := 2, externalID := "222222", enabled := true }]
    holds := none
    transfers := .empty }

-- Sent twice, paid once.
theorem transfers_lawful_two :
    (Booked (run step twoUsers [sentOnce, sentOnce]) ∧ Every step Lawful twoUsers [sentOnce, sentOnce]) ∧
      (run step twoUsers [sentOnce, sentOnce]).transfers.rows.map (fun receipt => (receipt.feeQuota, receipt.senderBalanceAfter)) = [(100, 9900)] :=
  ⟨transfers_lawful twoUsers (fun _ _ => ⟨fun _ member => (List.not_mem_nil member).elim, fun _ member => (List.not_mem_nil member).elim⟩) _, by decide +kernel⟩

end Runs

end CodeGo.Billing.Transfers
