import CodeGo.Wallet.Attribution

set_option autoImplicit false

namespace CodeGo.Billing

open Relational Text

def debitHold (env : WalletEnv) (accountID : String) (amount : Int) (operationID : String) : CreateReservationParams :=
  { accountID, requestID := ledgerSyncRequestID env operationID, reservedAmount := amount, idempotencyKey := "ledger-reservation:" ++ operationID }

def debitSettle (reservationID : String) (amount : Int) (operationID : String) : SettleReservationParams :=
  { reservationID, actualAmount := amount, idempotencyKey := "ledger-settlement:" ++ operationID }

-- A committed wallet debit: the wallet is found or opened, then one hold is settled in full.
structure WalletDebited (env : WalletEnv) (wallet : Wallet) (userID amount : Int) (operationID : String) (account : BillingAccount)
    (mirror held spent : Ledger) (reservation : BillingReservation) (settlement : BillingSettlement) (after : Wallet) : Prop where
  user : 0 < userID
  positive : 0 < amount
  mirrored : Mirrored wallet.ledger userID (wallet.quota userID) account mirror
  hold : createReservationTx env.toLedgerEnv (debitHold env account.accountID amount operationID) mirror = (.ok reservation, held)
  settle : settleReservationTx env.toLedgerEnv (debitSettle reservation.reservationID amount operationID) held = (.ok settlement, spent)
  ledger : ∃ drawn, after.ledger = { spent with drawn }

theorem ran_apply_debit (env : WalletEnv) (accountID : String) (userID amount : Int) (operationID reasonCode : String) (wallet after : Wallet)
    (fresh : Bool) (ran : applyLedgerDeltaTx env accountID userID amount operationID reasonCode wallet = (.ok fresh, after)) (positive : 0 < amount) :
    ∃ reservation held settlement spent,
      createReservationTx env.toLedgerEnv (debitHold env accountID amount operationID) wallet.ledger = (.ok reservation, held) ∧
        settleReservationTx env.toLedgerEnv (debitSettle reservation.reservationID amount operationID) held = (.ok settlement, spent) ∧
        Reallocated { wallet with ledger := spent } after := by
  have notZero : amount ≠ 0 := by omega
  have notCredit : ¬ amount < 0 := by omega
  simp only [applyLedgerDeltaTx, if_neg notZero, if_neg notCredit, Tx.ran_bind, ran_on_ledger] at ran
  obtain ⟨reservation, _, ⟨held, hold, rfl⟩, settlement, _, ⟨spent, settle, rfl⟩, finish⟩ := ran
  refine ⟨reservation, held, settlement, spent, hold, settle, ?_⟩
  split at finish
  · rw [Tx.ran_pure] at finish
    exact finish.2 ▸ .refl _
  · split at finish
    · rw [Tx.ran_bind] at finish
      obtain ⟨_, middle, attributed, answered⟩ := finish
      rw [Tx.ran_pure] at answered
      exact answered.2 ▸ reallocated_by_fifo env _ _ _ _ _ attributed
    · rw [Tx.ran_pure] at finish
      exact finish.2 ▸ .refl _

theorem projected_decrease (userID amount : Int) (wallet after : Wallet)
    (ran : decreaseCanonicalUserClaudeWalletQuotaTx userID amount wallet = (.ok (), after)) : Projected wallet after := by
  simp only [decreaseCanonicalUserClaudeWalletQuotaTx, findUser, Tx.ran_bind, Tx.ran_view] at ran
  obtain ⟨_, middle, updated, _, _, ⟨rfl, rfl⟩, answered⟩ := ran
  have projected := projected_update userID _ _ _ updated
  cases looked : middle.users.find? fun user => user.id = userID with
  | none => simp [looked] at answered
  | some user =>
      simp only [looked, Tx.ran_pure] at answered
      exact answered.2 ▸ projected

theorem wallet_debited (env : WalletEnv) (userID amount : Int) (operationID reasonCode : String) (wallet after : Wallet)
    (ran : debitClaudeWalletQuotaAmountTx env userID amount operationID reasonCode wallet = (.ok (), after)) :
    ∃ account mirror held spent reservation settlement,
      WalletDebited env wallet userID amount operationID account mirror held spent reservation settlement after := by
  simp only [debitClaudeWalletQuotaAmountTx, Tx.ran_bind, Tx.ran_reject, ran_on_ledger] at ran
  obtain ⟨_, _, ⟨accepted, rfl⟩, legacy, _, read, account, _, ⟨mirror, ensured, rfl⟩, fresh, middle, applied, finish⟩ := ran
  push Not at accepted
  obtain ⟨rfl, rfl⟩ := ran_get_quota _ _ _ _ read
  obtain ⟨reservation, held, settlement, spent, hold, settle, drawn, lots, allocations, rfl⟩ :=
    ran_apply_debit env _ _ _ _ _ _ _ _ applied accepted.2.1
  refine ⟨account, mirror, held, spent, reservation, settlement, accepted.1, accepted.2.1, mirrored_of_ensure _ _ _ _ _ _ ensured, hold, settle,
    drawn, ?_⟩
  split at finish
  · obtain ⟨users, rfl⟩ := (projected_decrease _ _ _ _ finish).frame
    rfl
  · rw [Tx.ran_pure] at finish
    exact finish.2 ▸ rfl

theorem WalletDebited.moves {env : WalletEnv} {wallet after : Wallet} {userID amount : Int} {operationID : String} {account : BillingAccount}
    {mirror held spent : Ledger} {reservation : BillingReservation} {settlement : BillingSettlement}
    (debited : WalletDebited env wallet userID amount operationID account mirror held spent reservation settlement after) :
    Moves [.ensureBillingAccount (claudeWalletParams userID),
      .creditAccount (mirrorBootstrap account.accountID userID (wallet.quota userID)),
      .createReservation (debitHold env account.accountID amount operationID),
      .settleReservation (debitSettle reservation.reservationID amount operationID), .tick 0] wallet.ledger after.ledger := by
  obtain ⟨drawn, final⟩ := debited.ledger
  rw [final]
  exact debited.mirrored.moves.append (.cons (create_effect _ _ _ _ _ debited.hold) (.cons (settle_effect _ _ _ _ _ debited.settle)
    (.unmoved _ (.drawn spent drawn))))

end CodeGo.Billing
