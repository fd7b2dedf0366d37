import CodeGo.Wallet.Effects

set_option autoImplicit false

namespace CodeGo.Billing

open Relational Text

-- Attribution writes lots and allocations and draws ids for them; balances and users stay.
def Reallocated (wallet after : Wallet) : Prop :=
  ∃ drawn lots allocations, after = { wallet with ledger := { wallet.ledger with drawn }, lots, allocations }

theorem Reallocated.refl (wallet : Wallet) : Reallocated wallet wallet := ⟨_, _, _, rfl⟩

theorem Reallocated.trans {wallet middle after : Wallet} (early : Reallocated wallet middle) (late : Reallocated middle after) :
    Reallocated wallet after := by
  obtain ⟨_, _, _, rfl⟩ := early
  obtain ⟨_, _, _, rfl⟩ := late
  exact ⟨_, _, _, rfl⟩

theorem ran_create_allocation (env : WalletEnv) (allocation : FundingAllocation) (wallet after : Wallet)
    (ran : createAllocation env allocation wallet = (.ok (), after)) :
    ∃ allocationID drawn allocations, after = { wallet with ledger := { wallet.ledger with drawn }, allocations } ∧
      allocations.rows = wallet.allocations.rows ++ [{ allocation with allocationID }] := by
  simp only [createAllocation, Tx.ran_bind, Tx.ran_view, ran_on_ledger] at ran
  obtain ⟨allocationID, _, ⟨_, filled, rfl⟩, _, _, ⟨rfl, rfl⟩, continued⟩ := ran
  obtain ⟨drawn, rfl⟩ := ran_fill_id env.toLedgerEnv _ _ _ _ filled
  cases accepted : wallet.allocations.insert? { allocation with allocationID } with
  | none => simp [accepted] at continued
  | some allocations =>
      simp only [accepted, Tx.ran_edit] at continued
      exact ⟨allocationID, drawn, allocations, continued.symm, ((Table.insert?_eq_some_iff _ _ _).mp accepted).2⟩

theorem reallocated_by_draw (env : WalletEnv) (requestID accountID : String) (lot : FundingLot) (used : Int) (wallet after : Wallet)
    (ran : drawLot env requestID accountID lot used wallet = (.ok (), after)) : Reallocated wallet after := by
  simp only [drawLot, updateLot, Tx.ran_bind, Tx.ran_edit] at ran
  obtain ⟨_, _, rfl, created⟩ := ran
  obtain ⟨_, drawn, allocations, rfl, _⟩ := ran_create_allocation env _ _ _ created
  exact ⟨_, _, _, rfl⟩

theorem reallocated_by_draws (env : WalletEnv) (requestID accountID : String) (consumed : List (FundingLot × Int)) (wallet after : Wallet)
    (ran : drawLots env requestID accountID consumed wallet = (.ok (), after)) : Reallocated wallet after := by
  induction consumed generalizing wallet with
  | nil =>
      simp only [drawLots, Tx.ran_pure] at ran
      exact ran.2 ▸ .refl wallet
  | cons entry rest ih =>
      simp only [drawLots, Tx.ran_bind] at ran
      obtain ⟨_, middle, draw, continued⟩ := ran
      exact (reallocated_by_draw env _ _ _ _ _ _ draw).trans (ih middle continued)

theorem reallocated_by_batch (env : WalletEnv) (requestID accountID : String) (amount : Int) (cursor : Option FundingLot)
    (wallet after : Wallet) (batch : FundingFIFOBatch)
    (ran : allocateSettledFundingPostgresBatchTx env requestID accountID amount cursor wallet = (.ok batch, after)) :
    Reallocated wallet after := by
  simp only [allocateSettledFundingPostgresBatchTx, Tx.ran_bind, Tx.ran_view, Tx.ran_pure] at ran
  obtain ⟨_, _, ⟨rfl, rfl⟩, _, middle, draws, _, rfl⟩ := ran
  exact reallocated_by_draws env _ _ _ _ _ draws

theorem reallocated_by_take (env : WalletEnv) (requestID accountID : String) (remaining : Int) (wallet after : Wallet) (lot : FundingLot)
    (ran : takeOldestLot env requestID accountID remaining wallet = (.ok lot, after)) : Reallocated wallet after := by
  simp only [takeOldestLot, Tx.ran_bind, Tx.ran_view] at ran
  obtain ⟨_, _, ⟨rfl, rfl⟩, continued⟩ := ran
  cases looked : (openLots accountID wallet).head? with
  | some found =>
      simp only [looked, Tx.ran_pure] at continued
      exact continued.2 ▸ .refl wallet
  | none =>
      simp only [looked] at continued
      obtain ⟨_, drawn, lots, _, rfl, _⟩ := ran_create_lot env _ _ _ _ continued
      exact ⟨_, _, _, rfl⟩

theorem reallocated_by_rounds (env : WalletEnv) (requestID accountID : String) (rounds : Nat) (remaining : Int) (cursor : Option FundingLot)
    (wallet after : Wallet) (ran : allocateRounds env requestID accountID rounds remaining cursor wallet = (.ok (), after)) :
    Reallocated wallet after := by
  induction rounds generalizing remaining cursor wallet with
  | zero =>
      simp only [allocateRounds, Tx.ran_pure] at ran
      exact ran.2 ▸ .refl wallet
  | succ rounds ih =>
      unfold allocateRounds at ran
      split at ran
      · rw [Tx.ran_pure] at ran
        exact ran.2 ▸ .refl wallet
      · rw [Tx.ran_bind] at ran
        obtain ⟨batch, middle, batched, continued⟩ := ran
        have first : Reallocated wallet middle := by
          unfold nextBatch at batched
          split at batched
          · exact reallocated_by_batch env _ _ _ _ _ _ _ batched
          · rw [Tx.ran_pure] at batched
            exact batched.2 ▸ .refl wallet
        split at continued
        · exact first.trans (ih _ _ middle continued)
        · simp only [Tx.ran_bind] at continued
          obtain ⟨lot, taken, take, _, drawn, draw, continued⟩ := continued
          exact first.trans ((reallocated_by_take env _ _ _ _ _ _ take).trans
            ((reallocated_by_draw env _ _ _ _ _ _ draw).trans (ih _ _ drawn continued)))

theorem reallocated_by_fifo (env : WalletEnv) (requestID accountID : String) (amount : Int) (wallet after : Wallet)
    (ran : allocateSettledFundingFIFOTx env requestID accountID amount wallet = (.ok (), after)) : Reallocated wallet after := by
  simp only [allocateSettledFundingFIFOTx, Tx.ran_bind, Tx.ran_view] at ran
  obtain ⟨_, _, ⟨rfl, rfl⟩, continued⟩ := ran
  cases looked : wallet.allocations.find? fun allocation => allocation.requestID = requestID with
  | some found =>
      simp only [looked, Tx.ran_pure] at continued
      exact continued.2 ▸ .refl wallet
  | none =>
      simp only [looked] at continued
      exact reallocated_by_rounds env _ _ _ _ _ _ _ continued

end CodeGo.Billing
