import CodeGo.BlindBox.Changes
import CodeGo.BlindBox.Passes

set_option autoImplicit false

namespace CodeGo.BlindBox

open Relational Text Billing
open Checkout (PropType PropStatus nextID)

/- What the card commands do to the seconds on the cards and to the references they carry. -/

section Running

variable {now : Int} {store middle after : BoxStore}

theorem prop_keyed (first second : BlindBoxProp) (same : first.id = second.id) : Clash first second := same

theorem ran_sweep (userID : Int) (ran : expireUserBlindBoxPropsTx userID now store = (.ok (), after)) :
    after = store ∨ after = { store with props := sweptProps userID now store.props } := by
  rw [expireUserBlindBoxPropsTx] at ran
  by_cases none : userID ≤ 0
  · rw [if_pos none, Tx.ran_pure] at ran
    exact .inl ran.2.symm
  · rw [if_neg none, Tx.ran_edit] at ran
    exact .inr ran.symm

theorem ran_find_prop (userID propID : Int) (problem : BoxError) (prop : BlindBoxProp) (ran : findProp userID propID problem store = (.ok prop, after)) :
    prop ∈ store.props.rows ∧ (prop.id = propID ∧ prop.userID = userID) ∧ after = store := by
  simp only [findProp, Tx.ran_bind, Tx.ran_view] at ran
  obtain ⟨_, _, ⟨rfl, rfl⟩, continued⟩ := ran
  cases found : store.props.find? fun prop => prop.id = propID ∧ prop.userID = userID with
  | none => simp only [found, Tx.ran_fail] at continued
  | some card =>
      simp only [found, Tx.ran_pure] at continued
      obtain ⟨rfl, rfl⟩ := continued
      obtain ⟨member, hit⟩ := Table.mem_of_find? _ _ _ found
      exact ⟨member, of_decide_eq_true hit, rfl⟩

theorem ran_expire_if_needed (prop result : BlindBoxProp) (running : result.status ≠ .expired)
    (ran : expireBlindBoxPropIfNeededTx prop now store = (.ok result, after)) : result = prop ∧ after = store := by
  rw [expireBlindBoxPropIfNeededTx] at ran
  by_cases lapsed : prop.Lapsed now
  · rw [if_pos lapsed, Tx.ran_bind] at ran
    obtain ⟨_, _, _, returned⟩ := ran
    rw [Tx.ran_pure] at returned
    exact (running (by rw [← returned.1])).elim
  · rw [if_neg lapsed, Tx.ran_pure] at ran
    exact ⟨ran.1.symm, ran.2.symm⟩

theorem read_only_running (userID : Int) (propType : PropType) (checkedAt : Int) : Tx.ReadOnly (rejectRunningCard userID propType checkedAt) := by
  cases propType with
  | zeroHourMultiplier => exact Tx.read_only_bind (Tx.read_only_view _) fun _ => Tx.read_only_reject _ _
  | monthlyPassMultiplier => exact Tx.read_only_bind (Tx.read_only_view _) fun _ => Tx.read_only_reject _ _
  | consumeDiscount10 => exact Tx.read_only_bind (Tx.read_only_view _) fun _ => Tx.read_only_reject _ _
  | topupDiscount90 => exact Tx.read_only_pure _
  | subscriptionDiscount90 => exact Tx.read_only_pure _
  | consumeDiscount95 => exact Tx.read_only_pure _
  | consumeDiscount90 => exact Tx.read_only_pure _
  | extraDraw => exact Tx.read_only_pure _

theorem ran_started (prop : BlindBoxProp) (seconds : Int) (ran : startedSeconds prop store = (.ok seconds, after)) :
    (isPausableBlindBoxMultiplierProp prop.propType →
        0 < seconds ∧ seconds = if prop.remainingSeconds ≤ 0 then prop.durationSeconds else prop.remainingSeconds) ∧
      after = store := by
  rw [startedSeconds] at ran
  by_cases pausable : isPausableBlindBoxMultiplierProp prop.propType
  · simp only [if_pos pausable, Tx.ran_bind, Tx.ran_reject, Tx.ran_pure] at ran
    obtain ⟨_, _, ⟨some, rfl⟩, rfl, rfl⟩ := ran
    exact ⟨fun _ => ⟨Int.not_le.mp some, rfl⟩, rfl⟩
  · rw [if_neg pausable, Tx.ran_pure] at ran
    exact ⟨fun suits => absurd suits pausable, ran.2.symm⟩

end Running

end CodeGo.BlindBox
