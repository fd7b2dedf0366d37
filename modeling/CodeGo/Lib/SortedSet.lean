import Mathlib.Data.Finset.Card
import Mathlib.Logic.Function.Basic

set_option autoImplicit false

/- A sorted set of a key-value store whose scores are times: members with a score each, under
   a key that is gone once its own deadline has passed. A set without members is no key. -/
namespace Keyspace

structure SortedSet (τ : Type) where
  members : Finset τ := ∅
  score : τ → Nat := fun _ => 0
  deadline : Nat := 0

section Reading

variable {τ : Type} (set : SortedSet τ) (now : Nat) (member : τ)

def SortedSet.live : Finset τ := set.members.filter fun other => now < set.score other

-- What a command finds at a time: a key past its deadline is not found.
def SortedSet.found : SortedSet τ := if set.deadline < now then {} else set

def SortedSet.removeUpTo : SortedSet τ := { set with members := set.live now }

def SortedSet.card : Nat := set.members.card

def SortedSet.expireAt (deadline : Nat) : SortedSet τ := { set with deadline := deadline }

@[simp] theorem mem_live : member ∈ set.live now ↔ member ∈ set.members ∧ now < set.score member := by
  simp [SortedSet.live]

theorem live_card_le : (set.live now).card ≤ set.card := Finset.card_le_card (Finset.filter_subset _ _)

theorem found_cases : set.found now = set ∨ (set.deadline < now ∧ set.found now = {}) := by
  unfold SortedSet.found
  split
  · rename_i ended
    exact .inr ⟨ended, rfl⟩
  · exact .inl rfl

theorem mem_found (found : member ∈ (set.found now).members) :
    set.found now = set ∧ member ∈ set.members ∧ now ≤ set.deadline := by
  unfold SortedSet.found at found ⊢
  split at found
  · simp at found
  · rename_i ahead
    rw [if_neg ahead]
    exact ⟨rfl, found, Nat.le_of_not_lt ahead⟩

theorem found_card_le : (set.found now).card ≤ set.card := by
  rcases found_cases set now with same | ⟨_, gone⟩
  · rw [same]
  · rw [gone]
    exact Nat.zero_le _

@[simp] theorem removed_members : (set.removeUpTo now).members = set.live now := rfl

@[simp] theorem removed_score : (set.removeUpTo now).score = set.score := rfl

@[simp] theorem removed_live : (set.removeUpTo now).live now = set.live now := by
  ext other
  rw [mem_live, removed_members, removed_score, mem_live]
  tauto

@[simp] theorem expire_members (deadline : Nat) : (set.expireAt deadline).members = set.members := rfl

@[simp] theorem expire_score (deadline : Nat) : (set.expireAt deadline).score = set.score := rfl

@[simp] theorem expire_deadline (deadline : Nat) : (set.expireAt deadline).deadline = deadline := rfl

end Reading

section Writing

variable {τ : Type} [DecidableEq τ] (set : SortedSet τ) (now : Nat) (member : τ)

def SortedSet.add (score : Nat) : SortedSet τ :=
  { set with members := insert member set.members, score := Function.update set.score member score }

def SortedSet.remove : SortedSet τ := { set with members := set.members.erase member }

@[simp] theorem added_members (score : Nat) : (set.add member score).members = insert member set.members := rfl

@[simp] theorem added_score (score : Nat) : (set.add member score).score = Function.update set.score member score := rfl

@[simp] theorem erased_members : (set.remove member).members = set.members.erase member := rfl

@[simp] theorem erased_score : (set.remove member).score = set.score := rfl

@[simp] theorem erased_deadline : (set.remove member).deadline = set.deadline := rfl

-- A score in the future brings the member to life and leaves the others alone.
theorem added_live (score : Nat) (ahead : now < score) : (set.add member score).live now = insert member (set.live now) := by
  ext other
  by_cases same : other = member
  · subst same
    simp [ahead]
  · simp [same]

end Writing

end Keyspace
