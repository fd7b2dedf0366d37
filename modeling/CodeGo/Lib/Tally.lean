import Mathlib.Data.List.AList
import Mathlib.Algebra.BigOperators.Group.List.Lemmas
import Mathlib.Algebra.Ring.Nat

set_option autoImplicit false

/- Counters kept in a map that drops an entry when it would fall to zero, and what they count: the holders in a list. -/

namespace Tally

-- The keys that a list of holders takes up, counted across a change of one holder.
theorem count_set {α κ : Type} [DecidableEq κ] (held : α → Option κ) (list : List α) (i : Nat) (old new : α)
    (found : list[i]? = some old) (key : κ) :
    ((list.set i new).filterMap held).count key + (if held old = some key then 1 else 0) =
      (list.filterMap held).count key + (if held new = some key then 1 else 0) := by
  have one (member : α) (rest : List α) :
      ((member :: rest).filterMap held).count key = (rest.filterMap held).count key + (if held member = some key then 1 else 0) := by
    cases holds : held member with
    | none => rw [List.filterMap_cons_none holds, if_neg (by simp), Nat.add_zero]
    | some other => simp [List.filterMap_cons_some holds, List.count_cons]
  induction list generalizing i with
  | nil => simp at found
  | cons first rest ih =>
      cases i with
      | zero =>
          obtain rfl : first = old := by simpa using found
          rw [List.set_cons_zero, one, one]
          omega
      | succ i =>
          have later := ih i (by simpa using found)
          rw [List.set_cons_succ, one, one]
          omega

theorem filter_map_snoc {α κ : Type} (held : α → Option κ) (list : List α) (new : α) (idle : held new = none) :
    (list ++ [new]).filterMap held = list.filterMap held := by
  rw [List.filterMap_append, List.filterMap_cons_none idle, List.filterMap_nil, List.append_nil]

variable {κ : Type} [DecidableEq κ]

-- Counting the holders of every key counts them all, whatever keys stand beside theirs.
theorem sum_counts (keys holders : List κ) (distinct : keys.Nodup) (covered : ∀ key ∈ holders, key ∈ keys) :
    (keys.map fun key => holders.count key).sum = holders.length := by
  induction keys generalizing holders with
  | nil =>
      cases holders with
      | nil => rfl
      | cons key rest => exact absurd (covered key List.mem_cons_self) List.not_mem_nil
  | cons key rest ih =>
      obtain ⟨missing, distinct⟩ := List.nodup_cons.mp distinct
      have others := ih (holders.filter (· ≠ key)) distinct (by
        intro other listed
        obtain ⟨listed, different⟩ := List.mem_filter.mp listed
        rcases List.mem_cons.mp (covered other listed) with rfl | listed
        · simp at different
        · exact listed)
      have kept : (rest.map fun other => (holders.filter (· ≠ key)).count other) = rest.map fun other => holders.count other := by
        apply List.map_congr_left
        intro other listed
        apply List.count_filter
        have different : other ≠ key := fun same => missing (same ▸ listed)
        simpa using different
      have split := List.length_eq_length_filter_add (l := holders) (· = key)
      rw [List.map_cons, List.sum_cons, ← kept, others, split]
      congr 1
      · rw [List.count_eq_length_filter]
        congr 1
      · congr 1
        apply List.filter_congr
        intro other _
        simp

abbrev Counters (κ : Type) := AList fun _ : κ => Nat

def get (counters : Counters κ) (key : κ) : Nat := (counters.lookup key).getD 0

def raise (counters : Counters κ) (key : κ) : Counters κ := counters.insert key (get counters key + 1)

def lower (counters : Counters κ) (key : κ) : Counters κ :=
  if get counters key ≤ 1 then counters.erase key else counters.insert key (get counters key - 1)

def total (counters : Counters κ) : Nat := (counters.entries.map Sigma.snd).sum

theorem get_raise (counters : Counters κ) (key other : κ) :
    get (raise counters key) other = get counters other + if other = key then 1 else 0 := by
  unfold get raise
  by_cases same : other = key
  · subst same
    rw [AList.lookup_insert, if_pos rfl]
    rfl
  · rw [AList.lookup_insert_ne same, if_neg same, Nat.add_zero]

theorem get_lower_le (counters : Counters κ) (key other : κ) : get (lower counters key) other ≤ get counters other := by
  unfold lower
  by_cases same : other = key
  · subst same
    split
    · rw [get, AList.lookup_erase]
      exact Nat.zero_le _
    · rw [get, AList.lookup_insert]
      exact Nat.sub_le _ _
  · split
    · rw [get, get, AList.lookup_erase_ne same]
    · rw [get, AList.lookup_insert_ne same]
      rfl

-- A key has an entry where it has holders, and their number stands in it.
def Counts (counters : Counters κ) (holders : List κ) : Prop :=
  ∀ key, counters.lookup key = if holders.count key = 0 then none else some (holders.count key)

theorem counts_empty : Counts (∅ : Counters κ) [] := fun _ => rfl

section Counts

variable {counters : Counters κ} {holders : List κ}

theorem Counts.get (counts : Counts counters holders) (key : κ) : get counters key = holders.count key := by
  rw [Tally.get, counts key]
  split
  · rename_i nothing
    exact nothing.symm
  · rfl

theorem Counts.congr (counts : Counts counters holders) (others : List κ) (same : ∀ key, others.count key = holders.count key) :
    Counts counters others := by
  intro key
  rw [counts key, same key]

theorem Counts.raise (counts : Counts counters holders) (key : κ) (more : List κ)
    (raised : ∀ other, more.count other = holders.count other + if other = key then 1 else 0) :
    Counts (raise counters key) more := by
  intro other
  rw [raised other, Tally.raise, counts.get key]
  by_cases same : other = key
  · subst same
    rw [AList.lookup_insert, if_pos rfl, if_neg (Nat.succ_ne_zero _)]
  · rw [AList.lookup_insert_ne same, if_neg same, counts other, Nat.add_zero]

theorem Counts.lower (counts : Counts counters holders) (key : κ) (fewer : List κ)
    (lowered : ∀ other, fewer.count other + (if other = key then 1 else 0) = holders.count other) :
    Counts (lower counters key) fewer := by
  intro other
  have count := lowered other
  rw [Tally.lower, counts.get key]
  by_cases same : other = key
  · subst same
    rw [if_pos rfl] at count
    by_cases last : holders.count other ≤ 1
    · rw [if_pos last, AList.lookup_erase, if_pos (by omega)]
    · rw [if_neg last, AList.lookup_insert, if_neg (by omega), ← count, Nat.add_sub_cancel]
  · rw [if_neg same, Nat.add_zero] at count
    rw [count, ← counts other]
    split
    · exact AList.lookup_erase_ne same
    · exact AList.lookup_insert_ne same

theorem Counts.entry (counts : Counts counters holders) {entry : Sigma fun _ : κ => Nat} (listed : entry ∈ counters.entries) :
    0 < entry.2 ∧ entry.2 = holders.count entry.1 := by
  have stored : counters.lookup entry.1 = some entry.2 := AList.mem_lookup_iff.mpr listed
  rw [counts entry.1] at stored
  split at stored
  · cases stored
  · have same := Option.some.inj stored
    omega

theorem Counts.covered (counts : Counts counters holders) (key : κ) (listed : key ∈ holders) : key ∈ counters.keys := by
  rw [← AList.mem_keys, ← AList.lookup_isSome, counts key, if_neg]
  · rfl
  · exact (List.count_pos_iff.mpr listed).ne'

-- The map is empty exactly when nothing is held.
theorem Counts.empty_iff (counts : Counts counters holders) : counters.entries = [] ↔ holders = [] := by
  constructor
  · intro empty
    cases holders with
    | nil => rfl
    | cons key rest =>
        have listed := counts.covered key List.mem_cons_self
        rw [AList.keys, empty] at listed
        exact absurd listed List.not_mem_nil
  · intro empty
    cases entries : counters.entries with
    | nil => rfl
    | cons entry rest =>
        have listed : entry ∈ counters.entries := by
          rw [entries]
          exact List.mem_cons_self
        obtain ⟨pos, counted⟩ := counts.entry listed
        rw [empty, List.count_nil] at counted
        omega

theorem Counts.total (counts : Counts counters holders) : total counters = holders.length := by
  have counted : counters.entries.map Sigma.snd = counters.keys.map fun key => holders.count key := by
    rw [AList.keys, List.keys, List.map_map]
    apply List.map_congr_left
    intro entry listed
    exact (counts.entry listed).2
  rw [Tally.total, counted]
  exact sum_counts _ _ counters.keys_nodup counts.covered

end Counts

end Tally
