import Mathlib.Data.Finset.Card
import Mathlib.Data.List.Sort

set_option autoImplicit false

/- The distinct values of a list by rank, highest first. -/

namespace Ranks

variable {K : Type} [LinearOrder K]

def descending (values : List K) : List K := values.dedup.insertionSort (fun first second => second ≤ first)

-- The value with `rank` distinct values above it; a rank that is too large is the last one.
def AtRank (values : List K) (rank : Nat) (value : K) : Prop :=
  value ∈ values ∧ (values.toFinset.filter fun other => value < other).card = min rank (values.toFinset.card - 1)

instance (values : List K) (rank : Nat) (value : K) : Decidable (AtRank values rank value) := inferInstanceAs (Decidable (_ ∧ _))

theorem mem_descending {values : List K} {value : K} : value ∈ descending values ↔ value ∈ values := by
  rw [descending, List.mem_insertionSort, List.mem_dedup]

theorem descending_falls (values : List K) : (descending values).Pairwise fun first second => second < first := by
  have sorted : (descending values).Pairwise fun first second => second ≤ first := List.pairwise_insertionSort _ _
  have distinct : (descending values).Nodup := (List.perm_insertionSort _ _).nodup_iff.mpr (List.nodup_dedup values)
  exact (sorted.and distinct).imp fun pair => lt_of_le_of_ne pair.1 pair.2.symm

theorem length_descending (values : List K) : (descending values).length = values.toFinset.card := by
  rw [descending, List.length_insertionSort, List.card_toFinset]

theorem above_nth {values : List K} (falls : values.Pairwise fun first second => second < first) (index : Nat) (value : K)
    (found : values[index]? = some value) : (values.filter fun other => value < other).length = index := by
  induction values generalizing index with
  | nil => cases found
  | cons head rest ih =>
      obtain ⟨below, others⟩ := List.pairwise_cons.mp falls
      cases index with
      | zero =>
          rw [List.getElem?_cons_zero] at found
          cases found
          rw [List.length_eq_zero_iff, List.filter_eq_nil_iff]
          intro other listed above
          obtain same | deeper := List.mem_cons.mp listed
          · exact absurd (of_decide_eq_true above) (same ▸ lt_irrefl _)
          · exact absurd (of_decide_eq_true above) (not_lt.mpr (below other deeper).le)
      | succ index =>
          rw [List.getElem?_cons_succ] at found
          have above := below value (List.mem_of_getElem? found)
          rw [List.filter_cons, if_pos (decide_eq_true above), List.length_cons, ih others index found]

theorem card_above (values : List K) (value : K) :
    (values.toFinset.filter fun other => value < other).card = ((descending values).filter fun other => value < other).length := by
  have distinct : (descending values).Nodup := (descending_falls values).imp fun less => less.ne'
  have same : (values.toFinset.filter fun other => value < other) = ((descending values).filter fun other => value < other).toFinset := by
    ext other
    simp only [Finset.mem_filter, List.mem_toFinset, List.mem_filter, mem_descending, decide_eq_true_eq]
  rw [same, List.toFinset_card_of_nodup (distinct.filter _)]

theorem at_rank_of_nth (values : List K) (rank : Nat) (value : K)
    (found : (descending values)[min rank ((descending values).length - 1)]? = some value) : AtRank values rank value := by
  refine ⟨mem_descending.mp (List.mem_of_getElem? found), ?_⟩
  rw [card_above, above_nth (descending_falls values) _ value found, length_descending]

theorem nth_at_rank (values : List K) (rank : Nat) (fallback : K) (filled : values ≠ []) :
    AtRank values rank
      ((descending values).getD (if (descending values).length ≤ rank then (descending values).length - 1 else rank) fallback) := by
  have longer : 0 < (descending values).length := by
    obtain ⟨value, listed⟩ := List.exists_mem_of_ne_nil values filled
    exact List.length_pos_of_mem (mem_descending.mpr listed)
  have index : (if (descending values).length ≤ rank then (descending values).length - 1 else rank) = min rank ((descending values).length - 1) := by
    split <;> omega
  obtain ⟨value, found⟩ : ∃ value, (descending values)[min rank ((descending values).length - 1)]? = some value :=
    ⟨_, List.getElem?_eq_getElem (by omega)⟩
  rw [index, List.getD_eq_getElem?_getD, found]
  exact at_rank_of_nth values rank value found

-- The rank depends on the values alone, not on their order or how often they occur.
theorem AtRank.congr {values others : List K} {rank : Nat} {value : K} (same : ∀ value, value ∈ values ↔ value ∈ others)
    (ranked : AtRank values rank value) : AtRank others rank value := by
  have sets : values.toFinset = others.toFinset := by
    ext value
    rw [List.mem_toFinset, List.mem_toFinset, same]
  obtain ⟨listed, above⟩ := ranked
  rw [sets] at above
  exact ⟨(same value).mp listed, above⟩

theorem AtRank.unique {values : List K} {rank : Nat} {first second : K} (one : AtRank values rank first) (other : AtRank values rank second) :
    first = second := by
  have smaller : ∀ {low high : K}, low < high → high ∈ values →
      (values.toFinset.filter fun value => high < value).card < (values.toFinset.filter fun value => low < value).card := by
    intro low high less listed
    apply Finset.card_lt_card
    rw [Finset.ssubset_iff_of_subset (Finset.monotone_filter_right _ fun _ _ above => less.trans above)]
    exact ⟨high, by simp [listed, less], by simp⟩
  rcases lt_trichotomy first second with less | same | less
  · have gap := smaller less other.1
    rw [one.2, other.2] at gap
    exact absurd gap (lt_irrefl _)
  · exact same
  · have gap := smaller less one.1
    rw [one.2, other.2] at gap
    exact absurd gap (lt_irrefl _)

theorem at_rank_max (values : List K) (value : K) (listed : value ∈ values) (greatest : ∀ other ∈ values, other ≤ value) : AtRank values 0 value := by
  refine ⟨listed, ?_⟩
  rw [Nat.zero_min, Finset.card_eq_zero, Finset.filter_eq_empty_iff]
  intro other member
  exact not_lt.mpr (greatest other (List.mem_toFinset.mp member))

end Ranks
