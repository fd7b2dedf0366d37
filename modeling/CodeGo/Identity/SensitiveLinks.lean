import CodeGo.Identity.SensitiveAC
import Mathlib.Algebra.Order.BigOperators.Group.List
import Mathlib.Algebra.Order.Group.Nat
import Mathlib.Algebra.Ring.Nat
import Mathlib.Data.List.Perm.Subperm

set_option autoImplicit false

/- The failure link of a node is its longest proper suffix in the trie, in whatever order the children come. -/

namespace CodeGo.Identity.SensitiveAC

open Suffixes

variable {α : Type} {m m' : AcMatcher α} {path : ℕ → List α} {known listed : List α → Prop}

def Linked (m : AcMatcher α) (path : ℕ → List α) (known : List α → Prop) (place : ℕ) : Prop :=
  ∃ fail, (m.node place).fail = some fail ∧ fail < m.size ∧ Border known (path place) (path fail)

-- The nodes up to a depth have their links.
def Ready (m : AcMatcher α) (path : ℕ → List α) (known : List α → Prop) (depth : ℕ) : Prop :=
  ∀ place < m.size, place ≠ 0 → (path place).length ≤ depth → Linked m path known place

-- Only the links differ.
def Relinked (m m' : AcMatcher α) : Prop :=
  m'.size = m.size ∧ ∀ place, (m'.node place).children = (m.node place).children ∧ (m'.node place).isEnd = (m.node place).isEnd ∧
    (m'.node place).word = (m.node place).word

theorem Relinked.refl : Relinked m m := ⟨rfl, fun _ => ⟨rfl, rfl, rfl⟩⟩

theorem Relinked.trans {m'' : AcMatcher α} (first : Relinked m m') (second : Relinked m' m'') : Relinked m m'' := by
  refine ⟨second.1.trans first.1, ?_⟩
  intro place
  obtain ⟨children, ends, words⟩ := first.2 place
  obtain ⟨children', ends', words'⟩ := second.2 place
  exact ⟨children'.trans children, ends'.trans ends, words'.trans words⟩

theorem set_fail_node (m : AcMatcher α) (place other : ℕ) (fail : Option ℕ) :
    ((m.setFail place fail).node other).fail = if other = place then fail else (m.node other).fail := by
  rw [AcMatcher.setFail, AcMatcher.set_node]
  split
  · rfl
  · rfl

theorem set_fail_relinked (m : AcMatcher α) (place : ℕ) (fail : Option ℕ) : Relinked m (m.setFail place fail) := by
  refine ⟨rfl, ?_⟩
  intro other
  rw [AcMatcher.setFail, AcMatcher.set_node]
  split
  · rename_i same
    subst same
    exact ⟨rfl, rfl, rfl⟩
  · exact ⟨rfl, rfl, rfl⟩

theorem Trie.relinked (trie : Trie m path known listed) (same : Relinked m m') : Trie m' path known listed := by
  obtain ⟨size, nodes⟩ := same
  constructor
  · exact trie.root
  · exact size ▸ trie.started
  · exact trie.closed
  · intro place below
    rw [size] at below ⊢
    rw [(nodes place).1]
    exact trie.children place below
  · intro place below
    rw [size] at below
    rw [(nodes place).1]
    exact trie.nodup place below
  · rw [size]
    exact trie.apart
  · rw [size]
    exact trie.paths
  · exact trie.among
  · intro place below
    rw [size] at below
    rw [(nodes place).2.1]
    exact trie.ends place below
  · intro place below
    rw [size] at below
    rw [(nodes place).2.1, (nodes place).2.2]
    exact trie.words place below

section climbing

variable [DecidableEq α] {depth : ℕ}

theorem climb_spec (trie : Trie m path known listed) (root : (m.node 0).fail = none)
    (ready : Ready m path known depth) (r : α) :
    ∀ (fuel place : ℕ), place < m.size → (path place).length ≤ depth → (path place).length + 2 ≤ fuel →
      (∃ best < m.size, climb m r fuel (some place) = some (some best) ∧ Longest (ahead known r) (path place) (path best)) ∨
      (climb m r fuel (some place) = some none ∧ ∀ other, ahead known r other → ¬ other <:+ path place) := by
  intro fuel
  induction fuel with
  | zero =>
      intro place _ _ enough
      omega
  | succ fuel ih =>
      intro place inside shallow enough
      rw [climb]
      split
      · rename_i missing
        have stuck := (trie.child_none_iff inside r).mp missing
        by_cases isRoot : place = 0
        · subst isRoot
          right
          rw [root]
          refine ⟨by cases fuel <;> rfl, ?_⟩
          intro other continued within
          rw [trie.root] at within stuck
          exact stuck (List.suffix_nil.mp within ▸ continued)
        · obtain ⟨fail, link, below, border⟩ := ready place inside isRoot shallow
          have shorter := border.shorter
          have narrower := ahead_proper trie.closed stuck
          rw [link]
          rcases ih fail below (by omega) (by omega) with ⟨best, inBest, found, longest⟩ | ⟨lost, none⟩
          · exact Or.inl ⟨best, inBest, found, (border.through narrower _).mpr longest⟩
          · refine Or.inr ⟨lost, ?_⟩
            intro other continued within
            exact none other continued ((border.among narrower other continued).mp within)
      · rename_i present
        have continued : ahead known r (path place) := by
          by_contra stuck
          exact present ((trie.child_none_iff inside r).mpr stuck)
        exact Or.inl ⟨place, inside, rfl, Longest.self continued⟩

theorem link_child (trie : Trie m path known listed) (root : (m.node 0).fail = none) (ready : Ready m path known depth) {node fuel : ℕ}
    (linked : Linked m path known node) (level : (path node).length = depth) (enough : depth + 2 ≤ fuel) {r : α} {child : ℕ}
    (reached : path child = path node ++ [r]) (queue : List ℕ) :
    ∃ target < m.size, linkChild fuel node (m, queue) (r, child) = some (m.setFail child (some target), queue ++ [child]) ∧
      Border known (path child) (path target) := by
  obtain ⟨fail, link, inside, border⟩ := linked
  have shorter := border.shorter
  rw [linkChild, link, reached]
  rcases climb_spec trie root ready r fuel fail inside (by omega) (by omega) with ⟨best, inBest, found, longest⟩ | ⟨lost, none⟩
  · obtain ⟨target, inTarget, same⟩ := (trie.paths _).mp longest.1
    have next : m.child best r = some target := (trie.child_iff inBest r target).mpr ⟨inTarget, same⟩
    refine ⟨target, inTarget, by simp only [found, Option.map_some, next], ?_⟩
    rw [same]
    exact border.snoc trie.closed longest
  · refine ⟨0, trie.started, by simp only [lost, Option.map_some], ?_⟩
    rw [trie.root]
    exact border_lost trie.closed border none

-- The children that are still to come leave the links up to their parent alone.
theorem link_children {node fuel : ℕ} (level : (path node).length = depth) (enough : depth + 2 ≤ fuel) (entries : List (α × ℕ)) :
    ∀ {m : AcMatcher α}, Trie m path known listed → (m.node 0).fail = none → Ready m path known depth → Linked m path known node →
      (∀ entry ∈ entries, entry.2 < m.size ∧ path entry.2 = path node ++ [entry.1]) → ∀ queue : List ℕ,
      ∃ m', entries.foldlM (linkChild fuel node) (m, queue) = some (m', queue ++ entries.map Prod.snd) ∧ Relinked m m' ∧
        (∀ place, place ∉ entries.map Prod.snd → (m'.node place).fail = (m.node place).fail) ∧
        ∀ place ∈ entries.map Prod.snd, Linked m' path known place := by
  induction entries with
  | nil =>
      intro m _ _ _ _ _ queue
      exact ⟨m, by simp, Relinked.refl, fun _ _ => rfl, by simp⟩
  | cons entry rest ih =>
      intro m trie root ready linked edges queue
      obtain ⟨r, child⟩ := entry
      have reached := (edges (r, child) List.mem_cons_self).2
      obtain ⟨target, inTarget, step, border⟩ := link_child trie root ready linked level enough reached queue
      have same := set_fail_relinked m child (some target)
      have deeper : (path child).length = depth + 1 := by rw [reached, List.length_append, level, List.length_singleton]
      have isNotRoot : child ≠ 0 := by
        rintro rfl
        rw [trie.root] at deeper
        cases deeper
      have kept : ∀ place, (path place).length ≤ depth → Linked m path known place → Linked (m.setFail child (some target)) path known place := by
        intro place shallow link
        obtain ⟨fail, set, inside, best⟩ := link
        refine ⟨fail, ?_, inside, best⟩
        rw [set_fail_node, if_neg, set]
        rintro rfl
        omega
      have readyNext : Ready (m.setFail child (some target)) path known depth := by
        intro place inside off shallow
        exact kept place shallow (ready place inside off shallow)
      have rootNext : ((m.setFail child (some target)).node 0).fail = none := by
        rw [set_fail_node, if_neg isNotRoot.symm, root]
      obtain ⟨m', run, relinked, others, links⟩ := ih (trie.relinked same) rootNext readyNext (kept node level.le linked)
        (fun other within => edges other (List.mem_cons_of_mem _ within)) (queue ++ [child])
      refine ⟨m', ?_, same.trans relinked, ?_, ?_⟩
      · rw [List.foldlM_cons, step]
        simpa using run
      · intro place outside
        rw [List.map_cons, List.mem_cons, not_or] at outside
        rw [others place outside.2, set_fail_node, if_neg outside.1]
      · intro place within
        by_cases again : place ∈ rest.map Prod.snd
        · exact links place again
        · rw [List.map_cons, List.mem_cons] at within
          rcases within with rfl | within
          · refine ⟨target, ?_, ?_, border⟩
            · rw [others place again, set_fail_node, if_pos rfl]
            · rw [relinked.1]
              exact inTarget
          · exact absurd within again

end climbing

/- The queue: what has been met has its link, and the levels come one after another. -/

structure Progress (m : AcMatcher α) (path : ℕ → List α) (known : List α → Prop) (visited queue : List ℕ) : Prop where
  root : (m.node 0).fail = none
  places : ∀ place ∈ visited ++ queue, place ≠ 0 ∧ place < m.size
  linked : ∀ place ∈ visited ++ queue, Linked m path known place
  met : ∀ up < m.size, ∀ r child, (r, child) ∈ (m.node up).children → (child ∈ visited ++ queue ↔ up = 0 ∨ up ∈ visited)
  nodup : (visited ++ queue).Nodup
  levels : queue.Pairwise fun first second => (path first).length ≤ (path second).length
  near : ∀ first ∈ queue, ∀ second ∈ queue, (path second).length ≤ (path first).length + 1

section queue

variable {visited queue : List ℕ}

theorem Progress.shallow (trie : Trie m path known listed) (progress : Progress m path known visited queue) {depth : ℕ}
    (ahead : ∀ place ∈ queue, depth ≤ (path place).length) :
    ∀ place < m.size, place ≠ 0 → (path place).length ≤ depth → place ∈ visited ++ queue := by
  intro place
  induction size : (path place).length using Nat.strong_induction_on generalizing place with
  | _ length ih =>
      intro inside off shallow
      obtain ⟨up, above, r, split, edge⟩ := trie.parent inside off
      have short : (path up).length + 1 = length := by rw [← size, split, List.length_append, List.length_singleton]
      apply (progress.met up above r place edge).mpr
      by_cases isRoot : up = 0
      · exact Or.inl isRoot
      · right
        rcases List.mem_append.mp (ih (path up).length (by omega) up rfl above isRoot (by omega)) with seen | waiting
        · exact seen
        · have bound := ahead up waiting
          omega

theorem Progress.room (progress : Progress m path known visited queue) (started : 0 < m.size) :
    visited.length + queue.length < m.size := by
  have apart : (0 :: (visited ++ queue)).Nodup := by
    rw [List.nodup_cons]
    exact ⟨fun within => (progress.places 0 within).1 rfl, progress.nodup⟩
  have inside : 0 :: (visited ++ queue) ⊆ List.range m.size := by
    intro place within
    rw [List.mem_range]
    rcases List.mem_cons.mp within with rfl | within
    · exact started
    · exact (progress.places place within).2
  have bound := (List.subperm_of_subset apart inside).length_le
  rw [List.length_cons, List.length_append, List.length_range] at bound
  omega

theorem border_letter (closed : PrefixClosed known) (r : α) : Border known [r] [] := by
  refine ⟨⟨closed.empty, by simp⟩, List.nil_suffix, ?_⟩
  rintro other ⟨_, proper⟩ within
  rcases List.suffix_cons_iff.mp within with whole | short
  · exact absurd whole proper
  · exact short

theorem link_root_fold (entries : List (α × ℕ)) (m : AcMatcher α) (queue : List ℕ) :
    (entries.foldl (fun (m, queue) (_, child) => (m.setFail child (some 0), queue ++ [child])) (m, queue)).2 =
        queue ++ entries.map Prod.snd ∧
      Relinked m (entries.foldl (fun (m, queue) (_, child) => (m.setFail child (some 0), queue ++ [child])) (m, queue)).1 ∧
      ∀ place, ((entries.foldl (fun (m, queue) (_, child) => (m.setFail child (some 0), queue ++ [child])) (m, queue)).1.node place).fail =
        if place ∈ entries.map Prod.snd then some 0 else (m.node place).fail := by
  induction entries generalizing m queue with
  | nil => exact ⟨by simp, Relinked.refl, by simp⟩
  | cons entry rest ih =>
      obtain ⟨ends, relinked, fails⟩ := ih (m.setFail entry.2 (some 0)) (queue ++ [entry.2])
      rw [List.foldl_cons]
      refine ⟨by rw [ends]; simp, (set_fail_relinked m entry.2 (some 0)).trans relinked, ?_⟩
      intro place
      rw [fails, set_fail_node]
      by_cases later : place ∈ rest.map Prod.snd
      · rw [if_pos later, List.map_cons, if_pos (List.mem_cons_of_mem _ later)]
      · rw [if_neg later, List.map_cons]
        by_cases here : place = entry.2
        · rw [if_pos here, if_pos (List.mem_cons.mpr (Or.inl here))]
        · have outside : place ∉ entry.2 :: rest.map Prod.snd := by simp [here, later]
          rw [if_neg here, if_neg outside]

theorem link_root (order : MapOrder α) (trie : Trie m path known listed) (unlinked : Unlinked m) :
    Relinked m (linkRoot order m).1 ∧ Progress (linkRoot order m).1 path known [] (linkRoot order m).2 := by
  obtain ⟨ends, relinked, fails⟩ := link_root_fold (order.range 0 (m.node 0).children) m []
  rw [linkRoot]
  generalize (order.range 0 (m.node 0).children).foldl (fun (m, queue) (_, child) => (m.setFail child (some 0), queue ++ [child])) (m, []) =
    made at *
  obtain ⟨made, queue⟩ := made
  simp only [List.nil_append] at ends relinked fails ⊢
  have same := order.perm 0 (m.node 0).children
  have inQueue : ∀ child, child ∈ queue ↔ ∃ r, (r, child) ∈ (m.node 0).children := by
    intro child
    rw [ends, List.mem_map]
    constructor
    · rintro ⟨⟨r, _⟩, within, rfl⟩
      exact ⟨r, same.mem_iff.mp within⟩
    · rintro ⟨r, within⟩
      exact ⟨(r, child), same.mem_iff.mpr within, rfl⟩
  have edge : ∀ child ∈ queue, child < m.size ∧ ∃ r, path child = [r] := by
    intro child within
    obtain ⟨r, edge⟩ := (inQueue child).mp within
    obtain ⟨below, reached⟩ := (trie.children 0 trie.started r child).mp edge
    rw [trie.root] at reached
    exact ⟨below, r, reached⟩
  have level : ∀ child ∈ queue, (path child).length = 1 := by
    intro child within
    obtain ⟨_, r, reached⟩ := edge child within
    rw [reached, List.length_singleton]
  have rootOut : 0 ∉ queue := by
    intro within
    have long := level 0 within
    rw [trie.root] at long
    cases long
  refine ⟨relinked, ?_⟩
  constructor
  · rw [fails 0, ← ends, if_neg rootOut, unlinked 0]
  · intro place within
    rw [relinked.1]
    refine ⟨?_, (edge place within).1⟩
    rintro rfl
    exact rootOut within
  · intro place within
    obtain ⟨_, r, reached⟩ := edge place within
    refine ⟨0, ?_, relinked.1 ▸ trie.started, ?_⟩
    · rw [List.nil_append] at within
      rw [fails place, ← ends, if_pos within]
    · rw [trie.root, reached]
      exact border_letter trie.closed r
  · intro up above r child within
    rw [(relinked.2 up).1] at within
    rw [relinked.1] at above
    rw [List.nil_append, inQueue child]
    constructor
    · rintro ⟨s, other⟩
      obtain ⟨_, reached⟩ := (trie.children up above r child).mp within
      obtain ⟨_, again⟩ := (trie.children 0 trie.started s child).mp other
      obtain ⟨fronts, -⟩ := List.append_inj' (reached.symm.trans again) rfl
      exact Or.inl (trie.apart up above 0 trie.started fronts)
    · rintro (rfl | seen)
      · exact ⟨r, within⟩
      · exact absurd seen List.not_mem_nil
  · rw [List.nil_append, ends]
    apply (same.nodup_iff.mpr (trie.nodup 0 trie.started)).map_on
    intro first one second other equal
    obtain ⟨_, reached⟩ := (trie.children 0 trie.started first.1 first.2).mp (same.mem_iff.mp one)
    obtain ⟨_, again⟩ := (trie.children 0 trie.started second.1 second.2).mp (same.mem_iff.mp other)
    rw [equal, again] at reached
    exact Prod.ext (List.cons.inj (List.append_cancel_left reached)).1.symm equal
  · apply List.pairwise_of_forall_mem_list
    intro first one second other
    rw [level first one, level second other]
  · intro first one second other
    rw [level first one, level second other]
    omega

theorem known_short (words : List (List α)) (word : List α) (known : Known words word) : word.length ≤ (words.map List.length).sum := by
  rcases known with rfl | ⟨whole, within, front⟩
  · exact Nat.zero_le _
  · exact front.length_le.trans (List.le_sum_of_mem (List.mem_map_of_mem within))

variable [DecidableEq α]

theorem Progress.step (trie : Trie m path known listed) {node : ℕ} (progress : Progress m path known visited (node :: queue))
    (order : MapOrder α) {steps : ℕ} (enough : (path node).length + 2 ≤ steps) :
    ∃ m' queue', (order.range node (m.node node).children).foldlM (linkChild steps node) (m, queue) = some (m', queue') ∧
      Relinked m m' ∧ Progress m' path known (visited ++ [node]) queue' := by
  have inQueue : node ∈ visited ++ node :: queue := by simp
  obtain ⟨off, inside⟩ := progress.places node inQueue
  have same := order.perm node (m.node node).children
  have edges : ∀ r child, (r, child) ∈ order.range node (m.node node).children ↔ child < m.size ∧ path child = path node ++ [r] := by
    intro r child
    rw [same.mem_iff]
    exact trie.children node inside r child
  have ready : Ready m path known (path node).length := by
    intro place below notRoot shallow
    refine progress.linked place (progress.shallow trie ?_ place below notRoot shallow)
    intro other waiting
    rcases List.mem_cons.mp waiting with rfl | later
    · exact le_refl _
    · exact (List.pairwise_cons.mp progress.levels).1 other later
  obtain ⟨m', run, relinked, others, links⟩ := link_children rfl enough (order.range node (m.node node).children) trie progress.root ready
    (progress.linked node inQueue) (fun entry within => (edges entry.1 entry.2).mp within) queue
  refine ⟨m', _, run, relinked, ?_⟩
  generalize madeIs : (order.range node (m.node node).children).map Prod.snd = made at *
  have madeEdge : ∀ child ∈ made, ∃ r, (r, child) ∈ (m.node node).children := by
    intro child within
    rw [← madeIs, List.mem_map] at within
    obtain ⟨⟨r, _⟩, within, rfl⟩ := within
    exact ⟨r, same.mem_iff.mp within⟩
  have unseen : node ∉ visited := by
    intro seen
    exact List.disjoint_of_nodup_append progress.nodup seen List.mem_cons_self
  have fresh : ∀ child ∈ made, child ∉ visited ++ node :: queue := by
    intro child within old
    obtain ⟨r, edge⟩ := madeEdge child within
    rcases (progress.met node inside r child edge).mp old with isRoot | seen
    · exact off isRoot
    · exact unseen seen
  have deeper : ∀ child ∈ made, child < m.size ∧ (path child).length = (path node).length + 1 := by
    intro child within
    obtain ⟨r, edge⟩ := madeEdge child within
    obtain ⟨below, reached⟩ := (trie.children node inside r child).mp edge
    exact ⟨below, by rw [reached, List.length_append, List.length_singleton]⟩
  have rootOut : 0 ∉ made := by
    intro within
    have long := (deeper 0 within).2
    rw [trie.root] at long
    cases long
  have single : made.Nodup := by
    rw [← madeIs]
    apply (same.nodup_iff.mpr (trie.nodup node inside)).map_on
    intro first one second other equal
    obtain ⟨_, reached⟩ := (edges first.1 first.2).mp one
    obtain ⟨_, again⟩ := (edges second.1 second.2).mp other
    rw [equal, again] at reached
    exact Prod.ext (List.cons.inj (List.append_cancel_left reached)).1.symm equal
  have regroup : (visited ++ [node]) ++ (queue ++ made) = (visited ++ node :: queue) ++ made := by simp
  obtain ⟨front, sorted⟩ := List.pairwise_cons.mp progress.levels
  have nearNode : ∀ place ∈ queue, (path place).length ≤ (path node).length + 1 := by
    intro place within
    exact progress.near node List.mem_cons_self place (List.mem_cons_of_mem _ within)
  constructor
  · rw [others 0 rootOut, progress.root]
  · intro place within
    rw [regroup, List.mem_append] at within
    rw [relinked.1]
    rcases within with old | new
    · exact progress.places place old
    · refine ⟨?_, (deeper place new).1⟩
      rintro rfl
      exact rootOut new
  · intro place within
    rw [regroup, List.mem_append] at within
    rcases within with old | new
    · obtain ⟨fail, set, below, border⟩ := progress.linked place old
      exact ⟨fail, (others place fun new => fresh place new old).trans set, relinked.1 ▸ below, border⟩
    · exact links place new
  · intro up above r child edge
    rw [(relinked.2 up).1] at edge
    rw [relinked.1] at above
    have before := progress.met up above r child edge
    rw [regroup, List.mem_append, before, List.mem_append, List.mem_singleton]
    constructor
    · rintro ((isRoot | seen) | new)
      · exact Or.inl isRoot
      · exact Or.inr (Or.inl seen)
      · obtain ⟨s, other⟩ := madeEdge child new
        obtain ⟨_, reached⟩ := (trie.children up above r child).mp edge
        obtain ⟨_, again⟩ := (trie.children node inside s child).mp other
        obtain ⟨fronts, -⟩ := List.append_inj' (reached.symm.trans again) rfl
        exact Or.inr (Or.inr (trie.apart up above node inside fronts))
    · rintro (isRoot | seen | rfl)
      · exact Or.inl (Or.inl isRoot)
      · exact Or.inl (Or.inr seen)
      · right
        rw [← madeIs]
        exact List.mem_map.mpr ⟨(r, child), same.mem_iff.mpr edge, rfl⟩
  · rw [regroup]
    apply List.Nodup.append progress.nodup single
    intro place old new
    exact fresh place new old
  · rw [List.pairwise_append]
    refine ⟨sorted, ?_, ?_⟩
    · apply List.pairwise_of_forall_mem_list
      intro first one second other
      rw [(deeper first one).2, (deeper second other).2]
    · intro first one second other
      rw [(deeper second other).2]
      exact nearNode first one
  · intro first one second other
    rw [List.mem_append] at one other
    rcases one with one | one
    · have low := front first one
      rcases other with other | other
      · exact progress.near first (List.mem_cons_of_mem _ one) second (List.mem_cons_of_mem _ other)
      · have level := (deeper second other).2
        omega
    · have level := (deeper first one).2
      rcases other with other | other
      · have bound := nearNode second other
        omega
      · have same := (deeper second other).2
        omega

-- A trie whose nodes all have their links.
structure Automaton (m : AcMatcher α) (path : ℕ → List α) (known listed : List α → Prop) : Prop where
  trie : Trie m path known listed
  root : (m.node 0).fail = none
  linked : ∀ place < m.size, place ≠ 0 → Linked m path known place

theorem link_queue (order : MapOrder α) {steps : ℕ} :
    ∀ (fuel : ℕ) {m : AcMatcher α} {visited queue : List ℕ}, Trie m path known listed → Progress m path known visited queue →
      (∀ place < m.size, (path place).length + 2 ≤ steps) → m.size ≤ visited.length + fuel + 1 →
      ∃ m', linkQueue order steps fuel m queue = some m' ∧ Automaton m' path known listed := by
  intro fuel
  induction fuel with
  | zero =>
      intro m visited queue trie progress _ room
      cases queue with
      | nil =>
          refine ⟨m, rfl, trie, progress.root, ?_⟩
          intro place inside off
          exact progress.linked place (progress.shallow trie (by simp) place inside off (le_refl _))
      | cons node rest =>
          have full := progress.room trie.started
          rw [List.length_cons] at full
          omega
  | succ fuel ih =>
      intro m visited queue trie progress enough room
      cases queue with
      | nil =>
          refine ⟨m, rfl, trie, progress.root, ?_⟩
          intro place inside off
          exact progress.linked place (progress.shallow trie (by simp) place inside off (le_refl _))
      | cons node rest =>
          have inside := (progress.places node (by simp)).2
          obtain ⟨made, queue', run, relinked, next⟩ := progress.step trie order (enough node inside)
          rw [linkQueue, run]
          apply ih (trie.relinked relinked) next
          · rw [relinked.1]
            exact enough
          · rw [relinked.1, List.length_append, List.length_singleton]
            omega

/- More fuel changes no result. -/

theorem climb_mono {r : α} {fuel more : ℕ} {place : Option ℕ} {found : Option ℕ} (ran : climb m r fuel place = some found) (le : fuel ≤ more) :
    climb m r more place = some found := by
  induction fuel generalizing more place with
  | zero =>
      cases place with
      | none => cases more <;> exact ran
      | some place => cases ran
  | succ fuel ih =>
      cases place with
      | none => cases more <;> exact ran
      | some place =>
          obtain ⟨fewer, rfl⟩ : ∃ fewer, more = fewer + 1 := ⟨more - 1, by omega⟩
          rw [climb] at ran ⊢
          split at ran
          · rename_i missing
            rw [if_pos missing]
            exact ih ran (by omega)
          · rename_i present
            rw [if_neg present]
            exact ran

theorem link_child_mono {node fuel more : ℕ} (le : fuel ≤ more) {state made : AcMatcher α × List ℕ} {entry : α × ℕ}
    (ran : linkChild fuel node state entry = some made) : linkChild more node state entry = some made := by
  obtain ⟨found, climbed, same⟩ := Option.map_eq_some_iff.mp ran
  rw [linkChild, climb_mono climbed le, Option.map_some]
  exact congrArg some same

theorem link_children_mono {node fuel more : ℕ} (le : fuel ≤ more) (entries : List (α × ℕ)) {state made : AcMatcher α × List ℕ}
    (ran : entries.foldlM (linkChild fuel node) state = some made) : entries.foldlM (linkChild more node) state = some made := by
  induction entries generalizing state with
  | nil => exact ran
  | cons entry rest ih =>
      rw [List.foldlM_cons] at ran ⊢
      obtain ⟨next, step, rest⟩ := Option.bind_eq_some_iff.mp ran
      rw [link_child_mono le step]
      exact ih rest

theorem link_queue_mono {order : MapOrder α} {steps moreSteps : ℕ} (le : steps ≤ moreSteps) {fuel more : ℕ} (leFuel : fuel ≤ more)
    {queue : List ℕ} {made : AcMatcher α} (ran : linkQueue order steps fuel m queue = some made) :
    linkQueue order moreSteps more m queue = some made := by
  induction fuel generalizing more m queue with
  | zero =>
      cases queue with
      | nil => cases more <;> exact ran
      | cons node rest => cases ran
  | succ fuel ih =>
      cases queue with
      | nil => cases more <;> exact ran
      | cons node rest =>
          obtain ⟨fewer, rfl⟩ : ∃ fewer, more = fewer + 1 := ⟨more - 1, by omega⟩
          rw [linkQueue] at ran ⊢
          cases step : (order.range node (m.node node).children).foldlM (linkChild steps node) (m, rest) with
          | none =>
              rw [step] at ran
              cases ran
          | some next =>
              rw [step] at ran
              rw [link_children_mono le _ step]
              exact ih (by omega) ran

theorem build_mono {order : MapOrder α} {fuel more : ℕ} (le : fuel ≤ more) {words : List (List α)} {made : AcMatcher α}
    (ran : buildIdentityAC order fuel words = some made) : buildIdentityAC order more words = some made :=
  link_queue_mono le le ran

-- The loops end whatever the order, with one and the same bound.
theorem build_automaton (words : List (List α)) :
    ∃ enough, ∀ order : MapOrder α, ∃ m path, (∀ fuel, enough ≤ fuel → buildIdentityAC order fuel words = some m) ∧
      Automaton m path (Known words) (Listed words) := by
  obtain ⟨path, trie, unlinked⟩ := insert_words_trie words
  obtain ⟨fuel, isFuel⟩ : ∃ fuel, fuel = max (insertWords words).size ((words.map List.length).sum + 2) := ⟨_, rfl⟩
  refine ⟨fuel, ?_⟩
  intro order
  obtain ⟨relinked, progress⟩ := link_root order trie unlinked
  have sameTrie := trie.relinked relinked
  have depths : ∀ place < (linkRoot order (insertWords words)).1.size, (path place).length + 2 ≤ fuel := by
    intro place below
    have short := known_short words _ (sameTrie.path_known below)
    omega
  have room : (linkRoot order (insertWords words)).1.size ≤ ([] : List ℕ).length + fuel + 1 := by
    rw [relinked.1, List.length_nil]
    omega
  obtain ⟨m, run, automaton⟩ := link_queue order fuel sameTrie progress depths room
  exact ⟨m, path, fun more enough => build_mono enough run, automaton⟩

end queue

end CodeGo.Identity.SensitiveAC
