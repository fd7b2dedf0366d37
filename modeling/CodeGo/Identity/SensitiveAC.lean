import CodeGo.Lib.Suffixes
import Mathlib.Data.List.Nodup
import Mathlib.Logic.Function.Basic
import Mathlib.Data.Nat.Notation

set_option autoImplicit false

/- The matcher of many words at once. A node is known by its place; the root is the first one. -/

namespace CodeGo.Identity.SensitiveAC

open Suffixes

variable {α : Type}

structure AcNode (α : Type) where
  children : List (α × ℕ) := []
  fail : Option ℕ := none
  word : List α := []
  isEnd : Bool := false

structure AcMatcher (α : Type) where
  size : ℕ := 1
  node : ℕ → AcNode α := fun _ => {}

structure AcHit (α : Type) where
  pos : Int
  word : List α
deriving DecidableEq, Repr

def AcMatcher.set (m : AcMatcher α) (place : ℕ) (node : AcNode α) : AcMatcher α := { m with node := Function.update m.node place node }

def AcMatcher.setFail (m : AcMatcher α) (place : ℕ) (fail : Option ℕ) : AcMatcher α := m.set place { m.node place with fail }

-- The order in which a range over a node's children meets them.
structure MapOrder (α : Type) where
  range : ℕ → List (α × ℕ) → List (α × ℕ)
  perm : ∀ place children, (range place children).Perm children

section model

variable [DecidableEq α]

def AcMatcher.child (m : AcMatcher α) (place : ℕ) (r : α) : Option ℕ := (m.node place).children.lookup r

-- The child of a node, made where there is none.
def AcMatcher.descend (m : AcMatcher α) (place : ℕ) (r : α) : AcMatcher α × ℕ :=
  match m.child place r with
  | some child => (m, child)
  | none =>
      let fresh := m.set m.size {}
      let parent := fresh.set place { fresh.node place with children := (fresh.node place).children ++ [(r, m.size)] }
      ({ parent with size := m.size + 1 }, m.size)

def AcMatcher.insert (m : AcMatcher α) (word : List α) : AcMatcher α :=
  let (m, last) := word.foldl (fun (m, place) r => m.descend place r) (m, 0)
  m.set last { m.node last with isEnd := true, word }

def insertWords (words : List (List α)) : AcMatcher α :=
  words.foldl (fun m word => if word = [] then m else m.insert word) {}

-- Up the failure links to a node that the letter continues.
def climb (m : AcMatcher α) (r : α) : (fuel : ℕ) → Option ℕ → Option (Option ℕ)
  | _, none => some none
  | 0, some _ => none
  | fuel + 1, some fail => if m.child fail r = none then climb m r fuel (m.node fail).fail else some (some fail)

def linkChild (fuel node : ℕ) (state : AcMatcher α × List ℕ) (entry : α × ℕ) : Option (AcMatcher α × List ℕ) :=
  let (m, queue) := state
  let (r, child) := entry
  (climb m r fuel (m.node node).fail).map fun
    | none => (m.setFail child (some 0), queue ++ [child])
    | some fail => (m.setFail child (m.child fail r), queue ++ [child])

def linkQueue (order : MapOrder α) (steps : ℕ) : (fuel : ℕ) → AcMatcher α → List ℕ → Option (AcMatcher α)
  | _, m, [] => some m
  | 0, _, _ :: _ => none
  | fuel + 1, m, node :: queue =>
      match (order.range node (m.node node).children).foldlM (linkChild steps node) (m, queue) with
      | some (m, queue) => linkQueue order steps fuel m queue
      | none => none

def linkRoot (order : MapOrder α) (m : AcMatcher α) : AcMatcher α × List ℕ :=
  (order.range 0 (m.node 0).children).foldl (fun (m, queue) (_, child) => (m.setFail child (some 0), queue ++ [child])) (m, [])

def buildIdentityAC (order : MapOrder α) (fuel : ℕ) (words : List (List α)) : Option (AcMatcher α) :=
  let (m, queue) := linkRoot order (insertWords words)
  linkQueue order fuel fuel m queue

-- A failure link that is missing is an error of the program.
def advance (m : AcMatcher α) (r : α) : (fuel : ℕ) → ℕ → Option ℕ
  | 0, _ => none
  | fuel + 1, node =>
      if node ≠ 0 ∧ m.child node r = none then
        match (m.node node).fail with
        | some fail => advance m r fuel fail
        | none => none
      else some node

def collect (m : AcMatcher α) (returnImmediately : Bool) (i : ℕ) : (fuel : ℕ) → Option ℕ → List (AcHit α) → Option (List (AcHit α) × Bool)
  | _, none, hits => some (hits, false)
  | 0, some _, _ => none
  | fuel + 1, some cursor, hits =>
      if cursor = 0 then some (hits, false)
      else if (m.node cursor).isEnd then
        let hits := hits ++ [{ pos := i - (m.node cursor).word.length + 1, word := (m.node cursor).word }]
        if returnImmediately then some (hits, true) else collect m returnImmediately i fuel (m.node cursor).fail hits
      else collect m returnImmediately i fuel (m.node cursor).fail hits

def scan (m : AcMatcher α) (returnImmediately : Bool) (fuel : ℕ) : (i : ℕ) → ℕ → List (AcHit α) → List α → Option (List (AcHit α))
  | _, _, hits, [] => some hits
  | i, node, hits, r :: text =>
      match advance m r fuel node with
      | none => none
      | some node =>
          let node := (m.child node r).getD node
          match collect m returnImmediately i fuel (some node) hits with
          | none => none
          | some (hits, true) => some hits
          | some (hits, false) => scan m returnImmediately fuel (i + 1) node hits text

def AcMatcher.multiPatternSearch (m : AcMatcher α) (fuel : ℕ) (text : List α) (returnImmediately : Bool) : Option (List (AcHit α)) :=
  scan m returnImmediately fuel 0 0 [] text

end model

/- The nodes of a trie are the prefixes of its words, each once. -/

structure Trie (m : AcMatcher α) (path : ℕ → List α) (known listed : List α → Prop) : Prop where
  root : path 0 = []
  started : 0 < m.size
  closed : PrefixClosed known
  children : ∀ place < m.size, ∀ r child, (r, child) ∈ (m.node place).children ↔ child < m.size ∧ path child = path place ++ [r]
  nodup : ∀ place < m.size, (m.node place).children.Nodup
  apart : ∀ first < m.size, ∀ second < m.size, path first = path second → first = second
  paths : ∀ word, known word ↔ ∃ place < m.size, path place = word
  among : ∀ word, listed word → known word
  ends : ∀ place < m.size, (m.node place).isEnd = true ↔ listed (path place)
  words : ∀ place < m.size, (m.node place).isEnd = true → (m.node place).word = path place

def Unlinked (m : AcMatcher α) : Prop := ∀ place, (m.node place).fail = none

@[simp] theorem AcMatcher.set_size (m : AcMatcher α) (place : ℕ) (node : AcNode α) : (m.set place node).size = m.size := rfl

theorem AcMatcher.set_node (m : AcMatcher α) (place other : ℕ) (node : AcNode α) :
    (m.set place node).node other = if other = place then node else m.node other := by
  simp only [AcMatcher.set, Function.update_apply]

section tries

variable {m : AcMatcher α} {path : ℕ → List α} {known listed : List α → Prop}

namespace Trie

theorem path_known (trie : Trie m path known listed) {place : ℕ} (inside : place < m.size) : known (path place) :=
  (trie.paths _).mpr ⟨place, inside, rfl⟩

theorem path_empty (trie : Trie m path known listed) {place : ℕ} (inside : place < m.size) (empty : path place = []) : place = 0 :=
  trie.apart place inside 0 trie.started (empty.trans trie.root.symm)

-- Every node but the root is a child.
theorem parent (trie : Trie m path known listed) {place : ℕ} (inside : place < m.size) (below : place ≠ 0) :
    ∃ up < m.size, ∃ r, path place = path up ++ [r] ∧ (r, place) ∈ (m.node up).children := by
  rcases List.eq_nil_or_concat (path place) with empty | ⟨init, r, split⟩
  · exact absurd (trie.path_empty inside empty) below
  · rw [List.concat_eq_append] at split
    have front : known init := trie.closed.init init r (split ▸ trie.path_known inside)
    obtain ⟨up, above, rfl⟩ := (trie.paths init).mp front
    exact ⟨up, above, r, split, (trie.children up above r place).mpr ⟨inside, split⟩⟩

theorem congr (trie : Trie m path known listed) {known' listed' : List α → Prop} (sameKnown : ∀ word, known word ↔ known' word)
    (sameListed : ∀ word, listed word ↔ listed' word) : Trie m path known' listed' := by
  obtain rfl : known = known' := funext fun word => propext (sameKnown word)
  obtain rfl : listed = listed' := funext fun word => propext (sameListed word)
  exact trie

end Trie

-- The edges once a node is made, for paths that agree on the nodes before it.
theorem fresh_children (trie : Trie m path known listed) {place : ℕ} (inside : place < m.size) {r : α} (fresh : ¬ known (path place ++ [r]))
    {grown : ℕ → AcNode α}
    (nodes : ∀ other, grown other =
      if other = place then { m.node place with children := (m.node place).children ++ [(r, m.size)] }
      else if other = m.size then {} else m.node other)
    {path' : ℕ → List α} (old : ∀ other < m.size, path' other = path other) (new : path' m.size = path place ++ [r])
    (other : ℕ) (below : other < m.size + 1) (s : α) (child : ℕ) :
    (s, child) ∈ (grown other).children ↔ child < m.size + 1 ∧ path' child = path' other ++ [s] := by
  rw [nodes]
  by_cases isNew : other = m.size
  · -- the new node has none, and nothing lies below a path that was unknown
    subst isNew
    rw [if_neg (by omega), if_pos rfl, new]
    refine ⟨fun within => absurd within List.not_mem_nil, ?_⟩
    rintro ⟨inRange, reached⟩
    by_cases last : child = m.size
    · rw [last, new] at reached
      have long := congrArg List.length reached
      simp at long
    · rw [old child (by omega)] at reached
      have deeper : known (path place ++ [r] ++ [s]) := reached ▸ trie.path_known (by omega)
      exact absurd (trie.closed.init _ s deeper) fresh
  · have beforeNew : other < m.size := by omega
    have before := trie.children other beforeNew s child
    rw [old other beforeNew, if_neg isNew]
    by_cases last : child = m.size
    · subst last
      have unused : ¬ (s, m.size) ∈ (m.node other).children := by
        intro within
        have below := (before.mp within).1
        omega
      rw [new]
      split
      · rename_i same
        subst same
        rw [List.mem_append, List.mem_singleton, Prod.mk.injEq]
        constructor
        · rintro (within | ⟨rfl, -⟩)
          · exact absurd within unused
          · exact ⟨by omega, rfl⟩
        · rintro ⟨-, reached⟩
          obtain ⟨-, letters⟩ := List.append_inj' reached rfl
          exact Or.inr ⟨(List.cons.inj letters).1.symm, rfl⟩
      · rename_i different
        refine ⟨fun within => absurd within unused, ?_⟩
        rintro ⟨-, reached⟩
        obtain ⟨fronts, -⟩ := List.append_inj' reached rfl
        exact absurd (trie.apart other beforeNew place inside fronts.symm) different
    · have same : (s, child) ∈ (m.node other).children ↔ child < m.size + 1 ∧ path' child = path other ++ [s] := by
        rw [before]
        constructor
        · rintro ⟨below, reached⟩
          exact ⟨by omega, (old child below).trans reached⟩
        · rintro ⟨inRange, reached⟩
          have below : child < m.size := by omega
          exact ⟨below, (old child below).symm.trans reached⟩
      rw [← same]
      split
      · rename_i here
        subst here
        rw [List.mem_append, List.mem_singleton, Prod.mk.injEq]
        constructor
        · rintro (within | ⟨-, rfl⟩)
          · exact within
          · exact absurd rfl last
        · exact Or.inl
      · exact Iff.rfl

variable [DecidableEq α]

theorem lookup_iff {entries : List (α × ℕ)} (single : ∀ r first second, (r, first) ∈ entries → (r, second) ∈ entries → first = second)
    (r : α) (child : ℕ) : entries.lookup r = some child ↔ (r, child) ∈ entries := by
  induction entries with
  | nil => simp
  | cons entry rest ih =>
      obtain ⟨key, value⟩ := entry
      have fewer := ih fun s first second one other => single s first second (List.mem_cons_of_mem _ one) (List.mem_cons_of_mem _ other)
      rw [List.lookup_cons]
      by_cases here : r = key
      · subst here
        rw [beq_self_eq_true, Option.some_inj]
        constructor
        · rintro rfl
          exact List.mem_cons_self
        · intro within
          exact single r value child List.mem_cons_self within
      · have different : (r == key) = false := beq_false_of_ne here
        simp only [different]
        rw [fewer, List.mem_cons]
        constructor
        · exact Or.inr
        · rintro (same | within)
          · exact absurd (congrArg Prod.fst same) here
          · exact within

namespace Trie

theorem child_iff (trie : Trie m path known listed) {place : ℕ} (inside : place < m.size) (r : α) (child : ℕ) :
    m.child place r = some child ↔ child < m.size ∧ path child = path place ++ [r] := by
  rw [← trie.children place inside r child, AcMatcher.child]
  apply lookup_iff
  intro s first second one other
  obtain ⟨below, first⟩ := (trie.children place inside s _).mp one
  obtain ⟨above, second⟩ := (trie.children place inside s _).mp other
  exact trie.apart _ below _ above (first.trans second.symm)

-- No child where the path goes no further.
theorem child_none_iff (trie : Trie m path known listed) {place : ℕ} (inside : place < m.size) (r : α) :
    m.child place r = none ↔ ¬ ahead known r (path place) := by
  rw [ahead, trie.paths]
  constructor
  · rintro missing ⟨child, below, reached⟩
    rw [(trie.child_iff inside r child).mpr ⟨below, reached⟩] at missing
    cases missing
  · intro missing
    cases found : m.child place r with
    | none => rfl
    | some child => exact absurd ⟨child, (trie.child_iff inside r child).mp found⟩ missing

end Trie

theorem descend_fresh {place : ℕ} {r : α} (missing : m.child place r = none) (inside : place < m.size) :
    (m.descend place r).2 = m.size ∧ (m.descend place r).1.size = m.size + 1 ∧
      ∀ other, (m.descend place r).1.node other =
        if other = place then { m.node place with children := (m.node place).children ++ [(r, m.size)] }
        else if other = m.size then {} else m.node other := by
  have apart : place ≠ m.size := by omega
  rw [AcMatcher.descend, missing]
  refine ⟨rfl, rfl, ?_⟩
  intro other
  simp only [AcMatcher.set_node, if_neg apart]

theorem descend_trie (trie : Trie m path known listed) (unlinked : Unlinked m) {place : ℕ} (inside : place < m.size) (r : α) :
    ∃ path', Trie (m.descend place r).1 path' (fun word => known word ∨ word = path place ++ [r]) listed ∧
      Unlinked (m.descend place r).1 ∧ (m.descend place r).2 < (m.descend place r).1.size ∧
      path' (m.descend place r).2 = path place ++ [r] := by
  cases found : m.child place r with
  | some child =>
      have moved : m.descend place r = (m, child) := by rw [AcMatcher.descend, found]
      obtain ⟨below, reached⟩ := (trie.child_iff inside r child).mp found
      rw [moved]
      refine ⟨path, trie.congr ?_ fun _ => Iff.rfl, unlinked, below, reached⟩
      intro word
      refine ⟨Or.inl, ?_⟩
      rintro (old | rfl)
      · exact old
      · exact reached ▸ trie.path_known below
  | none =>
      have fresh : ¬ known (path place ++ [r]) := (trie.child_none_iff inside r).mp found
      obtain ⟨last, size, nodes⟩ := descend_fresh found inside
      rw [last, size]
      have old : ∀ other < m.size, Function.update path m.size (path place ++ [r]) other = path other := by
        intro other below
        rw [Function.update_of_ne (by omega)]
      have new : Function.update path m.size (path place ++ [r]) m.size = path place ++ [r] := Function.update_self _ _ _
      have unreached : ∀ other < m.size, path other ≠ path place ++ [r] := by
        intro other below reached
        exact fresh (reached ▸ trie.path_known below)
      refine ⟨Function.update path m.size (path place ++ [r]), ?_, ?_, by omega, new⟩
      · constructor
        · rw [old 0 trie.started, trie.root]
        · omega
        · constructor
          · exact Or.inl trie.closed.empty
          · rintro word letter (listed | same)
            · exact Or.inl (trie.closed.init word letter listed)
            · obtain ⟨rfl, -⟩ := List.append_inj' same rfl
              exact Or.inl (trie.path_known inside)
        · intro other below s child
          rw [size] at below ⊢
          exact fresh_children trie inside fresh nodes old new other below s child
        · intro other below
          rw [size] at below
          rw [nodes]
          split
          · apply List.Nodup.append (trie.nodup place inside) (List.nodup_singleton _)
            intro entry within made
            rw [List.mem_singleton.mp made] at within
            have below := ((trie.children place inside r m.size).mp within).1
            omega
          · split
            · exact List.nodup_nil
            · exact trie.nodup other (by omega)
        · intro first firstBelow second secondBelow same
          rw [size] at firstBelow secondBelow
          by_cases firstNew : first = m.size
          · by_cases secondNew : second = m.size
            · rw [firstNew, secondNew]
            · rw [firstNew, new, old second (by omega)] at same
              exact absurd same.symm (unreached second (by omega))
          · by_cases secondNew : second = m.size
            · rw [secondNew, new, old first (by omega)] at same
              exact absurd same (unreached first (by omega))
            · rw [old first (by omega), old second (by omega)] at same
              exact trie.apart first (by omega) second (by omega) same
        · intro word
          rw [trie.paths, size]
          constructor
          · rintro (⟨other, below, rfl⟩ | rfl)
            · exact ⟨other, by omega, old other below⟩
            · exact ⟨m.size, by omega, new⟩
          · rintro ⟨other, below, rfl⟩
            by_cases isNew : other = m.size
            · exact Or.inr (isNew ▸ new)
            · exact Or.inl ⟨other, by omega, (old other (by omega)).symm⟩
        · intro word ends
          exact Or.inl (trie.among word ends)
        · intro other below
          rw [size] at below
          rw [nodes]
          split
          · rename_i same
            rw [same, old place inside]
            exact trie.ends place inside
          · split
            · rename_i isNew
              rw [isNew, new]
              refine ⟨fun ends => absurd ends Bool.false_ne_true, ?_⟩
              intro ends
              exact absurd (trie.among _ ends) fresh
            · rw [old other (by omega)]
              exact trie.ends other (by omega)
        · intro other below
          rw [size] at below
          rw [nodes]
          split
          · rename_i same
            rw [same, old place inside]
            exact trie.words place inside
          · split
            · intro ends
              cases ends
            · rw [old other (by omega)]
              exact trie.words other (by omega)
      · intro other
        rw [nodes]
        split
        · exact unlinked place
        · split
          · rfl
          · exact unlinked other

theorem fold_trie (word : List α) (trie : Trie m path known listed) (unlinked : Unlinked m) {place : ℕ} (inside : place < m.size) :
    ∃ path', Trie (word.foldl (fun (m, place) r => m.descend place r) (m, place)).1 path'
        (fun other => known other ∨ ∃ part, part <+: word ∧ other = path place ++ part) listed ∧
      Unlinked (word.foldl (fun (m, place) r => m.descend place r) (m, place)).1 ∧
      (word.foldl (fun (m, place) r => m.descend place r) (m, place)).2 <
        (word.foldl (fun (m, place) r => m.descend place r) (m, place)).1.size ∧
      path' (word.foldl (fun (m, place) r => m.descend place r) (m, place)).2 = path place ++ word := by
  induction word generalizing m path known place with
  | nil =>
      refine ⟨path, trie.congr ?_ fun _ => Iff.rfl, unlinked, inside, (List.append_nil _).symm⟩
      intro other
      refine ⟨Or.inl, ?_⟩
      rintro (old | ⟨part, within, rfl⟩)
      · exact old
      · rw [List.prefix_nil.mp within, List.append_nil]
        exact trie.path_known inside
  | cons r rest ih =>
      obtain ⟨made, trieMade, unlinkedMade, insideMade, reached⟩ := descend_trie trie unlinked inside r
      obtain ⟨path', trie', unlinked', inside', reached'⟩ := ih trieMade unlinkedMade insideMade
      rw [List.foldl_cons]
      refine ⟨path', trie'.congr ?_ fun _ => Iff.rfl, unlinked', inside', ?_⟩
      · intro other
        rw [reached]
        constructor
        · rintro ((old | rfl) | ⟨part, within, rfl⟩)
          · exact Or.inl old
          · exact Or.inr ⟨[r], ⟨rest, rfl⟩, rfl⟩
          · exact Or.inr ⟨r :: part, List.cons_prefix_cons.mpr ⟨rfl, within⟩, by simp⟩
        · rintro (old | ⟨part, within, rfl⟩)
          · exact Or.inl (Or.inl old)
          · rcases List.prefix_cons_iff.mp within with rfl | ⟨tail, rfl, short⟩
            · rw [List.append_nil]
              exact Or.inl (Or.inl (trie.path_known inside))
            · exact Or.inr ⟨tail, short, by simp⟩
      · rw [reached', reached]
        simp

theorem insert_trie (word : List α) (trie : Trie m path known listed) (unlinked : Unlinked m) :
    ∃ path', Trie (m.insert word) path' (fun other => known other ∨ other <+: word) (fun other => listed other ∨ other = word) ∧
      Unlinked (m.insert word) := by
  obtain ⟨path', trie', unlinked', inside, reached⟩ := fold_trie word trie unlinked trie.started
  rw [trie.root, List.nil_append] at reached
  have grown := @Trie.congr _ _ _ _ _ trie' (fun other => known other ∨ other <+: word) listed (by simp [trie.root]) (fun _ => Iff.rfl)
  rw [AcMatcher.insert]
  generalize word.foldl (fun (m, place) r => m.descend place r) (m, 0) = made at *
  obtain ⟨made, last⟩ := made
  simp only at reached inside grown unlinked' ⊢
  refine ⟨path', ?_, ?_⟩
  · constructor
    · exact grown.root
    · exact grown.started
    · exact grown.closed
    · intro place below r child
      rw [AcMatcher.set_node]
      split
      · rename_i same
        rw [same]
        exact grown.children last inside r child
      · exact grown.children place below r child
    · intro place below
      rw [AcMatcher.set_node]
      split
      · exact grown.nodup last inside
      · exact grown.nodup place below
    · exact grown.apart
    · exact grown.paths
    · rintro other (ends | rfl)
      · exact grown.among other ends
      · exact Or.inr (List.prefix_refl _)
    · intro place below
      rw [AcMatcher.set_node]
      split
      · rename_i same
        rw [same]
        exact ⟨fun _ => Or.inr reached, fun _ => rfl⟩
      · rename_i different
        rw [grown.ends place below]
        refine ⟨Or.inl, ?_⟩
        rintro (ends | same)
        · exact ends
        · exact absurd (grown.apart place below last inside (same.trans reached.symm)) different
    · intro place below
      rw [AcMatcher.set_node]
      split
      · rename_i same
        rw [same, reached]
        exact fun _ => rfl
      · exact grown.words place below
  · intro place
    rw [AcMatcher.set_node]
    split
    · exact unlinked' last
    · exact unlinked' place

def Known (words : List (List α)) (word : List α) : Prop := word = [] ∨ ∃ whole ∈ words, word <+: whole

def Listed (words : List (List α)) (word : List α) : Prop := word ∈ words ∧ word ≠ []

instance (words : List (List α)) (word : List α) : Decidable (Listed words word) := inferInstanceAs (Decidable (_ ∧ _))

theorem fold_insert (words : List (List α)) (trie : Trie m path known listed) (unlinked : Unlinked m) :
    ∃ path', Trie (words.foldl (fun m word => if word = [] then m else m.insert word) m) path'
        (fun other => known other ∨ ∃ whole ∈ words, other <+: whole) (fun other => listed other ∨ Listed words other) ∧
      Unlinked (words.foldl (fun m word => if word = [] then m else m.insert word) m) := by
  induction words generalizing m path known listed with
  | nil =>
      refine ⟨path, trie.congr ?_ ?_, unlinked⟩
      · simp
      · simp [Listed]
  | cons word rest ih =>
      rw [List.foldl_cons]
      by_cases blank : word = []
      · subst blank
        obtain ⟨path', trie', unlinked'⟩ := ih trie unlinked
        rw [if_pos rfl]
        refine ⟨path', trie'.congr ?_ ?_, unlinked'⟩
        · intro other
          have empty := trie.closed.empty
          simp only [List.exists_mem_cons_iff, List.prefix_nil]
          constructor
          · rintro (old | new)
            · exact Or.inl old
            · exact Or.inr (Or.inr new)
          · rintro (old | rfl | new)
            · exact Or.inl old
            · exact Or.inl empty
            · exact Or.inr new
        · intro other
          simp only [Listed, List.mem_cons]
          tauto
      · rw [if_neg blank]
        obtain ⟨made, trieMade, unlinkedMade⟩ := insert_trie word trie unlinked
        obtain ⟨path', trie', unlinked'⟩ := ih trieMade unlinkedMade
        refine ⟨path', trie'.congr ?_ ?_, unlinked'⟩
        · intro other
          simp only [List.exists_mem_cons_iff, or_assoc]
        · intro other
          simp only [Listed, List.mem_cons]
          constructor
          · rintro ((old | rfl) | ⟨within, solid⟩)
            · exact Or.inl old
            · exact Or.inr ⟨Or.inl rfl, blank⟩
            · exact Or.inr ⟨Or.inr within, solid⟩
          · rintro (old | ⟨rfl | within, solid⟩)
            · exact Or.inl (Or.inl old)
            · exact Or.inl (Or.inr rfl)
            · exact Or.inr ⟨within, solid⟩

theorem insert_words_trie (words : List (List α)) :
    ∃ path, Trie (insertWords words) path (Known words) (Listed words) ∧ Unlinked (insertWords words) := by
  have bare : Trie ({} : AcMatcher α) (fun _ => []) (fun word => word = []) fun _ => False := by
    constructor
    · rfl
    · exact Nat.one_pos
    · exact ⟨rfl, by simp⟩
    · intro place below r child
      simp
    · intro place _
      exact List.nodup_nil
    · intro first firstBelow second secondBelow _
      have one : first < 1 := firstBelow
      have other : second < 1 := secondBelow
      omega
    · intro word
      exact ⟨fun empty => ⟨0, Nat.one_pos, empty.symm⟩, fun ⟨_, _, empty⟩ => empty.symm⟩
    · exact fun _ never => never.elim
    · intro place _
      simp
    · intro place _ ends
      cases ends
  obtain ⟨path, trie, unlinked⟩ := fold_insert words bare fun _ => rfl
  exact ⟨path, trie.congr (fun _ => Iff.rfl) fun _ => by rw [false_or], unlinked⟩

end tries

end CodeGo.Identity.SensitiveAC
