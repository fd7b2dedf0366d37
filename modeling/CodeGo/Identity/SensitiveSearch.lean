import CodeGo.Identity.SensitiveLinks

set_option autoImplicit false

/- The search stands at the longest suffix of what it has read, and the links below it are its endings. -/

namespace CodeGo.Identity.SensitiveAC

open Suffixes

variable {α : Type} [DecidableEq α]

def hitAt (i : ℕ) (word : List α) : AcHit α := { pos := (i : Int) - word.length + 1, word }

-- The listed words that end at a place of the text.
def hitsAt (words : List (List α)) (i : ℕ) (read : List α) : List (AcHit α) :=
  (endings (fun word => decide (Listed words word)) read).map (hitAt i)

def hitsFrom (words : List (List α)) : ℕ → List α → List α → List (AcHit α)
  | _, _, [] => []
  | i, read, r :: rest => hitsAt words i (read ++ [r]) ++ hitsFrom words (i + 1) (read ++ [r]) rest

-- With an early return only the first hit is kept.
def kept (returnImmediately : Bool) (hits : List (AcHit α)) : List (AcHit α) := if returnImmediately then hits.take 1 else hits

section automaton

variable {m : AcMatcher α} {path : ℕ → List α} {words : List (List α)}

theorem advance_spec (automaton : Automaton m path (Known words) (Listed words)) (r : α) :
    ∀ (fuel place : ℕ), place < m.size → (path place).length + 1 ≤ fuel →
      ∃ stop < m.size, advance m r fuel place = some stop ∧
        ((∃ child, m.child stop r = some child ∧ Longest (ahead (Known words) r) (path place) (path stop)) ∨
          (m.child stop r = none ∧ stop = 0 ∧ ∀ other, ahead (Known words) r other → ¬ other <:+ path place)) := by
  intro fuel
  have trie := automaton.trie
  induction fuel with
  | zero =>
      intro place _ enough
      omega
  | succ fuel ih =>
      intro place inside enough
      rw [advance]
      cases found : m.child place r with
      | some child =>
          have continued : ahead (Known words) r (path place) := by
            obtain ⟨below, reached⟩ := (trie.child_iff inside r child).mp found
            rw [ahead, ← reached]
            exact trie.path_known below
          rw [if_neg (by simp)]
          exact ⟨place, inside, rfl, Or.inl ⟨child, found, Longest.self continued⟩⟩
      | none =>
          have stuck := (trie.child_none_iff inside r).mp found
          by_cases isRoot : place = 0
          · subst isRoot
            rw [if_neg (by simp)]
            refine ⟨0, inside, rfl, Or.inr ⟨found, rfl, ?_⟩⟩
            intro other continued within
            rw [trie.root] at within stuck
            exact stuck (List.suffix_nil.mp within ▸ continued)
          · obtain ⟨fail, link, below, border⟩ := automaton.linked place inside isRoot
            have shorter := border.shorter
            have narrower := ahead_proper trie.closed stuck
            rw [if_pos ⟨isRoot, rfl⟩, link]
            obtain ⟨stop, inStop, run, ends⟩ := ih fail below (by omega)
            refine ⟨stop, inStop, run, ?_⟩
            rcases ends with ⟨child, next, longest⟩ | ⟨none, isRoot, lost⟩
            · exact Or.inl ⟨child, next, (border.through narrower _).mpr longest⟩
            · refine Or.inr ⟨none, isRoot, ?_⟩
              intro other continued within
              exact lost other continued ((border.among narrower other continued).mp within)

theorem listed_known (word : List α) (listed : decide (Listed words word) = true) : Known words word :=
  Or.inr ⟨word, (of_decide_eq_true listed).1, List.prefix_refl word⟩

theorem collect_spec (automaton : Automaton m path (Known words) (Listed words)) (returnImmediately : Bool) (i : ℕ) :
    ∀ (fuel place : ℕ) (hits : List (AcHit α)), place < m.size → (path place).length + 1 ≤ fuel →
      collect m returnImmediately i fuel (some place) hits =
        some (hits ++ kept returnImmediately (hitsAt words i (path place)), returnImmediately && decide (hitsAt words i (path place) ≠ [])) := by
  intro fuel
  have trie := automaton.trie
  induction fuel with
  | zero =>
      intro place hits _ enough
      omega
  | succ fuel ih =>
      intro place hits inside enough
      rw [collect]
      by_cases isRoot : place = 0
      · have none : hitsAt words i (path place) = [] := by
          rw [isRoot, trie.root]
          simp [hitsAt, endings, Listed]
        rw [if_pos isRoot, none]
        cases returnImmediately <;> simp [kept]
      · obtain ⟨fail, link, below, border⟩ := automaton.linked place inside isRoot
        have shorter := border.shorter
        have split := endings_border border (@listed_known _ _ words)
        rw [if_neg isRoot, link]
        by_cases ends : (m.node place).isEnd = true
        · have listed := (trie.ends place inside).mp ends
          have here : hitsAt words i (path place) = hitAt i (path place) :: hitsAt words i (path fail) := by
            rw [hitsAt, split, if_pos (decide_eq_true listed)]
            rfl
          rw [if_pos ends, trie.words place inside ends, here]
          cases returnImmediately with
          | true => simp [kept, hitAt]
          | false =>
              have rest := ih fail (hits ++ [hitAt i (path place)]) below (by omega)
              simp only [hitAt] at rest
              simp [rest, kept, hitAt]
        · have unlisted : ¬ Listed words (path place) := fun listed => ends ((trie.ends place inside).mpr listed)
          have here : hitsAt words i (path place) = hitsAt words i (path fail) := by
            rw [hitsAt, split, if_neg (by simpa using unlisted)]
            rfl
          rw [if_neg ends, here]
          exact ih fail hits below (by omega)

theorem scan_spec (automaton : Automaton m path (Known words) (Listed words)) (returnImmediately : Bool) {fuel : ℕ}
    (enough : ∀ place < m.size, (path place).length + 1 ≤ fuel) (text : List α) :
    ∀ (i node : ℕ) (read : List α) (hits : List (AcHit α)), node < m.size → Longest (Known words) read (path node) →
      scan m returnImmediately fuel i node hits text = some (hits ++ kept returnImmediately (hitsFrom words i read text)) := by
  have trie := automaton.trie
  induction text with
  | nil =>
      intro i node read hits _ _
      cases returnImmediately <;> simp [scan, hitsFrom, kept]
  | cons r rest ih =>
      intro i node read hits inside longest
      obtain ⟨stop, inStop, run, ends⟩ := advance_spec automaton r fuel node inside (enough node inside)
      have narrower : ∀ other, ahead (Known words) r other → Known words other := fun other => trie.closed.init other r
      have arrived : (m.child stop r).getD stop < m.size ∧
          Longest (Known words) (read ++ [r]) (path ((m.child stop r).getD stop)) := by
        rcases ends with ⟨child, next, best⟩ | ⟨next, rfl, lost⟩
        · obtain ⟨below, reached⟩ := (trie.child_iff inStop r child).mp next
          rw [next, Option.getD_some, reached]
          exact ⟨below, ((longest.through narrower _).mpr best).snoc⟩
        · rw [next, Option.getD_none, trie.root]
          refine ⟨inStop, longest_lost trie.closed.empty ?_⟩
          intro other continued within
          exact lost other continued ((longest.among narrower other continued).mp within)
      have here : hitsAt words i (path ((m.child stop r).getD stop)) = hitsAt words i (read ++ [r]) := by
        rw [hitsAt, hitsAt, endings_longest arrived.2 listed_known]
      have collected := collect_spec automaton returnImmediately i fuel _ hits arrived.1 (enough _ arrived.1)
      rw [scan, run, hitsFrom]
      simp only [collected, here]
      by_cases found : hitsAt words i (read ++ [r]) = []
      · have further := ih (i + 1) _ (read ++ [r]) hits arrived.1 arrived.2
        cases returnImmediately <;> simp_all [kept]
      · cases returnImmediately with
        | true =>
            have first : (hitsAt words i (read ++ [r]) ++ hitsFrom words (i + 1) (read ++ [r]) rest).take 1 = (hitsAt words i (read ++ [r])).take 1 := by
              rw [List.take_append_of_le_length]
              exact List.length_pos_iff.mpr found
            simp [kept, found, first]
        | false =>
            have further := ih (i + 1) _ (read ++ [r]) (hits ++ hitsAt words i (read ++ [r])) arrived.1 arrived.2
            simp_all [kept]

end automaton

/- What the hits are: every occurrence once, by its end and then the longer one first. -/

def Before (first second : AcHit α) : Prop :=
  first.pos + first.word.length < second.pos + second.word.length ∨
    (first.pos + first.word.length = second.pos + second.word.length ∧ second.word.length < first.word.length)

def OccursAt (text : List α) (hit : AcHit α) : Prop := ∃ start : ℕ, hit.pos = start ∧ hit.word <+: text.drop start

section hits

variable {words : List (List α)} {hit : AcHit α}

theorem mem_hits_at {i : ℕ} {read : List α} :
    hit ∈ hitsAt words i read ↔ hit.word <:+ read ∧ Listed words hit.word ∧ hit.pos = (i : Int) - hit.word.length + 1 := by
  rw [hitsAt, List.mem_map]
  constructor
  · rintro ⟨word, within, rfl⟩
    obtain ⟨ends, listed⟩ := mem_endings.mp within
    exact ⟨ends, of_decide_eq_true listed, rfl⟩
  · rintro ⟨ends, listed, place⟩
    refine ⟨hit.word, mem_endings.mpr ⟨ends, decide_eq_true listed⟩, ?_⟩
    rw [hitAt, ← place]

theorem mem_hits_from (text : List α) : ∀ (i : ℕ) (read : List α),
    hit ∈ hitsFrom words i read text ↔ ∃ front r, front ++ [r] <+: text ∧ hit ∈ hitsAt words (i + front.length) (read ++ (front ++ [r])) := by
  induction text with
  | nil =>
      intro i read
      simp [hitsFrom]
  | cons r rest ih =>
      intro i read
      rw [hitsFrom, List.mem_append, ih]
      constructor
      · rintro (here | ⟨front, s, within, later⟩)
        · exact ⟨[], r, by simp, by simpa using here⟩
        · refine ⟨r :: front, s, List.cons_prefix_cons.mpr ⟨rfl, within⟩, ?_⟩
          rw [List.length_cons, ← Nat.add_assoc, Nat.add_right_comm]
          simpa using later
      · rintro ⟨front, s, within, later⟩
        cases front with
        | nil =>
            obtain ⟨rfl, _⟩ := List.cons_prefix_cons.mp within
            exact Or.inl (by simpa using later)
        | cons first others =>
            obtain ⟨rfl, inRest⟩ := List.cons_prefix_cons.mp within
            refine Or.inr ⟨others, s, inRest, ?_⟩
            rw [List.length_cons, ← Nat.add_assoc, Nat.add_right_comm] at later
            simpa using later

theorem mem_hits (text : List α) : hit ∈ hitsFrom words 0 [] text ↔ Listed words hit.word ∧ OccursAt text hit := by
  rw [mem_hits_from]
  constructor
  · rintro ⟨front, r, ⟨back, rfl⟩, within⟩
    obtain ⟨⟨before, split⟩, listed, place⟩ := mem_hits_at.mp within
    rw [List.nil_append] at split
    refine ⟨listed, before.length, ?_, back, ?_⟩
    · have length := congrArg List.length split
      simp only [List.length_append, List.length_singleton] at length
      rw [place]
      omega
    · rw [← split, List.append_assoc, List.drop_left]
  · rintro ⟨listed, start, place, back, split⟩
    rcases List.eq_nil_or_concat hit.word with empty | ⟨init, r, whole⟩
    · exact absurd empty listed.2
    · rw [List.concat_eq_append] at whole
      have inside : start ≤ text.length := by
        by_contra past
        rw [List.drop_of_length_le (by omega), whole] at split
        simp at split
      have front : (text.take start).length = start := by rw [List.length_take, Nat.min_eq_left inside]
      refine ⟨text.take start ++ init, r, ⟨back, ?_⟩, mem_hits_at.mpr ⟨⟨text.take start, ?_⟩, listed, ?_⟩⟩
      · calc text.take start ++ init ++ [r] ++ back = text.take start ++ (hit.word ++ back) := by simp [whole]
          _ = text := by rw [split, List.take_append_drop]
      · simp [whole]
      · have length := congrArg List.length whole
        simp only [List.length_append, List.length_singleton] at length
        rw [place, List.length_append, front]
        omega

theorem hits_at_end {i : ℕ} {read : List α} (within : hit ∈ hitsAt words i read) : hit.pos + hit.word.length = i + 1 := by
  obtain ⟨_, _, place⟩ := mem_hits_at.mp within
  omega

theorem hits_ordered (text : List α) : ∀ (i : ℕ) (read : List α), (hitsFrom words i read text).Pairwise Before := by
  induction text with
  | nil =>
      intro i read
      exact List.Pairwise.nil
  | cons r rest ih =>
      intro i read
      rw [hitsFrom, List.pairwise_append]
      refine ⟨?_, ih _ _, ?_⟩
      · rw [hitsAt, List.pairwise_map]
        apply (endings_decreasing (read ++ [r])).imp
        intro first second longer
        refine Or.inr ⟨?_, longer⟩
        simp only [hitAt]
        omega
      · intro first one second other
        obtain ⟨front, s, _, later⟩ := (mem_hits_from rest _ _).mp other
        have early := hits_at_end one
        have late := hits_at_end later
        left
        omega

end hits

end CodeGo.Identity.SensitiveAC
