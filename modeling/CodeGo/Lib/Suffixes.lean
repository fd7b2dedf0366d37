import Mathlib.Data.List.Infix

set_option autoImplicit false

/- Longest suffixes of a text in a set of words that is closed under prefixes. -/

namespace Suffixes

variable {α : Type}

structure PrefixClosed (words : List α → Prop) : Prop where
  empty : words []
  init : ∀ word letter, words (word ++ [letter]) → words word

def Longest (words : List α → Prop) (text word : List α) : Prop :=
  words word ∧ word <:+ text ∧ ∀ other, words other → other <:+ text → other <:+ word

-- The longest one that is not the text itself.
def Border (words : List α → Prop) (text word : List α) : Prop := Longest (fun other => words other ∧ other ≠ text) text word

-- The words that a letter continues.
def ahead (words : List α → Prop) (letter : α) : List α → Prop := fun word => words (word ++ [letter])

theorem Longest.self {words : List α → Prop} {text : List α} (listed : words text) : Longest words text text :=
  ⟨listed, List.suffix_refl text, fun _ _ shorter => shorter⟩

-- A suffix of the text in a narrower set is one of its longest word.
theorem Longest.among {words others : List α → Prop} {text word : List α} (longest : Longest words text word)
    (narrower : ∀ other, others other → words other) (other : List α) (listed : others other) : other <:+ text ↔ other <:+ word := by
  constructor
  · intro shorter
    exact longest.2.2 other (narrower other listed) shorter
  · intro shorter
    exact shorter.trans longest.2.1

theorem Longest.through {words others : List α → Prop} {text word : List α} (longest : Longest words text word)
    (narrower : ∀ other, others other → words other) (best : List α) : Longest others text best ↔ Longest others word best := by
  have same := longest.among narrower
  constructor
  · rintro ⟨listed, shorter, most⟩
    refine ⟨listed, (same best listed).mp shorter, ?_⟩
    intro other known within
    exact most other known ((same other known).mpr within)
  · rintro ⟨listed, shorter, most⟩
    refine ⟨listed, (same best listed).mpr shorter, ?_⟩
    intro other known within
    exact most other known ((same other known).mp within)

theorem Longest.snoc {words : List α → Prop} {text word : List α} {letter : α} (longest : Longest (ahead words letter) text word) :
    Longest words (text ++ [letter]) (word ++ [letter]) := by
  obtain ⟨continued, ⟨front, split⟩, most⟩ := longest
  refine ⟨continued, ⟨front, by rw [← split, List.append_assoc]⟩, ?_⟩
  intro other listed shorter
  rcases List.suffix_concat_iff.mp shorter with rfl | ⟨init, rfl, within⟩
  · exact List.nil_suffix
  · obtain ⟨rest, rfl⟩ := most init listed within
    exact ⟨rest, by simp⟩

theorem longest_lost {words : List α → Prop} (empty : words []) {text : List α} {letter : α}
    (lost : ∀ other, ahead words letter other → ¬ other <:+ text) : Longest words (text ++ [letter]) [] := by
  refine ⟨empty, List.nil_suffix, ?_⟩
  intro other listed shorter
  rcases List.suffix_concat_iff.mp shorter with rfl | ⟨init, rfl, within⟩
  · exact List.suffix_refl []
  · exact absurd within (lost init listed)

theorem Border.shorter {words : List α → Prop} {text word : List α} (border : Border words text word) : word.length < text.length := by
  obtain ⟨⟨_, proper⟩, shorter, _⟩ := border
  have bound := shorter.length_le
  by_contra long
  exact proper (shorter.eq_of_length_le (by omega))

section closed

variable {words : List α → Prop} (closed : PrefixClosed words)
include closed

theorem Border.snoc {text word best : List α} {letter : α} (border : Border words text word)
    (longest : Longest (ahead words letter) word best) : Border words (text ++ [letter]) (best ++ [letter]) := by
  have short := border.shorter
  have within := longest.2.1.length_le
  have moved : Longest (ahead (fun other => words other ∧ other ≠ text ++ [letter]) letter) text best := by
    refine ⟨⟨longest.1, ?_⟩, longest.2.1.trans border.2.1, ?_⟩
    · intro whole
      have long := congrArg List.length whole
      simp only [List.length_append] at long
      omega
    · intro other listed shorter
      have proper : other ≠ text := by
        rintro rfl
        exact listed.2 rfl
      exact longest.2.2 other listed.1 (border.2.2 other ⟨closed.init other letter listed.1, proper⟩ shorter)
  exact moved.snoc

theorem border_lost {text word : List α} {letter : α} (border : Border words text word)
    (lost : ∀ other, ahead words letter other → ¬ other <:+ word) : Border words (text ++ [letter]) [] := by
  apply longest_lost
  · exact ⟨closed.empty, by simp⟩
  · intro other listed shorter
    have proper : other ≠ text := by
      rintro rfl
      exact listed.2 rfl
    exact lost other listed.1 (border.2.2 other ⟨closed.init other letter listed.1, proper⟩ shorter)

-- A word that the letter does not continue is left for its border.
theorem ahead_proper {text : List α} {letter : α} (stuck : ¬ words (text ++ [letter])) (other : List α) (continued : ahead words letter other) :
    words other ∧ other ≠ text := by
  refine ⟨closed.init other letter continued, ?_⟩
  rintro rfl
  exact stuck continued

end closed

/- The listed suffixes of a text, the longest first -/

def endings (listed : List α → Bool) (text : List α) : List (List α) := text.tails.filter listed

section endings

variable {listed : List α → Bool}

theorem mem_endings {text word : List α} : word ∈ endings listed text ↔ word <:+ text ∧ listed word = true := by
  rw [endings, List.mem_filter, List.mem_tails]

theorem endings_append (front word : List α) (among : ∀ other, listed other = true → other <:+ front ++ word → other <:+ word) :
    endings listed (front ++ word) = endings listed word := by
  induction front with
  | nil => rfl
  | cons letter rest ih =>
      have unlisted : ¬ listed (letter :: (rest ++ word)) = true := by
        intro whole
        have long := (among _ whole (List.suffix_refl _)).length_le
        simp only [List.length_cons, List.length_append] at long
        omega
      rw [List.cons_append, endings, List.tails_cons, List.filter_cons_of_neg unlisted]
      apply ih
      intro other known shorter
      exact among other known (shorter.trans (List.suffix_cons _ _))

theorem endings_longest {words : List α → Prop} {text word : List α} (longest : Longest words text word)
    (known : ∀ other, listed other = true → words other) : endings listed text = endings listed word := by
  obtain ⟨front, rfl⟩ := longest.2.1
  apply endings_append
  intro other named shorter
  exact longest.2.2 other (known other named) shorter

theorem endings_border {words : List α → Prop} {text word : List α} (border : Border words text word)
    (known : ∀ other, listed other = true → words other) :
    endings listed text = (if listed text then [text] else []) ++ endings listed word := by
  have short := border.shorter
  cases text with
  | nil => simp at short
  | cons letter rest =>
      have within : word <:+ rest := by
        rcases List.suffix_cons_iff.mp border.2.1 with whole | within
        · exact absurd whole border.1.2
        · exact within
      have below : endings listed rest = endings listed word := by
        obtain ⟨front, rfl⟩ := within
        apply endings_append
        intro other named shorter
        apply border.2.2 other _ (shorter.trans (List.suffix_cons _ _))
        refine ⟨known other named, ?_⟩
        rintro rfl
        have long := shorter.length_le
        simp only [List.length_cons, List.length_append] at long
        omega
      rw [← below, endings, endings, List.tails_cons, List.filter_cons]
      split
      · rfl
      · rfl

theorem endings_decreasing (text : List α) : (endings listed text).Pairwise fun first second => second.length < first.length := by
  apply List.Pairwise.filter
  induction text with
  | nil => simp
  | cons letter rest ih =>
      rw [List.tails_cons, List.pairwise_cons]
      refine ⟨?_, ih⟩
      intro other within
      have bound := ((List.mem_tails _ _).mp within).length_le
      rw [List.length_cons]
      omega

end endings

end Suffixes
