import CodeGo.Identity.SensitiveSearch
import CodeGo.Lib.Text

set_option autoImplicit false

/- Configured patterns over a text. The matchers of earlier word lists are cached under the joined words. -/

namespace CodeGo.Identity.SensitiveAC

open Suffixes Text

-- The lower case of a letter, and the regular expressions.
structure TextPackages where
  lower : Char → Char
  compile : String → Option (String → Bool)

abbrev IdentityACCache := List (String × AcMatcher Char)

section model

variable (packages : TextPackages) (order : MapOrder Char) (fuel : ℕ)

def lowerString (s : String) : String := String.ofList ((trimSpace s).toList.map packages.lower)

def loweredWords (words : List String) : List (List Char) := words.map fun word => (lowerString packages word).toList

def buildMatcher (words : List String) : Option (AcMatcher Char) := buildIdentityAC order fuel (loweredWords packages words)

def joined (words : List String) : String := String.ofList (List.intercalate [Char.ofNat 0] (words.map String.toList))

def getOrBuildIdentityAC (cache : IdentityACCache) (words : List String) : Option (AcMatcher Char × IdentityACCache) :=
  match cache.lookup (joined words) with
  | some matcher => some (matcher, cache)
  | none => (buildMatcher packages order fuel words).map fun matcher => (matcher, (joined words, matcher) :: cache)

def acSearchLower (cache : IdentityACCache) (text : String) (words : List String) : Option ((Bool × List String) × IdentityACCache) :=
  match getOrBuildIdentityAC packages order fuel cache words with
  | none => none
  | some (matcher, cache) =>
      (matcher.multiPatternSearch fuel (lowerString packages text).toList true).map fun hits =>
        if hits = [] then ((false, []), cache) else ((true, hits.map fun hit => String.ofList hit.word), cache)

-- The plain rules in order, or the first rule of another kind that matches.
def sift (text : String) : List String → List String → Except String (List String)
  | plain, [] => .ok plain
  | plain, rawRule :: rest =>
      let rule := trimSpace rawRule
      if rule = "" then sift text plain rest
      else if hasPrefix "re:" rule then
        let pattern := trimSpace (trimPrefix "re:" rule)
        if pattern = "" then sift text plain rest
        else
          match packages.compile pattern with
          | some matchString => if matchString text then .error rule else sift text plain rest
          | none => sift text plain rest
      else if hasPrefix "contains:" rule then
        let needle := lowerString packages (trimPrefix "contains:" rule)
        if needle ≠ "" ∧ needle.toList <:+: (lowerString packages text).toList then .error rule else sift text plain rest
      else sift text (plain ++ [rule]) rest

def matchConfiguredPatterns (cache : IdentityACCache) (text : String) (rules : List String) :
    Option ((Bool × List String) × IdentityACCache) :=
  if rules = [] ∨ text = "" then some ((false, []), cache)
  else
    match sift packages text [] rules with
    | .error rule => some ((true, [rule]), cache)
    | .ok plain =>
        if plain = [] then some ((false, []), cache)
        else
          (acSearchLower packages order fuel cache text plain).map fun ((contains, words), cache) =>
            if contains then ((true, words), cache) else ((false, []), cache)

end model

/- Runs that come to an end -/

def Returns {β : Type} (run : ℕ → Option β) (result : β) : Prop := ∃ enough, ∀ fuel, enough ≤ fuel → run fuel = some result

theorem Returns.unique {β : Type} {run : ℕ → Option β} {first second : β} (one : Returns run first) (other : Returns run second) :
    first = second := by
  obtain ⟨enough, early⟩ := one
  obtain ⟨plenty, late⟩ := other
  have same := (early (max enough plenty) (le_max_left _ _)).symm.trans (late (max enough plenty) (le_max_right _ _))
  exact Option.some.inj same

section results

variable {packages : TextPackages} {order : MapOrder Char}

def NulFree (word : String) : Prop := Char.ofNat 0 ∉ word.toList

instance (word : String) : Decidable (NulFree word) := inferInstanceAs (Decidable (¬ _))

-- A rule that is neither an expression nor a piece of text.
def Plain (rule : String) : Prop := hasPrefix "re:" (trimSpace rule) = false ∧ hasPrefix "contains:" (trimSpace rule) = false

instance (rule : String) : Decidable (Plain rule) := inferInstanceAs (Decidable (_ ∧ _))

-- A matcher that finds the lowered words, however it was built.
def Finds (packages : TextPackages) (m : AcMatcher Char) (words : List String) : Prop :=
  ∃ path, Automaton m path (Known (loweredWords packages words)) (Listed (loweredWords packages words))

theorem build_finds (order : MapOrder Char) (words : List String) :
    ∃ m, Returns (fun fuel => buildMatcher packages order fuel words) m ∧ Finds packages m words := by
  obtain ⟨enough, build⟩ := build_automaton (loweredWords packages words)
  obtain ⟨m, path, built, automaton⟩ := build order
  exact ⟨m, ⟨enough, built⟩, path, automaton⟩

theorem search_returns {m : AcMatcher Char} {words : List String} (finds : Finds packages m words) (text : List Char)
    (returnImmediately : Bool) :
    Returns (fun fuel => m.multiPatternSearch fuel text returnImmediately)
      (kept returnImmediately (hitsFrom (loweredWords packages words) 0 [] text)) := by
  obtain ⟨path, automaton⟩ := finds
  refine ⟨((loweredWords packages words).map List.length).sum + 1, ?_⟩
  intro fuel enough
  have depths : ∀ place < m.size, (path place).length + 1 ≤ fuel := by
    intro place below
    have short := known_short _ _ (automaton.trie.path_known below)
    omega
  have start : Longest (Known (loweredWords packages words)) [] (path 0) := by
    rw [automaton.trie.root]
    exact Longest.self (Or.inl rfl)
  beta_reduce
  rw [AcMatcher.multiPatternSearch, scan_spec automaton returnImmediately depths text 0 0 [] [] automaton.trie.started start]
  rfl

/- The cache: one key for one list, but for the empty list and the list of an empty word. -/

theorem joined_same {words other : List String} (free : ∀ word ∈ words, NulFree word) (freeOther : ∀ word ∈ other, NulFree word)
    (same : joined words = joined other) : words = other ∨ (words = [] ∧ other = [""]) ∨ (words = [""] ∧ other = []) := by
  have chars : List.intercalate [Char.ofNat 0] (words.map String.toList) = List.intercalate [Char.ofNat 0] (other.map String.toList) := by
    have unpacked := congrArg String.toList same
    rwa [joined, joined, String.toList_ofList, String.toList_ofList] at unpacked
  have parts : ∀ {list : List String}, (∀ word ∈ list, NulFree word) → list ≠ [] →
      (List.intercalate [Char.ofNat 0] (list.map String.toList)).splitOn (Char.ofNat 0) = list.map String.toList := by
    intro list free some
    apply List.splitOn_intercalate
    · intro letters within
      obtain ⟨word, listed, rfl⟩ := List.mem_map.mp within
      exact free word listed
    · simpa using some
  have toList : Function.Injective String.toList := fun _ _ => String.toList_inj.mp
  have alone : ∀ {list : List String}, (∀ word ∈ list, NulFree word) → list ≠ [] →
      List.intercalate [Char.ofNat 0] (list.map String.toList) = [] → list = [""] := by
    intro list free some empty
    have split := parts free some
    rw [empty] at split
    exact (List.map_injective_iff.mpr toList) split.symm
  by_cases none : words = []
  · subst none
    by_cases noneOther : other = []
    · exact Or.inl noneOther.symm
    · exact Or.inr (Or.inl ⟨rfl, alone freeOther noneOther chars.symm⟩)
  · by_cases noneOther : other = []
    · subst noneOther
      exact Or.inr (Or.inr ⟨alone free none chars, rfl⟩)
    · left
      apply List.map_injective_iff.mpr toList
      rw [← parts free none, ← parts freeOther noneOther, chars]

theorem finds_blank {m : AcMatcher Char} : Finds packages m [] ↔ Finds packages m [""] := by
  have known : Known (loweredWords packages []) = Known (loweredWords packages [""]) := by
    funext word
    have blank : loweredWords packages [""] = [[]] := rfl
    have none : loweredWords packages [] = [] := rfl
    simp [Known, blank, none]
  have listed : Listed (loweredWords packages []) = Listed (loweredWords packages [""]) := by
    funext word
    have blank : loweredWords packages [""] = [[]] := rfl
    have none : loweredWords packages [] = [] := rfl
    simp [Listed, blank, none]
  rw [Finds, Finds, known, listed]

theorem finds_joined {m : AcMatcher Char} {words other : List String} (free : ∀ word ∈ words, NulFree word)
    (freeOther : ∀ word ∈ other, NulFree word) (same : joined words = joined other) (finds : Finds packages m words) :
    Finds packages m other := by
  rcases joined_same free freeOther same with rfl | ⟨rfl, rfl⟩ | ⟨rfl, rfl⟩
  · exact finds
  · exact finds_blank.mp finds
  · exact finds_blank.mpr finds

def Sound (packages : TextPackages) (cache : IdentityACCache) : Prop :=
  ∀ key m, (key, m) ∈ cache → ∃ words, (∀ word ∈ words, NulFree word) ∧ key = joined words ∧ Finds packages m words

theorem get_or_build_returns {cache : IdentityACCache} (sound : Sound packages cache) (order : MapOrder Char) {words : List String}
    (free : ∀ word ∈ words, NulFree word) :
    ∃ m cache', Returns (fun fuel => getOrBuildIdentityAC packages order fuel cache words) (m, cache') ∧
      Finds packages m words ∧ Sound packages cache' := by
  cases found : cache.lookup (joined words) with
  | some m =>
      refine ⟨m, cache, ⟨0, fun fuel _ => by simp only [getOrBuildIdentityAC, found]⟩, ?_, sound⟩
      obtain ⟨before, after, rfl, _⟩ := List.lookup_eq_some_iff.mp found
      obtain ⟨other, freeOther, same, finds⟩ := sound (joined words) m (by simp)
      exact finds_joined freeOther free same.symm finds
  | none =>
      obtain ⟨m, ⟨enough, built⟩, finds⟩ := @build_finds packages order words
      refine ⟨m, (joined words, m) :: cache, ⟨enough, ?_⟩, finds, ?_⟩
      · intro fuel plenty
        simp only [getOrBuildIdentityAC, found, built fuel plenty, Option.map_some]
      · intro key other within
        rcases List.mem_cons.mp within with same | old
        · obtain ⟨rfl, rfl⟩ := Prod.mk.inj same
          exact ⟨words, free, rfl, finds⟩
        · exact sound key other old

theorem get_or_build_mono {cache : IdentityACCache} {words : List String} {fuel : ℕ} {result : AcMatcher Char × IdentityACCache}
    (ran : getOrBuildIdentityAC packages order fuel cache words = some result) :
    Returns (fun more => getOrBuildIdentityAC packages order more cache words) result := by
  refine ⟨fuel, ?_⟩
  intro more le
  beta_reduce
  rw [getOrBuildIdentityAC] at ran ⊢
  split
  · rename_i found
    rw [found] at ran
    exact ran
  · rename_i missing
    rw [missing] at ran
    obtain ⟨m, built, same⟩ := Option.map_eq_some_iff.mp ran
    rw [buildMatcher, build_mono le built, Option.map_some]
    exact congrArg some same

-- The caches that searches over words without NUL leave behind.
inductive Reached (packages : TextPackages) : IdentityACCache → Prop where
  | empty : Reached packages []
  | search {cache cache' : IdentityACCache} {order : MapOrder Char} {fuel : ℕ} {words : List String} {m : AcMatcher Char}
      (before : Reached packages cache) (free : ∀ word ∈ words, NulFree word)
      (ran : getOrBuildIdentityAC packages order fuel cache words = some (m, cache')) : Reached packages cache'

theorem reached_sound {cache : IdentityACCache} (reached : Reached packages cache) : Sound packages cache := by
  induction reached with
  | empty =>
      intro key m within
      exact absurd within List.not_mem_nil
  | @search _ _ order _ _ _ _ free ran sound =>
      obtain ⟨_, _, returns, _, next⟩ := get_or_build_returns sound order free
      obtain ⟨-, rfl⟩ := Prod.mk.inj (returns.unique (get_or_build_mono ran))
      exact next

/- Plain rules -/

theorem trim_subset (text : String) : ∀ c ∈ (trimSpace text).toList, c ∈ text.toList := by
  intro c within
  rw [trimSpace, String.toList_ofList, trimChars] at within
  exact (List.dropWhile_sublist _).subset ((List.rdropWhile_prefix _ _).subset within)

theorem trim_nul_free {word : String} (free : NulFree word) : NulFree (trimSpace word) := fun within => free (trim_subset word _ within)

theorem sift_plain (text : String) (rules : List String) (plain : ∀ rule ∈ rules, Plain rule) (front : List String) :
    sift packages text front rules = .ok (front ++ (rules.map trimSpace).filter (· ≠ "")) := by
  induction rules generalizing front with
  | nil => simp [sift]
  | cons rule rest ih =>
      obtain ⟨noExpression, noPiece⟩ := plain rule List.mem_cons_self
      have others := fun other within => plain other (List.mem_cons_of_mem _ within)
      rw [sift, noExpression, noPiece]
      by_cases blank : trimSpace rule = ""
      · simp only [blank, if_true, ih others, List.map_cons]
        simp
      · simp only [blank, if_false, Bool.false_eq_true, ih others, List.map_cons]
        simp [blank]

theorem lower_trim (word : String) : lowerString packages (trimSpace word) = lowerString packages word := by
  rw [lowerString, lowerString, trim_space_idem]

theorem lower_blank {word : String} : lowerString packages word = "" ↔ trimSpace word = "" := by
  rw [lowerString, ← String.toList_inj, ← String.toList_inj, String.toList_ofList]
  simp

theorem occurs_iff {word text : List Char} : (∃ hit : AcHit Char, hit.word = word ∧ OccursAt text hit) ↔ word <:+: text := by
  constructor
  · rintro ⟨hit, rfl, start, _, within⟩
    exact within.isInfix.trans (List.drop_suffix start text).isInfix
  · rintro ⟨front, back, split⟩
    refine ⟨{ pos := front.length, word }, rfl, front.length, rfl, ?_⟩
    rw [← split, List.append_assoc, List.drop_left]
    exact List.prefix_append word back

theorem listed_iff {words : List String} {word : List Char} :
    Listed (loweredWords packages words) word ↔ ∃ rule ∈ words, lowerString packages rule ≠ "" ∧ word = (lowerString packages rule).toList := by
  constructor
  · rintro ⟨lowered, solid⟩
    obtain ⟨rule, within, rfl⟩ := List.mem_map.mp lowered
    have present : lowerString packages rule ≠ "" := fun empty => solid (String.toList_eq_nil_iff.mpr empty)
    exact ⟨rule, within, present, rfl⟩
  · rintro ⟨rule, within, solid, isWord⟩
    have lowered : (lowerString packages rule).toList ∈ loweredWords packages words :=
      List.mem_map_of_mem (f := fun word => (lowerString packages word).toList) within
    rw [isWord]
    refine ⟨lowered, ?_⟩
    intro empty
    exact solid (String.toList_eq_nil_iff.mp empty)

theorem hits_exist_iff {words : List String} {text : List Char} :
    hitsFrom (loweredWords packages words) 0 [] text ≠ [] ↔
      ∃ rule ∈ words, lowerString packages rule ≠ "" ∧ (lowerString packages rule).toList <:+: text := by
  constructor
  · intro found
    obtain ⟨hit, within⟩ := List.exists_mem_of_ne_nil _ found
    obtain ⟨listed, occurs⟩ := (mem_hits text).mp within
    obtain ⟨rule, inRules, solid, word⟩ := listed_iff.mp listed
    exact ⟨rule, inRules, solid, occurs_iff.mp ⟨hit, word, occurs⟩⟩
  · rintro ⟨rule, inRules, solid, within⟩
    obtain ⟨hit, word, occurs⟩ := occurs_iff.mpr within
    exact List.ne_nil_of_mem ((mem_hits text).mpr ⟨listed_iff.mpr ⟨rule, inRules, solid, word⟩, occurs⟩)

theorem search_lower_returns {cache : IdentityACCache} (reached : Reached packages cache) (order : MapOrder Char) (text : String)
    {words : List String} (free : ∀ word ∈ words, NulFree word) :
    ∃ found hits cache', Returns (fun fuel => acSearchLower packages order fuel cache text words) ((found, hits), cache') ∧
      Reached packages cache' ∧
      (found = true ↔ ∃ rule ∈ words, lowerString packages rule ≠ "" ∧ (lowerString packages rule).toList <:+: (lowerString packages text).toList) := by
  obtain ⟨m, cache', ⟨enough, built⟩, finds, _⟩ := get_or_build_returns (reached_sound reached) order free
  obtain ⟨plenty, searched⟩ := search_returns finds (lowerString packages text).toList true
  have next : Reached packages cache' := .search reached free (built enough (le_refl _))
  have some := @hits_exist_iff packages words (lowerString packages text).toList
  cases hits : hitsFrom (loweredWords packages words) 0 [] (lowerString packages text).toList with
  | nil =>
      refine ⟨false, [], cache', ⟨max enough plenty, ?_⟩, next, ?_⟩
      · intro fuel le
        have early := built fuel (by omega)
        have late := searched fuel (by omega)
        simp only [hits] at late
        simp [acSearchLower, early, late, kept]
      · rw [← some, hits]
        simp
  | cons first rest =>
      refine ⟨true, [String.ofList first.word], cache', ⟨max enough plenty, ?_⟩, next, ?_⟩
      · intro fuel le
        have early := built fuel (by omega)
        have late := searched fuel (by omega)
        simp only [hits] at late
        simp [acSearchLower, early, late, kept]
      · rw [← some, hits]
        simp

theorem match_returns {cache : IdentityACCache} (reached : Reached packages cache) (order : MapOrder Char) (text : String)
    {rules : List String} (plain : ∀ rule ∈ rules, Plain rule) (free : ∀ rule ∈ rules, NulFree rule) :
    ∃ found hits cache', Returns (fun fuel => matchConfiguredPatterns packages order fuel cache text rules) ((found, hits), cache') ∧
      Reached packages cache' ∧
      (found = true ↔ ∃ rule ∈ rules, lowerString packages rule ≠ "" ∧ (lowerString packages rule).toList <:+: (lowerString packages text).toList) := by
  have trimmed : (∃ rule ∈ (rules.map trimSpace).filter (· ≠ ""), lowerString packages rule ≠ "" ∧
        (lowerString packages rule).toList <:+: (lowerString packages text).toList) ↔
      ∃ rule ∈ rules, lowerString packages rule ≠ "" ∧ (lowerString packages rule).toList <:+: (lowerString packages text).toList := by
    constructor
    · rintro ⟨rule, within, solid, occurs⟩
      obtain ⟨raw, inRules, rfl⟩ := List.mem_map.mp (List.mem_filter.mp within).1
      rw [lower_trim] at solid occurs
      exact ⟨raw, inRules, solid, occurs⟩
    · rintro ⟨rule, within, solid, occurs⟩
      refine ⟨trimSpace rule, List.mem_filter.mpr ⟨List.mem_map_of_mem within, ?_⟩, ?_⟩
      · simpa using mt lower_blank.mpr solid
      · rw [lower_trim]
        exact ⟨solid, occurs⟩
  by_cases nothing : rules = [] ∨ text = ""
  · refine ⟨false, [], cache, ⟨0, fun fuel _ => if_pos nothing⟩, reached, ?_⟩
    refine ⟨fun found => absurd found Bool.false_ne_true, ?_⟩
    rintro ⟨rule, within, solid, occurs⟩
    rcases nothing with rfl | rfl
    · exact absurd within List.not_mem_nil
    · have empty : (lowerString packages "").toList = [] := rfl
      rw [empty, List.infix_nil] at occurs
      exact absurd (String.toList_eq_nil_iff.mp occurs) solid
  · by_cases none : (rules.map trimSpace).filter (· ≠ "") = []
    · refine ⟨false, [], cache, ⟨0, ?_⟩, reached, ?_⟩
      · intro fuel _
        simp only [matchConfiguredPatterns, if_neg nothing, sift_plain text rules plain, List.nil_append, none, if_true]
      · rw [← trimmed, none]
        simp
    · have freeTrimmed : ∀ word ∈ (rules.map trimSpace).filter (· ≠ ""), NulFree word := by
        intro word within
        obtain ⟨raw, inRules, rfl⟩ := List.mem_map.mp (List.mem_filter.mp within).1
        exact trim_nul_free (free raw inRules)
      obtain ⟨found, hits, cache', ⟨enough, ran⟩, next, iff⟩ := search_lower_returns reached order text freeTrimmed
      refine ⟨found, if found then hits else [], cache', ⟨enough, ?_⟩, next, iff.trans trimmed⟩
      intro fuel le
      have searched := ran fuel le
      simp only [matchConfiguredPatterns, if_neg nothing, sift_plain text rules plain, List.nil_append, if_neg none]
      simp only at searched
      rw [searched]
      cases found <;> rfl

-- The matcher of every list of words finds its occurrences in every text, and plain rules match where one of them occurs.
theorem occurrences_found (packages : TextPackages) (order : MapOrder Char) (words : List String) :
    (∃ m, Returns (fun fuel => buildMatcher packages order fuel words) m ∧ ∀ text : List Char, ∃ hits,
      Returns (fun fuel => m.multiPatternSearch fuel text false) hits ∧
      Returns (fun fuel => m.multiPatternSearch fuel text true) (hits.take 1) ∧
      hits.Pairwise Before ∧
      ∀ hit, hit ∈ hits ↔
        (∃ word ∈ words, lowerString packages word ≠ "" ∧ hit.word = (lowerString packages word).toList) ∧ OccursAt text hit) ∧
    ∀ cache, Reached packages cache → ∀ text, (∀ word ∈ words, Plain word) → (∀ word ∈ words, NulFree word) →
      ∃ found hits cache', Returns (fun fuel => matchConfiguredPatterns packages order fuel cache text words) ((found, hits), cache') ∧
        Reached packages cache' ∧
        (found = true ↔
          ∃ word ∈ words, lowerString packages word ≠ "" ∧ (lowerString packages word).toList <:+: (lowerString packages text).toList) := by
  constructor
  · obtain ⟨m, built, finds⟩ := @build_finds packages order words
    refine ⟨m, built, ?_⟩
    intro text
    refine ⟨hitsFrom (loweredWords packages words) 0 [] text, search_returns finds text false, search_returns finds text true,
      hits_ordered text 0 [], ?_⟩
    intro hit
    rw [mem_hits, listed_iff]
  · intro cache reached text plain free
    exact match_returns reached order text plain free

end results

def letterPackages : TextPackages := { lower := Char.toLower, compile := fun _ => none }

def listOrder : MapOrder Char := { range := fun _ children => children, perm := fun _ children => List.Perm.refl children }

theorem occurrences_found_she :
    ∃ found hits cache', Returns (fun fuel => matchConfiguredPatterns letterPackages listOrder fuel [] "Ushers" ["she", " HE "]) ((found, hits), cache') ∧
      Reached letterPackages cache' ∧ found = true := by
  obtain ⟨found, hits, cache', returns, reached, iff⟩ :=
    (occurrences_found letterPackages listOrder ["she", " HE "]).2 [] .empty "Ushers" (by decide) (by decide)
  exact ⟨found, hits, cache', returns, reached, iff.mpr ⟨" HE ", by simp, by decide, by decide⟩⟩

end CodeGo.Identity.SensitiveAC
