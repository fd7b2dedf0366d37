import CodeGo.Lib.Text
import Mathlib.Algebra.Ring.Nat

set_option autoImplicit false

namespace CodeGo.Gateway.Pacing

def firstStreamChunkTokenBudget : Nat := 16

def streamChunkTokenBudget : Nat := 128

structure StreamPacer where
  started : Bool := false
  firstContentAt : Int := 0
  lastContentAt : Int := 0
  estimatedTokens : Nat := 0
  idle : started = false → estimatedTokens = 0 := by decide
deriving Repr

-- The counters of both loops over the characters.
structure Count where
  tokens : Nat := 0
  latinRunes : Nat := 0
deriving DecidableEq, Repr

def isLatin (char : Char) : Bool := decide (char.toNat ≤ 0x7F) && (char.isAlpha || char.isDigit)

def Count.flushLatin (count : Count) : Count :=
  if 0 < count.latinRunes then ⟨count.tokens + (count.latinRunes + 3) / 4, 0⟩ else count

def Count.add (count : Count) (char : Char) : Count :=
  if isLatin char then ⟨count.tokens, count.latinRunes + 1⟩
  else
    let flushed := count.flushLatin
    if Text.isSpace char then flushed else ⟨flushed.tokens + 1, flushed.latinRunes⟩

def Count.currentTokens (count : Count) : Nat := count.flushLatin.tokens

def counted (chars : List Char) : Count := chars.foldl Count.add {}

def estimateStreamTokens (text : String) : Nat := (counted text.toList).currentTokens

def splitLoop : (budget : Nat) → (current : List Char) → Count → List Char → List String
  | _, current, _, [] => if current = [] then [] else [String.ofList current]
  | budget, current, count, char :: rest =>
      if budget ≤ (count.add char).currentTokens then
        String.ofList (current ++ [char]) :: splitLoop streamChunkTokenBudget [] {} rest
      else splitLoop budget (current ++ [char]) (count.add char) rest

namespace StreamPacer

def budget (p : StreamPacer) : Nat := if p.started then streamChunkTokenBudget else firstStreamChunkTokenBudget

def splitText (p : StreamPacer) (text : String) : List String :=
  if text = "" then []
  else if estimateStreamTokens text ≤ p.budget then [text]
  else splitLoop p.budget [] {} text.toList

-- The error of the context, if it has ended, and the state left.
def pace (p : StreamPacer) (ctxErr : Option String) (now : Int) (text : String) : Option String × StreamPacer :=
  if text = "" then (none, p)
  else
    match ctxErr with
    | some err => (some err, p)
    | none =>
        let tokens := estimateStreamTokens text
        if tokens = 0 then (none, p)
        else if p.started = false then
          (none, ⟨true, now, now, tokens, fun idle => by simp at idle⟩)
        else (none, ⟨true, p.firstContentAt, now, p.estimatedTokens + tokens, fun idle => by simp at idle⟩)

-- Pacing one fragment after the other, at the times the clock shows, while the context lives.
def paceAll (clock : Nat → Int) : Nat → StreamPacer → List String → StreamPacer
  | _, p, [] => p
  | turn, p, fragment :: rest => paceAll clock (turn + 1) (p.pace none (clock turn) fragment).2 rest

def outputTokens (p : StreamPacer) : Nat := p.estimatedTokens

end StreamPacer

-- Every fragment but the last reaches its budget exactly; the last stays within it.
def WithinBudgets : Nat → List String → Prop
  | _, [] => True
  | budget, [last] => estimateStreamTokens last ≤ budget
  | budget, fragment :: next :: rest =>
      estimateStreamTokens fragment = budget ∧ WithinBudgets streamChunkTokenBudget (next :: rest)

def estimates (fragments : List String) : Nat := (fragments.map estimateStreamTokens).sum

section Counts

theorem flush_tokens (count : Count) : count.flushLatin.tokens = count.tokens + (count.latinRunes + 3) / 4 := by
  unfold Count.flushLatin
  split
  · rfl
  · omega

theorem flush_runes (count : Count) : count.flushLatin.latinRunes = 0 := by
  unfold Count.flushLatin
  split
  · rfl
  · omega

theorem flush_eq (count : Count) : count.flushLatin = ⟨count.currentTokens, 0⟩ := by
  rw [← flush_runes count]
  rfl

theorem current_tokens (count : Count) : count.currentTokens = count.tokens + (count.latinRunes + 3) / 4 := flush_tokens count

-- What a character does to the counters.
theorem add_cases (char : Char) :
    (∀ count : Count, count.add char = ⟨count.tokens, count.latinRunes + 1⟩) ∨
      ∃ token, token ≤ 1 ∧ ∀ count : Count, count.add char = ⟨count.currentTokens + token, 0⟩ := by
  by_cases latin : isLatin char = true
  · left
    intro count
    rw [Count.add, if_pos latin]
  · right
    by_cases blank : Text.isSpace char = true
    · refine ⟨0, by omega, ?_⟩
      intro count
      rw [Count.add, if_neg latin, if_pos blank, flush_eq, Nat.add_zero]
    · refine ⟨1, le_rfl, ?_⟩
      intro count
      rw [Count.add, if_neg latin, if_neg blank, flush_eq]

-- A character raises the estimate by at most one token.
theorem add_bounds (count : Count) (char : Char) :
    count.currentTokens ≤ (count.add char).currentTokens ∧ (count.add char).currentTokens ≤ count.currentTokens + 1 := by
  rcases add_cases char with latin | ⟨token, small, broken⟩
  · rw [latin count, current_tokens, current_tokens]
    dsimp only
    omega
  · have after := current_tokens (count.add char)
    rw [broken count] at after ⊢
    dsimp only at after
    omega

theorem counted_snoc (chars : List Char) (char : Char) : counted (chars ++ [char]) = (counted chars).add char := by
  rw [counted, List.foldl_append]
  rfl

-- The same characters counted on from `start` and counted anew: the same run of letters stands open, until a break
-- closes both and leaves them at most one token apart.
def Apart (start whole part : Count) : Prop :=
  (whole.tokens = start.tokens + part.tokens ∧ part.tokens = 0 ∧ whole.latinRunes = start.latinRunes + part.latinRunes) ∨
    (whole.latinRunes = part.latinRunes ∧ whole.tokens ≤ start.currentTokens + part.tokens ∧
      start.currentTokens + part.tokens ≤ whole.tokens + 1)

theorem apart_step (start whole part : Count) (char : Char) (apart : Apart start whole part) :
    Apart start (whole.add char) (part.add char) := by
  rcases add_cases char with latin | ⟨token, small, broken⟩
  · rw [latin whole, latin part]
    unfold Apart at apart ⊢
    dsimp only
    omega
  · rw [broken whole, broken part]
    right
    have before := current_tokens start
    have long := current_tokens whole
    have short := current_tokens part
    unfold Apart at apart
    refine ⟨rfl, ?_, ?_⟩
    · dsimp only
      omega
    · dsimp only
      omega

theorem apart_run (start whole part : Count) (chars : List Char) (apart : Apart start whole part) :
    Apart start (chars.foldl Count.add whole) (chars.foldl Count.add part) := by
  induction chars generalizing whole part with
  | nil => exact apart
  | cons char rest ih => exact ih _ _ (apart_step start whole part char apart)

theorem apart_bounds (start whole part : Count) (apart : Apart start whole part) :
    whole.currentTokens ≤ start.currentTokens + part.currentTokens ∧
      start.currentTokens + part.currentTokens ≤ whole.currentTokens + 1 := by
  have before := current_tokens start
  have long := current_tokens whole
  have short := current_tokens part
  unfold Apart at apart
  omega

-- Cutting a text in two costs at most one token.
theorem counted_append (front back : List Char) :
    (counted (front ++ back)).currentTokens ≤ (counted front).currentTokens + (counted back).currentTokens ∧
      (counted front).currentTokens + (counted back).currentTokens ≤ (counted (front ++ back)).currentTokens + 1 := by
  have fresh : Apart (counted front) (counted front) {} := .inl ⟨rfl, rfl, rfl⟩
  have run := apart_run (counted front) (counted front) {} back fresh
  rw [counted, List.foldl_append]
  exact apart_bounds _ _ _ run

end Counts

section Split

theorem estimates_bounds (fragments : List String) :
    estimateStreamTokens (String.join fragments) ≤ estimates fragments ∧
      estimates fragments ≤ estimateStreamTokens (String.join fragments) + (fragments.length - 1) := by
  induction fragments with
  | nil => exact ⟨le_rfl, le_rfl⟩
  | cons fragment rest ih =>
      have whole : estimates (fragment :: rest) = estimateStreamTokens fragment + estimates rest := by
        rw [estimates, List.map_cons, List.sum_cons]
        rfl
      have cut := counted_append fragment.toList (String.join rest).toList
      have joined : estimateStreamTokens (String.join (fragment :: rest)) =
          (counted (fragment.toList ++ (String.join rest).toList)).currentTokens := by
        rw [estimateStreamTokens, String.join_cons, String.toList_append]
      rw [whole, joined]
      unfold estimateStreamTokens at ih ⊢
      cases rest with
      | nil =>
          simp only [String.join_nil, String.toList_empty, List.append_nil, estimates, List.map_nil, List.sum_nil]
          simp
      | cons next rest =>
          simp only [List.length_cons] at ih ⊢
          omega

variable {budget : Nat} {current : List Char}

-- The loop keeps the fragment it writes below its budget; one character more reaches the budget exactly.
theorem split_loop (rest : List Char) (below : (counted current).currentTokens < budget) :
    WithinBudgets budget (splitLoop budget current (counted current) rest) ∧
      (splitLoop budget current (counted current) rest).flatMap String.toList = current ++ rest ∧
      ∀ fragment ∈ splitLoop budget current (counted current) rest, fragment ≠ "" := by
  induction rest generalizing budget current with
  | nil =>
      rw [splitLoop]
      by_cases empty : current = []
      · rw [if_pos empty, empty]
        exact ⟨trivial, rfl, fun _ listed => absurd listed List.not_mem_nil⟩
      · rw [if_neg empty]
        refine ⟨?_, by simp, ?_⟩
        · rw [WithinBudgets, estimateStreamTokens, String.toList_ofList]
          exact below.le
        · intro fragment listed
          rw [List.mem_singleton.mp listed]
          simpa using empty
  | cons char rest ih =>
      rw [splitLoop, ← counted_snoc]
      by_cases full : budget ≤ (counted (current ++ [char])).currentTokens
      · rw [if_pos full]
        have anew : (counted []).currentTokens < streamChunkTokenBudget := by decide
        obtain ⟨within, joined, nonempty⟩ := ih anew
        have filled : estimateStreamTokens (String.ofList (current ++ [char])) = budget := by
          have reached := (add_bounds (counted current) char).2
          rw [← counted_snoc] at reached
          rw [estimateStreamTokens, String.toList_ofList]
          omega
        change WithinBudgets _ (splitLoop _ _ {} _) at within
        change (splitLoop _ _ {} _).flatMap _ = _ at joined
        refine ⟨?_, ?_, ?_⟩
        · cases later : splitLoop streamChunkTokenBudget [] {} rest with
          | nil =>
              rw [WithinBudgets]
              exact filled.le
          | cons next others =>
              rw [later] at within
              exact ⟨filled, within⟩
        · rw [List.flatMap_cons, joined, String.toList_ofList]
          simp
        · intro fragment listed
          rcases List.mem_cons.mp listed with rfl | listed
          · simp
          · exact nonempty fragment listed
      · rw [if_neg full]
        obtain ⟨within, joined, nonempty⟩ := ih (not_le.mp full)
        refine ⟨within, ?_, nonempty⟩
        rw [joined, List.append_assoc, List.singleton_append]

end Split

namespace StreamPacer

variable (p : StreamPacer)

theorem budget_pos : 0 < p.budget := by
  unfold budget
  split <;> decide

theorem split_within (text : String) :
    WithinBudgets p.budget (p.splitText text) ∧ String.join (p.splitText text) = text ∧ ∀ fragment ∈ p.splitText text, fragment ≠ "" := by
  unfold splitText
  by_cases empty : text = ""
  · rw [if_pos empty, empty]
    exact ⟨trivial, String.join_nil, fun _ listed => absurd listed List.not_mem_nil⟩
  · rw [if_neg empty]
    by_cases small : estimateStreamTokens text ≤ p.budget
    · rw [if_pos small]
      refine ⟨small, by simp, ?_⟩
      intro fragment listed
      rwa [List.mem_singleton.mp listed]
    · rw [if_neg small]
      have below : (counted []).currentTokens < p.budget := p.budget_pos
      obtain ⟨within, joined, nonempty⟩ := split_loop text.toList below
      refine ⟨within, ?_, nonempty⟩
      rw [← String.toList_inj, String.toList_join]
      exact joined

-- Each fragment's estimate is accumulated, the first one as well.
theorem pace_tokens (now : Int) (text : String) :
    (p.pace none now text).2.estimatedTokens = p.estimatedTokens + estimateStreamTokens text := by
  unfold pace
  by_cases empty : text = ""
  · rw [if_pos empty, empty]
    rfl
  · rw [if_neg empty]
    dsimp only
    split
    · rename_i nothing
      rw [nothing]
      rfl
    · split
      · rename_i fresh
        have idle := p.idle fresh
        dsimp only
        omega
      · rfl

theorem paced_tokens (clock : Nat → Int) (turn : Nat) (fragments : List String) :
    (paceAll clock turn p fragments).outputTokens = p.outputTokens + estimates fragments := by
  induction fragments generalizing p turn with
  | nil => rfl
  | cons fragment rest ih =>
      rw [paceAll, ih]
      unfold outputTokens
      rw [pace_tokens]
      simp only [estimates, List.map_cons, List.sum_cons]
      omega

end StreamPacer

-- What splitting a text and pacing its fragments comes to.
structure SplitLaw (p : StreamPacer) (clock : Nat → Int) (text : String) (fragments : List String) : Prop where
  joined : String.join fragments = text
  nonempty : ∀ fragment ∈ fragments, fragment ≠ ""
  first : ∀ fragment ∈ fragments.head?, estimateStreamTokens fragment ≤ if p.started then 128 else 16
  later : ∀ fragment ∈ fragments.tail, estimateStreamTokens fragment ≤ 128
  full : ∀ front last, fragments = front ++ [last] →
    ∀ i fragment, front[i]? = some fragment → estimateStreamTokens fragment = if i = 0 ∧ p.started = false then 16 else 128
  accumulated : ∃ sum, (p.paceAll clock 0 fragments).outputTokens = p.outputTokens + sum ∧ estimateStreamTokens text ≤ sum ∧
    sum ≤ estimateStreamTokens text + (fragments.length - 1)

section Law

theorem within_first (budget : Nat) (fragments : List String) (within : WithinBudgets budget fragments) :
    ∀ fragment ∈ fragments.head?, estimateStreamTokens fragment ≤ budget := by
  intro fragment first
  cases fragments with
  | nil => cases first
  | cons head rest =>
      obtain rfl : head = fragment := by simpa using first
      cases rest with
      | nil => exact within
      | cons next rest => exact within.1.le

theorem within_tail (budget : Nat) (fragment : String) (rest : List String) (within : WithinBudgets budget (fragment :: rest)) :
    WithinBudgets streamChunkTokenBudget rest := by
  cases rest with
  | nil => trivial
  | cons next rest => exact within.2

theorem within_all (fragments : List String) (within : WithinBudgets streamChunkTokenBudget fragments) :
    ∀ fragment ∈ fragments, estimateStreamTokens fragment ≤ streamChunkTokenBudget := by
  induction fragments with
  | nil => exact fun _ listed => absurd listed List.not_mem_nil
  | cons head rest ih =>
      rw [List.forall_mem_cons]
      exact ⟨within_first _ _ within head rfl, ih (within_tail _ head rest within)⟩

theorem within_full (budget : Nat) (front : List String) (last : String) (within : WithinBudgets budget (front ++ [last])) :
    ∀ i fragment, front[i]? = some fragment → estimateStreamTokens fragment = if i = 0 then budget else streamChunkTokenBudget := by
  induction front generalizing budget with
  | nil =>
      intro i fragment found
      simp at found
  | cons head rest ih =>
      intro i fragment found
      cases i with
      | zero =>
          obtain rfl : head = fragment := by simpa using found
          rw [if_pos rfl]
          cases rest with
          | nil => exact within.1
          | cons next rest => exact within.1
      | succ i =>
          rw [if_neg (Nat.succ_ne_zero i)]
          have later := ih _ (within_tail budget head _ within) i fragment (by simpa using found)
          rwa [ite_self] at later

theorem split_law (p : StreamPacer) (clock : Nat → Int) (text : String) : SplitLaw p clock text (p.splitText text) := by
  obtain ⟨within, joined, nonempty⟩ := p.split_within text
  refine ⟨joined, nonempty, ?_, ?_, ?_, ?_⟩
  · exact within_first _ _ within
  · cases fragments : p.splitText text with
    | nil => exact fun _ listed => absurd listed List.not_mem_nil
    | cons head rest =>
        rw [fragments] at within
        exact within_all rest (within_tail _ head rest within)
  · intro front last parts i fragment found
    rw [parts] at within
    rw [within_full _ front last within i fragment found, StreamPacer.budget]
    cases p.started <;> by_cases first : i = 0 <;> simp [first, streamChunkTokenBudget, firstStreamChunkTokenBudget]
  · refine ⟨_, p.paced_tokens clock 0 _, ?_⟩
    have bounds := estimates_bounds (p.splitText text)
    rwa [joined] at bounds

end Law

end CodeGo.Gateway.Pacing
