import Mathlib.Tactic.SplitIfs

set_option autoImplicit false

namespace CodeGo.Pricing

/- The token counts a billing expression is evaluated on. Counts are exact integers where the
   code has doubles; the fields of a usage that the normalisation does not read are left out. -/

structure InputTokenDetails where
  cachedTokens : Int := 0
  cachedCreationTokens : Int := 0
  imageTokens : Int := 0
  audioTokens : Int := 0
deriving DecidableEq, Repr

structure OutputTokenDetails where
  imageTokens : Int := 0
  audioTokens : Int := 0
deriving DecidableEq, Repr

structure Usage where
  promptTokens : Int
  completionTokens : Int
  usageSemantic : String := ""
  promptTokensDetails : InputTokenDetails := {}
  completionTokenDetails : OutputTokenDetails := {}
  claudeCacheCreation5mTokens : Int := 0
  claudeCacheCreation1hTokens : Int := 0
deriving DecidableEq, Repr

structure TokenParams where
  p : Int
  c : Int
  len : Int
  cr : Int
  cc : Int
  cc1h : Int
  img : Int
  imgO : Int
  ai : Int
  ao : Int
deriving DecidableEq, Repr

-- The names the evaluation environment gives to the counts.
def TokenParams.env (params : TokenParams) (name : String) : Option Int :=
  match name with
  | "p" => some params.p
  | "c" => some params.c
  | "len" => some params.len
  | "cr" => some params.cr
  | "cc" => some params.cc
  | "cc1h" => some params.cc1h
  | "img" => some params.img
  | "img_o" => some params.imgO
  | "ai" => some params.ai
  | "ao" => some params.ao
  | _ => none

def excluded (usedVars : String → Bool) (name : String) (tokens : Int) : Int := if usedVars name then tokens else 0

def buildTieredTokenParams (usage : Usage) (isClaudeUsageSemantic : Bool) (usedVars : String → Bool) : TokenParams :=
  let cr := usage.promptTokensDetails.cachedTokens
  let cc5m := if usage.usageSemantic = "anthropic" then usage.claudeCacheCreation5mTokens else usage.promptTokensDetails.cachedCreationTokens
  let cc1h := if usage.usageSemantic = "anthropic" then usage.claudeCacheCreation1hTokens else 0
  let img := usage.promptTokensDetails.imageTokens
  let ai := usage.promptTokensDetails.audioTokens
  let imgO := usage.completionTokenDetails.imageTokens
  let ao := usage.completionTokenDetails.audioTokens
  let inputLen := if isClaudeUsageSemantic then usage.promptTokens + cr + cc5m + cc1h else usage.promptTokens
  let p := if isClaudeUsageSemantic then usage.promptTokens
    else usage.promptTokens - excluded usedVars "cr" cr - excluded usedVars "cc" cc5m - excluded usedVars "cc1h" cc1h -
      excluded usedVars "img" img - excluded usedVars "ai" ai
  let c := if isClaudeUsageSemantic then usage.completionTokens
    else usage.completionTokens - excluded usedVars "img_o" imgO - excluded usedVars "ao" ao
  { p := if p < 0 then 0 else p, c := if c < 0 then 0 else c, len := inputLen, cr := cr, cc := cc5m, cc1h := cc1h, img := img,
    imgO := imgO, ai := ai, ao := ao }

structure Breakdown where
  text : Nat
  cacheRead : Nat
  cacheCreation5m : Nat
  cacheCreation1h : Nat
  completion : Nat
deriving DecidableEq, Repr

-- The ways an upstream reports one breakdown. An OpenAI style report that was made from a Claude
-- one keeps the split by time to live, and a Claude style report may come unmarked, known only
-- by the format of its request.
inductive ReportStyle where
  | openAI
  | openAIFromClaude
  | claudeSplit
  | claudeUnsplit
  | claudeUnmarked
deriving DecidableEq, Repr

def ReportStyle.isClaude : ReportStyle → Bool
  | .openAI | .openAIFromClaude => false
  | .claudeSplit | .claudeUnsplit | .claudeUnmarked => true

def ReportStyle.semantic : ReportStyle → String
  | .openAI | .claudeUnmarked => ""
  | .openAIFromClaude => "openai"
  | .claudeSplit | .claudeUnsplit => "anthropic"

def ReportStyle.isSplit : ReportStyle → Bool
  | .openAI | .claudeUnsplit => false
  | .openAIFromClaude | .claudeSplit | .claudeUnmarked => true

def report (breakdown : Breakdown) (style : ReportStyle) : Usage where
  promptTokens := if style.isClaude then breakdown.text
    else breakdown.text + breakdown.cacheRead + breakdown.cacheCreation5m + breakdown.cacheCreation1h
  completionTokens := breakdown.completion
  usageSemantic := style.semantic
  promptTokensDetails :=
    { cachedTokens := breakdown.cacheRead, cachedCreationTokens := breakdown.cacheCreation5m + breakdown.cacheCreation1h }
  claudeCacheCreation5mTokens := if style.isSplit then breakdown.cacheCreation5m else 0
  claudeCacheCreation1hTokens := if style.isSplit then breakdown.cacheCreation1h else 0

def reported (usedVars : String → Bool) (breakdown : Breakdown) (style : ReportStyle) : TokenParams :=
  buildTieredTokenParams (report breakdown style) style.isClaude usedVars

-- The input tokens an expression counts, over the variables it uses.
def counted (usedVars : String → Bool) (params : TokenParams) : Int :=
  params.p + excluded usedVars "cr" params.cr + excluded usedVars "cc" params.cc + excluded usedVars "cc1h" params.cc1h

structure Agnostic (usedVars : String → Bool) (breakdown : Breakdown) : Prop where
  same : ∀ first second name, usedVars name = true →
    (reported usedVars breakdown first).env name = (reported usedVars breakdown second).env name
  once : usedVars "p" = true → ∀ style, counted usedVars (reported usedVars breakdown style) =
    breakdown.text + breakdown.cacheRead + breakdown.cacheCreation5m + breakdown.cacheCreation1h

-- No cache creation where a variable tells it apart, and no cache read that `p` alone would price.
structure Uncached (usedVars : String → Bool) (breakdown : Breakdown) : Prop where
  creation : usedVars "p" = true ∨ usedVars "cc" = true ∨ usedVars "len" = true →
    breakdown.cacheCreation5m = 0 ∧ breakdown.cacheCreation1h = 0
  hourly : usedVars "cc1h" = true → breakdown.cacheCreation1h = 0
  read : usedVars "p" = true → usedVars "cr" = false → breakdown.cacheRead = 0

section Reports

variable (usedVars : String → Bool) (breakdown : Breakdown)

theorem excluded_bounds (name : String) (tokens : Int) (counted : 0 ≤ tokens) :
    0 ≤ excluded usedVars name tokens ∧ excluded usedVars name tokens ≤ tokens := by
  unfold excluded
  split <;> omega

theorem excluded_zero (name : String) : excluded usedVars name 0 = 0 := by simp [excluded]

-- The cache creation tokens a style shows to `cc` and to `cc1h`.
def ReportStyle.creation (breakdown : Breakdown) : ReportStyle → Int × Int
  | .claudeSplit => (breakdown.cacheCreation5m, breakdown.cacheCreation1h)
  | .claudeUnsplit => (0, 0)
  | _ => (breakdown.cacheCreation5m + breakdown.cacheCreation1h, 0)

theorem reported_openAI (style : ReportStyle) (openAI : style.isClaude = false) :
    reported usedVars breakdown style =
      { p := breakdown.text + (breakdown.cacheRead - excluded usedVars "cr" breakdown.cacheRead) +
          (breakdown.cacheCreation5m + breakdown.cacheCreation1h -
            excluded usedVars "cc" (breakdown.cacheCreation5m + breakdown.cacheCreation1h)),
        c := breakdown.completion,
        len := breakdown.text + breakdown.cacheRead + breakdown.cacheCreation5m + breakdown.cacheCreation1h,
        cr := breakdown.cacheRead, cc := breakdown.cacheCreation5m + breakdown.cacheCreation1h, cc1h := 0, img := 0, imgO := 0, ai := 0,
        ao := 0 } := by
  have read := excluded_bounds usedVars "cr" breakdown.cacheRead (by omega)
  have creation := excluded_bounds usedVars "cc" (breakdown.cacheCreation5m + breakdown.cacheCreation1h) (by omega)
  have marked : style.semantic ≠ "anthropic" := by cases style <;> simp_all [ReportStyle.semantic, ReportStyle.isClaude]
  simp only [reported, report, buildTieredTokenParams, openAI, if_neg marked, Bool.false_eq_true, if_false, excluded_zero, Int.sub_zero]
  congr 1
  · rw [if_neg (by omega)]
    omega

theorem reported_claude (style : ReportStyle) (claude : style.isClaude = true) :
    reported usedVars breakdown style =
      { p := breakdown.text, c := breakdown.completion,
        len := breakdown.text + breakdown.cacheRead + (style.creation breakdown).1 + (style.creation breakdown).2,
        cr := breakdown.cacheRead, cc := (style.creation breakdown).1, cc1h := (style.creation breakdown).2, img := 0, imgO := 0, ai := 0,
        ao := 0 } := by
  have text : ¬ (breakdown.text : Int) < 0 := by omega
  have completion : ¬ (breakdown.completion : Int) < 0 := by omega
  cases style with
  | openAI => cases claude
  | openAIFromClaude => cases claude
  | claudeSplit | claudeUnsplit | claudeUnmarked =>
      simp [reported, report, buildTieredTokenParams, ReportStyle.isClaude, ReportStyle.semantic, ReportStyle.isSplit, ReportStyle.creation,
        text, completion]

theorem excluded_used (name : String) (tokens : Int) (used : usedVars name = true) : excluded usedVars name tokens = tokens := by
  simp [excluded, used]

theorem excluded_unused (name : String) (tokens : Int) (unused : usedVars name = false) : excluded usedVars name tokens = 0 := by
  simp [excluded, unused]

theorem reported_creation (style : ReportStyle) :
    (reported usedVars breakdown style).len = breakdown.text + breakdown.cacheRead + (style.creation breakdown).1 + (style.creation breakdown).2 ∧
      (reported usedVars breakdown style).cc = (style.creation breakdown).1 ∧
      (reported usedVars breakdown style).cc1h = (style.creation breakdown).2 := by
  cases claude : style.isClaude with
  | true =>
      rw [reported_claude usedVars breakdown style claude]
      exact ⟨rfl, rfl, rfl⟩
  | false =>
      have whole : style.creation breakdown = ((breakdown.cacheCreation5m : Int) + breakdown.cacheCreation1h, 0) := by
        cases style <;> first | rfl | cases claude
      rw [reported_openAI usedVars breakdown style claude, whole]
      refine ⟨?_, rfl, rfl⟩
      dsimp only
      omega

theorem reported_same (first second : ReportStyle) :
    (reported usedVars breakdown first).c = (reported usedVars breakdown second).c ∧
      (reported usedVars breakdown first).cr = (reported usedVars breakdown second).cr ∧
      (reported usedVars breakdown first).img = (reported usedVars breakdown second).img ∧
      (reported usedVars breakdown first).imgO = (reported usedVars breakdown second).imgO ∧
      (reported usedVars breakdown first).ai = (reported usedVars breakdown second).ai ∧
      (reported usedVars breakdown first).ao = (reported usedVars breakdown second).ao := by
  have plain : ∀ style, (reported usedVars breakdown style).c = breakdown.completion ∧ (reported usedVars breakdown style).cr = breakdown.cacheRead ∧
      (reported usedVars breakdown style).img = 0 ∧ (reported usedVars breakdown style).imgO = 0 ∧ (reported usedVars breakdown style).ai = 0 ∧
      (reported usedVars breakdown style).ao = 0 := by
    intro style
    cases claude : style.isClaude with
    | true => simp [reported_claude usedVars breakdown style claude]
    | false => simp [reported_openAI usedVars breakdown style claude]
  obtain ⟨c, cr, img, imgO, ai, ao⟩ := plain second
  rw [c, cr, img, imgO, ai, ao]
  exact plain first

variable {usedVars breakdown}

-- With `p` in use it is the text in every style.
theorem Uncached.prompt (uncached : Uncached usedVars breakdown) (used : usedVars "p" = true) (style : ReportStyle) :
    (reported usedVars breakdown style).p = breakdown.text := by
  obtain ⟨none5m, none1h⟩ := uncached.creation (.inl used)
  cases claude : style.isClaude with
  | true => rw [reported_claude usedVars breakdown style claude]
  | false =>
      rw [reported_openAI usedVars breakdown style claude]
      have creation : excluded usedVars "cc" ((breakdown.cacheCreation5m : Int) + breakdown.cacheCreation1h) = 0 := by
        rw [none5m, none1h]
        exact excluded_zero usedVars "cc"
      have read : (breakdown.cacheRead : Int) - excluded usedVars "cr" breakdown.cacheRead = 0 := by
        cases priced : usedVars "cr" with
        | true => rw [excluded_used usedVars "cr" _ priced, Int.sub_self]
        | false =>
            rw [uncached.read used priced]
            simp [excluded_zero]
      dsimp only
      omega

-- What the style shows to the variables that are in use.
theorem Uncached.creation_seen (uncached : Uncached usedVars breakdown) (style : ReportStyle) :
    (usedVars "len" = true → (reported usedVars breakdown style).len = breakdown.text + breakdown.cacheRead) ∧
      (usedVars "cc" = true → (reported usedVars breakdown style).cc = 0) ∧
      (usedVars "cc1h" = true → (reported usedVars breakdown style).cc1h = 0) := by
  obtain ⟨len, cc, cc1h⟩ := reported_creation usedVars breakdown style
  rw [len, cc, cc1h]
  refine ⟨fun used => ?_, fun used => ?_, fun used => ?_⟩
  · obtain ⟨none5m, none1h⟩ := uncached.creation (.inr (.inr used))
    cases style <;> simp [ReportStyle.creation, none5m, none1h]
  · obtain ⟨none5m, none1h⟩ := uncached.creation (.inr (.inl used))
    cases style <;> simp [ReportStyle.creation, none5m, none1h]
  · have none1h := uncached.hourly used
    cases style <;> simp [ReportStyle.creation, none1h]

theorem Uncached.agnostic (uncached : Uncached usedVars breakdown) : Agnostic usedVars breakdown := by
  refine ⟨fun first second name used => ?_, fun used style => ?_⟩
  · obtain ⟨c, cr, img, imgO, ai, ao⟩ := reported_same usedVars breakdown first second
    obtain ⟨lenFirst, ccFirst, hourlyFirst⟩ := uncached.creation_seen first
    obtain ⟨lenSecond, ccSecond, hourlySecond⟩ := uncached.creation_seen second
    unfold TokenParams.env
    split
    · rw [uncached.prompt used first, uncached.prompt used second]
    · rw [c]
    · rw [lenFirst used, lenSecond used]
    · rw [cr]
    · rw [ccFirst used, ccSecond used]
    · rw [hourlyFirst used, hourlySecond used]
    · rw [img]
    · rw [imgO]
    · rw [ai]
    · rw [ao]
    · rfl
  · obtain ⟨none5m, none1h⟩ := uncached.creation (.inl used)
    obtain ⟨_, cc, cc1h⟩ := uncached.creation_seen style
    have cr := (reported_same usedVars breakdown style .claudeSplit).2.1
    have shown : (reported usedVars breakdown .claudeSplit).cr = breakdown.cacheRead := by rw [reported_claude _ _ _ rfl]
    have noCreation : excluded usedVars "cc" (reported usedVars breakdown style).cc = 0 := by
      unfold excluded
      split
      · rename_i priced
        exact cc priced
      · rfl
    have noHourly : excluded usedVars "cc1h" (reported usedVars breakdown style).cc1h = 0 := by
      unfold excluded
      split
      · rename_i priced
        exact cc1h priced
      · rfl
    have read : excluded usedVars "cr" (breakdown.cacheRead : Int) = breakdown.cacheRead := by
      cases priced : usedVars "cr" with
      | true => exact excluded_used usedVars "cr" _ priced
      | false =>
          rw [uncached.read used priced]
          exact excluded_zero usedVars "cr"
    unfold counted
    rw [uncached.prompt used style, noCreation, noHourly, cr, shown, read]
    omega

theorem Agnostic.uncached (agnostic : Agnostic usedVars breakdown) : Uncached usedVars breakdown := by
  have cc : usedVars "cc" = true → breakdown.cacheCreation5m = 0 ∧ breakdown.cacheCreation1h = 0 := by
    intro used
    have same := agnostic.same .openAI .claudeUnsplit "cc" used
    rw [reported_openAI _ _ .openAI rfl, reported_claude _ _ .claudeUnsplit rfl] at same
    simp only [TokenParams.env, ReportStyle.creation, Option.some.injEq] at same
    omega
  have prompt : usedVars "p" = true → (breakdown.cacheRead : Int) - excluded usedVars "cr" breakdown.cacheRead = 0 ∧
      (breakdown.cacheCreation5m : Int) + breakdown.cacheCreation1h -
        excluded usedVars "cc" (breakdown.cacheCreation5m + breakdown.cacheCreation1h) = 0 := by
    intro used
    have same := agnostic.same .openAI .claudeSplit "p" used
    rw [reported_openAI _ _ .openAI rfl, reported_claude _ _ .claudeSplit rfl] at same
    simp only [TokenParams.env, Option.some.injEq] at same
    have read := excluded_bounds usedVars "cr" breakdown.cacheRead (by omega)
    have creation := excluded_bounds usedVars "cc" (breakdown.cacheCreation5m + breakdown.cacheCreation1h) (by omega)
    omega
  refine ⟨?_, fun used => ?_, fun used unpriced => ?_⟩
  · rintro (used | used | used)
    · cases priced : usedVars "cc" with
      | true => exact cc priced
      | false =>
          have rest := (prompt used).2
          rw [excluded_unused usedVars "cc" _ priced] at rest
          omega
    · exact cc used
    · have same := agnostic.same .openAI .claudeUnsplit "len" used
      rw [reported_openAI _ _ .openAI rfl, reported_claude _ _ .claudeUnsplit rfl] at same
      simp only [TokenParams.env, ReportStyle.creation, Option.some.injEq] at same
      omega
  · have same := agnostic.same .openAI .claudeSplit "cc1h" used
    rw [reported_openAI _ _ .openAI rfl, reported_claude _ _ .claudeSplit rfl] at same
    simp only [TokenParams.env, ReportStyle.creation, Option.some.injEq] at same
    omega
  · have rest := (prompt used).1
    rw [excluded_unused usedVars "cr" _ unpriced] at rest
    omega

end Reports

theorem agnostic_iff_uncached (usedVars : String → Bool) (breakdown : Breakdown) : Agnostic usedVars breakdown ↔ Uncached usedVars breakdown :=
  ⟨Agnostic.uncached, Uncached.agnostic⟩

-- An expression over `p` and `c` alone leaves out what a Claude style report counts apart, and
-- one that prices every category misses the creation tokens that are not split.
def promptAndCompletion (name : String) : Bool := name = "p" ∨ name = "c"

def everyCategory (name : String) : Bool := name ∈ ["p", "c", "len", "cr", "cc", "cc1h"]

theorem cached_tokens_are_free : ¬ Agnostic promptAndCompletion ⟨100, 50, 0, 0, 10⟩ ∧ ¬ Agnostic everyCategory ⟨100, 0, 20, 0, 10⟩ := by
  constructor
  · intro agnostic
    exact absurd (agnostic.same .openAI .claudeSplit "p" rfl) (by decide)
  · intro agnostic
    exact absurd (agnostic.same .claudeSplit .claudeUnsplit "cc" rfl) (by decide)

end CodeGo.Pricing
