import Mathlib.Data.List.Count
import Mathlib.Logic.Function.Basic

set_option autoImplicit false

/- A map from keys to objects that are made on demand and numbered as they are made, and the references that are held
   to them: everyone who refers to an object does so under the key it stands at. An object may own a signal that is
   fired once and then replaced by a new one. -/

namespace Registry

variable {κ : Type} {map : κ → Option Nat} {size : Nat} {refers after : κ → Nat → Prop} {key : κ} {o : Nat}

structure Linked (map : κ → Option Nat) (size : Nat) (refers : κ → Nat → Prop) : Prop where
  known : ∀ key o, map key = some o → o < size
  apart : ∀ key other o, map key = some o → map other = some o → key = other
  linked : ∀ key o, refers key o → map key = some o

theorem linked_empty (nobody : ∀ key o, ¬ refers key o) : Linked (fun _ : κ => none) 0 refers :=
  ⟨fun _ _ found => absurd found (by simp), fun _ _ _ found => absurd found (by simp), fun key o held => absurd held (nobody key o)⟩

theorem Linked.mono (linked : Linked map size refers) (fewer : ∀ key o, after key o → refers key o) : Linked map size after :=
  ⟨linked.known, linked.apart, fun key o held => linked.linked key o (fewer key o held)⟩

theorem Linked.joined (linked : Linked map size refers) (found : map key = some o)
    (more : ∀ other x, after other x → refers other x ∨ other = key ∧ x = o) : Linked map size after := by
  refine ⟨linked.known, linked.apart, ?_⟩
  intro other x held
  rcases more other x held with held | ⟨rfl, rfl⟩
  · exact linked.linked other x held
  · exact found

-- A reference is below the next number.
theorem Linked.below (linked : Linked map size refers) (held : refers key o) : o < size := linked.known key o (linked.linked key o held)

-- Two references under one key are to one object.
theorem Linked.unique (linked : Linked map size refers) {x : Nat} (first : refers key o) (second : refers key x) : o = x :=
  Option.some.inj ((linked.linked key o first).symm.trans (linked.linked key x second))

variable [DecidableEq κ]

-- Those who hold the object of a key are those who hold any object under it.
theorem Linked.count {α : Type} (linked : Linked map size refers) (keyOf : α → κ) (held : α → Option Nat) (list : List α)
    (mine : ∀ member ∈ list, ∀ x, held member = some x → refers (keyOf member) x) (stands : map key = some o) :
    (list.filterMap held).count o = list.countP fun member => keyOf member = key ∧ (held member).isSome := by
  rw [List.count_filterMap]
  apply List.countP_congr
  intro member listed
  rw [beq_iff_eq, decide_eq_true_eq]
  constructor
  · intro holding
    refine ⟨linked.apart _ _ o (linked.linked _ o (mine member listed o holding)) stands, ?_⟩
    rw [holding]
    rfl
  · intro both
    obtain ⟨rfl, holding⟩ := both
    obtain ⟨x, holding⟩ := Option.isSome_iff_exists.mp holding
    rw [holding, ← linked.linked _ x (mine member listed x holding), stands]

theorem Linked.created (linked : Linked map size refers) (missing : map key = none) :
    Linked (Function.update map key (some size)) (size + 1) refers := by
  refine ⟨?_, ?_, ?_⟩
  · intro other o found
    by_cases same : other = key
    · rw [same, Function.update_self] at found
      have named := Option.some.inj found
      omega
    · rw [Function.update_of_ne same] at found
      have below := linked.known other o found
      omega
  · intro first second o one two
    have old (other : κ) (different : other ≠ key) (found : Function.update map key (some size) other = some o) : o < size := by
      rw [Function.update_of_ne different] at found
      exact linked.known other o found
    by_cases mine : first = key
    · by_cases other : second = key
      · rw [mine, other]
      · rw [mine, Function.update_self] at one
        have below := old second other two
        have named := Option.some.inj one
        omega
    · by_cases other : second = key
      · rw [other, Function.update_self] at two
        have below := old first mine one
        have named := Option.some.inj two
        omega
      · rw [Function.update_of_ne mine] at one
        rw [Function.update_of_ne other] at two
        exact linked.apart first second o one two
  · intro other o held
    have found := linked.linked other o held
    have different : other ≠ key := by
      intro same
      rw [same, missing] at found
      cases found
    rwa [Function.update_of_ne different]

-- An entry may go when nobody refers to an object under its key.
theorem Linked.deleted (linked : Linked map size refers) (gone : ∀ o, ¬ refers key o) :
    Linked (Function.update map key none) size refers := by
  have kept (other : κ) (o : Nat) (found : Function.update map key none other = some o) : map other = some o := by
    by_cases same : other = key
    · rw [same, Function.update_self] at found
      cases found
    · rwa [Function.update_of_ne same] at found
  refine ⟨fun other o found => linked.known other o (kept other o found), ?_, ?_⟩
  · intro first second o one two
    exact linked.apart first second o (kept first o one) (kept second o two)
  · intro other o held
    have different : other ≠ key := fun same => gone o (same ▸ held)
    rw [Function.update_of_ne different]
    exact linked.linked other o held

section Signals

variable {signal : Nat → Nat} {made : Nat} {fired : Nat → Bool}

-- Signals are numbered as they are made; that of an object is its own and has not fired.
structure Signals (size : Nat) (signal : Nat → Nat) (made : Nat) (fired : Nat → Bool) : Prop where
  below : ∀ o, o < size → signal o < made
  apart : ∀ o x, o < size → x < size → signal o = signal x → o = x
  silent : ∀ o, o < size → fired (signal o) = false
  unmade : ∀ s, made ≤ s → fired s = false

theorem signals_empty : Signals 0 signal made fun _ => false :=
  ⟨fun _ below => absurd below (Nat.not_lt_zero _), fun _ _ below => absurd below (Nat.not_lt_zero _),
    fun _ _ => rfl, fun _ _ => rfl⟩

-- The object `o`, old or just made, is given the next signal.
theorem Signals.given (signals : Signals size signal made fired) {later : Nat} (grown : ∀ x, x < later → x ≠ o → x < size)
    (after : Nat → Bool) (own : ∀ s, made ≤ s → after s = false) (others : ∀ x, x < size → x ≠ o → after (signal x) = false) :
    Signals later (Function.update signal o made) (made + 1) after := by
  refine ⟨?_, ?_, ?_, ?_⟩
  · intro x below
    by_cases same : x = o
    · rw [same, Function.update_self]
      exact Nat.lt_succ_self _
    · rw [Function.update_of_ne same]
      have old := signals.below x (grown x below same)
      omega
  · intro x y belowX belowY clash
    by_cases sameX : x = o
    · by_cases sameY : y = o
      · rw [sameX, sameY]
      · rw [sameX, Function.update_self, Function.update_of_ne sameY] at clash
        have old := signals.below y (grown y belowY sameY)
        omega
    · by_cases sameY : y = o
      · rw [sameY, Function.update_self, Function.update_of_ne sameX] at clash
        have old := signals.below x (grown x belowX sameX)
        omega
      · rw [Function.update_of_ne sameX, Function.update_of_ne sameY] at clash
        exact signals.apart x y (grown x belowX sameX) (grown y belowY sameY) clash
  · intro x below
    by_cases same : x = o
    · rw [same, Function.update_self]
      exact own made (Nat.le_refl made)
    · rw [Function.update_of_ne same]
      exact others x (grown x below same) same
  · intro s past
    exact own s (by omega)

theorem Signals.created (signals : Signals size signal made fired) :
    Signals (size + 1) (Function.update signal size made) (made + 1) fired :=
  signals.given (fun x below different => by omega) fired signals.unmade fun x below _ => signals.silent x below

-- The signal of an object fires, and a new one takes its place.
theorem Signals.renewed (signals : Signals size signal made fired) (below : o < size) :
    Signals size (Function.update signal o made) (made + 1) (Function.update fired (signal o) true) := by
  apply signals.given (fun x below _ => below)
  · intro s past
    have old := signals.below o below
    rw [Function.update_of_ne (by omega)]
    exact signals.unmade s past
  · intro x known different
    rw [Function.update_of_ne fun clash => different (signals.apart x o known below clash)]
    exact signals.silent x known

end Signals

end Registry
