import CodeGo.Lib.Registry
import CodeGo.Lib.Tally

set_option autoImplicit false

namespace CodeGo.Gateway.Fallback

open Registry Tally

def allCoolingFallbackSlots : Nat := 3

-- Channels are named by the order in which they are made.
structure FallbackState where
  active : Nat := 0
  waiters : Nat := 0
  changed : Nat := 0
deriving DecidableEq, Repr

inductive Pc where
  -- Before the lock, at the first turn of the loop or at a later one.
  | starting
  -- In the select, on the channel read under the lock.
  | waiting (state changed : Nat)
  -- Past the select: the waiter is to be taken off the state, and tries again if the channel was closed.
  | leaving (state : Nat) (again : Bool)
  | holding (state : Nat)
  | failed
  | released
deriving DecidableEq, Repr

structure Caller where
  key : String
  pc : Pc
deriving DecidableEq, Repr

structure State where
  size : Nat := 0
  objects : Nat → FallbackState := fun _ => {}
  states : String → Option Nat := fun _ => none
  channels : Nat := 0
  closed : Nat → Bool := fun _ => false
  callers : List Caller := []

-- The state object of a key, made if it is missing.
def locate (state : State) (key : String) : Nat × State :=
  match state.states key with
  | some o => (o, state)
  | none =>
      (state.size, { state with
        size := state.size + 1
        objects := Function.update state.objects state.size ⟨0, 0, state.channels⟩
        states := Function.update state.states key (some state.size)
        channels := state.channels + 1 })

def take (state : State) (t : Nat) (caller : Caller) (o : Nat) : State :=
  { state with
    objects := Function.update state.objects o { state.objects o with active := (state.objects o).active + 1 }
    callers := state.callers.set t { caller with pc := .holding o } }

def queue (state : State) (t : Nat) (caller : Caller) (o : Nat) : State :=
  { state with
    objects := Function.update state.objects o { state.objects o with waiters := (state.objects o).waiters + 1 }
    callers := state.callers.set t { caller with pc := .waiting o (state.objects o).changed } }

def acquireAllCoolingFallback (state : State) (t : Nat) (caller : Caller) : State :=
  let located := locate state caller.key
  if (located.2.objects located.1).active < allCoolingFallbackSlots then take located.2 t caller located.1
  else queue located.2 t caller located.1

def removeAllCoolingFallbackState (state : State) (key : String) (o : Nat) : State :=
  if (state.objects o).active = 0 ∧ (state.objects o).waiters = 0 ∧ state.states key = some o then
    { state with states := Function.update state.states key none }
  else state

def releaseAllCoolingFallback (state : State) (key : String) (o : Nat) : State :=
  if (state.objects o).active = 0 then state
  else
    removeAllCoolingFallbackState { state with
      objects := Function.update state.objects o
        { state.objects o with active := (state.objects o).active - 1, changed := state.channels }
      channels := state.channels + 1
      closed := Function.update state.closed (state.objects o).changed true } key o

def releaseAllCoolingFallbackWaiter (state : State) (key : String) (o : Nat) : State :=
  if (state.objects o).waiters = 0 then state
  else
    removeAllCoolingFallbackState { state with
      objects := Function.update state.objects o { state.objects o with waiters := (state.objects o).waiters - 1 } } key o

inductive Action where
  | call (key : String)
  | enter (t : Nat)
  -- The select takes the closed channel.
  | wake (t : Nat)
  -- The select takes the timer or the end of the context.
  | expire (t : Nat)
  | leave (t : Nat)
  | release (t : Nat)
deriving DecidableEq, Repr

def setPc (state : State) (t : Nat) (caller : Caller) (pc : Pc) : State :=
  { state with callers := state.callers.set t { caller with pc := pc } }

def step (state : State) : Action → State
  | .call key => { state with callers := state.callers ++ [⟨key, .starting⟩] }
  | .enter t =>
      match state.callers[t]? with
      | none => state
      | some caller => if caller.pc = .starting then acquireAllCoolingFallback state t caller else state
  | .wake t =>
      match state.callers[t]? with
      | none => state
      | some caller =>
          match caller.pc with
          | .waiting o changed => if state.closed changed then setPc state t caller (.leaving o true) else state
          | _ => state
  | .expire t =>
      match state.callers[t]? with
      | none => state
      | some caller =>
          match caller.pc with
          | .waiting o _ => setPc state t caller (.leaving o false)
          | _ => state
  | .leave t =>
      match state.callers[t]? with
      | none => state
      | some caller =>
          match caller.pc with
          | .leaving o again =>
              releaseAllCoolingFallbackWaiter (setPc state t caller (if again then .starting else .failed)) caller.key o
          | _ => state
  | .release t =>
      match state.callers[t]? with
      | none => state
      | some caller =>
          match caller.pc with
          | .holding o => releaseAllCoolingFallback (setPc state t caller .released) caller.key o
          | _ => state

def run (actions : List Action) : State := actions.foldl step {}

def Caller.held (caller : Caller) : Option Nat :=
  match caller.pc with
  | .holding o => some o
  | _ => none

def Caller.waited (caller : Caller) : Option Nat :=
  match caller.pc with
  | .waiting o _ => some o
  | .leaving o _ => some o
  | _ => none

-- Somebody of the key holds a slot of the object or waits for one.
def Refers (callers : List Caller) (key : String) (o : Nat) : Prop :=
  ∃ caller ∈ callers, caller.key = key ∧ (caller.held = some o ∨ caller.waited = some o)

def holders (state : State) (o : Nat) : Nat := (state.callers.filterMap Caller.held).count o

def waiting (state : State) (o : Nat) : Nat := (state.callers.filterMap Caller.waited).count o

structure Holds (state : State) : Prop where
  linked : Linked state.states state.size (Refers state.callers)
  signals : Signals state.size (fun o => (state.objects o).changed) state.channels state.closed
  active : ∀ o, (state.objects o).active = holders state o
  waiters : ∀ o, (state.objects o).waiters = waiting state o
  bounded : ∀ o, (state.objects o).active ≤ allCoolingFallbackSlots
  blocked : ∀ caller ∈ state.callers, ∀ o changed, caller.pc = .waiting o changed →
    state.closed changed = true ∨ changed = (state.objects o).changed ∧ (state.objects o).active = allCoolingFallbackSlots

section Callers

variable {callers : List Caller} {t : Nat} {caller : Caller}

theorem refers_set (pc : Pc) (key : String) (o : Nat)
    (refers : Refers (callers.set t { caller with pc := pc }) key o) :
    Refers callers key o ∨
      key = caller.key ∧ (({ caller with pc := pc } : Caller).held = some o ∨ ({ caller with pc := pc } : Caller).waited = some o) := by
  obtain ⟨other, listed, rfl, held⟩ := refers
  rcases List.mem_or_eq_of_mem_set listed with listed | rfl
  · exact .inl ⟨other, listed, rfl, held⟩
  · exact .inr ⟨rfl, held⟩

theorem refers_count {state : State} {key : String} {o : Nat} (refers : Refers state.callers key o) :
    0 < holders state o + waiting state o := by
  obtain ⟨caller, listed, _, held | waited⟩ := refers
  · have member : o ∈ state.callers.filterMap Caller.held := List.mem_filterMap.mpr ⟨caller, listed, held⟩
    have counted := List.count_pos_iff.mpr member
    unfold holders
    omega
  · have member : o ∈ state.callers.filterMap Caller.waited := List.mem_filterMap.mpr ⟨caller, listed, waited⟩
    have counted := List.count_pos_iff.mpr member
    unfold waiting
    omega

theorem held_set {state : State} (found : state.callers[t]? = some caller) (pc : Pc) (o : Nat) :
    ((state.callers.set t { caller with pc := pc }).filterMap Caller.held).count o + (if caller.held = some o then 1 else 0) =
      holders state o + if ({ caller with pc := pc } : Caller).held = some o then 1 else 0 :=
  count_set Caller.held state.callers t caller _ found o

theorem waited_set {state : State} (found : state.callers[t]? = some caller) (pc : Pc) (o : Nat) :
    ((state.callers.set t { caller with pc := pc }).filterMap Caller.waited).count o + (if caller.waited = some o then 1 else 0) =
      waiting state o + if ({ caller with pc := pc } : Caller).waited = some o then 1 else 0 :=
  count_set Caller.waited state.callers t caller _ found o

end Callers

section Steps

variable {state : State} {t : Nat} {caller : Caller} {o : Nat}

-- Nobody refers to an object that is not made yet.
theorem unmade_free (holds : Holds state) (past : state.size ≤ o) : holders state o = 0 ∧ waiting state o = 0 := by
  have free (held : Caller → Option Nat) (refers : ∀ caller, held caller = some o → caller.held = some o ∨ caller.waited = some o) :
      (state.callers.filterMap held).count o = 0 := by
    rw [List.count_eq_zero]
    intro listed
    obtain ⟨caller, known, holding⟩ := List.mem_filterMap.mp listed
    have below := holds.linked.below ⟨caller, known, rfl, refers caller holding⟩
    omega
  exact ⟨free Caller.held fun _ => .inl, free Caller.waited fun _ => .inr⟩

theorem changed_update (objects : Nat → FallbackState) (o : Nat) (object : FallbackState) :
    (fun x => (Function.update objects o object x).changed) = Function.update (fun x => (objects x).changed) o object.changed := by
  funext x
  by_cases same : x = o
  · rw [same, Function.update_self, Function.update_self]
  · rw [Function.update_of_ne same, Function.update_of_ne same]

theorem locate_holds (holds : Holds state) (key : String) :
    Holds (locate state key).2 ∧ (locate state key).2.states key = some (locate state key).1 ∧
      (locate state key).2.callers = state.callers := by
  unfold locate
  cases found : state.states key with
  | some o => exact ⟨holds, found, rfl⟩
  | none =>
      have fresh := unmade_free holds le_rfl
      refine ⟨⟨holds.linked.created found, ?_, ?_, ?_, ?_, ?_⟩, Function.update_self _ _ _, rfl⟩
      · dsimp only
        rw [changed_update]
        exact holds.signals.created
      · intro x
        dsimp only
        by_cases new : x = state.size
        · rw [new, Function.update_self]
          exact fresh.1.symm
        · rw [Function.update_of_ne new]
          exact holds.active x
      · intro x
        dsimp only
        by_cases new : x = state.size
        · rw [new, Function.update_self]
          exact fresh.2.symm
        · rw [Function.update_of_ne new]
          exact holds.waiters x
      · intro x
        dsimp only
        by_cases new : x = state.size
        · rw [new, Function.update_self]
          exact Nat.zero_le _
        · rw [Function.update_of_ne new]
          exact holds.bounded x
      · intro caller listed x changed waits
        dsimp only
        have below := holds.linked.below ⟨caller, listed, rfl, .inr (by rw [Caller.waited, waits])⟩
        rw [Function.update_of_ne below.ne]
        exact holds.blocked caller listed x changed waits

-- One caller moves and the counters of one object with it.
theorem holds_recounted (holds : Holds state) (pc : Pc) (object : FallbackState) (channels : Nat) (closed : Nat → Bool)
    (linked : Linked state.states state.size (Refers (state.callers.set t { caller with pc := pc })))
    (signals : Signals state.size (Function.update (fun x => (state.objects x).changed) o object.changed) channels closed)
    (held : ∀ x, ((state.callers.set t { caller with pc := pc }).filterMap Caller.held).count x = if x = o then object.active else holders state x)
    (waited : ∀ x, ((state.callers.set t { caller with pc := pc }).filterMap Caller.waited).count x =
      if x = o then object.waiters else waiting state x)
    (bounded : object.active ≤ allCoolingFallbackSlots)
    (kept : ∀ channel, state.closed channel = true → closed channel = true)
    (own : ∀ other ∈ state.callers, ∀ changed, other.pc = .waiting o changed →
      closed changed = true ∨ changed = object.changed ∧ object.active = allCoolingFallbackSlots)
    (mine : ∀ x changed, pc = .waiting x changed → x = o ∧ changed = object.changed ∧ object.active = allCoolingFallbackSlots) :
    Holds { state with
      objects := Function.update state.objects o object
      channels := channels
      closed := closed
      callers := state.callers.set t { caller with pc := pc } } := by
  refine ⟨linked, ?_, ?_, ?_, ?_, ?_⟩
  · dsimp only
    rw [changed_update]
    exact signals
  · intro x
    dsimp only [holders]
    rw [held x]
    split
    · rename_i same
      rw [same, Function.update_self]
    · rename_i different
      rw [Function.update_of_ne different]
      exact holds.active x
  · intro x
    dsimp only [waiting]
    rw [waited x]
    split
    · rename_i same
      rw [same, Function.update_self]
    · rename_i different
      rw [Function.update_of_ne different]
      exact holds.waiters x
  · intro x
    dsimp only
    by_cases same : x = o
    · rwa [same, Function.update_self]
    · rw [Function.update_of_ne same]
      exact holds.bounded x
  · intro other listed x changed waits
    dsimp only
    rcases List.mem_or_eq_of_mem_set listed with old | rfl
    · by_cases same : x = o
      · subst same
        rw [Function.update_self]
        exact own other old changed waits
      · rw [Function.update_of_ne same]
        rcases holds.blocked other old x changed waits with shut | full
        · exact .inl (kept changed shut)
        · exact .inr full
    · obtain ⟨rfl, waits⟩ := mine x changed waits
      rw [Function.update_self]
      exact .inr waits

theorem take_holds (holds : Holds state) (found : state.callers[t]? = some caller) (starting : caller.pc = .starting)
    (stands : state.states caller.key = some o) (room : (state.objects o).active < allCoolingFallbackSlots) :
    Holds (take state t caller o) := by
  have idle : caller.held = none ∧ caller.waited = none := by
    rw [Caller.held, Caller.waited, starting]
    exact ⟨rfl, rfl⟩
  apply holds_recounted holds
  · apply holds.linked.joined stands
    intro key x refers
    rcases refers_set _ key x refers with refers | ⟨same, held | waited⟩
    · exact .inl refers
    · exact .inr ⟨same, (Option.some.inj held).symm⟩
    · cases waited
  · rw [Function.update_eq_self]
    exact holds.signals
  · intro x
    have counted := held_set found (.holding o) x
    rw [idle.1, if_neg (by simp), Nat.add_zero] at counted
    simp only [Caller.held, Option.some.injEq] at counted
    by_cases same : x = o
    · rw [same, if_pos rfl] at counted
      rw [same, if_pos rfl, counted, holds.active o]
    · rw [if_neg (Ne.symm same), Nat.add_zero] at counted
      rw [if_neg same, counted]
  · intro x
    have counted := waited_set found (.holding o) x
    rw [idle.2, if_neg (by simp), if_neg (by simp [Caller.waited]), Nat.add_zero, Nat.add_zero] at counted
    rw [counted]
    by_cases same : x = o
    · rw [same, if_pos rfl, holds.waiters o]
    · rw [if_neg same]
  · exact room
  · exact fun _ => id
  · intro other listed changed waits
    rcases holds.blocked other listed o changed waits with shut | ⟨_, full⟩
    · exact .inl shut
    · exact absurd full room.ne
  · intro x changed waits
    cases waits

theorem queue_holds (holds : Holds state) (found : state.callers[t]? = some caller) (starting : caller.pc = .starting)
    (stands : state.states caller.key = some o) (full : ¬ (state.objects o).active < allCoolingFallbackSlots) :
    Holds (queue state t caller o) := by
  have idle : caller.held = none ∧ caller.waited = none := by
    rw [Caller.held, Caller.waited, starting]
    exact ⟨rfl, rfl⟩
  have three : (state.objects o).active = allCoolingFallbackSlots := le_antisymm (holds.bounded o) (not_lt.mp full)
  apply holds_recounted holds
  · apply holds.linked.joined stands
    intro key x refers
    rcases refers_set _ key x refers with refers | ⟨same, held | waited⟩
    · exact .inl refers
    · cases held
    · exact .inr ⟨same, (Option.some.inj waited).symm⟩
  · rw [Function.update_eq_self]
    exact holds.signals
  · intro x
    have counted := held_set found (.waiting o (state.objects o).changed) x
    rw [idle.1, if_neg (by simp), if_neg (by simp [Caller.held]), Nat.add_zero, Nat.add_zero] at counted
    rw [counted]
    by_cases same : x = o
    · rw [same, if_pos rfl, holds.active o]
    · rw [if_neg same]
  · intro x
    have counted := waited_set found (.waiting o (state.objects o).changed) x
    rw [idle.2, if_neg (by simp), Nat.add_zero] at counted
    simp only [Caller.waited, Option.some.injEq] at counted
    by_cases same : x = o
    · rw [same, if_pos rfl] at counted
      rw [same, if_pos rfl, counted, holds.waiters o]
    · rw [if_neg (Ne.symm same), Nat.add_zero] at counted
      rw [if_neg same, counted]
  · exact holds.bounded o
  · exact fun _ => id
  · intro other listed changed waits
    exact holds.blocked other listed o changed waits
  · intro x changed waits
    cases waits
    exact ⟨rfl, rfl, three⟩

-- The select is past: the caller still counts as a waiter.
theorem select_holds (holds : Holds state) (found : state.callers[t]? = some caller) (changed : Nat) (again : Bool)
    (waits : caller.pc = .waiting o changed) : Holds (setPc state t caller (.leaving o again)) := by
  have before : caller.held = none ∧ caller.waited = some o := by
    rw [Caller.held, Caller.waited, waits]
    exact ⟨rfl, rfl⟩
  refine ⟨?_, holds.signals, ?_, ?_, holds.bounded, ?_⟩
  · apply holds.linked.mono
    intro key x refers
    rcases refers_set _ key x refers with refers | ⟨same, held | waited⟩
    · exact refers
    · cases held
    · exact ⟨caller, List.mem_of_getElem? found, same.symm, .inr (before.2.trans waited)⟩
  · intro x
    have counted := held_set found (.leaving o again) x
    rw [before.1, if_neg (by simp), if_neg (by simp [Caller.held]), Nat.add_zero, Nat.add_zero] at counted
    exact (holds.active x).trans counted.symm
  · intro x
    have counted := waited_set found (.leaving o again) x
    rw [before.2] at counted
    exact (holds.waiters x).trans (Nat.add_right_cancel counted).symm
  · intro other listed x channel blocked
    rcases List.mem_or_eq_of_mem_set listed with listed | rfl
    · exact holds.blocked other listed x channel blocked
    · cases blocked

theorem remove_holds (holds : Holds state) (key : String) (o : Nat) : Holds (removeAllCoolingFallbackState state key o) := by
  unfold removeAllCoolingFallbackState
  split
  · rename_i unused
    refine ⟨?_, holds.signals, holds.active, holds.waiters, holds.bounded, holds.blocked⟩
    apply holds.linked.deleted
    intro x refers
    have stands := holds.linked.linked key x refers
    have counted := refers_count refers
    rw [unused.2.2] at stands
    rw [← Option.some.inj stands, ← holds.active, ← holds.waiters, unused.1, unused.2.1] at counted
    omega
  · exact holds

theorem leave_holds (holds : Holds state) (found : state.callers[t]? = some caller) (again : Bool) (leaves : caller.pc = .leaving o again)
    (pc : Pc) (free : ({ caller with pc := pc } : Caller).held = none ∧ ({ caller with pc := pc } : Caller).waited = none) :
    Holds (releaseAllCoolingFallbackWaiter (setPc state t caller pc) caller.key o) := by
  have before : caller.held = none ∧ caller.waited = some o := by
    rw [Caller.held, Caller.waited, leaves]
    exact ⟨rfl, rfl⟩
  have waited (x : Nat) := waited_set found pc x
  simp only [before.2, free.2, reduceCtorEq, if_false, Nat.add_zero, Option.some.injEq] at waited
  have counted := waited o
  rw [if_pos rfl, ← holds.waiters o] at counted
  unfold releaseAllCoolingFallbackWaiter
  rw [if_neg (by simp only [setPc]; omega)]
  apply remove_holds
  apply holds_recounted holds
  · apply holds.linked.mono
    intro key x refers
    rcases refers_set _ key x refers with refers | ⟨same, held | waited⟩
    · exact refers
    · rw [free.1] at held
      cases held
    · rw [free.2] at waited
      cases waited
  · have kept := holds.signals
    rw [← Function.update_eq_self o fun x => (state.objects x).changed] at kept
    exact kept
  · intro x
    have counted := held_set found pc x
    rw [before.1, free.1, if_neg (by simp), Nat.add_zero, Nat.add_zero] at counted
    rw [counted]
    by_cases same : x = o
    · rw [same, if_pos rfl, ← holds.active o]
      rfl
    · rw [if_neg same]
  · intro x
    by_cases same : x = o
    · rw [same, if_pos rfl]
      simp only [setPc]
      omega
    · have others := waited x
      rw [if_neg (Ne.symm same)] at others
      rw [if_neg same]
      exact others
  · exact holds.bounded o
  · exact fun _ => id
  · intro other listed changed waits
    exact holds.blocked other listed o changed waits
  · intro x changed waits
    rw [waits] at free
    cases free.2

theorem release_holds (holds : Holds state) (found : state.callers[t]? = some caller) (holding : caller.pc = .holding o) :
    Holds (releaseAllCoolingFallback (setPc state t caller .released) caller.key o) := by
  have before : caller.held = some o ∧ caller.waited = none := by
    rw [Caller.held, Caller.waited, holding]
    exact ⟨rfl, rfl⟩
  have after : ({ caller with pc := .released } : Caller).held = none ∧ ({ caller with pc := .released } : Caller).waited = none := ⟨rfl, rfl⟩
  have below := holds.linked.below ⟨caller, List.mem_of_getElem? found, rfl, .inl before.1⟩
  have held (x : Nat) := held_set found .released x
  simp only [before.1, after.1, reduceCtorEq, if_false, Nat.add_zero, Option.some.injEq] at held
  have counted := held o
  rw [if_pos rfl, ← holds.active o] at counted
  have bounded := holds.bounded o
  unfold releaseAllCoolingFallback
  rw [if_neg (by simp only [setPc]; omega)]
  apply remove_holds
  apply holds_recounted holds
  · apply holds.linked.mono
    intro key x refers
    rcases refers_set _ key x refers with refers | ⟨same, held | waited⟩
    · exact refers
    · cases held
    · cases waited
  · exact holds.signals.renewed below
  · intro x
    by_cases same : x = o
    · rw [same, if_pos rfl]
      simp only [setPc]
      omega
    · have others := held x
      rw [if_neg (Ne.symm same)] at others
      rw [if_neg same]
      exact others
  · intro x
    have counted := waited_set found .released x
    rw [before.2, after.2, if_neg (by simp), Nat.add_zero, Nat.add_zero] at counted
    rw [counted]
    by_cases same : x = o
    · rw [same, if_pos rfl, ← holds.waiters o]
      rfl
    · rw [if_neg same]
  · simp only [setPc]
    omega
  · intro channel shut
    by_cases same : channel = (state.objects o).changed
    · rw [same]
      exact Function.update_self _ _ _
    · exact (Function.update_of_ne same _ _).trans shut
  · intro other listed changed waits
    left
    rcases holds.blocked other listed o changed waits with shut | ⟨rfl, _⟩
    · by_cases same : changed = (state.objects o).changed
      · rw [same]
        exact Function.update_self _ _ _
      · exact (Function.update_of_ne same _ _).trans shut
    · exact Function.update_self _ _ _
  · intro x changed waits
    cases waits

theorem step_holds (holds : Holds state) (action : Action) : Holds (step state action) := by
  cases action with
  | call key =>
      have idle (held : Caller → Option Nat) (free : held ⟨key, .starting⟩ = none) :
          (state.callers ++ [(⟨key, .starting⟩ : Caller)]).filterMap held = state.callers.filterMap held := filter_map_snoc held _ _ free
      refine ⟨?_, holds.signals, ?_, ?_, holds.bounded, ?_⟩
      · apply holds.linked.mono
        intro other x refers
        obtain ⟨caller, listed, same, refers⟩ := refers
        rcases List.mem_append.mp listed with listed | listed
        · exact ⟨caller, listed, same, refers⟩
        · rw [List.mem_singleton.mp listed] at refers
          rcases refers with held | waited
          · cases held
          · cases waited
      · intro x
        rw [holders, step, idle Caller.held rfl]
        exact holds.active x
      · intro x
        rw [waiting, step, idle Caller.waited rfl]
        exact holds.waiters x
      · intro caller listed x changed waits
        rcases List.mem_append.mp listed with listed | listed
        · exact holds.blocked caller listed x changed waits
        · rw [List.mem_singleton.mp listed] at waits
          cases waits
  | enter t =>
      rw [step]
      split
      · exact holds
      · rename_i caller found
        split
        · rename_i starting
          obtain ⟨located, stands, same⟩ := locate_holds holds caller.key
          rw [← same] at found
          simp only [acquireAllCoolingFallback]
          split
          · rename_i room
            exact take_holds located found starting stands room
          · rename_i full
            exact queue_holds located found starting stands full
        · exact holds
  | wake t =>
      rw [step]
      split
      · exact holds
      · rename_i caller found
        split
        · rename_i x changed waits
          split
          · exact select_holds holds found changed true waits
          · exact holds
        · exact holds
  | expire t =>
      rw [step]
      split
      · exact holds
      · rename_i caller found
        split
        · rename_i x changed waits
          exact select_holds holds found changed false waits
        · exact holds
  | leave t =>
      rw [step]
      split
      · exact holds
      · rename_i caller found
        split
        · rename_i x again leaves
          apply leave_holds holds found again leaves
          cases again <;> exact ⟨rfl, rfl⟩
        · exact holds
  | release t =>
      rw [step]
      split
      · exact holds
      · rename_i caller found
        split
        · rename_i x holding
          exact release_holds holds found holding
        · exact holds

theorem run_holds (actions : List Action) : Holds (run actions) := by
  induction actions using List.reverseRecOn with
  | nil =>
      have nobody (key : String) (o : Nat) : ¬ Refers [] key o := by
        intro refers
        obtain ⟨caller, listed, _⟩ := refers
        cases listed
      refine ⟨linked_empty nobody, signals_empty, fun _ => rfl, fun _ => rfl, fun _ => Nat.zero_le _, ?_⟩
      intro caller listed
      cases listed
  | append_singleton actions action ih =>
      rw [run, List.foldl_append]
      exact step_holds ih action

end Steps

section Law

variable {state : State}

-- The callers that hold a slot of the key.
def slots (state : State) (key : String) : Nat := state.callers.countP fun caller => caller.key = key ∧ caller.held.isSome

-- Between taking a slot and giving it back, or between joining the waiters and leaving them.
def Caller.engaged (caller : Caller) : Bool := caller.held.isSome || caller.waited.isSome

structure Law (state : State) : Prop where
  bounded : ∀ key, slots state key ≤ 3
  entry : ∀ caller ∈ state.callers, caller.engaged = true → ∃ o, state.states caller.key = some o ∧ (caller.held = some o ∨ caller.waited = some o)
  counters : ∀ key o, state.states key = some o → (state.objects o).active = slots state key ∧
    (state.objects o).waiters = state.callers.countP fun caller => caller.key = key ∧ caller.waited.isSome
  awake : ∀ caller ∈ state.callers, ∀ o changed, caller.pc = .waiting o changed → slots state caller.key < 3 → state.closed changed = true
  opened : ∀ key o, state.states key = some o → state.closed (state.objects o).changed = false

theorem law (holds : Holds state) : Law state := by
  have held (key : String) (o : Nat) (stands : state.states key = some o) : (state.objects o).active = slots state key := by
    rw [holds.active o, holders, slots]
    apply holds.linked.count Caller.key Caller.held _ _ stands
    exact fun caller listed x holding => ⟨caller, listed, rfl, .inl holding⟩
  refine ⟨?_, ?_, ?_, ?_, ?_⟩
  · intro key
    cases found : state.states key with
    | some o =>
        rw [← held key o found]
        exact holds.bounded o
    | none =>
        have nobody : slots state key = 0 := by
          rw [slots, List.countP_eq_zero]
          intro caller listed
          rw [decide_eq_true_eq]
          intro both
          obtain ⟨o, holding⟩ := Option.isSome_iff_exists.mp both.2
          have linked := holds.linked.linked key o ⟨caller, listed, both.1, .inl holding⟩
          rw [found] at linked
          cases linked
        rw [nobody]
        exact Nat.zero_le _
  · intro caller listed engaged
    have engaged_ : ∃ o, caller.held = some o ∨ caller.waited = some o := by
      rcases Bool.or_eq_true_iff.mp engaged with holding | waits
      · obtain ⟨o, holding⟩ := Option.isSome_iff_exists.mp holding
        exact ⟨o, .inl holding⟩
      · obtain ⟨o, waits⟩ := Option.isSome_iff_exists.mp waits
        exact ⟨o, .inr waits⟩
    obtain ⟨o, refers⟩ := engaged_
    exact ⟨o, holds.linked.linked caller.key o ⟨caller, listed, rfl, refers⟩, refers⟩
  · intro key o stands
    refine ⟨held key o stands, ?_⟩
    rw [holds.waiters o, waiting]
    apply holds.linked.count Caller.key Caller.waited _ _ stands
    exact fun caller listed x waits => ⟨caller, listed, rfl, .inr waits⟩
  · intro caller listed o changed waits free
    have linked := holds.linked.linked caller.key o ⟨caller, listed, rfl, .inr (by rw [Caller.waited, waits])⟩
    rw [← held caller.key o linked] at free
    rcases holds.blocked caller listed o changed waits with shut | ⟨_, full⟩
    · exact shut
    · exact absurd full free.ne
  · intro key o stands
    exact holds.signals.silent o (holds.linked.known key o stands)

-- What a step may do to the entries of the map and to those who wait.
structure StepLaw (state : State) (action : Action) (next : State) : Prop where
  kept : ∀ key o, state.states key = some o → next.states key ≠ some o →
    next.states key = none ∧ ∀ caller ∈ next.callers, caller.key = key → caller.engaged = false
  shut : ∀ channel, state.closed channel = true → next.closed channel = true
  observed : ∀ t caller o, action = .release t → state.callers[t]? = some caller → caller.pc = .holding o →
    ∀ other ∈ state.callers, ∀ x changed, other.key = caller.key → other.pc = .waiting x changed → next.closed changed = true

-- An entry stands, or is gone and nobody of its key is engaged.
theorem entry_kept (holds : Holds state) (key : String) (o : Nat) (entry : state.states key = some o ∨ state.states key = none)
    (changed : state.states key ≠ some o) : state.states key = none ∧ ∀ caller ∈ state.callers, caller.key = key → caller.engaged = false := by
  have missing := entry.resolve_left changed
  refine ⟨missing, ?_⟩
  intro caller listed same
  by_contra engaged
  obtain ⟨x, stands, _⟩ := (law holds).entry caller listed (by simpa using engaged)
  rw [same, missing] at stands
  cases stands

theorem remove_entry (state : State) (key other : String) (o x : Nat) (stands : state.states other = some x) :
    (removeAllCoolingFallbackState state key o).states other = some x ∨ (removeAllCoolingFallbackState state key o).states other = none := by
  unfold removeAllCoolingFallbackState
  split
  · by_cases same : other = key
    · right
      rw [same]
      exact Function.update_self _ _ _
    · left
      dsimp only
      rw [Function.update_of_ne same]
      exact stands
  · exact .inl stands

theorem leave_entry (state : State) (key other : String) (o x : Nat) (stands : state.states other = some x) :
    (releaseAllCoolingFallbackWaiter state key o).states other = some x ∨ (releaseAllCoolingFallbackWaiter state key o).states other = none := by
  unfold releaseAllCoolingFallbackWaiter
  split
  · exact .inl stands
  · exact remove_entry _ key other o x stands

theorem release_entry (state : State) (key other : String) (o x : Nat) (stands : state.states other = some x) :
    (releaseAllCoolingFallback state key o).states other = some x ∨ (releaseAllCoolingFallback state key o).states other = none := by
  unfold releaseAllCoolingFallback
  split
  · exact .inl stands
  · exact remove_entry _ key other o x stands

theorem acquire_entry (state : State) (t : Nat) (caller : Caller) (other : String) (x : Nat) (stands : state.states other = some x) :
    (acquireAllCoolingFallback state t caller).states other = some x := by
  have located : (locate state caller.key).2.states other = some x := by
    unfold locate
    cases found : state.states caller.key with
    | some o => exact stands
    | none =>
        have different : other ≠ caller.key := by
          intro same
          rw [same, found] at stands
          cases stands
        dsimp only
        rwa [Function.update_of_ne different]
  simp only [acquireAllCoolingFallback]
  split
  · exact located
  · exact located

theorem step_entry (state : State) (action : Action) (other : String) (x : Nat) (stands : state.states other = some x) :
    (step state action).states other = some x ∨ (step state action).states other = none := by
  cases action with
  | call key => exact .inl stands
  | enter t =>
      rw [step]
      split
      · exact .inl stands
      · split
        · exact .inl (acquire_entry state t _ other x stands)
        · exact .inl stands
  | wake t =>
      rw [step]
      split
      · exact .inl stands
      · split
        · split
          · exact .inl stands
          · exact .inl stands
        · exact .inl stands
  | expire t =>
      rw [step]
      split
      · exact .inl stands
      · split
        · exact .inl stands
        · exact .inl stands
  | leave t =>
      rw [step]
      split
      · exact .inl stands
      · split
        · exact leave_entry (setPc state t _ _) _ other _ x stands
        · exact .inl stands
  | release t =>
      rw [step]
      split
      · exact .inl stands
      · split
        · exact release_entry (setPc state t _ _) _ other _ x stands
        · exact .inl stands

theorem remove_closed (state : State) (key : String) (o : Nat) : (removeAllCoolingFallbackState state key o).closed = state.closed := by
  unfold removeAllCoolingFallbackState
  split <;> rfl

theorem leave_closed (state : State) (key : String) (o : Nat) : (releaseAllCoolingFallbackWaiter state key o).closed = state.closed := by
  unfold releaseAllCoolingFallbackWaiter
  split
  · rfl
  · exact remove_closed _ key o

theorem release_closed (state : State) (key : String) (o : Nat) (channel : Nat) (shut : state.closed channel = true) :
    (releaseAllCoolingFallback state key o).closed channel = true := by
  unfold releaseAllCoolingFallback
  split
  · exact shut
  · rw [remove_closed]
    by_cases same : channel = (state.objects o).changed
    · rw [same]
      exact Function.update_self _ _ _
    · exact (Function.update_of_ne same _ _).trans shut

theorem step_closed (state : State) (action : Action) (channel : Nat) (shut : state.closed channel = true) :
    (step state action).closed channel = true := by
  cases action with
  | call key => exact shut
  | enter t =>
      have located (key : String) : (locate state key).2.closed = state.closed := by
        unfold locate
        split <;> rfl
      rw [step]
      split
      · exact shut
      · split
        · simp only [acquireAllCoolingFallback]
          split
          · rw [take, located]
            exact shut
          · rw [queue, located]
            exact shut
        · exact shut
  | wake t =>
      rw [step]
      split
      · exact shut
      · split
        · split
          · exact shut
          · exact shut
        · exact shut
  | expire t =>
      rw [step]
      split
      · exact shut
      · split
        · exact shut
        · exact shut
  | leave t =>
      rw [step]
      split
      · exact shut
      · split
        · rw [leave_closed]
          exact shut
        · exact shut
  | release t =>
      rw [step]
      split
      · exact shut
      · split
        · exact release_closed (setPc state t _ _) _ _ channel shut
        · exact shut

-- A release closes the channel of everybody who waits under its key.
theorem release_observed (holds : Holds state) (t : Nat) (caller : Caller) (o : Nat) (found : state.callers[t]? = some caller)
    (holding : caller.pc = .holding o) (other : Caller) (listed : other ∈ state.callers) (x changed : Nat) (same : other.key = caller.key)
    (waits : other.pc = .waiting x changed) : (step state (.release t)).closed changed = true := by
  have mine : Refers state.callers caller.key o :=
    ⟨caller, List.mem_of_getElem? found, rfl, .inl (by rw [Caller.held, holding])⟩
  have theirs : Refers state.callers caller.key x := ⟨other, listed, same, .inr (by rw [Caller.waited, waits])⟩
  obtain rfl := holds.linked.unique mine theirs
  have active : 0 < (state.objects o).active := by
    rw [holds.active o, holders, List.count_pos_iff]
    exact List.mem_filterMap.mpr ⟨caller, List.mem_of_getElem? found, by rw [Caller.held, holding]⟩
  rcases holds.blocked other listed o changed waits with shut | ⟨rfl, _⟩
  · exact step_closed state _ changed shut
  · simp only [step, found, holding]
    have filled : ¬ ((setPc state t caller .released).objects o).active = 0 := active.ne'
    rw [releaseAllCoolingFallback, if_neg filled, remove_closed]
    exact Function.update_self _ _ _

theorem step_law (holds : Holds state) (action : Action) : StepLaw state action (step state action) := by
  refine ⟨?_, step_closed state action, ?_⟩
  · intro key o stands changed
    exact entry_kept (step_holds holds action) key o (step_entry state action key o stands) changed
  · intro t caller o released found holding other listed x changed same waits
    rw [released]
    exact release_observed holds t caller o found holding other listed x changed same waits

theorem fallback_bounded (actions : List Action) :
    Law (run actions) ∧ ∀ action, StepLaw (run actions) action (step (run actions) action) :=
  ⟨law (run_holds actions), step_law (run_holds actions)⟩

end Law

end CodeGo.Gateway.Fallback
