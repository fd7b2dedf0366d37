import CodeGo.Gateway.ProbeReservation
import CodeGo.Lib.Tally

set_option autoImplicit false

namespace CodeGo.Gateway.FaultDomains

open Tally Reservation

def faultDomainInitialConcurrency : Nat := 128

def faultDomainMinConcurrency : Nat := 8

def faultDomainMaxConcurrency : Nat := 256

-- In nanoseconds, as every time here.
def faultDomainConcurrencyFailureWindow : Int := 15000000000

def faultDomainConcurrencyFailureThreshold : Nat := 3

def faultDomainRecoveryStep : Nat := 8

def faultDomainSuccessStep : Nat := 16

def requestTypeText : RequestType → String
  | .chatShortStream => "chat_short_stream"
  | .chatLongStream => "chat_long_stream"
  | .toolCallStream => "tool_call_stream"
  | .chatNonStream => "chat_non_stream"
  | .imageNonStream => "image_non_stream"
  | .imageStream => "image_stream"
  | .other => "embedding_or_other"
  | .unknown text => text

structure UserState where
  active : Nat := 0
  limit : Nat := faultDomainInitialConcurrency
  successes : Nat := 0
  failures : List Int := []
  lastAdjustment : Option Int := none
deriving DecidableEq, Repr

abbrev Users := AList fun _ : String => UserState

structure DomainState where
  active : Nat := 0
  users : Users := ∅

abbrev Domains := AList fun _ : String => DomainState

structure Snapshot where
  domain : String
  scope : String
  model : String
  active : Nat := 0
  userActive : Nat := 0
  userLimit : Nat := 0
deriving DecidableEq, Repr

inductive Phase where
  | untracked
  | refused
  | acquired
  | finished
deriving DecidableEq, Repr

-- What one call was answered: where its slot is counted, the telemetry, and what became of the release function.
structure Slot where
  key : String
  userKey : String
  snapshot : Snapshot
  phase : Phase
deriving DecidableEq, Repr

def scopeOf (domain scope : String) : String := if scope = "" then domain else scope

def slotKey (domain scope model : String) (requestTypes : List RequestType) : String :=
  scopeOf domain scope ++ "\x00" ++ domain ++ "\x00" ++ model ++ "\x00" ++ requestTypeText (normalizedRequestType requestTypes)

def userKeyOf (userID : Int) : String := if userID ≤ 0 then "anonymous" else toString userID

def domainOf (states : Domains) (key : String) : DomainState := (states.lookup key).getD {}

def userOf (state : DomainState) (userKey : String) : UserState := (state.users.lookup userKey).getD {}

-- One critical section; both entries are created where they are missing, also for a call that is refused.
def tryAcquire (states : Domains) (domain scope model : String) (userID : Int) (requestTypes : List RequestType) : Domains × Slot :=
  if domain = "" ∨ model = "" then (states, ⟨"", "", ⟨domain, scope, model, 0, 0, 0⟩, .untracked⟩)
  else
    let key := slotKey domain scope model requestTypes
    let userKey := userKeyOf userID
    let state := domainOf states key
    let user := userOf state userKey
    if user.limit ≤ user.active then
      (states.insert key { state with users := state.users.insert userKey user },
        ⟨key, userKey, ⟨domain, scopeOf domain scope, model, state.active, user.active, user.limit⟩, .refused⟩)
    else
      (states.insert key ⟨state.active + 1, state.users.insert userKey { user with active := user.active + 1 }⟩,
        ⟨key, userKey, ⟨domain, scopeOf domain scope, model, state.active + 1, user.active + 1, user.limit⟩, .acquired⟩)

def isAdaptiveCapacityFailure (statusCode : Int) : Bool := statusCode = 429 ∨ statusCode = 503 ∨ statusCode = 504

def recentFailures (user : UserState) (now : Int) : List Int :=
  user.failures.filter fun occurredAt => now - faultDomainConcurrencyFailureWindow < occurredAt

-- What a finished attempt does to the user's limit; the slot has been given back.
def adapt (user : UserState) (success : Bool) (statusCode now : Int) : UserState :=
  let failures := recentFailures user now
  if success || !isAdaptiveCapacityFailure statusCode then
    if faultDomainSuccessStep ≤ user.successes + 1 ∧ user.limit < faultDomainMaxConcurrency then
      { user with
        limit := min (user.limit + faultDomainRecoveryStep) faultDomainMaxConcurrency
        successes := 0
        failures := failures
        lastAdjustment := some now }
    else { user with successes := user.successes + 1, failures := failures }
  else if (failures ++ [now]).length < faultDomainConcurrencyFailureThreshold then
    { user with successes := 0, failures := failures ++ [now] }
  else
    { user with
      limit := max (user.limit / 2) faultDomainMinConcurrency
      successes := 0
      failures := []
      lastAdjustment := some now }

def finishFaultDomainSlot (states : Domains) (key userKey : String) (success : Bool) (statusCode now : Int) : Domains :=
  match states.lookup key with
  | none => states
  | some state =>
      let active := if 0 < state.active then state.active - 1 else state.active
      match state.users.lookup userKey with
      | none => states.insert key { state with active := active }
      | some user =>
          let released := { user with active := if 0 < user.active then user.active - 1 else user.active }
          states.insert key ⟨active, state.users.insert userKey (adapt released success statusCode now)⟩

structure State where
  states : Domains := ∅
  slots : List Slot := []

inductive Action where
  | acquire (domain scope model : String) (userID : Int) (requestTypes : List RequestType)
  | release (i : Nat) (success : Bool) (statusCode now : Int)
deriving DecidableEq, Repr

-- A release function acts once; one of a call that was not counted never does.
def step (state : State) : Action → State
  | .acquire domain scope model userID requestTypes =>
      let answer := tryAcquire state.states domain scope model userID requestTypes
      ⟨answer.1, state.slots ++ [answer.2]⟩
  | .release i success statusCode now =>
      match state.slots[i]? with
      | none => state
      | some slot =>
          if slot.phase = .acquired then
            ⟨finishFaultDomainSlot state.states slot.key slot.userKey success statusCode now,
              state.slots.set i { slot with phase := .finished }⟩
          else state

def run (actions : List Action) : State := actions.foldl step {}

-- The users holding the outstanding slots of a key.
def holders (slots : List Slot) (key : String) : List String :=
  slots.filterMap fun slot => if slot.phase = .acquired ∧ slot.key = key then some slot.userKey else none

-- The counters of a key say who holds its slots.
structure DomainExact (state : DomainState) (holding : List String) : Prop where
  whole : state.active = holding.length
  each : ∀ userKey, (userOf state userKey).active = holding.count userKey
  listed : ∀ userKey ∈ holding, userKey ∈ state.users.keys
  limits : ∀ userKey user, state.users.lookup userKey = some user →
    faultDomainMinConcurrency ≤ user.limit ∧ user.limit ≤ faultDomainMaxConcurrency

def SlotsExact (state : State) : Prop := ∀ key, DomainExact (domainOf state.states key) (holders state.slots key)

section Users

theorem domain_insert (states : Domains) (key other : String) (state : DomainState) :
    domainOf (states.insert key state) other = if other = key then state else domainOf states other := by
  unfold domainOf
  split
  · rename_i same
    rw [same, AList.lookup_insert, Option.getD_some]
  · rename_i different
    rw [AList.lookup_insert_ne different]

theorem user_insert (active : Nat) (users : Users) (key other : String) (user : UserState) :
    userOf ⟨active, users.insert key user⟩ other = if other = key then user else userOf ⟨active, users⟩ other := by
  unfold userOf
  split
  · rename_i same
    rw [same, AList.lookup_insert, Option.getD_some]
  · rename_i different
    rw [AList.lookup_insert_ne different]

theorem adapt_active (user : UserState) (success : Bool) (statusCode now : Int) :
    (adapt user success statusCode now).active = user.active := by
  unfold adapt
  dsimp only
  split
  · split <;> rfl
  · split <;> rfl

theorem adapt_limit (user : UserState) (success : Bool) (statusCode now : Int)
    (limits : faultDomainMinConcurrency ≤ user.limit ∧ user.limit ≤ faultDomainMaxConcurrency) :
    faultDomainMinConcurrency ≤ (adapt user success statusCode now).limit ∧
      (adapt user success statusCode now).limit ≤ faultDomainMaxConcurrency := by
  unfold faultDomainMinConcurrency faultDomainMaxConcurrency at *
  unfold adapt faultDomainMinConcurrency faultDomainMaxConcurrency faultDomainRecoveryStep
  dsimp only
  split
  · split
    · dsimp only
      omega
    · exact limits
  · split
    · exact limits
    · dsimp only
      omega

variable {state : DomainState} {holding : List String}

theorem DomainExact.limit (counts : DomainExact state holding) (userKey : String) :
    faultDomainMinConcurrency ≤ (userOf state userKey).limit ∧ (userOf state userKey).limit ≤ faultDomainMaxConcurrency := by
  unfold userOf
  cases found : state.users.lookup userKey with
  | none => decide
  | some user => exact counts.limits userKey user found

-- Another state of one user, and the holders that go with it.
theorem DomainExact.change (counts : DomainExact state holding) (userKey : String) (user : UserState) (active : Nat) (after : List String)
    (whole : active = after.length) (counted : user.active = after.count userKey)
    (others : ∀ other, other ≠ userKey → after.count other = holding.count other)
    (limits : faultDomainMinConcurrency ≤ user.limit ∧ user.limit ≤ faultDomainMaxConcurrency) :
    DomainExact ⟨active, state.users.insert userKey user⟩ after := by
  refine ⟨whole, ?_, ?_, ?_⟩
  · intro other
    rw [user_insert]
    split
    · rename_i same
      rw [same, counted]
    · rename_i different
      rw [others other different]
      exact counts.each other
  · intro other listed
    rw [← AList.mem_keys, AList.mem_insert]
    by_cases same : other = userKey
    · exact .inl same
    · right
      apply counts.listed
      rw [← List.count_pos_iff] at listed ⊢
      rwa [← others other same]
  · intro other stored found
    by_cases same : other = userKey
    · subst same
      rw [AList.lookup_insert] at found
      rwa [← Option.some.inj found]
    · rw [AList.lookup_insert_ne same] at found
      exact counts.limits other stored found

-- The sum over the users is the number of slots.
theorem DomainExact.total (counts : DomainExact state holding) : (state.users.entries.map fun entry => entry.2.active).sum = holding.length := by
  have counted : (state.users.entries.map fun entry => entry.2.active) = state.users.keys.map fun userKey => holding.count userKey := by
    rw [AList.keys, List.keys, List.map_map]
    apply List.map_congr_left
    intro entry listed
    have stored : state.users.lookup entry.1 = some entry.2 := AList.mem_lookup_iff.mpr listed
    have each := counts.each entry.1
    rwa [userOf, stored] at each
  rw [counted]
  exact sum_counts _ _ state.users.keys_nodup counts.listed

end Users

section Runs

theorem holders_snoc (slots : List Slot) (slot : Slot) (key : String) :
    holders (slots ++ [slot]) key = holders slots key ++ if slot.phase = .acquired ∧ slot.key = key then [slot.userKey] else [] := by
  rw [holders, List.filterMap_append]
  congr 1
  split <;> rename_i counted
  · simp [counted]
  · simp [counted]

theorem acquire_exact (state : State) (domain scope model : String) (userID : Int) (requestTypes : List RequestType) (counts : SlotsExact state) :
    SlotsExact (step state (.acquire domain scope model userID requestTypes)) := by
  intro other
  simp only [step, tryAcquire]
  rw [holders_snoc]
  split
  · rw [if_neg (by simp), List.append_nil]
    exact counts other
  · generalize slotKey domain scope model requestTypes = key
    generalize userKeyOf userID = userKey
    have before := counts key
    split
    · rw [if_neg (by simp), List.append_nil, domain_insert]
      split
      · rename_i same
        rw [same]
        exact before.change userKey _ _ _ before.whole (before.each userKey) (fun _ _ => rfl) (before.limit userKey)
      · exact counts other
    · rename_i room
      rw [domain_insert]
      split
      · rename_i same
        rw [same, if_pos ⟨rfl, rfl⟩]
        apply before.change userKey
        · rw [List.length_append, before.whole]
          rfl
        · dsimp only
          rw [before.each userKey, List.count_append, List.count_singleton_self]
        · intro third different
          rw [List.count_append, List.count_singleton, if_neg (by simpa using Ne.symm different), Nat.add_zero]
        · exact before.limit userKey
      · rename_i different
        rw [if_neg (fun counted => different counted.2.symm), List.append_nil]
        exact counts other

-- A slot that is given back is taken off the holders of its own key.
theorem holders_finished (slots : List Slot) (i : Nat) (slot : Slot) (found : slots[i]? = some slot) (acquired : slot.phase = .acquired)
    (key userKey : String) :
    (holders (slots.set i { slot with phase := .finished }) key).count userKey + (if slot.key = key ∧ userKey = slot.userKey then 1 else 0) =
      (holders slots key).count userKey := by
  have changed := count_set (fun slot : Slot => if slot.phase = .acquired ∧ slot.key = key then some slot.userKey else none) slots i slot
    { slot with phase := .finished } found userKey
  have after : ((if Phase.finished = .acquired ∧ slot.key = key then some slot.userKey else none) = some userKey) = False := by simp
  have before : ((if slot.phase = .acquired ∧ slot.key = key then some slot.userKey else none) = some userKey) =
      (slot.key = key ∧ userKey = slot.userKey) := by
    by_cases same : slot.key = key <;> simp [acquired, same, eq_comm]
  simp only [after, before, if_false, Nat.add_zero] at changed
  exact changed

theorem length_finished (holding after : List String) (userKey : String)
    (taken : ∀ other, after.count other + (if other = userKey then 1 else 0) = holding.count other) : after.length + 1 = holding.length := by
  have same : List.Perm (userKey :: after) holding := by
    rw [List.perm_iff_count]
    intro other
    rw [← taken other]
    by_cases same : other = userKey
    · rw [same, List.count_cons_self, if_pos rfl]
    · rw [List.count_cons_of_ne (Ne.symm same), if_neg same, Nat.add_zero]
  rw [← same.length_eq, List.length_cons]

-- Giving a held slot back finds both entries and changes that key alone.
theorem finish_domain (states : Domains) (key userKey : String) (success : Bool) (statusCode now : Int) (holding after : List String)
    (counts : DomainExact (domainOf states key) holding)
    (taken : ∀ other, after.count other + (if other = userKey then 1 else 0) = holding.count other) :
    ∃ state, DomainExact state after ∧ ∀ other,
      domainOf (finishFaultDomainSlot states key userKey success statusCode now) other = if other = key then state else domainOf states other := by
  have shorter := length_finished holding after userKey taken
  have own := taken userKey
  rw [if_pos rfl] at own
  have member : userKey ∈ holding := by
    rw [← List.count_pos_iff, ← own]
    exact Nat.succ_pos _
  have active := counts.whole
  have each := counts.each userKey
  have limits := counts.limit userKey
  rw [finishFaultDomainSlot]
  cases entry : states.lookup key with
  | none =>
      rw [domainOf, entry] at active
      dsimp only [Option.getD_none] at active
      omega
  | some state =>
      have same : domainOf states key = state := by
        rw [domainOf, entry, Option.getD_some]
      rw [same] at counts active each limits
      have known := counts.listed userKey member
      rw [← AList.mem_keys, ← AList.lookup_isSome, Option.isSome_iff_exists] at known
      obtain ⟨user, stored⟩ := known
      have read : userOf state userKey = user := by
        rw [userOf, stored, Option.getD_some]
      rw [read] at each limits
      simp only [stored]
      refine ⟨_, ?_, fun other => domain_insert _ _ _ _⟩
      apply counts.change userKey
      · rw [if_pos (by omega)]
        omega
      · rw [adapt_active]
        dsimp only
        rw [if_pos (by omega)]
        omega
      · intro other different
        have count := taken other
        rwa [if_neg different] at count
      · exact adapt_limit _ _ _ _ limits

theorem release_exact (state : State) (i : Nat) (success : Bool) (statusCode now : Int) (counts : SlotsExact state) :
    SlotsExact (step state (.release i success statusCode now)) := by
  intro key
  rw [step]
  cases found : state.slots[i]? with
  | none => exact counts key
  | some slot =>
      dsimp only
      by_cases acquired : slot.phase = .acquired
      · rw [if_pos acquired]
        dsimp only
        have taken := holders_finished state.slots i slot found acquired
        obtain ⟨after, finished, domains⟩ := finish_domain state.states slot.key slot.userKey success statusCode now _
          (holders (state.slots.set i { slot with phase := .finished }) slot.key) (counts slot.key) (by
            intro other
            simpa using taken slot.key other)
        rw [domains key]
        split
        · rename_i same
          rwa [same]
        · rename_i different
          have others := counts key
          have count : ∀ other, (holders (state.slots.set i { slot with phase := .finished }) key).count other =
              (holders state.slots key).count other := by
            intro other
            have count := taken key other
            rwa [if_neg (fun both => different both.1.symm), Nat.add_zero] at count
          have perm := List.perm_iff_count.mpr count
          refine ⟨?_, ?_, ?_, others.limits⟩
          · rw [others.whole, perm.length_eq]
          · intro other
            rw [others.each other, count other]
          · intro other listed
            exact others.listed other (perm.mem_iff.mp listed)
      · rw [if_neg acquired]
        exact counts key

theorem slots_exact (actions : List Action) : SlotsExact (run actions) := by
  induction actions using List.reverseRecOn with
  | nil =>
      intro key
      refine ⟨rfl, fun _ => rfl, fun _ listed => absurd listed List.not_mem_nil, ?_⟩
      intro userKey user found
      cases found
  | append_singleton actions action ih =>
      rw [run, List.foldl_append]
      cases action with
      | acquire domain scope model userID requestTypes => exact acquire_exact _ domain scope model userID requestTypes ih
      | release i success statusCode now => exact release_exact _ i success statusCode now ih

def outstanding (state : State) (key : String) : Nat := state.slots.countP fun slot => slot.phase = .acquired ∧ slot.key = key

def outstandingOf (state : State) (key userKey : String) : Nat :=
  state.slots.countP fun slot => slot.phase = .acquired ∧ slot.key = key ∧ slot.userKey = userKey

theorem holder_iff (slot : Slot) (key userKey : String) :
    (if slot.phase = .acquired ∧ slot.key = key then some slot.userKey else none) = some userKey ↔
      slot.phase = .acquired ∧ slot.key = key ∧ slot.userKey = userKey := by
  split
  · rename_i mine
    simp [mine]
  · rename_i other
    constructor
    · intro never
      cases never
    · intro both
      exact absurd ⟨both.1, both.2.1⟩ other

theorem holders_length (state : State) (key : String) : (holders state.slots key).length = outstanding state key := by
  rw [holders, List.length_filterMap_eq_countP, outstanding]
  apply List.countP_congr
  intro slot _
  rw [decide_eq_true_eq]
  split
  · rename_i mine
    simp [mine]
  · rename_i other
    simpa using other

theorem holders_count (state : State) (key userKey : String) : (holders state.slots key).count userKey = outstandingOf state key userKey := by
  rw [holders, List.count_filterMap, outstandingOf]
  apply List.countP_congr
  intro slot _
  rw [beq_iff_eq, decide_eq_true_eq]
  exact holder_iff slot key userKey

-- What the counters of a key say in a state.
structure SlotsLaw (state : State) (key : String) : Prop where
  users : (domainOf state.states key).active = ((domainOf state.states key).users.entries.map fun entry => entry.2.active).sum
  slots : (domainOf state.states key).active = outstanding state key
  each : ∀ userKey, (userOf (domainOf state.states key) userKey).active = outstandingOf state key userKey
  limits : ∀ userKey user, (domainOf state.states key).users.lookup userKey = some user → 8 ≤ user.limit ∧ user.limit ≤ 256

theorem slots_law (actions : List Action) (key : String) : SlotsLaw (run actions) key := by
  have counts := slots_exact actions key
  generalize run actions = state at counts
  refine ⟨?_, ?_, ?_, counts.limits⟩
  · rw [counts.total, counts.whole]
  · rw [counts.whole, holders_length]
  · intro userKey
    rw [counts.each, holders_count]

end Runs

end CodeGo.Gateway.FaultDomains
