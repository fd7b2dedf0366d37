import CodeGo.Gateway.FaultDomainConcurrency

set_option autoImplicit false

namespace CodeGo.Gateway.Concurrency

open Tally

inductive ChannelConcurrencyAdmission where
  | admitted
  | capacityReached
  | dependencyUnavailable
  | accountRequestRPMReached
  | accountRequestDisabled
deriving DecidableEq, Repr

-- The answer of the shared gate. It holds a lease for the request that it enforces and admits, and for no other.
structure Reservation where
  enforced : Bool
  admission : ChannelConcurrencyAdmission
deriving DecidableEq, Repr

inductive Phase where
  | reserved
  | refused (admission : ChannelConcurrencyAdmission)
  | admitted
  -- The local counters are given back; the shared lease is not yet.
  | released
  | finished
  -- Admitted without being counted, as is every request without a channel.
  | untracked
deriving DecidableEq, Repr

structure Request where
  channelID : Int
  userID : Int
  totalLimit : Int
  userLimit : Int
  enforced : Bool
  phase : Phase
deriving DecidableEq, Repr

abbrev Channels := AList fun _ : Int => Counters Int

structure State where
  active : Counters Int := ∅
  users : Channels := ∅
  leases : List Nat := []
  requests : List Request := []

def userActive (users : Channels) (channelID : Int) : Counters Int := (users.lookup channelID).getD ∅

inductive Action where
  | begin (channelID userID totalLimit userLimit : Int) (reservation : Reservation)
  | enter (i : Nat)
  | release (i : Nat)
  | finish (i : Nat)
deriving DecidableEq, Repr

-- Up to the answer of the gate, which is asked outside the lock.
def begin (state : State) (channelID userID totalLimit userLimit : Int) (reservation : Reservation) : State :=
  if channelID ≤ 0 then
    { state with requests := state.requests ++ [⟨channelID, userID, totalLimit, userLimit, false, .untracked⟩] }
  else if reservation.admission ≠ .admitted then
    { state with
      requests := state.requests ++ [⟨channelID, userID, totalLimit, userLimit, reservation.enforced, .refused reservation.admission⟩] }
  else
    { state with
      leases := if reservation.enforced then state.requests.length :: state.leases else state.leases
      requests := state.requests ++ [⟨channelID, userID, totalLimit, userLimit, reservation.enforced, .reserved⟩] }

-- The critical section that admits or refuses.
def enter (state : State) (i : Nat) (request : Request) : State :=
  if request.enforced = false ∧ 0 < request.totalLimit ∧ request.totalLimit ≤ get state.active request.channelID then
    { state with requests := state.requests.set i { request with phase := .refused .capacityReached } }
  else if request.enforced = false ∧ 0 < request.userLimit ∧
      request.userLimit ≤ get (userActive state.users request.channelID) request.userID then
    { state with requests := state.requests.set i { request with phase := .refused .capacityReached } }
  else
    { state with
      active := raise state.active request.channelID
      users := state.users.insert request.channelID (raise (userActive state.users request.channelID) request.userID)
      requests := state.requests.set i { request with phase := .admitted } }

def lowerUsers (users : Channels) (channelID userID : Int) : Channels :=
  match users.lookup channelID with
  | none => users
  | some counters =>
      if (lower counters userID).entries = [] then users.erase channelID else users.insert channelID (lower counters userID)

-- The critical section of the release function, which runs once.
def release (state : State) (i : Nat) (request : Request) : State :=
  { state with
    active := lower state.active request.channelID
    users := lowerUsers state.users request.channelID request.userID
    requests := state.requests.set i { request with phase := .released } }

def finish (state : State) (i : Nat) (request : Request) : State :=
  { state with
    leases := if request.enforced then state.leases.erase i else state.leases
    requests := state.requests.set i { request with phase := .finished } }

def step (state : State) : Action → State
  | .begin channelID userID totalLimit userLimit reservation => begin state channelID userID totalLimit userLimit reservation
  | .enter i =>
      match state.requests[i]? with
      | none => state
      | some request => if request.phase = .reserved then enter state i request else state
  | .release i =>
      match state.requests[i]? with
      | none => state
      | some request =>
          match request.phase with
          | .admitted => release state i request
          | .untracked => { state with requests := state.requests.set i { request with phase := .finished } }
          | _ => state
  | .finish i =>
      match state.requests[i]? with
      | none => state
      | some request => if request.phase = .released then finish state i request else state

def run (actions : List Action) : State := actions.foldl step {}

-- Admitted, and its release function not yet called.
def Request.outstanding (request : Request) : Bool := request.phase = .admitted ∨ request.phase = .untracked

def outstanding (state : State) (channelID userID : Int) : Nat :=
  state.requests.countP fun request => request.channelID = channelID ∧ request.userID = userID ∧ request.outstanding

section Holders

def channelOf (request : Request) : Option Int := if request.phase = .admitted then some request.channelID else none

def userOf (channelID : Int) (request : Request) : Option Int :=
  if request.phase = .admitted ∧ request.channelID = channelID then some request.userID else none

def channelHolders (requests : List Request) : List Int := requests.filterMap channelOf

def userHolders (requests : List Request) (channelID : Int) : List Int := requests.filterMap (userOf channelID)

theorem holders_of_channel (requests : List Request) (channelID : Int) :
    (channelHolders requests).count channelID = (userHolders requests channelID).length := by
  induction requests with
  | nil => rfl
  | cons request rest ih =>
      unfold channelHolders userHolders at *
      by_cases admitted : request.phase = .admitted
      · have channel : channelOf request = some request.channelID := if_pos admitted
        rw [List.filterMap_cons_some channel]
        by_cases same : request.channelID = channelID
        · have user : userOf channelID request = some request.userID := if_pos ⟨admitted, same⟩
          rw [List.filterMap_cons_some user, same, List.count_cons_self, List.length_cons, ih]
        · have user : userOf channelID request = none := if_neg fun both => same both.2
          rw [List.filterMap_cons_none user, List.count_cons_of_ne same, ih]
      · have channel : channelOf request = none := if_neg admitted
        have user : userOf channelID request = none := if_neg fun both => admitted both.1
        rw [List.filterMap_cons_none channel, List.filterMap_cons_none user, ih]

theorem channel_of_iff (request : Request) (channelID : Int) :
    channelOf request = some channelID ↔ request.phase = .admitted ∧ channelID = request.channelID := by
  unfold channelOf
  split
  · rename_i admitted
    simp [admitted, eq_comm]
  · rename_i waiting
    simp [waiting]

theorem user_of_iff (request : Request) (channelID userID : Int) :
    userOf channelID request = some userID ↔ request.phase = .admitted ∧ request.channelID = channelID ∧ userID = request.userID := by
  unfold userOf
  split
  · rename_i admitted
    simp [admitted, eq_comm]
  · rename_i other
    constructor
    · intro never
      cases never
    · intro both
      exact absurd ⟨both.1, both.2.1⟩ other

variable (requests : List Request) (i : Nat) (request : Request) (phase : Phase)

theorem channel_change (found : requests[i]? = some request) (channelID : Int) :
    (channelHolders (requests.set i { request with phase := phase })).count channelID +
        (if request.phase = .admitted ∧ channelID = request.channelID then 1 else 0) =
      (channelHolders requests).count channelID + if phase = .admitted ∧ channelID = request.channelID then 1 else 0 := by
  have changed := count_set channelOf requests i request { request with phase := phase } found channelID
  simp only [channel_of_iff] at changed
  exact changed

theorem user_change (found : requests[i]? = some request) (channelID userID : Int) :
    (userHolders (requests.set i { request with phase := phase }) channelID).count userID +
        (if request.phase = .admitted ∧ request.channelID = channelID ∧ userID = request.userID then 1 else 0) =
      (userHolders requests channelID).count userID +
        if phase = .admitted ∧ request.channelID = channelID ∧ userID = request.userID then 1 else 0 := by
  have changed := count_set (userOf channelID) requests i request { request with phase := phase } found userID
  simp only [user_of_iff] at changed
  exact changed

end Holders

-- A lease is held from the answer of the gate on until the shared release.
def Request.leased (request : Request) : Bool :=
  request.enforced && (request.phase = .reserved || request.phase = .admitted || request.phase = .released)

structure Holds (state : State) : Prop where
  active : Counts state.active (channelHolders state.requests)
  users : ∀ channelID, Counts (userActive state.users channelID) (userHolders state.requests channelID)
  present : ∀ channelID counters, state.users.lookup channelID = some counters → counters.entries ≠ []
  leases : ∀ i, state.leases.count i = if state.requests[i]?.any Request.leased then 1 else 0
  placed : ∀ request ∈ state.requests, request.phase = .untracked → request.channelID ≤ 0

section Steps

variable {state : State} {i : Nat} {request : Request}

theorem placed_set (holds : Holds state) (phase : Phase) (tracked : phase ≠ .untracked) :
    ∀ other ∈ state.requests.set i { request with phase := phase }, other.phase = .untracked → other.channelID ≤ 0 := by
  intro other listed untracked
  rcases List.mem_or_eq_of_mem_set listed with listed | rfl
  · exact holds.placed other listed untracked
  · exact absurd untracked tracked

theorem leases_set (holds : Holds state) (found : state.requests[i]? = some request) (next : Request) (leases : List Nat)
    (own : leases.count i = if next.leased then 1 else 0) (others : ∀ j, j ≠ i → leases.count j = state.leases.count j) (j : Nat) :
    leases.count j = if (state.requests.set i next)[j]?.any Request.leased then 1 else 0 := by
  have inside : i < state.requests.length := (List.getElem?_eq_some_iff.mp found).1
  by_cases same : j = i
  · subst same
    rw [List.getElem?_set_self inside, Option.any_some, own]
  · rw [List.getElem?_set_ne (Ne.symm same), others j same, holds.leases j]

-- A change of phase by which nothing is admitted or given back locally.
theorem holds_moved (holds : Holds state) (found : state.requests[i]? = some request) (phase : Phase) (leases : List Nat)
    (before : request.phase ≠ .admitted) (after : phase ≠ .admitted) (tracked : phase ≠ .untracked)
    (own : leases.count i = if ({ request with phase := phase } : Request).leased then 1 else 0)
    (others : ∀ j, j ≠ i → leases.count j = state.leases.count j) :
    Holds { state with leases := leases, requests := state.requests.set i { request with phase := phase } } := by
  refine ⟨?_, ?_, holds.present, leases_set holds found _ leases own others, placed_set holds phase tracked⟩
  · apply holds.active.congr
    intro channelID
    have changed := channel_change state.requests i request phase found channelID
    rwa [if_neg (fun both => before both.1), if_neg (fun both => after both.1)] at changed
  · intro channelID
    apply (holds.users channelID).congr
    intro userID
    have changed := user_change state.requests i request phase found channelID userID
    rwa [if_neg (fun both => before both.1), if_neg (fun both => after both.1)] at changed

theorem holds_appended (holds : Holds state) (request : Request) (leases : List Nat) (idle : request.phase ≠ .admitted)
    (placed : request.phase = .untracked → request.channelID ≤ 0)
    (leased : leases = if request.leased then state.requests.length :: state.leases else state.leases) :
    Holds { state with leases := leases, requests := state.requests ++ [request] } := by
  have channel : channelOf request = none := if_neg idle
  refine ⟨?_, ?_, holds.present, ?_, ?_⟩
  · rw [channelHolders, filter_map_snoc _ _ _ channel]
    exact holds.active
  · intro channelID
    have user : userOf channelID request = none := if_neg fun both => idle both.1
    rw [userHolders, filter_map_snoc _ _ _ user]
    exact holds.users channelID
  · intro j
    have old := holds.leases j
    dsimp only
    by_cases last : j = state.requests.length
    · subst last
      rw [List.getElem?_eq_none le_rfl] at old
      rw [List.getElem?_concat_length, Option.any_some, leased]
      split
      · rw [List.count_cons_self, old]
        rfl
      · exact old
    · have others : leases.count j = state.leases.count j := by
        rw [leased]
        split
        · exact List.count_cons_of_ne (Ne.symm last)
        · rfl
      rw [others, old]
      by_cases inside : j < state.requests.length
      · rw [List.getElem?_append_left inside]
      · rw [List.getElem?_eq_none (by omega), List.getElem?_eq_none (by simp; omega)]
  · intro other listed
    rcases List.mem_append.mp listed with listed | listed
    · exact holds.placed other listed
    · rw [List.mem_singleton.mp listed]
      exact placed

theorem user_active_insert (users : Channels) (channelID other : Int) (counters : Counters Int) :
    userActive (users.insert channelID counters) other = if other = channelID then counters else userActive users other := by
  unfold userActive
  split
  · rename_i same
    rw [same, AList.lookup_insert, Option.getD_some]
  · rename_i different
    rw [AList.lookup_insert_ne different]

theorem user_active_erase (users : Channels) (channelID other : Int) :
    userActive (users.erase channelID) other = if other = channelID then ∅ else userActive users other := by
  unfold userActive
  split
  · rename_i same
    rw [same, AList.lookup_erase, Option.getD_none]
  · rename_i different
    rw [AList.lookup_erase_ne different]

theorem holds_admitted (holds : Holds state) (found : state.requests[i]? = some request) (reserved : request.phase = .reserved) :
    Holds { state with
      active := raise state.active request.channelID
      users := state.users.insert request.channelID (raise (userActive state.users request.channelID) request.userID)
      requests := state.requests.set i { request with phase := .admitted } } := by
  have before : request.phase ≠ .admitted := by simp [reserved]
  have users (channelID userID : Int) := user_change state.requests i request .admitted found channelID userID
  have own : Counts (raise (userActive state.users request.channelID) request.userID)
      (userHolders (state.requests.set i { request with phase := .admitted }) request.channelID) := by
    apply (holds.users request.channelID).raise
    intro userID
    have changed := users request.channelID userID
    rw [if_neg (fun both => before both.1), Nat.add_zero] at changed
    rw [changed]
    simp
  refine ⟨?_, ?_, ?_, ?_, placed_set holds _ (by simp)⟩
  · apply holds.active.raise
    intro channelID
    have changed := channel_change state.requests i request .admitted found channelID
    rw [if_neg (fun both => before both.1), Nat.add_zero] at changed
    rw [changed]
    simp
  · intro channelID
    dsimp only
    rw [user_active_insert]
    split
    · rename_i same
      rwa [same]
    · rename_i different
      apply (holds.users channelID).congr
      intro userID
      have changed := users channelID userID
      rwa [if_neg (fun both => before both.1), if_neg (fun both => different both.2.1.symm)] at changed
  · intro channelID counters stored
    by_cases same : channelID = request.channelID
    · rw [same, AList.lookup_insert] at stored
      rw [← Option.some.inj stored, Ne, own.empty_iff]
      intro empty
      have changed := users request.channelID request.userID
      rw [empty] at changed
      simp [before] at changed
    · rw [AList.lookup_insert_ne same] at stored
      exact holds.present channelID counters stored
  · apply leases_set holds found
    · rw [holds.leases i, found]
      simp [Request.leased, reserved]
    · intro j _
      rfl

theorem lower_users (holds : Holds state) (channelID userID : Int) (held : userID ∈ userHolders state.requests channelID) (other : Int) :
    userActive (lowerUsers state.users channelID userID) other =
      if other = channelID then lower (userActive state.users channelID) userID else userActive state.users other := by
  have counts := holds.users channelID
  unfold lowerUsers
  cases stored : state.users.lookup channelID with
  | none =>
      have known := counts.covered userID held
      rw [userActive, stored] at known
      exact absurd known List.not_mem_nil
  | some counters =>
      have read : userActive state.users channelID = counters := by
        rw [userActive, stored, Option.getD_some]
      rw [read]
      dsimp only
      split
      · rename_i empty
        rw [user_active_erase]
        split
        · exact (AList.ext empty).symm
        · rfl
      · rw [user_active_insert]

theorem holds_released (holds : Holds state) (found : state.requests[i]? = some request) (admitted : request.phase = .admitted) :
    Holds (release state i request) := by
  have users (channelID userID : Int) := user_change state.requests i request .released found channelID userID
  have held : request.userID ∈ userHolders state.requests request.channelID := by
    rw [← List.count_pos_iff]
    have changed := users request.channelID request.userID
    rw [if_pos ⟨admitted, rfl, rfl⟩, if_neg (by simp)] at changed
    omega
  have read := lower_users holds request.channelID request.userID held
  refine ⟨?_, ?_, ?_, ?_, placed_set holds _ (by simp)⟩
  · apply holds.active.lower
    intro channelID
    have changed := channel_change state.requests i request .released found channelID
    simp only [admitted, reduceCtorEq, true_and, false_and, if_false, Nat.add_zero] at changed
    exact changed
  · intro channelID
    rw [release, read]
    dsimp only
    split
    · rename_i same
      subst same
      apply (holds.users _).lower
      intro userID
      have changed := users request.channelID userID
      simp only [admitted, reduceCtorEq, true_and, false_and, if_false, Nat.add_zero] at changed
      exact changed
    · rename_i different
      apply (holds.users channelID).congr
      intro userID
      have changed := users channelID userID
      simp only [admitted, reduceCtorEq, true_and, false_and, if_false, Nat.add_zero] at changed
      rwa [if_neg (fun both => different both.1.symm), Nat.add_zero] at changed
  · intro channelID counters stored
    dsimp only [release, lowerUsers] at stored
    split at stored
    · exact holds.present channelID counters stored
    · rename_i old _
      by_cases same : channelID = request.channelID
      · rw [same] at stored
        split at stored
        · rw [AList.lookup_erase] at stored
          cases stored
        · rename_i filled
          rw [AList.lookup_insert] at stored
          rwa [← Option.some.inj stored]
      · split at stored
        · rw [AList.lookup_erase_ne same] at stored
          exact holds.present channelID counters stored
        · rw [AList.lookup_insert_ne same] at stored
          exact holds.present channelID counters stored
  · apply leases_set holds found
    · dsimp only [release]
      rw [holds.leases i, found]
      simp [Request.leased, admitted]
    · intro j _
      rfl

theorem step_holds (holds : Holds state) (action : Action) : Holds (step state action) := by
  cases action with
  | begin channelID userID totalLimit userLimit reservation =>
      rw [step, begin]
      split
      · rename_i unknown
        apply holds_appended holds
        · simp
        · exact fun _ => unknown
        · simp [Request.leased]
      · split
        · apply holds_appended holds
          · simp
          · simp
          · simp [Request.leased]
        · apply holds_appended holds
          · simp
          · simp
          · simp [Request.leased]
  | enter i =>
      rw [step]
      split
      · exact holds
      · rename_i request found
        have old := holds.leases i
        rw [found] at old
        split
        · rename_i reserved
          have refused (loose : request.enforced = false) :
              Holds { state with requests := state.requests.set i { request with phase := .refused .capacityReached } } := by
            apply holds_moved holds found _ state.leases (by simp [reserved]) (by simp) (by simp)
            · rw [old]
              simp [Request.leased, loose]
            · exact fun _ _ => rfl
          rw [enter]
          split
          · rename_i full
            exact refused full.1
          · split
            · rename_i full
              exact refused full.1
            · exact holds_admitted holds found reserved
        · exact holds
  | release i =>
      rw [step]
      split
      · exact holds
      · rename_i request found
        have old := holds.leases i
        rw [found] at old
        split
        · rename_i admitted
          exact holds_released holds found admitted
        · rename_i untracked
          apply holds_moved holds found _ state.leases (by simp [untracked]) (by simp) (by simp)
          · rw [old]
            simp [Request.leased, untracked]
          · exact fun _ _ => rfl
        · exact holds
  | finish i =>
      rw [step]
      split
      · exact holds
      · rename_i request found
        have old := holds.leases i
        rw [found] at old
        split
        · rename_i released
          apply holds_moved holds found _ _ (by simp [released]) (by simp) (by simp)
          · split
            · rename_i enforced
              rw [List.count_erase_self, old]
              simp [Request.leased, released, enforced]
            · rename_i loose
              rw [old]
              simp [Request.leased, loose]
          · intro j different
            split
            · exact List.count_erase_of_ne different
            · rfl
        · exact holds

end Steps

section Limits

variable {state next : State}

def phaseAt (state : State) (i : Nat) : Option Phase := state.requests[i]?.map Request.phase

def RefusedAt (state : State) (i : Nat) : Prop := ∃ admission, phaseAt state i = some (.refused admission)

theorem phase_set (requests : List Request) (i j : Nat) (request : Request) (phase : Phase) (found : requests[i]? = some request) :
    (requests.set i { request with phase := phase })[j]?.map Request.phase = if j = i then some phase else requests[j]?.map Request.phase := by
  have inside : i < requests.length := (List.getElem?_eq_some_iff.mp found).1
  split
  · rename_i same
    rw [same, List.getElem?_set_self inside, Option.map_some]
  · rename_i different
    rw [List.getElem?_set_ne (Ne.symm different)]

theorem phase_snoc (requests : List Request) (j : Nat) (request : Request) :
    (requests ++ [request])[j]?.map Request.phase = if j = requests.length then some request.phase else requests[j]?.map Request.phase := by
  split
  · rename_i same
    rw [same, List.getElem?_concat_length, Option.map_some]
  · rename_i different
    by_cases inside : j < requests.length
    · rw [List.getElem?_append_left inside]
    · have past : (requests ++ [request]).length ≤ j := by
        rw [List.length_append, List.length_singleton]
        omega
      rw [List.getElem?_eq_none past, List.getElem?_eq_none (by omega)]

-- A step leaves the counters and the leases alone and admits nothing, or it reserves, admits, gives back or ends a request.
inductive Effect (state : State) : State → Prop
  | quiet (requests : List Request)
      (admits : ∀ i, requests[i]?.map Request.phase = some .admitted → phaseAt state i = some .admitted) :
      Effect state { state with requests := requests }
  | reserved (leases : List Nat) (request : Request) (waits : request.phase = .reserved) :
      Effect state { state with leases := leases, requests := state.requests ++ [request] }
  | admitted (i : Nat) (request : Request) (found : state.requests[i]? = some request) (reserved : request.phase = .reserved)
      (total : ¬ (request.enforced = false ∧ 0 < request.totalLimit ∧ request.totalLimit ≤ get state.active request.channelID))
      (user : ¬ (request.enforced = false ∧ 0 < request.userLimit ∧
        request.userLimit ≤ get (userActive state.users request.channelID) request.userID)) :
      Effect state { state with
        active := raise state.active request.channelID
        users := state.users.insert request.channelID (raise (userActive state.users request.channelID) request.userID)
        requests := state.requests.set i { request with phase := .admitted } }
  | released (i : Nat) (request : Request) (found : state.requests[i]? = some request) : Effect state (release state i request)
  | finished (i : Nat) (request : Request) (found : state.requests[i]? = some request) : Effect state (finish state i request)

theorem quiet_appended (state : State) (request : Request) (idle : request.phase ≠ .admitted) :
    Effect state { state with requests := state.requests ++ [request] } := by
  apply Effect.quiet
  intro i admitted
  rw [phase_snoc] at admitted
  split at admitted
  · exact absurd (Option.some.inj admitted) idle
  · exact admitted

theorem quiet_moved (state : State) (i : Nat) (request : Request) (phase : Phase) (found : state.requests[i]? = some request)
    (idle : phase ≠ .admitted) : Effect state { state with requests := state.requests.set i { request with phase := phase } } := by
  apply Effect.quiet
  intro j admitted
  rw [phase_set _ _ _ _ _ found] at admitted
  split at admitted
  · exact absurd (Option.some.inj admitted) idle
  · exact admitted

theorem step_effect (state : State) (action : Action) : Effect state (step state action) := by
  have same : Effect state state := .quiet state.requests fun _ => id
  cases action with
  | begin channelID userID totalLimit userLimit reservation =>
      rw [step, begin]
      split
      · exact quiet_appended state _ (by simp)
      · split
        · exact quiet_appended state _ (by simp)
        · exact .reserved _ _ rfl
  | enter i =>
      rw [step]
      split
      · exact same
      · rename_i request found
        split
        · rename_i reserved
          rw [enter]
          split
          · exact quiet_moved state i request _ found (by simp)
          · rename_i total
            split
            · exact quiet_moved state i request _ found (by simp)
            · rename_i user
              exact .admitted i request found reserved total user
        · exact same
  | release i =>
      rw [step]
      split
      · exact same
      · rename_i request found
        split
        · exact .released i request found
        · exact quiet_moved state i request _ found (by simp)
        · exact same
  | finish i =>
      rw [step]
      split
      · exact same
      · rename_i request found
        split
        · exact .finished i request found
        · exact same

-- A step that refuses a request changes neither the counters nor the leases.
theorem refusal_quiet (effect : Effect state next) (i : Nat) (now : RefusedAt next i) (before : ¬ RefusedAt state i) :
    next.active = state.active ∧ next.users = state.users ∧ next.leases = state.leases := by
  have elsewhere (j : Nat) (request : Request) (phase : Phase) (found : state.requests[j]? = some request)
      (moved : next.requests = state.requests.set j { request with phase := phase }) (other : ∀ admission, phase ≠ .refused admission) :
      next.active = state.active ∧ next.users = state.users ∧ next.leases = state.leases := by
    obtain ⟨admission, refused⟩ := now
    rw [phaseAt, moved, phase_set _ _ _ _ _ found] at refused
    split at refused
    · exact absurd (Option.some.inj refused) (other admission)
    · exact absurd ⟨admission, refused⟩ before
  cases effect with
  | quiet requests admits => exact ⟨rfl, rfl, rfl⟩
  | reserved leases request waits =>
      obtain ⟨admission, refused⟩ := now
      rw [phaseAt, phase_snoc] at refused
      split at refused
      · rw [waits] at refused
        cases Option.some.inj refused
      · exact absurd ⟨admission, refused⟩ before
  | admitted j request found _ _ _ => exact elsewhere j request .admitted found rfl (by simp)
  | released j request found => exact elsewhere j request .released found rfl (by simp)
  | finished j request found => exact elsewhere j request .finished found rfl (by simp)

-- Without enforcement an admission stays within the positive limits that it was asked with.
def WithinLimits (state : State) (request : Request) : Prop :=
  (0 < request.totalLimit → get state.active request.channelID ≤ request.totalLimit) ∧
    (0 < request.userLimit → get (userActive state.users request.channelID) request.userID ≤ request.userLimit)

theorem admission_within (effect : Effect state next) (i : Nat) (request : Request) (now : next.requests[i]? = some request)
    (admitted : request.phase = .admitted) (before : phaseAt state i ≠ some .admitted) (loose : request.enforced = false) :
    WithinLimits next request := by
  have elsewhere (j : Nat) (other : Request) (phase : Phase) (found : state.requests[j]? = some other)
      (moved : next.requests = state.requests.set j { other with phase := phase }) (waits : phase ≠ .admitted) : WithinLimits next request := by
    have read := phase_set state.requests j i other phase found
    rw [← moved, now, Option.map_some, admitted] at read
    split at read
    · exact absurd (Option.some.inj read).symm waits
    · exact absurd read.symm before
  cases effect with
  | quiet requests admits =>
      apply absurd (admits i _) before
      rw [now, Option.map_some, admitted]
  | reserved leases other waits =>
      have read := phase_snoc state.requests i other
      rw [now, Option.map_some, admitted] at read
      split at read
      · rw [waits] at read
        cases Option.some.inj read
      · exact absurd read.symm before
  | admitted j other found reserved total user =>
      by_cases same : i = j
      · subst same
        have inside : i < state.requests.length := (List.getElem?_eq_some_iff.mp found).1
        dsimp only at now
        rw [List.getElem?_set_self inside] at now
        obtain rfl := Option.some.inj now
        dsimp only at loose
        constructor
        · intro limited
          dsimp only at limited ⊢
          rw [get_raise, if_pos rfl]
          have room : ¬ other.totalLimit ≤ get state.active other.channelID := fun reached => total ⟨loose, limited, reached⟩
          omega
        · intro limited
          dsimp only at limited ⊢
          rw [user_active_insert, if_pos rfl, get_raise, if_pos rfl]
          have room : ¬ other.userLimit ≤ get (userActive state.users other.channelID) other.userID :=
            fun reached => user ⟨loose, limited, reached⟩
          omega
      · dsimp only at now
        rw [List.getElem?_set_ne (Ne.symm same)] at now
        apply absurd _ before
        rw [phaseAt, now, Option.map_some, admitted]
  | released j other found => exact elsewhere j other .released found rfl (by simp)
  | finished j other found => exact elsewhere j other .finished found rfl (by simp)

-- What a request was asked with, whatever became of it.
def Request.asked (request : Request) : Request := { request with phase := .finished }

theorem asked_set (requests : List Request) (i : Nat) (request : Request) (phase : Phase) (found : requests[i]? = some request) :
    (requests.set i { request with phase := phase }).map Request.asked = requests.map Request.asked := by
  obtain ⟨inside, rfl⟩ := List.getElem?_eq_some_iff.mp found
  have kept : i < (requests.map Request.asked).length := by simpa using inside
  have same : Request.asked { requests[i] with phase := phase } = (requests.map Request.asked)[i] := by
    rw [List.getElem_map]
    rfl
  rw [List.map_set, same, List.set_getElem_self]

theorem asked_moved (requests : List Request) (i : Nat) (request : Request) (phase : Phase) (found : requests[i]? = some request) :
    requests.map Request.asked <+: (requests.set i { request with phase := phase }).map Request.asked := by
  rw [asked_set requests i request phase found]

-- A request, once begun, stays on the list with what it was asked with.
theorem step_asked (state : State) (action : Action) : state.requests.map Request.asked <+: (step state action).requests.map Request.asked := by
  have same : state.requests.map Request.asked <+: state.requests.map Request.asked := List.prefix_refl _
  have appended (request : Request) : state.requests.map Request.asked <+: (state.requests ++ [request]).map Request.asked := by
    rw [List.map_append]
    exact List.prefix_append _ _
  cases action with
  | begin channelID userID totalLimit userLimit reservation =>
      rw [step, begin]
      split
      · exact appended _
      · split
        · exact appended _
        · exact appended _
  | enter i =>
      rw [step]
      split
      · exact same
      · rename_i request found
        have moved (phase : Phase) := asked_moved state.requests i request phase found
        split
        · rw [enter]
          split
          · exact moved _
          · split
            · exact moved _
            · exact moved _
        · exact same
  | release i =>
      rw [step]
      split
      · exact same
      · rename_i request found
        have moved (phase : Phase) := asked_moved state.requests i request phase found
        split
        · exact moved _
        · exact moved _
        · exact same
  | finish i =>
      rw [step]
      split
      · exact same
      · rename_i request found
        split
        · exact asked_moved state.requests i request _ found
        · exact same

theorem asked_kept (state : State) (action : Action) (request : Request) (listed : request ∈ state.requests) :
    ∃ later ∈ (step state action).requests, later.asked = request.asked := by
  have kept := (step_asked state action).subset (List.mem_map_of_mem listed)
  obtain ⟨later, listed, same⟩ := List.mem_map.mp kept
  exact ⟨later, listed, same⟩

-- The largest of the positive limits, where the gate enforces none of the requests that `mine` selects.
def LimitedBy (state : State) (mine : Request → Prop) (limit : Request → Int) (bound : Int) : Prop :=
  ∀ request ∈ state.requests, mine request.asked → request.enforced = false ∧ 0 < limit request.asked ∧ limit request.asked ≤ bound

theorem limited_before (state : State) (action : Action) (mine : Request → Prop) (limit : Request → Int) (bound : Int)
    (limited : LimitedBy (step state action) mine limit bound) : LimitedBy state mine limit bound := by
  intro request listed selected
  obtain ⟨later, known, same⟩ := asked_kept state action request listed
  have bounds := limited later known (same ▸ selected)
  have loose : later.asked.enforced = request.asked.enforced := by rw [same]
  rw [same] at bounds
  exact ⟨loose.symm.trans bounds.1, bounds.2⟩

theorem user_active_lowered (users : Channels) (channelID userID other third : Int) :
    get (userActive (lowerUsers users channelID userID) other) third ≤ get (userActive users other) third := by
  unfold lowerUsers
  split
  · exact le_rfl
  · rename_i counters stored
    have read : userActive users channelID = counters := by
      rw [userActive, stored, Option.getD_some]
    split
    · rw [user_active_erase]
      split
      · exact Nat.zero_le _
      · exact le_rfl
    · rw [user_active_insert]
      split
      · rename_i same
        rw [same, read]
        exact get_lower_le _ _ _
      · exact le_rfl

theorem run_snoc (actions : List Action) (action : Action) : run (actions ++ [action]) = step (run actions) action := by
  rw [run, List.foldl_append]
  rfl

theorem total_limited (actions : List Action) (channelID bound : Int) (pos : 0 ≤ bound)
    (limited : LimitedBy (run actions) (fun request => request.channelID = channelID) Request.totalLimit bound) :
    get (run actions).active channelID ≤ bound := by
  induction actions using List.reverseRecOn with
  | nil => exact pos
  | append_singleton actions action ih =>
      rw [run_snoc] at limited ⊢
      have limited := limited_before _ _ _ _ _ limited
      have before := ih limited
      generalize run actions = state at *
      have effect := step_effect state action
      generalize step state action = next at effect ⊢
      cases effect with
      | quiet requests admits => exact before
      | reserved leases request waits => exact before
      | admitted i request found reserved total user =>
          dsimp only
          rw [get_raise]
          split
          · rename_i same
            obtain ⟨loose, given, small⟩ := limited request (List.mem_of_getElem? found) same.symm
            dsimp only [Request.asked] at given small
            have room : ¬ request.totalLimit ≤ get state.active request.channelID := fun reached => total ⟨loose, given, reached⟩
            rw [← same] at room
            omega
          · exact before
      | released i request found =>
          have lowered := get_lower_le state.active request.channelID channelID
          dsimp only [release]
          omega
      | finished i request found => exact before

theorem user_limited (actions : List Action) (channelID userID bound : Int) (pos : 0 ≤ bound)
    (limited : LimitedBy (run actions) (fun request => request.channelID = channelID ∧ request.userID = userID) Request.userLimit bound) :
    get (userActive (run actions).users channelID) userID ≤ bound := by
  induction actions using List.reverseRecOn with
  | nil => exact pos
  | append_singleton actions action ih =>
      rw [run_snoc] at limited ⊢
      have limited := limited_before _ _ _ _ _ limited
      have before := ih limited
      generalize run actions = state at *
      have effect := step_effect state action
      generalize step state action = next at effect ⊢
      cases effect with
      | quiet requests admits => exact before
      | reserved leases request waits => exact before
      | admitted i request found reserved total user =>
          dsimp only
          rw [user_active_insert]
          split
          · rename_i same
            rw [get_raise]
            split
            · rename_i own
              obtain ⟨loose, given, small⟩ := limited request (List.mem_of_getElem? found) ⟨same.symm, own.symm⟩
              dsimp only [Request.asked] at given small
              have room : ¬ request.userLimit ≤ get (userActive state.users request.channelID) request.userID :=
                fun reached => user ⟨loose, given, reached⟩
              rw [← same, ← own] at room
              rw [← same]
              omega
            · rwa [← same]
          · exact before
      | released i request found =>
          have lowered := user_active_lowered state.users request.channelID request.userID channelID userID
          dsimp only [release]
          omega
      | finished i request found => exact before

end Limits

section InFlight

theorem run_holds (actions : List Action) : Holds (run actions) := by
  induction actions using List.reverseRecOn with
  | nil =>
      refine ⟨counts_empty, fun _ => counts_empty, ?_, fun _ => rfl, ?_⟩
      · intro channelID counters stored
        cases stored
      · intro request listed
        cases listed
  | append_singleton actions action ih =>
      rw [run_snoc]
      exact step_holds ih action

theorem outstanding_count (state : State) (holds : Holds state) (channelID : Int) (pos : 0 < channelID) (userID : Int) :
    outstanding state channelID userID = (userHolders state.requests channelID).count userID := by
  rw [userHolders, List.count_filterMap, outstanding]
  apply List.countP_congr
  intro request listed
  have placed := holds.placed request listed
  rw [beq_iff_eq, user_of_iff, decide_eq_true_eq, Request.outstanding]
  constructor
  · intro both
    obtain ⟨rfl, rfl, live⟩ := both
    rw [decide_eq_true_eq] at live
    rcases live with admitted | untracked
    · exact ⟨admitted, rfl, rfl⟩
    · have unknown := placed untracked
      omega
  · intro both
    obtain ⟨admitted, rfl, rfl⟩ := both
    exact ⟨rfl, rfl, by simp [admitted]⟩

-- What the in-flight counters of the channels say in a state.
structure InFlight (state : State) : Prop where
  total : ∀ channelID, get state.active channelID = total (userActive state.users channelID)
  each : ∀ channelID userID, 0 < channelID → get (userActive state.users channelID) userID = outstanding state channelID userID
  whole : ∀ channelID, 0 < channelID →
    get state.active channelID = state.requests.countP fun request => request.channelID = channelID ∧ request.outstanding
  positive : ∀ entry ∈ state.active.entries, 0 < entry.2
  filled : ∀ channelID counters, state.users.lookup channelID = some counters →
    counters.entries ≠ [] ∧ ∀ entry ∈ counters.entries, 0 < entry.2
  refused : ∀ i, RefusedAt state i → i ∉ state.leases

theorem in_flight (actions : List Action) : InFlight (run actions) := by
  have holds := run_holds actions
  generalize run actions = state at holds
  refine ⟨?_, ?_, ?_, fun _ listed => (holds.active.entry listed).1, ?_, ?_⟩
  · intro channelID
    rw [holds.active.get, (holds.users channelID).total, holders_of_channel]
  · intro channelID userID pos
    rw [(holds.users channelID).get, outstanding_count state holds channelID pos]
  · intro channelID pos
    rw [holds.active.get, channelHolders, List.count_filterMap]
    apply List.countP_congr
    intro request listed
    have placed := holds.placed request listed
    rw [beq_iff_eq, channel_of_iff, decide_eq_true_eq, Request.outstanding, decide_eq_true_eq]
    constructor
    · intro both
      exact ⟨both.2.symm, .inl both.1⟩
    · intro both
      rcases both.2 with admitted | untracked
      · exact ⟨admitted, both.1.symm⟩
      · have unknown := placed untracked
        omega
  · intro channelID counters stored
    refine ⟨holds.present channelID counters stored, fun entry listed => ?_⟩
    have counts := holds.users channelID
    rw [userActive, stored, Option.getD_some] at counts
    exact (counts.entry listed).1
  · intro i refused
    obtain ⟨admission, refused⟩ := refused
    have leased := holds.leases i
    rw [phaseAt, Option.map_eq_some_iff] at refused
    obtain ⟨request, found, refused⟩ := refused
    rw [found] at leased
    rw [← List.count_eq_zero, leased]
    simp [Request.leased, refused]

-- What a step may do to the counters and the leases.
structure StepLaw (state next : State) : Prop where
  refusal : ∀ i, RefusedAt next i → ¬ RefusedAt state i →
    next.active = state.active ∧ next.users = state.users ∧ next.leases = state.leases
  admission : ∀ i request, next.requests[i]? = some request → request.phase = .admitted → phaseAt state i ≠ some .admitted →
    request.enforced = false → WithinLimits next request

theorem in_flight_exact (actions : List Action) (slots : List FaultDomains.Action) :
    InFlight (run actions) ∧
      (∀ action, StepLaw (run actions) (step (run actions) action)) ∧
      (∀ channelID bound, 0 ≤ bound →
        LimitedBy (run actions) (fun request => request.channelID = channelID) Request.totalLimit bound →
          get (run actions).active channelID ≤ bound) ∧
      (∀ channelID userID bound, 0 ≤ bound →
        LimitedBy (run actions) (fun request => request.channelID = channelID ∧ request.userID = userID) Request.userLimit bound →
          get (userActive (run actions).users channelID) userID ≤ bound) ∧
      ∀ key, FaultDomains.SlotsLaw (FaultDomains.run slots) key := by
  refine ⟨in_flight actions, ?_, total_limited actions, user_limited actions, FaultDomains.slots_law slots⟩
  intro action
  have effect := step_effect (run actions) action
  exact ⟨refusal_quiet effect, admission_within effect⟩

-- A request without a channel is admitted and counted nowhere.
theorem channelless_uncounted :
    ¬ ∀ (actions : List Action) (channelID userID : Int),
      get (userActive (run actions).users channelID) userID = outstanding (run actions) channelID userID := by
  intro counted
  have one := counted [.begin 0 7 0 0 ⟨false, .admitted⟩] 0 7
  revert one
  decide

end InFlight

end CodeGo.Gateway.Concurrency
