import CodeGo.Gateway.Probes
import CodeGo.Lib.Trace

set_option autoImplicit false

namespace CodeGo.Gateway.Shared

open Relational

/- Probe calls of many gateways on one health key. An update reads the key, runs its closure and
   commits only if the key has not changed since; after five changed keys it gives up. The flag a
   call returns is a variable outside the closure, which every attempt of the call shares. -/

def maxAttempts : Nat := 5

-- One call. What its attempts have read and the updates it has committed are kept for the statements only.
structure Call where
  now : Nat
  maxSlots : Nat
  requireExpired : Bool
  attempts : Nat := 0
  started : Bool := false
  seen : Option Nat := none
  reads : List ChannelHealth := []
  grants : Nat := 0
  result : Option Bool := none
deriving DecidableEq, Repr

def Call.admits (call : Call) (health : ChannelHealth) : Bool := probeStarts call.now call.maxSlots call.requireExpired health

-- The key, how often it has been written, the calls, the callers told to probe under the lease in
-- force, and the largest bound a call has come with.
structure Key where
  stored : Option ChannelHealth
  version : Nat := 0
  calls : Nat → Option Call := fun _ => none
  admitted : List Nat := []
  limit : Nat := 0

def Key.health (key : Key) : ChannelHealth := key.stored.getD {}

inductive Move where
  | begin (caller now maxSlots : Nat) (requireExpired : Bool)
  | busy (caller now maxSlots : Nat) (requireExpired : Bool)
  | read (caller : Nat)
  | commit (caller : Nat)
  | fail (caller : Nat)
  | write (health : Option ChannelHealth)
deriving DecidableEq, Repr

def Key.put (key : Key) (caller : Nat) (call : Call) : Key := { key with calls := Function.update key.calls caller (some call) }

-- An update that takes no slot; the slots it gives back or clears count for no caller any more.
def Key.rewrite (key : Key) (health : Option ChannelHealth) : Key :=
  { key with
    stored := health
    version := key.version + 1
    admitted := key.admitted.take (health.getD {}).recoveryProbeSlots }

-- The call returns the shared flag, and whoever is told to probe does so.
def Key.answer (key : Key) (caller : Nat) (call : Call) : Key :=
  { key.put caller { call with seen := none, result := some call.started } with
    admitted := if call.started then caller :: key.admitted else key.admitted }

-- A slot taken under the lease in force, or the first one of a new lease.
def Key.grant (key : Key) (caller : Nat) (call : Call) : Key :=
  { key.put caller { call with seen := none, grants := call.grants + 1, result := some call.started } with
    stored := some (tryStartChannelProbe call.now call.maxSlots call.requireExpired key.health)
    version := key.version + 1
    admitted := if call.now < key.health.recoveryProbeUntil then caller :: key.admitted else [caller] }

def readHealth (key : Key) (caller : Nat) (call : Call) : Key :=
  key.put caller { call with
    started := call.started || call.admits key.health
    seen := some key.version
    reads := key.health :: call.reads }

-- The closure ran on the health that the attempt read, which is still the one in the key while its version stands.
def commitHealth (key : Key) (caller : Nat) (call : Call) (version : Nat) : Key :=
  if version = key.version then
    if call.admits key.health then key.grant caller call
    else (key.rewrite (some (tryStartChannelProbe call.now call.maxSlots call.requireExpired key.health))).answer caller call
  else if call.attempts + 1 = maxAttempts then key.answer caller { call with attempts := call.attempts + 1 }
  else key.put caller { call with seen := none, attempts := call.attempts + 1 }

-- A call in progress, and the version its current attempt has read.
def Key.running (key : Key) (caller : Nat) : Option Call := (key.calls caller).filter fun call => call.result.isNone

def step (key : Key) : Move → Key
  | .begin caller now maxSlots requireExpired =>
      if (key.calls caller).isSome then key
      else { key.put caller { now := now, maxSlots := maxSlots, requireExpired := requireExpired } with limit := max key.limit maxSlots }
  | .busy caller now maxSlots requireExpired =>
      if (key.calls caller).isSome then key
      else key.put caller { now := now, maxSlots := maxSlots, requireExpired := requireExpired, result := some false }
  | .read caller =>
      match key.running caller with
      | none => key
      | some call => if call.seen.isSome then key else readHealth key caller call
  | .commit caller =>
      match key.running caller with
      | none => key
      | some call =>
          match call.seen with
          | none => key
          | some version => commitHealth key caller call version
  | .fail caller =>
      match key.running caller with
      | none => key
      | some call => key.answer caller call
  | .write health => key.rewrite health

/- What a returned flag promises -/

structure Lawful (key : Key) : Prop where
  admitted : ∀ caller call, key.calls caller = some call → call.result = some true → call.grants = 1
  refused : ∀ caller call, key.calls caller = some call → call.result = some false → call.grants = 0
  bounded : key.admitted.length ≤ key.limit

-- No attempt of the call has read a health that admits the probe.
def Call.unmoved (call : Call) : Prop := ∀ health ∈ call.reads, call.admits health = false

-- An attempt that would have admitted the probe is lost only if a later one commits its admission.
def Faithful (key : Key) : Move → Prop
  | .commit caller => ∀ call version, key.running caller = some call → call.seen = some version →
      if version = key.version then call.admits key.health = true ∨ call.unmoved
      else call.attempts + 1 = maxAttempts → call.unmoved
  | .fail caller => ∀ call, key.running caller = some call → call.unmoved
  | _ => True

-- What a call amounts to while the key is at a version and a health, below a bound on the slots asked for.
structure Sound (version : Nat) (health : ChannelHealth) (limit : Nat) (call : Call) : Prop where
  flag : call.result = none → (call.started = true ↔ ¬call.unmoved) ∧ call.grants = 0 ∧ call.maxSlots ≤ limit
  seen : ∀ read, call.seen = some read → read ≤ version ∧ (read = version → ∃ older, call.reads = health :: older)
  admitted : call.result = some true → call.grants = 1
  refused : call.result = some false → call.grants = 0

structure Kept (key : Key) : Prop where
  calls : ∀ caller call, key.calls caller = some call → Sound key.version key.health key.limit call
  held : key.admitted.length ≤ key.health.recoveryProbeSlots
  bounded : key.admitted.length ≤ key.limit

theorem Kept.lawful {key : Key} (kept : Kept key) : Lawful key where
  admitted caller call held := (kept.calls caller call held).admitted
  refused caller call held := (kept.calls caller call held).refused
  bounded := kept.bounded

theorem running_some {key : Key} {caller : Nat} {call : Call} (running : key.running caller = some call) :
    key.calls caller = some call ∧ call.result = none := by
  obtain ⟨held, open_⟩ := Option.filter_eq_some_iff.mp running
  exact ⟨held, Option.isNone_iff_eq_none.mp open_⟩

-- What holds of every call stays so when one call is replaced.
theorem put_calls {calls : Nat → Option Call} {caller : Nat} {call : Call} {holds : Call → Prop}
    (others : ∀ other held, calls other = some held → holds held) (own : holds call) (other : Nat) (held : Call)
    (found : Function.update calls caller (some call) other = some held) : holds held := by
  by_cases same : other = caller
  · subst same
    rw [Function.update_self] at found
    cases found
    exact own
  · rw [Function.update_of_ne same] at found
    exact others other held found

theorem Sound.wider {version limit larger : Nat} {health : ChannelHealth} {call : Call} (sound : Sound version health limit call)
    (wider : limit ≤ larger) : Sound version health larger call :=
  { sound with flag := fun open_ => ⟨(sound.flag open_).1, (sound.flag open_).2.1, (sound.flag open_).2.2.trans wider⟩ }

-- A written key leaves behind what every attempt has read.
theorem Sound.later {version limit : Nat} {health other : ChannelHealth} {call : Call} (sound : Sound version health limit call) :
    Sound (version + 1) other limit call :=
  { sound with seen := fun read seen =>
      have before := (sound.seen read seen).1
      ⟨Nat.le_succ_of_le before, fun is => absurd before (by omega)⟩ }

section

variable {key : Key} {caller : Nat} {call : Call}

theorem Kept.begins (kept : Kept key) (caller now maxSlots : Nat) (requireExpired : Bool) :
    Kept (step key (.begin caller now maxSlots requireExpired)) := by
  rw [step]
  by_cases known : (key.calls caller).isSome = true
  · rw [if_pos known]
    exact kept
  · rw [if_neg known]
    have fresh : Sound key.version key.health (max key.limit maxSlots)
        { now := now, maxSlots := maxSlots, requireExpired := requireExpired } :=
      ⟨fun _ => ⟨by simp [Call.unmoved], rfl, le_max_right _ _⟩, (nomatch ·, ·), (nomatch ·), (nomatch ·)⟩
    exact ⟨put_calls (fun other held found => (kept.calls other held found).wider (le_max_left _ _)) fresh, kept.held,
      kept.bounded.trans (le_max_left _ _)⟩

theorem Kept.turned_away (kept : Kept key) (caller now maxSlots : Nat) (requireExpired : Bool) :
    Kept (step key (.busy caller now maxSlots requireExpired)) := by
  rw [step]
  by_cases known : (key.calls caller).isSome = true
  · rw [if_pos known]
    exact kept
  · rw [if_neg known]
    exact ⟨put_calls kept.calls ⟨(nomatch ·), (nomatch ·, ·), (nomatch ·), fun _ => rfl⟩, kept.held, kept.bounded⟩

theorem Kept.reads (kept : Kept key) (running : key.running caller = some call) : Kept (readHealth key caller call) := by
  obtain ⟨held, open_⟩ := running_some running
  have sound := kept.calls caller call held
  obtain ⟨flag, grants, within⟩ := sound.flag open_
  refine ⟨put_calls kept.calls ⟨fun _ => ⟨?_, grants, within⟩, ?_, sound.admitted, sound.refused⟩, kept.held, kept.bounded⟩
  · by_cases admits : call.admits key.health = true
    · refine ⟨fun _ unmoved => ?_, fun _ => by simp [admits]⟩
      have refused : call.admits key.health = false := unmoved key.health List.mem_cons_self
      rw [admits] at refused
      cases refused
    · have refused : call.admits key.health = false := Bool.eq_false_iff.mpr admits
      have same : (call.started || call.admits key.health) = call.started := by rw [refused, Bool.or_false]
      refine ⟨fun started unmoved => ?_, fun moved => ?_⟩
      · exact flag.mp (same ▸ started) fun health member => unmoved health (List.mem_cons_of_mem _ member)
      · rw [show (call.started || call.admits key.health) = call.started from same]
        refine flag.mpr fun unmoved => moved fun health member => ?_
        rcases List.mem_cons.mp member with rfl | earlier
        · exact refused
        · exact unmoved health earlier
  · intro read seen
    cases seen
    exact ⟨le_rfl, fun _ => ⟨call.reads, rfl⟩⟩

theorem Kept.retried (kept : Kept key) (running : key.running caller = some call) (attempts : Nat) :
    Kept (key.put caller { call with seen := none, attempts := attempts }) := by
  obtain ⟨held, open_⟩ := running_some running
  have sound := kept.calls caller call held
  exact ⟨put_calls kept.calls { sound with seen := fun _ is => nomatch is }, kept.held, kept.bounded⟩

-- Only a call whose attempts have all been refused may return without a commit.
theorem Kept.answers (kept : Kept key) (sound : Sound key.version key.health key.limit call) (open_ : call.result = none)
    (unmoved : call.unmoved) : Kept (key.answer caller call) := by
  obtain ⟨flag, grants, -⟩ := sound.flag open_
  have quiet : call.started = false := Bool.eq_false_iff.mpr fun started => flag.mp started unmoved
  have same : (key.answer caller call).admitted = key.admitted := if_neg (by rw [quiet]; exact Bool.false_ne_true)
  refine ⟨put_calls kept.calls ⟨(nomatch ·), (nomatch ·, ·), fun told => ?_, fun _ => grants⟩, ?_, ?_⟩
  · have is : some call.started = some true := told
    rw [quiet] at is
    cases is
  · rw [same]
    exact kept.held
  · rw [same]
    exact kept.bounded

theorem Kept.rewritten (kept : Kept key) (health : Option ChannelHealth) : Kept (key.rewrite health) := by
  refine ⟨fun other held found => (kept.calls other held found).later, ?_, ?_⟩
  · exact (List.length_take_le _ _)
  · exact (List.length_take_le' _ _).trans kept.bounded

theorem Kept.granted (kept : Kept key) (running : key.running caller = some call) (admits : call.admits key.health = true)
    (read : ∃ older, call.reads = key.health :: older) : Kept (key.grant caller call) := by
  obtain ⟨held, open_⟩ := running_some running
  have sound := kept.calls caller call held
  obtain ⟨flag, grants, within⟩ := sound.flag open_
  obtain ⟨taken, room, -⟩ := granted_slots call.now key.health call.maxSlots call.requireExpired admits
  have slots : (key.grant caller call).health.recoveryProbeSlots =
      (tryStartChannelProbe call.now call.maxSlots call.requireExpired key.health).recoveryProbeSlots := rfl
  have started : call.started = true := by
    obtain ⟨older, reads⟩ := read
    refine flag.mpr fun unmoved => ?_
    have refused := unmoved key.health (reads ▸ List.mem_cons_self)
    rw [admits] at refused
    cases refused
  have counted : (key.grant caller call).admitted.length ≤ (key.grant caller call).health.recoveryProbeSlots := by
    rw [slots, taken]
    by_cases leased : call.now < key.health.recoveryProbeUntil
    · rw [if_pos leased, show (key.grant caller call).admitted = caller :: key.admitted from if_pos leased, List.length_cons]
      exact Nat.succ_le_succ kept.held
    · rw [if_neg leased, show (key.grant caller call).admitted = [caller] from if_neg leased]
      exact le_rfl
  refine ⟨put_calls (fun other found known => (kept.calls other found known).later)
    ⟨(nomatch ·), (nomatch ·, ·), fun _ => by rw [grants], fun told => ?_⟩, counted, (counted.trans (slots ▸ room)).trans within⟩
  have is : some call.started = some false := told
  rw [started] at is
  cases is

theorem Kept.commits (kept : Kept key) (running : key.running caller = some call) {version : Nat} (seen : call.seen = some version)
    (faithful : if version = key.version then call.admits key.health = true ∨ call.unmoved
      else call.attempts + 1 = maxAttempts → call.unmoved) : Kept (commitHealth key caller call version) := by
  obtain ⟨held, open_⟩ := running_some running
  have sound := kept.calls caller call held
  rw [commitHealth]
  by_cases current : version = key.version
  · rw [if_pos current]
    rw [if_pos current] at faithful
    by_cases admits : call.admits key.health = true
    · rw [if_pos admits]
      exact kept.granted running admits ((sound.seen version seen).2 current)
    · rw [if_neg admits]
      exact (kept.rewritten _).answers sound.later open_ (faithful.resolve_left admits)
  · rw [if_neg current]
    rw [if_neg current] at faithful
    by_cases last : call.attempts + 1 = maxAttempts
    · rw [if_pos last]
      have counted : Sound key.version key.health key.limit { call with attempts := call.attempts + 1 } := { sound with }
      exact kept.answers counted open_ (faithful last)
    · rw [if_neg last]
      exact kept.retried running (call.attempts + 1)

-- A call that returns without a commit although one of its attempts has been admitted says that it may probe.
theorem Sound.misled (sound : Sound key.version key.health key.limit call) (open_ : call.result = none)
    (moved : ¬call.unmoved) : ¬Lawful (key.answer caller call) := by
  obtain ⟨flag, grants, -⟩ := sound.flag open_
  intro lawful
  have told : some call.started = some true := by rw [flag.mpr moved]
  have one := lawful.admitted caller { call with seen := none, result := some call.started } (Function.update_self _ _ _) told
  rw [show call.grants = 1 from one] at grants
  cases grants

end

theorem Kept.move {key : Key} (kept : Kept key) (move : Move) (faithful : Faithful key move) : Kept (step key move) := by
  cases move with
  | begin caller now maxSlots requireExpired => exact kept.begins caller now maxSlots requireExpired
  | busy caller now maxSlots requireExpired => exact kept.turned_away caller now maxSlots requireExpired
  | read caller =>
      rw [step]
      cases running : key.running caller with
      | none => exact kept
      | some call =>
          by_cases seen : call.seen.isSome = true
          · simp only [if_pos seen]
            exact kept
          · simp only [if_neg seen]
            exact kept.reads running
  | commit caller =>
      rw [step]
      cases running : key.running caller with
      | none => exact kept
      | some call =>
          cases seen : call.seen with
          | none => simpa only [seen] using kept
          | some version =>
              simp only [seen]
              exact kept.commits running seen (faithful call version running seen)
  | fail caller =>
      rw [step]
      cases running : key.running caller with
      | none => exact kept
      | some call =>
          obtain ⟨held, open_⟩ := running_some running
          exact kept.answers (kept.calls caller call held) open_ (faithful call running)
  | write health => exact kept.rewritten health

theorem Kept.unfaithful {key : Key} (kept : Kept key) (move : Move) (unfaithful : ¬Faithful key move) : ¬Lawful (step key move) := by
  cases move with
  | commit caller =>
      simp only [Faithful, not_forall] at unfaithful
      obtain ⟨call, version, running, seen, lost⟩ := unfaithful
      obtain ⟨held, open_⟩ := running_some running
      have sound := kept.calls caller call held
      have commits : step key (.commit caller) = commitHealth key caller call version := by simp only [step, running, seen]
      rw [commits, commitHealth]
      by_cases current : version = key.version
      · rw [if_pos current, not_or] at lost
        rw [if_pos current, if_neg lost.1]
        exact Sound.misled sound.later open_ lost.2
      · rw [if_neg current, Classical.not_imp] at lost
        rw [if_neg current, if_pos lost.1]
        have counted : Sound key.version key.health key.limit { call with attempts := call.attempts + 1 } := { sound with }
        exact counted.misled open_ lost.2
  | fail caller =>
      simp only [Faithful, not_forall] at unfaithful
      obtain ⟨call, running, moved⟩ := unfaithful
      obtain ⟨held, open_⟩ := running_some running
      have fails : step key (.fail caller) = key.answer caller call := by simp only [step, running]
      rw [fails]
      exact (kept.calls caller call held).misled open_ moved
  | _ => exact (unfaithful trivial).elim

theorem kept_start (stored : Option ChannelHealth) : Kept { stored := stored } :=
  ⟨fun _ _ => (nomatch ·), Nat.zero_le _, le_rfl⟩

theorem probe_flags_truthful_iff (stored : Option ChannelHealth) (moves : List Move) :
    Every step (fun key move => Lawful (step key move)) { stored := stored } moves ↔ Every step Faithful { stored := stored } moves := by
  constructor
  · intro lawful
    have kept := kept_start stored
    generalize ({ stored := stored } : Key) = key at lawful kept
    induction moves generalizing key with
    | nil => trivial
    | cons move rest ih =>
        obtain ⟨first, others⟩ := lawful
        have faithful : Faithful key move := by
          by_contra unfaithful
          exact kept.unfaithful move unfaithful first
        exact ⟨faithful, ih (step key move) others (kept.move move faithful)⟩
  · intro faithful
    exact (Every.keeps _ (kept_start stored) (fun key move kept faithful => ⟨kept.move move faithful, (kept.move move faithful).lawful⟩)
      moves faithful).2

-- Two gateways ask for the one slot of an expired circuit; the second loses its first attempt and is refused on the next.
def expiredCircuit : ChannelHealth := { state := .cooling, coolingUntil := 5 }

def twoGateways : List Move :=
  [.begin 1 10 1 true, .begin 2 10 1 true, .read 1, .read 2, .commit 1, .commit 2, .read 2, .commit 2]

theorem second_gateway_is_admitted :
    (run step { stored := some expiredCircuit } twoGateways).admitted = [2, 1] ∧
      (run step { stored := some expiredCircuit } twoGateways).limit = 1 ∧
      ((run step { stored := some expiredCircuit } twoGateways).calls 2).map (fun call => (call.result, call.grants)) = some (some true, 0) ∧
      ¬Every step (fun key move => Lawful (step key move)) { stored := some expiredCircuit } twoGateways := by
  have crowd : (run step { stored := some expiredCircuit } twoGateways).admitted = [2, 1] := by decide +kernel
  have bound : (run step { stored := some expiredCircuit } twoGateways).limit = 1 := by decide +kernel
  refine ⟨crowd, bound, by decide +kernel, fun lawful => ?_⟩
  obtain ⟨-, -, -, -, -, -, -, last, -⟩ := lawful
  have few := last.bounded
  rw [show step _ _ = run step { stored := some expiredCircuit } twoGateways from rfl, crowd, bound] at few
  exact absurd few (by decide)

end CodeGo.Gateway.Shared
