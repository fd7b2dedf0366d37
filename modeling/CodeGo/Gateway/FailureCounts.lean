import CodeGo.Gateway.ChannelHealth
import CodeGo.Lib.Trace
import Mathlib.Data.Finset.Card

set_option autoImplicit false

namespace CodeGo.Gateway.Counts

open Relational

/- Failure reports of named requests against the counter that opens a circuit. A circuit skips the
   report of the request it remembers as the last one, and of no other. -/

def faultDomainFailureThreshold : Nat := 3

def faultDomainBackoffLevel (failures : Nat) : Nat :=
  if failures ≤ faultDomainFailureThreshold then 1 else failures - faultDomainFailureThreshold + 1

def recordFaultDomainRetryableFailure (now : Nat) (requestID : String) (cooldown : Int) (health : ChannelHealth) : ChannelHealth :=
  if Repeated health requestID then health
  else
    let counted := { health with
      lastFailureAt := now, lastFailureRequestID := requestID, consecutiveRetryableFailures := health.consecutiveRetryableFailures + 1,
      recoveryProbeSuccesses := 0, recoveryProbeUntil := 0, recoveryProbeSlots := 0 }
    let deadline := now + adaptiveChannelCooldown cooldown (faultDomainBackoffLevel counted.consecutiveRetryableFailures)
    if now < health.coolingUntil ∧ health.state ≠ .halfOpen then
      if faultDomainFailureThreshold ≤ counted.consecutiveRetryableFailures then { counted with coolingUntil := deadline } else counted
    else if counted.consecutiveRetryableFailures < faultDomainFailureThreshold then { counted with coolingUntil := 0, state := .degraded }
    else { counted with coolingUntil := deadline, state := .cooling }

-- Unlike the success of a channel, this one is kept out of the windows and always ends the probe lease.
def recordFaultDomainSuccess (now : Nat) (health : ChannelHealth) : ChannelHealth :=
  let seen := { health with lastSuccessAt := now }
  let restored := { seen with
    consecutiveRetryableFailures := 0, recoveryProbeSuccesses := 0, recoveryProbeUntil := 0, recoveryProbeSlots := 0, state := .healthy,
    coolingUntil := 0 }
  if health.state = .cooling ∧ now < health.coolingUntil then { seen with recoveryProbeUntil := 0, recoveryProbeSlots := 0 }
  else if health.state = .halfOpen ∨ health.state = .cooling then
    let probed := { seen with recoveryProbeSuccesses := health.recoveryProbeSuccesses + 1, recoveryProbeUntil := 0, recoveryProbeSlots := 0 }
    if probed.recoveryProbeSuccesses < 2 then { probed with state := .cooling, coolingUntil := now } else restored
  else restored

inductive DomainOp where
  | failure (requestID : String) (cooldown : Int)
  | success
  | probe (maxSlots : Nat) (requireExpired : Bool)
  | releaseProbe
deriving DecidableEq, Repr

-- Probes and releases run the closures of the channel ones.
def updateDomain (now : Nat) : DomainOp → ChannelHealth → ChannelHealth
  | .failure requestID cooldown => recordFaultDomainRetryableFailure now requestID cooldown
  | .success => recordFaultDomainSuccess now
  | .probe maxSlots requireExpired => tryStartChannelProbe now maxSlots requireExpired
  | .releaseProbe => releaseChannelProbe

-- The operations on one key: the update each makes, the request whose failure it reports, and
-- whether the recorder leaves its counter alone.
structure Recorder (Op : Type) where
  update : Nat → Op → ChannelHealth → ChannelHealth
  reporter : Op → Option String
  skips : Nat → Op → ChannelHealth → Bool

-- A recorder without a request id reports for the empty one.
def reportedBy : FailureReport → Option String
  | .modelUnavailable requestID => some requestID
  | .retryableForRequest requestID _ => some requestID
  | .gatewayForRequest requestID _ => some requestID
  | .upstreamFailure => none
  | _ => some ""

def skipsReport (now : Nat) (health : ChannelHealth) : FailureReport → Bool
  | .modelUnavailable requestID => now < health.coolingUntil ∨ Repeated health requestID
  | .retryableForRequest requestID _ => Repeated health requestID
  | .gatewayForRequest requestID _ => Repeated health requestID
  | _ => false

def route : Recorder HealthOp where
  update := updateHealth
  reporter
    | .failure report => reportedBy report
    | _ => none
  skips now op health :=
    match op with
    | .failure report => skipsReport now health report
    | _ => false

def faultDomain : Recorder DomainOp where
  update := updateDomain
  reporter
    | .failure requestID _ => some requestID
    | _ => none
  skips _ op health :=
    match op with
    | .failure requestID _ => Repeated health requestID
    | _ => false

-- The cached entry, the requests that have reported a failure since the state was last healthy,
-- and those that the counter has counted since it was last zero.
structure Observed where
  cache : HealthCache
  reporters : Finset String := ∅
  counted : Finset String := ∅

def Observed.standing (observed : Observed) (health : ChannelHealth) : Finset String :=
  if health.consecutiveRetryableFailures = 0 then ∅ else observed.counted

def joined (names : Finset String) : Option String → Finset String
  | none => names
  | some name => insert name names

section

variable {Op : Type} (recorder : Recorder Op)

def observe (observed : Observed) (timed : Nat × Op) : Observed :=
  let later := observed.cache.wait timed.1
  let health := later.current
  let after := recorder.update later.now timed.2 health
  let reporter := recorder.reporter timed.2
  { cache := { later with entry := some { health := after, expiresAt := later.now + channelHealthTTL } }
    reporters := if after.state = .healthy then ∅ else joined observed.reporters reporter
    counted := joined (observed.standing health) (if recorder.skips later.now timed.2 health then none else reporter) }

-- A request that is counted already is not counted again: the circuit remembers it still, or is closed to it anyway.
def CountedOnce (observed : Observed) (timed : Nat × Op) : Prop :=
  ∀ name ∈ recorder.reporter timed.2, name ∈ observed.standing (observed.cache.wait timed.1).current →
    recorder.skips (observed.cache.now + timed.1) timed.2 (observed.cache.wait timed.1).current = true

end

-- A healthy state has nothing counted and no deadline, whoever is asked for it.
def Rests (health : ChannelHealth) : Prop := health.state = .healthy → health.consecutiveRetryableFailures = 0 ∧ health.coolingUntil = 0

-- What an operation does to the counter: a report that is not skipped adds one to it, and nothing else raises it.
structure Recorder.Lawful {Op : Type} (recorder : Recorder Op) : Prop where
  counts : ∀ now op health name, Rests health → recorder.reporter op = some name → recorder.skips now op health = false →
    (recorder.update now op health).consecutiveRetryableFailures = health.consecutiveRetryableFailures + 1 ∧
      (recorder.update now op health).state ≠ .healthy
  keeps : ∀ now op health, Rests health → recorder.reporter op = none ∨ recorder.skips now op health = true →
    (recorder.update now op health).consecutiveRetryableFailures ≤ health.consecutiveRetryableFailures ∧ Rests (recorder.update now op health)

section Updates

variable (now : Nat) (health : ChannelHealth)

theorem still {after : ChannelHealth} (same : after = health) (rests : Rests health) :
    after.consecutiveRetryableFailures ≤ health.consecutiveRetryableFailures ∧ Rests after := by
  rw [same]
  exact ⟨le_rfl, rests⟩

theorem retry_skipped (requestID : String) (shortCooldown failureThreshold : Int) (repeated : Repeated health requestID) :
    recordRetryableFailure now requestID shortCooldown failureThreshold health = health := if_pos repeated

theorem retry_counted (requestID : String) (shortCooldown failureThreshold : Int) (rests : Rests health) (fresh : ¬ Repeated health requestID) :
    (recordRetryableFailure now requestID shortCooldown failureThreshold health).consecutiveRetryableFailures =
        health.consecutiveRetryableFailures + 1 ∧
      (recordRetryableFailure now requestID shortCooldown failureThreshold health).state ≠ .healthy := by
  rw [recordRetryableFailure, if_neg fresh]
  by_cases opened : now < health.coolingUntil ∧ health.state ≠ .halfOpen
  · have unrested : health.state ≠ .healthy := fun healthy => by
      have cleared := (rests healthy).2
      omega
    simp only [if_pos opened]
    split <;> exact ⟨rfl, unrested⟩
  · simp only [if_neg opened]
    split <;> exact ⟨rfl, by simp⟩

theorem unavailable_skipped (requestID : String) (skipped : now < health.coolingUntil ∨ Repeated health requestID) :
    (recordChannelModelUnavailable now requestID health).consecutiveRetryableFailures = health.consecutiveRetryableFailures ∧
      (recordChannelModelUnavailable now requestID health).state = health.state ∧
      (recordChannelModelUnavailable now requestID health).coolingUntil = health.coolingUntil := by
  unfold recordChannelModelUnavailable
  by_cases opened : now < health.coolingUntil
  · simp [opened]
  · simp [opened, skipped.resolve_left opened]

theorem unavailable_counted (requestID : String) (fresh : ¬ (now < health.coolingUntil ∨ Repeated health requestID)) :
    (recordChannelModelUnavailable now requestID health).consecutiveRetryableFailures = health.consecutiveRetryableFailures + 1 ∧
      (recordChannelModelUnavailable now requestID health).state ≠ .healthy := by
  rw [not_or] at fresh
  simp only [recordChannelModelUnavailable, if_neg fresh.1, if_neg fresh.2]
  split <;> exact ⟨rfl, by simp⟩

theorem probe_keeps (maxSlots : Nat) (requireExpired : Bool) (rests : Rests health) :
    (tryStartChannelProbe now maxSlots requireExpired health).consecutiveRetryableFailures ≤ health.consecutiveRetryableFailures ∧
      Rests (tryStartChannelProbe now maxSlots requireExpired health) := by
  unfold tryStartChannelProbe
  dsimp only
  split_ifs
  all_goals first | exact ⟨le_rfl, rests⟩ | exact ⟨le_rfl, by simp [Rests]⟩

theorem release_keeps (rests : Rests health) :
    (releaseChannelProbe health).consecutiveRetryableFailures ≤ health.consecutiveRetryableFailures ∧ Rests (releaseChannelProbe health) := by
  unfold releaseChannelProbe
  split_ifs <;> exact ⟨le_rfl, rests⟩

theorem success_keeps (rests : Rests health) :
    (recordChannelSuccess now health).consecutiveRetryableFailures ≤ health.consecutiveRetryableFailures ∧
      Rests (recordChannelSuccess now health) := by
  unfold recordChannelSuccess
  dsimp only
  split_ifs
  · exact ⟨le_rfl, rests⟩
  · exact ⟨le_rfl, by simp [Rests]⟩
  · exact ⟨Nat.zero_le _, fun _ => ⟨rfl, rfl⟩⟩
  · exact ⟨Nat.zero_le _, fun _ => ⟨rfl, rfl⟩⟩

theorem domain_success_keeps (rests : Rests health) :
    (recordFaultDomainSuccess now health).consecutiveRetryableFailures ≤ health.consecutiveRetryableFailures ∧
      Rests (recordFaultDomainSuccess now health) := by
  unfold recordFaultDomainSuccess
  dsimp only
  split_ifs
  · exact ⟨le_rfl, rests⟩
  · exact ⟨le_rfl, by simp [Rests]⟩
  · exact ⟨Nat.zero_le _, fun _ => ⟨rfl, rfl⟩⟩
  · exact ⟨Nat.zero_le _, fun _ => ⟨rfl, rfl⟩⟩

theorem domain_counted (requestID : String) (cooldown : Int) (rests : Rests health) (fresh : ¬ Repeated health requestID) :
    (recordFaultDomainRetryableFailure now requestID cooldown health).consecutiveRetryableFailures = health.consecutiveRetryableFailures + 1 ∧
      (recordFaultDomainRetryableFailure now requestID cooldown health).state ≠ .healthy := by
  rw [recordFaultDomainRetryableFailure, if_neg fresh]
  by_cases opened : now < health.coolingUntil ∧ health.state ≠ .halfOpen
  · have unrested : health.state ≠ .healthy := fun healthy => by
      have cleared := (rests healthy).2
      omega
    simp only [if_pos opened]
    split <;> exact ⟨rfl, unrested⟩
  · simp only [if_neg opened]
    split <;> exact ⟨rfl, by simp⟩

end Updates

theorem route_lawful : route.Lawful where
  counts now op health name rests reported counted := by
    cases op with
    | failure report =>
        cases report with
        | modelUnavailable requestID => exact unavailable_counted now health requestID (of_decide_eq_false counted)
        | upstreamFailure => simp [route, reportedBy] at reported
        | retryable => exact retry_counted now health _ _ _ rests (by simp [Repeated])
        | retryableWithCooldown shortCooldown => exact retry_counted now health _ _ _ rests (by simp [Repeated])
        | retryableForRequest requestID shortCooldown => exact retry_counted now health _ _ _ rests (of_decide_eq_false counted)
        | gateway statusCode => exact retry_counted now health _ _ _ rests (by simp [Repeated])
        | gatewayForRequest requestID statusCode => exact retry_counted now health _ _ _ rests (of_decide_eq_false counted)
    | _ => simp [route] at reported
  keeps now op health rests idle := by
    cases op with
    | failure report =>
        cases report with
        | modelUnavailable requestID =>
            obtain ⟨count, state, deadline⟩ := unavailable_skipped now health requestID (of_decide_eq_true (idle.resolve_left (by simp [route, reportedBy])))
            refine ⟨count.le, fun healthy => ?_⟩
            have rested := rests (state.symm.trans healthy)
            exact ⟨count.trans rested.1, deadline.trans rested.2⟩
        | upstreamFailure => exact ⟨Nat.zero_le _, by simp [Rests, route, updateHealth, recordFailure, coolChannelModelForUpstreamFailure]⟩
        | retryable => simp [route, reportedBy, skipsReport] at idle
        | retryableWithCooldown shortCooldown => simp [route, reportedBy, skipsReport] at idle
        | retryableForRequest requestID shortCooldown =>
            have same := retry_skipped now health requestID shortCooldown channelHealthRetryableFailureThreshold
              (of_decide_eq_true (idle.resolve_left (by simp [route, reportedBy])))
            exact still health same rests
        | gateway statusCode => simp [route, reportedBy, skipsReport] at idle
        | gatewayForRequest requestID statusCode =>
            have same := retry_skipped now health requestID (retryableFailureCooldown statusCode) channelHealthGatewayFailureThreshold
              (of_decide_eq_true (idle.resolve_left (by simp [route, reportedBy])))
            exact still health same rests
    | softFailure requestID =>
        simp only [route, updateHealth, recordChannelSoftFailureForRequest]
        split <;> exact ⟨le_rfl, rests⟩
    | success => exact success_keeps now health rests
    | recoveryProbe => exact probe_keeps now health 1 true rests
    | emergencyProbe => exact probe_keeps now health channelHealthEmergencyProbeSlots false rests
    | lastResortProbe => exact probe_keeps now health 1 false rests
    | releaseProbe => exact release_keeps health rests

theorem fault_domain_lawful : faultDomain.Lawful where
  counts now op health name rests reported counted := by
    cases op with
    | failure requestID cooldown => exact domain_counted now health requestID cooldown rests (of_decide_eq_false counted)
    | _ => simp [faultDomain] at reported
  keeps now op health rests idle := by
    cases op with
    | failure requestID cooldown =>
        have repeated : Repeated health requestID := of_decide_eq_true (idle.resolve_left (by simp [faultDomain]))
        have same : recordFaultDomainRetryableFailure now requestID cooldown health = health := if_pos repeated
        exact still health same rests
    | success => exact domain_success_keeps now health rests
    | probe maxSlots requireExpired => exact probe_keeps now health maxSlots requireExpired rests
    | releaseProbe => exact release_keeps health rests

-- The counter stands for different requests, each of which has reported since the state was last healthy.
def Tallied (observed : Observed) : Prop :=
  ∀ entry, observed.cache.entry = some entry → Rests entry.health ∧ entry.health.consecutiveRetryableFailures ≤ observed.counted.card ∧
    (0 < entry.health.consecutiveRetryableFailures → observed.counted ⊆ observed.reporters)

-- What a recorder reads is the stored entry, or nothing once that has expired.
theorem Tallied.read {observed : Observed} (tallied : Tallied observed) (delay : Nat) :
    Rests (observed.cache.wait delay).current ∧
      (observed.cache.wait delay).current.consecutiveRetryableFailures ≤ (observed.standing (observed.cache.wait delay).current).card ∧
      observed.standing (observed.cache.wait delay).current ⊆ observed.reporters := by
  have unset : ∀ health : ChannelHealth, health = {} →
      Rests health ∧ health.consecutiveRetryableFailures ≤ (observed.standing health).card ∧ observed.standing health ⊆ observed.reporters := by
    intro health blank
    subst blank
    simp [Rests, Observed.standing]
  unfold HealthCache.current
  cases stored : (observed.cache.wait delay).entry with
  | none => exact unset _ rfl
  | some entry =>
      dsimp only
      split
      · obtain ⟨rests, bounded, reported⟩ := tallied entry stored
        by_cases zero : entry.health.consecutiveRetryableFailures = 0
        · simp [Observed.standing, zero, rests]
        · rw [Observed.standing, if_neg zero]
          exact ⟨rests, bounded, reported (Nat.pos_of_ne_zero zero)⟩
      · exact unset _ rfl

section

variable {Op : Type} {recorder : Recorder Op}

theorem joined_subset (names others : Finset String) (within : names ⊆ others) (name : Option String) : joined names none ⊆ joined others name := by
  cases name with
  | none => exact within
  | some name => exact within.trans (Finset.subset_insert _ _)

theorem Tallied.step {observed : Observed} (tallied : Tallied observed) (lawful : recorder.Lawful) (timed : Nat × Op)
    (once : CountedOnce recorder observed timed) : Tallied (observe recorder observed timed) := by
  obtain ⟨delay, op⟩ := timed
  obtain ⟨rests, bounded, reported⟩ := tallied.read delay
  intro entry stored
  simp only [observe, Option.some.injEq] at stored
  subst stored
  simp only [observe]
  unfold CountedOnce at once
  simp only at once
  generalize (observed.cache.wait delay).current = health at *
  have time : (observed.cache.wait delay).now = observed.cache.now + delay := rfl
  rw [time]
  generalize observed.cache.now + delay = now at *
  by_cases idle : recorder.reporter op = none ∨ recorder.skips now op health = true
  · have kept : (if recorder.skips now op health = true then none else recorder.reporter op) = none := by
      rcases idle with silent | skipped
      · simp [silent]
      · simp [skipped]
    obtain ⟨below, still⟩ := lawful.keeps now op health rests idle
    rw [kept]
    refine ⟨still, below.trans bounded, fun positive => ?_⟩
    have unrested : (recorder.update now op health).state ≠ .healthy := fun healthy => by
      have cleared := (still healthy).1
      omega
    rw [if_neg unrested]
    exact joined_subset _ _ reported _
  · rw [not_or, Bool.not_eq_true] at idle
    obtain ⟨name, named⟩ := Option.ne_none_iff_exists'.mp idle.1
    obtain ⟨next, unrested⟩ := lawful.counts now op health name rests named idle.2
    have fresh : name ∉ observed.standing health := fun already => by
      have skipped := once name named already
      simp [idle.2] at skipped
    rw [idle.2, named, next, if_neg unrested]
    refine ⟨fun healthy => absurd healthy unrested, ?_, fun _ => ?_⟩
    · rw [if_neg (by simp), joined, Finset.card_insert_of_notMem fresh]
      omega
    · exact Finset.insert_subset_insert name reported

def unobserved (start : Nat) : Observed := { cache := ⟨start, none⟩ }

theorem tallied_run (lawful : recorder.Lawful) (start : Nat) (events : List (Nat × Op))
    (once : Every (observe recorder) (CountedOnce recorder) (unobserved start) events) :
    Tallied (run (observe recorder) (unobserved start) events) := by
  have keeps : ∀ observed timed, Tallied observed → CountedOnce recorder observed timed → Tallied (observe recorder observed timed) ∧ True := by
    intro observed timed tallied counted
    exact ⟨tallied.step lawful timed counted, trivial⟩
  exact (Every.keeps (unobserved start) (by simp [Tallied, unobserved]) keeps events once).1

theorem Tallied.bounded {observed : Observed} (tallied : Tallied observed) (entry : CacheEntry) (stored : observed.cache.entry = some entry) :
    entry.health.consecutiveRetryableFailures ≤ observed.reporters.card := by
  obtain ⟨_, bounded, reported⟩ := tallied entry stored
  by_cases zero : entry.health.consecutiveRetryableFailures = 0
  · omega
  · exact bounded.trans (Finset.card_le_card (reported (Nat.pos_of_ne_zero zero)))

end

/- In every run of reports, successes and probes that counts no request twice, the counter of a route or of a fault
   domain is at most the number of different requests that have reported a failure since the state was last healthy. -/
theorem failures_le_requests (start : Nat) :
    (∀ events, Every (observe route) (CountedOnce route) (unobserved start) events →
        ∀ entry, (run (observe route) (unobserved start) events).cache.entry = some entry →
          entry.health.consecutiveRetryableFailures ≤ (run (observe route) (unobserved start) events).reporters.card) ∧
      ∀ events, Every (observe faultDomain) (CountedOnce faultDomain) (unobserved start) events →
        ∀ entry, (run (observe faultDomain) (unobserved start) events).cache.entry = some entry →
          entry.health.consecutiveRetryableFailures ≤ (run (observe faultDomain) (unobserved start) events).reporters.card := by
  constructor
  · intro events once entry stored
    exact (tallied_run route_lawful start events once).bounded entry stored
  · intro events once entry stored
    exact (tallied_run fault_domain_lawful start events once).bounded entry stored

-- Three requests, two of which retry at once.
def threeRequests : List (Nat × HealthOp) :=
  ["a", "a", "b", "b", "c"].map fun requestID => (second, .failure (.retryableForRequest requestID second))

def threeDomainRequests : List (Nat × DomainOp) := ["a", "a", "b", "b", "c"].map fun requestID => (second, .failure requestID second)

instance {Op : Type} (recorder : Recorder Op) (observed : Observed) (timed : Nat × Op) : Decidable (CountedOnce recorder observed timed) :=
  inferInstanceAs (Decidable (∀ name ∈ recorder.reporter timed.2, _ → _ = true))

theorem failures_le_requests_three :
    (∀ entry, (run (observe route) (unobserved second) threeRequests).cache.entry = some entry →
        entry.health.consecutiveRetryableFailures ≤ (run (observe route) (unobserved second) threeRequests).reporters.card) ∧
      ∀ entry, (run (observe faultDomain) (unobserved second) threeDomainRequests).cache.entry = some entry →
        entry.health.consecutiveRetryableFailures ≤ (run (observe faultDomain) (unobserved second) threeDomainRequests).reporters.card :=
  ⟨(failures_le_requests second).1 threeRequests (by decide +kernel), (failures_le_requests second).2 threeDomainRequests (by decide +kernel)⟩

-- Two requests retrying in turns, one second apart.
def inTurns : List (Nat × HealthOp) := ["a", "b", "a", "b", "a"].map fun requestID => (second, .failure (.modelUnavailable requestID))

def domainInTurns : List (Nat × DomainOp) := ["a", "b", "a"].map fun requestID => (second, .failure requestID second)

-- Two requests exhaust the budget of five, and of three in a fault domain: each forgets the other.
theorem two_requests_open_circuit :
    ((run (observe route) (unobserved second) inTurns).cache.current.consecutiveRetryableFailures = 5 ∧
        (run (observe route) (unobserved second) inTurns).cache.current.state = .cooling ∧
        (run (observe route) (unobserved second) inTurns).reporters = {"a", "b"}) ∧
      (run (observe faultDomain) (unobserved second) domainInTurns).cache.current.consecutiveRetryableFailures = 3 ∧
      (run (observe faultDomain) (unobserved second) domainInTurns).cache.current.state = .cooling ∧
      (run (observe faultDomain) (unobserved second) domainInTurns).reporters = {"a", "b"} := by
  decide +kernel

end CodeGo.Gateway.Counts
