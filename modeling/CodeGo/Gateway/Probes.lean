import CodeGo.Gateway.Circuit
import Mathlib.Data.List.Basic
import Mathlib.Data.List.Induction

set_option autoImplicit false

namespace CodeGo.Gateway

open Relational

/- How an open circuit closes, and how many probes it admits at a time. -/

def ChannelHealth.Open (health : ChannelHealth) : Prop := health.state = .cooling ∨ health.state = .halfOpen

instance (health : ChannelHealth) : Decidable health.Open := inferInstanceAs (Decidable (_ ∨ _))

def FailureReport.requestID : FailureReport → String
  | .modelUnavailable requestID => requestID
  | .retryableForRequest requestID _ => requestID
  | .gatewayForRequest requestID _ => requestID
  | _ => ""

-- A success towards closing: the deadline has passed, or a probe has made the circuit half-open.
structure Counted (cache : HealthCache) (timed : TimedOp) : Prop where
  success : timed.op = .success
  opened : (cache.wait timed.delay).current.Open
  due : (cache.wait timed.delay).current.state = .halfOpen ∨ (cache.wait timed.delay).current.coolingUntil ≤ cache.now + timed.delay

-- Operations that leave the circuit open and record no failure but repeats of the last one.
def OnlyRepeats : HealthCache → List TimedOp → Prop
  | _, [] => True
  | cache, timed :: rest => (healthStep cache timed).current.Open ∧
      (∀ report, timed.op = .failure report → Repeated (cache.wait timed.delay).current report.requestID) ∧ OnlyRepeats (healthStep cache timed) rest

theorem only_repeats_snoc (cache : HealthCache) (events : List TimedOp) (last : TimedOp) (early : OnlyRepeats cache events)
    (opened : (healthStep (run healthStep cache events) last).current.Open)
    (repeats : ∀ report, last.op = .failure report → Repeated ((run healthStep cache events).wait last.delay).current report.requestID) :
    OnlyRepeats cache (events ++ [last]) := by
  induction events generalizing cache with
  | nil => exact ⟨opened, repeats, trivial⟩
  | cons timed rest ih =>
      obtain ⟨stays, repeated, later⟩ := early
      exact ⟨stays, repeated, ih (healthStep cache timed) later opened repeats⟩

section Counting

variable (now : Nat) (health : ChannelHealth)

-- A failure either starts the count of successes again or repeats the one recorded last.
theorem retry_restarts (requestID : String) (shortCooldown failureThreshold : Int) :
    (recordRetryableFailure now requestID shortCooldown failureThreshold health).recoveryProbeSuccesses = 0 ∨
      (Repeated health requestID ∧ recordRetryableFailure now requestID shortCooldown failureThreshold health = health) := by
  unfold recordRetryableFailure
  split
  · rename_i repeated
    exact .inr ⟨repeated, rfl⟩
  · left
    dsimp only
    split
    · split <;> rfl
    · split <;> rfl

theorem failure_restarts (report : FailureReport) :
    (recordFailure now report health).recoveryProbeSuccesses = 0 ∨
      (now < health.coolingUntil ∧ (recordFailure now report health).recoveryProbeSuccesses = health.recoveryProbeSuccesses) ∨
      (Repeated health report.requestID ∧ (recordFailure now report health).recoveryProbeSuccesses = health.recoveryProbeSuccesses ∧
        (recordFailure now report health).coolingUntil = health.coolingUntil ∧ (recordFailure now report health).state = health.state) := by
  have retry : ∀ requestID shortCooldown failureThreshold,
      (recordRetryableFailure now requestID shortCooldown failureThreshold health).recoveryProbeSuccesses = 0 ∨
        (Repeated health requestID ∧
          (recordRetryableFailure now requestID shortCooldown failureThreshold health).recoveryProbeSuccesses = health.recoveryProbeSuccesses ∧
          (recordRetryableFailure now requestID shortCooldown failureThreshold health).coolingUntil = health.coolingUntil ∧
          (recordRetryableFailure now requestID shortCooldown failureThreshold health).state = health.state) := by
    intro requestID shortCooldown failureThreshold
    rcases retry_restarts now health requestID shortCooldown failureThreshold with restarted | ⟨repeated, same⟩
    · exact .inl restarted
    · exact .inr ⟨repeated, by rw [same], by rw [same], by rw [same]⟩
  cases report with
  | modelUnavailable requestID =>
      simp only [recordFailure, recordChannelModelUnavailable]
      by_cases opened : now < health.coolingUntil
      · exact .inr (.inl ⟨opened, by simp [opened]⟩)
      · by_cases repeated : Repeated health requestID
        · exact .inr (.inr ⟨repeated, by simp [opened, repeated], by simp [opened, repeated], by simp [opened, repeated]⟩)
        · left
          simp only [opened, repeated, if_false]
          split <;> rfl
  | upstreamFailure => exact .inl rfl
  | retryable => exact (retry "" _ _).imp_right .inr
  | retryableWithCooldown shortCooldown => exact (retry "" _ _).imp_right .inr
  | retryableForRequest requestID shortCooldown => exact (retry requestID _ _).imp_right .inr
  | gateway statusCode => exact (retry "" _ _).imp_right .inr
  | gatewayForRequest requestID statusCode => exact (retry requestID _ _).imp_right .inr

theorem probe_keeps_count (maxSlots : Nat) (requireExpired : Bool) :
    (tryStartChannelProbe now maxSlots requireExpired health).recoveryProbeSuccesses = health.recoveryProbeSuccesses ∧
      (tryStartChannelProbe now maxSlots requireExpired health).coolingUntil = health.coolingUntil ∧
      ((tryStartChannelProbe now maxSlots requireExpired health).state = health.state ∨
        (health.Open ∧ (tryStartChannelProbe now maxSlots requireExpired health).state = .halfOpen)) := by
  unfold tryStartChannelProbe ChannelHealth.Open
  split_ifs <;> simp_all <;> grind

theorem failure_not_healthy (report : FailureReport) (opened : health.Open) : (recordFailure now report health).state ≠ .healthy := by
  have apart : health.state ≠ .healthy := by rcases opened with cooling | half <;> simp [*]
  have retry : ∀ requestID shortCooldown failureThreshold,
      (recordRetryableFailure now requestID shortCooldown failureThreshold health).state ≠ .healthy := by
    intro requestID shortCooldown failureThreshold
    unfold recordRetryableFailure
    dsimp only
    split_ifs <;> simp [apart]
  cases report with
  | modelUnavailable requestID =>
      simp only [recordFailure, recordChannelModelUnavailable]
      split_ifs <;> simp [apart]
  | upstreamFailure => simp [recordFailure, coolChannelModelForUpstreamFailure]
  | retryable => exact retry _ _ _
  | retryableWithCooldown shortCooldown => exact retry _ _ _
  | retryableForRequest requestID shortCooldown => exact retry _ _ _
  | gateway statusCode => exact retry _ _ _
  | gatewayForRequest requestID statusCode => exact retry _ _ _

theorem soft_failure_keeps_count (requestID : String) :
    (recordChannelSoftFailureForRequest now requestID health).recoveryProbeSuccesses = health.recoveryProbeSuccesses ∧
      (recordChannelSoftFailureForRequest now requestID health).coolingUntil = health.coolingUntil ∧
      (recordChannelSoftFailureForRequest now requestID health).state = health.state := by
  unfold recordChannelSoftFailureForRequest
  split <;> simp

theorem release_keeps_count :
    (releaseChannelProbe health).recoveryProbeSuccesses = health.recoveryProbeSuccesses ∧
      (releaseChannelProbe health).coolingUntil = health.coolingUntil ∧ (releaseChannelProbe health).state = health.state := by
  unfold releaseChannelProbe
  split_ifs <;> simp

theorem other_keeps_count (op : HealthOp) (notSuccess : op ≠ .success) (notFailure : ∀ report, op ≠ .failure report) :
    (updateHealth now op health).recoveryProbeSuccesses = health.recoveryProbeSuccesses ∧
      (updateHealth now op health).coolingUntil = health.coolingUntil ∧ (health.Open → (updateHealth now op health).Open) := by
  have open_of_same : ∀ after : ChannelHealth, after.state = health.state → health.Open → after.Open := by
    intro after same opened
    unfold ChannelHealth.Open
    rw [same]
    exact opened
  have probe : ∀ maxSlots requireExpired, (tryStartChannelProbe now maxSlots requireExpired health).recoveryProbeSuccesses =
      health.recoveryProbeSuccesses ∧ (tryStartChannelProbe now maxSlots requireExpired health).coolingUntil = health.coolingUntil ∧
        (health.Open → (tryStartChannelProbe now maxSlots requireExpired health).Open) := by
    intro maxSlots requireExpired
    obtain ⟨count, deadline, same | ⟨_, half⟩⟩ := probe_keeps_count now health maxSlots requireExpired
    · exact ⟨count, deadline, open_of_same _ same⟩
    · exact ⟨count, deadline, fun _ => .inr half⟩
  cases op with
  | success => exact (notSuccess rfl).elim
  | failure report => exact (notFailure report rfl).elim
  | softFailure requestID =>
      obtain ⟨count, deadline, state⟩ := soft_failure_keeps_count now health requestID
      exact ⟨count, deadline, open_of_same _ state⟩
  | releaseProbe =>
      obtain ⟨count, deadline, state⟩ := release_keeps_count health
      exact ⟨count, deadline, open_of_same _ state⟩
  | recoveryProbe => exact probe 1 true
  | emergencyProbe => exact probe channelHealthEmergencyProbeSlots false
  | lastResortProbe => exact probe 1 false

-- A success of an open circuit that is due: the first one counts, the second one closes.
theorem success_counts (opened : health.Open) (due : health.state = .halfOpen ∨ health.coolingUntil ≤ now) :
    if health.recoveryProbeSuccesses = 0 then
      (recordChannelSuccess now health).recoveryProbeSuccesses = 1 ∧ (recordChannelSuccess now health).coolingUntil = now ∧
        (recordChannelSuccess now health).state = .cooling
    else (recordChannelSuccess now health).recoveryProbeSuccesses = 0 ∧ (recordChannelSuccess now health).state = .healthy := by
  have early : ¬ (health.state = .cooling ∧ now < health.coolingUntil) := by
    rintro ⟨cooling, ahead⟩
    rcases due with half | passed
    · simp [half] at cooling
    · omega
  have listed : health.state = .halfOpen ∨ health.state = .cooling := opened.symm
  simp only [recordChannelSuccess, if_neg early, if_pos listed]
  split_ifs <;> first | omega | simp_all

theorem success_not_counted (waits : ¬ (health.Open ∧ (health.state = .halfOpen ∨ health.coolingUntil ≤ now))) :
    (recordChannelSuccess now health).recoveryProbeSuccesses = if health.Open then health.recoveryProbeSuccesses else 0 := by
  by_cases opened : health.Open
  · have cooling : health.state = .cooling := by
      rcases opened with cooling | half
      · exact cooling
      · exact (waits ⟨.inr half, .inl half⟩).elim
    have ahead : now < health.coolingUntil := by
      by_contra passed
      exact waits ⟨opened, .inr (by omega)⟩
    simp [recordChannelSuccess, cooling, ahead, opened]
  · have unlisted : ¬ (health.state = .halfOpen ∨ health.state = .cooling) := fun listed => opened listed.symm
    have early : ¬ (health.state = .cooling ∧ now < health.coolingUntil) := fun both => opened (.inl both.1)
    simp [recordChannelSuccess, unlisted, early, opened]

end Counting

def HealthCache.stored (cache : HealthCache) : ChannelHealth := (cache.entry.map CacheEntry.health).getD {}

theorem current_cases (cache : HealthCache) (delay : Nat) :
    (cache.wait delay).current = cache.stored ∨ (cache.wait delay).current = {} := by
  unfold HealthCache.current HealthCache.stored HealthCache.wait
  cases stored : cache.entry with
  | none => exact .inr rfl
  | some entry =>
      dsimp only
      split
      · exact .inl rfl
      · exact .inr rfl

theorem stored_step (cache : HealthCache) (timed : TimedOp) :
    (healthStep cache timed).stored = updateHealth (cache.now + timed.delay) timed.op (cache.wait timed.delay).current := rfl

-- A count of one has a success it comes from, with nothing but repeats after it.
structure Halfway (start : Nat) (events : List TimedOp) : Prop where
  due : (run healthStep ⟨start, none⟩ events).stored.coolingUntil ≤ (run healthStep ⟨start, none⟩ events).now
  opened : (run healthStep ⟨start, none⟩ events).stored.Open
  first : ∃ early first later, events = early ++ first :: later ∧ Counted (run healthStep ⟨start, none⟩ early) first ∧
    OnlyRepeats (run healthStep ⟨start, none⟩ (early ++ [first])) later

def CountsOnce (start : Nat) (events : List TimedOp) : Prop :=
  (run healthStep ⟨start, none⟩ events).stored.recoveryProbeSuccesses = 0 ∨
    ((run healthStep ⟨start, none⟩ events).stored.recoveryProbeSuccesses = 1 ∧ Halfway start events)

-- An operation that keeps the count, the deadline and the open state prolongs the history.
theorem Halfway.prolonged {start : Nat} {events : List TimedOp} {timed : TimedOp} (halfway : Halfway start events)
    (deadline : (run healthStep ⟨start, none⟩ (events ++ [timed])).stored.coolingUntil = (run healthStep ⟨start, none⟩ events).stored.coolingUntil)
    (opened : (run healthStep ⟨start, none⟩ (events ++ [timed])).stored.Open)
    (repeats : ∀ report, timed.op = .failure report →
      Repeated ((run healthStep ⟨start, none⟩ events).wait timed.delay).current report.requestID) :
    Halfway start (events ++ [timed]) := by
  obtain ⟨early, first, later, rfl, counted, onlyRepeats⟩ := halfway.first
  have split : run healthStep ⟨start, none⟩ (early ++ first :: later) =
      run healthStep (run healthStep ⟨start, none⟩ (early ++ [first])) later := by
    rw [← run_append, List.append_assoc, List.singleton_append]
  have stepped : run healthStep ⟨start, none⟩ (early ++ first :: later ++ [timed]) =
      healthStep (run healthStep ⟨start, none⟩ (early ++ first :: later)) timed := by rw [run_append, run_cons, run_nil]
  have readable : (healthStep (run healthStep ⟨start, none⟩ (early ++ first :: later)) timed).current =
      (healthStep (run healthStep ⟨start, none⟩ (early ++ first :: later)) timed).stored := by rw [step_current, stored_step]
  refine ⟨?_, opened, early, first, later ++ [timed], by simp, counted, ?_⟩
  · have due := halfway.due
    rw [deadline, stepped]
    simp only [healthStep, HealthCache.wait]
    omega
  · refine only_repeats_snoc _ later timed onlyRepeats ?_ ?_
    · rw [← split, readable, ← stepped]
      exact opened
    · rw [← split]
      exact repeats

theorem counts_once_run (start : Nat) (events : List TimedOp) : CountsOnce start events := by
  induction events using List.reverseRecOn with
  | nil => exact .inl rfl
  | append_singleton events timed ih =>
      have stepped : (run healthStep ⟨start, none⟩ (events ++ [timed])).stored =
          updateHealth ((run healthStep ⟨start, none⟩ events).now + timed.delay) timed.op
            ((run healthStep ⟨start, none⟩ events).wait timed.delay).current := by
        rw [run_append, run_cons, run_nil, stored_step]
      by_cases counted : Counted (run healthStep ⟨start, none⟩ events) timed
      · have counts := success_counts _ _ counted.opened counted.due
        rw [counted.success] at stepped
        split_ifs at counts with fresh
        · refine .inr ⟨by rw [stepped]; exact counts.1, ?_, ?_, events, timed, [], rfl, counted, trivial⟩
          · rw [stepped, run_append]
            exact Nat.le_of_eq counts.2.1
          · rw [stepped]
            exact .inl counts.2.2
        · exact .inl (by rw [stepped]; exact counts.1)
      · -- Whatever was counted before is kept with its history, or lost.
        have keeps : ∀ next : ChannelHealth, next = (run healthStep ⟨start, none⟩ (events ++ [timed])).stored →
            next.recoveryProbeSuccesses = ((run healthStep ⟨start, none⟩ events).wait timed.delay).current.recoveryProbeSuccesses →
            next.coolingUntil = ((run healthStep ⟨start, none⟩ events).wait timed.delay).current.coolingUntil →
            (((run healthStep ⟨start, none⟩ events).wait timed.delay).current.Open → next.Open) →
            (∀ report, timed.op = .failure report →
              Repeated ((run healthStep ⟨start, none⟩ events).wait timed.delay).current report.requestID) →
            CountsOnce start (events ++ [timed]) := by
          rintro next rfl count deadline opened repeats
          rcases current_cases (run healthStep ⟨start, none⟩ events) timed.delay with same | blank
          · rw [same] at count deadline opened
            rcases ih with none | ⟨one, halfway⟩
            · exact .inl (count.trans none)
            · exact .inr ⟨count.trans one, halfway.prolonged deadline (opened halfway.opened) repeats⟩
          · rw [blank] at count
            exact .inl count
        have passive : timed.op ≠ .success → (∀ report, timed.op ≠ .failure report) → CountsOnce start (events ++ [timed]) := by
          intro notSuccess notFailure
          obtain ⟨count, deadline, opened⟩ := other_keeps_count ((run healthStep ⟨start, none⟩ events).now + timed.delay)
            ((run healthStep ⟨start, none⟩ events).wait timed.delay).current timed.op notSuccess notFailure
          refine keeps _ rfl (by rw [stepped]; exact count) (by rw [stepped]; exact deadline) (fun before => ?_)
            (fun report same => (notFailure report same).elim)
          rw [stepped]
          exact opened before
        cases op : timed.op with
        | success =>
            have waits : ¬ (((run healthStep ⟨start, none⟩ events).wait timed.delay).current.Open ∧
                (((run healthStep ⟨start, none⟩ events).wait timed.delay).current.state = .halfOpen ∨
                  ((run healthStep ⟨start, none⟩ events).wait timed.delay).current.coolingUntil ≤
                    (run healthStep ⟨start, none⟩ events).now + timed.delay)) := fun both => counted ⟨op, both.1, both.2⟩
            have uncounted := success_not_counted _ _ waits
            rw [op] at stepped
            left
            rw [stepped]
            refine uncounted.trans ?_
            split_ifs with opened
            · rcases current_cases (run healthStep ⟨start, none⟩ events) timed.delay with same | blank
              · rw [same] at waits opened ⊢
                rcases ih with none | ⟨one, halfway⟩
                · exact none
                · have due := halfway.due
                  exact (waits ⟨opened, .inr (by omega)⟩).elim
              · rw [blank]
            · rfl
        | failure report =>
            rw [op] at stepped
            have restarts := failure_restarts ((run healthStep ⟨start, none⟩ events).now + timed.delay)
              ((run healthStep ⟨start, none⟩ events).wait timed.delay).current report
            rcases restarts with restarted | ⟨ahead, count⟩ | ⟨repeated, count, deadline, state⟩
            · exact .inl (by rw [stepped]; exact restarted)
            · left
              rw [stepped]
              refine count.trans ?_
              rcases current_cases (run healthStep ⟨start, none⟩ events) timed.delay with same | blank
              · rw [same] at ahead ⊢
                rcases ih with none | ⟨one, halfway⟩
                · exact none
                · have due := halfway.due
                  omega
              · rw [blank]
            · refine keeps _ rfl (by rw [stepped]; exact count) (by rw [stepped]; exact deadline) (fun opened => ?_) ?_
              · rw [stepped]
                unfold ChannelHealth.Open at opened ⊢
                simp only [updateHealth, state]
                exact opened
              · intro other same
                rw [op] at same
                cases same
                exact repeated
        | softFailure requestID => exact passive (by simp [op]) (by simp [op])
        | releaseProbe => exact passive (by simp [op]) (by simp [op])
        | recoveryProbe => exact passive (by simp [op]) (by simp [op])
        | emergencyProbe => exact passive (by simp [op]) (by simp [op])
        | lastResortProbe => exact passive (by simp [op]) (by simp [op])

-- An open circuit turns healthy by the second of two counted successes and by nothing else.
theorem closes_after_two (start : Nat) (events : List TimedOp) (timed : TimedOp)
    (opened : ((run healthStep ⟨start, none⟩ events).wait timed.delay).current.Open)
    (closed : (healthStep (run healthStep ⟨start, none⟩ events) timed).current.state = .healthy) :
    Counted (run healthStep ⟨start, none⟩ events) timed ∧ ∃ early first later, events = early ++ first :: later ∧
      Counted (run healthStep ⟨start, none⟩ early) first ∧ OnlyRepeats (run healthStep ⟨start, none⟩ (early ++ [first])) later := by
  rw [step_current] at closed
  cases op : timed.op with
  | success =>
      have counted : Counted (run healthStep ⟨start, none⟩ events) timed := by
        by_contra uncounted
        have waits : ¬ (((run healthStep ⟨start, none⟩ events).wait timed.delay).current.state = .halfOpen ∨
            ((run healthStep ⟨start, none⟩ events).wait timed.delay).current.coolingUntil ≤
              (run healthStep ⟨start, none⟩ events).now + timed.delay) := fun due => uncounted ⟨op, opened, due⟩
        push Not at waits
        have cooling := opened.resolve_right waits.1
        simp [op, updateHealth, recordChannelSuccess, cooling, waits.2] at closed
      have counts := success_counts _ _ counted.opened counted.due
      rw [op] at closed
      refine ⟨counted, ?_⟩
      rcases current_cases (run healthStep ⟨start, none⟩ events) timed.delay with same | blank
      · rw [same] at counts closed
        rcases counts_once_run start events with none | ⟨_, halfway⟩
        · rw [if_pos none] at counts
          have cooling := counts.2.2.symm.trans closed
          cases cooling
        · exact halfway.first
      · rw [blank] at opened
        exact absurd opened (by decide)
  | failure report =>
      rw [op] at closed
      exact (failure_not_healthy _ _ report opened closed).elim
  | softFailure _ | releaseProbe | recoveryProbe | emergencyProbe | lastResortProbe =>
      have stays := (other_keeps_count ((run healthStep ⟨start, none⟩ events).now + timed.delay) _ timed.op (by simp [op]) (by simp [op])).2.2 opened
      unfold ChannelHealth.Open at stays
      rw [closed] at stays
      simp at stays

-- Whether a probe is granted: the flag `tryStartChannelProbe` returns.
def probeStarts (now maxSlots : Nat) (requireExpired : Bool) (health : ChannelHealth) : Bool :=
  health.Open ∧ ¬ (requireExpired = true ∧ now < health.coolingUntil) ∧
    (if now < health.recoveryProbeUntil then health.recoveryProbeSlots else 0) < maxSlots

def HealthOp.starts (now : Nat) (health : ChannelHealth) : HealthOp → Bool
  | .recoveryProbe => probeStarts now 1 true health
  | .emergencyProbe => probeStarts now channelHealthEmergencyProbeSlots false health
  | .lastResortProbe => probeStarts now 1 false health
  | _ => false

structure Probe where
  id : Nat
  leaseEnd : Nat
deriving DecidableEq, Repr

-- The cache together with the probes whose outcome or release is still to be reported.
structure ProbedCache where
  cache : HealthCache
  drawn : Nat
  outstanding : List Probe

def ProbedCache.live (probed : ProbedCache) (time : Nat) : List Probe := probed.outstanding.filter fun probe => time < probe.leaseEnd

-- An outcome or a release is reported by a probe, or by a request that is none.
structure ReportedOp extends TimedOp where
  reporter : Option Nat
deriving DecidableEq, Repr

def probedStep (probed : ProbedCache) (event : ReportedOp) : ProbedCache :=
  let now := probed.cache.now + event.delay
  let waiting := probed.outstanding.filter fun probe => some probe.id ≠ event.reporter
  if event.op.starts now (probed.cache.wait event.delay).current then
    { cache := healthStep probed.cache event.toTimedOp, drawn := probed.drawn + 1,
      outstanding := ⟨probed.drawn, now + channelHealthProbeLeaseDuration⟩ :: waiting }
  else { cache := healthStep probed.cache event.toTimedOp, drawn := probed.drawn, outstanding := waiting }

-- An outcome that clears the slots leaves no other probe running, and a release gives back a
-- slot that is still in use.
structure Orderly (probed : ProbedCache) (event : ReportedOp) : Prop where
  outcome : (event.op = .success ∨ ∃ report, event.op = .failure report) →
    (updateHealth (probed.cache.now + event.delay) event.op (probed.cache.wait event.delay).current).recoveryProbeSlots = 0 →
    ∀ probe ∈ probed.live (probed.cache.now + event.delay), event.reporter = some probe.id
  release : event.op = .releaseProbe → ∃ probe ∈ probed.live (probed.cache.now + event.delay), event.reporter = some probe.id

def OrderlyRun : ProbedCache → List ReportedOp → Prop
  | _, [] => True
  | probed, event :: rest => Orderly probed event ∧ OrderlyRun (probedStep probed event) rest

def slotBound (op : HealthOp) : Nat := if op = .emergencyProbe then channelHealthEmergencyProbeSlots else 1

-- The slots cover the live probes, whose leases end within the shared one.
structure Covered (now slots until_ : Nat) (live : List Probe) : Prop where
  ends : ∀ probe ∈ live, probe.leaseEnd ≤ until_
  count : live.length ≤ slots
  near : until_ ≤ now + channelHealthProbeLeaseDuration

structure Leased (probed : ProbedCache) (bound : Nat) : Prop where
  slots : probed.cache.stored.recoveryProbeSlots ≤ bound
  covered : Covered probed.cache.now probed.cache.stored.recoveryProbeSlots probed.cache.stored.recoveryProbeUntil (probed.live probed.cache.now)
  kept : ∀ entry, probed.cache.entry = some entry →
    entry.health.recoveryProbeUntil + (channelHealthTTL - channelHealthProbeLeaseDuration) ≤ entry.expiresAt

theorem live_later (probed : ProbedCache) (early late : Nat) (after : early ≤ late) (probe : Probe) (member : probe ∈ probed.live late) :
    probe ∈ probed.live early := by
  simp only [ProbedCache.live, List.mem_filter, decide_eq_true_eq] at member ⊢
  exact ⟨member.1, by omega⟩

theorem live_length_later (probed : ProbedCache) (early late : Nat) (after : early ≤ late) :
    (probed.live late).length ≤ (probed.live early).length := by
  refine List.Sublist.length_le ?_
  exact List.monotone_filter_right _ fun probe alive => by
    rw [decide_eq_true_eq] at alive ⊢
    omega

-- What is read when the next operation comes: the stored slots, or none when nothing is live.
theorem Leased.read {probed : ProbedCache} {bound : Nat} (leased : Leased probed bound) (delay : Nat) :
    (probed.cache.wait delay).current.recoveryProbeSlots ≤ bound ∧
      Covered (probed.cache.now + delay) (probed.cache.wait delay).current.recoveryProbeSlots
        (probed.cache.wait delay).current.recoveryProbeUntil (probed.live (probed.cache.now + delay)) := by
  have shorter := live_length_later probed probed.cache.now (probed.cache.now + delay) (by omega)
  have kept := fun probe member => live_later probed probed.cache.now (probed.cache.now + delay) (by omega) probe member
  have near := leased.covered.near
  have count := leased.covered.count
  rcases current_cases probed.cache delay with same | blank
  · rw [same]
    exact ⟨leased.slots, fun probe member => leased.covered.ends probe (kept probe member), by omega, by omega⟩
  · -- A lease that has been forgotten is over.
    have nothing : probed.live (probed.cache.now + delay) = [] := by
      rw [List.eq_nil_iff_forall_not_mem]
      intro probe member
      have ends := leased.covered.ends probe (kept probe member)
      simp only [ProbedCache.live, List.mem_filter, decide_eq_true_eq] at member
      unfold HealthCache.stored at ends
      cases stored : probed.cache.entry with
      | none =>
          simp [stored] at ends
          omega
      | some entry =>
          have long := leased.kept entry stored
          have room : channelHealthProbeLeaseDuration ≤ channelHealthTTL := by decide
          simp only [stored, Option.map_some, Option.getD_some] at ends
          have expired : ¬ probed.cache.now + delay < entry.expiresAt := by
            intro alive
            simp only [HealthCache.current, HealthCache.wait, stored, if_pos alive] at blank
            rw [blank] at ends
            dsimp only at ends
            omega
          omega
    rw [blank, nothing]
    exact ⟨by simp, by simp, by simp, by simp⟩

section Slots

variable (now : Nat) (health : ChannelHealth)

-- A granted probe takes a slot of a lease that begins anew.
theorem granted_slots (maxSlots : Nat) (requireExpired : Bool) (granted : probeStarts now maxSlots requireExpired health = true) :
    (tryStartChannelProbe now maxSlots requireExpired health).recoveryProbeSlots =
        (if now < health.recoveryProbeUntil then health.recoveryProbeSlots else 0) + 1 ∧
      (tryStartChannelProbe now maxSlots requireExpired health).recoveryProbeSlots ≤ maxSlots ∧
      (tryStartChannelProbe now maxSlots requireExpired health).recoveryProbeUntil = now + channelHealthProbeLeaseDuration := by
  obtain ⟨opened, due, room⟩ := of_decide_eq_true granted
  have listed : ¬ (health.state ≠ .cooling ∧ health.state ≠ .halfOpen) := fun ⟨notCooling, notHalf⟩ => opened.elim notCooling notHalf
  simp only [tryStartChannelProbe, if_neg listed, if_neg due]
  split_ifs at room ⊢ with leased full
  · omega
  · exact ⟨rfl, room, rfl⟩
  · simp only [Nat.not_lt] at *
    omega
  · exact ⟨rfl, room, rfl⟩

theorem refused_slots (maxSlots : Nat) (requireExpired : Bool) (refused : probeStarts now maxSlots requireExpired health = false) :
    (tryStartChannelProbe now maxSlots requireExpired health).recoveryProbeUntil = health.recoveryProbeUntil ∧
      ((tryStartChannelProbe now maxSlots requireExpired health).recoveryProbeSlots = health.recoveryProbeSlots ∨
        (health.recoveryProbeUntil ≤ now ∧ (tryStartChannelProbe now maxSlots requireExpired health).recoveryProbeSlots = 0)) := by
  have refusal := of_decide_eq_false refused
  have opened : ¬ (health.state ≠ .cooling ∧ health.state ≠ .halfOpen) → health.Open := by
    intro listed
    unfold ChannelHealth.Open
    tauto
  unfold tryStartChannelProbe
  dsimp only
  split_ifs with unlisted early leased full full
  · exact ⟨rfl, .inl rfl⟩
  · exact ⟨rfl, .inl rfl⟩
  · exact ⟨rfl, .inl rfl⟩
  · exact (refusal ⟨opened unlisted, early, by rw [if_pos leased]; omega⟩).elim
  · exact ⟨rfl, .inr ⟨by omega, rfl⟩⟩
  · exact (refusal ⟨opened unlisted, early, by rw [if_neg leased]; exact Nat.lt_of_not_le full⟩).elim

-- An outcome clears the slots or leaves the lease alone.
theorem retry_slots (requestID : String) (shortCooldown failureThreshold : Int) :
    (recordRetryableFailure now requestID shortCooldown failureThreshold health).recoveryProbeUntil ≤ health.recoveryProbeUntil ∧
      ((recordRetryableFailure now requestID shortCooldown failureThreshold health).recoveryProbeSlots = 0 ∨
        ((recordRetryableFailure now requestID shortCooldown failureThreshold health).recoveryProbeSlots = health.recoveryProbeSlots ∧
          (recordRetryableFailure now requestID shortCooldown failureThreshold health).recoveryProbeUntil = health.recoveryProbeUntil)) := by
  unfold recordRetryableFailure
  dsimp only
  split_ifs
  · exact ⟨Nat.le_refl _, .inr ⟨rfl, rfl⟩⟩
  all_goals exact ⟨Nat.zero_le _, .inl rfl⟩

theorem outcome_slots (op : HealthOp) (outcome : op = .success ∨ ∃ report, op = .failure report) :
    (updateHealth now op health).recoveryProbeUntil ≤ health.recoveryProbeUntil ∧
      ((updateHealth now op health).recoveryProbeSlots = 0 ∨
        ((updateHealth now op health).recoveryProbeSlots = health.recoveryProbeSlots ∧
          (updateHealth now op health).recoveryProbeUntil = health.recoveryProbeUntil)) := by
  rcases outcome with rfl | ⟨report, rfl⟩
  · unfold updateHealth recordChannelSuccess
    dsimp only
    split_ifs
    · exact ⟨Nat.zero_le _, .inl rfl⟩
    · exact ⟨Nat.zero_le _, .inl rfl⟩
    · exact ⟨Nat.zero_le _, .inl rfl⟩
    · exact ⟨Nat.le_refl _, .inl rfl⟩
  · cases report with
    | modelUnavailable requestID =>
        simp only [updateHealth, recordFailure, recordChannelModelUnavailable]
        split_ifs
        · exact ⟨Nat.le_refl _, .inr ⟨rfl, rfl⟩⟩
        · exact ⟨Nat.le_refl _, .inr ⟨rfl, rfl⟩⟩
        · exact ⟨Nat.le_refl _, .inl rfl⟩
        · exact ⟨Nat.le_refl _, .inl rfl⟩
    | upstreamFailure => exact ⟨Nat.le_refl _, .inl rfl⟩
    | retryable => exact retry_slots now health _ _ _
    | retryableWithCooldown shortCooldown => exact retry_slots now health _ _ _
    | retryableForRequest requestID shortCooldown => exact retry_slots now health _ _ _
    | gateway statusCode => exact retry_slots now health _ _ _
    | gatewayForRequest requestID statusCode => exact retry_slots now health _ _ _

theorem release_slots :
    (releaseChannelProbe health).recoveryProbeSlots = health.recoveryProbeSlots - 1 ∧
      ((releaseChannelProbe health).recoveryProbeUntil = health.recoveryProbeUntil ∨
        ((releaseChannelProbe health).recoveryProbeUntil = 0 ∧ health.recoveryProbeSlots = 1)) := by
  unfold releaseChannelProbe
  split_ifs with none one
  · exact ⟨by omega, .inl rfl⟩
  · exact ⟨by rw [one], .inr ⟨rfl, one⟩⟩
  · exact ⟨rfl, .inl rfl⟩

end Slots

theorem Covered.expired {now slots until_ : Nat} {live : List Probe} (covered : Covered now slots until_ live)
    (alive : ∀ probe ∈ live, now < probe.leaseEnd) (ended : until_ ≤ now) : live = [] := by
  rw [List.eq_nil_iff_forall_not_mem]
  intro probe member
  have ends := covered.ends probe member
  have running := alive probe member
  omega

-- The probes still live after the report of an operation.
def ProbedCache.unreported (probed : ProbedCache) (event : ReportedOp) : List Probe :=
  (probed.live (probed.cache.now + event.delay)).filter fun probe => some probe.id ≠ event.reporter

theorem live_of_step (probed : ProbedCache) (event : ReportedOp) :
    (probedStep probed event).live (probed.cache.now + event.delay) =
      if event.op.starts (probed.cache.now + event.delay) (probed.cache.wait event.delay).current then
        ⟨probed.drawn, probed.cache.now + event.delay + channelHealthProbeLeaseDuration⟩ :: probed.unreported event
      else probed.unreported event := by
  have lease : 0 < channelHealthProbeLeaseDuration := by decide
  unfold probedStep ProbedCache.unreported ProbedCache.live
  split_ifs with starts
  · simp only [starts, if_true, List.filter_cons]
    rw [if_pos (by simpa using lease), List.filter_filter, List.filter_filter]
    congr 2
    funext probe
    exact Bool.and_comm _ _
  · simp only [starts, Bool.false_eq_true, if_false, List.filter_filter]
    congr 1
    funext probe
    exact Bool.and_comm _ _

theorem unreported_sublist (probed : ProbedCache) (event : ReportedOp) :
    (probed.unreported event).Sublist (probed.live (probed.cache.now + event.delay)) := List.filter_sublist

theorem unreported_alive (probed : ProbedCache) (event : ReportedOp) (probe : Probe) (member : probe ∈ probed.unreported event) :
    probed.cache.now + event.delay < probe.leaseEnd := by
  have alive := (unreported_sublist probed event).subset member
  simp only [ProbedCache.live, List.mem_filter, decide_eq_true_eq] at alive
  exact alive.2

theorem Covered.fewer {now slots until_ : Nat} {live rest : List Probe} (covered : Covered now slots until_ live)
    (fewer : rest.Sublist live) : Covered now slots until_ rest :=
  ⟨fun probe member => covered.ends probe (fewer.subset member), Nat.le_trans fewer.length_le covered.count, covered.near⟩

theorem Covered.none {now slots until_ : Nat} {live : List Probe} (near : until_ ≤ now + channelHealthProbeLeaseDuration) (nothing : live = []) :
    Covered now slots until_ live := by
  subst nothing
  exact ⟨by simp, by simp, near⟩

section Covering

variable {now : Nat} {health : ChannelHealth} {live : List Probe}
  (covered : Covered now health.recoveryProbeSlots health.recoveryProbeUntil live) (alive : ∀ probe ∈ live, now < probe.leaseEnd)

include covered alive

theorem Covered.grant (id maxSlots : Nat) (requireExpired : Bool) (granted : probeStarts now maxSlots requireExpired health = true) :
    Covered now (tryStartChannelProbe now maxSlots requireExpired health).recoveryProbeSlots
      (tryStartChannelProbe now maxSlots requireExpired health).recoveryProbeUntil (⟨id, now + channelHealthProbeLeaseDuration⟩ :: live) := by
  obtain ⟨taken, _, lease⟩ := granted_slots now health maxSlots requireExpired granted
  refine ⟨fun probe member => ?_, ?_, Nat.le_of_eq lease⟩
  · rw [lease]
    rcases List.mem_cons.mp member with fresh | earlier
    · rw [fresh]
    · exact Nat.le_trans (covered.ends probe earlier) covered.near
  · rw [taken, List.length_cons]
    split_ifs with leased
    · exact Nat.succ_le_succ covered.count
    · rw [covered.expired alive (by omega)]
      simp

theorem Covered.refuse (maxSlots : Nat) (requireExpired : Bool) (refused : probeStarts now maxSlots requireExpired health = false) :
    Covered now (tryStartChannelProbe now maxSlots requireExpired health).recoveryProbeSlots
      (tryStartChannelProbe now maxSlots requireExpired health).recoveryProbeUntil live := by
  obtain ⟨lease, same | ⟨ended, _⟩⟩ := refused_slots now health maxSlots requireExpired refused
  · rw [lease, same]
    exact covered
  · rw [lease]
    exact .none covered.near (covered.expired alive ended)

end Covering

theorem probed_step_cache (probed : ProbedCache) (event : ReportedOp) :
    (probedStep probed event).cache = healthStep probed.cache event.toTimedOp := by
  unfold probedStep
  dsimp only
  split <;> rfl

section Leasing

variable {probed : ProbedCache} {bound : Nat} {event : ReportedOp}

theorem Leased.of_covered
    (slots : (updateHealth (probed.cache.now + event.delay) event.op (probed.cache.wait event.delay).current).recoveryProbeSlots ≤ bound)
    (covered : Covered (probed.cache.now + event.delay)
      (updateHealth (probed.cache.now + event.delay) event.op (probed.cache.wait event.delay).current).recoveryProbeSlots
      (updateHealth (probed.cache.now + event.delay) event.op (probed.cache.wait event.delay).current).recoveryProbeUntil
      ((probedStep probed event).live (probed.cache.now + event.delay))) : Leased (probedStep probed event) bound := by
  refine ⟨?_, ?_, ?_⟩
  · rw [probed_step_cache, stored_step]
    exact slots
  · rw [probed_step_cache, stored_step]
    exact covered
  · intro entry stored
    rw [probed_step_cache] at stored
    cases stored
    have near := covered.near
    have room : channelHealthProbeLeaseDuration ≤ channelHealthTTL := by decide
    simp only [HealthCache.wait] at near ⊢
    omega

-- A probe is granted and joins the live ones, or refused and changes nothing that counts.
theorem Leased.probe (leased : Leased probed bound) (maxSlots : Nat) (requireExpired : Bool) (small : maxSlots ≤ bound)
    (starts : event.op.starts (probed.cache.now + event.delay) (probed.cache.wait event.delay).current =
      probeStarts (probed.cache.now + event.delay) maxSlots requireExpired (probed.cache.wait event.delay).current)
    (updates : updateHealth (probed.cache.now + event.delay) event.op (probed.cache.wait event.delay).current =
      tryStartChannelProbe (probed.cache.now + event.delay) maxSlots requireExpired (probed.cache.wait event.delay).current) :
    Leased (probedStep probed event) bound := by
  obtain ⟨slots, read⟩ := leased.read event.delay
  have rest := read.fewer (unreported_sublist probed event)
  have alive := unreported_alive probed event
  cases granted : probeStarts (probed.cache.now + event.delay) maxSlots requireExpired (probed.cache.wait event.delay).current with
  | true =>
      refine Leased.of_covered ?_ ?_
      · rw [updates]
        exact Nat.le_trans (granted_slots _ _ maxSlots requireExpired granted).2.1 small
      · rw [live_of_step, starts, granted, updates]
        exact rest.grant alive probed.drawn maxSlots requireExpired granted
  | false =>
      refine Leased.of_covered ?_ ?_
      · rw [updates]
        rcases (refused_slots _ _ maxSlots requireExpired granted).2 with same | ⟨_, none⟩ <;> omega
      · rw [live_of_step, starts, granted, updates]
        exact rest.refuse alive maxSlots requireExpired granted

theorem Leased.step (leased : Leased probed bound) (small : slotBound event.op ≤ bound) (orderly : Orderly probed event) :
    Leased (probedStep probed event) bound := by
  obtain ⟨slots, read⟩ := leased.read event.delay
  have rest := read.fewer (unreported_sublist probed event)
  have alive := unreported_alive probed event
  have outcome : (event.op = .success ∨ ∃ report, event.op = .failure report) → Leased (probedStep probed event) bound := by
    intro reports
    have unstarted : event.op.starts (probed.cache.now + event.delay) (probed.cache.wait event.delay).current = false := by
      rcases reports with success | ⟨report, failure⟩
      · rw [success]
        rfl
      · rw [failure]
        rfl
    obtain ⟨shorter, cleared | ⟨same, lease⟩⟩ := outcome_slots (probed.cache.now + event.delay) (probed.cache.wait event.delay).current
      event.op reports
    · refine Leased.of_covered (by omega) (.none (Nat.le_trans shorter read.near) ?_)
      rw [live_of_step, unstarted, List.eq_nil_iff_forall_not_mem]
      intro probe member
      obtain ⟨live, other⟩ := List.mem_filter.mp member
      have reporter := orderly.outcome reports cleared probe live
      simp [reporter] at other
    · refine Leased.of_covered (by omega) ?_
      rw [same, lease, live_of_step, unstarted]
      exact rest
  cases op : event.op with
  | success => exact outcome (.inl op)
  | failure report => exact outcome (.inr ⟨report, op⟩)
  | softFailure requestID =>
      have same : (recordChannelSoftFailureForRequest (probed.cache.now + event.delay) requestID
          (probed.cache.wait event.delay).current).recoveryProbeSlots = (probed.cache.wait event.delay).current.recoveryProbeSlots ∧
          (recordChannelSoftFailureForRequest (probed.cache.now + event.delay) requestID
            (probed.cache.wait event.delay).current).recoveryProbeUntil = (probed.cache.wait event.delay).current.recoveryProbeUntil := by
        unfold recordChannelSoftFailureForRequest
        split <;> exact ⟨rfl, rfl⟩
      refine Leased.of_covered ?_ ?_
      · rw [op]
        exact Nat.le_trans (Nat.le_of_eq same.1) slots
      · rw [live_of_step, op]
        simp only [updateHealth, same]
        exact rest
  | releaseProbe =>
      obtain ⟨returned, lease⟩ := release_slots (probed.cache.wait event.delay).current
      obtain ⟨reporter, running, reported⟩ := orderly.release op
      have shorter : (probed.unreported event).length < (probed.live (probed.cache.now + event.delay)).length := by
        refine List.length_filter_lt_length_iff_exists.mpr ⟨reporter, running, ?_⟩
        simp [reported]
      have count := read.count
      refine Leased.of_covered ?_ ?_
      · rw [op]
        simp only [updateHealth, returned]
        omega
      · rw [live_of_step, op]
        simp only [updateHealth, HealthOp.starts, returned]
        rcases lease with same | ⟨zero, one⟩
        · rw [same]
          exact ⟨rest.ends, by simp only [Bool.false_eq_true, if_false]; omega, read.near⟩
        · refine .none (by omega) ?_
          simp only [Bool.false_eq_true, if_false]
          exact List.length_eq_zero_iff.mp (by omega)
  | recoveryProbe =>
      rw [op] at small
      exact leased.probe 1 true small (by rw [op]; rfl) (by rw [op]; rfl)
  | emergencyProbe =>
      rw [op] at small
      exact leased.probe channelHealthEmergencyProbeSlots false small (by rw [op]; rfl) (by rw [op]; rfl)
  | lastResortProbe =>
      rw [op] at small
      exact leased.probe 1 false small (by rw [op]; rfl) (by rw [op]; rfl)

end Leasing

def ProbedCache.blank (start : Nat) : ProbedCache := ⟨⟨start, none⟩, 0, []⟩

theorem Leased.blank (start bound : Nat) : Leased (.blank start) bound :=
  ⟨by simp [ProbedCache.blank, HealthCache.stored], .none (by simp [ProbedCache.blank, HealthCache.stored]) rfl, by simp [ProbedCache.blank]⟩

theorem Leased.run {probed : ProbedCache} {bound : Nat} (events : List ReportedOp) (leased : Leased probed bound)
    (small : ∀ event ∈ events, slotBound event.op ≤ bound) (orderly : OrderlyRun probed events) :
    Leased (run probedStep probed events) bound := by
  induction events generalizing probed with
  | nil => exact leased
  | cons event rest ih =>
      exact ih (leased.step (small event (by simp)) orderly.1) (fun later member => small later (by simp [member])) orderly.2

def probeBound (events : List ReportedOp) : Nat :=
  if ∃ event ∈ events, event.op = .emergencyProbe then channelHealthEmergencyProbeSlots else 1

theorem slot_bound_le (events : List ReportedOp) (event : ReportedOp) (member : event ∈ events) : slotBound event.op ≤ probeBound events := by
  have larger : 1 ≤ channelHealthEmergencyProbeSlots := by decide
  unfold slotBound probeBound
  split_ifs with emergency used used
  · exact Nat.le_refl _
  · exact (used ⟨event, member, emergency⟩).elim
  · exact larger
  · exact Nat.le_refl _

def ClosesByTwo (start : Nat) : Prop :=
  ∀ (events : List TimedOp) (timed : TimedOp), ((run healthStep ⟨start, none⟩ events).wait timed.delay).current.Open →
    (healthStep (run healthStep ⟨start, none⟩ events) timed).current.state = .healthy →
    Counted (run healthStep ⟨start, none⟩ events) timed ∧ ∃ early first later, events = early ++ first :: later ∧
      Counted (run healthStep ⟨start, none⟩ early) first ∧ OnlyRepeats (run healthStep ⟨start, none⟩ (early ++ [first])) later

def ProbesBounded (start : Nat) : Prop :=
  ∀ events : List ReportedOp, OrderlyRun (.blank start) events → ∀ time, (run probedStep (.blank start) events).cache.now ≤ time →
    ((run probedStep (.blank start) events).live time).length ≤ probeBound events

theorem open_circuit_closes_by_two_and_bounds_probes (start : Nat) : ClosesByTwo start ∧ ProbesBounded start := by
  refine ⟨closes_after_two start, fun events orderly time moment => ?_⟩
  have leased := (Leased.blank start (probeBound events)).run events (slot_bound_le events) orderly
  have count := leased.covered.count
  have slots := leased.slots
  have fewer := live_length_later (run probedStep (.blank start) events) _ time moment
  omega

-- One recovery probe from its start to its success.
def recovery : List ReportedOp :=
  [⟨⟨0, .failure .upstreamFailure⟩, none⟩, ⟨⟨channelModelUpstreamFailureTTL, .recoveryProbe⟩, none⟩, ⟨⟨second, .success⟩, some 0⟩]

theorem recovery_closes_and_bounds :
    ((run probedStep (.blank 1) recovery).live ((run probedStep (.blank 1) recovery).cache.now)).length ≤ 1 ∧
      Counted (run healthStep ⟨1, none⟩ (recovery.map ReportedOp.toTimedOp)) ⟨second, .success⟩ := by
  obtain ⟨closes, bounded⟩ := open_circuit_closes_by_two_and_bounds_probes 1
  refine ⟨bounded recovery ?_ _ (Nat.le_refl _), (closes _ ⟨second, .success⟩ (by decide +kernel) (by decide +kernel)).1⟩
  exact ⟨⟨fun _ _ => by decide +kernel, nofun⟩, ⟨by simp, nofun⟩, ⟨fun _ _ => by decide +kernel, nofun⟩, trivial⟩

-- A success of an emergency probe counts while the circuit is cooling, and a success of an
-- ordinary request gives the slot of a running probe to another one.
def emergencyRecovery : List TimedOp :=
  [⟨0, .failure .upstreamFailure⟩, ⟨second, .emergencyProbe⟩, ⟨second, .success⟩, ⟨second, .success⟩]

def overlappingProbes : List ReportedOp :=
  [⟨⟨0, .failure .upstreamFailure⟩, none⟩, ⟨⟨channelModelUpstreamFailureTTL, .recoveryProbe⟩, none⟩, ⟨⟨second, .success⟩, none⟩,
    ⟨⟨second, .recoveryProbe⟩, none⟩]

theorem emergency_closes_early_and_probes_overlap :
    (run healthStep ⟨1, none⟩ (emergencyRecovery.take 1)).current.state = .cooling ∧
      (run healthStep ⟨1, none⟩ emergencyRecovery).current.state = .healthy ∧
      (run healthStep ⟨1, none⟩ emergencyRecovery).now < (run healthStep ⟨1, none⟩ (emergencyRecovery.take 1)).current.coolingUntil ∧
      ((run probedStep (.blank 1) overlappingProbes).live ((run probedStep (.blank 1) overlappingProbes).cache.now)).length = 2 ∧
      (∀ event ∈ overlappingProbes, event.op ≠ .emergencyProbe) := by
  decide +kernel

end CodeGo.Gateway
