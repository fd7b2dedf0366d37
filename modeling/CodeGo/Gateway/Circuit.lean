import CodeGo.Gateway.ChannelHealth

set_option autoImplicit false

namespace CodeGo.Gateway

open Relational

theorem doubled_cooldown_pos (failures base : Nat) (positive : 0 < base) : 0 < doubledCooldown failures base := by
  induction failures generalizing base with
  | zero => exact positive
  | succ failures ih =>
      unfold doubledCooldown
      split
      · exact ih (base * 2) (by omega)
      · exact positive

theorem adaptive_cooldown_bounds (base : Int) (failures : Nat) :
    0 < adaptiveChannelCooldown base failures ∧ adaptiveChannelCooldown base failures ≤ channelHealthCooldownDuration := by
  have cap : 0 < channelHealthCooldownDuration := by decide
  have positive : 0 < (if base ≤ 0 then channelHealthShortCooldown else base.toNat) := by
    split
    · decide
    · omega
  have doubled := doubled_cooldown_pos failures _ positive
  unfold adaptiveChannelCooldown
  omega

section Deadlines

variable (now : Nat) (health : ChannelHealth)

-- No recorder looks further ahead than the longest circuit.
def Near : Prop := health.coolingUntil ≤ now + channelModelUnavailableTTL

theorem near_retryable (requestID : String) (shortCooldown failureThreshold : Int) (near : Near now health) :
    Near now (recordRetryableFailure now requestID shortCooldown failureThreshold health) := by
  have limit : channelHealthCooldownDuration ≤ channelModelUnavailableTTL := by decide
  have bounds := adaptive_cooldown_bounds shortCooldown
    (retryableFailureBackoffLevel (health.consecutiveRetryableFailures + 1) (effectiveThreshold failureThreshold))
  have ahead : retryableCooldown shortCooldown failureThreshold health ≤ channelHealthCooldownDuration := bounds.2
  unfold Near at near ⊢
  unfold recordRetryableFailure
  split
  · exact near
  · dsimp only
    split
    · split <;> dsimp only <;> omega
    · split <;> dsimp only <;> omega

theorem near_failure (report : FailureReport) (near : Near now health) : Near now (recordFailure now report health) := by
  cases report with
  | modelUnavailable requestID =>
      unfold Near at near ⊢
      unfold recordFailure recordChannelModelUnavailable
      dsimp only
      split_ifs <;> dsimp only <;> omega
  | upstreamFailure =>
      have limit : channelModelUpstreamFailureTTL ≤ channelModelUnavailableTTL := by decide
      exact Nat.add_le_add_left limit now
  | retryable => exact near_retryable now health _ _ _ near
  | retryableWithCooldown shortCooldown => exact near_retryable now health _ _ _ near
  | retryableForRequest requestID shortCooldown => exact near_retryable now health _ _ _ near
  | gateway statusCode => exact near_retryable now health _ _ _ near
  | gatewayForRequest requestID statusCode => exact near_retryable now health _ _ _ near

theorem near_probe (maxSlots : Nat) (requireExpired : Bool) (near : Near now health) :
    Near now (tryStartChannelProbe now maxSlots requireExpired health) := by
  unfold Near at near ⊢
  unfold tryStartChannelProbe
  dsimp only
  split_ifs <;> exact near

theorem near_update (op : HealthOp) (near : Near now health) : Near now (updateHealth now op health) := by
  cases op with
  | failure report => exact near_failure now health report near
  | softFailure requestID =>
      unfold Near at near ⊢
      simp only [updateHealth, recordChannelSoftFailureForRequest]
      split_ifs <;> exact near
  | success =>
      unfold Near at near ⊢
      unfold updateHealth recordChannelSuccess
      dsimp only
      split_ifs <;> dsimp only <;> omega
  | recoveryProbe => exact near_probe now health 1 true near
  | emergencyProbe => exact near_probe now health channelHealthEmergencyProbeSlots false near
  | lastResortProbe => exact near_probe now health 1 false near
  | releaseProbe =>
      unfold Near at near ⊢
      simp only [updateHealth, releaseChannelProbe]
      split_ifs <;> exact near

end Deadlines

-- The deadline in the cache, whether or not the entry is still found.
def HealthCache.deadline (cache : HealthCache) : Nat := (cache.entry.map fun entry => entry.health.coolingUntil).getD 0

-- An entry outlives its deadline, so that an expired entry never hides an open circuit.
def Outlives (cache : HealthCache) : Prop :=
  ∀ entry, cache.entry = some entry →
    entry.health.coolingUntil + (channelHealthTTL - channelModelUnavailableTTL) ≤ entry.expiresAt ∧ entry.expiresAt ≤ cache.now + channelHealthTTL

theorem Outlives.wait {cache : HealthCache} (outlives : Outlives cache) (delay : Nat) : Outlives (cache.wait delay) := by
  intro entry stored
  obtain ⟨deadline, written⟩ := outlives entry stored
  refine ⟨deadline, ?_⟩
  simp only [HealthCache.wait]
  omega

theorem Outlives.near {cache : HealthCache} (outlives : Outlives cache) : Near cache.now cache.current := by
  have room : channelModelUnavailableTTL ≤ channelHealthTTL := by decide
  unfold Near HealthCache.current
  cases stored : cache.entry with
  | none => simp
  | some entry =>
      have bounds := outlives entry stored
      dsimp only
      split
      · omega
      · simp

theorem Outlives.step {cache : HealthCache} (outlives : Outlives cache) (timed : TimedOp) : Outlives (healthStep cache timed) := by
  have room : channelModelUnavailableTTL ≤ channelHealthTTL := by decide
  have near := near_update _ _ timed.op (outlives.wait timed.delay).near
  intro entry stored
  simp only [healthStep, Option.some.injEq] at stored
  subst stored
  unfold Near at near
  refine ⟨?_, by simp [healthStep]⟩
  dsimp only
  omega

theorem outlives_run (start : Nat) (events : List TimedOp) : Outlives (run healthStep ⟨start, none⟩ events) :=
  run_keeps healthStep Outlives (fun _ => True) (fun _ timed _ kept => kept.step timed) _ (by simp [Outlives]) events (fun _ _ => trivial)

-- An open deadline is found: what the recorder reads is what the cache holds.
theorem Outlives.deadline_found {cache : HealthCache} (outlives : Outlives cache) (opened : cache.now < cache.deadline) :
    cache.current.coolingUntil = cache.deadline := by
  unfold HealthCache.deadline at opened ⊢
  unfold HealthCache.current
  cases stored : cache.entry with
  | none => simp [stored] at opened
  | some entry =>
      have bounds := (outlives entry stored).1
      simp only [stored, Option.map_some, Option.getD_some] at opened ⊢
      rw [if_pos (by omega)]

theorem current_le_deadline (cache : HealthCache) : cache.current.coolingUntil ≤ cache.deadline := by
  unfold HealthCache.deadline HealthCache.current
  cases stored : cache.entry with
  | none => simp
  | some entry =>
      simp only [Option.map_some, Option.getD_some]
      split <;> simp

-- What a failure must not do: pull an open deadline closer, or let a failed probe through.
structure StaysClosed (cache : HealthCache) (delay : Nat) (report : FailureReport) : Prop where
  deadline : cache.now + delay < cache.deadline → cache.deadline ≤ (healthStep cache ⟨delay, .failure report⟩).deadline
  probe : (cache.wait delay).current.state = .halfOpen →
    (healthStep cache ⟨delay, .failure report⟩).current.state = .cooling ∧
      cache.now + delay < (healthStep cache ⟨delay, .failure report⟩).current.coolingUntil

-- A retryable failure of a half-open circuit must reach its own threshold, with a request not
-- counted yet, and the deadline it sets must not lie before the one it replaces.
def HarmlessRetry (now : Nat) (requestID : String) (shortCooldown failureThreshold : Int) (health : ChannelHealth) : Prop :=
  (Repeated health requestID → health.state ≠ .halfOpen) ∧
    (¬ Repeated health requestID → (health.state = .halfOpen → Escalated now failureThreshold health) ∧
      (Escalated now failureThreshold health → health.coolingUntil ≤ now + retryableCooldown shortCooldown failureThreshold health))

def Harmless (now : Nat) (health : ChannelHealth) : FailureReport → Prop
  | .modelUnavailable requestID => health.state = .halfOpen →
      health.coolingUntil ≤ now ∧ ¬ Repeated health requestID ∧ channelHealthFailureThreshold ≤ health.consecutiveRetryableFailures + 1
  | .upstreamFailure => health.coolingUntil ≤ now + channelModelUpstreamFailureTTL
  | .retryable => HarmlessRetry now "" channelHealthShortCooldown channelHealthRetryableFailureThreshold health
  | .retryableWithCooldown shortCooldown => HarmlessRetry now "" shortCooldown channelHealthRetryableFailureThreshold health
  | .retryableForRequest requestID shortCooldown => HarmlessRetry now requestID shortCooldown channelHealthRetryableFailureThreshold health
  | .gateway statusCode => HarmlessRetry now "" (retryableFailureCooldown statusCode) channelHealthGatewayFailureThreshold health
  | .gatewayForRequest requestID statusCode =>
      HarmlessRetry now requestID (retryableFailureCooldown statusCode) channelHealthGatewayFailureThreshold health

-- The same two demands on what the recorder reads and writes.
def KeepsClosed (now : Nat) (health after : ChannelHealth) : Prop :=
  (now < health.coolingUntil → health.coolingUntil ≤ after.coolingUntil) ∧
    (health.state = .halfOpen → after.state = .cooling ∧ now < after.coolingUntil)

theorem keeps_closed_retry_iff (now : Nat) (requestID : String) (shortCooldown failureThreshold : Int) (health : ChannelHealth) :
    KeepsClosed now health (recordRetryableFailure now requestID shortCooldown failureThreshold health) ↔
      HarmlessRetry now requestID shortCooldown failureThreshold health := by
  have bounds := adaptive_cooldown_bounds shortCooldown
    (retryableFailureBackoffLevel (health.consecutiveRetryableFailures + 1) (effectiveThreshold failureThreshold))
  have positive : 0 < retryableCooldown shortCooldown failureThreshold health := bounds.1
  unfold KeepsClosed HarmlessRetry recordRetryableFailure
  by_cases repeated : Repeated health requestID
  · simp only [repeated, if_true, not_true_eq_false, false_implies, true_implies, and_true, le_refl, implies_true, true_and]
    constructor
    · intro probe half
      exact absurd (probe half).1 (by simp [half])
    · intro notHalf half
      exact absurd half notHalf
  · by_cases escalated : Escalated now failureThreshold health
    · simp only [repeated, escalated, if_false, if_true, false_implies, not_false_eq_true, true_implies, implies_true, true_and]
      by_cases half : health.state = .halfOpen
      · simp only [half, ne_eq, not_true_eq_false, and_false, if_false, true_implies]
        constructor
        · intro kept
          have moved := kept.1
          omega
        · intro far
          exact ⟨fun _ => far, trivial, by omega⟩
      · by_cases opened : now < health.coolingUntil
        · simp only [half, opened, ne_eq, not_false_eq_true, and_self, if_true, true_implies, false_implies, and_true]
        · simp only [half, opened, ne_eq, not_false_eq_true, false_and, if_false, false_implies, true_and, true_iff]
          omega
    · simp only [repeated, escalated, if_false, false_implies, not_false_eq_true, true_implies, and_true, true_and]
      by_cases half : health.state = .halfOpen
      · simp [half]
      · by_cases opened : now < health.coolingUntil <;> simp [half, opened]

theorem keeps_closed_iff (now : Nat) (report : FailureReport) (health : ChannelHealth) :
    KeepsClosed now health (recordFailure now report health) ↔ Harmless now health report := by
  cases report with
  | modelUnavailable requestID =>
      have ahead : 0 < channelModelUnavailableTTL := by decide
      unfold KeepsClosed Harmless recordFailure recordChannelModelUnavailable
      dsimp only
      by_cases opened : now < health.coolingUntil
      · by_cases half : health.state = .halfOpen
        · simp only [opened, half, if_true, le_refl, implies_true, true_and, reduceCtorEq, false_and, true_implies, false_iff]
          omega
        · simp [opened, half]
      · by_cases repeated : Repeated health requestID
        · simp [opened, repeated]
        · by_cases reached : channelHealthFailureThreshold ≤ health.consecutiveRetryableFailures + 1
          · simp [opened, repeated, reached]
            omega
          · simp [opened, repeated, reached]
  | upstreamFailure =>
      have ahead : 0 < channelModelUpstreamFailureTTL := by decide
      unfold KeepsClosed Harmless recordFailure coolChannelModelForUpstreamFailure
      dsimp only
      constructor
      · intro kept
        have moved := kept.1
        omega
      · intro far
        exact ⟨fun _ => far, fun _ => ⟨rfl, by omega⟩⟩
  | retryable => exact keeps_closed_retry_iff now _ _ _ health
  | retryableWithCooldown shortCooldown => exact keeps_closed_retry_iff now _ _ _ health
  | retryableForRequest requestID shortCooldown => exact keeps_closed_retry_iff now _ _ _ health
  | gateway statusCode => exact keeps_closed_retry_iff now _ _ _ health
  | gatewayForRequest requestID statusCode => exact keeps_closed_retry_iff now _ _ _ health

theorem step_current (cache : HealthCache) (timed : TimedOp) :
    (healthStep cache timed).current = updateHealth (cache.now + timed.delay) timed.op (cache.wait timed.delay).current := by
  have alive : 0 < channelHealthTTL := by decide
  have found : cache.now + timed.delay < cache.now + timed.delay + channelHealthTTL := by omega
  exact if_pos found

theorem step_deadline (cache : HealthCache) (timed : TimedOp) :
    (healthStep cache timed).deadline = (updateHealth (cache.now + timed.delay) timed.op (cache.wait timed.delay).current).coolingUntil := rfl

theorem stays_closed_step_iff (cache : HealthCache) (outlives : Outlives cache) (delay : Nat) (report : FailureReport) :
    StaysClosed cache delay report ↔ Harmless (cache.now + delay) (cache.wait delay).current report := by
  rw [← keeps_closed_iff]
  have found := (outlives.wait delay).deadline_found
  have read := current_le_deadline (cache.wait delay)
  constructor
  · rintro ⟨deadline, probe⟩
    rw [step_current] at probe
    rw [step_deadline] at deadline
    refine ⟨fun opened => ?_, probe⟩
    have stored : cache.now + delay < cache.deadline := Nat.lt_of_lt_of_le opened read
    rw [found stored]
    exact deadline stored
  · rintro ⟨deadline, probe⟩
    refine ⟨fun opened => ?_, fun half => ?_⟩
    · rw [step_deadline]
      have same : (cache.wait delay).current.coolingUntil = cache.deadline := found opened
      rw [← same]
      exact deadline (by rwa [same])
    · rw [step_current]
      exact probe half

/- Over a whole run: failures keep the route closed exactly when each of them is harmless to the
   circuit it meets. -/
theorem failures_keep_route_closed_iff (start : Nat) (events : List TimedOp) :
    (∀ before delay report later, events = before ++ ⟨delay, .failure report⟩ :: later →
        StaysClosed (run healthStep ⟨start, none⟩ before) delay report) ↔
      ∀ before delay report later, events = before ++ ⟨delay, .failure report⟩ :: later →
        Harmless ((run healthStep ⟨start, none⟩ before).now + delay) ((run healthStep ⟨start, none⟩ before).wait delay).current report := by
  constructor
  · intro closed before delay report later split
    exact (stays_closed_step_iff _ (outlives_run start before) delay report).mp (closed before delay report later split)
  · intro harmless before delay report later split
    exact (stays_closed_step_iff _ (outlives_run start before) delay report).mpr (harmless before delay report later split)

def unavailableFiveTimes : List TimedOp :=
  [⟨second, .failure (.modelUnavailable "1")⟩, ⟨second, .failure (.modelUnavailable "2")⟩, ⟨second, .failure (.modelUnavailable "3")⟩,
    ⟨second, .failure (.modelUnavailable "4")⟩, ⟨second, .failure (.modelUnavailable "5")⟩]

def probedUpstreamFailure : List TimedOp := [⟨second, .failure .upstreamFailure⟩, ⟨3 * minute, .recoveryProbe⟩]

-- A retryable failure cuts a circuit of five minutes down to two, and a failed probe of a circuit
-- opened by an upstream failure clears it.
theorem failure_reopens_route :
    ¬ StaysClosed (run healthStep ⟨second, none⟩ unavailableFiveTimes) second .retryable ∧
      ((run healthStep ⟨second, none⟩ probedUpstreamFailure).wait second).current.state = .halfOpen ∧
      (healthStep (run healthStep ⟨second, none⟩ probedUpstreamFailure) ⟨second, .failure .retryable⟩).current.state = .degraded ∧
      (healthStep (run healthStep ⟨second, none⟩ probedUpstreamFailure) ⟨second, .failure .retryable⟩).deadline = 0 ∧
      ¬ StaysClosed (run healthStep ⟨second, none⟩ probedUpstreamFailure) second .retryable := by
  refine ⟨fun closed => ?_, by decide +kernel, by decide +kernel, by decide +kernel, fun closed => ?_⟩
  · exact absurd (closed.deadline (by decide +kernel)) (by decide +kernel)
  · exact absurd (closed.probe (by decide +kernel)).1 (by decide +kernel)

end CodeGo.Gateway
