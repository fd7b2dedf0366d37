import CodeGo.Lib.Transaction
import Mathlib.Data.Rat.Defs
import Mathlib.Algebra.Ring.Nat

set_option autoImplicit false

namespace CodeGo.Gateway

/- The shared routing health of one channel and model. Times are nanoseconds since the zero
   time of the clock, so that zero is the cleared time. Latency and cache statistics and the
   windows of five and fifteen minutes steer no transition and are left out. -/

inductive CircuitState where
  | unset
  | healthy
  | degraded
  | cooling
  | halfOpen
deriving DecidableEq, Repr

structure Window where
  startedAt : Nat := 0
  requests : Nat := 0
  successes : Nat := 0
deriving DecidableEq, Repr

structure ChannelHealth where
  state : CircuitState := .unset
  consecutiveRetryableFailures : Nat := 0
  recoveryProbeSuccesses : Nat := 0
  recoveryProbeUntil : Nat := 0
  recoveryProbeSlots : Nat := 0
  coolingUntil : Nat := 0
  lastSuccessAt : Nat := 0
  lastFailureAt : Nat := 0
  lastFailureRequestID : String := ""
  window2 : Window := {}
deriving DecidableEq, Repr

def second : Nat := 10 ^ 9

def minute : Nat := 60 * second

def channelHealthFailureThreshold : Nat := 5

def channelHealthRetryableFailureThreshold : Int := 3

def channelHealthGatewayFailureThreshold : Int := 2

def channelHealthShortCooldown : Nat := 15 * second

def channelHealthBadGatewayCooldown : Nat := 8 * second

def channelHealthGatewayTimeoutCooldown : Nat := 15 * second

def channelHealthRateLimitCooldown : Nat := 30 * second

def channelHealthCooldownDuration : Nat := 2 * minute

def channelHealthProbeLeaseDuration : Nat := 10 * second

def channelHealthEmergencyProbeSlots : Nat := 2

def channelHealthTTL : Nat := 20 * minute

def channelModelUnavailableTTL : Nat := 5 * minute

def channelModelUpstreamFailureTTL : Nat := 2 * minute

def channelHealthShortWindow : Nat := 2 * minute

def channelHealthShortMinRequests : Nat := 5

def channelHealthShortMaxSuccess : ℚ := 40

def recordChannelHealthWindow (window : Window) (now : Nat) (success : Bool) : Window :=
  let current := if window.startedAt = 0 ∨ now - window.startedAt ≥ channelHealthShortWindow then { startedAt := now } else window
  { current with requests := current.requests + 1, successes := if success then current.successes + 1 else current.successes }

def Window.successRate (window : Window) : ℚ := (window.successes : ℚ) / (window.requests : ℚ) * 100

def shouldCoolForShortTermFailureRate (window : Window) : Bool :=
  channelHealthShortMinRequests ≤ window.requests ∧ 3 ≤ window.requests - window.successes ∧ window.successRate ≤ channelHealthShortMaxSuccess

-- The base doubles once for every failure after the first, until it reaches the cap.
def doubledCooldown : Nat → Nat → Nat
  | 0, base => base
  | failures + 1, base => if 0 < failures ∧ base < channelHealthCooldownDuration then doubledCooldown failures (base * 2) else base

def adaptiveChannelCooldown (base : Int) (failures : Nat) : Nat :=
  min (doubledCooldown failures (if base ≤ 0 then channelHealthShortCooldown else base.toNat)) channelHealthCooldownDuration

def retryableFailureBackoffLevel (failures failureThreshold : Nat) : Nat :=
  if failures ≤ failureThreshold then 1 else failures - failureThreshold + 1

def retryableFailureCooldown (statusCode : Int) : Nat :=
  if statusCode = 429 then channelHealthRateLimitCooldown
  else if statusCode = 504 ∨ statusCode = 524 then channelHealthGatewayTimeoutCooldown
  else if statusCode = 502 then channelHealthBadGatewayCooldown
  else channelHealthShortCooldown

-- A retry of the request that failed last.
def Repeated (health : ChannelHealth) (requestID : String) : Prop := requestID ≠ "" ∧ health.lastFailureRequestID = requestID

instance (health : ChannelHealth) (requestID : String) : Decidable (Repeated health requestID) := inferInstanceAs (Decidable (_ ∧ _))

def recordChannelModelUnavailable (now : Nat) (requestID : String) (health : ChannelHealth) : ChannelHealth :=
  let seen := { health with lastFailureAt := now, window2 := recordChannelHealthWindow health.window2 now false }
  if now < health.coolingUntil then seen
  else if Repeated health requestID then seen
  else
    let counted := { seen with
      lastFailureRequestID := requestID, consecutiveRetryableFailures := health.consecutiveRetryableFailures + 1, recoveryProbeSuccesses := 0,
      recoveryProbeSlots := 0 }
    if channelHealthFailureThreshold ≤ counted.consecutiveRetryableFailures then
      { counted with state := .cooling, coolingUntil := now + channelModelUnavailableTTL }
    else { counted with state := .degraded }

def coolChannelModelForUpstreamFailure (now : Nat) (health : ChannelHealth) : ChannelHealth :=
  { health with
    state := .cooling, consecutiveRetryableFailures := 0, recoveryProbeSuccesses := 0, recoveryProbeSlots := 0,
    coolingUntil := now + channelModelUpstreamFailureTTL, lastFailureAt := now,
    window2 := recordChannelHealthWindow health.window2 now false }

-- A threshold of zero or less stands for the default one.
def effectiveThreshold (failureThreshold : Int) : Nat :=
  if failureThreshold ≤ 0 then channelHealthRetryableFailureThreshold.toNat else failureThreshold.toNat

-- The failure is one too many, by the rate of the short window or by the count.
def Escalated (now : Nat) (failureThreshold : Int) (health : ChannelHealth) : Prop :=
  shouldCoolForShortTermFailureRate (recordChannelHealthWindow health.window2 now false) = true ∨
    effectiveThreshold failureThreshold ≤ health.consecutiveRetryableFailures + 1

instance (now : Nat) (failureThreshold : Int) (health : ChannelHealth) : Decidable (Escalated now failureThreshold health) :=
  inferInstanceAs (Decidable (_ ∨ _))

def retryableCooldown (shortCooldown failureThreshold : Int) (health : ChannelHealth) : Nat :=
  adaptiveChannelCooldown shortCooldown
    (retryableFailureBackoffLevel (health.consecutiveRetryableFailures + 1) (effectiveThreshold failureThreshold))

def recordRetryableFailure (now : Nat) (requestID : String) (shortCooldown failureThreshold : Int) (health : ChannelHealth) : ChannelHealth :=
  if Repeated health requestID then health
  else
    let counted := { health with
      lastFailureAt := now, lastFailureRequestID := if requestID ≠ "" then requestID else health.lastFailureRequestID,
      window2 := recordChannelHealthWindow health.window2 now false, consecutiveRetryableFailures := health.consecutiveRetryableFailures + 1,
      recoveryProbeSuccesses := 0, recoveryProbeUntil := 0, recoveryProbeSlots := 0 }
    if now < health.coolingUntil ∧ health.state ≠ .halfOpen then
      if Escalated now failureThreshold health then
        { counted with coolingUntil := now + retryableCooldown shortCooldown failureThreshold health }
      else counted
    else if Escalated now failureThreshold health then
      { counted with coolingUntil := now + retryableCooldown shortCooldown failureThreshold health, state := .cooling }
    else { counted with coolingUntil := 0, state := .degraded }

def recordChannelRetryableFailureWithCooldown (now : Nat) (shortCooldown : Int) : ChannelHealth → ChannelHealth :=
  recordRetryableFailure now "" shortCooldown channelHealthRetryableFailureThreshold

def recordChannelRetryableFailure (now : Nat) : ChannelHealth → ChannelHealth :=
  recordChannelRetryableFailureWithCooldown now channelHealthShortCooldown

def recordChannelRetryableFailureForRequest (now : Nat) (requestID : String) (shortCooldown : Int) : ChannelHealth → ChannelHealth :=
  recordRetryableFailure now requestID shortCooldown channelHealthRetryableFailureThreshold

def recordChannelGatewayFailure (now : Nat) (statusCode : Int) : ChannelHealth → ChannelHealth :=
  recordRetryableFailure now "" (retryableFailureCooldown statusCode) channelHealthGatewayFailureThreshold

def recordChannelGatewayFailureForRequest (now : Nat) (requestID : String) (statusCode : Int) : ChannelHealth → ChannelHealth :=
  recordRetryableFailure now requestID (retryableFailureCooldown statusCode) channelHealthGatewayFailureThreshold

def recordChannelSoftFailureForRequest (now : Nat) (requestID : String) (health : ChannelHealth) : ChannelHealth :=
  if Repeated health requestID then health
  else { health with lastFailureAt := now, lastFailureRequestID := requestID, window2 := recordChannelHealthWindow health.window2 now false }

def recordChannelSuccess (now : Nat) (health : ChannelHealth) : ChannelHealth :=
  let seen := { health with lastSuccessAt := now, window2 := recordChannelHealthWindow health.window2 now true }
  let restored := { seen with
    consecutiveRetryableFailures := 0, recoveryProbeSuccesses := 0, recoveryProbeSlots := 0, state := .healthy, coolingUntil := 0 }
  if health.state = .cooling ∧ now < health.coolingUntil then { seen with recoveryProbeUntil := 0, recoveryProbeSlots := 0 }
  else if health.state = .halfOpen ∨ health.state = .cooling then
    let probed := { seen with recoveryProbeSuccesses := health.recoveryProbeSuccesses + 1, recoveryProbeUntil := 0, recoveryProbeSlots := 0 }
    if probed.recoveryProbeSuccesses < 2 then { probed with state := .cooling, coolingUntil := now }
    else { restored with recoveryProbeUntil := 0 }
  else restored

def tryStartChannelProbe (now maxSlots : Nat) (requireExpired : Bool) (health : ChannelHealth) : ChannelHealth :=
  if health.state ≠ .cooling ∧ health.state ≠ .halfOpen then health
  else if requireExpired = true ∧ now < health.coolingUntil then health
  else
    let leased := if now < health.recoveryProbeUntil then health else { health with recoveryProbeSlots := 0 }
    if maxSlots ≤ leased.recoveryProbeSlots then leased
    else { leased with
      state := .halfOpen, recoveryProbeUntil := now + channelHealthProbeLeaseDuration, recoveryProbeSlots := leased.recoveryProbeSlots + 1 }

def tryStartChannelRecoveryProbe (now : Nat) : ChannelHealth → ChannelHealth := tryStartChannelProbe now 1 true

def tryStartChannelEmergencyRetryProbe (now : Nat) : ChannelHealth → ChannelHealth :=
  tryStartChannelProbe now channelHealthEmergencyProbeSlots false

def tryStartChannelLastResortProbe (now : Nat) : ChannelHealth → ChannelHealth := tryStartChannelProbe now 1 false

def releaseChannelProbe (health : ChannelHealth) : ChannelHealth :=
  if health.recoveryProbeSlots = 0 then health
  else if health.recoveryProbeSlots = 1 then { health with recoveryProbeSlots := 0, recoveryProbeUntil := 0 }
  else { health with recoveryProbeSlots := health.recoveryProbeSlots - 1 }

inductive FailureReport where
  | modelUnavailable (requestID : String)
  | upstreamFailure
  | retryable
  | retryableWithCooldown (shortCooldown : Int)
  | retryableForRequest (requestID : String) (shortCooldown : Int)
  | gateway (statusCode : Int)
  | gatewayForRequest (requestID : String) (statusCode : Int)
deriving DecidableEq, Repr

def recordFailure (now : Nat) : FailureReport → ChannelHealth → ChannelHealth
  | .modelUnavailable requestID => recordChannelModelUnavailable now requestID
  | .upstreamFailure => coolChannelModelForUpstreamFailure now
  | .retryable => recordChannelRetryableFailure now
  | .retryableWithCooldown shortCooldown => recordChannelRetryableFailureWithCooldown now shortCooldown
  | .retryableForRequest requestID shortCooldown => recordChannelRetryableFailureForRequest now requestID shortCooldown
  | .gateway statusCode => recordChannelGatewayFailure now statusCode
  | .gatewayForRequest requestID statusCode => recordChannelGatewayFailureForRequest now requestID statusCode

inductive HealthOp where
  | failure (report : FailureReport)
  | softFailure (requestID : String)
  | success
  | recoveryProbe
  | emergencyProbe
  | lastResortProbe
  | releaseProbe
deriving DecidableEq, Repr

-- Probes and releases look for an existing entry; the recorders start one.
def updateHealth (now : Nat) : HealthOp → ChannelHealth → ChannelHealth
  | .failure report => recordFailure now report
  | .softFailure requestID => recordChannelSoftFailureForRequest now requestID
  | .success => recordChannelSuccess now
  | .recoveryProbe => tryStartChannelRecoveryProbe now
  | .emergencyProbe => tryStartChannelEmergencyRetryProbe now
  | .lastResortProbe => tryStartChannelLastResortProbe now
  | .releaseProbe => releaseChannelProbe

structure CacheEntry where
  health : ChannelHealth
  expiresAt : Nat
deriving DecidableEq, Repr

-- One key of the cache. Every update stores the entry anew with the full time to live, and an
-- entry past it is not found; probes and releases of a missing entry store an empty one.
structure HealthCache where
  now : Nat
  entry : Option CacheEntry

def HealthCache.current (cache : HealthCache) : ChannelHealth :=
  match cache.entry with
  | none => {}
  | some entry => if cache.now < entry.expiresAt then entry.health else {}

-- Each operation happens some time after the one before it.
structure TimedOp where
  delay : Nat
  op : HealthOp
deriving DecidableEq, Repr

def HealthCache.wait (cache : HealthCache) (delay : Nat) : HealthCache := { cache with now := cache.now + delay }

def healthStep (cache : HealthCache) (timed : TimedOp) : HealthCache :=
  let later := cache.wait timed.delay
  { later with entry := some { health := updateHealth later.now timed.op later.current, expiresAt := later.now + channelHealthTTL } }

end CodeGo.Gateway
