import CodeGo.Gateway.Probes
import Mathlib.Logic.Function.Basic

set_option autoImplicit false

namespace CodeGo.Gateway.Reservation

/- Reserving a probe for a request when every route of a pool is cooling. Nobody else writes the
   health cache meanwhile, so that every lock is free, and a call is over within one instant of
   the clock. -/

inductive RequestType where
  | chatShortStream
  | chatLongStream
  | toolCallStream
  | chatNonStream
  | imageNonStream
  | imageStream
  | other
  | unknown (text : String)
deriving DecidableEq, Repr

def isKnownRequestType : RequestType → Bool
  | .unknown _ => false
  | _ => true

def normalizedRequestType : List RequestType → RequestType
  | value :: _ => if isKnownRequestType value then value else .other
  | [] => .other

-- The keys of the health cache, whose texts are different where these are.
inductive Circuit where
  | channel (channelID : Int) (model : String) (requestType : RequestType)
  | faultDomain (domain model : String) (requestType : RequestType)
  | userChannel (userID channelID : Int) (model : String) (requestType : RequestType)
  | userFaultDomain (userID : Int) (domain model : String) (requestType : RequestType)
deriving DecidableEq, Repr

abbrev Circuits := Circuit → Option ChannelHealth

-- The request that asks for a route: its user, if it has one, and whether it selected an Auto route.
structure RouteRequest where
  userID : Int
  autoRoute : Bool
  model : String
  requestTypes : List RequestType
deriving DecidableEq, Repr

def usesIsolatedRouteHealth (request : RouteRequest) : Bool := request.autoRoute || 0 < request.userID

def channelHealthKey (channelID : Int) (model : String) (requestTypes : List RequestType) : Option Circuit :=
  if channelID ≤ 0 ∨ model = "" then none else some (.channel channelID model (normalizedRequestType requestTypes))

def faultDomainHealthKey (domain model : String) (requestTypes : List RequestType) : Option Circuit :=
  if domain = "" ∨ model = "" then none else some (.faultDomain domain model (normalizedRequestType requestTypes))

def userChannelHealthKey (request : RouteRequest) (channelID : Int) : Option Circuit :=
  if request.userID ≤ 0 ∨ channelID ≤ 0 ∨ request.model = "" then none
  else some (.userChannel request.userID channelID request.model (normalizedRequestType request.requestTypes))

def userFaultDomainHealthKey (request : RouteRequest) (domain : String) : Option Circuit :=
  if request.userID ≤ 0 ∨ domain = "" ∨ request.model = "" then none
  else some (.userFaultDomain request.userID domain request.model (normalizedRequestType request.requestTypes))

def channelCredentialHealthModel : String := "__channel_credentials__"

def routePoolChannelKey (request : RouteRequest) (channelID : Int) : Option Circuit :=
  if usesIsolatedRouteHealth request then userChannelHealthKey request channelID
  else channelHealthKey channelID request.model request.requestTypes

def routePoolDomainKey (request : RouteRequest) (domain : String) : Option Circuit :=
  if usesIsolatedRouteHealth request then userFaultDomainHealthKey request domain
  else faultDomainHealthKey domain request.model request.requestTypes

def channelCredentialKey (channelID : Int) : Option Circuit := channelHealthKey channelID channelCredentialHealthModel []

-- A missing entry is stored as an empty one.
def updateCircuit (circuits : Circuits) (key : Circuit) (change : ChannelHealth → ChannelHealth) : Circuits :=
  Function.update circuits key (some (change ((circuits key).getD {})))

-- Without a key there is nothing to start and nothing to release.
def tryStartProbe (now maxSlots : Nat) (requireExpired : Bool) (key : Option Circuit) (circuits : Circuits) : Bool × Circuits :=
  match key with
  | none => (false, circuits)
  | some key =>
      (probeStarts now maxSlots requireExpired ((circuits key).getD {}),
        updateCircuit circuits key (tryStartChannelProbe now maxSlots requireExpired))

def releaseProbe (key : Option Circuit) (circuits : Circuits) : Circuits :=
  match key with
  | none => circuits
  | some key => updateCircuit circuits key releaseChannelProbe

inductive RoutePoolProbeMode where
  | recovery
  | emergency
  | lastResort
deriving DecidableEq, Repr

def RoutePoolProbeMode.maxSlots : RoutePoolProbeMode → Nat
  | .recovery => 1
  | .emergency => channelHealthEmergencyProbeSlots
  | .lastResort => 1

def RoutePoolProbeMode.requireExpired : RoutePoolProbeMode → Bool
  | .recovery => true
  | .emergency => false
  | .lastResort => false

-- The score of the last resort is the one of the health of the candidate at this instant.
structure ScoredRoutePoolCandidate where
  channelID : Int
  faultDomain : String
  channelProbe : Bool
  credentialProbe : Bool
  domainProbe : Bool
  score : ℚ
  cost : ℚ
  lastResortScore : ℚ
deriving DecidableEq, Repr

-- Sorting a slice in place; elements that are equal for the order may end up in any order.
structure SliceSort where
  sort : (ScoredRoutePoolCandidate → ScoredRoutePoolCandidate → Bool) → List ScoredRoutePoolCandidate → List ScoredRoutePoolCandidate
  perm : ∀ less probes, (sort less probes).Perm probes

def lowestFirst (a b : ScoredRoutePoolCandidate) : Bool := a.score < b.score

def bestLastResortFirst (a b : ScoredRoutePoolCandidate) : Bool :=
  if a.lastResortScore = b.lastResortScore then a.cost < b.cost else a.lastResortScore < b.lastResortScore

def removeRoutePoolCandidate (candidates : List ScoredRoutePoolCandidate) (channelID : Int) : List ScoredRoutePoolCandidate :=
  candidates.filter fun candidate => candidate.channelID ≠ channelID

section
variable (now : Nat) (request : RouteRequest) (mode : RoutePoolProbeMode)

def tryStartRoutePoolChannelProbe (channelID : Int) : Circuits → Bool × Circuits :=
  tryStartProbe now mode.maxSlots mode.requireExpired (routePoolChannelKey request channelID)

def tryStartChannelCredentialRecoveryProbe (channelID : Int) : Circuits → Bool × Circuits :=
  tryStartProbe now 1 true (channelCredentialKey channelID)

def tryStartRoutePoolDomainProbe (domain : String) : Circuits → Bool × Circuits :=
  tryStartProbe now mode.maxSlots mode.requireExpired (routePoolDomainKey request domain)

def readyOrStart (needed : Bool) (start : Circuits → Bool × Circuits) (circuits : Circuits) : Bool × Circuits :=
  if needed then start circuits else (true, circuits)

def releasePartialRoutePoolProbe (probe : ScoredRoutePoolCandidate) (channelReady credentialReady domainReady : Bool) (circuits : Circuits) : Circuits :=
  let credential := if probe.credentialProbe && credentialReady then releaseProbe (channelCredentialKey probe.channelID) circuits else circuits
  let channel := if probe.channelProbe && channelReady then releaseProbe (routePoolChannelKey request probe.channelID) credential else credential
  if probe.domainProbe && domainReady then releaseProbe (routePoolDomainKey request probe.faultDomain) channel else channel

-- One turn of the loop: whether the candidate is ready, and the circuits after a failure has been released.
def tryCandidate (probe : ScoredRoutePoolCandidate) (circuits : Circuits) : Bool × Circuits :=
  let channel := readyOrStart probe.channelProbe (tryStartRoutePoolChannelProbe now request mode probe.channelID) circuits
  let credential := readyOrStart probe.credentialProbe (tryStartChannelCredentialRecoveryProbe now probe.channelID) channel.2
  let domain := readyOrStart probe.domainProbe (tryStartRoutePoolDomainProbe now request mode probe.faultDomain) credential.2
  if channel.1 && credential.1 && domain.1 then (true, domain.2)
  else (false, releasePartialRoutePoolProbe request probe channel.1 credential.1 domain.1 domain.2)

theorem removed_shorter (probe : ScoredRoutePoolCandidate) (rest : List ScoredRoutePoolCandidate) :
    (removeRoutePoolCandidate (probe :: rest) probe.channelID).length < (probe :: rest).length := by
  have shorter := List.length_filter_le (fun candidate : ScoredRoutePoolCandidate => decide (candidate.channelID ≠ probe.channelID)) rest
  simp only [removeRoutePoolCandidate, List.filter_cons, ne_eq, not_true_eq_false, decide_false, Bool.false_eq_true, if_false, List.length_cons]
  exact Nat.lt_succ_of_le shorter

def reserveRoutePoolProbe (sorting : SliceSort) (less : ScoredRoutePoolCandidate → ScoredRoutePoolCandidate → Bool)
    (probes : List ScoredRoutePoolCandidate) (circuits : Circuits) : Option ScoredRoutePoolCandidate × Circuits :=
  match sorted : sorting.sort less probes with
  | [] => (none, circuits)
  | probe :: rest =>
      match tryCandidate now request mode probe circuits with
      | (true, after) => (some probe, after)
      | (false, after) => reserveRoutePoolProbe sorting less (removeRoutePoolCandidate (probe :: rest) probe.channelID) after
termination_by probes.length
decreasing_by
  have same := (sorting.perm less probes).length_eq
  rw [sorted] at same
  rw [← same]
  exact removed_shorter probe rest

end

section
variable (now : Nat) (request : RouteRequest) (sorting : SliceSort)

def reserveRoutePoolLastResortProbe : List ScoredRoutePoolCandidate → Circuits → Option ScoredRoutePoolCandidate × Circuits :=
  reserveRoutePoolProbe now request .lastResort sorting bestLastResortFirst

def reserveRoutePoolEmergencyRetryProbe : List ScoredRoutePoolCandidate → Circuits → Option ScoredRoutePoolCandidate × Circuits :=
  reserveRoutePoolProbe now request .emergency sorting bestLastResortFirst

def reserveRoutePoolRecoveryProbe : List ScoredRoutePoolCandidate → Circuits → Option ScoredRoutePoolCandidate × Circuits :=
  reserveRoutePoolProbe now request .recovery sorting lowestFirst

end

/- Slots under a lease that has not expired. -/

def leasedSlots (now : Nat) (health : ChannelHealth) : Nat := if now < health.recoveryProbeUntil then health.recoveryProbeSlots else 0

def liveSlots (now : Nat) (circuits : Circuits) (key : Circuit) : Nat := leasedSlots now ((circuits key).getD {})

def Needs (request : RouteRequest) (probe : ScoredRoutePoolCandidate) (key : Circuit) : Prop :=
  (probe.channelProbe = true ∧ routePoolChannelKey request probe.channelID = some key) ∨
    (probe.credentialProbe = true ∧ channelCredentialKey probe.channelID = some key) ∨
    (probe.domainProbe = true ∧ routePoolDomainKey request probe.faultDomain = some key)

instance (request : RouteRequest) (probe : ScoredRoutePoolCandidate) (key : Circuit) : Decidable (Needs request probe key) :=
  inferInstanceAs (Decidable (_ ∨ _))

-- A call either takes nothing, or what the candidate it returns needs.
def LeakFree (now : Nat) (request : RouteRequest) (probes : List ScoredRoutePoolCandidate) (circuits : Circuits)
    (outcome : Option ScoredRoutePoolCandidate × Circuits) : Prop :=
  match outcome.1 with
  | none => ∀ key, liveSlots now outcome.2 key = liveSlots now circuits key
  | some probe => probe ∈ probes ∧
      ∀ key, liveSlots now outcome.2 key = liveSlots now circuits key + if Needs request probe key then 1 else 0

section Slots
variable (now : Nat)

theorem started_slots (maxSlots : Nat) (requireExpired : Bool) (health : ChannelHealth) (started : probeStarts now maxSlots requireExpired health = true) :
    leasedSlots now (tryStartChannelProbe now maxSlots requireExpired health) = leasedSlots now health + 1 ∧ leasedSlots now health < maxSlots := by
  obtain ⟨slots, room, lease⟩ := granted_slots now health maxSlots requireExpired started
  have leased : now < now + channelHealthProbeLeaseDuration := Nat.lt_add_of_pos_right (by decide)
  have taken : leasedSlots now (tryStartChannelProbe now maxSlots requireExpired health) = leasedSlots now health + 1 := by
    rw [leasedSlots, lease, if_pos leased, slots, leasedSlots]
  refine ⟨taken, ?_⟩
  rw [slots] at room
  exact Nat.lt_of_succ_le room

theorem unstarted_slots (maxSlots : Nat) (requireExpired : Bool) (health : ChannelHealth) (refused : probeStarts now maxSlots requireExpired health = false) :
    leasedSlots now (tryStartChannelProbe now maxSlots requireExpired health) = leasedSlots now health := by
  obtain ⟨lease, slots⟩ := refused_slots now health maxSlots requireExpired refused
  rw [leasedSlots, leasedSlots, lease]
  obtain same | ⟨expired, _⟩ := slots
  · rw [same]
  · rw [if_neg (Nat.not_lt.mpr expired), if_neg (Nat.not_lt.mpr expired)]

theorem released_slots (health : ChannelHealth) : leasedSlots now (releaseChannelProbe health) = leasedSlots now health - 1 := by
  rw [releaseChannelProbe]
  by_cases none : health.recoveryProbeSlots = 0
  · rw [if_pos none, leasedSlots, none]
    by_cases leased : now < health.recoveryProbeUntil
    · rw [if_pos leased]
    · rw [if_neg leased]
  · rw [if_neg none]
    by_cases single : health.recoveryProbeSlots = 1
    · rw [if_pos single, leasedSlots, leasedSlots, single]
      by_cases leased : now < health.recoveryProbeUntil
      · simp [leased]
      · simp [leased]
    · rw [if_neg single, leasedSlots, leasedSlots]
      split <;> simp

-- What an update does to the slots of its own key; the other circuits are not touched.
theorem updated_live (circuits : Circuits) (key other : Circuit) (change : ChannelHealth → ChannelHealth) :
    liveSlots now (updateCircuit circuits key change) other =
      if other = key then leasedSlots now (change ((circuits key).getD {})) else liveSlots now circuits other := by
  rw [liveSlots, updateCircuit]
  by_cases same : other = key
  · rw [if_pos same, same, Function.update_self]
    rfl
  · rw [if_neg same, Function.update_of_ne same]
    rfl

theorem start_live (maxSlots : Nat) (requireExpired : Bool) (key : Option Circuit) (circuits : Circuits) (circuit : Circuit) :
    let started := tryStartProbe now maxSlots requireExpired key circuits
    liveSlots now started.2 circuit = liveSlots now circuits circuit + (if started.1 = true ∧ key = some circuit then 1 else 0) ∧
      (started.1 = true → key = some circuit → liveSlots now circuits circuit < maxSlots) := by
  intro started
  cases key with
  | none => exact ⟨by simp [started, tryStartProbe], fun ready => by cases ready⟩
  | some key =>
      have first : started.1 = probeStarts now maxSlots requireExpired ((circuits key).getD {}) := rfl
      have second : started.2 = updateCircuit circuits key (tryStartChannelProbe now maxSlots requireExpired) := rfl
      rw [first, second, updated_live]
      by_cases same : circuit = key
      · subst same
        rw [if_pos rfl]
        cases ready : probeStarts now maxSlots requireExpired ((circuits circuit).getD {}) with
        | true =>
            obtain ⟨taken, room⟩ := started_slots now maxSlots requireExpired _ ready
            exact ⟨by rw [taken, if_pos ⟨rfl, rfl⟩, liveSlots], fun _ _ => room⟩
        | false =>
            refine ⟨?_, fun absurd => by cases absurd⟩
            rw [unstarted_slots now maxSlots requireExpired _ ready, if_neg (by simp), liveSlots, Nat.add_zero]
      · have other : ¬ some key = some circuit := fun equal => same (Option.some.inj equal).symm
        rw [if_neg same, if_neg fun both => other both.2, Nat.add_zero]
        exact ⟨rfl, fun _ equal => absurd equal other⟩

theorem ready_live (needed : Bool) (maxSlots : Nat) (requireExpired : Bool) (key : Option Circuit) (circuits : Circuits) (circuit : Circuit) :
    let ready := readyOrStart needed (tryStartProbe now maxSlots requireExpired key) circuits
    liveSlots now ready.2 circuit =
        liveSlots now circuits circuit + (if needed = true ∧ ready.1 = true ∧ key = some circuit then 1 else 0) ∧
      (ready.1 = true → needed = true ∧ key = some circuit → liveSlots now circuits circuit < maxSlots) := by
  cases needed with
  | false => simp [readyOrStart]
  | true =>
      intro ready
      have start := start_live now maxSlots requireExpired key circuits circuit
      simp only [true_and]
      exact start

theorem release_live (released : Bool) (key : Option Circuit) (circuits : Circuits) (circuit : Circuit) :
    liveSlots now (if released then releaseProbe key circuits else circuits) circuit =
      liveSlots now circuits circuit - if released = true ∧ key = some circuit then 1 else 0 := by
  cases released with
  | false => simp
  | true =>
      cases key with
      | none => simp [releaseProbe]
      | some key =>
          rw [if_pos rfl, releaseProbe, updated_live]
          by_cases same : circuit = key
          · subst same
            rw [if_pos rfl, if_pos ⟨rfl, rfl⟩, released_slots]
            rfl
          · rw [if_neg same, if_neg fun both => same (Option.some.inj both.2).symm, Nat.sub_zero]

-- A circuit of a domain is none of a channel.
theorem domain_apart (request : RouteRequest) (channelID : Int) (domain : String) (circuit : Circuit) (key : routePoolDomainKey request domain = some circuit) :
    routePoolChannelKey request channelID ≠ some circuit ∧ channelCredentialKey channelID ≠ some circuit := by
  unfold routePoolDomainKey userFaultDomainHealthKey faultDomainHealthKey at key
  unfold routePoolChannelKey channelCredentialKey userChannelHealthKey channelHealthKey
  split_ifs at key with isolated missing missing
  · cases key
    exact ⟨by split_ifs <;> simp, by split_ifs <;> simp⟩
  · cases key
    exact ⟨by split_ifs <;> simp, by split_ifs <;> simp⟩

theorem partial_live (request : RouteRequest) (probe : ScoredRoutePoolCandidate) (channelReady credentialReady domainReady : Bool) (circuits : Circuits)
    (circuit : Circuit) :
    liveSlots now (releasePartialRoutePoolProbe request probe channelReady credentialReady domainReady circuits) circuit =
      liveSlots now circuits circuit -
        (if (probe.credentialProbe && credentialReady) = true ∧ channelCredentialKey probe.channelID = some circuit then 1 else 0) -
        (if (probe.channelProbe && channelReady) = true ∧ routePoolChannelKey request probe.channelID = some circuit then 1 else 0) -
        (if (probe.domainProbe && domainReady) = true ∧ routePoolDomainKey request probe.faultDomain = some circuit then 1 else 0) := by
  unfold releasePartialRoutePoolProbe
  dsimp only
  rw [release_live, release_live, release_live]

-- One turn of the loop takes everything the candidate needs, or nothing.
theorem candidate_live (request : RouteRequest) (mode : RoutePoolProbeMode) (probe : ScoredRoutePoolCandidate) (circuits : Circuits) (circuit : Circuit) :
    liveSlots now (tryCandidate now request mode probe circuits).2 circuit =
      liveSlots now circuits circuit + if (tryCandidate now request mode probe circuits).1 = true ∧ Needs request probe circuit then 1 else 0 := by
  obtain ⟨channelLive, _⟩ := ready_live now probe.channelProbe mode.maxSlots mode.requireExpired (routePoolChannelKey request probe.channelID) circuits circuit
  rw [tryCandidate]
  unfold tryStartRoutePoolChannelProbe tryStartChannelCredentialRecoveryProbe tryStartRoutePoolDomainProbe
  generalize readyOrStart probe.channelProbe (tryStartProbe now mode.maxSlots mode.requireExpired (routePoolChannelKey request probe.channelID)) circuits =
    channel at channelLive ⊢
  obtain ⟨credentialLive, credentialRoom⟩ := ready_live now probe.credentialProbe 1 true (channelCredentialKey probe.channelID) channel.2 circuit
  generalize readyOrStart probe.credentialProbe (tryStartProbe now 1 true (channelCredentialKey probe.channelID)) channel.2 =
    credential at credentialLive credentialRoom ⊢
  obtain ⟨domainLive, _⟩ := ready_live now probe.domainProbe mode.maxSlots mode.requireExpired (routePoolDomainKey request probe.faultDomain) credential.2 circuit
  generalize readyOrStart probe.domainProbe (tryStartProbe now mode.maxSlots mode.requireExpired (routePoolDomainKey request probe.faultDomain)) credential.2 =
    domain at domainLive ⊢
  have apart := domain_apart request probe.channelID probe.faultDomain circuit
  cases ready : channel.1 && credential.1 && domain.1 with
  | true =>
      obtain ⟨⟨channelReady, credentialReady⟩, domainReady⟩ : (channel.1 = true ∧ credential.1 = true) ∧ domain.1 = true := by
        simpa only [Bool.and_eq_true] using ready
      simp only [channelReady, credentialReady, domainReady, true_and, forall_const] at channelLive credentialLive credentialRoom domainLive
      rw [if_pos rfl, domainLive, credentialLive, channelLive]
      -- the credential circuit has one slot, which the channel has not taken before
      rw [channelLive] at credentialRoom
      simp only [Needs, true_and]
      by_cases domainTaken : probe.domainProbe = true ∧ routePoolDomainKey request probe.faultDomain = some circuit
      · obtain ⟨noChannel, noCredential⟩ := apart domainTaken.2
        simp [domainTaken, noChannel, noCredential]
      · by_cases channelTaken : probe.channelProbe = true ∧ routePoolChannelKey request probe.channelID = some circuit
        · by_cases credentialTaken : probe.credentialProbe = true ∧ channelCredentialKey probe.channelID = some circuit
          · have room := credentialRoom credentialTaken
            rw [if_pos channelTaken] at room
            omega
          · simp [domainTaken, channelTaken, credentialTaken]
        · simp [domainTaken, channelTaken]
  | false =>
      rw [if_neg Bool.false_ne_true, if_neg fun both => Bool.false_ne_true both.1, Nat.add_zero, partial_live, domainLive, credentialLive, channelLive]
      simp only [Bool.and_eq_true, and_assoc]
      omega

end Slots

theorem reserve_leak_free (now : Nat) (request : RouteRequest) (mode : RoutePoolProbeMode) (sorting : SliceSort)
    (less : ScoredRoutePoolCandidate → ScoredRoutePoolCandidate → Bool) (probes : List ScoredRoutePoolCandidate) (circuits : Circuits) :
    LeakFree now request probes circuits (reserveRoutePoolProbe now request mode sorting less probes circuits) := by
  fun_induction reserveRoutePoolProbe now request mode sorting less probes circuits with
  | case1 probes circuits sorted => exact fun _ => rfl
  | case2 probes circuits probe rest sorted after turn =>
      have live := candidate_live now request mode probe circuits
      rw [turn] at live
      refine ⟨(sorting.perm less probes).mem_iff.mp (sorted ▸ List.mem_cons_self), ?_⟩
      intro key
      simpa using live key
  | case3 probes circuits probe rest sorted after turn ih =>
      have live := candidate_live now request mode probe circuits
      rw [turn] at live
      have same (key : Circuit) : liveSlots now after key = liveSlots now circuits key := by simpa using live key
      have members : ∀ candidate ∈ removeRoutePoolCandidate (probe :: rest) probe.channelID, candidate ∈ probes := by
        intro candidate member
        exact (sorting.perm less probes).mem_iff.mp (sorted ▸ (List.mem_filter.mp member).1)
      unfold LeakFree at ih ⊢
      cases outcome : (reserveRoutePoolProbe now request mode sorting less (removeRoutePoolCandidate (probe :: rest) probe.channelID) after).1 with
      | none =>
          simp only [outcome] at ih ⊢
          intro key
          rw [ih key, same key]
      | some chosen =>
          simp only [outcome] at ih ⊢
          refine ⟨members chosen ih.1, ?_⟩
          intro key
          rw [ih.2 key, same key]

theorem reservations_leak_free (now : Nat) (request : RouteRequest) (sorting : SliceSort) (probes : List ScoredRoutePoolCandidate) (circuits : Circuits) :
    LeakFree now request probes circuits (reserveRoutePoolRecoveryProbe now request sorting probes circuits) ∧
      LeakFree now request probes circuits (reserveRoutePoolEmergencyRetryProbe now request sorting probes circuits) ∧
      LeakFree now request probes circuits (reserveRoutePoolLastResortProbe now request sorting probes circuits) :=
  ⟨reserve_leak_free now request .recovery sorting lowestFirst probes circuits,
    reserve_leak_free now request .emergency sorting bestLastResortFirst probes circuits,
    reserve_leak_free now request .lastResort sorting bestLastResortFirst probes circuits⟩

end CodeGo.Gateway.Reservation
