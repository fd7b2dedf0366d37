import CodeGo.Identity.VerificationStores
import CodeGo.Lib.Pattern

set_option autoImplicit false

/- Runs over the map and over Redis tell the same story, and every code that is taken was given out and is still good. -/

namespace CodeGo.Identity.VerificationCodes

open SingleUse Text

def purposeOf : CodeCall → String
  | .registerVerificationCodeWithKey _ _ purpose => purpose
  | .verifyCodeWithKey _ _ purpose => purpose
  | .deleteVerificationKey _ purpose => purpose

def PlainPurpose (purpose : String) : Prop := Char.ofNat 0 ∉ purpose.toList

instance (purpose : String) : Decidable (PlainPurpose purpose) := inferInstanceAs (Decidable (¬ _))

section desk

variable (packages : CodePackages)

def deskAction (action : ℕ × CodeCall) : ℕ × Call (String × String) String := (action.1, deskCall packages action.2)

def deskEvent (event : CodeEvent) : Event (String × String) String :=
  { now := event.now, call := deskCall packages event.call, accepted := decide (event.answer = .verified true) }

def told (action : ℕ × CodeCall) (event : Event (String × String) String) : CodeEvent :=
  { now := event.now, call := action.2, answer := answerOf action.2 event.accepted }

def deskEvents (expired : Int → Int → Bool) (desk : Desk (String × String) String) (calls : List (ℕ × CodeCall)) :
    List (Event (String × String) String) :=
  Lockstep.answers (step expired ttl verificationMaxAttempts) desk (calls.map (deskAction packages))

variable {packages} {expired : Int → Int → Bool}

theorem told_event (desk : Desk (String × String) String) (action : ℕ × CodeCall) :
    deskEvent packages (told action (step expired ttl verificationMaxAttempts desk (deskAction packages action)).1) =
      (step expired ttl verificationMaxAttempts desk (deskAction packages action)).1 := by
  obtain ⟨wait, call⟩ := action
  cases call with
  | registerVerificationCodeWithKey key code purpose =>
      by_cases invalid : trimSpace key = "" ∨ code = ""
      · simp [deskEvent, told, deskAction, deskCall, step, respond, answerOf, invalid]
      · simp [deskEvent, told, deskAction, deskCall, step, respond, answerOf, invalid]
  | verifyCodeWithKey key code purpose =>
      by_cases blank : trimSpace key = ""
      · simp [deskEvent, told, deskAction, deskCall, step, respond, answerOf, blank]
      · simp [deskEvent, told, deskAction, deskCall, step, respond, answerOf, blank]
  | deleteVerificationKey key purpose => simp [deskEvent, told, deskAction, deskCall, step, respond, answerOf]

theorem told_events (calls : List (ℕ × CodeCall)) (desk : Desk (String × String) String) :
    (List.zipWith told calls (deskEvents packages expired desk calls)).map (deskEvent packages) = deskEvents packages expired desk calls := by
  induction calls generalizing desk with
  | nil => rfl
  | cons action rest ih =>
      have later := ih (step expired ttl verificationMaxAttempts desk (deskAction packages action)).2
      rw [deskEvents] at later ⊢
      rw [List.map_cons, Lockstep.answers, List.zipWith_cons_cons, List.map_cons, told_event, later]

theorem desk_slot {call : CodeCall} {slot : String × String} (named : (deskCall packages call).slot = some slot) : slot.1 = purposeOf call := by
  cases call with
  | registerVerificationCodeWithKey key code purpose =>
      rw [deskCall] at named
      split at named
      · cases named
      · rw [← Option.some.inj named]
        rfl
  | verifyCodeWithKey key code purpose =>
      rw [deskCall] at named
      split at named
      · cases named
      · rw [← Option.some.inj named]
        rfl
  | deleteVerificationKey key purpose =>
      rw [← Option.some.inj named]
      rfl

theorem place_apart (injective : Function.Injective packages.sha256) (first second : String × String) (plain : PlainPurpose first.1)
    (other : PlainPurpose second.1) (same : placeOf packages first = placeOf packages second) : first = second := by
  have texts := injective (append_left_injective _ _ _ same)
  have chars := congrArg String.toList texts
  have mark : nul.toList = [Char.ofNat 0] := rfl
  rw [String.toList_append, String.toList_append, String.toList_append, String.toList_append, mark, List.append_assoc, List.append_assoc] at chars
  obtain ⟨purposes, keys⟩ := (Pattern.front_unique _ _ _ _ _ plain other).mp chars
  exact Prod.ext (String.toList_inj.mp purposes) (String.toList_inj.mp keys)

end desk

section stores

variable {σ : Type} {packages : CodePackages} {expired : Int → Int → Bool} {answer : Int → σ → CodeCall → Answer × σ}
  (raw : σ → String → Option (Issue String)) (good ready : σ → Prop)

-- A store that answers as the desk does, call by call, tells the desk's events.
theorem store_events (injective : Function.Injective packages.sha256) (lasting : Lasting expired)
    (fresh : ∀ now, expired (now + ttl) now = false)
    (answers : ∀ now store call, good store → ready store →
      (answer now store call).1 =
          answerOf call (respond expired ttl verificationMaxAttempts now (live expired now (raw store)) (stored packages call)).1 ∧
        live expired now (raw (answer now store call).2) =
          (respond expired ttl verificationMaxAttempts now (live expired now (raw store)) (stored packages call)).2 ∧
        good (answer now store call).2)
    (calls : List (ℕ × CodeCall)) (free : ∀ action ∈ calls, PlainPurpose (purposeOf action.2)) :
    ∀ (state : Clocked σ) (desk : Desk (String × String) String), desk.now = state.now → good state.store →
      Renamed (placeOf packages) (verificationCodeHash packages) (fun slot => PlainPurpose slot.1) (live expired state.now desk.slots)
        (live expired state.now (raw state.store)) →
      Relational.Every (fun state action => (clocked answer state action).2) (fun state _ => ready state.store) state calls →
      Lockstep.answers (clocked answer) state calls = List.zipWith told calls (deskEvents packages expired desk calls) := by
  induction calls with
  | nil =>
      intro state desk _ _ _ _
      rfl
  | cons action rest ih =>
      intro state desk clock isGood follows every
      obtain ⟨wait, call⟩ := action
      obtain ⟨isReady, others⟩ := every
      have later : state.now ≤ state.now + wait := by omega
      have plain := free (wait, call) List.mem_cons_self
      have known : ∀ slot, (deskCall packages call).slot = some slot → PlainPurpose slot.1 := by
        intro slot named
        rw [desk_slot named]
        exact plain
      obtain ⟨said, left, still⟩ := answers (state.now + wait) state.store call isGood isReady
      obtain ⟨same, next⟩ := follow_step lasting fresh injective (place_apart injective) later follows
        (deskCall packages call) known left
      have moved : (step expired ttl verificationMaxAttempts desk (deskAction packages (wait, call))).2.now = state.now + wait := by
        rw [← clock]
        rfl
      have follow : Renamed (placeOf packages) (verificationCodeHash packages) (fun slot => PlainPurpose slot.1)
          (live expired (state.now + wait) (step expired ttl verificationMaxAttempts desk (deskAction packages (wait, call))).2.slots)
          (live expired (state.now + wait) (raw (answer (state.now + wait) state.store call).2)) := by
        rw [step, clock]
        exact next
      have tail := ih (fun action within => free action (List.mem_cons_of_mem _ within)) (clocked answer state (wait, call)).2
        (step expired ttl verificationMaxAttempts desk (deskAction packages (wait, call))).2 moved still follow others
      have head : (clocked answer state (wait, call)).1 =
          told (wait, call) (step expired ttl verificationMaxAttempts desk (deskAction packages (wait, call))).1 := by
        have accepted := said.trans (congrArg (answerOf call) same)
        simp only [clocked, told, step, deskAction, accepted, clock]
      rw [Lockstep.answers, tail, head, deskEvents, deskEvents, List.map_cons, Lockstep.answers, List.zipWith_cons_cons]

end stores

section runs

variable {packages : CodePackages}

theorem exact_lasting : Lasting exact := by
  intro deadline now later past le
  rw [exact, decide_eq_true_iff] at past ⊢
  omega

theorem server_lasting (server : Server) : Lasting server.expired := by
  intro deadline now later past le
  by_cases same : now = later
  · exact same ▸ past
  · by_cases before : now < deadline
    · rw [server.lives deadline now before] at past
      cases past
    · exact server.goes deadline later (by omega)

-- The map of the process stays below its limit.
def Room (packages : CodePackages) (start : Int) (calls : List (ℕ × CodeCall)) : Prop :=
  Relational.Every (fun state action => (clocked (memoryCall packages) state action).2)
    (fun state _ => state.store.entries.length < verificationMapMaxSize) { now := start, store := ∅ } calls

theorem every_true {σ α : Type} (step : σ → α → σ) (state : σ) (actions : List α) : Relational.Every step (fun _ _ => True) state actions := by
  induction actions generalizing state with
  | nil => trivial
  | cons action rest ih => exact ⟨trivial, ih (step state action)⟩

theorem memory_told (injective : Function.Injective packages.sha256) (start : Int) (calls : List (ℕ × CodeCall))
    (free : ∀ action ∈ calls, PlainPurpose (purposeOf action.2)) (room : Room packages start calls) :
    memoryEvents packages start calls = List.zipWith told calls (deskEvents packages exact { now := start } calls) := by
  apply store_events rawMemory (Coded packages) (fun m => m.entries.length < verificationMapMaxSize) injective
    exact_lasting exact_fresh _ calls free _ _ rfl _ _ room
  · intro now m call coded short
    exact memory_respond injective coded short call
  · intro storageKey value held
    cases held
  · intro slot _
    rfl

theorem redis_told (injective : Function.Injective packages.sha256) (server : Server) (start : Int) (calls : List (ℕ × CodeCall))
    (free : ∀ action ∈ calls, PlainPurpose (purposeOf action.2)) :
    redisEvents packages server start calls = List.zipWith told calls (deskEvents packages server.expired { now := start } calls) := by
  apply store_events rawRedis (fun _ => True) (fun _ => True) injective (server_lasting server)
    (server_fresh server) _ calls free _ _ rfl trivial _ (every_true _ _ _)
  · intro now db call _ _
    obtain ⟨said, left⟩ := @redis_respond packages server now db call
    exact ⟨said, left, trivial⟩
  · intro slot _
    rfl

-- Both stores give the same answers unless a code is tried at the very end of its validity, and a code is taken once, where it was
-- given out for the slot, within its time and with guesses left.
theorem codes_single_use (injective : Function.Injective packages.sha256) (server : Server) (start : Int) (calls : List (ℕ × CodeCall))
    (free : ∀ action ∈ calls, PlainPurpose (purposeOf action.2)) (room : Room packages start calls) :
    (Apart ttl verificationMaxAttempts [] ((memoryEvents packages start calls).map (deskEvent packages)) →
      memoryEvents packages start calls = redisEvents packages server start calls) ∧
    (∀ before event after, (memoryEvents packages start calls).map (deskEvent packages) = before ++ event :: after → event.accepted = true →
      ∃ slot code since, event.call = .verify slot code ∧ Outstanding verificationMaxAttempts before slot code since ∧
        event.now < since + ttl) ∧
    ∀ before event after, (redisEvents packages server start calls).map (deskEvent packages) = before ++ event :: after →
      event.accepted = true →
      ∃ slot code since, event.call = .verify slot code ∧ Outstanding verificationMaxAttempts before slot code since ∧
        event.now ≤ since + ttl := by
  have memory := memory_told injective start calls free room
  have redis := redis_told injective server start calls free
  have memoryDesk : (memoryEvents packages start calls).map (deskEvent packages) = deskEvents packages exact { now := start } calls := by
    rw [memory, told_events]
  have redisDesk : (redisEvents packages server start calls).map (deskEvent packages) =
      deskEvents packages server.expired { now := start } calls := by
    rw [redis, told_events]
  have guesses : 0 < verificationMaxAttempts := by decide
  have blank : ∀ past : List (Event (String × String) String),
      Tracked ttl verificationMaxAttempts past (fun _ => none : String × String → Option (Issue String)) := by
    intro past slot issue held
    cases held
  refine ⟨?_, ?_, ?_⟩
  · intro apart
    rw [memoryDesk] at apart
    have same : ∀ deadline now, deadline ≠ now → exact deadline now = server.expired deadline now := by
      intro deadline now different
      by_cases before : now < deadline
      · rw [server.lives deadline now before, exact, decide_eq_false_iff_not]
        omega
      · rw [server.goes deadline now (by omega), exact, decide_eq_true_iff]
        omega
    have desks : deskEvents packages exact { now := start } calls = deskEvents packages server.expired { now := start } calls :=
      answers_agree guesses same (calls.map (deskAction packages)) (blank []) apart
    rw [memory, redis, desks]
  · intro before event after split accepted
    rw [memoryDesk] at split
    obtain ⟨slot, code, since, call, outstanding, alive⟩ :=
      accepted_outstanding guesses (calls.map (deskAction packages)) (blank []) before event after split accepted
    rw [exact, decide_eq_false_iff_not] at alive
    exact ⟨slot, code, since, call, outstanding, by omega⟩
  · intro before event after split accepted
    rw [redisDesk] at split
    obtain ⟨slot, code, since, call, outstanding, alive⟩ :=
      accepted_outstanding guesses (calls.map (deskAction packages)) (blank []) before event after split accepted
    refine ⟨slot, code, since, call, outstanding, ?_⟩
    by_contra past
    rw [server.goes _ _ (by omega)] at alive
    cases alive

end runs

-- Redis drops a key when its time is past, not at it.
def strictServer : Server where
  expired deadline now := decide (deadline < now)
  lives deadline now before := by
    rw [decide_eq_false_iff_not]
    omega
  goes deadline now after := decide_eq_true after

def textPackages : CodePackages := { lower := Char.toLower, sha256 := fun text => text }

def lastInstant : List (ℕ × CodeCall) :=
  [(0, .registerVerificationCodeWithKey "a@b.c" "123456" "v"), (ttl.toNat, .verifyCodeWithKey " A@b.c" "123456" "v")]

theorem last_instant_differs :
    Function.Injective textPackages.sha256 ∧ (∀ action ∈ lastInstant, PlainPurpose (purposeOf action.2)) ∧ Room textPackages 0 lastInstant ∧
      (memoryEvents textPackages 0 lastInstant).map CodeEvent.answer = [.registered none, .verified false] ∧
      (redisEvents textPackages strictServer 0 lastInstant).map CodeEvent.answer = [.registered none, .verified true] := by
  refine ⟨fun _ _ same => same, by decide, ⟨by decide, by decide +kernel, trivial⟩, by decide +kernel, by decide +kernel⟩

def inTime : List (ℕ × CodeCall) :=
  [(0, .registerVerificationCodeWithKey "a@b.c" "123456" "v"), (5, .verifyCodeWithKey "A@B.C " "123456" "v")]

theorem codes_single_use_in_time :
    (memoryEvents textPackages 0 inTime).map CodeEvent.answer = [.registered none, .verified true] ∧
      ∀ before event after, (redisEvents textPackages strictServer 0 inTime).map (deskEvent textPackages) = before ++ event :: after →
        event.accepted = true →
        ∃ slot code since, event.call = .verify slot code ∧ Outstanding verificationMaxAttempts before slot code since ∧
          event.now ≤ since + ttl :=
  ⟨by decide +kernel, (codes_single_use (fun _ _ same => same) strictServer 0 inTime (by decide) ⟨by decide, by decide +kernel, trivial⟩).2.2⟩

end CodeGo.Identity.VerificationCodes
