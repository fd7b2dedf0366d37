import CodeGo.Lib.Text
import CodeGo.Lib.Trace

set_option autoImplicit false

namespace CodeGo.Gateway.Background

open Relational

/- The row of one background response and the statements that workers and clients run on it.
   A transaction of two statements keeps what it has read or inserted until it commits; the
   last statement and the commit are one step, as the row lock makes them. -/

inductive Outcome where
  | completed
  | failed
  | canceled
deriving DecidableEq, Repr

inductive JobStatus where
  | queued
  | running
  | ended (outcome : Outcome)
deriving DecidableEq, Repr

structure Job where
  userID : Int
  tokenID : Int
  status : JobStatus := .queued
  nativeBackground : Bool := false
  finalResponseCiphertext : String := ""
  errorCiphertext : String := ""
  upstreamResponseID : String := ""
  upstreamSequence : Int := -1
  lastSequence : Int := -1
  cancelRequested : Bool := false
  claimedAt : Option Int := none
  startedAt : Option Int := none
  completedAt : Option Int := none
deriving DecidableEq, Repr

structure Event where
  sequence : Int
  type : String := ""
  payloadCiphertext : String := ""
deriving DecidableEq, Repr

-- The row, its committed events, the transactions in progress, and two facts about the past:
-- whether a claim has succeeded and whether a client has been told that the job left the queue canceled.
structure Store where
  job : Job
  events : List Event := []
  creating : Nat → Option Event := fun _ => none
  cancelling : Nat → Option Job := fun _ => none
  claimed : Bool := false
  reported : Bool := false

inductive Statement where
  | claim (now leaseDuration : Int)
  | renew (claimedAt : Int)
  | cursor (upstreamID : String) (sequence : Int)
  | createEvent (transaction : Nat) (event : Event)
  | moveLastSequence (transaction : Nat)
  | rollbackEvent (transaction : Nat)
  | terminal (outcome : Outcome) (finalCiphertext errorCiphertext upstreamID : String) (now : Int)
  | readCancel (transaction : Nat) (userID tokenID : Int)
  | writeCancel (transaction : Nat) (now : Int)
  | rollbackCancel (transaction : Nat)
deriving DecidableEq, Repr

def Job.claimable (now leaseDuration : Int) (job : Job) : Bool :=
  job.status = .queued ||
    (job.status = .running && job.nativeBackground && job.upstreamResponseID ≠ "" && job.claimedAt.all (· < now - leaseDuration))

def claimResponsesBackgroundJobWithLease (now leaseDuration : Int) (store : Store) : Store :=
  if store.job.claimable now leaseDuration then
    { store with job := { store.job with status := .running, claimedAt := some now, startedAt := some now }, claimed := true }
  else store

def renewResponsesBackgroundLease (claimedAt : Int) (store : Store) : Store :=
  if store.job.status = .running then { store with job := { store.job with claimedAt := some claimedAt } } else store

def updateResponsesBackgroundUpstreamCursor (upstreamID : String) (sequence : Int) (store : Store) : Store :=
  if Text.Blank upstreamID then store
  else if store.job.status = .running ∧ store.job.upstreamSequence < sequence then
    { store with job := { store.job with upstreamResponseID := upstreamID, upstreamSequence := sequence } }
  else store

-- The index of job and sequence is unique, and an insert waits for the one before it to commit.
def createResponsesBackgroundEvent (transaction : Nat) (event : Event) (store : Store) : Store :=
  if store.events.any (fun other => other.sequence = event.sequence) then store
  else { store with creating := Function.update store.creating transaction (some event) }

def moveLastSequence (transaction : Nat) (store : Store) : Store :=
  match store.creating transaction with
  | none => store
  | some event =>
      if store.events.any (fun other => other.sequence = event.sequence) then
        { store with creating := Function.update store.creating transaction none }
      else
        { store with
          job := if store.job.lastSequence < event.sequence then { store.job with lastSequence := event.sequence } else store.job
          events := store.events ++ [event]
          creating := Function.update store.creating transaction none }

def updateResponsesBackgroundTerminal (outcome : Outcome) (finalCiphertext errorCiphertext upstreamID : String) (now : Int)
    (store : Store) : Store :=
  if store.job.status = .running then
    { store with job := { store.job with
      status := .ended outcome
      finalResponseCiphertext := finalCiphertext
      errorCiphertext := errorCiphertext
      upstreamResponseID := upstreamID
      completedAt := some now } }
  else store

def readCancel (transaction : Nat) (userID tokenID : Int) (store : Store) : Store :=
  if store.job.userID = userID ∧ store.job.tokenID = tokenID then
    { store with cancelling := Function.update store.cancelling transaction (some store.job) }
  else store

-- The update names the row by its key only; what it writes depends on the row as it was read.
def writeCancel (transaction : Nat) (now : Int) (store : Store) : Store :=
  match store.cancelling transaction with
  | none => store
  | some current =>
      let ended := { store with cancelling := Function.update store.cancelling transaction none }
      match current.status with
      | .queued =>
          { ended with
            job := { store.job with status := .ended .canceled, cancelRequested := true, completedAt := some now }
            reported := true }
      | .running => { ended with job := { store.job with cancelRequested := true } }
      | .ended _ => ended

def step (store : Store) : Statement → Store
  | .claim now leaseDuration => claimResponsesBackgroundJobWithLease now leaseDuration store
  | .renew claimedAt => renewResponsesBackgroundLease claimedAt store
  | .cursor upstreamID sequence => updateResponsesBackgroundUpstreamCursor upstreamID sequence store
  | .createEvent transaction event => createResponsesBackgroundEvent transaction event store
  | .moveLastSequence transaction => moveLastSequence transaction store
  | .rollbackEvent transaction => { store with creating := Function.update store.creating transaction none }
  | .terminal outcome finalCiphertext errorCiphertext upstreamID now =>
      updateResponsesBackgroundTerminal outcome finalCiphertext errorCiphertext upstreamID now store
  | .readCancel transaction userID tokenID => readCancel transaction userID tokenID store
  | .writeCancel transaction now => writeCancel transaction now store
  | .rollbackCancel transaction => { store with cancelling := Function.update store.cancelling transaction none }

-- A job as the request handler creates it.
def newJob (userID tokenID : Int) (nativeBackground : Bool) : Store :=
  { job := { userID := userID, tokenID := tokenID, nativeBackground := nativeBackground } }

/- What the state machine promises -/

inductive StatusMove : JobStatus → JobStatus → Prop where
  | stay (status : JobStatus) : StatusMove status status
  | claim : StatusMove .queued .running
  | finish (outcome : Outcome) : StatusMove .running (.ended outcome)
  | cancel : StatusMove .queued (.ended .canceled)

def largestSequence (events : List Event) : Int := (events.map Event.sequence).foldl max (-1)

structure Lawful (before after : Store) : Prop where
  status : StatusMove before.job.status after.job.status
  result : ∀ outcome, before.job.status = .ended outcome →
    after.job.finalResponseCiphertext = before.job.finalResponseCiphertext ∧ after.job.errorCiphertext = before.job.errorCiphertext ∧
      after.job.upstreamResponseID = before.job.upstreamResponseID
  unclaimed : after.reported = true → after.claimed = false
  upstream : before.job.upstreamSequence ≤ after.job.upstreamSequence
  last : after.job.lastSequence = largestSequence after.events

-- A cancel that found the job queued writes before any worker has claimed it.
def Fresh (store : Store) : Statement → Prop
  | .writeCancel transaction _ => ∀ current, store.cancelling transaction = some current → current.status = .queued → store.job.claimedAt = none
  | _ => True

structure Kept (store : Store) : Prop where
  claims : store.claimed = store.job.claimedAt.isSome
  running : store.job.status = .running → store.claimed = true
  queued : store.job.status = .queued → store.claimed = false
  waiting : store.claimed = false → store.job.status = .queued ∨ store.job.status = .ended .canceled
  reported : store.reported = true → store.claimed = false ∧ store.job.status = .ended .canceled
  last : store.job.lastSequence = largestSequence store.events

theorem largest_snoc (events : List Event) (event : Event) :
    largestSequence (events ++ [event]) = max (largestSequence events) event.sequence := by
  simp [largestSequence]

section

variable {before after : Store}

-- Everything but the reports and the claims moves only inside the row, and its status stands.
structure Touched (before after : Store) : Prop where
  status : after.job.status = before.job.status
  result : ∀ outcome, before.job.status = .ended outcome →
    after.job.finalResponseCiphertext = before.job.finalResponseCiphertext ∧ after.job.errorCiphertext = before.job.errorCiphertext ∧
      after.job.upstreamResponseID = before.job.upstreamResponseID
  claims : after.job.claimedAt.isSome = before.job.claimedAt.isSome
  upstream : before.job.upstreamSequence ≤ after.job.upstreamSequence
  last : before.job.lastSequence = largestSequence before.events → after.job.lastSequence = largestSequence after.events
  claimed : after.claimed = before.claimed
  reported : after.reported = before.reported

theorem Touched.same (job : after.job = before.job) (events : after.events = before.events) (claimed : after.claimed = before.claimed)
    (reported : after.reported = before.reported) : Touched before after where
  status := by rw [job]
  result _ _ := by rw [job]; exact ⟨rfl, rfl, rfl⟩
  claims := by rw [job]
  upstream := by rw [job]
  last is := by rw [job, events, is]
  claimed := claimed
  reported := reported

theorem Kept.touched (kept : Kept before) (touched : Touched before after) : Kept after ∧ Lawful before after := by
  have final : Kept after := by
    refine ⟨?_, ?_, ?_, ?_, ?_, touched.last kept.last⟩
    · rw [touched.claimed, touched.claims, kept.claims]
    · rw [touched.status, touched.claimed]
      exact kept.running
    · rw [touched.status, touched.claimed]
      exact kept.queued
    · rw [touched.status, touched.claimed]
      exact kept.waiting
    · rw [touched.status, touched.claimed, touched.reported]
      exact kept.reported
  refine ⟨final, ?_, touched.result, fun reported => (final.reported reported).1, touched.upstream, final.last⟩
  rw [touched.status]
  exact .stay _

theorem Kept.claim (kept : Kept before) (now leaseDuration : Int) :
    Kept (claimResponsesBackgroundJobWithLease now leaseDuration before) ∧
      Lawful before (claimResponsesBackgroundJobWithLease now leaseDuration before) := by
  unfold claimResponsesBackgroundJobWithLease
  by_cases claimable : before.job.claimable now leaseDuration = true
  · rw [if_pos claimable]
    have waits : before.job.status = .queued ∨ before.job.status = .running := by
      rcases Bool.or_eq_true_iff.mp claimable with queued | recovered
      · exact .inl (of_decide_eq_true queued)
      · simp only [Bool.and_eq_true, decide_eq_true_eq] at recovered
        exact .inr recovered.1.1.1
    have unreported : before.reported = false := by
      by_contra reported
      have ended := (kept.reported (Bool.not_eq_false _ ▸ reported)).2
      rcases waits with queued | running
      · rw [queued] at ended
        cases ended
      · rw [running] at ended
        cases ended
    refine ⟨⟨rfl, fun _ => rfl, (nomatch ·), (nomatch ·), fun reported => ?_, kept.last⟩, ?_, ?_, fun reported => ?_, le_rfl, kept.last⟩
    · rw [show before.reported = true from reported] at unreported
      cases unreported
    · rcases waits with queued | running
      · rw [queued]
        exact .claim
      · rw [running]
        exact .stay _
    · intro outcome ended
      rcases waits with queued | running
      · rw [queued] at ended
        cases ended
      · rw [running] at ended
        cases ended
    · rw [show before.reported = true from reported] at unreported
      cases unreported
  · rw [if_neg claimable]
    exact kept.touched (.same rfl rfl rfl rfl)

theorem Kept.renew (kept : Kept before) (claimedAt : Int) :
    Kept (renewResponsesBackgroundLease claimedAt before) ∧ Lawful before (renewResponsesBackgroundLease claimedAt before) := by
  unfold renewResponsesBackgroundLease
  by_cases running : before.job.status = .running
  · rw [if_pos running]
    have held : before.job.claimedAt.isSome = true := kept.claims ▸ kept.running running
    exact kept.touched ⟨rfl, fun _ _ => ⟨rfl, rfl, rfl⟩, held.symm, le_rfl, id, rfl, rfl⟩
  · rw [if_neg running]
    exact kept.touched (.same rfl rfl rfl rfl)

theorem Kept.cursor (kept : Kept before) (upstreamID : String) (sequence : Int) :
    Kept (updateResponsesBackgroundUpstreamCursor upstreamID sequence before) ∧
      Lawful before (updateResponsesBackgroundUpstreamCursor upstreamID sequence before) := by
  unfold updateResponsesBackgroundUpstreamCursor
  by_cases blank : Text.Blank upstreamID
  · rw [if_pos blank]
    exact kept.touched (.same rfl rfl rfl rfl)
  · rw [if_neg blank]
    by_cases ahead : before.job.status = .running ∧ before.job.upstreamSequence < sequence
    · rw [if_pos ahead]
      exact kept.touched ⟨rfl, (fun _ ended => nomatch ahead.1.symm.trans ended), rfl, ahead.2.le, id, rfl, rfl⟩
    · rw [if_neg ahead]
      exact kept.touched (.same rfl rfl rfl rfl)

theorem Kept.create_event (kept : Kept before) (transaction : Nat) (event : Event) :
    Kept (createResponsesBackgroundEvent transaction event before) ∧
      Lawful before (createResponsesBackgroundEvent transaction event before) := by
  unfold createResponsesBackgroundEvent
  by_cases stored : before.events.any (fun other => other.sequence = event.sequence) = true
  · rw [if_pos stored]
    exact kept.touched (.same rfl rfl rfl rfl)
  · rw [if_neg stored]
    exact kept.touched (.same rfl rfl rfl rfl)

theorem Kept.move_last_sequence (kept : Kept before) (transaction : Nat) :
    Kept (moveLastSequence transaction before) ∧ Lawful before (moveLastSequence transaction before) := by
  unfold moveLastSequence
  cases before.creating transaction with
  | none => exact kept.touched (.same rfl rfl rfl rfl)
  | some event =>
      by_cases stored : before.events.any (fun other => other.sequence = event.sequence) = true
      · simp only [if_pos stored]
        exact kept.touched (.same rfl rfl rfl rfl)
      · simp only [if_neg stored]
        by_cases ahead : before.job.lastSequence < event.sequence
        · simp only [if_pos ahead]
          refine kept.touched ⟨rfl, fun _ _ => ⟨rfl, rfl, rfl⟩, rfl, le_rfl, fun last => ?_, rfl, rfl⟩
          rw [largest_snoc, ← last, max_eq_right ahead.le]
        · simp only [if_neg ahead]
          refine kept.touched ⟨rfl, fun _ _ => ⟨rfl, rfl, rfl⟩, rfl, le_rfl, fun last => ?_, rfl, rfl⟩
          rw [largest_snoc, ← last, max_eq_left (not_lt.mp ahead)]

theorem Kept.terminal (kept : Kept before) (outcome : Outcome) (finalCiphertext errorCiphertext upstreamID : String) (now : Int) :
    Kept (updateResponsesBackgroundTerminal outcome finalCiphertext errorCiphertext upstreamID now before) ∧
      Lawful before (updateResponsesBackgroundTerminal outcome finalCiphertext errorCiphertext upstreamID now before) := by
  unfold updateResponsesBackgroundTerminal
  by_cases running : before.job.status = .running
  · rw [if_pos running]
    have claimed : before.claimed = true := kept.running running
    have unreported : before.reported = true → False := fun reported => by
      rw [(kept.reported reported).1] at claimed
      cases claimed
    refine ⟨⟨kept.claims, (nomatch ·), (nomatch ·), fun open_ => ?_, fun reported => (unreported reported).elim, kept.last⟩, ?_, ?_,
      fun reported => (unreported reported).elim, le_rfl, kept.last⟩
    · rw [show before.claimed = false from open_] at claimed
      cases claimed
    · rw [running]
      exact .finish outcome
    · intro other ended
      rw [running] at ended
      cases ended
  · rw [if_neg running]
    exact kept.touched (.same rfl rfl rfl rfl)

theorem Kept.read_cancel (kept : Kept before) (transaction : Nat) (userID tokenID : Int) :
    Kept (readCancel transaction userID tokenID before) ∧ Lawful before (readCancel transaction userID tokenID before) := by
  unfold readCancel
  by_cases owned : before.job.userID = userID ∧ before.job.tokenID = tokenID
  · rw [if_pos owned]
    exact kept.touched (.same rfl rfl rfl rfl)
  · rw [if_neg owned]
    exact kept.touched (.same rfl rfl rfl rfl)

theorem Kept.write_cancel (kept : Kept before) (transaction : Nat) (now : Int) (fresh : Fresh before (.writeCancel transaction now)) :
    Kept (writeCancel transaction now before) ∧ Lawful before (writeCancel transaction now before) := by
  unfold writeCancel
  cases read : before.cancelling transaction with
  | none => exact kept.touched (.same rfl rfl rfl rfl)
  | some current =>
      cases status : current.status with
      | queued =>
          have unclaimed : before.claimed = false := by rw [kept.claims, fresh current read status]; rfl
          simp only [status]
          refine ⟨⟨kept.claims, (nomatch ·), (nomatch ·), fun _ => .inr rfl, fun _ => ⟨unclaimed, rfl⟩, kept.last⟩, ?_,
            fun _ _ => ⟨rfl, rfl, rfl⟩, fun _ => unclaimed, le_rfl, kept.last⟩
          rcases kept.waiting unclaimed with queued | canceled
          · rw [queued]
            exact .cancel
          · rw [canceled]
            exact .stay _
      | running =>
          simp only [status]
          exact kept.touched ⟨rfl, fun _ _ => ⟨rfl, rfl, rfl⟩, rfl, le_rfl, id, rfl, rfl⟩
      | ended outcome =>
          simp only [status]
          exact kept.touched (.same rfl rfl rfl rfl)

end

theorem Kept.statement {store : Store} (kept : Kept store) (statement : Statement) (fresh : Fresh store statement) :
    Kept (step store statement) ∧ Lawful store (step store statement) := by
  cases statement with
  | claim now leaseDuration => exact kept.claim now leaseDuration
  | renew claimedAt => exact kept.renew claimedAt
  | cursor upstreamID sequence => exact kept.cursor upstreamID sequence
  | createEvent transaction event => exact kept.create_event transaction event
  | moveLastSequence transaction => exact kept.move_last_sequence transaction
  | rollbackEvent transaction => exact kept.touched (.same rfl rfl rfl rfl)
  | terminal outcome finalCiphertext errorCiphertext upstreamID now =>
      exact kept.terminal outcome finalCiphertext errorCiphertext upstreamID now
  | readCancel transaction userID tokenID => exact kept.read_cancel transaction userID tokenID
  | writeCancel transaction now => exact kept.write_cancel transaction now fresh
  | rollbackCancel transaction => exact kept.touched (.same rfl rfl rfl rfl)

-- A cancel that comes too late tells its client that a claimed job left the queue.
theorem Kept.stale {store : Store} (kept : Kept store) (statement : Statement) (stale : ¬Fresh store statement) :
    ¬Lawful store (step store statement) := by
  cases statement with
  | writeCancel transaction now =>
      intro lawful
      refine stale fun current read queued => ?_
      have reports : (step store (.writeCancel transaction now)).reported = true := by simp [step, writeCancel, read, queued]
      have same : (step store (.writeCancel transaction now)).claimed = store.claimed := by simp [step, writeCancel, read, queued]
      have unclaimed := lawful.unclaimed reports
      rw [same, kept.claims] at unclaimed
      exact Option.isSome_eq_false_iff.mp unclaimed |> Option.isNone_iff_eq_none.mp
  | _ => exact (stale trivial).elim

theorem kept_new (userID tokenID : Int) (nativeBackground : Bool) : Kept (newJob userID tokenID nativeBackground) :=
  ⟨rfl, (nomatch ·), fun _ => rfl, fun _ => .inl rfl, (nomatch ·), rfl⟩

theorem background_job_law_iff (userID tokenID : Int) (nativeBackground : Bool) (statements : List Statement) :
    Every step (fun store statement => Lawful store (step store statement)) (newJob userID tokenID nativeBackground) statements ↔
      Every step Fresh (newJob userID tokenID nativeBackground) statements := by
  constructor
  · intro lawful
    have kept := kept_new userID tokenID nativeBackground
    generalize newJob userID tokenID nativeBackground = store at lawful kept
    induction statements generalizing store with
    | nil => trivial
    | cons statement rest ih =>
        obtain ⟨first, others⟩ := lawful
        have fresh : Fresh store statement := by
          by_contra stale
          exact kept.stale statement stale first
        exact ⟨fresh, ih (step store statement) others (kept.statement statement fresh).1⟩
  · intro fresh
    exact (Every.keeps _ (kept_new userID tokenID nativeBackground) (fun store statement kept fresh => kept.statement statement fresh)
      statements fresh).2

-- A worker claims and completes the job between the two statements of a cancel.
def overtakenCancel : List Statement :=
  [.readCancel 0 1 2, .claim 5 30, .terminal .completed "answer" "" "up" 7, .writeCancel 0 9]

theorem overtaken_cancel_breaks_law :
    (run step (newJob 1 2 false) (overtakenCancel.take 3)).job.status = .ended .completed ∧
      (run step (newJob 1 2 false) overtakenCancel).job.status = .ended .canceled ∧
      (run step (newJob 1 2 false) overtakenCancel).reported = true ∧ (run step (newJob 1 2 false) overtakenCancel).claimed = true ∧
      ¬Every step (fun store statement => Lawful store (step store statement)) (newJob 1 2 false) overtakenCancel := by
  refine ⟨by decide, by decide, by decide, by decide, fun lawful => ?_⟩
  obtain ⟨-, -, -, last, -⟩ := lawful
  exact absurd (last.unclaimed (by decide)) (by decide)

end CodeGo.Gateway.Background
