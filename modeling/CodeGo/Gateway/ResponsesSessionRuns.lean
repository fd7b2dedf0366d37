import CodeGo.Gateway.ResponsesSession

set_option autoImplicit false

namespace CodeGo.Gateway.ResponsesWS

open Relational

/- What the session promises -/

section

variable (terminal : String → Bool)

-- The messages up to and including the first terminal one.
def throughTerminal : List String → List String
  | [] => []
  | message :: rest => if terminal message then [message] else message :: throughTerminal rest

theorem through_terminal_append (log more : List String) (ended : ∃ message ∈ log, terminal message = true) :
    throughTerminal terminal (log ++ more) = throughTerminal terminal log := by
  induction log with
  | nil =>
      obtain ⟨message, member, -⟩ := ended
      cases member
  | cons first rest ih =>
      rw [List.cons_append, throughTerminal, throughTerminal]
      by_cases last : terminal first = true
      · rw [if_pos last, if_pos last]
      · rw [if_neg last, if_neg last, ih]
        obtain ⟨message, member, is⟩ := ended
        rcases List.mem_cons.mp member with rfl | later
        · exact (last is).elim
        · exact ⟨message, later, is⟩

theorem through_terminal_open (log : List String) (running : ∀ message ∈ log, terminal message = false) :
    throughTerminal terminal log = log := by
  induction log with
  | nil => rfl
  | cons first rest ih =>
      rw [List.forall_mem_cons] at running
      rw [throughTerminal, running.1, ih running.2]
      rfl

theorem through_terminal_next (log : List String) (message : String) (running : ∀ message ∈ log, terminal message = false) :
    throughTerminal terminal (log ++ [message]) = log ++ [message] := by
  induction log with
  | nil => by_cases last : terminal message = true <;> simp [throughTerminal, last]
  | cons first rest ih =>
      rw [List.forall_mem_cons] at running
      rw [List.cons_append, throughTerminal, running.1, ih running.2]
      rfl

end

def Phase.left : Phase → Bool
  | .reading => false
  | .holding _ => false
  | _ => true

def Move.forwarder : Move → Option Nat
  | .callback id => some id
  | .readMessage id _ => some id
  | .readError id _ => some id
  | .forward id _ => some id
  | .stop id => some id
  | .finish id => some id
  | _ => none

-- What has been read from the connection of a response since its payload was written.
def World.log (world : World) (response : Response) : List String := (world.messages response.conn).drop response.start

section

variable (eventType : String → Option String)

def expectedBody (log : List String) : List String :=
  (throughTerminal (terminalWebSocketEvent eventType) log).map ssePayload

-- A body has no other content than the messages of its turn, and all of them where it ends without an error.
structure Carries (log : List String) (response : Response) : Prop where
  inOrder : response.body <+: expectedBody eventType log
  whole : response.phase.left = true → response.forwardErr = false →
    response.body = expectedBody eventType log ∧ ∃ message ∈ log, terminalWebSocketEvent eventType message = true

structure Lawful (before : World) (move : Move) (after : World) : Prop where
  alone : ∀ request conn, move = .send request → before.writesTo request = some conn →
    ∀ id response, before.responses id = some response → response.conn = conn → response.ended = true
  quiet : ∀ request conn, move = .send request → before.writesTo request = some conn → before.lost = false
  unmoved : ∀ id response, move.forwarder = some id → before.responses id = some response → response.epoch ≠ before.epoch →
    after.session.inFlight = before.session.inFlight ∧ after.session.replayForbidden = before.session.replayForbidden
  carries : ∀ id response, after.responses id = some response → Carries eventType (after.log response) response

end

-- A payload has been written to the connection and its terminal event has not been read.
def Pending (world : World) (conn : Nat) : Prop :=
  ∃ id response, world.responses id = some response ∧ response.conn = conn ∧ response.ended = false

def Response.fires (response : Response) : Prop :=
  response.cancelled = true ∧ response.fired = false ∧ response.phase ≠ .stopped ∧ response.phase ≠ .done

-- The writes of flags that the source leaves unguarded come at a time when they do no harm.
def Faithful (world : World) : Move → Prop
  | .callback id => ∀ response, world.responses id = some response → response.fires →
      if response.epoch = world.epoch then ∀ conn, world.session.conn = some conn → conn ≠ response.conn → ¬Pending world conn
      else world.session.inFlight = false
  | .readError id _ => ∀ response, world.responses id = some response → response.phase = .reading →
      if response.epoch = world.epoch then response.cancelled = true → world.lost = false
      else world.session.replayForbidden = !response.cancelled
  | .finish id => ∀ response, world.responses id = some response → response.phase = .stopped →
      world.session.cleans response.conn = true →
      if response.epoch = world.epoch then ∀ conn, world.session.conn = some conn → ¬Pending world conn
      else world.session.inFlight = false
  | _ => True

/- The invariant -/

section

variable (eventType : String → Option String)

-- What the forwarder of a response has done with the messages read since its payload was written.
structure Sound (log : List String) (response : Response) : Prop where
  carries : Carries eventType log response
  ended : response.ended = true ↔ ∃ message ∈ log, terminalWebSocketEvent eventType message = true
  reading : response.phase = .reading → response.ended = false ∧ response.body = log.map ssePayload ∧ response.forwardErr = false
  holding : ∀ payload, response.phase = .holding payload → response.forwardErr = false ∧
    response.body ++ [ssePayload payload] = expectedBody eventType log ∧
    response.ended = terminalWebSocketEvent eventType payload

-- The responses: each connection has at most one whose terminal event is still to come.
structure Tracked (world : World) : Prop where
  known : ∀ id response, world.responses id = some response → id < world.sent ∧ response.conn < world.dialled ∧
    response.start ≤ (world.messages response.conn).length
  single : ∀ id other first second, world.responses id = some first → world.responses other = some second →
    first.conn = second.conn → first.ended = false → second.ended = false → id = other
  sound : ∀ id response, world.responses id = some response → Sound eventType (world.log response) response

structure Kept (world : World) : Prop where
  tracked : Tracked eventType world
  dialled : ∀ conn, world.session.conn = some conn → conn < world.dialled
  flagged : ∀ conn, world.session.conn = some conn → Pending world conn → world.session.inFlight = true
  forbids : world.lost = true → world.session.replayForbidden = true

end

section

variable {eventType : String → Option String} {world : World} {id : Nat} {response next : Response}

theorem Sound.running {log : List String} (sound : Sound eventType log response) (reading : response.phase = .reading) :
    ∀ message ∈ log, terminalWebSocketEvent eventType message = false := by
  intro message member
  by_contra last
  have ended := sound.ended.mpr ⟨message, member, Bool.eq_true_of_not_eq_false last⟩
  rw [(sound.reading reading).1] at ended
  cases ended

-- Once the terminal event is there, later messages belong to others.
theorem Sound.later {log : List String} (sound : Sound eventType log response) (ended : response.ended = true) (more : List String) :
    Sound eventType (log ++ more) response := by
  have there := sound.ended.mp ended
  have same : expectedBody eventType (log ++ more) = expectedBody eventType log := by
    rw [expectedBody, through_terminal_append _ _ _ there, expectedBody]
  have still : ∃ message ∈ log ++ more, terminalWebSocketEvent eventType message = true := by
    obtain ⟨message, member, last⟩ := there
    exact ⟨message, List.mem_append_left _ member, last⟩
  refine ⟨⟨?_, ?_⟩, ⟨fun _ => still, fun _ => ended⟩, fun reading => ?_, fun payload holding => ?_⟩
  · rw [same]
    exact sound.carries.inOrder
  · intro left clean
    rw [same]
    exact ⟨(sound.carries.whole left clean).1, still⟩
  · rw [(sound.reading reading).1] at ended
    cases ended
  · rw [same]
    exact sound.holding payload holding

-- A response moves on, on the connection and from the place where it is.
structure Follows (response next : Response) : Prop where
  conn : next.conn = response.conn
  start : next.start = response.start
  ended : next.ended = false → response.ended = false

theorem put_found {other : Nat} {held : Response} (found : (world.put id next).responses other = some held) :
    other = id ∧ held = next ∨ other ≠ id ∧ world.responses other = some held := by
  by_cases is : other = id
  · subst is
    have own : (world.put other next).responses other = some next := Function.update_self _ _ _
    rw [own] at found
    cases found
    exact .inl ⟨rfl, rfl⟩
  · have other : (world.put id next).responses other = world.responses other := Function.update_of_ne is _ _
    exact .inr ⟨is, other ▸ found⟩

-- Every response has been there before, on the same connection and no nearer to its end.
theorem Follows.before {other : Nat} {held : Response} (follows : Follows response next)
    (found : world.responses id = some response) (there : (world.put id next).responses other = some held) :
    ∃ before, world.responses other = some before ∧ held.conn = before.conn ∧ held.start = before.start ∧
      (held.ended = false → before.ended = false) := by
  rcases put_found there with ⟨rfl, rfl⟩ | ⟨-, old⟩
  · exact ⟨response, found, follows.conn, follows.start, follows.ended⟩
  · exact ⟨held, old, rfl, rfl, fun open_ => open_⟩

theorem pending_put {conn : Nat} (found : world.responses id = some response) (follows : Follows response next)
    (pending : Pending (world.put id next) conn) : Pending world conn := by
  obtain ⟨other, held, there, same, open_⟩ := pending
  obtain ⟨before, old, onConn, -, still⟩ := follows.before found there
  exact ⟨other, before, old, onConn.symm.trans same, still open_⟩

theorem Tracked.single_put (tracked : Tracked eventType world) (found : world.responses id = some response)
    (follows : Follows response next) (first second : Nat) (one two : Response)
    (firstThere : (world.put id next).responses first = some one) (secondThere : (world.put id next).responses second = some two)
    (same : one.conn = two.conn) (firstOpen : one.ended = false) (secondOpen : two.ended = false) : first = second := by
  obtain ⟨before, beforeThere, beforeConn, -, beforeOpen⟩ := follows.before found firstThere
  obtain ⟨after, afterThere, afterConn, -, afterOpen⟩ := follows.before found secondThere
  exact tracked.single first second before after beforeThere afterThere (beforeConn.symm.trans (same.trans afterConn))
    (beforeOpen firstOpen) (afterOpen secondOpen)

theorem Tracked.put (tracked : Tracked eventType world) (found : world.responses id = some response)
    (follows : Follows response next) (sound : Sound eventType (world.log response) next) :
    Tracked eventType (world.put id next) := by
  refine ⟨?_, tracked.single_put found follows, ?_⟩
  · intro other held there
    obtain ⟨before, old, onConn, from_, -⟩ := follows.before found there
    rw [onConn, from_]
    exact tracked.known other before old
  · intro other held there
    rcases put_found there with ⟨-, rfl⟩ | ⟨-, old⟩
    · rw [World.log, follows.conn, follows.start]
      exact sound
    · exact tracked.sound other held old

/- One step -/

theorem close_current_conn {session : Session} {conn open_ : Nat} (still : (session.closeConnectionIfCurrent conn).conn = some open_) :
    session.conn = some open_ ∧ open_ ≠ conn := by
  rw [Session.closeConnectionIfCurrent] at still
  by_cases current : session.conn = some conn
  · rw [if_pos current] at still
    cases still
  · rw [if_neg current] at still
    exact ⟨still, fun same => current (same ▸ still)⟩

@[simp] theorem close_current_in_flight (session : Session) (conn : Nat) :
    (session.closeConnectionIfCurrent conn).inFlight = session.inFlight := by
  rw [Session.closeConnectionIfCurrent]
  split_ifs <;> rfl

@[simp] theorem close_current_replay (session : Session) (conn : Nat) :
    (session.closeConnectionIfCurrent conn).replayForbidden = session.replayForbidden := by
  rw [Session.closeConnectionIfCurrent]
  split_ifs <;> rfl

theorem connection_cases {session : Session} {fresh conn : Nat} {request : Request}
    (connected : connectionLocked session fresh request = .ok conn) : session.conn = some conn ∨ conn = fresh := by
  rw [connectionLocked] at connected
  cases current : session.conn with
  | some open_ =>
      rw [current] at connected
      cases connected
      exact .inl rfl
  | none =>
      rw [current] at connected
      right
      cases address : websocketEndpoint request.endpoint with
      | none =>
          rw [address] at connected
          cases connected
      | some url =>
          rw [address] at connected
          cases refused : request.refused with
          | some status =>
              rw [refused] at connected
              cases connected
          | none =>
              rw [refused] at connected
              cases connected
              rfl

theorem admits_flags {session : Session} (admits : session.admits = true) :
    session.inFlight = false ∧ session.replayForbidden = false := by
  simp only [Session.admits, Bool.and_eq_true, Bool.not_eq_true'] at admits
  exact ⟨admits.2, admits.1.2⟩

-- A call that is let through finds every earlier payload on its connection answered.
theorem Kept.answered {conn : Nat} {request : Request} (kept : Kept eventType world) (admits : world.session.admits = true)
    (connected : connectionLocked world.session world.dialled request = .ok conn) : ¬Pending world conn := by
  rintro ⟨id, response, found, same, open_⟩
  rcases connection_cases connected with current | rfl
  · have busy := kept.flagged conn current ⟨id, response, found, same, open_⟩
    rw [(admits_flags admits).1] at busy
    cases busy
  · have below := (kept.tracked.known id response found).2.1
    omega

theorem Kept.binds (kept : Kept eventType world) (channelID keyIndex : Int) (nativeSupported : Bool) :
    Kept eventType { world with session := world.session.bindRoute channelID keyIndex nativeSupported } := by
  rw [Session.bindRoute]
  by_cases invalid : channelID ≤ 0 ∨ keyIndex < 0
  · rw [if_pos invalid]
    exact kept
  · rw [if_neg invalid]
    by_cases pinned : world.session.bound = true ∧ (world.session.channelID ≠ channelID ∨ world.session.keyIndex ≠ keyIndex)
    · rw [if_pos pinned]
      exact kept
    · rw [if_neg pinned]
      exact { kept with tracked := { kept.tracked with } }

theorem Kept.disables (kept : Kept eventType world) : Kept eventType { world with session := world.session.disableNative } :=
  ⟨{ kept.tracked with }, fun _ => (nomatch ·), fun _ => (nomatch ·, ·), kept.forbids⟩

theorem Kept.resets (kept : Kept eventType world) :
    Kept eventType { world with session := world.session.resetRoute, epoch := world.epoch + 1, lost := false } :=
  ⟨{ kept.tracked with }, fun _ => (nomatch ·), fun _ => (nomatch ·, ·), (nomatch ·)⟩

theorem Kept.closes (kept : Kept eventType world) :
    Kept eventType { world with session := world.session.close, epoch := world.epoch + 1 } := by
  rw [Session.close]
  by_cases current : world.session.conn.isSome = true
  · rw [if_pos current]
    exact ⟨{ kept.tracked with }, fun _ => (nomatch ·), fun _ => (nomatch ·, ·), kept.forbids⟩
  · rw [if_neg current]
    exact { kept with tracked := { kept.tracked with } }

theorem Kept.write_failed {conn : Nat} (kept : Kept eventType world) (text : String) : Kept eventType (writeFailed world conn text) where
  tracked :=
    { kept.tracked with
      known := fun id response found =>
        have known := kept.tracked.known id response found
        ⟨known.1, known.2.1.trans_le (le_max_left _ _), known.2.2⟩ }
  dialled _ := (nomatch ·)
  flagged _ := (nomatch ·, ·)
  forbids _ := rfl

theorem Tracked.extended {conn : Nat} (tracked : Tracked eventType world) (answered : ¬Pending world conn) (payload : String) :
    Tracked eventType (written world conn payload) := by
  have fresh : ∀ id response, (written world conn payload).responses id = some response →
      id = world.sent ∧ response = { conn := conn, payload := payload, epoch := world.epoch, start := (world.messages conn).length } ∨
      world.responses id = some response := by
    intro id response found
    rcases put_found (show (world.put world.sent _).responses id = some response from found) with new | before
    · exact .inl new
    · exact .inr before.2
  have old : ∀ id response, world.responses id = some response → response.conn = conn → response.ended = true := by
    intro id response found same
    by_contra open_
    exact answered ⟨id, response, found, same, Bool.eq_false_of_not_eq_true open_⟩
  refine ⟨?_, ?_, ?_⟩
  · intro id response found
    rcases fresh id response found with ⟨rfl, rfl⟩ | before
    · exact ⟨Nat.lt_succ_self _, Nat.lt_of_lt_of_le (Nat.lt_succ_self conn) (le_max_right _ _), le_rfl⟩
    · have known := tracked.known id response before
      exact ⟨Nat.lt_succ_of_lt known.1, known.2.1.trans_le (le_max_left _ _), known.2.2⟩
  · intro first second one two firstThere secondThere same firstOpen secondOpen
    rcases fresh first one firstThere with ⟨rfl, rfl⟩ | firstBefore
    · rcases fresh second two secondThere with ⟨rfl, -⟩ | secondBefore
      · rfl
      · rw [old second two secondBefore same.symm] at secondOpen
        cases secondOpen
    · rcases fresh second two secondThere with ⟨rfl, rfl⟩ | secondBefore
      · rw [old first one firstBefore same] at firstOpen
        cases firstOpen
      · exact tracked.single first second one two firstBefore secondBefore same firstOpen secondOpen
  · intro id response found
    rcases fresh id response found with ⟨rfl, rfl⟩ | before
    · have empty : (written world conn payload).log
          { conn := conn, payload := payload, epoch := world.epoch, start := (world.messages conn).length } = [] :=
        List.drop_length
      rw [empty]
      exact ⟨⟨List.nil_prefix, (nomatch ·, ·)⟩, ⟨(nomatch ·), by simp⟩, fun _ => ⟨rfl, rfl, rfl⟩, fun _ => (nomatch ·)⟩
    · exact tracked.sound id response before

theorem Kept.sends (kept : Kept eventType world) (request : Request) : Kept eventType (send world request) := by
  rw [send]
  cases request.payload with
  | none => exact kept
  | some payload =>
      by_cases admits : world.session.admits = true
      · simp only [if_pos admits]
        cases connected : connectionLocked world.session world.dialled request with
        | error problem => exact { kept with tracked := { kept.tracked with } }
        | ok conn =>
            simp only
            cases request.writeError with
            | some text => exact kept.write_failed text
            | none =>
                have answered := kept.answered admits connected
                refine ⟨kept.tracked.extended answered payload, ?_, fun _ _ _ => rfl, kept.forbids⟩
                rintro _ ⟨⟩
                exact Nat.lt_of_lt_of_le (Nat.lt_succ_self conn) (le_max_right _ _)
      · simp only [if_neg admits]
        exact kept

/- Steps of one response -/

theorem Sound.told {log : List String} (sound : Sound eventType log response) (cancelled fired : Bool) :
    Sound eventType log { response with cancelled := cancelled, fired := fired } :=
  ⟨⟨sound.carries.inOrder, sound.carries.whole⟩, sound.ended, sound.reading, sound.holding⟩

theorem Sound.reads {log : List String} (sound : Sound eventType log response) (reading : response.phase = .reading)
    (payload : String) :
    Sound eventType (log ++ [payload])
      { response with phase := .holding payload, ended := terminalWebSocketEvent eventType payload } := by
  have running := sound.running reading
  obtain ⟨-, body, clean⟩ := sound.reading reading
  have expected : expectedBody eventType (log ++ [payload]) = response.body ++ [ssePayload payload] := by
    rw [expectedBody, through_terminal_next _ _ _ running, List.map_append, body]
    rfl
  refine ⟨⟨?_, (nomatch ·, ·)⟩, ?_, (nomatch ·), ?_⟩
  · rw [expected]
    exact List.prefix_append _ _
  · constructor
    · intro last
      exact ⟨payload, by simp, last⟩
    · rintro ⟨message, member, last⟩
      rcases List.mem_append.mp member with early | late
      · rw [running message early] at last
        cases last
      · rw [List.mem_singleton.mp late] at last
        exact last
  · rintro _ ⟨⟩
    exact ⟨clean, expected.symm, rfl⟩

theorem Sound.delivers {log : List String} {payload : String} (sound : Sound eventType log response)
    (holding : response.phase = .holding payload) :
    Sound eventType log { response with
      body := response.body ++ [ssePayload payload]
      phase := if terminalWebSocketEvent eventType payload then .leaving else .reading } := by
  obtain ⟨clean, body, ended⟩ := sound.holding payload holding
  cases last : terminalWebSocketEvent eventType payload with
  | true =>
      rw [last] at ended
      exact ⟨⟨body ▸ List.prefix_rfl, fun _ _ => ⟨body, sound.ended.mp ended⟩⟩, sound.ended, (nomatch ·), fun _ => (nomatch ·)⟩
  | false =>
      rw [last] at ended
      have running : ∀ message ∈ log, terminalWebSocketEvent eventType message = false := by
        intro message member
        by_contra other
        rw [sound.ended.mpr ⟨message, member, Bool.eq_true_of_not_eq_false other⟩] at ended
        cases ended
      have all : expectedBody eventType log = log.map ssePayload := by
        rw [expectedBody, through_terminal_open _ _ running]
      exact ⟨⟨body ▸ List.prefix_rfl, (nomatch ·, ·)⟩, sound.ended, fun _ => ⟨ended, body.trans all, clean⟩, fun _ => (nomatch ·)⟩

theorem Sound.fails {log : List String} (sound : Sound eventType log response) :
    Sound eventType log { response with phase := .leaving, forwardErr := true } :=
  ⟨⟨sound.carries.inOrder, fun _ => (nomatch ·)⟩, sound.ended, (nomatch ·), fun _ => (nomatch ·)⟩

theorem Sound.leaves {log : List String} (sound : Sound eventType log response) (left : response.phase.left = true) (phase : Phase)
    (gone : phase.left = true) : Sound eventType log { response with phase := phase } := by
  refine ⟨⟨sound.carries.inOrder, fun _ => sound.carries.whole left⟩, sound.ended, fun reading => ?_, fun payload holding => ?_⟩
  · rw [show phase = .reading from reading] at gone
    cases gone
  · rw [show phase = .holding payload from holding] at gone
    cases gone

theorem Kept.put (kept : Kept eventType world) (found : world.responses id = some response) (follows : Follows response next)
    (sound : Sound eventType (world.log response) next) : Kept eventType (world.put id next) :=
  ⟨kept.tracked.put found follows sound, kept.dialled,
    fun conn current pending => kept.flagged conn current (pending_put found follows pending), kept.forbids⟩

theorem Kept.calls_back (kept : Kept eventType world) (found : world.responses id = some response) (fires : response.fires)
    (faithful : Faithful world (.callback id)) : Kept eventType (callback world id response) := by
  have follows : Follows response { response with fired := true } := ⟨rfl, rfl, fun open_ => open_⟩
  have sound := (kept.tracked.sound id response found).told response.cancelled true
  have harmless := faithful response found fires
  refine ⟨{ kept.tracked.put found follows sound with }, ?_, ?_, ?_⟩
  · intro conn current
    exact kept.dialled conn (close_current_conn current).1
  · intro conn current pending
    obtain ⟨before, other⟩ := close_current_conn current
    have waiting := pending_put found follows pending
    by_cases same : response.epoch = world.epoch
    · rw [if_pos same] at harmless
      exact (harmless conn before other waiting).elim
    · rw [if_neg same] at harmless
      exact absurd (kept.flagged conn before waiting) (by rw [harmless]; exact Bool.false_ne_true)
  · intro lost
    exact (close_current_replay _ _).trans (kept.forbids lost)

theorem Tracked.reads (tracked : Tracked eventType world) (found : world.responses id = some response)
    (reading : response.phase = .reading) (payload : String) : Tracked eventType (readMessage eventType world id response payload) := by
  have sound := tracked.sound id response found
  have open_ := (sound.reading reading).1
  have follows : Follows response { response with phase := .holding payload, ended := terminalWebSocketEvent eventType payload } :=
    ⟨rfl, rfl, fun _ => open_⟩
  have log : ∀ other held, world.responses other = some held → (readMessage eventType world id response payload).log held =
      if held.conn = response.conn then world.log held ++ [payload] else world.log held := by
    intro other held there
    rw [World.log, readMessage]
    by_cases same : held.conn = response.conn
    · rw [if_pos same, World.log, same]
      simp only [Function.update_self]
      exact List.drop_append_of_le_length (same ▸ (tracked.known other held there).2.2)
    · rw [if_neg same, World.log]
      simp only [Function.update_of_ne same]
  refine ⟨?_, tracked.single_put found follows, ?_⟩
  · intro other held there
    obtain ⟨before, old, onConn, from_, -⟩ := follows.before found there
    obtain ⟨below, dialled, within⟩ := tracked.known other before old
    rw [onConn, from_, readMessage]
    refine ⟨below, dialled, ?_⟩
    by_cases same : before.conn = response.conn
    · rw [same] at within ⊢
      simp only [Function.update_self, List.length_append]
      exact within.trans (Nat.le_add_right _ _)
    · simp only [Function.update_of_ne same]
      exact within
  · intro other held there
    rcases put_found there with ⟨-, rfl⟩ | ⟨apart, old⟩
    · have grown := log id response found
      rw [if_pos rfl] at grown
      exact (congrArg (Sound eventType · _) grown).mpr (sound.reads reading payload)
    · rw [log other held old]
      by_cases same : held.conn = response.conn
      · rw [if_pos same]
        by_cases ended : held.ended = true
        · exact (tracked.sound other held old).later ended [payload]
        · exact (apart (tracked.single other id held response old found same (Bool.eq_false_of_not_eq_true ended) open_)).elim
      · rw [if_neg same]
        exact tracked.sound other held old

theorem Kept.reads (kept : Kept eventType world) (found : world.responses id = some response)
    (reading : response.phase = .reading) (payload : String) : Kept eventType (readMessage eventType world id response payload) := by
  have open_ := ((kept.tracked.sound id response found).reading reading).1
  have follows : Follows response { response with phase := .holding payload, ended := terminalWebSocketEvent eventType payload } :=
    ⟨rfl, rfl, fun _ => open_⟩
  refine ⟨kept.tracked.reads found reading payload, kept.dialled, ?_, kept.forbids⟩
  intro conn current pending
  exact kept.flagged conn current (pending_put found follows pending)

-- A forwarder that stops reading closes its connection if that is the session's.
theorem Kept.fails (kept : Kept eventType world) (found : world.responses id = some response) (session : Session) (lost : Bool)
    (conn : ∀ conn, session.conn = some conn → world.session.conn = some conn) (flag : session.inFlight = world.session.inFlight)
    (forbids : lost = true → session.replayForbidden = true) :
    Kept eventType { world.put id { response with phase := .leaving, forwardErr := true } with session := session, lost := lost } := by
  have follows : Follows response { response with phase := .leaving, forwardErr := true } := ⟨rfl, rfl, fun open_ => open_⟩
  have sound := (kept.tracked.sound id response found).fails
  refine ⟨{ kept.tracked.put found follows sound with }, fun still current => kept.dialled still (conn still current), ?_, forbids⟩
  intro still current pending
  exact flag.trans (kept.flagged still (conn still current) (pending_put found follows pending))

theorem Kept.read_error (kept : Kept eventType world) (found : world.responses id = some response)
    (reading : response.phase = .reading) (text : String) (faithful : Faithful world (.readError id text)) :
    Kept eventType (readError world id response text) := by
  have harmless := faithful response found reading
  refine kept.fails found _ _ (fun conn current => (close_current_conn current).1) (close_current_in_flight _ _) fun lost => ?_
  refine (close_current_replay _ _).trans ?_
  by_cases same : response.epoch = world.epoch
  · rw [if_pos same] at harmless
    cases cancelled : response.cancelled with
    | false => rfl
    | true =>
        rw [harmless cancelled, cancelled] at lost
        simp at lost
  · rw [if_neg same] at harmless
    have before : world.lost = true := by simpa [same] using lost
    exact harmless.symm.trans (kept.forbids before)

theorem Kept.forwards {payload : String} (kept : Kept eventType world) (found : world.responses id = some response)
    (holding : response.phase = .holding payload) (delivered : Bool) :
    Kept eventType (forward eventType world id response payload delivered) := by
  rw [forward]
  cases delivered with
  | true => exact kept.put found ⟨rfl, rfl, fun open_ => open_⟩ ((kept.tracked.sound id response found).delivers holding)
  | false =>
      exact kept.fails found _ _ (fun conn current => (close_current_conn current).1) (close_current_in_flight _ _)
        fun lost => (close_current_replay _ _).trans (kept.forbids lost)

theorem Kept.finishes (kept : Kept eventType world) (found : world.responses id = some response)
    (stopped : response.phase = .stopped) (faithful : Faithful world (.finish id)) : Kept eventType (finish world id response) := by
  have follows : Follows response { response with phase := .done } := ⟨rfl, rfl, fun open_ => open_⟩
  have sound := (kept.tracked.sound id response found).leaves (stopped ▸ rfl) .done rfl
  have harmless := faithful response found stopped
  rw [finish]
  by_cases cleans : world.session.cleans response.conn = true
  · rw [if_pos cleans]
    refine ⟨{ kept.tracked.put found follows sound with }, kept.dialled, ?_, kept.forbids⟩
    intro conn current pending
    have waiting := pending_put found follows pending
    have clear := harmless cleans
    by_cases same : response.epoch = world.epoch
    · rw [if_pos same] at clear
      exact (clear conn current waiting).elim
    · rw [if_neg same] at clear
      exact absurd (kept.flagged conn current waiting) (by rw [clear]; exact Bool.false_ne_true)
  · rw [if_neg cleans]
    exact kept.put found follows sound

theorem Kept.move (kept : Kept eventType world) (move : Move) (faithful : Faithful world move) :
    Kept eventType (step eventType world move) := by
  cases move with
  | bindRoute channelID keyIndex nativeSupported => exact kept.binds channelID keyIndex nativeSupported
  | disableNative => exact kept.disables
  | resetRoute => exact kept.resets
  | close => exact kept.closes
  | send request => exact kept.sends request
  | cancel id =>
      rw [step]
      cases found : world.responses id with
      | none => exact kept
      | some response =>
          exact kept.put found ⟨rfl, rfl, fun open_ => open_⟩ ((kept.tracked.sound id response found).told true response.fired)
  | callback id =>
      rw [step]
      cases found : world.responses id with
      | none => exact kept
      | some response =>
          by_cases fires : response.fires
          · simp only [if_pos (show _ ∧ _ from fires)]
            exact kept.calls_back found fires faithful
          · simp only [if_neg (show ¬(_ ∧ _) from fires)]
            exact kept
  | readMessage id payload =>
      rw [step]
      cases found : world.responses id with
      | none => exact kept
      | some response =>
          by_cases reading : response.phase = .reading
          · simp only [if_pos reading]
            exact kept.reads found reading payload
          · simp only [if_neg reading]
            exact kept
  | readError id text =>
      rw [step]
      cases found : world.responses id with
      | none => exact kept
      | some response =>
          by_cases reading : response.phase = .reading
          · simp only [if_pos reading]
            exact kept.read_error found reading text faithful
          · simp only [if_neg reading]
            exact kept
  | forward id delivered =>
      rw [step]
      cases found : world.responses id with
      | none => exact kept
      | some response =>
          cases holding : response.phase with
          | holding payload =>
              simp only [holding]
              exact kept.forwards found holding delivered
          | _ => simpa only [holding] using kept
  | stop id =>
      rw [step]
      cases found : world.responses id with
      | none => exact kept
      | some response =>
          by_cases leaves : response.phase = .leaving ∧ (response.cancelled = true → response.fired = true)
          · simp only [if_pos leaves]
            exact kept.put found ⟨rfl, rfl, fun open_ => open_⟩
              ((kept.tracked.sound id response found).leaves (leaves.1 ▸ rfl) .stopped rfl)
          · simp only [if_neg leaves]
            exact kept
  | finish id =>
      rw [step]
      cases found : world.responses id with
      | none => exact kept
      | some response =>
          by_cases stopped : response.phase = .stopped
          · simp only [if_pos stopped]
            exact kept.finishes found stopped faithful
          · simp only [if_neg stopped]
            exact kept

theorem writes_to_some {request : Request} {conn : Nat} (writes : world.writesTo request = some conn) :
    world.session.admits = true ∧ connectionLocked world.session world.dialled request = .ok conn := by
  rw [World.writesTo] at writes
  split_ifs at writes with through
  rw [Bool.and_eq_true] at through
  refine ⟨through.2, ?_⟩
  cases connected : connectionLocked world.session world.dialled request with
  | error problem =>
      rw [connected] at writes
      cases writes
  | ok other =>
      rw [connected] at writes
      cases writes
      rfl

-- Only the callback, a failed read and the cleanup assign a flag.
theorem flags_unmoved (move : Move) (faithful : Faithful world move) (forwarder : move.forwarder = some id)
    (found : world.responses id = some response) (outlived : response.epoch ≠ world.epoch) :
    (step eventType world move).session.inFlight = world.session.inFlight ∧
      (step eventType world move).session.replayForbidden = world.session.replayForbidden := by
  cases move with
  | callback id =>
      cases forwarder
      rw [step, found]
      by_cases fires : response.fires
      · simp only [if_pos (show _ ∧ _ from fires), callback, close_current_replay, and_true]
        have idle := faithful response found fires
        rw [if_neg outlived] at idle
        exact idle.symm
      · simp only [if_neg (show ¬(_ ∧ _) from fires), and_self]
  | readMessage id payload =>
      cases forwarder
      rw [step, found]
      by_cases reading : response.phase = .reading
      · simp only [if_pos reading]
        exact ⟨rfl, rfl⟩
      · simp only [if_neg reading, and_self]
  | readError id text =>
      cases forwarder
      rw [step, found]
      by_cases reading : response.phase = .reading
      · simp only [if_pos reading, readError, close_current_replay, close_current_in_flight, true_and]
        have same := faithful response found reading
        rw [if_neg outlived] at same
        exact same.symm
      · simp only [if_neg reading, and_self]
  | forward id delivered =>
      cases forwarder
      rw [step, found]
      cases holding : response.phase with
      | holding payload =>
          simp only [holding, forward]
          cases delivered with
          | true => exact ⟨rfl, rfl⟩
          | false => exact ⟨close_current_in_flight _ _, close_current_replay _ _⟩
      | _ => simp only [holding, and_self]
  | stop id =>
      cases forwarder
      rw [step, found]
      by_cases leaves : response.phase = .leaving ∧ (response.cancelled = true → response.fired = true)
      · simp only [if_pos leaves]
        exact ⟨rfl, rfl⟩
      · simp only [if_neg leaves, and_self]
  | finish id =>
      cases forwarder
      rw [step, found]
      by_cases stopped : response.phase = .stopped
      · simp only [if_pos stopped, finish]
        by_cases cleans : world.session.cleans response.conn = true
        · rw [if_pos cleans]
          have idle := faithful response found stopped cleans
          rw [if_neg outlived] at idle
          exact ⟨idle.symm, rfl⟩
        · rw [if_neg cleans]
          exact ⟨rfl, rfl⟩
      · simp only [if_neg stopped, and_self]
  | _ => exact nomatch forwarder

theorem Kept.lawful (kept : Kept eventType world) (move : Move) (faithful : Faithful world move) :
    Lawful eventType world move (step eventType world move) where
  alone request conn _ writes id response found same := by
    obtain ⟨admits, connected⟩ := writes_to_some writes
    by_contra open_
    exact kept.answered admits connected ⟨id, response, found, same, Bool.eq_false_of_not_eq_true open_⟩
  quiet request conn _ writes := by
    obtain ⟨admits, -⟩ := writes_to_some writes
    by_contra lost
    have forbidden := kept.forbids (Bool.eq_true_of_not_eq_false lost)
    rw [(admits_flags admits).2] at forbidden
    cases forbidden
  unmoved _ _ forwarder found outlived := flags_unmoved move faithful forwarder found outlived
  carries id response found := ((kept.move move faithful).tracked.sound id response found).carries

end

theorem kept_start (eventType : String → Option String) : Kept eventType {} :=
  ⟨⟨fun _ _ => (nomatch ·), fun _ _ _ _ => (nomatch ·), fun _ _ => (nomatch ·)⟩, fun _ => (nomatch ·), fun _ => (nomatch ·), (nomatch ·)⟩

theorem one_response_at_a_time (eventType : String → Option String) (moves : List Move)
    (faithful : Every (step eventType) Faithful {} moves) :
    Every (step eventType) (fun world move => Lawful eventType world move (step eventType world move)) {} moves :=
  (Every.keeps _ (kept_start eventType) (fun _ move kept faithful => ⟨kept.move move faithful, kept.lawful move faithful⟩) moves
    faithful).2

def createdEvent : String := "\x7b\"type\":\"response.created\"\x7d"

def typeOfCreated (payload : String) : Option String := if payload = createdEvent then some "response.created" else none

def turn : Request := { endpoint := "https://host/v1/responses", payload := some "\x7b\"type\":\"response.create\"\x7d" }

-- A turn that its client gives up, and the next one on a new connection.
def abandonedTurn : List Move :=
  [.bindRoute 1 0 true, .send turn, .readMessage 0 createdEvent, .forward 0 true, .cancel 0, .callback 0, .readError 0 "closed",
    .stop 0, .finish 0, .send turn]

theorem abandoned_turn_lawful :
    ((run (step typeOfCreated) {} abandonedTurn).responses 1).map (fun response => (response.conn, response.body)) = some (1, []) ∧
      Every (step typeOfCreated) (fun world move => Lawful typeOfCreated world move (step typeOfCreated world move)) {} abandonedTurn := by
  refine ⟨by decide +kernel, one_response_at_a_time typeOfCreated abandonedTurn ?_⟩
  refine ⟨trivial, trivial, trivial, trivial, trivial, ?_, ?_, trivial, ?_, trivial, trivial⟩
  · rintro _ ⟨⟩ -
    exact fun _ current other => (other (Option.some.inj current).symm).elim
  · rintro _ ⟨⟩ -
    exact fun _ => rfl
  · rintro _ ⟨⟩ - -
    exact fun _ => (nomatch ·)

-- The route is reset while the first response is still being read, and its cancellation clears the flag of the second.
def resetTurn : List Move :=
  [.bindRoute 1 0 true, .send turn, .resetRoute, .bindRoute 2 0 true, .send turn, .cancel 0, .callback 0]

theorem reset_turn_interleaves :
    (run (step typeOfCreated) {} resetTurn).writesTo turn = some 1 ∧
      ((run (step typeOfCreated) {} resetTurn).responses 1).map (fun response => (response.conn, response.ended)) = some (1, false) ∧
      ¬Every (step typeOfCreated) (fun world move => Lawful typeOfCreated world move (step typeOfCreated world move)) {}
        (resetTurn ++ [.send turn]) := by
  have writes : (run (step typeOfCreated) {} resetTurn).writesTo turn = some 1 := by decide +kernel
  refine ⟨writes, by decide +kernel, fun lawful => ?_⟩
  obtain ⟨-, last, -⟩ := Every.append.mp lawful
  have ended := last.alone turn 1 rfl writes 1 _ rfl rfl
  cases ended

end CodeGo.Gateway.ResponsesWS
