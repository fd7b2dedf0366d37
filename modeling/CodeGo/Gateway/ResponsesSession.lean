import CodeGo.Lib.Text
import CodeGo.Lib.Trace
import Mathlib.Data.List.Infix

set_option autoImplicit false

namespace CodeGo.Gateway.ResponsesWS

/- A session that carries one response at a time on an upstream websocket. Each critical section is one
   step; the cancellation callback and the forwarder of a response act on their own. -/

def ssePayload (payload : String) : String := "data: " ++ payload ++ "\n\n"

def terminalTypes : List String :=
  ["response.completed", "response.failed", "response.incomplete", "response.cancelled", "response.canceled", "error"]

-- The type field of an event, for an event that is a JSON object, is decoded elsewhere.
def terminalWebSocketEvent (eventType : String → Option String) (payload : String) : Bool :=
  match eventType payload with
  | none => false
  | some type => terminalTypes.contains type

inductive NativeError where
  | handshake (status : Nat)
  | other (text : String)
deriving DecidableEq, Repr

def disablingStatuses : List Nat := [401, 403, 404, 426]

def unsupportedEndpoint : String := "unsupported responses websocket endpoint"

def shouldDisableNative : NativeError → Bool
  | .handshake status => disablingStatuses.contains status
  | .other text => decide (unsupportedEndpoint.toList <:+: text.toList)

def websocketEndpoint (endpoint : String) : Option String :=
  if Text.hasPrefix "https://" endpoint then some ("wss://" ++ Text.trimPrefix "https://" endpoint)
  else if Text.hasPrefix "http://" endpoint then some ("ws://" ++ Text.trimPrefix "http://" endpoint)
  else none

structure Session where
  conn : Option Nat := none
  channelID : Int := 0
  keyIndex : Int := 0
  bound : Bool := false
  nativeSupported : Bool := false
  nativeDisabled : Bool := false
  inFlight : Bool := false
  replayForbidden : Bool := false
deriving DecidableEq, Repr

def Session.bindRoute (session : Session) (channelID keyIndex : Int) (nativeSupported : Bool) : Session :=
  if channelID ≤ 0 ∨ keyIndex < 0 then session
  else if session.bound = true ∧ (session.channelID ≠ channelID ∨ session.keyIndex ≠ keyIndex) then session
  else { session with channelID := channelID, keyIndex := keyIndex, bound := true, nativeSupported := nativeSupported }

def Session.disableNative (session : Session) : Session := { session with nativeDisabled := true, conn := none }

def Session.resetRoute (_ : Session) : Session := {}

def Session.close (session : Session) : Session :=
  if session.conn.isSome then { session with conn := none, inFlight := false } else session

def Session.closeConnectionIfCurrent (session : Session) (conn : Nat) : Session :=
  if session.conn = some conn then { session with conn := none } else session

def Session.admits (session : Session) : Bool :=
  session.bound && session.nativeSupported && !session.nativeDisabled && !session.replayForbidden && !session.inFlight

-- A call with what the network answers: the refusal of a handshake and the error of the write, if any.
-- The payload is missing where the body cannot be read as a JSON object.
structure Request where
  endpoint : String
  marketplace : Bool := false
  payload : Option String
  refused : Option Nat := none
  writeError : Option String := none
deriving DecidableEq, Repr

def connectionLocked (session : Session) (fresh : Nat) (request : Request) : Except NativeError Nat :=
  match session.conn with
  | some conn => .ok conn
  | none =>
      match websocketEndpoint request.endpoint with
      | none =>
          .error (.other (if request.marketplace then "invalid marketplace upstream websocket address"
            else unsupportedEndpoint ++ ": " ++ request.endpoint))
      | some _ =>
          match request.refused with
          | some status => .error (.handshake status)
          | none => .ok fresh

-- Where the forwarder of a response stands; between a read and the write of what was read it holds an event.
inductive Phase where
  | reading
  | holding (payload : String)
  | leaving
  | stopped
  | done
deriving DecidableEq, Repr

-- The epoch in which the payload was written, the length of what had been read from the connection then
-- and whether the terminal event has been read are kept for the statements only.
structure Response where
  conn : Nat
  payload : String
  phase : Phase := .reading
  cancelled : Bool := false
  fired : Bool := false
  forwardErr : Bool := false
  body : List String := []
  epoch : Nat
  start : Nat
  ended : Bool := false
deriving DecidableEq, Repr

-- The session, the messages read from each connection and the responses so far. An epoch ends with
-- ResetRoute or Close; a route is lost from a failed write or an uncancelled failed read to ResetRoute.
structure World where
  session : Session := {}
  messages : Nat → List String := fun _ => []
  dialled : Nat := 0
  responses : Nat → Option Response := fun _ => none
  sent : Nat := 0
  epoch : Nat := 0
  lost : Bool := false

inductive Move where
  | bindRoute (channelID keyIndex : Int) (nativeSupported : Bool)
  | disableNative
  | resetRoute
  | close
  | send (request : Request)
  | cancel (response : Nat)
  | callback (response : Nat)
  | readMessage (response : Nat) (payload : String)
  | readError (response : Nat) (text : String)
  | forward (response : Nat) (delivered : Bool)
  | stop (response : Nat)
  | finish (response : Nat)
deriving DecidableEq, Repr

def World.put (world : World) (id : Nat) (response : Response) : World :=
  { world with responses := Function.update world.responses id (some response) }

def writeFailed (world : World) (conn : Nat) (text : String) : World :=
  { world with
    session := { world.session with
      conn := none
      replayForbidden := true
      nativeDisabled := world.session.nativeDisabled || shouldDisableNative (.other text) }
    dialled := max world.dialled (conn + 1)
    lost := true }

def written (world : World) (conn : Nat) (payload : String) : World :=
  { world.put world.sent { conn := conn, payload := payload, epoch := world.epoch, start := (world.messages conn).length } with
    session := { world.session with conn := some conn, inFlight := true }
    dialled := max world.dialled (conn + 1)
    sent := world.sent + 1 }

def send (world : World) (request : Request) : World :=
  match request.payload with
  | none => world
  | some payload =>
      if world.session.admits then
        match connectionLocked world.session world.dialled request with
        | .error problem =>
            { world with
              session := { world.session with
                nativeDisabled := world.session.nativeDisabled || shouldDisableNative problem } }
        | .ok conn =>
            match request.writeError with
            | some text => writeFailed world conn text
            | none => written world conn payload
      else world

-- The connection that a call writes its payload to.
def World.writesTo (world : World) (request : Request) : Option Nat :=
  if request.payload.isSome && world.session.admits then (connectionLocked world.session world.dialled request).toOption else none

def callback (world : World) (id : Nat) (response : Response) : World :=
  { world.put id { response with fired := true } with
    session := { world.session.closeConnectionIfCurrent response.conn with inFlight := false } }

def readError (world : World) (id : Nat) (response : Response) (text : String) : World :=
  let session := { world.session with replayForbidden := !response.cancelled }.closeConnectionIfCurrent response.conn
  { world.put id { response with phase := .leaving, forwardErr := true } with
    session := { session with nativeDisabled := session.nativeDisabled || shouldDisableNative (.other text) }
    lost := world.lost || (response.epoch == world.epoch && !response.cancelled) }

-- The cleanup of a forwarder leaves the flag alone when the session has gone on to another connection.
def Session.cleans (session : Session) (conn : Nat) : Bool := session.conn == none || session.conn == some conn

def finish (world : World) (id : Nat) (response : Response) : World :=
  { world.put id { response with phase := .done } with
    session := if world.session.cleans response.conn then { world.session with inFlight := false } else world.session }

section

variable (eventType : String → Option String)

def readMessage (world : World) (id : Nat) (response : Response) (payload : String) : World :=
  { world.put id { response with
      phase := .holding payload
      ended := terminalWebSocketEvent eventType payload } with
    messages := Function.update world.messages response.conn (world.messages response.conn ++ [payload]) }

def forward (world : World) (id : Nat) (response : Response) (payload : String) (delivered : Bool) : World :=
  if delivered then
    world.put id { response with
      body := response.body ++ [ssePayload payload]
      phase := if terminalWebSocketEvent eventType payload then .leaving else .reading }
  else
    { world.put id { response with phase := .leaving, forwardErr := true } with
      session := world.session.closeConnectionIfCurrent response.conn }

def step (world : World) : Move → World
  | .bindRoute channelID keyIndex nativeSupported =>
      { world with session := world.session.bindRoute channelID keyIndex nativeSupported }
  | .disableNative => { world with session := world.session.disableNative }
  | .resetRoute => { world with session := world.session.resetRoute, epoch := world.epoch + 1, lost := false }
  | .close => { world with session := world.session.close, epoch := world.epoch + 1 }
  | .send request => send world request
  | .cancel id =>
      match world.responses id with
      | none => world
      | some response => world.put id { response with cancelled := true }
  | .callback id =>
      match world.responses id with
      | none => world
      | some response =>
          if response.cancelled = true ∧ response.fired = false ∧ response.phase ≠ .stopped ∧ response.phase ≠ .done then
            callback world id response
          else world
  | .readMessage id payload =>
      match world.responses id with
      | none => world
      | some response => if response.phase = .reading then readMessage eventType world id response payload else world
  | .readError id text =>
      match world.responses id with
      | none => world
      | some response => if response.phase = .reading then readError world id response text else world
  | .forward id delivered =>
      match world.responses id with
      | none => world
      | some response =>
          match response.phase with
          | .holding payload => forward eventType world id response payload delivered
          | _ => world
  | .stop id =>
      match world.responses id with
      | none => world
      | some response =>
          -- A callback that the cancellation has started is waited for.
          if response.phase = .leaving ∧ (response.cancelled = true → response.fired = true) then
            world.put id { response with phase := .stopped }
          else world
  | .finish id =>
      match world.responses id with
      | none => world
      | some response => if response.phase = .stopped then finish world id response else world

end

end CodeGo.Gateway.ResponsesWS
