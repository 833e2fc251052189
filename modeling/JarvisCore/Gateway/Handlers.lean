import JarvisCore.Domain.Models

/-!
The local state of one `device_gateway` handler, and what the handler does from the end of
one await to the next. The handler, its transport and its socket have one number.
-/

namespace JarvisCore.Gateway.Handlers

open JarvisCore.Domain.Values
open JarvisCore.Domain.Errors
open JarvisCore.Domain.Models

inductive Payload
  | hello (capabilities : Finset DeviceCapability)
  | pong (nonce : UUID)
  | update (capabilities : Finset DeviceCapability)
  | result (commandId : UUID) (succeeded : Bool) (output : JsonValue) (error : Option String)

structure Message where
  messageId : UUID
  sessionId : UUID
  payload : Payload

inductive Received
  | message (message : Message)
  /-- `_ProtocolClosed`: the socket has been closed because of the frame. -/
  | protocolClosed
  /-- The `wait_for` around the first one ran out of time. -/
  | timedOut
  | raised (error : Raised)

def messageReplayWindow : Nat := 1024

/-- `seen_ids`, the oldest identifier first, and `seen_id_set`. -/
structure SeenIds where
  ordered : List UUID
  seen : Finset UUID

def SeenIds.empty : SeenIds := ⟨[], ∅⟩

def validateSession (received expected : UUID) : Except Raised Unit :=
  if received ≠ expected then
    .error (.valueError "message session does not match the connection")
  else .ok ()

/-- Appending to a full deque drops its oldest element. -/
def rememberMessage (maxlen : Nat) (messageId : UUID) (ids : SeenIds) : Except Raised SeenIds :=
  if messageId ∈ ids.seen then .error (.valueError "message ID was replayed")
  else
    let seen :=
      match ids.ordered with
      | oldest :: _ => if ids.ordered.length = maxlen then ids.seen.erase oldest else ids.seen
      | [] => ids.seen
    let appended := ids.ordered ++ [messageId]
    .ok ⟨appended.drop (appended.length - maxlen), insert messageId seen⟩

inductive Heartbeat
  | sleeping
  | pinging
  | awaitingPong
  | closing
  | done (outcome : Except Raised Unit)

/-- The await at which a handler is suspended. -/
inductive Stage
  /-- `service.connect_device`, which is a call of the service. -/
  | connecting (call : Nat)
  | sendingHello
  | receivingHello
  /-- `service.activate_device`, for the first message or for a later one. -/
  | activating (call : Nat) (first : Bool)
  | sendingReady
  | receiving
  /-- `capabilities.ack` or `command.result_rejected`. -/
  | replying
  /-- `_protocol_error` sends its message, inside the `try` statement's body or in one of
  its `except` clauses. -/
  | reporting (inBody : Bool)
  /-- `transport.close`, likewise. -/
  | closing (inBody : Bool)
  | awaitingHeartbeat
  | finished
  deriving DecidableEq

/-- `device` is what `authenticate` returned, `heartbeat` the heartbeat task. -/
structure Handler where
  deviceId : UUID
  sessionId : Option UUID
  seenIds : SeenIds
  heartbeatNonce : Option UUID
  heartbeatReceived : Bool
  heartbeat : Option Heartbeat
  stage : Stage

def Handler.accepted (deviceId : UUID) (call : Nat) : Handler where
  deviceId := deviceId
  sessionId := none
  seenIds := .empty
  heartbeatNonce := none
  heartbeatReceived := false
  heartbeat := none
  stage := .connecting call

/-- What a handler that runs does before it suspends again. -/
inductive Reaction
  | await (handler : Handler)
  | close (handler : Handler) (code : Nat) (reason : String)
  /-- It goes on to its `finally` clause. -/
  | leave (handler : Handler)

namespace Handler

def awaitAt (handler : Handler) (stage : Stage) : Reaction := .await { handler with stage }

/-- The `except` clauses. A `ValidationError` and a `JSONDecodeError` are a `ValueError`. -/
def except (handler : Handler) : Raised → Reaction
  | .disconnected | .cancelled => .leave handler
  | .device _ | .valueError _ =>
      match handler.sessionId with
      | some _ => handler.awaitAt (.reporting false)
      | none => .leave handler
  | .typeError _ | .runtimeError _ | .foreign _ =>
      .close { handler with stage := .closing false } 1011 "Internal gateway error"

def afterConnect (handler : Handler) : Except Raised UUID → Reaction
  | .ok sessionId => { handler with sessionId := some sessionId }.awaitAt .sendingHello
  | .error error => handler.except error

def afterActivate (handler : Handler) (first : Bool) (failure : Option Raised) : Reaction :=
  match failure with
  | none => handler.awaitAt (if first then .sendingReady else .replying)
  | some error => handler.except error

def afterSend (handler : Handler) (failure : Option Raised) : Option Reaction :=
  match handler.stage, failure with
  | .sendingHello, none => some (handler.awaitAt .receivingHello)
  | .sendingReady, none => some ({ handler with heartbeat := some .sleeping }.awaitAt .receiving)
  | .replying, none => some (handler.awaitAt .receiving)
  | .sendingHello, some error | .sendingReady, some error | .replying, some error =>
      some (handler.except error)
  -- `_protocol_error` suppresses `RuntimeError` and `WebSocketDisconnect`.
  | .reporting inBody, none | .reporting inBody, some .disconnected
  | .reporting inBody, some (.runtimeError _) =>
      some (.close { handler with stage := .closing inBody } 4400
        "Invalid device protocol message")
  | .reporting inBody, some error =>
      some (if inBody then handler.except error else .leave handler)
  | _, _ => none

def afterClose (handler : Handler) (failure : Option Raised) : Option Reaction :=
  match handler.stage, failure with
  | .closing _, none => some (.leave handler)
  | .closing inBody, some error => some (if inBody then handler.except error else .leave handler)
  | _, _ => none

/-- The checks that every message of the Agent has to pass. -/
def checkMessage (handler : Handler) (sessionId : UUID) (message : Message) :
    Except Raised SeenIds :=
  match validateSession message.sessionId sessionId with
  | .error error => .error error
  | .ok () => rememberMessage messageReplayWindow message.messageId handler.seenIds

end Handler

inductive HeartbeatInput
  | wakes (nonce : UUID)
  | sent (failure : Option Raised)
  | answered
  | timedOut
  | closed (failure : Option Raised)
  | cancelled

/-- The heartbeat task runs. Its `finally` clause cancels it, and then it goes on only to
raise. -/
def Handler.beat (handler : Handler) (input : HeartbeatInput) : Option Handler :=
  let cancelled : Bool := handler.stage = .awaitingHeartbeat
  let next (heartbeat : Heartbeat) : Handler := { handler with heartbeat := some heartbeat }
  match handler.heartbeat, input, cancelled with
  | some .sleeping, .wakes nonce, false =>
      some { next .pinging with heartbeatReceived := false, heartbeatNonce := some nonce }
  | some .pinging, .sent none, false => some (next .awaitingPong)
  | some .pinging, .sent (some error), _ => some (next (.done (.error error)))
  | some .awaitingPong, .answered, false =>
      if handler.heartbeatReceived then some (next .sleeping) else none
  | some .awaitingPong, .timedOut, false => some (next .closing)
  | some .closing, .closed none, false => some (next (.done (.ok ())))
  | some .closing, .closed (some error), _ => some (next (.done (.error error)))
  | some .sleeping, .cancelled, _ | some .pinging, .cancelled, _
  | some .awaitingPong, .cancelled, _ | some .closing, .cancelled, _ =>
      some (next (.done (.error .cancelled)))
  | _, _, _ => none

end JarvisCore.Gateway.Handlers
