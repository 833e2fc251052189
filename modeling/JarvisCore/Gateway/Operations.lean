import JarvisCore.Gateway.Handlers
import JarvisCore.Service.CallSteps

/-!
The `device_gateway` handlers of one process over the service. Handler, transport and
`authenticate` call of a socket have the same number. How an await on a socket ends is an
input of the step that follows it; a handler that does not suspend goes on in the same step.
-/

namespace JarvisCore.Gateway.Operations

open JarvisCore.Domain.Values
open JarvisCore.Domain.Errors
open JarvisCore.Domain.Models
open JarvisCore.Foundation.TransitionSystem
open JarvisCore.Manager.Operations (TransportCall LiveConnection disconnect touch resolve)
open JarvisCore.Service.Operations (Config Request Value Inputs Event)
open JarvisCore.Service.CallSteps (callOf)
open JarvisCore.Gateway.Handlers

variable {Digest : Type}

/-- `owners` tells which handler awaits a call of the service, `issued` the session
identifiers that `uuid4` has yielded. -/
structure State (config : Config Digest) where
  service : Service.Operations.State config
  handlers : Nat → Option Handler
  owners : Nat → Option Nat
  issued : List UUID

variable {config : Config Digest}

abbrev Result (config : Config Digest) := State config × List (Event Digest)

namespace State

def initial (config : Config Digest) : State config where
  service := .initial config
  handlers := fun _ => none
  owners := fun _ => none
  issued := []

def setHandler (s : State config) (h : Nat) (handler : Handler) : State config :=
  { s with handlers := Function.update s.handlers h (some handler) }

@[simp] theorem setHandler_self (s : State config) (h : Nat) (handler : Handler) :
    (s.setHandler h handler).handlers h = some handler :=
  Function.update_self _ _ _

theorem setHandler_of_ne {s : State config} {h h' : Nat} (handler : Handler) (hne : h' ≠ h) :
    (s.setHandler h handler).handlers h' = s.handlers h' :=
  Function.update_of_ne hne _ _

theorem setHandler_cases {s : State config} {h h' : Nat} {handler handler' : Handler}
    (hhandler : (s.setHandler h handler).handlers h' = some handler') :
    (h' = h ∧ handler' = handler) ∨ (h' ≠ h ∧ s.handlers h' = some handler') := by
  by_cases hh : h' = h
  · subst hh
    rw [setHandler_self] at hhandler
    exact .inl ⟨rfl, (Option.some.inj hhandler).symm⟩
  · rw [setHandler_of_ne handler hh] at hhandler
    exact .inr ⟨hh, hhandler⟩

def withManager (s : State config) (manager : Manager.Operations.State) : State config :=
  { s with service := { s.service with manager } }

end State

/-- `disconnect_device_session`, after which the handler is over. -/
def disconnectSession (s : State config) (h : Nat) (handler : Handler) : State config :=
  let s := s.setHandler h { handler with stage := .finished }
  match handler.sessionId with
  | none => s
  | some sessionId => s.withManager (disconnect s.service.manager handler.deviceId sessionId).1

/-- The heartbeat task is over. Its cancellation is suppressed; any other exception of it
leaves the `finally` clause at once. -/
def joinHeartbeat (s : State config) (h : Nat) (handler : Handler) (outcome : Except Raised Unit) :
    State config :=
  match outcome with
  | .ok () => disconnectSession s h handler
  | .error error =>
      if error.isException then s.setHandler h { handler with stage := .finished }
      else disconnectSession s h handler

def finallyClause (s : State config) (h : Nat) (handler : Handler) : State config :=
  match handler.heartbeat with
  | none => disconnectSession s h handler
  | some (.done outcome) => joinHeartbeat s h handler outcome
  | some _ => s.setHandler h { handler with stage := .awaitingHeartbeat }

def react (s : State config) (h : Nat) : Reaction → Result config
  | .await handler => (s.setHandler h handler, [])
  | .close handler code reason => (s.setHandler h handler, [.transport (.close h code reason)])
  | .leave handler => (finallyClause s h handler, [])

def onHandler (s : State config) (h : Nat) (f : Handler → Option (Result config)) :
    Option (Result config) :=
  match s.handlers h with
  | some handler => f handler
  | none => none

/-- The call of the service that the handler awaits has ended. -/
def resumed (handler : Handler) (outcome : Except Raised Value) : Option Reaction :=
  match handler.stage, outcome with
  | .connecting _, .ok (.session sessionId) => some (handler.afterConnect (.ok sessionId))
  | .connecting _, .error error => some (handler.afterConnect (.error error))
  | .activating _ first, .ok _ => some (handler.afterActivate first none)
  | .activating _ first, .error error => some (handler.afterActivate first (some error))
  | _, _ => none

def awaitedCall : Handlers.Stage → Option Nat
  | .connecting x | .activating x _ => some x
  | _ => none

/-- The handler that goes on because a step of the service has ended the call it awaits. -/
def resumption (s : State config) (action : Service.Operations.Action config) :
    Option (Nat × Reaction) :=
  match callOf action with
  | none => none
  | some x =>
      match s.owners x, s.service.calls x with
      | some h, some ⟨_, .finished outcome⟩ =>
          match s.handlers h with
          | some handler =>
              if awaitedCall handler.stage = some x then
                (resumed handler outcome).map fun reaction => (h, reaction)
              else none
          | none => none
      | _, _ => none

/-- What happens to the service without a handler's doing. Only handlers connect, activate
and use a session, and `uuid4` yields no identifier twice. -/
def permitted (s : State config) : Service.Operations.Action config → Bool
  | .start _ (.connectDevice _ _) | .start _ (.activateDevice _ _ _) => false
  | .connections (.touch _ _ _) | .connections (.disconnect _ _) | .connections (.resolve _ _ _) =>
      false
  | .proceed _ inputs => inputs.sessionId ∉ s.issued
  | _ => true

def issuedBy : Service.Operations.Action config → List UUID
  | .proceed _ inputs => [inputs.sessionId]
  | _ => []

inductive Action (config : Config Digest)
  | service (action : Service.Operations.Action config)
  | accept (handler call : Nat)
  | sent (handler : Nat) (failure : Option Raised)
  /-- `call` numbers the call of the service that the handler may make. -/
  | received (handler call : Nat) (received : Received) (clock : Datetime) (now : AwareDatetime)
  | closed (handler : Nat) (failure : Option Raised)
  | heartbeat (handler : Nat) (input : HeartbeatInput)
  /-- The heartbeat task that the handler awaits is over. -/
  | joined (handler : Nat)

variable [DecidableEq Digest]

def serve (s : State config) (action : Service.Operations.Action config) : Option (Result config) :=
  if permitted s action then
    match Service.Operations.step s.service action with
    | some (service, events) => some ({ s with service, issued := issuedBy action ++ s.issued }, events)
    | none => none
  else none

/-- A handler calls the service and awaits it. -/
def callService (s : State config) (h : Nat) (handler : Handler) (x : Nat) (request : Request) :
    Option (Result config) :=
  match Service.Operations.step s.service (.start x request) with
  | some (service, events) =>
      some (State.setHandler { s with service, owners := Function.update s.owners x (some h) } h
        handler, events)
  | none => none

def accept (s : State config) (h x : Nat) : Option (Result config) :=
  match s.handlers h, s.service.calls h with
  | none, some ⟨.authenticate _, .finished (.ok (.device device))⟩ =>
      callService s h (.accepted device.id x) x (.connectDevice device.id h)
  | _, _ => none

def greeted (s : State config) (h : Nat) (handler : Handler) (sessionId : UUID) (x : Nat)
    (message : Message) : Option (Result config) :=
  match message.payload with
  | .hello capabilities =>
      match handler.checkMessage sessionId message with
      | .error error => some (react s h (handler.except error))
      | .ok seenIds =>
          callService s h { handler with seenIds, stage := .activating x true } x
            (.activateDevice handler.deviceId sessionId capabilities)
  | _ => some (react s h (handler.awaitAt (.reporting true)))

def served (s : State config) (h : Nat) (handler : Handler) (sessionId : UUID) (x : Nat)
    (message : Message) (clock : Datetime) (now : AwareDatetime) : Option (Result config) :=
  match handler.checkMessage sessionId message with
  | .error error => some (react s h (handler.except error))
  | .ok seenIds =>
      let handler := { handler with seenIds }
      match message.payload with
      | .pong nonce =>
          if handler.heartbeatNonce = some nonce then
            some (react (s.withManager (touch s.service.manager handler.deviceId sessionId now).1) h
              (.await { handler with heartbeatNonce := none, heartbeatReceived := true }))
          else some (react s h (handler.except (.valueError "unexpected heartbeat nonce")))
      | .update capabilities =>
          callService s h { handler with stage := .activating x false } x
            (.activateDevice handler.deviceId sessionId capabilities)
      | .result commandId succeeded output error =>
          match DeviceCommandResult.make commandId handler.deviceId succeeded output error clock with
          | .error raised => some (react s h (handler.except raised))
          | .ok result =>
              let (manager, resolved) := resolve s.service.manager handler.deviceId sessionId result
              some (react (s.withManager manager) h
                (handler.awaitAt (if resolved then .receiving else .replying)))
      | .hello _ =>
          some (react s h
            (handler.except (.valueError "message is not valid in the ready state")))

def receive (s : State config) (h : Nat) (handler : Handler) (x : Nat) (received : Received)
    (clock : Datetime) (now : AwareDatetime) : Option (Result config) :=
  match handler.stage, handler.sessionId, received with
  | .receivingHello, some sessionId, .message message => greeted s h handler sessionId x message
  | .receiving, some sessionId, .message message =>
      served s h handler sessionId x message clock now
  | .receivingHello, _, .timedOut =>
      some (react s h (.close { handler with stage := .closing true } 4408 "Device hello timed out"))
  | .receivingHello, _, .protocolClosed | .receiving, _, .protocolClosed =>
      some (react s h (.leave handler))
  | .receivingHello, _, .raised error | .receiving, _, .raised error =>
      some (react s h (handler.except error))
  | _, _, _ => none

/-- The heartbeat task runs; it closes the transport itself when a pong stays out. -/
def beat (s : State config) (h : Nat) (handler : Handler) (input : HeartbeatInput) :
    Option (Result config) :=
  match handler.beat input, input with
  | some handler, .timedOut =>
      some (s.setHandler h handler, [.transport (.close h 4408 "Heartbeat timed out")])
  | some handler, _ => some (s.setHandler h handler, [])
  | none, _ => none

def joined (s : State config) (h : Nat) (handler : Handler) : Option (Result config) :=
  match handler.stage, handler.heartbeat with
  | .awaitingHeartbeat, some (.done outcome) => some (joinHeartbeat s h handler outcome, [])
  | _, _ => none

def step (s : State config) : Action config → Option (Result config)
  | .service action =>
      match serve s action with
      | none => none
      | some (s, events) =>
          match resumption s action with
          | none => some (s, events)
          | some (h, reaction) =>
              let (s, reactionEvents) := react s h reaction
              some (s, events ++ reactionEvents)
  | .accept h x => accept s h x
  | .sent h failure => onHandler s h fun handler => (handler.afterSend failure).map (react s h)
  | .received h x received clock now =>
      onHandler s h fun handler => receive s h handler x received clock now
  | .closed h failure => onHandler s h fun handler => (handler.afterClose failure).map (react s h)
  | .heartbeat h input => onHandler s h fun handler => beat s h handler input
  | .joined h => onHandler s h fun handler => joined s h handler

def gateway (config : Config Digest) : System (State config) (Action config) (Event Digest) where
  start := .initial config
  step := step

end JarvisCore.Gateway.Operations
