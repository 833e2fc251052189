import JarvisCore.Gateway.Operations
import JarvisCore.Gateway.Transports
import JarvisCore.Protocol.Messages

/-!
The gateway together with the transports of its sockets: the frames that come in, the
jobs that the tasks of the process give to the transports, and how these return to them.
-/

namespace JarvisCore.Gateway.Wire

open JarvisCore.Domain.Values
open JarvisCore.Domain.Errors
open JarvisCore.Domain.Models
open JarvisCore.Foundation.TransitionSystem
open JarvisCore.Manager.Operations (TransportCall)
open JarvisCore.Protocol.Messages (DeviceInboundMessage Runtime deviceMessageAdapter)
open JarvisCore.Security.DeviceTables (sortedValues)
open JarvisCore.Service.Operations (Config Event Value)
open JarvisCore.Gateway.Handlers
open JarvisCore.Gateway.Transports

variable {Digest : Type}

def incoming : DeviceInboundMessage → Message
  | ⟨.deviceHello, m⟩ => ⟨m.messageId, m.sessionId, .hello m.payload.capabilities⟩
  | ⟨.heartbeatPong, m⟩ => ⟨m.messageId, m.sessionId, .pong m.payload.nonce⟩
  | ⟨.capabilitiesUpdate, m⟩ => ⟨m.messageId, m.sessionId, .update m.payload.capabilities⟩
  | ⟨.commandResult, m⟩ =>
      ⟨m.messageId, m.sessionId, .result m.payload.val.commandId m.payload.val.succeeded
        m.payload.val.output (m.payload.val.error.map Subtype.val)⟩

/-- `json.loads` and `device_message_adapter`. -/
def decode (r : Runtime) (loads : String → Option JsonValue) (raw : String) : Option Message :=
  (loads raw).bind fun v => ((deviceMessageAdapter r).read v).map incoming

/-- `decode` is `json.loads` and the adapter of the incoming messages, `encodes` whether
`server_message` accepts the payload of a command. -/
structure Settings where
  heartbeatIntervalSeconds : Nat
  maxMessageBytes : Nat
  decode : String → Option Message
  encodes : DeviceCommand → Bool

inductive Inbound
  | text (raw : String)
  | binary
  | disconnect

/-- The code with which `_receive_message` closes the socket itself. -/
def Inbound.refusal (settings : Settings) : Inbound → Option Nat
  | .text raw => if settings.maxMessageBytes < raw.utf8ByteSize then some 1009 else none
  | .binary => some 1003
  | .disconnect => none

/-- `_receive_message`. The close of the socket may raise in turn. -/
def receiveMessage (settings : Settings) (event : Inbound) (closing : Option Raised) : Received :=
  match event.refusal settings, event with
  | some _, _ =>
      match closing with
      | none => .protocolClosed
      | some error => .raised error
  | none, .text raw =>
      match settings.decode raw with
      | some message => .message message
      | none => .raised (.valueError "Message does not match the device protocol")
  | none, _ => .raised .disconnected

/-- `gathered` are the tasks that `asyncio.gather` has made for `close_all` and that have
not begun. -/
structure State (config : Config Digest) where
  gateway : Operations.State config
  transports : Nat → Transport
  gathered : List (Nat × Job)

variable {config : Config Digest}

def State.initial (config : Config Digest) : State config where
  gateway := .initial config
  transports := fun _ => .fresh
  gathered := []

/-- The answer of the service that an activated handler goes on with. -/
def effectiveOf (g : Operations.State config) (before : Handlers.Stage) : List String :=
  match Operations.awaitedCall before with
  | none => []
  | some x =>
      match g.service.calls x with
      | some ⟨_, .finished (.ok (.capabilities effective))⟩ => sortedValues effective
      | _ => []

def rejection : Operations.Action config → ServerPayload
  | .received _ _ (.message ⟨_, _, .result commandId _ _ _⟩) _ _ =>
      .commandResultRejected commandId "command_is_not_pending"
  | _ => .protocolError "" ""

def sentPayload (settings : Settings) (g : Operations.State config)
    (action : Operations.Action config) (before : Handlers.Stage) (handler : Handler) :
    Option ServerPayload :=
  match handler.stage with
  | .sendingHello =>
      some (.serverHello handler.deviceId settings.heartbeatIntervalSeconds
        settings.maxMessageBytes)
  | .sendingReady => some (.serverReady handler.deviceId (effectiveOf g before))
  | .replying =>
      match before with
      | .activating _ _ => some (.capabilitiesAck (effectiveOf g before))
      | _ => some (rejection action)
  | .reporting true =>
      some (.protocolError "device_hello_required" "device.hello must be the first message")
  | .reporting false =>
      some (.protocolError "invalid_message" "Message does not match the device protocol")
  | _ => none

/-- The close that a handler or its heartbeat task asks for in a step. -/
def closeRequest (h : Nat) (events : List (Event Digest)) : Option Job :=
  events.reverse.findSome? fun event =>
    match event with
    | .transport (.close transport code reason) =>
        if transport = h then some (.close code reason) else none
    | _ => none

def handlerJob (settings : Settings) (g : Operations.State config)
    (action : Operations.Action config) (events : List (Event Digest)) (h : Nat)
    (before after : Handler) : Option Job :=
  if after.stage = before.stage then none
  else
    match after.stage with
    | .closing _ => closeRequest h events
    | _ =>
        match sentPayload settings g action before.stage after, after.sessionId with
        | some payload, some sessionId => some (.send ⟨sessionId, payload⟩)
        | _, _ => none

def heartbeatJob (events : List (Event Digest)) (h : Nat) (before after : Handler) : Option Job :=
  match before.heartbeat, after.heartbeat, after.sessionId, after.heartbeatNonce with
  | some .sleeping, some .pinging, some sessionId, some nonce =>
      some (.send ⟨sessionId, .heartbeatPing nonce⟩)
  | some .awaitingPong, some .closing, _, _ => closeRequest h events
  | _, _, _, _ => none

/-- The call that a task of the service makes on transport `h`. -/
def serviceJob (h : Nat) (inner : Service.Operations.Action config) :
    Event Digest → Option (Writer × Job)
  | .transport (.sendCommand x transport command sessionId) =>
      if transport = h then some (.command x, .send ⟨sessionId, .commandExecute command⟩) else none
  | .transport (.close transport code reason) =>
      match inner with
      | .proceed x _ => if transport = h then some (.closing x, .close code reason) else none
      | _ => none
  | .pairing _ => none

def closeOf : Event Digest → Option (Nat × Job)
  | .transport (.close transport code reason) => some (transport, .close code reason)
  | _ => none

/-- The tasks that `close_all` makes; they begin later. -/
def gather [DecidableEq Digest] (s : State config) (action : Operations.Action config) :
    List (Nat × Job) :=
  match action with
  | .service (.connections .closeAll) =>
      match Operations.serve s.gateway (.connections .closeAll) with
      | some (_, served) => served.filterMap closeOf
      | none => []
  | _ => []

/-- The jobs that transport `h` is given by the service, without the handler's doing. -/
def serviceRequests [DecidableEq Digest] (s : State config) (action : Operations.Action config)
    (h : Nat) : List (Writer × Job) :=
  match action with
  | .service inner =>
      match Operations.serve s.gateway inner with
      | some (_, served) => served.filterMap (serviceJob h inner)
      | none => []
  | _ => []

def handlerRequests (settings : Settings) (s : State config) (action : Operations.Action config)
    (g : Operations.State config) (events : List (Event Digest)) (h : Nat) :
    List (Writer × Job) :=
  match s.gateway.handlers h, g.handlers h with
  | some before, some after =>
      ((handlerJob settings g action events h before after).map fun job => (.handler, job)).toList ++
        ((heartbeatJob events h before after).map fun job => (.heartbeat, job)).toList
  | _, _ => []

def requests [DecidableEq Digest] (settings : Settings) (s : State config)
    (action : Operations.Action config) (g : Operations.State config)
    (events : List (Event Digest)) (h : Nat) : List (Writer × Job) :=
  serviceRequests s action h ++ handlerRequests settings s action g events h

def requestAll (encodes : DeviceCommand → Bool) (t : Transport) (jobs : List (Writer × Job)) :
    Transport :=
  jobs.foldl (fun t r => t.request encodes r.1 r.2) t

/-- A step of the gateway, and the jobs that it gives to the transports. -/
def advance [DecidableEq Digest] (settings : Settings) (s : State config)
    (action : Operations.Action config) : Option (State config) :=
  match Operations.step s.gateway action with
  | none => none
  | some (gateway, events) =>
      some
        { gateway
          transports := fun h =>
            requestAll settings.encodes (s.transports h)
              (requests settings s action gateway events h)
          gathered := s.gathered ++ gather s action }

/-- The steps of the gateway in which no socket takes part. -/
def direct (g : Operations.State config) : Operations.Action config → Bool
  | .sent _ _ | .closed _ _ => false
  | .received _ _ .timedOut _ _ => true
  | .received _ _ (.raised error) _ _ =>
      match error with
      | .runtimeError _ | .foreign _ | .cancelled | .disconnected => true
      | _ => false
  | .received _ _ _ _ _ => false
  | .heartbeat _ (.sent _) | .heartbeat _ (.closed _) => false
  | .heartbeat h .cancelled =>
      match g.handlers h with
      | some handler =>
          match handler.heartbeat with
          | some .sleeping | some .awaitingPong => true
          | _ => false
      | none => false
  | .service (.connections (.completeSend _ _ _)) | .service (.endClose _ _) => false
  | _ => true

/-- How the task of a job goes on when its call has returned or raised. -/
def continuation (h : Nat) (writer : Writer) (job : Job) (failure : Option Raised)
    (now : AwareDatetime) : Option (Operations.Action config) :=
  match writer, job with
  | .handler, .send _ => some (.sent h failure)
  | .handler, .close _ _ => some (.closed h failure)
  | .heartbeat, .send _ => some (.heartbeat h (.sent failure))
  | .heartbeat, .close _ _ => some (.heartbeat h (.closed failure))
  | .command x, _ => some (.service (.connections (.completeSend x failure now)))
  | .closing x, _ => some (.service (.endClose x failure))
  | .shutdown, _ => none

inductive Action (config : Config Digest)
  | internal (action : Operations.Action config)
  | inbound (handler call : Nat) (event : Inbound) (closing : Option Raised) (clock : Datetime)
      (now : AwareDatetime)
  /-- A job that waits for the lock of a transport runs again. -/
  | resume (handler job : Nat)
  | cancel (handler job : Nat)
  /-- The socket has dealt with the job that holds the lock. -/
  | complete (handler job : Nat) (failure : Option Raised)
  /-- The task of a job goes on. -/
  | returned (handler job : Nat) (now : AwareDatetime)
  /-- The next task of `close_all` begins. -/
  | begins
  /-- The next task of `close_all` is cancelled before it begins. -/
  | cancelNext

def State.setTransport (s : State config) (h : Nat) (t : Transport) : State config :=
  { s with transports := Function.update s.transports h t }

variable [DecidableEq Digest]

def step (settings : Settings) (s : State config) : Action config → Option (State config)
  | .internal action => if direct s.gateway action then advance settings s action else none
  | .inbound h x event closing clock now =>
      let t := s.transports h
      let closes := t.closes ++ (event.refusal settings).toList
      advance settings (s.setTransport h { t with closes })
        (.received h x (receiveMessage settings event closing) clock now)
  | .resume h j => ((s.transports h).resume settings.encodes j).map (s.setTransport h)
  | .cancel h j => ((s.transports h).cancel j).map (s.setTransport h)
  | .complete h j failure => ((s.transports h).complete j failure).map (s.setTransport h)
  | .returned h j now =>
      match (s.transports h).tasks j with
      | some ⟨writer, job, .done failure⟩ =>
          let s := s.setTransport h ((s.transports h).clear j)
          match continuation h writer job failure now with
          | some action => advance settings s action
          | none => some s
      | _ => none
  | .begins =>
      match s.gathered with
      | (h, job) :: gathered =>
          some (State.setTransport { s with gathered } h
            ((s.transports h).request settings.encodes .shutdown job))
      | [] => none
  | .cancelNext =>
      match s.gathered with
      | _ :: gathered => some { s with gathered }
      | [] => none

def wire (config : Config Digest) (settings : Settings) :
    System (State config) (Action config) Empty where
  start := .initial config
  step s action := (step settings s action).map fun t => (t, [])

end JarvisCore.Gateway.Wire
