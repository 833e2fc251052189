import Mathlib.Data.Finset.Card
import JarvisCore.Foundation.Text
import JarvisCore.Protocol.Json

namespace JarvisCore.Protocol.Messages

open JarvisCore.Domain.Values
open JarvisCore.Foundation.Schema
open JarvisCore.Foundation.Text
open JarvisCore.Protocol.Json

/-- What the validation and the dump take from the libraries. `setOrder` is the order in
which a set is iterated. -/
structure Runtime where
  parseUuid : String → Option UUID
  setOrder : Finset DeviceCapability → List DeviceCapability
  fromisoformat : String → Option Datetime
  parseUuid_text : ∀ u : UUID, parseUuid u.text = some u
  toFinset_setOrder : ∀ s, (setOrder s).toFinset = s

def uuid (r : Runtime) : Format JsonValue UUID := string.refine r.parseUuid UUID.text r.parseUuid_text

def capabilityOf? (value : String) : Option DeviceCapability :=
  [DeviceCapability.openApp, .files, .system].find? fun c => c.value = value

theorem capabilityOf?_value (c : DeviceCapability) : capabilityOf? c.value = some c := by
  cases c <;> rfl

def capability : Format JsonValue DeviceCapability :=
  string.refine capabilityOf? DeviceCapability.value capabilityOf?_value

/-- `list[DeviceCapability]`. -/
def capabilityList : Format JsonValue (List DeviceCapability) := Format.list array capability

/-- `Field(max_length=32)` counts the elements of the set, not of the array. -/
abbrev CapabilitySet : Type := { s : Finset DeviceCapability // s.card ≤ 32 }

/-- `set[DeviceCapability]`. -/
def capabilitySet (r : Runtime) : Format JsonValue CapabilitySet :=
  (capabilityList.refine (fun l => some l.toFinset) r.setOrder
    fun s => congrArg some (r.toFinset_setOrder s)).guard fun s => s.card ≤ 32

/-- `Annotated[StrictInt, Field(ge=1, le=1)]`. -/
abbrev ProtocolVersion : Type := { n : Int // 1 ≤ n ∧ n ≤ 1 }

def protocolVersion : Format JsonValue ProtocolVersion := int.guard fun n => 1 ≤ n ∧ n ≤ 1

abbrev PositiveInteger : Type := { n : Int // 0 < n }

def positiveInteger : Format JsonValue PositiveInteger := int.guard fun n => 0 < n

abbrev PositiveNumber : Type := { n : { n : Number // n.finite } // n.val.positive }

def positiveNumber : Format JsonValue PositiveNumber := number.guard fun n => n.val.positive

/-- `value.replace("Z", "+00:00")`. -/
def replaceZulu (value : String) : String :=
  String.ofList (value.toList.flatMap fun c => if c = 'Z' then "+00:00".toList else [c])

/-- `_parse_wire_timestamp`; `none` where it raises. -/
def parseWireTimestamp (r : Runtime) (value : String) : Option AwareDatetime :=
  (r.fromisoformat (replaceZulu value)).bind Datetime.toAware?

/-- The validated text, which is kept as it is. -/
abbrev WireTimestamp (r : Runtime) : Type := { value : String // (parseWireTimestamp r value).isSome }

def WireTimestamp.time {r : Runtime} (t : WireTimestamp r) : AwareDatetime :=
  (parseWireTimestamp r t.val).get t.property

def wireTimestamp (r : Runtime) : Format JsonValue (WireTimestamp r) :=
  string.guard fun value => (parseWireTimestamp r value).isSome

def isAsciiLetter (c : Char) : Bool := ('a' ≤ c && c ≤ 'z') || ('A' ≤ c && c ≤ 'Z')

def isAsciiDigit (c : Char) : Bool := '0' ≤ c && c ≤ '9'

/-- `^[a-zA-Z][a-zA-Z0-9_.-]*$`. -/
def actionPattern (action : String) : Bool :=
  match action.toList with
  | [] => false
  | first :: rest =>
      isAsciiLetter first &&
        rest.all fun c => isAsciiLetter c || isAsciiDigit c || c = '_' || c = '.' || c = '-'

abbrev Action : Type := { action : BoundedString 1 80 // actionPattern action.val }

def action : Format JsonValue Action := (boundedString 1 80).guard fun a => actionPattern a.val

section Payloads

structure DeviceHelloPayload where
  agent : BoundedString 1 80
  version : BoundedString 1 40
  platform : BoundedString 1 80
  capabilities : CapabilitySet

def deviceHelloPayload (r : Runtime) : Fields JsonValue DeviceHelloPayload :=
  Fields.field "agent" (boundedString 1 80)
    |>.and (Fields.field "version" (boundedString 1 40))
    |>.and (Fields.field "platform" (boundedString 1 80))
    |>.and (Fields.field "capabilities" (capabilitySet r))
    |>.refine (fun (((agent, version), platform), capabilities) =>
        some { agent, version, platform, capabilities })
      (fun p => (((p.agent, p.version), p.platform), p.capabilities)) fun _ => rfl

/-- Of `heartbeat.pong` and of `heartbeat.ping`. -/
structure HeartbeatPayload where
  nonce : UUID

def heartbeatPayload (r : Runtime) : Fields JsonValue HeartbeatPayload :=
  (Fields.field "nonce" (uuid r)).refine (fun nonce => some { nonce }) (fun p => p.nonce)
    fun _ => rfl

def heartbeatPongPayload (r : Runtime) : Fields JsonValue HeartbeatPayload := heartbeatPayload r

structure CapabilitiesUpdatePayload where
  capabilities : CapabilitySet

def capabilitiesUpdatePayload (r : Runtime) : Fields JsonValue CapabilitiesUpdatePayload :=
  (Fields.field "capabilities" (capabilitySet r)).refine
    (fun capabilities => some { capabilities }) (fun p => p.capabilities) fun _ => rfl

/-- The fields of a result before `validate_outcome`. -/
structure CommandResultFields where
  commandId : UUID
  succeeded : Bool
  output : { v : JsonValue // Finite v }
  error : Option (BoundedString 0 2000)

/-- `validate_outcome`: an absent text and a blank one count alike in
`not (self.error and self.error.strip())`. -/
def CommandResultFields.ValidOutcome (p : CommandResultFields) : Prop :=
  (p.succeeded = true → p.error = none) ∧
    (p.succeeded = false → strip ((p.error.map Subtype.val).getD "") ≠ "")

instance (p : CommandResultFields) : Decidable p.ValidOutcome := by
  unfold CommandResultFields.ValidOutcome
  have : Decidable (p.error = none) := decidable_of_iff _ Option.isNone_iff_eq_none
  infer_instance

abbrev CommandResultPayload : Type := { p : CommandResultFields // p.ValidOutcome }

def commandResultPayload (r : Runtime) : Fields JsonValue CommandResultPayload :=
  Fields.field "command_id" (uuid r)
    |>.and (Fields.field "succeeded" bool)
    |>.and (Fields.fieldWithDefault "output" jsonValue ⟨.null, rfl⟩)
    |>.and (Fields.fieldWithDefault "error" (orNull (boundedString 0 2000) fun _ => rfl) none)
    |>.refine (fun (((commandId, succeeded), output), error) =>
        some { commandId, succeeded, output, error })
      (fun p => (((p.commandId, p.succeeded), p.output), p.error)) (fun _ => rfl)
    |>.guard CommandResultFields.ValidOutcome

structure ServerHelloPayload where
  deviceId : UUID
  heartbeatIntervalSeconds : PositiveNumber
  maxMessageBytes : PositiveInteger

def serverHelloPayload (r : Runtime) : Fields JsonValue ServerHelloPayload :=
  Fields.field "device_id" (uuid r)
    |>.and (Fields.field "heartbeat_interval_seconds" positiveNumber)
    |>.and (Fields.field "max_message_bytes" positiveInteger)
    |>.refine (fun ((deviceId, heartbeatIntervalSeconds), maxMessageBytes) =>
        some { deviceId, heartbeatIntervalSeconds, maxMessageBytes })
      (fun p => ((p.deviceId, p.heartbeatIntervalSeconds), p.maxMessageBytes)) fun _ => rfl

structure ServerReadyPayload where
  deviceId : UUID
  effectiveCapabilities : List DeviceCapability

def serverReadyPayload (r : Runtime) : Fields JsonValue ServerReadyPayload :=
  Fields.field "device_id" (uuid r)
    |>.and (Fields.field "effective_capabilities" capabilityList)
    |>.refine (fun (deviceId, effectiveCapabilities) => some { deviceId, effectiveCapabilities })
      (fun p => (p.deviceId, p.effectiveCapabilities)) fun _ => rfl

def heartbeatPingPayload (r : Runtime) : Fields JsonValue HeartbeatPayload := heartbeatPayload r

structure CapabilitiesAckPayload where
  effectiveCapabilities : List DeviceCapability

def capabilitiesAckPayload : Fields JsonValue CapabilitiesAckPayload :=
  (Fields.field "effective_capabilities" capabilityList).refine
    (fun effectiveCapabilities => some { effectiveCapabilities })
    (fun p => p.effectiveCapabilities) fun _ => rfl

/-- The fields of a command before `validate_deadline`. -/
structure CommandExecuteFields (r : Runtime) where
  commandId : UUID
  capability : DeviceCapability
  action : Action
  arguments : { fields : List (String × JsonValue) // finiteFields fields }
  issuedAt : WireTimestamp r
  deadlineAt : WireTimestamp r

def CommandExecuteFields.ValidDeadline {r : Runtime} (p : CommandExecuteFields r) : Prop :=
  p.issuedAt.time.instant < p.deadlineAt.time.instant

instance {r : Runtime} (p : CommandExecuteFields r) : Decidable p.ValidDeadline :=
  inferInstanceAs (Decidable (_ < _))

abbrev CommandExecutePayload (r : Runtime) : Type :=
  { p : CommandExecuteFields r // p.ValidDeadline }

def commandExecutePayload (r : Runtime) : Fields JsonValue (CommandExecutePayload r) :=
  Fields.field "command_id" (uuid r)
    |>.and (Fields.field "capability" capability)
    |>.and (Fields.field "action" action)
    |>.and (Fields.field "arguments" jsonObject)
    |>.and (Fields.field "issued_at" (wireTimestamp r))
    |>.and (Fields.field "deadline_at" (wireTimestamp r))
    |>.refine (fun (((((commandId, capability), action), arguments), issuedAt), deadlineAt) =>
        some { commandId, capability, action, arguments, issuedAt, deadlineAt })
      (fun p => (((((p.commandId, p.capability), p.action), p.arguments), p.issuedAt),
        p.deadlineAt)) (fun _ => rfl)
    |>.guard CommandExecuteFields.ValidDeadline

/-- The reason is a literal. -/
structure CommandResultRejectedPayload where
  commandId : UUID

def commandResultRejectedPayload (r : Runtime) : Fields JsonValue CommandResultRejectedPayload :=
  Fields.field "command_id" (uuid r)
    |>.and (Fields.field "reason" (string.literal "command_is_not_pending"))
    |>.refine (fun (commandId, _) => some { commandId }) (fun p => (p.commandId, ())) fun _ => rfl

inductive ErrorCode
  | deviceHelloRequired
  | invalidMessage

def ErrorCode.value : ErrorCode → String
  | .deviceHelloRequired => "device_hello_required"
  | .invalidMessage => "invalid_message"

def errorCodeOf? (value : String) : Option ErrorCode :=
  [ErrorCode.deviceHelloRequired, .invalidMessage].find? fun c => c.value = value

def errorCode : Format JsonValue ErrorCode :=
  string.refine errorCodeOf? ErrorCode.value (by intro c; cases c <;> rfl)

structure ProtocolErrorPayload where
  code : ErrorCode
  detail : BoundedString 1 2000

def protocolErrorPayload : Fields JsonValue ProtocolErrorPayload :=
  Fields.field "code" errorCode
    |>.and (Fields.field "detail" (boundedString 1 2000))
    |>.refine (fun (code, detail) => some { code, detail }) (fun p => (p.code, p.detail))
      fun _ => rfl

end Payloads

section Envelopes

/-- The type is a literal of each message class. -/
structure Envelope (Payload : Type) where
  v : ProtocolVersion
  messageId : UUID
  sessionId : UUID
  payload : Payload

variable {Payload : Type}

def envelope (r : Runtime) (type : String) (payload : Fields JsonValue Payload) :
    Fields JsonValue (Envelope Payload) :=
  Fields.field "v" protocolVersion
    |>.and (Fields.field "type" (string.literal type))
    |>.and (Fields.field "message_id" (uuid r))
    |>.and (Fields.field "session_id" (uuid r))
    |>.and (Fields.field "payload" (payload.record object))
    |>.refine (fun ((((v, _), messageId), sessionId), payload) =>
        some { v, messageId, sessionId, payload })
      (fun m => ((((m.v, ()), m.messageId), m.sessionId), m.payload)) fun _ => rfl

theorem lookup_type (r : Runtime) (type : String) (payload : Fields JsonValue Payload)
    (m : Envelope Payload) :
    ((envelope r type payload).write m).lookup "type" = some (string.write type) := rfl

end Envelopes

inductive ClientMessageType
  | deviceHello
  | heartbeatPong
  | capabilitiesUpdate
  | commandResult

/-- `CLIENT_MESSAGE_TYPES`. -/
def ClientMessageType.value : ClientMessageType → String
  | .deviceHello => "device.hello"
  | .heartbeatPong => "heartbeat.pong"
  | .capabilitiesUpdate => "capabilities.update"
  | .commandResult => "command.result"

inductive ServerMessageType
  | serverHello
  | serverReady
  | heartbeatPing
  | capabilitiesAck
  | commandExecute
  | commandResultRejected
  | protocolError

/-- `SERVER_MESSAGE_TYPES`. -/
def ServerMessageType.value : ServerMessageType → String
  | .serverHello => "server.hello"
  | .serverReady => "server.ready"
  | .heartbeatPing => "heartbeat.ping"
  | .capabilitiesAck => "capabilities.ack"
  | .commandExecute => "command.execute"
  | .commandResultRejected => "command.result_rejected"
  | .protocolError => "protocol.error"

def clientTypes : List ClientMessageType :=
  [.deviceHello, .heartbeatPong, .capabilitiesUpdate, .commandResult]

def serverTypes : List ServerMessageType :=
  [.serverHello, .serverReady, .heartbeatPing, .capabilitiesAck, .commandExecute,
    .commandResultRejected, .protocolError]

def clientType : Format JsonValue ClientMessageType :=
  string.refine (fun value => clientTypes.find? fun t => t.value = value) ClientMessageType.value
    (by intro t; cases t <;> rfl)

def serverType : Format JsonValue ServerMessageType :=
  string.refine (fun value => serverTypes.find? fun t => t.value = value) ServerMessageType.value
    (by intro t; cases t <;> rfl)

def ClientPayload : ClientMessageType → Type
  | .deviceHello => DeviceHelloPayload
  | .heartbeatPong => HeartbeatPayload
  | .capabilitiesUpdate => CapabilitiesUpdatePayload
  | .commandResult => CommandResultPayload

def clientPayload (r : Runtime) : (t : ClientMessageType) → Fields JsonValue (ClientPayload t)
  | .deviceHello => deviceHelloPayload r
  | .heartbeatPong => heartbeatPongPayload r
  | .capabilitiesUpdate => capabilitiesUpdatePayload r
  | .commandResult => commandResultPayload r

def ServerPayload (r : Runtime) : ServerMessageType → Type
  | .serverHello => ServerHelloPayload
  | .serverReady => ServerReadyPayload
  | .heartbeatPing => HeartbeatPayload
  | .capabilitiesAck => CapabilitiesAckPayload
  | .commandExecute => CommandExecutePayload r
  | .commandResultRejected => CommandResultRejectedPayload
  | .protocolError => ProtocolErrorPayload

def serverPayload (r : Runtime) : (t : ServerMessageType) → Fields JsonValue (ServerPayload r t)
  | .serverHello => serverHelloPayload r
  | .serverReady => serverReadyPayload r
  | .heartbeatPing => heartbeatPingPayload r
  | .capabilitiesAck => capabilitiesAckPayload
  | .commandExecute => commandExecutePayload r
  | .commandResultRejected => commandResultRejectedPayload r
  | .protocolError => protocolErrorPayload

abbrev DeviceInboundMessage : Type := Σ t, Envelope (ClientPayload t)

abbrev DeviceOutboundMessage (r : Runtime) : Type := Σ t, Envelope (ServerPayload r t)

/-- `device_message_adapter`, and `model_dump(mode="json")` of what it returns. -/
def deviceMessageAdapter (r : Runtime) : Format JsonValue DeviceInboundMessage :=
  tagged object clientType "type" (fun t => envelope r t.value (clientPayload r t))
    fun t => lookup_type r t.value (clientPayload r t)

/-- `server_message_adapter`, and `model_dump(mode="json")` of what it returns. -/
def serverMessageAdapter (r : Runtime) : Format JsonValue (DeviceOutboundMessage r) :=
  tagged object serverType "type" (fun t => envelope r t.value (serverPayload r t))
    fun t => lookup_type r t.value (serverPayload r t)

/-- `server_message`; the identifiers are given in their canonical text. -/
def serverMessage (r : Runtime) (type : ServerMessageType) (messageId sessionId : UUID)
    (payload : JsonValue) : Option JsonValue :=
  ((serverMessageAdapter r).read (.object
    [("v", .int 1), ("type", .string type.value), ("message_id", .string messageId.text),
      ("session_id", .string sessionId.text), ("payload", payload)])).map
    (serverMessageAdapter r).write

end JarvisCore.Protocol.Messages
