import JarvisCore.Protocol.Messages
import JarvisCore.Security.Credentials

namespace JarvisCore.Protocol.RoundTrip

open JarvisCore.Domain.Values
open JarvisCore.Foundation.Schema
open JarvisCore.Protocol.Json
open JarvisCore.Protocol.Messages

/-- The fields that a payload must have. -/
def requiredFields : String → List String
  | "device.hello" => ["agent", "version", "platform", "capabilities"]
  | "heartbeat.pong" => ["nonce"]
  | "capabilities.update" => ["capabilities"]
  | "command.result" => ["command_id", "succeeded"]
  | "server.hello" => ["device_id", "heartbeat_interval_seconds", "max_message_bytes"]
  | "server.ready" => ["device_id", "effective_capabilities"]
  | "heartbeat.ping" => ["nonce"]
  | "capabilities.ack" => ["effective_capabilities"]
  | "command.execute" =>
      ["command_id", "capability", "action", "arguments", "issued_at", "deadline_at"]
  | "command.result_rejected" => ["command_id", "reason"]
  | "protocol.error" => ["code", "detail"]
  | _ => []

/-- The fields with a default. -/
def optionalFields : String → List String
  | "command.result" => ["output", "error"]
  | _ => []

/-- An object with the five fields of the envelope and no other, whose payload has the
fields of the shape that `type` selects. -/
structure ClosedMessage (type : String) (v : JsonValue) : Prop where
  shape : ∃ entries payload, v = .object entries ∧
    (entries.map Prod.fst).Perm ["v", "type", "message_id", "session_id", "payload"] ∧
    entries.lookup "v" = some (.int 1) ∧ entries.lookup "type" = some (.string type) ∧
    entries.lookup "payload" = some (.object payload) ∧ (payload.map Prod.fst).Nodup ∧
    (∀ name ∈ requiredFields type, name ∈ payload.map Prod.fst) ∧
    ∀ key ∈ payload.map Prod.fst, key ∈ requiredFields type ∨ key ∈ optionalFields type
  finite : Finite v

section Finiteness

variable (r : Runtime)

theorem admits_uuid : (uuid r).Admits Finite := admits_string.refine _ _ _

theorem admits_capabilityList : capabilityList.Admits Finite :=
  admits_list (admits_string.refine _ _ _)

theorem admits_capabilitySet : (capabilitySet r).Admits Finite :=
  (admits_capabilityList.refine _ _ _).guard _

theorem admits_boundedString (low high : Nat) : (boundedString low high).Admits Finite :=
  admits_string.guard _

theorem admits_capability : capability.Admits Finite := admits_string.refine _ _ _

theorem admits_wireTimestamp : (wireTimestamp r).Admits Finite := admits_string.guard _

theorem admits_heartbeatPayload : (heartbeatPayload r).Admits Finite := by
  unfold heartbeatPayload
  apply Fields.Admits.refine
  exact Fields.admits_field (admits_uuid r) _

theorem admits_commandResultPayload : (commandResultPayload r).Admits Finite := by
  unfold commandResultPayload
  apply Fields.Admits.guard
  apply Fields.Admits.refine
  refine .and (.and (.and ?_ ?_ _) ?_ _) ?_ _
  · exact Fields.admits_field (admits_uuid r) _
  · exact Fields.admits_field admits_bool _
  · exact Fields.admits_fieldWithDefault admits_jsonValue _ _
  · exact Fields.admits_fieldWithDefault (admits_orNull (admits_boundedString 0 2000) _) _ _

theorem admits_clientPayload (t : ClientMessageType) : (clientPayload r t).Admits Finite := by
  cases t with
  | deviceHello =>
      show (deviceHelloPayload r).Admits Finite
      unfold deviceHelloPayload
      apply Fields.Admits.refine
      refine .and (.and (.and ?_ ?_ _) ?_ _) ?_ _
      · exact Fields.admits_field (admits_boundedString 1 80) _
      · exact Fields.admits_field (admits_boundedString 1 40) _
      · exact Fields.admits_field (admits_boundedString 1 80) _
      · exact Fields.admits_field (admits_capabilitySet r) _
  | heartbeatPong => exact admits_heartbeatPayload r
  | capabilitiesUpdate =>
      show (capabilitiesUpdatePayload r).Admits Finite
      unfold capabilitiesUpdatePayload
      apply Fields.Admits.refine
      exact Fields.admits_field (admits_capabilitySet r) _
  | commandResult => exact admits_commandResultPayload r

theorem admits_commandExecutePayload : (commandExecutePayload r).Admits Finite := by
  unfold commandExecutePayload
  apply Fields.Admits.guard
  apply Fields.Admits.refine
  refine .and (.and (.and (.and (.and ?_ ?_ _) ?_ _) ?_ _) ?_ _) ?_ _
  · exact Fields.admits_field (admits_uuid r) _
  · exact Fields.admits_field admits_capability _
  · exact Fields.admits_field ((admits_boundedString 1 80).guard _) _
  · exact Fields.admits_field admits_jsonObject _
  · exact Fields.admits_field (admits_wireTimestamp r) _
  · exact Fields.admits_field (admits_wireTimestamp r) _

theorem admits_serverPayload (t : ServerMessageType) : (serverPayload r t).Admits Finite := by
  cases t with
  | serverHello =>
      show (serverHelloPayload r).Admits Finite
      unfold serverHelloPayload
      apply Fields.Admits.refine
      refine .and (.and ?_ ?_ _) ?_ _
      · exact Fields.admits_field (admits_uuid r) _
      · exact Fields.admits_field (admits_number.guard _) _
      · exact Fields.admits_field (admits_int.guard _) _
  | serverReady =>
      show (serverReadyPayload r).Admits Finite
      unfold serverReadyPayload
      apply Fields.Admits.refine
      refine .and ?_ ?_ _
      · exact Fields.admits_field (admits_uuid r) _
      · exact Fields.admits_field admits_capabilityList _
  | heartbeatPing => exact admits_heartbeatPayload r
  | capabilitiesAck =>
      show capabilitiesAckPayload.Admits Finite
      unfold capabilitiesAckPayload
      apply Fields.Admits.refine
      exact Fields.admits_field admits_capabilityList _
  | commandExecute => exact admits_commandExecutePayload r
  | commandResultRejected =>
      show (commandResultRejectedPayload r).Admits Finite
      unfold commandResultRejectedPayload
      apply Fields.Admits.refine
      refine .and ?_ ?_ _
      · exact Fields.admits_field (admits_uuid r) _
      · exact Fields.admits_field (admits_string.literal _) _
  | protocolError =>
      show protocolErrorPayload.Admits Finite
      unfold protocolErrorPayload
      apply Fields.Admits.refine
      refine .and ?_ ?_ _
      · exact Fields.admits_field (admits_string.refine _ _ _) _
      · exact Fields.admits_field (admits_boundedString 1 2000) _

end Finiteness

section Closedness

variable {r : Runtime} {type : String} {Payload : Type} {payload : Fields JsonValue Payload}

theorem admits_envelope (h : payload.Admits Finite) : (envelope r type payload).Admits Finite := by
  unfold envelope
  apply Fields.Admits.refine
  refine .and (.and (.and (.and ?_ ?_ _) ?_ _) ?_ _) ?_ _
  · exact Fields.admits_field (admits_int.guard _) _
  · exact Fields.admits_field (admits_string.literal _) _
  · exact Fields.admits_field (admits_uuid r) _
  · exact Fields.admits_field (admits_uuid r) _
  · exact Fields.admits_field (admits_record h) _

theorem protocolVersion_eq_some {v : JsonValue} {n : ProtocolVersion}
    (h : protocolVersion.read v = some n) : v = .int 1 := by
  obtain ⟨m, hm, hmake⟩ := Option.bind_eq_some_iff.mp h
  split at hmake
  · rename_i hone
    rw [int_eq_some hm, le_antisymm hone.2 hone.1]
  · cases hmake

theorem read_envelope {l : String → Option JsonValue} {m : Envelope Payload}
    (h : (envelope r type payload).read l = some m) :
    l "v" = some (.int 1) ∧ l "type" = some (.string type) ∧
      ∃ v, l "payload" = some v ∧ (payload.record object).read v = some m.payload := by
  obtain ⟨p, hp, hmake⟩ := Fields.read_refine.mp h
  obtain ⟨hp, hpayload⟩ := Fields.read_and.mp hp
  obtain ⟨hp, -⟩ := Fields.read_and.mp hp
  obtain ⟨hp, -⟩ := Fields.read_and.mp hp
  obtain ⟨hversion, htype⟩ := Fields.read_and.mp hp
  obtain ⟨version, hversion, hone⟩ := Fields.read_field.mp hversion
  obtain ⟨text, htype, hliteral⟩ := Fields.read_field.mp htype
  obtain ⟨v, hv, hread⟩ := Fields.read_field.mp hpayload
  cases hmake
  refine ⟨?_, ?_, v, hv, hread⟩
  · rw [hversion, protocolVersion_eq_some hone]
  · rw [htype, string_eq_some (Format.read_literal hliteral)]

theorem closed_of_read (hadmits : payload.Admits Finite)
    (hrequired : payload.required = requiredFields type)
    (hnames : ∀ key ∈ payload.names, key ∈ requiredFields type ∨ key ∈ optionalFields type)
    {v : JsonValue} {m : Envelope Payload}
    (h : ((envelope r type payload).record object).read v = some m) : ClosedMessage type v := by
  obtain ⟨entries, hentries, hclosed, hread⟩ := Fields.record_eq_some h
  obtain ⟨hversion, htype, value, hvalue, hpayload⟩ := read_envelope hread
  obtain ⟨fields, hfields, hshape, -⟩ := Fields.record_eq_some hpayload
  refine ⟨⟨entries, fields, object_eq_some hentries, hclosed.perm ?_, hversion, htype, ?_,
    hshape.nodup, ?_, ?_⟩, admits_record (admits_envelope hadmits) v m h⟩
  · exact fun _ hname => hname
  · rw [hvalue, object_eq_some hfields]
  · exact hrequired ▸ hshape.given
  · exact fun key hkey => hnames key (hshape.known key hkey)

theorem required_clientPayload (t : ClientMessageType) :
    (clientPayload r t).required = requiredFields t.value := by
  cases t <;> rfl

theorem required_serverPayload (t : ServerMessageType) :
    (serverPayload r t).required = requiredFields t.value := by
  cases t <;> rfl

theorem names_clientPayload (t : ClientMessageType) : (clientPayload r t).names =
    requiredFields t.value ++ optionalFields t.value := by
  cases t <;> rfl

theorem names_serverPayload (t : ServerMessageType) : (serverPayload r t).names =
    requiredFields t.value ++ optionalFields t.value := by
  cases t <;> rfl

theorem closed_of_device {v : JsonValue} {m : DeviceInboundMessage}
    (h : (deviceMessageAdapter r).read v = some m) : ClosedMessage m.1.value v := by
  refine closed_of_read (admits_clientPayload r m.1) (required_clientPayload m.1) ?_
    (tagged_eq_some h).1
  intro key hkey
  rwa [names_clientPayload, List.mem_append] at hkey

theorem closed_of_server {v : JsonValue} {m : DeviceOutboundMessage r}
    (h : (serverMessageAdapter r).read v = some m) : ClosedMessage m.1.value v := by
  refine closed_of_read (admits_serverPayload r m.1) (required_serverPayload m.1) ?_
    (tagged_eq_some h).1
  intro key hkey
  rwa [names_serverPayload, List.mem_append] at hkey

theorem types_disjoint (t : ClientMessageType) (t' : ServerMessageType) : t.value ≠ t'.value := by
  cases t <;> cases t' <;> decide

theorem ClosedMessage.type_unique {type' : String} {v : JsonValue} (h : ClosedMessage type v)
    (h' : ClosedMessage type' v) : type = type' := by
  obtain ⟨entries, _, hv, -, -, htype, -⟩ := h.shape
  obtain ⟨entries', _, hv', -, -, htype', -⟩ := h'.shape
  rw [hv] at hv'
  cases hv'
  rw [htype] at htype'
  cases htype'
  rfl

/-- Every message of either direction is read back from its dump; whatever an adapter
accepts is closed and has finite numbers; and nothing is accepted in both directions. -/
theorem wire_format (r : Runtime) :
    (∀ m, (serverMessageAdapter r).read ((serverMessageAdapter r).write m) = some m) ∧
      (∀ m, (deviceMessageAdapter r).read ((deviceMessageAdapter r).write m) = some m) ∧
      (∀ v m, (serverMessageAdapter r).read v = some m → ClosedMessage m.1.value v) ∧
      (∀ v m, (deviceMessageAdapter r).read v = some m → ClosedMessage m.1.value v) ∧
      ∀ v m m', (serverMessageAdapter r).read v = some m →
        (deviceMessageAdapter r).read v ≠ some m' := by
  refine ⟨(serverMessageAdapter r).read_write, (deviceMessageAdapter r).read_write,
    fun _ _ => closed_of_server, fun _ _ => closed_of_device, ?_⟩
  intro v m m' hserver hdevice
  have hsame := (closed_of_device hdevice).type_unique (closed_of_server hserver)
  exact types_disjoint m'.1 m.1 hsame

end Closedness

section Samples

open JarvisCore.Foundation.Text (CharacterClasses)

/-- The tables, restricted to ASCII. -/
def sampleClasses : CharacterClasses where
  isAlpha := isAsciiLetter
  isAlnum c := isAsciiLetter c || isAsciiDigit c
  decimal _ := none

/-- It knows the texts of two times, half a minute apart. -/
def sampleRuntime : Runtime where
  parseUuid text :=
    Security.Credentials.DeviceCredentialCodec.parseUuid sampleClasses text.toList
  setOrder s := [.openApp, .files, .system].filter (· ∈ s)
  fromisoformat text :=
    if text = "1970-01-01T00:00:00+00:00" then some ⟨0, some 0⟩
    else if text = "1970-01-01T00:00:30+00:00" then some ⟨30000000, some 0⟩
    else none
  parseUuid_text := Security.Credentials.parseUuid_text sampleClasses
  toFinset_setOrder s := by
    ext c
    cases c <;> simp

end Samples

end JarvisCore.Protocol.RoundTrip
