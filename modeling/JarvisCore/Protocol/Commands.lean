import JarvisCore.Gateway.Transports
import JarvisCore.Manager.PendingOwnership
import JarvisCore.Protocol.RoundTrip
import JarvisCore.Service.GrantContainment

namespace JarvisCore.Protocol.Commands

open JarvisCore.Domain.Values
open JarvisCore.Domain.Errors
open JarvisCore.Domain.Models
open JarvisCore.Foundation.Schema
open JarvisCore.Foundation.Text
open JarvisCore.Gateway.Transports (Job Progress Task Transport Writer)
open JarvisCore.Protocol.Json
open JarvisCore.Protocol.Messages (Action Runtime ServerMessageType actionPattern
  isAsciiDigit isAsciiLetter parseWireTimestamp serverMessage serverMessageAdapter)
open JarvisCore.Protocol.RoundTrip
open JarvisCore.Service.Operations

structure DeviceCommandRequest where
  capability : DeviceCapability
  action : Action
  arguments : PyDict

section Request

/-- `str` with a check that a text with surrogates does not pass. -/
def text : Format PyValue String where
  read
    | .string value => value.text?
    | _ => none
  write value := .string (.ofString value)
  read_write := PyText.text?_ofString

/-- `dict[str, Any]`, whose values are not looked at. -/
def dict : Format PyValue PyDict where
  read
    | .object fields => some fields
    | _ => none
  write := .object
  read_write _ := rfl

def readEntry (entry : PyText × PyValue) : Option (String × PyValue) :=
  entry.1.text?.map fun name => (name, entry.2)

def writeEntry (entry : String × PyValue) : PyText × PyValue := (.ofString entry.1, entry.2)

/-- The fields of a body. A key with surrogates names none. -/
def fieldsOf : Format PyValue (List (String × PyValue)) :=
  dict.refine (fun fields => fields.mapM readEntry) (fun entries => entries.map writeEntry) (by
    intro entries
    induction entries with
    | nil => rfl
    | cons entry rest ih =>
        rw [List.map_cons, List.mapM_cons, ih]
        simp [readEntry, writeEntry])

def capability : Format PyValue DeviceCapability :=
  text.refine Messages.capabilityOf? DeviceCapability.value Messages.capabilityOf?_value

def action : Format PyValue Action :=
  (text.guard fun s => 1 ≤ s.length ∧ s.length ≤ 80).guard fun a => actionPattern a.val

def deviceCommandRequest : Fields PyValue DeviceCommandRequest :=
  Fields.field "capability" capability
    |>.and (Fields.field "action" action)
    |>.and (Fields.fieldWithDefault "arguments" dict [])
    |>.refine (fun ((capability, action), arguments) => some { capability, action, arguments })
      (fun p => ((p.capability, p.action), p.arguments)) fun _ => rfl

def readRequest (body : PyValue) : Option DeviceCommandRequest :=
  (deviceCommandRequest.record fieldsOf).read body

end Request

section Frames

/-- What the libraries leave open: how many levels of `JsonValue` pydantic validates, and
what its dump makes of a key. A key with surrogates may be changed there, or raise. -/
structure Dump where
  nestingLimit : Nat
  dumpKey : PyText → Option String
  dumpKey_ofString : ∀ s, dumpKey (.ofString s) = some s

section Nesting

variable {Text : Type}

mutual

def nesting : JsonTree Text → Nat
  | .null | .bool _ | .int _ | .float _ | .string _ => 1
  | .array items => nestingItems items + 1
  | .object fields => nestingFields fields + 1

def nestingItems : List (JsonTree Text) → Nat
  | [] => 0
  | item :: rest => max (nesting item) (nestingItems rest)

def nestingFields : List (Text × JsonTree Text) → Nat
  | [] => 0
  | (_, value) :: rest => max (nesting value) (nestingFields rest)

end

end Nesting

mutual

/-- The value in a frame, which is UTF-8 that `ensure_ascii=False` has left as it is: no
text in it may have a surrogate. -/
def framed (d : Dump) : PyValue → Option JsonValue
  | .null => some .null
  | .bool value => some (.bool value)
  | .int value => some (.int value)
  | .float value => some (.float value)
  | .string value => value.text?.map .string
  | .array items => (framedItems d items).map .array
  | .object fields => (framedFields d fields).map .object

def framedItems (d : Dump) : List PyValue → Option (List JsonValue)
  | [] => some []
  | item :: rest =>
      match framed d item, framedItems d rest with
      | some item, some rest => some (item :: rest)
      | _, _ => none

def framedFields (d : Dump) : PyDict → Option (List (String × JsonValue))
  | [] => some []
  | (key, value) :: rest =>
      match d.dumpKey key, framed d value, framedFields d rest with
      | some key, some value, some rest => some ((key, value) :: rest)
      | _, _, _ => none

end

/-- The payload of `send_command`. -/
def commandPayload (isoformat : AwareDatetime → String) (command : DeviceCommand) : PyValue :=
  .object
    [(.ofString "command_id", text.write command.id.text),
      (.ofString "capability", text.write command.capability.value),
      (.ofString "action", text.write command.action),
      (.ofString "arguments", .object command.arguments),
      (.ofString "issued_at", text.write (isoformat command.issuedAt)),
      (.ofString "deadline_at", text.write (isoformat command.deadlineAt))]

/-- Whether `send_command` gets past `server_message` and the encoding of the frame. -/
def encodes (r : Runtime) (d : Dump) (isoformat : AwareDatetime → String)
    (messageId sessionId : UUID) (command : DeviceCommand) : Bool :=
  nestingFields command.arguments ≤ d.nestingLimit &&
    match framed d (commandPayload isoformat command) with
    | some payload => (serverMessage r .commandExecute messageId sessionId payload).isSome
    | none => false

end Frames

section Carriage

variable {d : Dump}

/-- What the libraries carry to the device, with this many levels: the numbers are finite,
no text has a surrogate, and the keys can be dumped. -/
structure Carries (d : Dump) (levels : Nat) (v : PyValue) : Prop where
  finite : Json.Finite v
  framed : (framed d v).isSome
  nested : nesting v ≤ levels

theorem text_eq_some {v : PyValue} {s : String} (h : text.read v = some s) : v = text.write s := by
  cases v with
  | string value => exact congrArg JsonTree.string (PyText.text?_eq_some.mp h)
  | null | bool | int | float | object | array => cases h

theorem dict_eq_some {v : PyValue} {fields : PyDict} (h : dict.read v = some fields) :
    v = .object fields := by
  cases v with
  | object fields' =>
      cases h
      rfl
  | null | bool | int | float | string | array => cases h

theorem fieldsOf_eq_some {v : PyValue} {entries : List (String × PyValue)}
    (h : fieldsOf.read v = some entries) : v = .object (entries.map writeEntry) := by
  obtain ⟨fields, hfields, hentries⟩ := Option.bind_eq_some_iff.mp h
  rw [dict_eq_some hfields]
  congr 1
  clear hfields h
  induction fields generalizing entries with
  | nil =>
      cases hentries
      rfl
  | cons entry rest ih =>
      simp only [List.mapM_cons, Option.bind_eq_bind, Option.bind_eq_some_iff] at hentries
      obtain ⟨first, hfirst, others, hothers, heq⟩ := hentries
      cases heq
      obtain ⟨name, hname, rfl⟩ := Option.map_eq_some_iff.mp hfirst
      rw [List.map_cons, ← ih hothers]
      congr 1
      exact Prod.ext (PyText.text?_eq_some.mp hname) rfl

theorem carries_text (d : Dump) (levels : Nat) (s : String) :
    Carries d (levels + 1) (text.write s) where
  finite := rfl
  framed := by simp [text, framed]
  nested := Nat.le_add_left 1 levels

theorem framedFields_isSome {fields : PyDict} : (framedFields d fields).isSome ↔
    ∀ entry ∈ fields, (d.dumpKey entry.1).isSome ∧ (framed d entry.2).isSome := by
  induction fields with
  | nil => simp [framedFields]
  | cons entry rest ih =>
      obtain ⟨key, value⟩ := entry
      rw [List.forall_mem_cons, ← ih, framedFields]
      cases d.dumpKey key with
      | none => simp
      | some key =>
          cases framed d value with
          | none => simp
          | some value => cases framedFields d rest <;> simp

theorem nestingFields_le {levels : Nat} {fields : PyDict} :
    nestingFields fields ≤ levels ↔ ∀ entry ∈ fields, nesting entry.2 ≤ levels := by
  induction fields with
  | nil => simp [nestingFields]
  | cons entry rest ih => rw [List.forall_mem_cons, ← ih, nestingFields, Nat.max_le]

theorem carries_object {levels : Nat} {fields : PyDict} :
    Carries d (levels + 1) (.object fields) ↔
      ∀ entry ∈ fields, (d.dumpKey entry.1).isSome ∧ Carries d levels entry.2 := by
  constructor
  · rintro ⟨hfinite, hframed, hnested⟩ entry hentry
    have hfinite := finiteFields_iff.mp hfinite entry hentry
    have hframed : (framedFields d fields).isSome := by simpa [framed] using hframed
    have hframed := framedFields_isSome.mp hframed entry hentry
    have hnested : nestingFields fields + 1 ≤ levels + 1 := hnested
    exact ⟨hframed.1, hfinite, hframed.2,
      nestingFields_le.mp (Nat.le_of_succ_le_succ hnested) entry hentry⟩
  · intro hall
    refine ⟨finiteFields_iff.mpr fun entry h => (hall entry h).2.finite, ?_, ?_⟩
    · have hframed := framedFields_isSome.mpr fun entry h =>
        ⟨(hall entry h).1, (hall entry h).2.framed⟩
      simpa [framed] using hframed
    · exact Nat.succ_le_succ (nestingFields_le.mpr fun entry h => (hall entry h).2.nested)

mutual

theorem finite_framed : ∀ (v : PyValue) {w : JsonValue}, framed d v = some w → finite w = finite v
  | .null, _, h | .bool _, _, h | .int _, _, h | .float _, _, h => by
      cases h
      rfl
  | .string _, _, h => by
      obtain ⟨s, -, rfl⟩ := Option.map_eq_some_iff.mp h
      rfl
  | .array items, _, h => by
      obtain ⟨items', hitems, rfl⟩ := Option.map_eq_some_iff.mp h
      exact finiteItems_framed items hitems
  | .object fields, _, h => by
      obtain ⟨fields', hfields, rfl⟩ := Option.map_eq_some_iff.mp h
      exact finiteFields_framed fields hfields

theorem finiteItems_framed : ∀ (items : List PyValue) {items' : List JsonValue},
    framedItems d items = some items' → finiteItems items' = finiteItems items
  | [], _, h => by
      cases h
      rfl
  | item :: rest, _, h => by
      rw [framedItems] at h
      split at h
      · rename_i item' rest' hitem hrest
        cases h
        rw [finiteItems, finiteItems, finite_framed item hitem, finiteItems_framed rest hrest]
      · cases h

theorem finiteFields_framed : ∀ (fields : PyDict) {fields' : List (String × JsonValue)},
    framedFields d fields = some fields' → finiteFields fields' = finiteFields fields
  | [], _, h => by
      cases h
      rfl
  | (key, value) :: rest, _, h => by
      rw [framedFields] at h
      split at h
      · rename_i key' value' rest' _ hvalue hrest
        cases h
        rw [finiteFields, finiteFields, finite_framed value hvalue, finiteFields_framed rest hrest]
      · cases h

end

end Carriage

/-- What `str.isalpha` and `str.isalnum` say about the ASCII letters and digits. -/
structure AsciiClasses (classes : CharacterClasses) : Prop where
  alpha : ∀ c, isAsciiLetter c = true → classes.isAlpha c = true
  alnum : ∀ c, isAsciiLetter c = true ∨ isAsciiDigit c = true → classes.isAlnum c = true

/-- `fromisoformat` reads the time that `isoformat` has written. -/
def ReadsBack (r : Runtime) (isoformat : AwareDatetime → String) (time : AwareDatetime) : Prop :=
  parseWireTimestamp r (isoformat time) = some time

/-- The request passes the checks of `execute_command` for the device. -/
def Admitted {Digest : Type} (config : Config Digest) (manager : Manager.Operations.State)
    (device : Device) (request : DeviceCommandRequest) : Prop :=
  ∃ live, withRuntimeState manager device = .ok live ∧ live.status = .online ∧
    request.capability ∈ live.availableCapabilities ∧
    CapabilityRegistry.allows config.definitions request.capability request.action.val.val = true

section Domain

theorem actionCharactersSupported_of_pattern {classes : CharacterClasses}
    (hclasses : AsciiClasses classes) {action : String} (h : actionPattern action = true) :
    DeviceCommand.actionCharactersSupported classes action = true := by
  unfold actionPattern at h
  unfold DeviceCommand.actionCharactersSupported
  split at h
  · cases h
  · rename_i first rest heq
    rw [heq]
    rw [Bool.and_eq_true] at h
    obtain ⟨hfirst, hrest⟩ := h
    have hchars : ∀ c ∈ first :: rest,
        (classes.isAlnum c || c = '_' || c = '.' || c = '-') = true := by
      intro c hc
      rcases List.mem_cons.mp hc with rfl | hc
      · simp [hclasses.alnum c (Or.inl hfirst)]
      · have hclass := List.all_eq_true.mp hrest c hc
        simp only [Bool.or_eq_true] at hclass ⊢
        rcases hclass with (((hletter | hdigit) | hmark) | hmark) | hmark
        · exact Or.inl (Or.inl (Or.inl (hclasses.alnum c (Or.inl hletter))))
        · exact Or.inl (Or.inl (Or.inl (hclasses.alnum c (Or.inr hdigit))))
        · exact Or.inl (Or.inl (Or.inr hmark))
        · exact Or.inl (Or.inr hmark)
        · exact Or.inr hmark
    rw [Bool.and_eq_true]
    exact ⟨hclasses.alpha first hfirst, List.all_eq_true.mpr hchars⟩

theorem exists_command {classes : CharacterClasses} (hclasses : AsciiClasses classes)
    (action : Action) (hstrip : strip action.val.val = action.val.val)
    {issuedAt deadlineAt : AwareDatetime} (hdeadline : issuedAt.instant < deadlineAt.instant)
    (id deviceId : UUID) (capability : DeviceCapability) (arguments : PyDict) :
    ∃ command, DeviceCommand.make classes id deviceId capability action.val.val arguments issuedAt
        deadlineAt = .ok command ∧
      command.action = action.val.val ∧ command.arguments = arguments ∧
      command.issuedAt = issuedAt ∧ command.deadlineAt = deadlineAt := by
  obtain ⟨⟨action, hlength⟩, hpattern⟩ := action
  change strip action = action at hstrip
  have hsupported := actionCharactersSupported_of_pattern hclasses hpattern
  have hlength : 0 < (strip action).length ∧ (strip action).length ≤ 80 := by
    rw [hstrip]
    exact hlength
  unfold DeviceCommand.make
  rw [dif_pos hlength, if_pos (hstrip.symm ▸ hsupported), dif_pos hdeadline]
  exact ⟨_, rfl, hstrip, rfl, rfl, rfl⟩

theorem prepareCommand_eq_make {Digest : Type} {config : Config Digest}
    {manager : Manager.Operations.State} {device live : Device} {capability : DeviceCapability}
    {action : String} {arguments : PyDict}
    (hlive : withRuntimeState manager device = .ok live) (honline : live.status = .online)
    (havailable : capability ∈ live.availableCapabilities)
    (hallowed : CapabilityRegistry.allows config.definitions capability action = true)
    (deviceId commandId : UUID) (clock : AwareDatetime) :
    prepareCommand config manager device deviceId capability action arguments commandId
        ⟨clock.wall, some clock.utcoffset⟩ =
      DeviceCommand.make config.codec.classes commandId deviceId capability action arguments clock
        (clock.add config.commandTimeoutSeconds) := by
  simp [prepareCommand, newCommand, Datetime.toAware?, hlive, honline, havailable, hallowed]

theorem prepareCommand_of_admitted {Digest : Type} {config : Config Digest}
    {manager : Manager.Operations.State} {device : Device} {request : DeviceCommandRequest}
    (h : Admitted config manager device request) (hclasses : AsciiClasses config.codec.classes)
    (htimeout : 0 < config.commandTimeoutSeconds) (deviceId commandId : UUID)
    (clock : AwareDatetime) :
    ∃ command, prepareCommand config manager device deviceId request.capability
        request.action.val.val request.arguments commandId ⟨clock.wall, some clock.utcoffset⟩ =
          .ok command ∧
      command.action = request.action.val.val ∧ command.arguments = request.arguments ∧
      command.issuedAt = clock ∧ command.deadlineAt = clock.add config.commandTimeoutSeconds := by
  obtain ⟨live, hlive, honline, havailable, hallowed⟩ := h
  have hdeadline : clock.instant < (clock.add config.commandTimeoutSeconds).instant := by
    rw [AwareDatetime.instant_add]
    omega
  rw [prepareCommand_eq_make hlive honline havailable hallowed]
  exact exists_command hclasses request.action (CapabilityRegistry.strip_of_allows hallowed)
    hdeadline commandId deviceId request.capability request.arguments

end Domain

section Encoding

variable {r : Runtime} {d : Dump} {isoformat : AwareDatetime → String} {messageId sessionId : UUID}

/-- The text of a time as a field of the payload. -/
def wireTime {time : AwareDatetime} (h : ReadsBack r isoformat time) : Messages.WireTimestamp r :=
  ⟨isoformat time, Option.isSome_of_eq_some h⟩

theorem time_wireTime {time : AwareDatetime} (h : ReadsBack r isoformat time) :
    (wireTime h).time = time :=
  Option.get_of_eq_some _ h

def wirePayload (isoformat : AwareDatetime → String) (command : DeviceCommand)
    (arguments : List (String × JsonValue)) : JsonValue :=
  .object
    [("command_id", .string command.id.text), ("capability", .string command.capability.value),
      ("action", .string command.action), ("arguments", .object arguments),
      ("issued_at", .string (isoformat command.issuedAt)),
      ("deadline_at", .string (isoformat command.deadlineAt))]

theorem framed_commandPayload (command : DeviceCommand) :
    framed d (commandPayload isoformat command) =
      (framedFields d command.arguments).map (wirePayload isoformat command) := by
  cases harguments : framedFields d command.arguments with
  | none =>
      simp [commandPayload, framed, framedFields, text, d.dumpKey_ofString, harguments]
  | some arguments =>
      simp [commandPayload, wirePayload, framed, framedFields, text, d.dumpKey_ofString, harguments]

theorem accepts_of_finite {command : DeviceCommand} {arguments : List (String × JsonValue)}
    (haction : actionPattern command.action = true) (hfinite : finiteFields arguments = true)
    (hissued : ReadsBack r isoformat command.issuedAt)
    (hdeadline : ReadsBack r isoformat command.deadlineAt) :
    (serverMessage r .commandExecute messageId sessionId
      (wirePayload isoformat command arguments)).isSome = true := by
  let fields : Messages.CommandExecuteFields r :=
    { commandId := command.id
      capability := command.capability
      action := ⟨⟨command.action, command.action_length⟩, haction⟩
      arguments := ⟨arguments, hfinite⟩
      issuedAt := wireTime hissued
      deadlineAt := wireTime hdeadline }
  have hvalid : fields.ValidDeadline := by
    show (wireTime hissued).time.instant < (wireTime hdeadline).time.instant
    rw [time_wireTime, time_wireTime]
    exact command.deadline_after_issue
  let message : Messages.DeviceOutboundMessage r :=
    ⟨.commandExecute, { v := ⟨1, by decide⟩, messageId, sessionId, payload := ⟨fields, hvalid⟩ }⟩
  have hwrite : (serverMessageAdapter r).write message = .object
      [("v", .int 1), ("type", .string ServerMessageType.commandExecute.value),
        ("message_id", .string messageId.text), ("session_id", .string sessionId.text),
        ("payload", wirePayload isoformat command arguments)] := rfl
  unfold serverMessage
  rw [← hwrite, (serverMessageAdapter r).read_write]
  rfl

theorem finite_of_accepts {command : DeviceCommand} {arguments : List (String × JsonValue)}
    (h : (serverMessage r .commandExecute messageId sessionId
      (wirePayload isoformat command arguments)).isSome = true) :
    finiteFields arguments = true := by
  unfold serverMessage at h
  rw [Option.isSome_map, Option.isSome_iff_exists] at h
  obtain ⟨message, hread⟩ := h
  have hfinite := (closed_of_server hread).finite
  simpa [Json.Finite, finite, finiteFields, wirePayload] using hfinite

theorem carries_of_encodes {command : DeviceCommand}
    (h : encodes r d isoformat messageId sessionId command = true) :
    Carries d (d.nestingLimit + 1) (.object command.arguments) := by
  unfold encodes at h
  rw [framed_commandPayload, Bool.and_eq_true, decide_eq_true_eq] at h
  obtain ⟨hnested, haccepts⟩ := h
  cases harguments : framedFields d command.arguments with
  | none => simp [harguments] at haccepts
  | some arguments =>
      rw [harguments] at haccepts
      have hsame := finiteFields_framed command.arguments harguments
      refine ⟨hsame.symm.trans (finite_of_accepts haccepts), ?_, Nat.succ_le_succ hnested⟩
      simp [framed, harguments]

theorem encodes_iff {command : DeviceCommand} (haction : actionPattern command.action = true)
    (hissued : ReadsBack r isoformat command.issuedAt)
    (hdeadline : ReadsBack r isoformat command.deadlineAt) :
    encodes r d isoformat messageId sessionId command = true ↔
      Carries d (d.nestingLimit + 1) (.object command.arguments) := by
  refine ⟨carries_of_encodes, ?_⟩
  rintro ⟨hfinite, hframed, hnested⟩
  have hframed : (framedFields d command.arguments).isSome := by simpa [framed] using hframed
  obtain ⟨arguments, harguments⟩ := Option.isSome_iff_exists.mp hframed
  have hsame := finiteFields_framed command.arguments harguments
  unfold encodes
  rw [framed_commandPayload, harguments, Bool.and_eq_true, decide_eq_true_eq]
  exact ⟨Nat.le_of_succ_le_succ hnested,
    accepts_of_finite haction (hsame.trans hfinite) hissued hdeadline⟩

end Encoding

section Delivery

open JarvisCore.Manager.Operations (AdmittedCall State)
open JarvisCore.Manager.Execution (completeSend)

/-- What `send_command` raises before it comes to the socket, the transport being open. -/
def sendFailure (encodes : DeviceCommand → Bool) (command : DeviceCommand) (sessionId : UUID) :
    Option Raised :=
  let job : Job := .send ⟨sessionId, .commandExecute command⟩
  match (Transport.fresh.perform encodes 0 ⟨.command 0, job, .queued false⟩).tasks 0 with
  | some ⟨_, _, .done failure⟩ => failure
  | _ => none

/-- A call of the manager that sends the command keeps all connections when it has sent,
and it fails the future of no other call. -/
def KeepsSessions (command : DeviceCommand) (failure : Option Raised) : Prop :=
  ∀ (s : State) x (call : AdmittedCall) now, call.stage = .sending →
    call.admission.command = command →
    ∃ t, completeSend s x call failure now = some (t, []) ∧ t.connections = s.connections ∧
      ∀ y, y ≠ x → t.futures y = s.futures y

/-- The command gets into a frame, and its send raises no error and ends no session. -/
def Delivered (r : Runtime) (d : Dump) (isoformat : AwareDatetime → String)
    (command : DeviceCommand) : Prop :=
  ∀ messageId sessionId, encodes r d isoformat messageId sessionId command = true ∧
    sendFailure (encodes r d isoformat messageId sessionId) command sessionId = none ∧
    KeepsSessions command
      (sendFailure (encodes r d isoformat messageId sessionId) command sessionId)

theorem sendFailure_of_encodes {encodes : DeviceCommand → Bool} {command : DeviceCommand}
    (h : encodes command = true) (sessionId : UUID) :
    sendFailure encodes command sessionId = none := by
  simp [sendFailure, Transport.perform, Transport.fresh, Transport.accepts, Transport.setTask, h]

theorem sendFailure_of_not_encodes {encodes : DeviceCommand → Bool} {command : DeviceCommand}
    (h : encodes command = false) (sessionId : UUID) :
    sendFailure encodes command sessionId =
      some (.valueError "validation error for command.execute") := by
  simp [sendFailure, Transport.perform, Transport.fresh, Transport.accepts, Transport.setTask,
    Transport.leave, h]

theorem keepsSessions_none (command : DeviceCommand) : KeepsSessions command none := by
  intro s x call now hstage _
  obtain ⟨admission, cancelRequested, stage⟩ := call
  cases hstage
  refine ⟨_, rfl, ?_, ?_⟩
  · unfold Manager.Execution.beginWait
    split
    · rfl
    · rfl
  · intro y hy
    unfold Manager.Execution.beginWait
    split
    · exact Function.update_of_ne hy _ _
    · rfl

/-- What is in the body of a request is in its arguments, apart from two short texts. -/
theorem carries_body_iff {d : Dump} {body : PyValue} {request : DeviceCommandRequest}
    (h : readRequest body = some request) :
    Carries d (d.nestingLimit + 2) body ↔
      Carries d (d.nestingLimit + 1) (.object request.arguments) := by
  obtain ⟨entries, hentries, hclosed, hread⟩ := Fields.record_eq_some h
  obtain ⟨p, hp, hmake⟩ := Fields.read_refine.mp hread
  obtain ⟨hp, harguments⟩ := Fields.read_and.mp hp
  obtain ⟨hcapability, haction⟩ := Fields.read_and.mp hp
  obtain ⟨capability, hcapability, hcapable⟩ := Fields.read_field.mp hcapability
  obtain ⟨action, haction, hpattern⟩ := Fields.read_field.mp haction
  cases hmake
  obtain ⟨capabilityText, htext, -⟩ := Option.bind_eq_some_iff.mp hcapable
  obtain rfl := text_eq_some htext
  obtain ⟨bounded, hbounded, -⟩ := Option.bind_eq_some_iff.mp hpattern
  obtain ⟨actionText, htext', -⟩ := Option.bind_eq_some_iff.mp hbounded
  obtain rfl := text_eq_some htext'
  rw [fieldsOf_eq_some hentries, carries_object]
  change _ ↔ Carries d (d.nestingLimit + 1) (.object p.2)
  constructor
  · intro hcarried
    rcases Fields.read_fieldWithDefault.mp harguments with ⟨-, hempty⟩ | ⟨v, hv, hdict⟩
    · rw [hempty]
      exact carries_object.mpr fun _ hnone => nomatch hnone
    · obtain ⟨before, after, hsplit, -⟩ := List.lookup_eq_some_iff.mp hv
      have hmem : writeEntry ("arguments", v) ∈ entries.map writeEntry :=
        List.mem_map_of_mem (by simp [hsplit])
      exact dict_eq_some hdict ▸ (hcarried _ hmem).2
  · rintro hcarried _ hmem
    obtain ⟨entry, hentry, rfl⟩ := List.mem_map.mp hmem
    refine ⟨Option.isSome_of_eq_some (d.dumpKey_ofString entry.1), ?_⟩
    change Carries d (d.nestingLimit + 1) entry.2
    have hlookup := Fields.lookup_of_mem hclosed.nodup hentry
    have hknown : entry.1 ∈ ["capability", "action", "arguments"] :=
      hclosed.known entry.1 (List.mem_map_of_mem hentry)
    simp only [List.mem_cons, List.not_mem_nil, or_false] at hknown
    rcases hknown with hname | hname | hname
    · rw [hname, hcapability] at hlookup
      exact Option.some.inj hlookup ▸ carries_text d _ capabilityText
    · rw [hname, haction] at hlookup
      exact Option.some.inj hlookup ▸ carries_text d _ actionText
    · rw [hname] at hlookup
      rcases Fields.read_fieldWithDefault.mp harguments with ⟨hnone, -⟩ | ⟨v, hv, hdict⟩
      · rw [hnone] at hlookup
        cases hlookup
      · rw [hv] at hlookup
        rw [← Option.some.inj hlookup, dict_eq_some hdict]
        exact hcarried

/-- Of the requests that the schema and `execute_command` admit, those are delivered whose
body the libraries carry: with finite numbers only, no surrogates, and not too many levels. -/
theorem admitted_delivered_iff {Digest : Type} (r : Runtime) (d : Dump)
    (isoformat : AwareDatetime → String) (config : Config Digest)
    (manager : Manager.Operations.State) (device : Device) (body : PyValue)
    (request : DeviceCommandRequest) (deviceId commandId : UUID) (clock : AwareDatetime)
    (hbody : readRequest body = some request) (hadmitted : Admitted config manager device request)
    (hclasses : AsciiClasses config.codec.classes)
    (htimeout : 1000000 ≤ config.commandTimeoutSeconds)
    (hissued : ReadsBack r isoformat clock)
    (hdeadline : ReadsBack r isoformat (clock.add config.commandTimeoutSeconds)) :
    (∃ command, prepareCommand config manager device deviceId request.capability
        request.action.val.val request.arguments commandId ⟨clock.wall, some clock.utcoffset⟩ =
          .ok command ∧ Delivered r d isoformat command) ↔
      Carries d (d.nestingLimit + 2) body := by
  have hpositive : 0 < config.commandTimeoutSeconds := by omega
  obtain ⟨command, hcommand, haction, harguments, hissue, hdue⟩ :=
    prepareCommand_of_admitted hadmitted hclasses hpositive deviceId commandId clock
  have hencodes (messageId sessionId : UUID) :
      encodes r d isoformat messageId sessionId command = true ↔
        Carries d (d.nestingLimit + 2) body := by
    rw [carries_body_iff hbody, ← harguments]
    exact encodes_iff (haction ▸ request.action.property) (hissue ▸ hissued) (hdue ▸ hdeadline)
  constructor
  · rintro ⟨command', hcommand', hdelivered⟩
    rw [hcommand] at hcommand'
    cases hcommand'
    exact (hencodes command.id command.id).mp (hdelivered command.id command.id).1
  · intro hcarried
    refine ⟨command, hcommand, ?_⟩
    intro messageId sessionId
    have hframe := (hencodes messageId sessionId).mpr hcarried
    have hsent := sendFailure_of_encodes hframe sessionId
    refine ⟨hframe, hsent, ?_⟩
    rw [hsent]
    exact keepsSessions_none command

end Delivery

section Samples

open JarvisCore.Foundation.TransitionSystem (Run Reachable exists_run_of_replay)
open JarvisCore.Manager.Execution (manager)
open JarvisCore.Manager.PendingOwnership (sampleCommand sampleDevice sampleExecute sampleOnline)

def sampleConfig : Config String :=
  { Service.GrantContainment.sampleService with
    codec := ⟨id, sampleClasses⟩, commandTimeoutSeconds := 30000000 }

def sampleRecord : Device where
  id := sampleDevice
  name := "Lamp"
  grantedCapabilities := {.system}
  pairedAt := ⟨0, 0⟩
  status := .offline
  advertisedCapabilities := ∅
  lastSeenAt := none
  revokedAt := none
  name_normalized := by decide
  name_length := by decide
  revoked_iff := by decide

def sampleIsoformat (time : AwareDatetime) : String :=
  if time.wall = 0 then "1970-01-01T00:00:00+00:00" else "1970-01-01T00:00:30+00:00"

/-- A dump that raises for keys with surrogates. -/
def sampleDump : Dump := ⟨255, PyText.text?, PyText.text?_ofString⟩

def sampleArguments (level : PyValue) : PyDict := [(.ofString "level", level)]

/-- A request for `get_info` with one argument. -/
def sampleBody (level : PyValue) : PyValue :=
  .object [(.ofString "capability", text.write "system"), (.ofString "action", text.write "get_info"),
    (.ofString "arguments", .object (sampleArguments level))]

def sampleRequest (level : PyValue) : DeviceCommandRequest where
  capability := .system
  action := ⟨⟨"get_info", by decide⟩, by decide⟩
  arguments := sampleArguments level

theorem readRequest_sampleBody (level : PyValue) :
    readRequest (sampleBody level) = some (sampleRequest level) := by
  rfl

/-- Neither a surrogate nor a value with too many levels gets into a frame. -/
example : framed sampleDump (.string [0xD800]) = none ∧
    nesting (.array [.array [.null]] : PyValue) = 3 := by
  exact ⟨rfl, rfl⟩

/-- The device is online when its connection is. -/
def admits (s : Manager.Operations.State) : Bool :=
  match withRuntimeState s sampleRecord with
  | .ok live => live.status = .online && .system ∈ live.availableCapabilities
  | .error _ => false

theorem admitted_of_admits {s : Manager.Operations.State} (h : admits s = true)
    (level : PyValue) : Admitted sampleConfig s sampleRecord (sampleRequest level) := by
  unfold admits at h
  split at h
  · rename_i live hlive
    rw [Bool.and_eq_true, decide_eq_true_eq, decide_eq_true_eq] at h
    have hallowed : CapabilityRegistry.allows [] .system "get_info" = true := by decide
    exact ⟨live, hlive, h.1, h.2, hallowed⟩
  · cases h

theorem asciiClasses_sample : AsciiClasses sampleConfig.codec.classes where
  alpha _ h := h
  alnum _ h := by simpa [sampleConfig, sampleClasses] using h

theorem readsBack_start : ReadsBack sampleRuntime sampleIsoformat ⟨0, 0⟩ := by
  show parseWireTimestamp sampleRuntime (sampleIsoformat ⟨0, 0⟩) = some ⟨0, 0⟩
  decide

theorem readsBack_deadline : ReadsBack sampleRuntime sampleIsoformat ⟨30000000, 0⟩ := by
  show parseWireTimestamp sampleRuntime (sampleIsoformat ⟨30000000, 0⟩) = some ⟨30000000, 0⟩
  decide

theorem admitted_delivered_integer : ∃ s, Reachable manager s ∧
    ((∃ command, prepareCommand sampleConfig s sampleRecord sampleDevice .system "get_info"
        (sampleArguments (.int 3)) ⟨4⟩ ⟨0, some 0⟩ = .ok command ∧
          Delivered sampleRuntime sampleDump sampleIsoformat command) ↔
      Carries sampleDump 257 (sampleBody (.int 3))) := by
  obtain ⟨history, s, hrun, hadmits⟩ := exists_run_of_replay (S := manager)
    (s := Manager.Operations.State.initial) sampleOnline (fun _ s => admits s) (by decide)
  exact ⟨s, hrun.reachable, admitted_delivered_iff sampleRuntime sampleDump sampleIsoformat
    sampleConfig s sampleRecord (sampleBody (.int 3)) (sampleRequest (.int 3)) sampleDevice ⟨4⟩ ⟨0, 0⟩
    (readRequest_sampleBody _) (admitted_of_admits hadmits _) asciiClasses_sample (by decide)
    readsBack_start readsBack_deadline⟩

def nanCommand : DeviceCommand :=
  { sampleCommand ⟨4⟩ with arguments := sampleArguments (.float .nan) }

theorem prepareCommand_nan {s : Manager.Operations.State} (h : admits s = true) :
    prepareCommand sampleConfig s sampleRecord sampleDevice .system "get_info"
      (sampleArguments (.float .nan)) ⟨4⟩ ⟨0, some 0⟩ = .ok nanCommand := by
  obtain ⟨live, hlive, honline, havailable, hallowed⟩ := admitted_of_admits h (.float .nan)
  exact prepareCommand_eq_make hlive honline havailable hallowed sampleDevice ⟨4⟩ ⟨0, 0⟩

def refusal : Raised := .valueError "validation error for command.execute"

/-- Call `1` executes the command and its send is refused: that takes the device off line
and fails the future of call `0`. -/
def dropsSession (s : Manager.Operations.State) : Bool :=
  match manager.step s (.execute 1 nanCommand 30000000 ⟨0, 0⟩) with
  | some (t, _) =>
      match manager.step t (.completeSend 1 (some refusal) ⟨0, 0⟩) with
      | some (u, _) =>
          (s.connections.lookup sampleDevice).isSome && !(s.futures 0).done &&
            (u.connections.lookup sampleDevice).isNone && (u.futures 0).done
      | none => false
  | none => false

/-- A second command whose only argument is `NaN`: the schema and the domain type accept
it, the wire does not, and the failure of its send ends the session under the first. -/
theorem nan_argument_ends_session :
    ∃ s t events u events', Reachable manager s ∧
      readRequest (sampleBody (.float .nan)) = some (sampleRequest (.float .nan)) ∧
      Admitted sampleConfig s sampleRecord (sampleRequest (.float .nan)) ∧
      prepareCommand sampleConfig s sampleRecord sampleDevice .system "get_info"
        (sampleArguments (.float .nan)) ⟨4⟩ ⟨0, some 0⟩ = .ok nanCommand ∧
      (∀ messageId sessionId,
        encodes sampleRuntime sampleDump sampleIsoformat messageId sessionId nanCommand = false ∧
        sendFailure (encodes sampleRuntime sampleDump sampleIsoformat messageId sessionId) nanCommand
          sessionId = some refusal) ∧
      manager.step s (.execute 1 nanCommand 30000000 ⟨0, 0⟩) = some (t, events) ∧
      manager.step t (.completeSend 1 (some refusal) ⟨0, 0⟩) = some (u, events') ∧
      (s.connections.lookup sampleDevice).isSome ∧ (s.futures 0).done = false ∧
      (u.connections.lookup sampleDevice).isNone ∧ (u.futures 0).done = true := by
  obtain ⟨history, s, hrun, htest⟩ := exists_run_of_replay (S := manager)
    (s := Manager.Operations.State.initial)
    (sampleOnline ++ [sampleExecute 0 ⟨3⟩, .completeSend 0 none ⟨0, 0⟩])
    (fun _ s => admits s && dropsSession s) (by decide)
  rw [Bool.and_eq_true] at htest
  obtain ⟨hadmits, hdrops⟩ := htest
  have hrefused (messageId sessionId : UUID) :
      encodes sampleRuntime sampleDump sampleIsoformat messageId sessionId nanCommand = false := by
    by_contra hencodes
    have hcarried := carries_of_encodes (Bool.eq_true_of_not_eq_false hencodes)
    exact absurd hcarried.finite (by decide)
  unfold dropsSession at hdrops
  split at hdrops
  · rename_i t events hexecute
    split at hdrops
    · rename_i u events' hsend
      simp only [Bool.and_eq_true, Bool.not_eq_true'] at hdrops
      obtain ⟨⟨⟨hlive, hpending⟩, hgone⟩, hfailed⟩ := hdrops
      exact ⟨s, t, events, u, events', hrun.reachable, readRequest_sampleBody _,
        admitted_of_admits hadmits _, prepareCommand_nan hadmits,
        fun messageId sessionId => ⟨hrefused messageId sessionId,
          sendFailure_of_not_encodes (hrefused messageId sessionId) sessionId⟩,
        hexecute, hsend, hlive, hpending, hgone, hfailed⟩
    · cases hdrops
  · cases hdrops

end Samples

end JarvisCore.Protocol.Commands
