import JarvisCore.Gateway.ReplayWindow
import JarvisCore.Gateway.Wire

/-!
The connection state machine of the protocol document, for one session: what Core answers
to the frames of the Agent, when it closes, and what it asks of the service.
-/

namespace JarvisCore.Gateway.ReferenceMachine

open JarvisCore.Domain.Values
open JarvisCore.Domain.Errors
open JarvisCore.Domain.Models
open JarvisCore.Gateway.Handlers
open JarvisCore.Gateway.ReplayWindow
open JarvisCore.Gateway.Transports
open JarvisCore.Gateway.Wire

/-- What the machine knows of its session from the start. -/
structure Context where
  settings : Settings
  deviceId : UUID
  sessionId : UUID

inductive Phase
  | awaitHello
  /-- The service is being asked to activate the session: because of the first frame, or of
  a later one. -/
  | asking (first : Bool)
  | ready
  | closed
  deriving DecidableEq

/-- `accepted` are the identifiers of the accepted messages, the latest one first, and
`outstanding` is the nonce of the ping that waits for its pong. -/
structure Machine where
  phase : Phase
  accepted : List UUID
  outstanding : Option UUID

inductive Input
  /-- `resolves` tells which results a pending command waits for. -/
  | frame (event : Inbound) (clock : Datetime) (resolves : DeviceCommandResult → Bool)
  | answered (answer : Except Raised (List String))
  | pinged (nonce : UUID)

/-- What the machine asks of the service. -/
inductive Call
  | activate (capabilities : Finset DeviceCapability)
  | touch
  | resolve (result : DeviceCommandResult)

structure Output where
  frames : List ServerPayload
  close : Option Nat
  call : Option Call

def Output.nothing : Output := ⟨[], none, none⟩

namespace Machine

def start : Machine := ⟨.awaitHello, [], none⟩

def close (m : Machine) : Machine := { m with phase := .closed }

/-- `protocol.error`, and then the close. -/
def reject (m : Machine) (code detail : String) : Machine × Output :=
  (m.close, ⟨[.protocolError code detail], some 4400, none⟩)

def invalid (m : Machine) : Machine × Output :=
  m.reject "invalid_message" "Message does not match the device protocol"

/-- The service raises while it is being asked. -/
def fail (m : Machine) : Raised → Machine × Output
  | .device _ | .valueError _ => m.invalid
  | .disconnected | .cancelled => (m.close, .nothing)
  | .typeError _ | .runtimeError _ | .foreign _ => (m.close, ⟨[], some 1011, none⟩)

/-- The message belongs to the session, and it is no replay. -/
def Fresh (context : Context) (m : Machine) (message : Message) : Prop :=
  message.sessionId = context.sessionId ∧
    message.messageId ∉ window messageReplayWindow m.accepted

instance (context : Context) (m : Machine) (message : Message) :
    Decidable (m.Fresh context message) :=
  inferInstanceAs (Decidable (_ ∧ _))

def accept (m : Machine) (message : Message) (phase : Phase) : Machine :=
  { m with phase, accepted := message.messageId :: m.accepted }

def readFirst (context : Context) (m : Machine) (message : Message) : Machine × Output :=
  match message.payload with
  | .hello capabilities =>
      if m.Fresh context message then
        (m.accept message (.asking true), ⟨[], none, some (.activate capabilities)⟩)
      else m.invalid
  | _ => m.reject "device_hello_required" "device.hello must be the first message"

def readReady (context : Context) (m : Machine) (message : Message) (clock : Datetime)
    (resolves : DeviceCommandResult → Bool) : Machine × Output :=
  if m.Fresh context message then
    match message.payload with
    | .hello _ => m.invalid
    | .pong nonce =>
        if m.outstanding = some nonce then
          ({ m.accept message .ready with outstanding := none }, ⟨[], none, some .touch⟩)
        else m.invalid
    | .update capabilities =>
        (m.accept message (.asking false), ⟨[], none, some (.activate capabilities)⟩)
    | .result commandId succeeded output error =>
        match DeviceCommandResult.make commandId context.deviceId succeeded output error clock with
        | .error _ => m.invalid
        | .ok result =>
            (m.accept message .ready,
              { frames :=
                  if resolves result then []
                  else [.commandResultRejected commandId "command_is_not_pending"]
                close := none
                call := some (.resolve result) })
  else m.invalid

/-- A frame comes in while the machine waits for one. -/
def read (context : Context) (m : Machine) (event : Inbound)
    (message : Message → Machine × Output) : Machine × Output :=
  match event.refusal context.settings, event with
  | some code, _ => (m.close, ⟨[], some code, none⟩)
  | none, .text raw =>
      match context.settings.decode raw with
      | some decoded => message decoded
      | none => m.invalid
  | none, _ => (m.close, .nothing)

def step (context : Context) (m : Machine) : Input → Machine × Output
  | .pinged nonce => ({ m with outstanding := some nonce }, .nothing)
  | .answered (.ok effective) =>
      match m.phase with
      | .asking true =>
          ({ m with phase := .ready }, ⟨[.serverReady context.deviceId effective], none, none⟩)
      | .asking false =>
          ({ m with phase := .ready }, ⟨[.capabilitiesAck effective], none, none⟩)
      | _ => (m, .nothing)
  | .answered (.error error) =>
      match m.phase with
      | .asking _ => m.fail error
      | _ => (m, .nothing)
  | .frame event clock resolves =>
      match m.phase with
      | .awaitHello => m.read context event (m.readFirst context)
      | .ready => m.read context event fun message => m.readReady context message clock resolves
      | _ => (m, .nothing)

end Machine

/-- What the machine has come to, and its frames and closes so far. -/
structure Outcome where
  machine : Machine
  frames : List ServerPayload
  closes : List Nat

/-- `server.hello` is sent before the first input. -/
def Outcome.start (context : Context) : Outcome where
  machine := .start
  frames := [.serverHello context.deviceId context.settings.heartbeatIntervalSeconds
    context.settings.maxMessageBytes]
  closes := []

def Outcome.feed (context : Context) (outcome : Outcome) (input : Input) : Outcome :=
  let (machine, output) := outcome.machine.step context input
  ⟨machine, outcome.frames ++ output.frames, outcome.closes ++ output.close.toList⟩

def run (context : Context) (inputs : List Input) : Outcome :=
  inputs.foldl (Outcome.feed context) (.start context)

/-- The checks after which the machine asks the service for something. -/
inductive Checked (context : Context) (m : Machine) (clock : Datetime) (message : Message) :
    Call → Prop
  | hello (capabilities : Finset DeviceCapability) : m.phase = .awaitHello →
      message.payload = .hello capabilities →
      Checked context m clock message (.activate capabilities)
  | update (capabilities : Finset DeviceCapability) : m.phase = .ready →
      message.payload = .update capabilities →
      Checked context m clock message (.activate capabilities)
  | pong (nonce : UUID) : m.phase = .ready → message.payload = .pong nonce →
      m.outstanding = some nonce → Checked context m clock message .touch
  | result (commandId : UUID) (succeeded : Bool) (output : JsonValue) (error : Option String)
      (result : DeviceCommandResult) : m.phase = .ready →
      message.payload = .result commandId succeeded output error →
      DeviceCommandResult.make commandId context.deviceId succeeded output error clock =
        .ok result → Checked context m clock message (.resolve result)

def IsError : ServerPayload → Prop
  | .protocolError _ _ => True
  | _ => False

/-- The machine closes at most once, and after an error message it sends nothing more. -/
structure Ended (outcome : Outcome) : Prop where
  opened : outcome.machine.phase ≠ .closed →
    outcome.closes = [] ∧ ∀ payload ∈ outcome.frames, ¬ IsError payload
  once : outcome.closes.length ≤ 1
  error : ∀ earlier payload later, outcome.frames = earlier ++ payload :: later →
    IsError payload → later = [] ∧ outcome.closes = [4400]

section Runs

variable {context : Context} {m : Machine} {outcome : Outcome} {input : Input}

theorem run_append (inputs more : List Input) :
    run context (inputs ++ more) = more.foldl (Outcome.feed context) (run context inputs) :=
  List.foldl_append

theorem step_closed (hclosed : m.phase = .closed) (input : Input) :
    (m.step context input).1.phase = .closed ∧ (m.step context input).2 = .nothing := by
  cases input with
  | pinged nonce => exact ⟨hclosed, rfl⟩
  | answered answer =>
      cases answer with
      | ok effective => simp [Machine.step, hclosed]
      | error error => simp [Machine.step, hclosed]
  | frame event clock resolves => simp [Machine.step, hclosed]

theorem readFirst_call {message : Message} {clock : Datetime} {call : Call}
    (hphase : m.phase = .awaitHello) (hcall : (m.readFirst context message).2.call = some call) :
    m.Fresh context message ∧ Checked context m clock message call := by
  unfold Machine.readFirst at hcall
  split at hcall
  · rename_i capabilities hpayload
    split at hcall
    · rename_i hfresh
      cases hcall
      exact ⟨hfresh, .hello capabilities hphase hpayload⟩
    · cases hcall
  · cases hcall

theorem readReady_call {message : Message} {clock : Datetime} {call : Call}
    {resolves : DeviceCommandResult → Bool} (hphase : m.phase = .ready)
    (hcall : (m.readReady context message clock resolves).2.call = some call) :
    m.Fresh context message ∧ Checked context m clock message call := by
  unfold Machine.readReady at hcall
  split at hcall
  · rename_i hfresh
    refine ⟨hfresh, ?_⟩
    split at hcall
    · cases hcall
    · rename_i nonce hpayload
      split at hcall
      · rename_i hnonce
        cases hcall
        exact .pong nonce hphase hpayload hnonce
      · cases hcall
    · rename_i capabilities hpayload
      cases hcall
      exact .update capabilities hphase hpayload
    · rename_i commandId succeeded output error hpayload
      split at hcall
      · cases hcall
      · rename_i result hmake
        cases hcall
        exact .result commandId succeeded output error result hphase hpayload hmake
  · cases hcall

/-- The machine asks the service only because of a text frame that has been decoded, that
belongs to the session and is no replay, and that has its place in the state. -/
theorem step_call {event : Inbound} {clock : Datetime} {resolves : DeviceCommandResult → Bool}
    {call : Call} (hcall : (m.step context (.frame event clock resolves)).2.call = some call) :
    ∃ raw message, event = .text raw ∧ event.refusal context.settings = none ∧
      context.settings.decode raw = some message ∧ m.Fresh context message ∧
      Checked context m clock message call := by
  have read {f : Message → Machine × Output}
      (hread : (m.read context event f).2.call = some call) :
      ∃ raw message, event = .text raw ∧ event.refusal context.settings = none ∧
        context.settings.decode raw = some message ∧ (f message).2.call = some call := by
    unfold Machine.read at hread
    split at hread
    · cases hread
    · rename_i raw hrefusal
      split at hread
      · rename_i message hdecode
        exact ⟨raw, message, rfl, hrefusal, hdecode, hread⟩
      · cases hread
    · cases hread
  unfold Machine.step at hcall
  split at hcall
  · rename_i heq
    cases heq
  · rename_i heq
    cases heq
  · rename_i heq
    cases heq
  · rename_i heq
    cases heq
    split at hcall
    · rename_i hphase
      obtain ⟨raw, message, htext, hrefusal, hdecode, hmessage⟩ := read hcall
      exact ⟨raw, message, htext, hrefusal, hdecode, readFirst_call hphase hmessage⟩
    · rename_i hphase
      obtain ⟨raw, message, htext, hrefusal, hdecode, hmessage⟩ := read hcall
      exact ⟨raw, message, htext, hrefusal, hdecode, readReady_call hphase hmessage⟩
    · cases hcall

/-- What the machine can yield while it is open. -/
inductive Yields : Machine × Output → Prop
  | goes (r : Machine × Output) : r.1.phase ≠ .closed → r.2.close = none →
      (∀ payload ∈ r.2.frames, ¬ IsError payload) → Yields r
  | rejects (m : Machine) (code detail : String) : Yields (m.reject code detail)
  | closes (r : Machine × Output) : r.1.phase = .closed → r.2.frames = [] → Yields r

theorem fail_yields (m : Machine) (error : Raised) : Yields (m.fail error) := by
  cases error with
  | device | valueError => exact .rejects m _ _
  | disconnected | cancelled | typeError | runtimeError | foreign => exact .closes _ rfl rfl

theorem readFirst_yields (context : Context) (m : Machine) (message : Message) :
    Yields (m.readFirst context message) := by
  unfold Machine.readFirst
  split
  · split
    · exact .goes _ Phase.noConfusion rfl (by simp)
    · exact .rejects m _ _
  · exact .rejects m _ _

theorem readReady_yields (context : Context) (m : Machine) (message : Message) (clock : Datetime)
    (resolves : DeviceCommandResult → Bool) :
    Yields (m.readReady context message clock resolves) := by
  unfold Machine.readReady
  split
  · split
    · exact .rejects m _ _
    · split
      · exact .goes _ Phase.noConfusion rfl (by simp)
      · exact .rejects m _ _
    · exact .goes _ Phase.noConfusion rfl (by simp)
    · split
      · exact .rejects m _ _
      · refine .goes _ Phase.noConfusion rfl ?_
        intro payload hmem
        dsimp only at hmem
        split at hmem
        · cases hmem
        · obtain rfl := List.mem_singleton.mp hmem
          exact id
  · exact .rejects m _ _

theorem read_yields {event : Inbound} {f : Message → Machine × Output}
    (hf : ∀ message, Yields (f message)) : Yields (m.read context event f) := by
  unfold Machine.read
  split
  · exact .closes _ rfl rfl
  · split
    · exact hf _
    · exact .rejects m _ _
  · exact .closes _ rfl rfl

theorem step_yields (hopen : m.phase ≠ .closed) (input : Input) : Yields (m.step context input) := by
  have rests : Yields (m, .nothing) := .goes _ hopen rfl (by simp [Output.nothing])
  unfold Machine.step
  split
  · exact .goes _ hopen rfl (by simp [Output.nothing])
  · split
    · exact .goes _ Phase.noConfusion rfl (by simp [IsError])
    · exact .goes _ Phase.noConfusion rfl (by simp [IsError])
    · exact rests
  · split
    · exact fail_yields m _
    · exact rests
  · split
    · exact read_yields (readFirst_yields context m)
    · exact read_yields fun message => readReady_yields context m message _ _
    · exact rests

theorem Ended.feed (h : Ended outcome) (input : Input) : Ended (outcome.feed context input) := by
  by_cases hclosed : outcome.machine.phase = .closed
  · have hstays : (outcome.machine.step context input).1.phase = .closed ∧
        (outcome.machine.step context input).2 = .nothing := step_closed hclosed input
    obtain ⟨hphase, hnothing⟩ := hstays
    have hsame : (outcome.feed context input).frames = outcome.frames ∧
        (outcome.feed context input).closes = outcome.closes := by
      simp [Outcome.feed, hnothing, Output.nothing]
    refine ⟨fun hopen => absurd hphase hopen, hsame.2 ▸ h.once, ?_⟩
    rw [hsame.1, hsame.2]
    exact h.error
  · obtain ⟨hcloses, hframes⟩ := h.opened hclosed
    have hyields : Yields (outcome.machine.step context input) := step_yields hclosed input
    unfold Outcome.feed
    cases hstep : outcome.machine.step context input with
    | mk machine output =>
        rw [hstep] at hyields
        have clean {frames : List ServerPayload} (hnone : ∀ payload ∈ frames, ¬ IsError payload)
            {earlier later : List ServerPayload} {payload : ServerPayload}
            (heq : frames = earlier ++ payload :: later) (herror : IsError payload) : False :=
          hnone payload (heq ▸ List.mem_append_right _ List.mem_cons_self) herror
        cases hyields with
        | goes _ hopen hclose hnone =>
            have hall : ∀ payload ∈ outcome.frames ++ output.frames, ¬ IsError payload := by
              intro payload hmem
              rcases List.mem_append.mp hmem with hold | hnew
              · exact hframes payload hold
              · exact hnone payload hnew
            have hclose : output.close = none := hclose
            refine ⟨fun _ => ⟨?_, hall⟩, ?_, ?_⟩
            · simp [hcloses, hclose]
            · simp [hcloses, hclose]
            · intro earlier payload later heq herror
              exact (clean hall heq herror).elim
        | rejects m code detail =>
            refine ⟨fun hopen => absurd rfl hopen, ?_, ?_⟩
            · simp [hcloses]
            · intro earlier payload later heq herror
              refine ⟨?_, by simp [hcloses]⟩
              rcases List.eq_nil_or_concat' later with rfl | ⟨init, last, rfl⟩
              · rfl
              · rw [← List.cons_append, ← List.append_assoc] at heq
                obtain ⟨hbefore, -⟩ := List.append_inj' heq rfl
                exact (clean hframes hbefore herror).elim
        | closes _ hphase hnone =>
            have hnone : output.frames = [] := hnone
            refine ⟨fun hopen => absurd hphase hopen, ?_, ?_⟩
            · rw [hcloses]
              cases output.close with
              | none => simp
              | some code => simp
            · intro earlier payload later heq herror
              have hall : outcome.frames ++ output.frames = earlier ++ payload :: later := heq
              rw [hnone, List.append_nil] at hall
              exact (clean hframes hall herror).elim

theorem run_ended (context : Context) (inputs : List Input) : Ended (run context inputs) := by
  have hstart : Ended (Outcome.start context) := by
    refine ⟨fun _ => ⟨rfl, ?_⟩, Nat.zero_le 1, ?_⟩
    · simp [Outcome.start, IsError]
    · intro earlier payload later heq herror
      cases earlier with
      | nil =>
          cases heq
          exact herror.elim
      | cons first rest =>
          obtain ⟨-, htail⟩ := List.cons.inj heq
          exact absurd htail.symm (List.append_ne_nil_of_right_ne_nil _ (List.cons_ne_nil _ _))
  have hall (outcome : Outcome) (h : Ended outcome) :
      Ended (inputs.foldl (Outcome.feed context) outcome) := by
    induction inputs generalizing outcome with
    | nil => exact h
    | cons input inputs ih => exact ih _ (h.feed input)
  exact hall _ hstart

end Runs

end JarvisCore.Gateway.ReferenceMachine
