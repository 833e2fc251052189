import JarvisCore.Gateway.FrameOrder
import JarvisCore.Gateway.Outputs
import JarvisCore.Gateway.ReferenceMachine

namespace JarvisCore.Gateway.Conformance

open JarvisCore.Domain.Values
open JarvisCore.Domain.Errors
open JarvisCore.Domain.Models
open JarvisCore.Foundation.TransitionSystem
open JarvisCore.Manager.Operations (disconnect touch resolve)
open JarvisCore.Security.DeviceTables (sortedValues)
open JarvisCore.Service.Operations (Config Event Value)
open JarvisCore.Gateway.Handlers
open JarvisCore.Gateway.Operations (react receive greeted served callService finallyClause)
open JarvisCore.Gateway.Effects (beat_goes)
open JarvisCore.Gateway.Turns
open JarvisCore.Gateway.Sessions
open JarvisCore.Gateway.ReplayWindow
open JarvisCore.Gateway.ReferenceMachine
open JarvisCore.Gateway.Transports
open JarvisCore.Gateway.Transports.Transport (Evolves request_evolves)
open JarvisCore.Gateway.Frames
open JarvisCore.Gateway.Outputs
open JarvisCore.Gateway.Wire
open JarvisCore.Gateway.WireSteps
open JarvisCore.Gateway.FrameOrder

variable {Digest : Type} {config : Config Digest}

/-- The phase of the machine while a handler is at a stage. -/
def phaseOf : Handlers.Stage → Phase
  | .connecting _ | .sendingHello | .receivingHello => .awaitHello
  | .activating _ first => .asking first
  | .sendingReady | .receiving | .replying => .ready
  | .reporting _ | .closing _ | .awaitingHeartbeat | .finished => .closed

/-- The close that a handler still has to ask for. -/
def due : Handlers.Stage → List Nat
  | .reporting _ => [4400]
  | _ => []

structure Corresponds (handler : Handler) (m : Machine) : Prop where
  phase : m.phase = phaseOf handler.stage
  seen : m.phase ≠ .closed → Remembers messageReplayWindow handler.seenIds m.accepted
  outstanding : m.phase ≠ .closed → handler.heartbeatNonce = m.outstanding

/-- The job of a handler, and the close with which `_receive_message` has refused a frame,
are the output of the machine. -/
structure Emits (before after : Handlers.Stage) (job : Option Job) (refused : List Nat)
    (output : Output) : Prop where
  frames : output.frames = framesOf job
  closes : due before ++ output.close.toList = refused ++ codesOf job ++ due after

/-- The handler goes on as the machine does. -/
structure Agrees (settings : Settings) (g : Operations.State config)
    (action : Operations.Action config) (events : List (Event Digest)) (h : Nat)
    (before after : Handler) (refused : List Nat) (r : Machine × Output) : Prop where
  corresponds : Corresponds after r.1
  emits : Emits before.stage after.stage (handlerJob settings g action events h before after)
    refused r.2

section Jobs

variable {settings : Settings} {g : Operations.State config} {action : Operations.Action config}
  {events served : List (Event Digest)} {h : Nat} {before after handler : Handler}

/-- A stage at which the handler has no message to send and nothing to close. -/
def Silent : Handlers.Stage → Prop
  | .sendingHello | .sendingReady | .replying | .reporting _ | .closing _ => False
  | _ => True

theorem handlerJob_silent (hsilent : Silent after.stage) :
    handlerJob settings g action events h before after = none := by
  unfold handlerJob
  split
  · rfl
  · cases hstage : after.stage with
    | sendingHello | sendingReady | replying | reporting | closing =>
        rw [hstage] at hsilent
        exact hsilent.elim
    | connecting | receivingHello | activating | receiving | awaitingHeartbeat | finished =>
        simp [sentPayload, hstage]

theorem handlerJob_close {inBody : Bool} {code : Nat} {reason : String}
    (hstage : after.stage = .closing inBody) (hnew : after.stage ≠ before.stage) :
    handlerJob settings g action (served ++ closing h (.close after code reason)) h before after =
      some (.close code reason) := by
  unfold handlerJob
  rw [if_neg hnew, hstage]
  simp [closeRequest, closing]

theorem handlerJob_send {sessionId : UUID} {payload : ServerPayload}
    (hnew : after.stage ≠ before.stage)
    (hpayload : sentPayload settings g action before.stage after = some payload)
    (hsession : after.sessionId = some sessionId) :
    handlerJob settings g action events h before after = some (.send ⟨sessionId, payload⟩) := by
  unfold handlerJob
  rw [if_neg hnew]
  split
  · rename_i hstage
    simp [sentPayload, hstage] at hpayload
  · rw [hpayload, hsession]

theorem leave_silent (handler : Handler) : Silent (settle (.leave handler)).stage ∧
    phaseOf (settle (.leave handler)).stage = .closed ∧ due (settle (.leave handler)).stage = [] := by
  simp only [settle]
  split
  · exact ⟨trivial, rfl, rfl⟩
  · exact ⟨trivial, rfl, rfl⟩

theorem corresponds_closed {m : Machine} (hphase : m.phase = .closed)
    (hstage : phaseOf handler.stage = .closed) : Corresponds handler m where
  phase := hphase.trans hstage.symm
  seen hopen := absurd hphase hopen
  outstanding hopen := absurd hphase hopen

theorem agrees_leave {m : Machine} {output : Output} {refused : List Nat}
    (hphase : m.phase = .closed) (hframes : output.frames = [])
    (hcloses : due handler.stage ++ output.close.toList = refused) (seenIds : SeenIds) :
    Agrees settings g action events h handler (settle (.leave { handler with seenIds })) refused
      (m, output) := by
  obtain ⟨hsilent, hclosed, hdue⟩ := leave_silent { handler with seenIds }
  refine ⟨corresponds_closed hphase hclosed, ?_⟩
  rw [handlerJob_silent hsilent]
  constructor
  · exact hframes
  · rw [hdue, hcloses]
    simp [codesOf]

theorem stage_ne_of_open {stage stage' : Handlers.Stage} (hopen : phaseOf stage ≠ .closed)
    (hclosed : phaseOf stage' = .closed) : stage' ≠ stage := by
  rintro rfl
  exact hopen hclosed

theorem due_of_open {stage : Handlers.Stage} (hopen : phaseOf stage ≠ .closed) : due stage = [] := by
  cases stage with
  | reporting => exact absurd rfl hopen
  | connecting | sendingHello | receivingHello | activating | sendingReady | receiving | replying
  | closing | awaitingHeartbeat | finished => rfl

theorem emits_nothing {before after : Handlers.Stage} {call : Option Call}
    (hopen : phaseOf before ≠ .closed) (hdue : due after = []) :
    Emits before after none [] ⟨[], none, call⟩ where
  frames := rfl
  closes := by
    rw [due_of_open hopen, hdue]
    rfl

theorem agrees_reject {m : Machine} {sessionId : UUID} {seenIds : SeenIds} {inBody : Bool}
    {code detail : String} (hopen : phaseOf handler.stage ≠ .closed)
    (hsession : handler.sessionId = some sessionId)
    (hpayload : sentPayload settings g action handler.stage
      { handler with seenIds, stage := .reporting inBody } = some (.protocolError code detail)) :
    Agrees settings g action events h handler { handler with seenIds, stage := .reporting inBody } []
      (m.reject code detail) := by
  refine ⟨corresponds_closed rfl rfl, ?_⟩
  have hjob : handlerJob settings g action events h handler
      { handler with seenIds, stage := .reporting inBody } =
      some (.send ⟨sessionId, .protocolError code detail⟩) :=
    handlerJob_send (stage_ne_of_open hopen rfl) hpayload hsession
  rw [hjob]
  constructor
  · rfl
  · rw [due_of_open hopen]
    rfl

theorem agrees_send {m : Machine} {sessionId : UUID} {payload : ServerPayload} {call : Option Call}
    (hopen : phaseOf handler.stage ≠ .closed) (hcorresponds : Corresponds after m)
    (hnew : after.stage ≠ handler.stage) (hdue : due after.stage = [])
    (hpayload : sentPayload settings g action handler.stage after = some payload)
    (hsession : after.sessionId = some sessionId) :
    Agrees settings g action events h handler after [] (m, ⟨[payload], none, call⟩) := by
  refine ⟨hcorresponds, ?_⟩
  rw [handlerJob_send hnew hpayload hsession]
  constructor
  · rfl
  · rw [due_of_open hopen, hdue]
    rfl

theorem agrees_except {m : Machine} {sessionId : UUID} {error : Raised} (seenIds : SeenIds)
    (hopen : phaseOf handler.stage ≠ .closed) (hsession : handler.sessionId = some sessionId)
    (hevents : events = served ++ closing h (Handler.except { handler with seenIds } error)) :
    Agrees settings g action events h handler
      (settle (Handler.except { handler with seenIds } error)) [] (m.fail error) := by
  have hdue := due_of_open hopen
  subst hevents
  cases error with
  | disconnected | cancelled =>
      exact agrees_leave rfl rfl (by rw [hdue]; rfl) seenIds
  | device | valueError =>
      simp only [Handler.except]
      split
      · exact agrees_reject hopen hsession rfl
      · rename_i hnone
        cases hsession.symm.trans hnone
  | typeError | runtimeError | foreign =>
      refine ⟨corresponds_closed rfl rfl, ?_⟩
      have hjob : handlerJob settings g action
          (served ++ closing h (.close { handler with seenIds, stage := .closing false } 1011
            "Internal gateway error")) h handler { handler with seenIds, stage := .closing false } =
          some (.close 1011 "Internal gateway error") :=
        handlerJob_close rfl (stage_ne_of_open hopen rfl)
      constructor
      · exact (congrArg framesOf hjob).symm
      · rw [hdue]
        exact (congrArg (fun job => codesOf job ++ []) hjob).symm

end Jobs

variable [DecidableEq Digest]

/-- What the service is asked by a handler that takes a frame in; a handler that leaves ends
its session. -/
def Serves (service : Service.Operations.State config) (handler : Handler) (sessionId : UUID)
    (x : Nat) (now : AwareDatetime) (service' : Service.Operations.State config) :
    Option Call → Prop
  | some (.activate capabilities) => ∃ events,
      Service.Operations.step service
        (.start x (.activateDevice handler.deviceId sessionId capabilities)) =
        some (service', events)
  | some .touch =>
      service' = { service with
        manager := (touch service.manager handler.deviceId sessionId now).1 }
  | some (.resolve result) =>
      service' = { service with
        manager := (resolve service.manager handler.deviceId sessionId result).1 }
  | none =>
      service' = service ∨ service' = { service with
        manager := (disconnect service.manager handler.deviceId sessionId).1 }

section Frames

variable {settings : Settings} {s t : Operations.State config} {h x : Nat} {handler : Handler}
  {m : Machine} {sessionId : UUID} {message : Message} {clock : Datetime} {now : AwareDatetime}
  {events : List (Event Digest)}

/-- A handler takes a frame in as the machine does. -/
structure Takes (settings : Settings) (s : Operations.State config)
    (action : Operations.Action config) (h x : Nat) (handler : Handler) (sessionId : UUID)
    (now : AwareDatetime) (refused : List Nat) (t : Operations.State config)
    (events : List (Event Digest)) (r : Machine × Output) : Prop where
  goes : ∃ after, t.handlers h = some after ∧ after.heartbeat = handler.heartbeat ∧
    Agrees settings t action events h handler after refused r
  serves : Serves s.service handler sessionId x now t.service r.2.call

omit [DecidableEq Digest] in
theorem fresh_iff (hremembers : Remembers messageReplayWindow handler.seenIds m.accepted)
    (context : Context) (message : Message) :
    (m.Fresh context message → ∃ seenIds,
      handler.checkMessage context.sessionId message = .ok seenIds ∧
        Remembers messageReplayWindow seenIds (message.messageId :: m.accepted)) ∧
    (¬ m.Fresh context message → ∃ text,
      handler.checkMessage context.sessionId message = .error (.valueError text)) := by
  constructor
  · rintro ⟨hsession, hnew⟩
    obtain ⟨seenIds, haccepted, hafter⟩ := rememberMessage_accepted (by decide) hremembers hnew
    refine ⟨seenIds, ?_, hafter⟩
    simp [Handler.checkMessage, validateSession, hsession, haccepted]
  · intro hstale
    by_cases hsession : message.sessionId = context.sessionId
    · have hreplayed : message.messageId ∈ window messageReplayWindow m.accepted := by
        by_contra hnew
        exact hstale ⟨hsession, hnew⟩
      refine ⟨"message ID was replayed", ?_⟩
      simp only [Handler.checkMessage, validateSession, hsession, ne_eq, not_true_eq_false, if_false]
      exact rememberMessage_replayed hremembers hreplayed
    · exact ⟨"message session does not match the connection", by
        simp [Handler.checkMessage, validateSession, hsession]⟩

omit [DecidableEq Digest] in
theorem react_serves {reaction : Reaction}
    (hreaction : ∀ after, reaction = .leave after →
      after.deviceId = handler.deviceId ∧ after.sessionId = some sessionId) :
    (react s h reaction).1.service = s.service ∨ (react s h reaction).1.service = { s.service with
      manager := (disconnect s.service.manager handler.deviceId sessionId).1 } := by
  cases reaction with
  | await | close => exact .inl rfl
  | leave after =>
      obtain ⟨hdevice, hafter⟩ := hreaction after rfl
      have hends : (Operations.disconnectSession s h after).service = { s.service with
          manager := (disconnect s.service.manager handler.deviceId sessionId).1 } := by
        simp only [Operations.disconnectSession, hafter, hdevice]
        rfl
      unfold react finallyClause Operations.joinHeartbeat
      dsimp only
      split
      · exact .inr hends
      · split
        · exact .inr hends
        · split
          · exact .inl rfl
          · exact .inr hends
      · exact .inl rfl

omit [DecidableEq Digest] in
theorem except_session {error : Raised} (hsession : handler.sessionId = some sessionId)
    (seenIds : SeenIds) : ∀ after, Handler.except { handler with seenIds } error = .leave after →
      after.deviceId = handler.deviceId ∧ after.sessionId = some sessionId := by
  intro after hleave
  cases error with
  | disconnected | cancelled =>
      cases hleave
      exact ⟨rfl, hsession⟩
  | typeError | runtimeError | foreign => cases hleave
  | device | valueError =>
      simp only [Handler.except] at hleave
      split at hleave
      · cases hleave
      · cases hleave
        exact ⟨rfl, hsession⟩

theorem fail_call (m : Machine) (error : Raised) : (m.fail error).2.call = none := by
  cases error with
  | device | valueError | disconnected | cancelled | typeError | runtimeError | foreign => rfl

theorem takes_except {action : Operations.Action config} {error : Raised} (seenIds : SeenIds)
    (hopen : phaseOf handler.stage ≠ .closed) (hsession : handler.sessionId = some sessionId)
    (hreact : some (react s h (Handler.except { handler with seenIds } error)) = some (t, events)) :
    Takes settings s action h x handler sessionId now [] t events (m.fail error) := by
  have ht : (react s h (Handler.except { handler with seenIds } error)).1 = t :=
    congrArg Prod.fst (Option.some.inj hreact)
  have hevents : (react s h (Handler.except { handler with seenIds } error)).2 = events :=
    congrArg Prod.snd (Option.some.inj hreact)
  rw [react_events] at hevents
  constructor
  · refine ⟨settle (Handler.except { handler with seenIds } error), ?_, ?_, ?_⟩
    · rw [← ht, react_handlers]
      exact Function.update_self _ _ _
    · obtain ⟨stage, hsettle, -⟩ := settle_except { handler with seenIds } error
      rw [hsettle]
    · have hevents' : events =
          [] ++ closing h (Handler.except { handler with seenIds } error) := hevents.symm
      exact agrees_except seenIds hopen hsession hevents'
  · rw [fail_call, ← ht]
    exact react_serves (except_session hsession seenIds)

theorem takes_await {action : Operations.Action config} {after : Handler} {r : Machine × Output}
    {s₁ : Operations.State config} (hreact : some (react s₁ h (.await after)) = some (t, events))
    (hagrees : Agrees settings t action events h handler after [] r)
    (hserves : Serves s.service handler sessionId x now s₁.service r.2.call)
    (hheartbeat : after.heartbeat = handler.heartbeat) :
    Takes settings s action h x handler sessionId now [] t events r := by
  cases hreact
  exact ⟨⟨after, Operations.State.setHandler_self _ _ _, hheartbeat, hagrees⟩, hserves⟩

theorem takes_activate {action : Operations.Action config} {seenIds : SeenIds} {first : Bool}
    {capabilities : Finset DeviceCapability} (hopen : phaseOf handler.stage ≠ .closed)
    (hcall : callService s h { handler with seenIds, stage := .activating x first } x
      (.activateDevice handler.deviceId sessionId capabilities) = some (t, events))
    (hcorresponds : Corresponds handler m)
    (hremembers : Remembers messageReplayWindow seenIds (message.messageId :: m.accepted)) :
    Takes settings s action h x handler sessionId now [] t events
      (m.accept message (.asking first), ⟨[], none, some (.activate capabilities)⟩) := by
  obtain ⟨service, hstart, rfl⟩ := callService_eq_some hcall
  refine ⟨⟨_, Operations.State.setHandler_self _ _ _, rfl, ?_, ?_⟩, events, hstart⟩
  · refine ⟨rfl, fun _ => hremembers, fun _ => hcorresponds.outstanding ?_⟩
    rw [hcorresponds.phase]
    exact hopen
  · have hsilent : Silent (Handlers.Stage.activating x first) := trivial
    rw [handlerJob_silent hsilent]
    exact emits_nothing hopen rfl

theorem greeted_takes (hstage : handler.stage = .receivingHello)
    (hsession : handler.sessionId = some sessionId) (hcorresponds : Corresponds handler m)
    (hgreeted : greeted s h handler sessionId x message = some (t, events)) :
    Takes settings s (.received h x (.message message) clock now) h x handler sessionId now [] t
      events (m.readFirst ⟨settings, handler.deviceId, sessionId⟩ message) := by
  have hopen : phaseOf handler.stage ≠ .closed := by
    rw [hstage]
    exact Phase.noConfusion
  have hremembers := hcorresponds.seen (hcorresponds.phase ▸ hopen)
  obtain ⟨hfresh, hstale⟩ := fresh_iff hremembers ⟨settings, handler.deviceId, sessionId⟩ message
  have hreject : some (react s h (handler.awaitAt (.reporting true))) = some (t, events) →
      Takes settings s (.received h x (.message message) clock now) h x handler sessionId now [] t
        events (m.reject "device_hello_required" "device.hello must be the first message") := by
    intro hreact
    exact takes_await hreact (agrees_reject hopen hsession rfl) (.inl rfl) rfl
  unfold greeted at hgreeted
  unfold Machine.readFirst
  cases hpayload : message.payload with
  | hello capabilities =>
      rw [hpayload] at hgreeted
      simp only at hgreeted ⊢
      split
      · rename_i hmessage
        obtain ⟨seenIds, hcheck, hafter⟩ := hfresh hmessage
        rw [hcheck] at hgreeted
        exact takes_activate hopen hgreeted hcorresponds hafter
      · rename_i hmessage
        obtain ⟨text, hcheck⟩ := hstale hmessage
        rw [hcheck] at hgreeted
        exact takes_except handler.seenIds hopen hsession hgreeted
  | _ =>
      rw [hpayload] at hgreeted
      exact hreject hgreeted

omit [DecidableEq Digest] in
theorem agrees_ready {action : Operations.Action config} {after : Handler} {m' : Machine}
    {call : Option Call} (hopen : phaseOf handler.stage ≠ .closed) (hphase : m'.phase = .ready)
    (hremembers : Remembers messageReplayWindow after.seenIds m'.accepted)
    (houtstanding : after.heartbeatNonce = m'.outstanding) (hafter : after.stage = .receiving) :
    Agrees settings t action events h handler after [] (m', ⟨[], none, call⟩) := by
  have hsilent : Silent after.stage := hafter ▸ trivial
  refine ⟨⟨?_, fun _ => hremembers, fun _ => houtstanding⟩, ?_⟩
  · rw [hafter]
    exact hphase
  · rw [handlerJob_silent hsilent, hafter]
    exact emits_nothing hopen rfl

omit [DecidableEq Digest] in
theorem agrees_result {seenIds : SeenIds} {commandId : UUID} {succeeded : Bool} {output : JsonValue}
    {error : Option String} {call : Option Call} (hopen : phaseOf handler.stage ≠ .closed)
    (hstage : handler.stage = .receiving) (hsession : handler.sessionId = some sessionId)
    (hpayload : message.payload = .result commandId succeeded output error)
    (hremembers : Remembers messageReplayWindow seenIds (message.messageId :: m.accepted))
    (houtstanding : handler.heartbeatNonce = m.outstanding) (resolved : Bool) :
    Agrees settings t (.received h x (.message message) clock now) events h handler
      { handler with seenIds, stage := if resolved then .receiving else .replying } []
      (m.accept message .ready,
        { frames :=
            if resolved then [] else [.commandResultRejected commandId "command_is_not_pending"]
          close := none
          call }) := by
  cases resolved with
  | true => exact agrees_ready hopen rfl hremembers houtstanding rfl
  | false =>
      let action : Operations.Action config := .received h x (.message message) clock now
      let after : Handler := { handler with seenIds, stage := .replying }
      have hrejection : rejection action =
          .commandResultRejected commandId "command_is_not_pending" := by
        obtain ⟨messageId, receivedId, payload⟩ := message
        obtain rfl : payload = _ := hpayload
        rfl
      have hsent : sentPayload settings t action handler.stage after =
          some (.commandResultRejected commandId "command_is_not_pending") := by
        rw [hstage]
        exact congrArg some hrejection
      have hnew : Handlers.Stage.replying ≠ handler.stage := by
        rw [hstage]
        exact Handlers.Stage.noConfusion
      have hcorresponds : Corresponds after (m.accept message .ready) :=
        ⟨rfl, fun _ => hremembers, fun _ => houtstanding⟩
      exact agrees_send hopen hcorresponds hnew rfl hsent hsession

theorem served_takes (hstage : handler.stage = .receiving)
    (hsession : handler.sessionId = some sessionId) (hcorresponds : Corresponds handler m)
    (hserved : served s h handler sessionId x message clock now = some (t, events)) :
    Takes settings s (.received h x (.message message) clock now) h x handler sessionId now [] t
      events (m.readReady ⟨settings, handler.deviceId, sessionId⟩ message clock
        fun result => (resolve s.service.manager handler.deviceId sessionId result).2) := by
  have hopen : phaseOf handler.stage ≠ .closed := by
    rw [hstage]
    exact Phase.noConfusion
  have hmachine : m.phase ≠ .closed := hcorresponds.phase ▸ hopen
  have hremembers := hcorresponds.seen hmachine
  have houtstanding := hcorresponds.outstanding hmachine
  obtain ⟨hfresh, hstale⟩ := fresh_iff hremembers ⟨settings, handler.deviceId, sessionId⟩ message
  unfold served at hserved
  unfold Machine.readReady
  split
  · rename_i hmessage
    obtain ⟨seenIds, hcheck, hafter⟩ := hfresh hmessage
    rw [hcheck] at hserved
    dsimp only at hserved
    cases hpayload : message.payload with
    | hello capabilities =>
        simp only [hpayload] at hserved ⊢
        exact takes_except seenIds hopen hsession hserved
    | pong nonce =>
        simp only [hpayload] at hserved ⊢
        split at hserved
        · rename_i hnonce
          rw [if_pos (houtstanding ▸ hnonce)]
          exact takes_await hserved (agrees_ready hopen rfl hafter rfl hstage) rfl rfl
        · rename_i hnonce
          rw [if_neg (houtstanding ▸ hnonce)]
          exact takes_except seenIds hopen hsession hserved
    | update capabilities =>
        simp only [hpayload] at hserved ⊢
        exact takes_activate hopen hserved hcorresponds hafter
    | result commandId succeeded output error =>
        simp only [hpayload] at hserved ⊢
        cases hmake : DeviceCommandResult.make commandId handler.deviceId succeeded output error clock with
        | error raised =>
            obtain ⟨text, rfl⟩ := DeviceCommandResult.make_error hmake
            simp only [hmake] at hserved
            exact takes_except seenIds hopen hsession hserved
        | ok result =>
            simp only [hmake] at hserved
            refine takes_await hserved ?_ rfl rfl
            exact agrees_result hopen hstage hsession hpayload hafter houtstanding _
  · rename_i hmessage
    obtain ⟨text, hcheck⟩ := hstale hmessage
    rw [hcheck] at hserved
    exact takes_except handler.seenIds hopen hsession hserved

/-- A handler that leaves because of the frame. -/
theorem takes_leave {action : Operations.Action config} {code : Nat}
    (hopen : phaseOf handler.stage ≠ .closed) (hsession : handler.sessionId = some sessionId)
    (hreact : some (react s h (.leave handler)) = some (t, events)) :
    Takes settings s action h x handler sessionId now [code] t events
      (m.close, ⟨[], some code, none⟩) := by
  have ht : (react s h (.leave handler)).1 = t := congrArg Prod.fst (Option.some.inj hreact)
  constructor
  · refine ⟨settle (.leave handler), ?_, rfl, ?_⟩
    · rw [← ht, react_handlers]
      exact Function.update_self _ _ _
    · exact agrees_leave rfl rfl (by rw [due_of_open hopen]; rfl) handler.seenIds
  · rw [← ht]
    refine react_serves ?_
    rintro after heq
    cases heq
    exact ⟨rfl, hsession⟩

theorem read_takes {action : Operations.Action config} {event : Inbound} {closing : Option Raised}
    {context : Context} {read : Message → Machine × Output}
    (hsettings : context.settings = settings) (hopen : phaseOf handler.stage ≠ .closed)
    (hsession : handler.sessionId = some sessionId)
    (hclosing : event.refusal settings ≠ none → closing = none)
    (hmessage : ∀ message, receiveMessage settings event closing = .message message →
      Takes settings s action h x handler sessionId now [] t events (read message))
    (hleave : receiveMessage settings event closing = .protocolClosed →
      some (react s h (.leave handler)) = some (t, events))
    (hraise : ∀ error, receiveMessage settings event closing = .raised error →
      some (react s h (handler.except error)) = some (t, events)) :
    Takes settings s action h x handler sessionId now (event.refusal settings).toList t events
      (m.read context event read) := by
  subst hsettings
  unfold Machine.read
  cases hrefusal : event.refusal context.settings with
  | some code =>
      obtain rfl := hclosing (by simp [hrefusal])
      exact takes_leave hopen hsession (hleave (by simp [receiveMessage, hrefusal]))
  | none =>
      cases event with
      | binary => cases hrefusal
      | disconnect =>
          have hraised : receiveMessage context.settings .disconnect closing =
              .raised .disconnected := rfl
          exact takes_except handler.seenIds hopen hsession (hraise _ hraised)
      | text raw =>
          dsimp only
          cases hdecode : context.settings.decode raw with
          | some message =>
              exact hmessage message (by simp [receiveMessage, hrefusal, hdecode])
          | none =>
              have hraised : receiveMessage context.settings (.text raw) closing = .raised
                  (.valueError "Message does not match the device protocol") := by
                simp [receiveMessage, hrefusal, hdecode]
              exact takes_except handler.seenIds hopen hsession (hraise _ hraised)

/-- Whatever comes in, the handler does what the machine does. -/
theorem receive_takes {event : Inbound} {closing : Option Raised}
    (hsession : handler.sessionId = some sessionId) (hcorresponds : Corresponds handler m)
    (hclosing : event.refusal settings ≠ none → closing = none)
    (hreceive : receive s h handler x (receiveMessage settings event closing) clock now =
      some (t, events)) :
    Takes settings s (.received h x (receiveMessage settings event closing) clock now) h x handler
      sessionId now (event.refusal settings).toList t events
      (m.step ⟨settings, handler.deviceId, sessionId⟩ (.frame event clock fun result =>
        (resolve s.service.manager handler.deviceId sessionId result).2)) := by
  have hphase := hcorresponds.phase
  unfold Machine.step
  cases hstage : handler.stage with
  | receivingHello =>
      have hopen : phaseOf handler.stage ≠ .closed := by
        rw [hstage]
        exact Phase.noConfusion
      have hawaits : m.phase = .awaitHello := by
        rw [hphase, hstage]
        rfl
      simp only [hawaits]
      refine read_takes rfl hopen hsession hclosing ?_ ?_ ?_
      · intro message hmessage
        rw [hmessage] at hreceive ⊢
        simp only [receive, hstage, hsession] at hreceive
        exact greeted_takes hstage hsession hcorresponds hreceive
      · intro hclosed
        rw [hclosed] at hreceive
        simpa only [receive, hstage] using hreceive
      · intro error hraised
        rw [hraised] at hreceive
        simpa only [receive, hstage] using hreceive
  | receiving =>
      have hopen : phaseOf handler.stage ≠ .closed := by
        rw [hstage]
        exact Phase.noConfusion
      have hready : m.phase = .ready := by
        rw [hphase, hstage]
        rfl
      simp only [hready]
      refine read_takes rfl hopen hsession hclosing ?_ ?_ ?_
      · intro message hmessage
        rw [hmessage] at hreceive ⊢
        simp only [receive, hstage, hsession] at hreceive
        exact served_takes hstage hsession hcorresponds hreceive
      · intro hclosed
        rw [hclosed] at hreceive
        simpa only [receive, hstage] using hreceive
      · intro error hraised
        rw [hraised] at hreceive
        simpa only [receive, hstage] using hreceive
  | connecting | sendingHello | activating | sendingReady | replying | reporting | closing
  | awaitingHeartbeat | finished =>
      simp [receive, hstage] at hreceive

end Frames

end JarvisCore.Gateway.Conformance
