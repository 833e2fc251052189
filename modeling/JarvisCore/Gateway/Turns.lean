import JarvisCore.Gateway.Effects

namespace JarvisCore.Gateway.Turns

open JarvisCore.Domain.Values
open JarvisCore.Domain.Errors
open JarvisCore.Domain.Models
open JarvisCore.Foundation.TransitionSystem
open JarvisCore.Manager.Operations (disconnect touch resolve)
open JarvisCore.Service.Operations (Config Request Value Event)
open JarvisCore.Service.CallSteps (callOf)
open JarvisCore.Gateway.Handlers
open JarvisCore.Gateway.Operations
open JarvisCore.Gateway.Effects

/-- What a handler that runs again is told. `resolved` is the answer of the manager to a
result that the handler has passed on. -/
inductive Stimulus
  | answered (outcome : Except Raised Value)
  | sent (failure : Option Raised)
  | received (call : Nat) (received : Received) (clock : Datetime) (resolved : Bool)
  | closed (failure : Option Raised)
  | joined

/-- What `_protocol_error` suppresses when it sends. -/
def Suppressed : Option Raised → Prop
  | none | some .disconnected | some (.runtimeError _) => True
  | _ => False

/-- The message has passed the session and the replay check, and the loop raises. -/
inductive Misplaced (handler : Handler) (clock : Datetime) (text : String) : Payload → Prop
  | hello (capabilities : Finset DeviceCapability) :
      text = "message is not valid in the ready state" →
      Misplaced handler clock text (.hello capabilities)
  | pong (nonce : UUID) : handler.heartbeatNonce ≠ some nonce →
      text = "unexpected heartbeat nonce" → Misplaced handler clock text (.pong nonce)
  | result (commandId : UUID) (succeeded : Bool) (output : JsonValue) (error : Option String) :
      DeviceCommandResult.make commandId handler.deviceId succeeded output error clock =
        .error (.valueError text) →
      Misplaced handler clock text (.result commandId succeeded output error)

/-- The body of the `try` statement raises; the second index is `seen_ids` by then. -/
inductive Raises (handler : Handler) : Stimulus → SeenIds → Raised → Prop
  | answered (x : Nat) (error : Raised) : awaitedCall handler.stage = some x →
      Raises handler (.answered (.error error)) handler.seenIds error
  | sending (error : Raised) : handler.stage = .sendingHello ∨ handler.stage = .sendingReady ∨
      handler.stage = .replying → Raises handler (.sent (some error)) handler.seenIds error
  | reporting (error : Raised) : handler.stage = .reporting true → ¬ Suppressed (some error) →
      Raises handler (.sent (some error)) handler.seenIds error
  | closing (error : Raised) : handler.stage = .closing true →
      Raises handler (.closed (some error)) handler.seenIds error
  | receiving (x : Nat) (error : Raised) (clock : Datetime) (resolved : Bool) :
      handler.stage = .receivingHello ∨ handler.stage = .receiving →
      Raises handler (.received x (.raised error) clock resolved) handler.seenIds error
  | refused (x : Nat) (message : Message) (clock : Datetime) (resolved : Bool) (sessionId : UUID)
      (text : String) : (handler.stage = .receivingHello ∧
        ∃ capabilities, message.payload = .hello capabilities) ∨ handler.stage = .receiving →
      handler.sessionId = some sessionId →
      handler.checkMessage sessionId message = .error (.valueError text) →
      Raises handler (.received x (.message message) clock resolved) handler.seenIds
        (.valueError text)
  | misplaced (x : Nat) (message : Message) (clock : Datetime) (resolved : Bool)
      (sessionId : UUID) (seenIds : SeenIds) (text : String) : handler.stage = .receiving →
      handler.sessionId = some sessionId → handler.checkMessage sessionId message = .ok seenIds →
      Misplaced handler clock text message.payload →
      Raises handler (.received x (.message message) clock resolved) seenIds (.valueError text)

/-- The handler goes on to its `finally` clause, or has waited there for the heartbeat task. -/
inductive Departs (handler : Handler) : Stimulus → Prop
  | unreported (error : Raised) : handler.stage = .reporting false → ¬ Suppressed (some error) →
      Departs handler (.sent (some error))
  | closed (inBody : Bool) : handler.stage = .closing inBody → Departs handler (.closed none)
  | unclosed (error : Raised) : handler.stage = .closing false →
      Departs handler (.closed (some error))
  | frame (x : Nat) (clock : Datetime) (resolved : Bool) :
      handler.stage = .receivingHello ∨ handler.stage = .receiving →
      Departs handler (.received x .protocolClosed clock resolved)
  | joined (outcome : Except Raised Unit) : handler.stage = .awaitingHeartbeat →
      handler.heartbeat = some (.done outcome) → Departs handler .joined

inductive Turn (handler : Handler) : Stimulus → Reaction → Prop
  | connected (x : Nat) (sessionId : UUID) : handler.stage = .connecting x →
      Turn handler (.answered (.ok (.session sessionId)))
        (.await { handler with sessionId := some sessionId, stage := .sendingHello })
  | activated (x : Nat) (first : Bool) (value : Value) : handler.stage = .activating x first →
      Turn handler (.answered (.ok value))
        (handler.awaitAt (if first then .sendingReady else .replying))
  | greeted : handler.stage = .sendingHello →
      Turn handler (.sent none) (handler.awaitAt .receivingHello)
  | readied : handler.stage = .sendingReady →
      Turn handler (.sent none)
        (.await { handler with heartbeat := some .sleeping, stage := .receiving })
  | replied : handler.stage = .replying →
      Turn handler (.sent none) (handler.awaitAt .receiving)
  | reported (inBody : Bool) (failure : Option Raised) : handler.stage = .reporting inBody →
      Suppressed failure → Turn handler (.sent failure)
        (.close { handler with stage := .closing inBody } 4400 "Invalid device protocol message")
  | timedOut (x : Nat) (clock : Datetime) (resolved : Bool) : handler.stage = .receivingHello →
      Turn handler (.received x .timedOut clock resolved)
        (.close { handler with stage := .closing true } 4408 "Device hello timed out")
  | greets (x : Nat) (message : Message) (clock : Datetime) (resolved : Bool) (sessionId : UUID)
      (seenIds : SeenIds) (capabilities : Finset DeviceCapability) :
      handler.stage = .receivingHello → handler.sessionId = some sessionId →
      message.payload = .hello capabilities →
      handler.checkMessage sessionId message = .ok seenIds →
      Turn handler (.received x (.message message) clock resolved)
        (.await { handler with seenIds, stage := .activating x true })
  | demandsHello (x : Nat) (message : Message) (clock : Datetime) (resolved : Bool)
      (sessionId : UUID) : handler.stage = .receivingHello → handler.sessionId = some sessionId →
      (∀ capabilities, message.payload ≠ .hello capabilities) →
      Turn handler (.received x (.message message) clock resolved)
        (handler.awaitAt (.reporting true))
  | pongs (x : Nat) (message : Message) (clock : Datetime) (resolved : Bool) (sessionId : UUID)
      (seenIds : SeenIds) (nonce : UUID) : handler.stage = .receiving →
      handler.sessionId = some sessionId → handler.checkMessage sessionId message = .ok seenIds →
      message.payload = .pong nonce → handler.heartbeatNonce = some nonce →
      Turn handler (.received x (.message message) clock resolved)
        (.await { handler with seenIds, heartbeatNonce := none, heartbeatReceived := true })
  | updates (x : Nat) (message : Message) (clock : Datetime) (resolved : Bool)
      (sessionId : UUID) (seenIds : SeenIds) (capabilities : Finset DeviceCapability) :
      handler.stage = .receiving → handler.sessionId = some sessionId →
      handler.checkMessage sessionId message = .ok seenIds →
      message.payload = .update capabilities →
      Turn handler (.received x (.message message) clock resolved)
        (.await { handler with seenIds, stage := .activating x false })
  | passesOn (x : Nat) (message : Message) (clock : Datetime) (resolved : Bool)
      (sessionId : UUID) (seenIds : SeenIds) (commandId : UUID) (succeeded : Bool)
      (output : JsonValue) (error : Option String) (result : DeviceCommandResult) :
      handler.stage = .receiving → handler.sessionId = some sessionId →
      handler.checkMessage sessionId message = .ok seenIds →
      message.payload = .result commandId succeeded output error →
      DeviceCommandResult.make commandId handler.deviceId succeeded output error clock =
        .ok result →
      Turn handler (.received x (.message message) clock resolved)
        (.await { handler with
          seenIds
          stage := if resolved then .receiving else .replying })
  | raises (stimulus : Stimulus) (seenIds : SeenIds) (error : Raised) :
      Raises handler stimulus seenIds error →
      Turn handler stimulus (Handler.except { handler with seenIds } error)
  | departs (stimulus : Stimulus) : Departs handler stimulus →
      Turn handler stimulus (.leave handler)

/-- The heartbeat task has to be waited for. -/
def Alive (handler : Handler) : Bool :=
  match handler.heartbeat with
  | none | some (.done _) => false
  | some _ => true

/-- The handler after its reaction. -/
def settle : Reaction → Handler
  | .await handler => handler
  | .close handler _ _ => handler
  | .leave handler =>
      { handler with stage := if Alive handler then .awaitingHeartbeat else .finished }

/-- The call that the reaction makes on the transport. -/
def closing {Digest : Type} (h : Nat) : Reaction → List (Event Digest)
  | .close _ code reason => [.transport (.close h code reason)]
  | _ => []

variable {Digest : Type} {config : Config Digest}

/-- The action that tells a handler something; `t` is the state after it. -/
inductive Cause (t : State config) (h : Nat) (handler : Handler) :
    Action config → Stimulus → Prop
  | answered (inner : Service.Operations.Action config) (x : Nat) (request : Request)
      (outcome : Except Raised Value) : callOf inner = some x →
      awaitedCall handler.stage = some x →
      t.service.calls x = some ⟨request, .finished outcome⟩ →
      Cause t h handler (.service inner) (.answered outcome)
  | sent (failure : Option Raised) : Cause t h handler (.sent h failure) (.sent failure)
  | received (x : Nat) (received : Received) (clock : Datetime) (now : AwareDatetime)
      (resolved : Bool) : Cause t h handler (.received h x received clock now)
        (.received x received clock resolved)
  | closed (failure : Option Raised) : Cause t h handler (.closed h failure) (.closed failure)
  | joined : Cause t h handler (.joined h) .joined

/-- What a step means to handler `h`. -/
inductive Local (s : State config) (action : Action config) (t : State config)
    (events : List (Event Digest)) (h : Nat) : Prop
  | rests : t.handlers h = s.handlers h → Local s action t events h
  | accepted (x : Nat) (deviceId : UUID) : action = .accept h x → s.handlers h = none →
      t.handlers h = some (.accepted deviceId x) → Local s action t events h
  | turns (handler : Handler) (stimulus : Stimulus) (reaction : Reaction)
      (served : List (Event Digest)) : s.handlers h = some handler → Turn handler stimulus reaction →
      Cause t h handler action stimulus → t.handlers h = some (settle reaction) →
      events = served ++ closing h reaction → Local s action t events h
  | beats (handler handler' : Handler) (input : HeartbeatInput) : action = .heartbeat h input →
      s.handlers h = some handler → handler.beat input = some handler' →
      t.handlers h = some handler' →
      (input = .timedOut → events = [.transport (.close h 4408 "Heartbeat timed out")]) →
      Local s action t events h

section Reactions

variable {s : State config} {h : Nat} {handler : Handler}

theorem disconnectSession_handlers (s : State config) (h : Nat) (handler : Handler) :
    (disconnectSession s h handler).handlers =
      Function.update s.handlers h (some { handler with stage := .finished }) := by
  unfold disconnectSession
  dsimp only
  split
  · rfl
  · rfl

theorem disconnectSession_calls (s : State config) (h : Nat) (handler : Handler) :
    (disconnectSession s h handler).service.calls = s.service.calls := by
  unfold disconnectSession
  dsimp only
  split
  · rfl
  · rfl

theorem joinHeartbeat_handlers (s : State config) (h : Nat) (handler : Handler)
    (outcome : Except Raised Unit) :
    (joinHeartbeat s h handler outcome).handlers =
      Function.update s.handlers h (some { handler with stage := .finished }) := by
  unfold joinHeartbeat
  split
  · exact disconnectSession_handlers s h handler
  · split
    · rfl
    · exact disconnectSession_handlers s h handler

theorem joinHeartbeat_calls (s : State config) (h : Nat) (handler : Handler)
    (outcome : Except Raised Unit) :
    (joinHeartbeat s h handler outcome).service.calls = s.service.calls := by
  unfold joinHeartbeat
  split
  · exact disconnectSession_calls s h handler
  · split
    · rfl
    · exact disconnectSession_calls s h handler

theorem react_handlers (s : State config) (h : Nat) (reaction : Reaction) :
    (react s h reaction).1.handlers =
      Function.update s.handlers h (some (settle reaction)) := by
  cases reaction with
  | await | close => rfl
  | leave handler =>
      have hover (hdead : Alive handler = false) :
          settle (.leave handler) = { handler with stage := .finished } := by
        simp [settle, hdead]
      have hlives (halive : Alive handler = true) :
          settle (.leave handler) = { handler with stage := .awaitingHeartbeat } := by
        simp [settle, halive]
      unfold react finallyClause
      dsimp only
      split
      · rename_i hnone
        rw [hover (by simp [Alive, hnone])]
        exact disconnectSession_handlers s h handler
      · rename_i outcome hdone
        rw [hover (by simp [Alive, hdone])]
        exact joinHeartbeat_handlers s h handler outcome
      · rename_i heartbeat hnotdone hsome
        rw [hlives]
        · rfl
        · cases heartbeat with
          | done outcome => exact absurd rfl (hnotdone outcome)
          | sleeping | pinging | awaitingPong | closing => simp [Alive, hsome]

theorem react_calls (s : State config) (h : Nat) (reaction : Reaction) :
    (react s h reaction).1.service.calls = s.service.calls := by
  cases reaction with
  | await | close => rfl
  | leave handler =>
      simp only [react, finallyClause]
      cases handler.heartbeat with
      | none => exact disconnectSession_calls s h handler
      | some heartbeat =>
          cases heartbeat with
          | sleeping | pinging | awaitingPong | closing => rfl
          | done outcome => exact joinHeartbeat_calls s h handler outcome

theorem react_events (s : State config) (h : Nat) (reaction : Reaction) :
    (react s h reaction).2 = closing h reaction := by
  cases reaction with
  | await | close | leave => rfl

theorem not_suppressed {error : Raised} (hdisconnected : error ≠ .disconnected)
    (hruntime : ∀ text, error ≠ .runtimeError text) : ¬ Suppressed (some error) := by
  cases error with
  | disconnected => exact absurd rfl hdisconnected
  | runtimeError text => exact absurd rfl (hruntime text)
  | device | typeError | valueError | foreign | cancelled => exact id

theorem resumed_turn {x : Nat} {outcome : Except Raised Value} {reaction : Reaction}
    (hawaits : awaitedCall handler.stage = some x) (hresumed : resumed handler outcome = some reaction) :
    Turn handler (.answered outcome) reaction := by
  unfold resumed at hresumed
  split at hresumed
  · rename_i hstage
    cases hresumed
    exact .connected _ _ hstage
  · cases hresumed
    exact .raises _ handler.seenIds _ (.answered x _ hawaits)
  · rename_i hstage
    cases hresumed
    exact .activated _ _ _ hstage
  · cases hresumed
    exact .raises _ handler.seenIds _ (.answered x _ hawaits)
  · cases hresumed

theorem afterSend_turn {failure : Option Raised} {reaction : Reaction}
    (hsend : handler.afterSend failure = some reaction) : Turn handler (.sent failure) reaction := by
  have raises {error : Raised} (hstage : handler.stage = .sendingHello ∨
      handler.stage = .sendingReady ∨ handler.stage = .replying) :
      Turn handler (.sent (some error)) (handler.except error) :=
    .raises _ handler.seenIds _ (.sending error hstage)
  unfold Handler.afterSend at hsend
  split at hsend
  · rename_i hstage
    cases hsend
    exact .greeted hstage
  · rename_i hstage
    cases hsend
    exact .readied hstage
  · rename_i hstage
    cases hsend
    exact .replied hstage
  · rename_i hstage
    cases hsend
    exact raises (.inl hstage)
  · rename_i hstage
    cases hsend
    exact raises (.inr (.inl hstage))
  · rename_i hstage
    cases hsend
    exact raises (.inr (.inr hstage))
  iterate 3
    · rename_i hstage
      cases hsend
      exact .reported _ _ hstage trivial
  · rename_i inBody error hdisconnected hruntime hstage
    cases hsend
    have herror : ¬ Suppressed (some error) := not_suppressed hdisconnected hruntime
    cases inBody with
    | true => exact .raises _ handler.seenIds _ (.reporting error hstage herror)
    | false => exact .departs _ (.unreported error hstage herror)
  · cases hsend

theorem afterClose_turn {failure : Option Raised} {reaction : Reaction}
    (hclose : handler.afterClose failure = some reaction) :
    Turn handler (.closed failure) reaction := by
  unfold Handler.afterClose at hclose
  split at hclose
  · rename_i inBody hstage
    cases hclose
    exact .departs _ (.closed inBody hstage)
  · rename_i inBody error hstage
    cases hclose
    cases inBody with
    | true => exact .raises _ handler.seenIds _ (.closing error hstage)
    | false => exact .departs _ (.unclosed error hstage)
  · cases hclose

end Reactions

variable [DecidableEq Digest]

section Steps

variable {s t : State config} {action : Action config} {events : List (Event Digest)}
  {h h' : Nat} {handler : Handler}

theorem callService_eq_some {x : Nat} {request : Request}
    (hcall : callService s h handler x request = some (t, events)) :
    ∃ service, Service.Operations.step s.service (.start x request) = some (service, events) ∧
      t = State.setHandler { s with service, owners := Function.update s.owners x (some h) } h
        handler := by
  unfold callService at hcall
  split at hcall
  · rename_i service _ hstart
    cases hcall
    exact ⟨service, hstart, rfl⟩
  · cases hcall

theorem callService_handlers {x : Nat} {request : Request}
    (hcall : callService s h handler x request = some (t, events)) :
    t.handlers = Function.update s.handlers h (some handler) := by
  obtain ⟨service, -, rfl⟩ := callService_eq_some hcall
  rfl

omit [DecidableEq Digest] in
theorem Local.of_update {handler' : Handler}
    (hlocal : t.handlers h = some handler' → Local s action t events h)
    (hhandlers : t.handlers = Function.update s.handlers h (some handler')) (h' : Nat) :
    Local s action t events h' := by
  by_cases hh : h' = h
  · subst hh
    refine hlocal ?_
    rw [hhandlers]
    exact Function.update_self _ _ _
  · refine .rests ?_
    rw [hhandlers]
    exact Function.update_of_ne hh _ _

omit [DecidableEq Digest] in
theorem Local.of_react {s₁ : State config} {stimulus : Stimulus} {reaction : Reaction}
    (hhandler : s.handlers h = some handler) (hsame : s₁.handlers = s.handlers)
    (hturn : Turn handler stimulus reaction) (hcause : Cause t h handler action stimulus)
    (hreact : some (react s₁ h reaction) = some (t, events)) (h' : Nat) :
    Local s action t events h' := by
  have ht : (react s₁ h reaction).1 = t := congrArg Prod.fst (Option.some.inj hreact)
  have hevents : (react s₁ h reaction).2 = events := congrArg Prod.snd (Option.some.inj hreact)
  have hhandlers : t.handlers = Function.update s.handlers h (some (settle reaction)) := by
    rw [← ht, react_handlers, hsame]
  refine Local.of_update (fun hafter => ?_) hhandlers h'
  refine .turns handler stimulus reaction [] hhandler hturn hcause hafter ?_
  rw [← hevents, react_events]
  rfl

theorem serve_handlers {inner : Service.Operations.Action config} {served : List (Event Digest)}
    (hserve : serve s inner = some (t, served)) : t.handlers = s.handlers :=
  (serve_serves hserve).handlers

theorem service_local {inner : Service.Operations.Action config}
    (hstep : step s (.service inner) = some (t, events)) (h' : Nat) :
    Local s (.service inner) t events h' := by
  simp only [step] at hstep
  split at hstep
  · cases hstep
  · rename_i s₁ served hserve
    have hsame := serve_handlers hserve
    split at hstep
    · cases hstep
      exact .rests (congrFun hsame h')
    · rename_i h reaction hresumption
      cases hstep
      obtain ⟨x, request, outcome, handler, hx, -, hcall, hhandler, hawaits, hresumed⟩ :=
        resumption_eq_some hresumption
      have hhandlers : (react s₁ h reaction).1.handlers =
          Function.update s.handlers h (some (settle reaction)) := by
        rw [react_handlers, hsame]
      refine Local.of_update (fun hafter => ?_) hhandlers h'
      rw [hsame] at hhandler
      refine .turns handler _ reaction served hhandler (resumed_turn hawaits hresumed) ?_ hafter ?_
      · refine .answered inner x request outcome hx hawaits ?_
        rw [react_calls]
        exact hcall
      · rw [react_events]

theorem greeted_local {sessionId : UUID} {x : Nat} {message : Message} {clock : Datetime}
    {now : AwareDatetime} (hhandler : s.handlers h = some handler)
    (hstage : handler.stage = .receivingHello) (hsession : handler.sessionId = some sessionId)
    (hgreeted : greeted s h handler sessionId x message = some (t, events)) (h' : Nat) :
    Local s (.received h x (.message message) clock now) t events h' := by
  unfold greeted at hgreeted
  split at hgreeted
  · rename_i capabilities hpayload
    split at hgreeted
    · rename_i error hcheck
      obtain ⟨text, rfl⟩ := checkMessage_error hcheck
      refine Local.of_react hhandler rfl ?_ (.received x _ clock now false) hgreeted h'
      exact .raises _ handler.seenIds _
        (.refused x message clock false sessionId text (.inl ⟨hstage, capabilities, hpayload⟩)
          hsession hcheck)
    · rename_i seenIds hcheck
      refine Local.of_update (fun hafter => ?_) (callService_handlers hgreeted) h'
      refine .turns handler _ _ events hhandler
        (.greets x message clock false sessionId seenIds capabilities hstage hsession hpayload hcheck)
        (.received x _ clock now false) hafter ?_
      exact (List.append_nil events).symm
  · rename_i hpayload
    refine Local.of_react hhandler rfl ?_ (.received x _ clock now false) hgreeted h'
    exact .demandsHello x message clock false sessionId hstage hsession hpayload

theorem served_local {sessionId : UUID} {x : Nat} {message : Message} {clock : Datetime}
    {now : AwareDatetime} (hhandler : s.handlers h = some handler)
    (hstage : handler.stage = .receiving) (hsession : handler.sessionId = some sessionId)
    (hserved : served s h handler sessionId x message clock now = some (t, events)) (h' : Nat) :
    Local s (.received h x (.message message) clock now) t events h' := by
  unfold served at hserved
  split at hserved
  · rename_i error hcheck
    obtain ⟨text, rfl⟩ := checkMessage_error hcheck
    refine Local.of_react hhandler rfl ?_ (.received x _ clock now false) hserved h'
    exact .raises _ handler.seenIds _
      (.refused x message clock false sessionId text (.inr hstage) hsession hcheck)
  · rename_i seenIds hcheck
    have misplaced {text : String} (hmisplaced : Misplaced handler clock text message.payload) :
        Turn handler (.received x (.message message) clock false)
          (Handler.except { handler with seenIds } (.valueError text)) :=
      .raises _ seenIds _
        (.misplaced x message clock false sessionId seenIds text hstage hsession hcheck hmisplaced)
    dsimp only at hserved
    split at hserved
    · rename_i nonce hpayload
      split at hserved
      · rename_i hnonce
        have hsame : (s.withManager (touch s.service.manager handler.deviceId sessionId now).1).handlers =
            s.handlers := rfl
        refine Local.of_react hhandler hsame ?_ (.received x _ clock now false) hserved h'
        exact .pongs x message clock false sessionId seenIds nonce hstage hsession hcheck hpayload
          hnonce
      · rename_i hnonce
        refine Local.of_react hhandler rfl ?_ (.received x _ clock now false) hserved h'
        exact misplaced (hpayload ▸ .pong nonce hnonce rfl)
    · rename_i capabilities hpayload
      refine Local.of_update (fun hafter => ?_) (callService_handlers hserved) h'
      refine .turns handler _ _ events hhandler
        (.updates x message clock false sessionId seenIds capabilities hstage hsession hcheck hpayload)
        (.received x _ clock now false) hafter ?_
      exact (List.append_nil events).symm
    · rename_i commandId succeeded output error hpayload
      split at hserved
      · rename_i raised hmake
        obtain ⟨text, rfl⟩ := DeviceCommandResult.make_error hmake
        refine Local.of_react hhandler rfl ?_ (.received x _ clock now false) hserved h'
        exact misplaced (hpayload ▸ .result commandId succeeded output error hmake)
      · rename_i result hmake
        let answer := resolve s.service.manager handler.deviceId sessionId result
        have hsame : (s.withManager answer.1).handlers = s.handlers := rfl
        refine Local.of_react hhandler hsame ?_ (.received x _ clock now answer.2) hserved h'
        exact .passesOn x message clock answer.2 sessionId seenIds commandId succeeded output error result
          hstage hsession hcheck hpayload hmake
    · rename_i capabilities hpayload
      refine Local.of_react hhandler rfl ?_ (.received x _ clock now false) hserved h'
      exact misplaced (hpayload ▸ .hello capabilities rfl)

theorem receive_local {x : Nat} {received : Received} {clock : Datetime} {now : AwareDatetime}
    (hhandler : s.handlers h = some handler)
    (hreceive : receive s h handler x received clock now = some (t, events)) (h' : Nat) :
    Local s (.received h x received clock now) t events h' := by
  unfold receive at hreceive
  split at hreceive
  · rename_i hstage hsession
    exact greeted_local hhandler hstage hsession hreceive h'
  · rename_i hstage hsession
    exact served_local hhandler hstage hsession hreceive h'
  · rename_i hstage
    refine Local.of_react hhandler rfl ?_ (.received x _ clock now false) hreceive h'
    exact .timedOut x clock false hstage
  · rename_i hstage
    refine Local.of_react hhandler rfl ?_ (.received x _ clock now false) hreceive h'
    exact .departs _ (.frame x clock false (.inl hstage))
  · rename_i hstage
    refine Local.of_react hhandler rfl ?_ (.received x _ clock now false) hreceive h'
    exact .departs _ (.frame x clock false (.inr hstage))
  · rename_i error hstage
    refine Local.of_react hhandler rfl ?_ (.received x _ clock now false) hreceive h'
    exact .raises _ handler.seenIds _ (.receiving x error clock false (.inl hstage))
  · rename_i error hstage
    refine Local.of_react hhandler rfl ?_ (.received x _ clock now false) hreceive h'
    exact .raises _ handler.seenIds _ (.receiving x error clock false (.inr hstage))
  · cases hreceive

theorem accept_local {x : Nat} (haccept : accept s h x = some (t, events)) (h' : Nat) :
    Local s (.accept h x) t events h' := by
  unfold accept at haccept
  split at haccept
  · rename_i device hfresh _
    refine Local.of_update (fun hafter => ?_) (callService_handlers haccept) h'
    exact .accepted x device.id rfl hfresh hafter
  · cases haccept

omit [DecidableEq Digest] in
theorem beat_local {input : HeartbeatInput} (hhandler : s.handlers h = some handler)
    (hbeat : beat s h handler input = some (t, events)) (h' : Nat) :
    Local s (.heartbeat h input) t events h' := by
  unfold beat at hbeat
  split at hbeat
  · rename_i handler' hnext
    cases hbeat
    refine Local.of_update (fun hafter => ?_) rfl h'
    exact .beats handler handler' _ rfl hhandler hnext hafter fun _ => rfl
  · rename_i handler' hinput hnext
    cases hbeat
    refine Local.of_update (fun hafter => ?_) rfl h'
    exact .beats handler handler' _ rfl hhandler hnext hafter fun htimedOut =>
      absurd htimedOut hinput
  · cases hbeat

theorem step_local (hstep : step s action = some (t, events)) (h' : Nat) :
    Local s action t events h' := by
  cases action with
  | service inner => exact service_local hstep h'
  | accept h x => exact accept_local hstep h'
  | sent h failure =>
      obtain ⟨handler, hhandler, hsend⟩ := onHandler_eq_some hstep
      obtain ⟨reaction, hreaction, heq⟩ := Option.map_eq_some_iff.mp hsend
      exact Local.of_react hhandler rfl (afterSend_turn hreaction) (.sent failure)
        (congrArg some heq) h'
  | received h x received clock now =>
      obtain ⟨handler, hhandler, hreceive⟩ := onHandler_eq_some hstep
      exact receive_local hhandler hreceive h'
  | closed h failure =>
      obtain ⟨handler, hhandler, hclose⟩ := onHandler_eq_some hstep
      obtain ⟨reaction, hreaction, heq⟩ := Option.map_eq_some_iff.mp hclose
      exact Local.of_react hhandler rfl (afterClose_turn hreaction) (.closed failure)
        (congrArg some heq) h'
  | heartbeat h input =>
      obtain ⟨handler, hhandler, hbeat⟩ := onHandler_eq_some hstep
      exact beat_local hhandler hbeat h'
  | joined h =>
      obtain ⟨handler, hhandler, hjoined⟩ := onHandler_eq_some hstep
      unfold joined at hjoined
      split at hjoined
      · rename_i outcome hstage hheartbeat
        have hreact : some (react s h (.leave handler)) = some (t, events) := by
          rw [← hjoined]
          simp only [react, finallyClause, hheartbeat]
        exact Local.of_react hhandler rfl (.departs _ (.joined outcome hstage hheartbeat)) .joined
          hreact h'
      · cases hjoined

end Steps

end JarvisCore.Gateway.Turns
