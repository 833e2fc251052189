import JarvisCore.Gateway.Operations

namespace JarvisCore.Gateway.Effects

open JarvisCore.Domain.Values
open JarvisCore.Domain.Errors
open JarvisCore.Domain.Models
open JarvisCore.Foundation.TransitionSystem
open JarvisCore.Manager.Operations (disconnect touch resolve)
open JarvisCore.Service.Operations (Config Request Value Event)
open JarvisCore.Service.CallSteps (callOf start_calls)
open JarvisCore.Gateway.Handlers
open JarvisCore.Gateway.Operations

variable {Digest : Type} {config : Config Digest}

/-- How a handler that runs comes by its session. -/
inductive Learns (s : State config) (handler : Handler) : Option UUID → Prop
  | keeps : (∀ x, handler.stage ≠ .connecting x) → Learns s handler handler.sessionId
  | connected (x : Nat) (request : Request) (sessionId : UUID) : handler.stage = .connecting x →
      s.service.calls x = some ⟨request, .finished (.ok (.session sessionId))⟩ →
      Learns s handler (some sessionId)
  | refused (x : Nat) (request : Request) (error : Raised) : handler.stage = .connecting x →
      s.service.calls x = some ⟨request, .finished (.error error)⟩ →
      Learns s handler handler.sessionId

structure Goes (s : State config) (handler handler' : Handler) : Prop where
  deviceId : handler'.deviceId = handler.deviceId
  connecting : ∀ x, handler'.stage ≠ .connecting x
  finished : handler'.stage = .finished ↔ handler.stage = .finished
  session : Learns s handler handler'.sessionId

/-- The handler has connected and has not finished. -/
def Running : Handlers.Stage → Prop
  | .connecting _ | .finished => False
  | _ => True

theorem Running.ne {stage : Handlers.Stage} (h : Running stage) :
    (∀ x, stage ≠ .connecting x) ∧ stage ≠ .finished := by
  constructor
  · rintro x rfl
    exact h
  · rintro rfl
    exact h

def Inner : Service.Operations.Action config → Prop
  | .connections (.touch _ _ _) | .connections (.resolve _ _ _)
  | .start _ (.activateDevice _ _ _) => True
  | _ => False

variable [DecidableEq Digest]

/-- The part of a step that the service has in it. -/
inductive Serves (s : State config) (action : Action config) :
    State config → List (Event Digest) → Prop
  | idle : Serves s action s []
  | own (inner : Service.Operations.Action config) (service : Service.Operations.State config)
      (events : List (Event Digest)) : action = .service inner → permitted s inner = true →
      Service.Operations.step s.service inner = some (service, events) →
      Serves s action { s with service, issued := issuedBy inner ++ s.issued } events
  | inner (inner : Service.Operations.Action config) (service : Service.Operations.State config)
      (owners : Nat → Option Nat) (events : List (Event Digest)) : Inner inner →
      Service.Operations.step s.service inner = some (service, events) →
      (∀ x, s.service.calls x ≠ none → owners x = s.owners x) →
      Serves s action { s with service, owners } events

/-- The handler comes to its `finally` clause; the last component is the state then. -/
inductive Leaves (s : State config) (h : Nat) (handler : Handler) :
    Action config → State config → Prop
  | sent (failure : Option Raised) : handler.afterSend failure = some (.leave handler) →
      Leaves s h handler (.sent h failure) s
  | closed (failure : Option Raised) : handler.afterClose failure = some (.leave handler) →
      Leaves s h handler (.closed h failure) s
  | frame (x : Nat) (clock : Datetime) (now : AwareDatetime) :
      handler.stage = .receivingHello ∨ handler.stage = .receiving →
      Leaves s h handler (.received h x .protocolClosed clock now) s
  | raised (x : Nat) (error : Raised) (clock : Datetime) (now : AwareDatetime) :
      handler.stage = .receivingHello ∨ handler.stage = .receiving →
      handler.except error = .leave handler →
      Leaves s h handler (.received h x (.raised error) clock now) s
  | refused (action : Service.Operations.Action config) (x : Nat) (request : Request)
      (error : Raised) (s₁ : State config) (events : List (Event Digest)) :
      serve s action = some (s₁, events) → callOf action = some x → s₁.owners x = some h →
      awaitedCall handler.stage = some x →
      s₁.service.calls x = some ⟨request, .finished (.error error)⟩ →
      handler.except error = .leave handler → Leaves s h handler (.service action) s₁
  /-- The clause has waited for the heartbeat task. -/
  | joined (outcome : Except Raised Unit) : handler.stage = .awaitingHeartbeat →
      handler.heartbeat = some (.done outcome) → Leaves s h handler (.joined h) s

/-- What a step does to the handlers. -/
inductive Effect (s : State config) (action : Action config) :
    State config → List (Event Digest) → Prop
  | serves (s₁ : State config) (events : List (Event Digest)) : Serves s action s₁ events →
      Effect s action s₁ events
  | accepts (h x : Nat) (deviceId : UUID) (service : Service.Operations.State config)
      (owners : Nat → Option Nat) (events : List (Event Digest)) : s.handlers h = none →
      action = .accept h x →
      Service.Operations.step s.service (.start x (.connectDevice deviceId h)) =
        some (service, events) →
      owners x = some h → (∀ y, s.service.calls y ≠ none → owners y = s.owners y) →
      Effect s action (State.setHandler { s with service, owners } h (.accepted deviceId x)) events
  | goes (s₁ : State config) (events events' : List (Event Digest)) (h : Nat)
      (handler handler' : Handler) : Serves s action s₁ events → s.handlers h = some handler →
      Goes s₁ handler handler' → Effect s action (s₁.setHandler h handler') (events ++ events')
  | beats (events : List (Event Digest)) (h : Nat) (handler handler' : Handler) :
      s.handlers h = some handler → handler'.deviceId = handler.deviceId →
      handler'.sessionId = handler.sessionId → handler'.stage = handler.stage →
      handler.heartbeat ≠ none → Effect s action (s.setHandler h handler') events
  | leaves (s₁ : State config) (events : List (Event Digest)) (h : Nat) (handler : Handler) :
      Serves s action s₁ events → s.handlers h = some handler → Leaves s h handler action s₁ →
      Effect s action (finallyClause s₁ h handler) events

section Reactions

variable {s : State config} {handler handler₀ : Handler}

omit [DecidableEq Digest]

/-- The handler goes on to another await, and may close its transport before. -/
def Stays (s : State config) (handler : Handler) (reaction : Reaction) : Prop :=
  ∃ handler', Goes s handler handler' ∧
    (reaction = .await handler' ∨ ∃ code reason, reaction = .close handler' code reason)

theorem running_learns (h : Running handler.stage) : Learns s handler handler.sessionId :=
  .keeps h.ne.1

theorem goes_of_stage {stage : Handlers.Stage} (hid : handler.deviceId = handler₀.deviceId)
    (hsession : Learns s handler₀ handler.sessionId) (hfrom : handler₀.stage ≠ .finished)
    (hrunning : Running stage) : Goes s handler₀ { handler with stage } where
  deviceId := hid
  connecting := hrunning.ne.1
  finished := iff_of_false hrunning.ne.2 hfrom
  session := hsession

theorem stays_await {stage : Handlers.Stage} (hid : handler.deviceId = handler₀.deviceId)
    (hsession : Learns s handler₀ handler.sessionId) (hfrom : handler₀.stage ≠ .finished)
    (hrunning : Running stage) : Stays s handler₀ (handler.awaitAt stage) :=
  ⟨_, goes_of_stage hid hsession hfrom hrunning, .inl rfl⟩

theorem except_cases (hsession : Learns s handler handler.sessionId)
    (hfrom : handler.stage ≠ .finished) (error : Raised) :
    Stays s handler (handler.except error) ∨ handler.except error = .leave handler := by
  cases error with
  | disconnected | cancelled => exact .inr rfl
  | device | valueError =>
      simp only [Handler.except]
      cases handler.sessionId with
      | none => exact .inr rfl
      | some sessionId => exact .inl (stays_await rfl hsession hfrom trivial)
  | typeError | runtimeError | foreign =>
      exact .inl ⟨{ handler with stage := .closing false },
        goes_of_stage rfl hsession hfrom trivial, .inr ⟨_, _, rfl⟩⟩

theorem except_valueError {sessionId : UUID} (h : handler.sessionId = some sessionId)
    (message : String) :
    handler.except (.valueError message) = handler.awaitAt (.reporting false) := by
  simp only [Handler.except, h]

theorem checkMessage_error {sessionId : UUID} {message : Message} {error : Raised}
    (h : handler.checkMessage sessionId message = .error error) :
    ∃ text, error = .valueError text := by
  unfold Handler.checkMessage validateSession rememberMessage at h
  split at h
  · rename_i error' hvalidate
    cases h
    split at hvalidate
    · cases hvalidate
      exact ⟨_, rfl⟩
    · cases hvalidate
  · split at h
    · cases h
      exact ⟨_, rfl⟩
    · cases h

/-- What the handler does when the call of the service that it awaits has ended. -/
theorem resumed_cases {x : Nat} {request : Request} {outcome : Except Raised Value}
    {reaction : Reaction} (hawaits : awaitedCall handler.stage = some x)
    (hcall : s.service.calls x = some ⟨request, .finished outcome⟩)
    (h : resumed handler outcome = some reaction) :
    Stays s handler reaction ∨ ∃ error, outcome = .error error ∧
      handler.except error = .leave handler ∧ reaction = .leave handler := by
  have hfrom : handler.stage ≠ .finished := by
    intro hfinished
    rw [hfinished] at hawaits
    cases hawaits
  have excepts {error : Raised} (houtcome : outcome = .error error)
      (hsession : Learns s handler handler.sessionId) :
      Stays s handler (handler.except error) ∨ ∃ error', outcome = .error error' ∧
        handler.except error' = .leave handler ∧ handler.except error = .leave handler := by
    rcases except_cases hsession hfrom error with hstays | hleaves
    · exact .inl hstays
    · exact .inr ⟨error, houtcome, hleaves, hleaves⟩
  unfold resumed at h
  split at h
  · rename_i y sessionId hstage
    cases h
    obtain rfl : y = x := by simpa [hstage, awaitedCall] using hawaits
    exact .inl (stays_await rfl (.connected y request sessionId hstage hcall) hfrom trivial)
  · rename_i y error hstage
    cases h
    obtain rfl : y = x := by simpa [hstage, awaitedCall] using hawaits
    exact excepts rfl (.refused y request error hstage hcall)
  · rename_i y first value hstage
    cases h
    refine .inl (stays_await rfl (running_learns (hstage ▸ trivial)) hfrom ?_)
    cases first <;> trivial
  · rename_i y first error hstage
    cases h
    exact excepts rfl (running_learns (hstage ▸ trivial))
  · cases h

section Running

variable (hrunning : Running handler.stage)

include hrunning

theorem await_running {stage : Handlers.Stage} (h : Running stage) :
    Stays s handler (handler.awaitAt stage) :=
  stays_await rfl (running_learns hrunning) hrunning.ne.2 h

theorem close_running {stage : Handlers.Stage} (h : Running stage) (code : Nat)
    (reason : String) : Stays s handler (.close { handler with stage } code reason) :=
  ⟨_, goes_of_stage rfl (running_learns hrunning) hrunning.ne.2 h, .inr ⟨code, reason, rfl⟩⟩

theorem except_running (error : Raised) :
    Stays s handler (handler.except error) ∨ handler.except error = .leave handler :=
  except_cases (running_learns hrunning) hrunning.ne.2 error

end Running

theorem afterSend_cases {failure : Option Raised} {reaction : Reaction}
    (h : handler.afterSend failure = some reaction) :
    Stays s handler reaction ∨ reaction = .leave handler := by
  unfold Handler.afterSend at h
  split at h
  · rename_i hstage
    cases h
    exact .inl (await_running (hstage ▸ trivial) trivial)
  · rename_i hstage
    cases h
    have hrunning : Running handler.stage := hstage ▸ trivial
    exact .inl (stays_await rfl (running_learns hrunning) hrunning.ne.2 trivial)
  · rename_i hstage
    cases h
    exact .inl (await_running (hstage ▸ trivial) trivial)
  iterate 3
    · rename_i error hstage
      cases h
      exact except_running (hstage ▸ trivial) error
  iterate 3
    · rename_i hstage
      cases h
      have hrunning : Running handler.stage := hstage ▸ trivial
      refine .inl (close_running hrunning ?_ _ _)
      trivial
  · rename_i inBody error _ _ hstage
    cases h
    cases inBody with
    | true => exact except_running (hstage ▸ trivial) error
    | false => exact .inr rfl
  · cases h

theorem afterClose_cases {failure : Option Raised} {reaction : Reaction}
    (h : handler.afterClose failure = some reaction) :
    Stays s handler reaction ∨ reaction = .leave handler := by
  unfold Handler.afterClose at h
  split at h
  · cases h
    exact .inr rfl
  · rename_i inBody error hstage
    cases h
    cases inBody with
    | true => exact except_running (hstage ▸ trivial) error
    | false => exact .inr rfl
  · cases h

theorem beat_goes {input : HeartbeatInput} {handler' : Handler}
    (h : handler.beat input = some handler') :
    handler'.deviceId = handler.deviceId ∧ handler'.sessionId = handler.sessionId ∧
      handler'.stage = handler.stage ∧ handler.heartbeat ≠ none := by
  have hstarted : handler.heartbeat ≠ none := by
    intro hnone
    simp [Handler.beat, hnone] at h
  unfold Handler.beat at h
  dsimp only at h
  split at h
  case h_4 =>
    split at h
    · cases h
      exact ⟨rfl, rfl, rfl, hstarted⟩
    · cases h
  case h_12 => cases h
  all_goals
    cases h
    exact ⟨rfl, rfl, rfl, hstarted⟩

end Reactions

section Steps

variable {s s₁ t : State config} {action : Action config} {h : Nat} {handler : Handler}

theorem react_stays {events : List (Event Digest)} {reaction : Reaction}
    (hserves : Serves s action s₁ events) (hhandler : s.handlers h = some handler)
    (hstays : Stays s₁ handler reaction) :
    Effect s action (react s₁ h reaction).1 (events ++ (react s₁ h reaction).2) := by
  obtain ⟨handler', hgoes, rfl | ⟨code, reason, rfl⟩⟩ := hstays
  · exact .goes s₁ events [] h handler handler' hserves hhandler hgoes
  · exact .goes s₁ events _ h handler handler' hserves hhandler hgoes

theorem Serves.handlers {events : List (Event Digest)} (hserves : Serves s action s₁ events) :
    s₁.handlers = s.handlers := by
  cases hserves with
  | idle | own | inner => rfl

theorem serve_serves {inner : Service.Operations.Action config} {events : List (Event Digest)}
    (hserve : serve s inner = some (s₁, events)) : Serves s (.service inner) s₁ events := by
  unfold serve at hserve
  split at hserve
  · rename_i hpermitted
    split at hserve
    · rename_i service _ hstep
      cases hserve
      exact .own inner service events rfl hpermitted hstep
    · cases hserve
  · cases hserve

omit [DecidableEq Digest] in
theorem resumption_eq_some {inner : Service.Operations.Action config} {reaction : Reaction}
    (hresumption : resumption s inner = some (h, reaction)) :
    ∃ x request outcome handler, callOf inner = some x ∧ s.owners x = some h ∧
      s.service.calls x = some ⟨request, .finished outcome⟩ ∧ s.handlers h = some handler ∧
      awaitedCall handler.stage = some x ∧ resumed handler outcome = some reaction := by
  unfold resumption at hresumption
  split at hresumption
  · cases hresumption
  · rename_i x hx
    split at hresumption
    · rename_i h' request outcome howner hcall
      split at hresumption
      · rename_i handler hhandler
        split at hresumption
        · rename_i hawaits
          obtain ⟨reaction', hresumed, heq⟩ := Option.map_eq_some_iff.mp hresumption
          cases heq
          exact ⟨x, request, outcome, handler, hx, howner, hcall, hhandler, hawaits, hresumed⟩
        · cases hresumption
      · cases hresumption
    · cases hresumption

theorem service_effect {inner : Service.Operations.Action config} {events : List (Event Digest)}
    (hstep : step s (.service inner) = some (t, events)) : Effect s (.service inner) t events := by
  simp only [step] at hstep
  split at hstep
  · cases hstep
  · rename_i s₁ events₁ hserve
    have hserves := serve_serves hserve
    split at hstep
    · cases hstep
      exact .serves _ _ hserves
    · rename_i h reaction hresumption
      cases hstep
      obtain ⟨x, request, outcome, handler, hx, howner, hcall, hhandler, hawaits, hresumed⟩ :=
        resumption_eq_some hresumption
      have hold : s.handlers h = some handler := by
        rw [← hserves.handlers]
        exact hhandler
      rcases resumed_cases hawaits hcall hresumed with hstays | ⟨error, rfl, hexcept, rfl⟩
      · exact react_stays hserves hold hstays
      · have hleaves : Leaves s h handler (.service inner) s₁ :=
          .refused inner x request error s₁ events₁ hserve hx howner hawaits hcall hexcept
        simp only [react, List.append_nil]
        exact .leaves s₁ events₁ h handler hserves hold hleaves

theorem owners_update {x : Nat} {request : Request} {service : Service.Operations.State config}
    {events : List (Event Digest)}
    (hstep : Service.Operations.step s.service (.start x request) = some (service, events))
    (h y : Nat) (hy : s.service.calls y ≠ none) :
    Function.update s.owners x (some h) y = s.owners y := by
  apply Function.update_of_ne
  rintro rfl
  exact hy (start_calls hstep).1

theorem activates_effect {handler' : Handler} {x : Nat} {deviceId sessionId : UUID}
    {advertised : Finset DeviceCapability} {events : List (Event Digest)}
    (hhandler : s.handlers h = some handler) (hgoes : ∀ s₁ : State config, Goes s₁ handler handler')
    (hcall : callService s h handler' x (.activateDevice deviceId sessionId advertised) =
      some (t, events)) : Effect s action t events := by
  unfold callService at hcall
  split at hcall
  · rename_i service _ hstep
    cases hcall
    have hserves : Serves s action
        { s with service, owners := Function.update s.owners x (some h) } events :=
      .inner (.start x (.activateDevice deviceId sessionId advertised)) service _ events trivial
        hstep (owners_update hstep h)
    have heffect := Effect.goes _ _ [] h handler handler' hserves hhandler (hgoes _)
    rwa [List.append_nil] at heffect
  · cases hcall

theorem accept_effect {x : Nat} {events : List (Event Digest)}
    (haccept : accept s h x = some (t, events)) : Effect s (.accept h x) t events := by
  unfold accept at haccept
  split at haccept
  · rename_i device hfresh _
    unfold callService at haccept
    split at haccept
    · rename_i service _ hstep
      cases haccept
      exact .accepts h x device.id service _ events hfresh rfl hstep (Function.update_self _ _ _)
        (owners_update hstep h)
    · cases haccept
  · cases haccept

/-- The handler makes a step of the service in passing, and goes on to another await. -/
theorem serves_effect {events : List (Event Digest)} {reaction : Reaction}
    (hserves : Serves s action s₁ []) (hhandler : s.handlers h = some handler)
    (hreact : some (react s₁ h reaction) = some (t, events)) (hstays : Stays s₁ handler reaction) :
    Effect s action t events := by
  have heffect := react_stays hserves hhandler hstays
  rw [Option.some.inj hreact] at heffect
  exact heffect

theorem touch_serves (deviceId sessionId : UUID) (now : AwareDatetime) :
    Serves s action (s.withManager (touch s.service.manager deviceId sessionId now).1) [] :=
  .inner (.connections (.touch deviceId sessionId now)) _ s.owners [] trivial rfl fun _ _ => rfl

theorem resolve_serves (deviceId sessionId : UUID) (result : DeviceCommandResult) :
    Serves s action (s.withManager (resolve s.service.manager deviceId sessionId result).1) [] :=
  .inner (.connections (.resolve deviceId sessionId result)) _ s.owners [] trivial rfl fun _ _ => rfl

theorem greeted_effect {sessionId : UUID} {x : Nat} {message : Message}
    {events : List (Event Digest)} (hhandler : s.handlers h = some handler)
    (hstage : handler.stage = .receivingHello) (hsession : handler.sessionId = some sessionId)
    (hgreeted : greeted s h handler sessionId x message = some (t, events)) :
    Effect s action t events := by
  have hrunning : Running handler.stage := hstage ▸ trivial
  unfold greeted at hgreeted
  split at hgreeted
  · split at hgreeted
    · rename_i error hcheck
      refine serves_effect .idle hhandler hgreeted ?_
      obtain ⟨text, rfl⟩ := checkMessage_error hcheck
      rw [except_valueError hsession]
      exact await_running hrunning trivial
    · rename_i seenIds _
      refine activates_effect hhandler ?_ hgreeted
      intro s₁
      exact ⟨rfl, by simp, iff_of_false (by simp) hrunning.ne.2, running_learns hrunning⟩
  · exact serves_effect .idle hhandler hgreeted (await_running hrunning trivial)

theorem served_effect {sessionId : UUID} {x : Nat} {message : Message} {clock : Datetime}
    {now : AwareDatetime} {events : List (Event Digest)} (hhandler : s.handlers h = some handler)
    (hstage : handler.stage = .receiving) (hsession : handler.sessionId = some sessionId)
    (hserved : served s h handler sessionId x message clock now = some (t, events)) :
    Effect s action t events := by
  have hrunning : Running handler.stage := hstage ▸ trivial
  have goes (s₁ : State config) (handler' : Handler) (hid : handler'.deviceId = handler.deviceId)
      (hkept : handler'.sessionId = handler.sessionId) (hstage' : Running handler'.stage) :
      Goes s₁ handler handler' :=
    ⟨hid, hstage'.ne.1, iff_of_false hstage'.ne.2 hrunning.ne.2, hkept ▸ running_learns hrunning⟩
  unfold served at hserved
  split at hserved
  · rename_i error hcheck
    refine serves_effect .idle hhandler hserved ?_
    obtain ⟨text, rfl⟩ := checkMessage_error hcheck
    rw [except_valueError hsession]
    exact await_running hrunning trivial
  · rename_i seenIds _
    have stays (s₁ : State config) (handler' : Handler)
        (hid : handler'.deviceId = handler.deviceId)
        (hkept : handler'.sessionId = handler.sessionId) (hstage' : Running handler'.stage) :
        Stays s₁ handler (.await handler') := ⟨handler', goes s₁ handler' hid hkept hstage', .inl rfl⟩
    have hsession' : Handler.sessionId { handler with seenIds } = some sessionId := hsession
    have reports (text : String) :
        Stays s handler (Handler.except { handler with seenIds } (.valueError text)) := by
      rw [except_valueError hsession']
      exact stays s _ rfl rfl trivial
    dsimp only at hserved
    split at hserved
    · split at hserved
      · refine serves_effect (touch_serves _ _ _) hhandler hserved ?_
        exact stays _ _ rfl rfl hrunning
      · exact serves_effect .idle hhandler hserved (reports _)
    · refine activates_effect hhandler ?_ hserved
      intro s₁
      exact goes s₁ _ rfl rfl trivial
    · split at hserved
      · rename_i raised hmake
        obtain ⟨text, rfl⟩ := DeviceCommandResult.make_error hmake
        exact serves_effect .idle hhandler hserved (reports text)
      · refine serves_effect (resolve_serves _ _ _) hhandler hserved ?_
        refine stays _ _ rfl rfl ?_
        dsimp only
        split
        all_goals trivial
    · exact serves_effect .idle hhandler hserved (reports _)

theorem receive_effect {x : Nat} {received : Received} {clock : Datetime} {now : AwareDatetime}
    {events : List (Event Digest)} (hhandler : s.handlers h = some handler)
    (hreceive : receive s h handler x received clock now = some (t, events)) :
    Effect s (.received h x received clock now) t events := by
  have leaves (hleaves : Leaves s h handler (.received h x received clock now) s)
      (hreact : some (react s h (.leave handler)) = some (t, events)) :
      Effect s (.received h x received clock now) t events := by
    cases hreact
    exact .leaves s [] h handler .idle hhandler hleaves
  have raises {error : Raised} (hreceived : received = .raised error)
      (hstage : handler.stage = .receivingHello ∨ handler.stage = .receiving)
      (hreact : some (react s h (handler.except error)) = some (t, events)) :
      Effect s (.received h x received clock now) t events := by
    subst hreceived
    have hrunning : Running handler.stage := by
      rcases hstage with hstage | hstage
      · exact hstage ▸ trivial
      · exact hstage ▸ trivial
    rcases except_running hrunning error with hstays | hexcept
    · exact serves_effect .idle hhandler hreact hstays
    · rw [hexcept] at hreact
      exact leaves (.raised x error clock now hstage hexcept) hreact
  unfold receive at hreceive
  split at hreceive
  · rename_i hstage hsession
    exact greeted_effect hhandler hstage hsession hreceive
  · rename_i hstage hsession
    exact served_effect hhandler hstage hsession hreceive
  · rename_i hstage
    have hrunning : Running handler.stage := hstage ▸ trivial
    refine serves_effect .idle hhandler hreceive (close_running hrunning ?_ _ _)
    trivial
  · rename_i hstage
    exact leaves (.frame x clock now (.inl hstage)) hreceive
  · rename_i hstage
    exact leaves (.frame x clock now (.inr hstage)) hreceive
  · rename_i hstage
    exact raises rfl (.inl hstage) hreceive
  · rename_i hstage
    exact raises rfl (.inr hstage) hreceive
  · cases hreceive

omit [DecidableEq Digest] in
theorem onHandler_eq_some {f : Handler → Option (Result config)} {r : Result config}
    (hf : onHandler s h f = some r) : ∃ handler, s.handlers h = some handler ∧ f handler = some r := by
  unfold onHandler at hf
  split at hf
  · rename_i handler hhandler
    exact ⟨handler, hhandler, hf⟩
  · cases hf

theorem step_effect {events : List (Event Digest)} (hstep : step s action = some (t, events)) :
    Effect s action t events := by
  have reacts {h : Nat} {handler : Handler} {reaction : Reaction} (hhandler : s.handlers h = some handler)
      (hcases : Stays s handler reaction ∨ Leaves s h handler action s ∧ reaction = .leave handler)
      (hreact : some (react s h reaction) = some (t, events)) : Effect s action t events := by
    rcases hcases with hstays | ⟨hleaves, rfl⟩
    · exact serves_effect .idle hhandler hreact hstays
    · cases hreact
      exact .leaves s [] h handler .idle hhandler hleaves
  cases action with
  | service inner => exact service_effect hstep
  | accept h x => exact accept_effect hstep
  | sent h failure =>
      obtain ⟨handler, hhandler, hsend⟩ := onHandler_eq_some hstep
      obtain ⟨reaction, hreaction, heq⟩ := Option.map_eq_some_iff.mp hsend
      refine reacts hhandler ?_ (congrArg some heq)
      rcases afterSend_cases hreaction with hstays | rfl
      · exact .inl hstays
      · exact .inr ⟨.sent failure hreaction, rfl⟩
  | received h x received clock now =>
      obtain ⟨handler, hhandler, hreceive⟩ := onHandler_eq_some hstep
      exact receive_effect hhandler hreceive
  | closed h failure =>
      obtain ⟨handler, hhandler, hclose⟩ := onHandler_eq_some hstep
      obtain ⟨reaction, hreaction, heq⟩ := Option.map_eq_some_iff.mp hclose
      refine reacts hhandler ?_ (congrArg some heq)
      rcases afterClose_cases hreaction with hstays | rfl
      · exact .inl hstays
      · exact .inr ⟨.closed failure hreaction, rfl⟩
  | heartbeat h input =>
      obtain ⟨handler, hhandler, hbeat⟩ := onHandler_eq_some hstep
      unfold Operations.beat at hbeat
      split at hbeat
      · rename_i handler' hnext
        cases hbeat
        obtain ⟨hid, hsession, hstage, hstarted⟩ := beat_goes hnext
        exact .beats _ h handler handler' hhandler hid hsession hstage hstarted
      · rename_i handler' _ hnext
        cases hbeat
        obtain ⟨hid, hsession, hstage, hstarted⟩ := beat_goes hnext
        exact .beats _ h handler handler' hhandler hid hsession hstage hstarted
      · cases hbeat
  | joined h =>
      obtain ⟨handler, hhandler, hjoined⟩ := onHandler_eq_some hstep
      unfold Operations.joined at hjoined
      split at hjoined
      · rename_i outcome hstage hheartbeat
        cases hjoined
        have hclause : finallyClause s h handler = joinHeartbeat s h handler outcome := by
          simp only [finallyClause, hheartbeat]
        rw [← hclause]
        exact .leaves s [] h handler .idle hhandler (.joined outcome hstage hheartbeat)
      · cases hjoined

end Steps

end JarvisCore.Gateway.Effects
