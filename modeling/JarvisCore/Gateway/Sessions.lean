import JarvisCore.Gateway.Invariant
import JarvisCore.Gateway.Turns

namespace JarvisCore.Gateway.Sessions

open JarvisCore.Domain.Values
open JarvisCore.Domain.Errors
open JarvisCore.Domain.Models
open JarvisCore.Foundation.TransitionSystem
open JarvisCore.Manager.Connections (SameConnection disconnect_lookup)
open JarvisCore.Manager.Operations (LiveConnection AdmittedCall disconnect)
open JarvisCore.Service.Operations (Config Request Value Event)
open JarvisCore.Service.Invariant (transportCalls)
open JarvisCore.Service.CallSteps
open JarvisCore.Gateway.Handlers
open JarvisCore.Gateway.Operations
open JarvisCore.Gateway.Effects
open JarvisCore.Gateway.Invariant
open JarvisCore.Gateway.Turns

variable {Digest : Type} {config : Config Digest}

def Early : Handlers.Stage → Prop
  | .connecting _ | .sendingHello | .receivingHello | .activating _ true => True
  | _ => False

/-- The handler has left the body of the `try` statement, or has only to report and to close. -/
def Leaving : Handlers.Stage → Prop
  | .reporting _ | .closing _ | .awaitingHeartbeat | .finished => True
  | _ => False

theorem Leaving.not_early {stage : Handlers.Stage} (h : Leaving stage) : ¬ Early stage := by
  intro hearly
  unfold Leaving at h
  split at h
  all_goals first | exact hearly | exact h

section Turns

variable {handler : Handler} {stimulus : Stimulus} {reaction : Reaction}

theorem settle_leave (handler : Handler) :
    ∃ stage, settle (.leave handler) = { handler with stage } ∧ Leaving stage := by
  refine ⟨_, rfl, ?_⟩
  split
  · trivial
  · trivial

theorem settle_except (handler : Handler) (error : Raised) :
    ∃ stage, settle (handler.except error) = { handler with stage } ∧ Leaving stage := by
  cases error with
  | disconnected | cancelled => exact settle_leave handler
  | device | valueError =>
      simp only [Handler.except]
      split
      · exact ⟨.reporting false, rfl, trivial⟩
      · exact settle_leave handler
  | typeError | runtimeError | foreign => exact ⟨.closing false, rfl, trivial⟩

theorem leaving_turn (hleaving : Leaving handler.stage) (hturn : Turn handler stimulus reaction) :
    Leaving (settle reaction).stage := by
  cases hturn with
  | reported | timedOut | demandsHello => trivial
  | raises _ seenIds error =>
      obtain ⟨stage, hsettle, hstage⟩ := settle_except { handler with seenIds } error
      rw [hsettle]
      exact hstage
  | departs =>
      obtain ⟨stage, hsettle, hstage⟩ := settle_leave handler
      rw [hsettle]
      exact hstage
  | connected _ _ hstage | activated _ _ _ hstage | greeted hstage | readied hstage
  | replied hstage | greets _ _ _ _ _ _ _ hstage | pongs _ _ _ _ _ _ _ hstage
  | updates _ _ _ _ _ _ _ hstage | passesOn _ _ _ _ _ _ _ _ _ _ _ hstage =>
      rw [hstage] at hleaving
      exact hleaving.elim

/-- A handler that has finished does not run again. -/
theorem turn_running (hturn : Turn handler stimulus reaction) : handler.stage ≠ .finished := by
  intro hfinished
  cases hturn with
  | connected _ _ hstage | activated _ _ _ hstage | greeted hstage | readied hstage
  | replied hstage | reported _ _ hstage | greets _ _ _ _ _ _ _ hstage
  | demandsHello _ _ _ _ _ hstage | pongs _ _ _ _ _ _ _ hstage | updates _ _ _ _ _ _ _ hstage
  | passesOn _ _ _ _ _ _ _ _ _ _ _ hstage | timedOut _ _ _ hstage => simp [hfinished] at hstage
  | raises _ _ _ hraises =>
      cases hraises with
      | answered x _ hawaited =>
          rw [hfinished] at hawaited
          cases hawaited
      | sending _ hstage | reporting _ hstage | closing _ hstage | receiving _ _ _ _ hstage
      | refused _ _ _ _ _ _ hstage | misplaced _ _ _ _ _ _ _ hstage => simp [hfinished] at hstage
  | departs _ hdeparts =>
      cases hdeparts with
      | unreported _ hstage | closed _ hstage | unclosed _ hstage | frame _ _ _ hstage
      | joined _ hstage => simp [hfinished] at hstage

/-- A handler keeps its device, its session once it has one, and its progress. -/
structure Advances (handler handler' : Handler) : Prop where
  deviceId : handler'.deviceId = handler.deviceId
  sessionId : (∀ x, handler.stage ≠ .connecting x) → handler'.sessionId = handler.sessionId
  late : ¬ Early handler.stage → ¬ Early handler'.stage

theorem Turn.advances (hturn : Turn handler stimulus reaction) :
    Advances handler (settle reaction) := by
  cases hturn with
  | connected x sessionId hstage =>
      refine ⟨rfl, fun hconnected => absurd hstage (hconnected x), fun hlate => ?_⟩
      rw [hstage] at hlate
      exact absurd trivial hlate
  | activated x first value hstage =>
      refine ⟨rfl, fun _ => rfl, fun _ => ?_⟩
      cases first with
      | true => exact id
      | false => exact id
  | greeted hstage =>
      refine ⟨rfl, fun _ => rfl, fun hlate => ?_⟩
      rw [hstage] at hlate
      exact absurd trivial hlate
  | readied | replied | updates => exact ⟨rfl, fun _ => rfl, fun _ => id⟩
  | reported | timedOut | demandsHello => exact ⟨rfl, fun _ => rfl, fun _ => id⟩
  | greets _ _ _ _ _ _ _ hstage =>
      refine ⟨rfl, fun _ => rfl, fun hlate => ?_⟩
      rw [hstage] at hlate
      exact absurd trivial hlate
  | pongs => exact ⟨rfl, fun _ => rfl, id⟩
  | passesOn _ _ _ resolved =>
      refine ⟨rfl, fun _ => rfl, fun _ => ?_⟩
      cases resolved with
      | true => exact id
      | false => exact id
  | raises _ seenIds error =>
      obtain ⟨stage, hsettle, hleaving⟩ := settle_except { handler with seenIds } error
      rw [hsettle]
      exact ⟨rfl, fun _ => rfl, fun _ => hleaving.not_early⟩
  | departs =>
      obtain ⟨stage, hsettle, hleaving⟩ := settle_leave handler
      rw [hsettle]
      exact ⟨rfl, fun _ => rfl, fun _ => hleaving.not_early⟩

end Turns

/-- The handler has made the session, and `activate_device` has returned to it. -/
def Late (s : State config) (h : Nat) (sessionId : UUID) : Prop :=
  ∃ handler, s.handlers h = some handler ∧ handler.sessionId = some sessionId ∧
    ¬ Early handler.stage

/-- The connection that the handler has made is out of the manager. -/
def Detached (service : Service.Operations.State config) (h : Nat) : Prop :=
  (∃ x d stage, service.calls x = some ⟨.connectDevice d h, stage⟩ ∧ Settled stage) ∧
    ∀ d k, service.manager.connections.lookup d = some k → k.transport ≠ h

/-- An `activate_device` call belongs to the handler that awaits it. -/
def Awaited (s : State config) (x : Nat) (deviceId sessionId : UUID) : Prop :=
  ∃ h handler first, s.owners x = some h ∧ s.handlers h = some handler ∧
    handler.stage = .activating x first ∧ handler.deviceId = deviceId ∧
    handler.sessionId = some sessionId

structure Bound (s : State config) : Prop where
  named : ∀ d k, s.service.manager.connections.lookup d = some k → k.sessionId ∈ s.issued ∧
    ∀ x d' h, HasSession s.service x d' h k.sessionId → h = k.transport
  activating : ∀ x d sessionId advertised stage,
    s.service.calls x = some ⟨.activateDevice d sessionId advertised, stage⟩ →
    Settled stage ∨ Awaited s x d sessionId
  online : ∀ d k, s.service.manager.connections.lookup d = some k → k.status = .online →
    Late s k.transport k.sessionId
  admitted : ∀ x call, s.service.manager.calls x = some (.admitted call) →
    Late s call.admission.transport call.admission.sessionId

variable [DecidableEq Digest]

/-- The service after a step, before the `finally` clause. -/
inductive Served (s : State config) (action : Action config) :
    Service.Operations.State config → List UUID → Prop
  | idle : Served s action s.service []
  | own (inner : Service.Operations.Action config) (service : Service.Operations.State config)
      (events : List (Event Digest)) : action = .service inner → permitted s inner = true →
      Service.Operations.step s.service inner = some (service, events) →
      Served s action service (issuedBy inner)
  | passing (inner : Service.Operations.Action config)
      (service : Service.Operations.State config) (events : List (Event Digest)) :
      (∀ x inputs, inner ≠ .proceed x inputs) →
      Service.Operations.step s.service inner = some (service, events) → Served s action service []

section Steps

variable {s t : State config} {action : Action config} {events : List (Event Digest)} {h : Nat}
  {sessionId : UUID}

theorem leaving_step {handler : Handler} (hhandler : s.handlers h = some handler)
    (hleaving : Leaving handler.stage) (hstep : step s action = some (t, events)) :
    ∃ after, t.handlers h = some after ∧ Leaving after.stage := by
  cases step_local hstep h with
  | rests hsame => exact ⟨handler, hsame.trans hhandler, hleaving⟩
  | accepted x deviceId _ hnone => cases hhandler.symm.trans hnone
  | turns found stimulus reaction _ hfound hturn _ hafter _ =>
      obtain rfl : handler = found := Option.some.inj (hhandler.symm.trans hfound)
      exact ⟨_, hafter, leaving_turn hleaving hturn⟩
  | beats found after input _ hfound hbeat hafter _ =>
      obtain rfl : handler = found := Option.some.inj (hhandler.symm.trans hfound)
      refine ⟨_, hafter, ?_⟩
      rw [(beat_goes hbeat).2.2.1]
      exact hleaving

theorem finished_step {handler : Handler} (hhandler : s.handlers h = some handler)
    (hfinished : handler.stage = .finished) (hstep : step s action = some (t, events)) :
    ∃ after, t.handlers h = some after ∧ after.stage = .finished := by
  cases step_local hstep h with
  | rests hsame => exact ⟨handler, hsame.trans hhandler, hfinished⟩
  | accepted x deviceId _ hnone => cases hhandler.symm.trans hnone
  | turns found stimulus reaction _ hfound hturn _ hafter _ =>
      obtain rfl : handler = found := Option.some.inj (hhandler.symm.trans hfound)
      exact absurd hfinished (turn_running hturn)
  | beats found after input _ hfound hbeat hafter _ =>
      obtain rfl : handler = found := Option.some.inj (hhandler.symm.trans hfound)
      exact ⟨_, hafter, (beat_goes hbeat).2.2.1.trans hfinished⟩

theorem Serves.served {s₁ : State config} (hserves : Serves s action s₁ events) :
    ∃ issued, Served s action s₁.service issued ∧ s₁.issued = issued ++ s.issued ∧
      ∀ x, s.service.calls x ≠ none → s₁.owners x = s.owners x := by
  cases hserves with
  | idle => exact ⟨[], .idle, rfl, fun _ _ => rfl⟩
  | own inner service _ haction hpermitted hstep =>
      exact ⟨issuedBy inner, .own inner service _ haction hpermitted hstep, rfl, fun _ _ => rfl⟩
  | inner inner service owners _ hinner hstep howners =>
      refine ⟨[], .passing inner service _ ?_ hstep, rfl, howners⟩
      rintro x inputs rfl
      exact hinner.elim

omit [DecidableEq Digest] in
theorem finallyClause_service (s : State config) (h : Nat) (handler : Handler) :
    (finallyClause s h handler).issued = s.issued ∧
      (finallyClause s h handler).owners = s.owners ∧
      ((finallyClause s h handler).service = s.service ∨
        ∃ d sessionId, (finallyClause s h handler).service =
          { s.service with manager := (disconnect s.service.manager d sessionId).1 }) := by
  have disconnects : (disconnectSession s h handler).issued = s.issued ∧
      (disconnectSession s h handler).owners = s.owners ∧
      ((disconnectSession s h handler).service = s.service ∨
        ∃ d sessionId, (disconnectSession s h handler).service =
          { s.service with manager := (disconnect s.service.manager d sessionId).1 }) := by
    unfold disconnectSession
    dsimp only
    split
    · exact ⟨rfl, rfl, .inl rfl⟩
    · exact ⟨rfl, rfl, .inr ⟨_, _, rfl⟩⟩
  unfold finallyClause joinHeartbeat
  split
  · exact disconnects
  · split
    · exact disconnects
    · split
      · exact ⟨rfl, rfl, .inl rfl⟩
      · exact disconnects
  · exact ⟨rfl, rfl, .inl rfl⟩

theorem step_service (hstep : step s action = some (t, events)) :
    ∃ service issued, Served s action service issued ∧ t.issued = issued ++ s.issued ∧
      (∀ x, s.service.calls x ≠ none → t.owners x = s.owners x) ∧
      (t.service = service ∨ ∃ d sessionId,
        t.service = { service with manager := (disconnect service.manager d sessionId).1 }) := by
  cases step_effect hstep with
  | serves _ _ hserves =>
      obtain ⟨issued, hserved, hissued, howners⟩ := Serves.served hserves
      exact ⟨_, issued, hserved, hissued, howners, .inl rfl⟩
  | accepts h x deviceId service owners _ _ _ hstart _ howners =>
      exact ⟨service, [], .passing _ service _ (by simp) hstart, rfl, howners, .inl rfl⟩
  | goes s₁ _ _ h handler handler' hserves =>
      obtain ⟨issued, hserved, hissued, howners⟩ := Serves.served hserves
      exact ⟨_, issued, hserved, hissued, howners, .inl rfl⟩
  | beats => exact ⟨_, [], .idle, rfl, fun _ _ => rfl, .inl rfl⟩
  | leaves s₁ _ h handler hserves =>
      obtain ⟨issued, hserved, hissued, howners⟩ := Serves.served hserves
      obtain ⟨hsame, hkept, hservice⟩ := finallyClause_service s₁ h handler
      refine ⟨_, issued, hserved, hsame.trans hissued, ?_, hservice⟩
      rw [hkept]
      exact howners

omit [DecidableEq Digest] in
/-- A connection that is in the manager after a step was there before its `disconnect`. -/
theorem lookup_of_disconnect {service service' : Service.Operations.State config}
    (hservice : service' = service ∨ ∃ d sessionId,
      service' = { service with manager := (disconnect service.manager d sessionId).1 })
    {d : UUID} {k : LiveConnection} (hk : service'.manager.connections.lookup d = some k) :
    service.manager.connections.lookup d = some k := by
  rcases hservice with rfl | ⟨d', sessionId, rfl⟩
  · exact hk
  · rcases disconnect_lookup service.manager d' sessionId d with hsame | ⟨-, hnone, -⟩
    · exact hsame.symm.trans hk
    · cases hnone.symm.trans hk

theorem Late.step (hlate : Late s h sessionId) (hstep : step s action = some (t, events)) :
    Late t h sessionId := by
  obtain ⟨handler, hhandler, hsession, hstage⟩ := hlate
  cases step_local hstep h with
  | rests hsame => exact ⟨handler, hsame.trans hhandler, hsession, hstage⟩
  | accepted x deviceId _ hnone => cases hhandler.symm.trans hnone
  | turns handler₀ stimulus reaction served hhandler₀ hturn _ hafter =>
      obtain rfl := Option.some.inj (hhandler.symm.trans hhandler₀)
      have hadvances := Turn.advances hturn
      refine ⟨_, hafter, ?_, hadvances.late hstage⟩
      refine (hadvances.sessionId ?_).trans hsession
      intro x hx
      exact hstage (hx ▸ trivial)
  | beats handler₀ handler' input _ hhandler₀ hbeat hafter =>
      obtain rfl := Option.some.inj (hhandler.symm.trans hhandler₀)
      obtain ⟨-, hsame, hkept, -⟩ := beat_goes hbeat
      exact ⟨handler', hafter, hsame.trans hsession, hkept ▸ hstage⟩

omit [DecidableEq Digest] in
theorem calls_of_disconnect {service service' : Service.Operations.State config}
    (hservice : service' = service ∨ ∃ d sessionId,
      service' = { service with manager := (disconnect service.manager d sessionId).1 }) :
    service'.calls = service.calls ∧ service'.manager.calls = service.manager.calls := by
  rcases hservice with rfl | ⟨d, sessionId, rfl⟩
  · exact ⟨rfl, rfl⟩
  · refine ⟨rfl, ?_⟩
    rcases Manager.Operations.disconnect_cases service.manager d sessionId with h | ⟨k, -, -, h⟩
    · rw [h]
    · rw [h]
      rfl

theorem Served.fresh {service : Service.Operations.State config} {issued : List UUID}
    (hserved : Served s action service issued) :
    service = s.service ∨ ∃ inner events,
      Service.Operations.step s.service inner = some (service, events) ∧
      ∀ x inputs, inner = .proceed x inputs → inputs.sessionId ∉ s.issued ∧
        inputs.sessionId ∈ issued := by
  cases hserved with
  | idle => exact .inl rfl
  | own inner _ events _ hpermitted hstep =>
      refine .inr ⟨inner, events, hstep, ?_⟩
      rintro x inputs rfl
      exact ⟨of_decide_eq_true hpermitted, List.mem_singleton_self _⟩
  | passing inner _ events hother hstep =>
      exact .inr ⟨inner, events, hstep, fun x inputs heq => absurd heq (hother x inputs)⟩

theorem Bound.step_named (hbound : Bound s) (hinv : Inv s)
    (hstep : step s action = some (t, events)) {d : UUID} {k : LiveConnection}
    (hk : t.service.manager.connections.lookup d = some k) :
    k.sessionId ∈ t.issued ∧
      ∀ x d' h, HasSession t.service x d' h k.sessionId → h = k.transport := by
  obtain ⟨service, issued, hserved, hissued, -, hservice⟩ := step_service hstep
  obtain ⟨log, hreached⟩ := hinv.sessions.reached
  have hcalls := (calls_of_disconnect hservice).1
  have hk := lookup_of_disconnect hservice hk
  have hsession {x : Nat} {d' : UUID} {h : Nat} (hx : HasSession t.service x d' h k.sessionId) :
      HasSession service x d' h k.sessionId := by
    unfold HasSession at hx ⊢
    rwa [hcalls] at hx
  rw [hissued]
  rcases hserved.fresh with rfl | ⟨inner, served, hinner, hfresh⟩
  · obtain ⟨hmem, hnamed⟩ := hbound.named d k hk
    exact ⟨List.mem_append_right _ hmem, fun x d' h hx => hnamed x d' h (hsession hx)⟩
  · rcases step_gained hreached hinner hk with
      ⟨k₀, hk₀, hsame⟩ | ⟨x, inputs, rfl, hconnecting, hnew⟩
    · obtain ⟨hmem, hnamed⟩ := hbound.named d k₀ hk₀
      rw [hsame.sessionId, hsame.transport]
      refine ⟨List.mem_append_right _ hmem, fun x d' h hx => ?_⟩
      have hx := hsession (hsame.sessionId ▸ hx)
      rcases step_session hreached hinner hx with hold | ⟨inputs, rfl, -, hnew⟩
      · exact hnamed x d' h (hsame.sessionId ▸ hold)
      · exact absurd (hnew ▸ hsame.sessionId ▸ hmem) (hfresh x inputs rfl).1
    · obtain ⟨hnone, hmem⟩ := hfresh x inputs rfl
      refine ⟨List.mem_append_left _ (hnew ▸ hmem), fun y d' h hy => ?_⟩
      rcases step_session hreached hinner (hsession hy) with hold | ⟨inputs', heq, hmade, -⟩
      · exact absurd (hnew ▸ hinv.sessions.issued y d' h _ hold) hnone
      · cases heq
        obtain ⟨device, hx, -⟩ := hconnecting
        obtain ⟨device', hx', -⟩ := hmade
        cases hx.symm.trans hx'
        rfl

theorem receive_activates {handler : Handler} {x : Nat} {received : Received} {clock : Datetime}
    {now : AwareDatetime} (hreceive : receive s h handler x received clock now = some (t, events)) :
    t.service.calls = s.service.calls ∨
      ∃ handler' first sessionId advertised, handler'.stage = .activating x first ∧
        handler'.sessionId = some sessionId ∧
        callService s h handler' x (.activateDevice handler'.deviceId sessionId advertised) =
          some (t, events) := by
  have reacts {s₁ : State config} {reaction : Reaction} (hsame : s₁.service.calls = s.service.calls)
      (hreact : some (react s₁ h reaction) = some (t, events)) :
      t.service.calls = s.service.calls := by
    rw [← hsame, ← react_calls s₁ h reaction, Option.some.inj hreact]
  unfold receive at hreceive
  split at hreceive
  · rename_i sessionId message hstage hsession
    unfold greeted at hreceive
    split at hreceive
    · split at hreceive
      · exact .inl (reacts rfl hreceive)
      · rename_i seenIds _
        exact .inr ⟨{ handler with seenIds, stage := .activating x true }, true, sessionId, _, rfl,
          hsession, hreceive⟩
    · exact .inl (reacts rfl hreceive)
  · rename_i sessionId message hstage hsession
    unfold served at hreceive
    split at hreceive
    · exact .inl (reacts rfl hreceive)
    · rename_i seenIds _
      dsimp only at hreceive
      split at hreceive
      · split at hreceive
        · refine .inl (reacts ?_ hreceive)
          rfl
        · exact .inl (reacts rfl hreceive)
      · exact .inr ⟨{ handler with seenIds, stage := .activating x false }, false, sessionId, _, rfl,
          hsession, hreceive⟩
      · split at hreceive
        · exact .inl (reacts rfl hreceive)
        · refine .inl (reacts ?_ hreceive)
          rfl
      · exact .inl (reacts rfl hreceive)
  iterate 5 exact .inl (reacts rfl hreceive)
  cases hreceive

theorem step_activates (hinv : Inv s) (hstep : step s action = some (t, events)) {x : Nat}
    {d : UUID} {advertised : Finset DeviceCapability} {stage : Service.Operations.Stage}
    (hnew : s.service.calls x = none)
    (hx : t.service.calls x = some ⟨.activateDevice d sessionId advertised, stage⟩) :
    Awaited t x d sessionId := by
  obtain ⟨log, hreached⟩ := hinv.sessions.reached
  have quiet (hsame : t.service.calls = s.service.calls) : Awaited t x d sessionId := by
    rw [hsame, hnew] at hx
    cases hx
  have starts {inner : Service.Operations.Action config} {service : Service.Operations.State config}
      {served : List (Event Digest)}
      (hinner : Service.Operations.step s.service inner = some (service, served))
      (hcalls : t.service.calls = service.calls) :
      inner = .start x (.activateDevice d sessionId advertised) := by
    rw [hcalls] at hx
    rcases step_request hreached hinner hx with ⟨stage₀, hold⟩ | heq
    · rw [hnew] at hold
      cases hold
    · exact heq
  cases action with
  | service inner =>
      simp only [step] at hstep
      split at hstep
      · cases hstep
      · rename_i s₁ served hserve
        have hcalls : t.service.calls = s₁.service.calls := by
          split at hstep
          · cases hstep
            rfl
          · cases hstep
            exact react_calls _ _ _
        unfold serve at hserve
        split at hserve
        · rename_i hpermitted
          split at hserve
          · rename_i service _ hinner
            cases hserve
            rw [starts hinner hcalls] at hpermitted
            cases hpermitted
          · cases hserve
        · cases hserve
  | accept h' y =>
      simp only [step, accept] at hstep
      split at hstep
      · obtain ⟨service, hstart, rfl⟩ := callService_eq_some hstep
        cases starts hstart rfl
      · cases hstep
  | sent h' failure =>
      obtain ⟨handler, -, hsend⟩ := onHandler_eq_some hstep
      obtain ⟨reaction, -, heq⟩ := Option.map_eq_some_iff.mp hsend
      exact quiet (by rw [← react_calls s h' reaction, heq])
  | received h' y received clock now =>
      obtain ⟨handler, -, hreceive⟩ := onHandler_eq_some hstep
      rcases receive_activates hreceive with
        hsame | ⟨handler', first, sessionId', advertised', hstage, hsession, hcall⟩
      · exact quiet hsame
      · obtain ⟨service, hstart, rfl⟩ := callService_eq_some hcall
        cases starts hstart rfl
        exact ⟨h', handler', first, Function.update_self _ _ _, State.setHandler_self _ _ _, hstage,
          rfl, hsession⟩
  | closed h' failure =>
      obtain ⟨handler, -, hclose⟩ := onHandler_eq_some hstep
      obtain ⟨reaction, -, heq⟩ := Option.map_eq_some_iff.mp hclose
      exact quiet (by rw [← react_calls s h' reaction, heq])
  | heartbeat h' input =>
      obtain ⟨handler, -, hbeat⟩ := onHandler_eq_some hstep
      unfold beat at hbeat
      split at hbeat
      · cases hbeat
        exact quiet rfl
      · cases hbeat
        exact quiet rfl
      · cases hbeat
  | joined h' =>
      obtain ⟨handler, -, hjoined⟩ := onHandler_eq_some hstep
      unfold joined at hjoined
      split at hjoined
      · rename_i outcome _ _
        cases hjoined
        exact quiet (joinHeartbeat_calls s h' handler outcome)
      · cases hjoined

omit [DecidableEq Digest] in
theorem turn_activating {handler : Handler} {stimulus : Stimulus} {reaction : Reaction} {x : Nat}
    {first : Bool} (hturn : Turn handler stimulus reaction)
    (hstage : handler.stage = .activating x first) : ∃ outcome, stimulus = .answered outcome := by
  cases hturn with
  | connected _ sessionId => exact ⟨.ok (.session sessionId), rfl⟩
  | activated _ _ value => exact ⟨.ok value, rfl⟩
  | raises _ seenIds error hraises =>
      cases hraises with
      | answered => exact ⟨.error error, rfl⟩
      | sending _ hsending => simp [hstage] at hsending
      | reporting _ hreporting => simp [hstage] at hreporting
      | closing _ hclosing => simp [hstage] at hclosing
      | receiving _ _ _ _ hreceiving => simp [hstage] at hreceiving
      | refused _ _ _ _ _ _ hreceiving => simp [hstage] at hreceiving
      | misplaced _ _ _ _ _ _ _ hreceiving => simp [hstage] at hreceiving
  | departs _ hdeparts =>
      cases hdeparts with
      | unreported _ hreporting => simp [hstage] at hreporting
      | closed _ hclosing => simp [hstage] at hclosing
      | unclosed _ hclosing => simp [hstage] at hclosing
      | frame _ _ _ hreceiving => simp [hstage] at hreceiving
      | joined _ hawaiting => simp [hstage] at hawaiting
  | greeted hother | readied hother | replied hother => simp [hstage] at hother
  | reported _ _ hother => simp [hstage] at hother
  | timedOut _ _ _ hother => simp [hstage] at hother
  | greets _ _ _ _ _ _ _ hother => simp [hstage] at hother
  | demandsHello _ _ _ _ _ hother => simp [hstage] at hother
  | pongs _ _ _ _ _ _ _ hother => simp [hstage] at hother
  | updates _ _ _ _ _ _ _ hother => simp [hstage] at hother
  | passesOn _ _ _ _ _ _ _ _ _ _ _ hother => simp [hstage] at hother

theorem Awaited.step {x : Nat} {d : UUID} (hawaited : Awaited s x d sessionId)
    (hstep : step s action = some (t, events)) (howner : t.owners x = s.owners x) :
    (∃ request outcome, t.service.calls x = some ⟨request, .finished outcome⟩) ∨
      Awaited t x d sessionId := by
  obtain ⟨h, handler, first, howns, hhandler, hstage, hid, hsession⟩ := hawaited
  cases step_local hstep h with
  | rests hsame =>
      exact .inr ⟨h, handler, first, howner.trans howns, hsame.trans hhandler, hstage, hid, hsession⟩
  | accepted _ _ _ hnone => cases hhandler.symm.trans hnone
  | turns handler₀ stimulus reaction served hhandler₀ hturn hcause =>
      obtain rfl := Option.some.inj (hhandler.symm.trans hhandler₀)
      obtain ⟨outcome, rfl⟩ := turn_activating hturn hstage
      cases hcause with
      | answered inner y request _ _ hawaits hfinished =>
          rw [hstage] at hawaits
          cases hawaits
          exact .inl ⟨request, outcome, hfinished⟩
  | beats handler₀ handler' input _ hhandler₀ hbeat hafter =>
      obtain rfl := Option.some.inj (hhandler.symm.trans hhandler₀)
      obtain ⟨hid', hsession', hkept, -⟩ := beat_goes hbeat
      exact .inr ⟨h, handler', first, howner.trans howns, hafter, hkept.trans hstage,
        hid'.trans hid, hsession'.trans hsession⟩

theorem Bound.step_activating (hbound : Bound s) (hinv : Inv s)
    (hstep : step s action = some (t, events)) {x : Nat} {d : UUID}
    {advertised : Finset DeviceCapability} {stage : Service.Operations.Stage}
    (hx : t.service.calls x = some ⟨.activateDevice d sessionId advertised, stage⟩) :
    Settled stage ∨ Awaited t x d sessionId := by
  obtain ⟨service, issued, hserved, -, howners, hservice⟩ := step_service hstep
  obtain ⟨log, hreached⟩ := hinv.sessions.reached
  have hcalls := (calls_of_disconnect hservice).1
  by_cases hnew : s.service.calls x = none
  · exact .inr (step_activates hinv hstep hnew hx)
  · have settled {stage₀ : Service.Operations.Stage}
        (hold : s.service.calls x = some ⟨.activateDevice d sessionId advertised, stage₀⟩)
        (hkept : Settled stage₀ → Settled stage) : Settled stage ∨ Awaited t x d sessionId := by
      rcases hbound.activating x d sessionId advertised stage₀ hold with hsettled | hawaited
      · exact .inl (hkept hsettled)
      · rcases hawaited.step hstep (howners x hnew) with ⟨request, outcome, hfinished⟩ | hstill
        · cases hx.symm.trans hfinished
          exact .inl trivial
        · exact .inr hstill
    rw [hcalls] at hx
    rcases hserved.fresh with rfl | ⟨inner, served, hinner, -⟩
    · exact settled hx id
    · rcases step_request hreached hinner hx with ⟨stage₀, hold⟩ | rfl
      · refine settled hold fun hsettled => ?_
        rcases step_settled hreached hinner hold hsettled with hsame | ⟨_, _, _, -, -, hdone, -⟩
        · cases hx.symm.trans hsame
          exact hsettled
        · cases hx.symm.trans hdone
          trivial
      · exact absurd (start_calls hinner).1 hnew

theorem Bound.transport (hbound : Bound s) (hinv : Inv s) {d : UUID} {k : LiveConnection}
    (hk : s.service.manager.connections.lookup d = some k) {handler : Handler}
    (hhandler : s.handlers h = some handler) (hsession : handler.sessionId = some k.sessionId) :
    h = k.transport := by
  obtain ⟨y, hy⟩ := hinv.known h handler k.sessionId hhandler hsession
  exact (hbound.named d k hk).2 y handler.deviceId h (.inr hy)

theorem activated_step {x : Nat} {inputs : Service.Operations.Inputs} {d : UUID}
    {advertised : Finset DeviceCapability} {value : Value} {handler : Handler} {first : Bool}
    (hstep : step s (.service (.proceed x inputs)) = some (t, events))
    (hdone : t.service.calls x =
      some ⟨.activateDevice d sessionId advertised, .finished (.ok value)⟩)
    (howner : s.owners x = some h) (hhandler : s.handlers h = some handler)
    (hstage : handler.stage = .activating x first) :
    t.handlers h = some { handler with stage := if first then .sendingReady else .replying } := by
  simp only [step] at hstep
  split at hstep
  · cases hstep
  · rename_i s₁ served hserve
    have hserves := serve_serves hserve
    have hhandlers := hserves.handlers
    have howners : s₁.owners = s.owners := by
      unfold serve at hserve
      split at hserve
      · split at hserve
        · cases hserve
          rfl
        · cases hserve
      · cases hserve
    have hcall : s₁.service.calls x = t.service.calls x := by
      split at hstep
      · cases hstep
        rfl
      · cases hstep
        exact (congrFun (react_calls _ _ _) x).symm
    have hresumption : resumption s₁ (.proceed x inputs) = some (h, .await
        { handler with stage := if first then .sendingReady else .replying }) := by
      simp only [resumption, callOf, howners, howner, hcall, hdone, hhandlers, hhandler, hstage,
        awaitedCall, resumed, if_true, Option.map_some]
      rfl
    rw [hresumption] at hstep
    cases hstep
    exact State.setHandler_self _ _ _

/-- A connection comes online in the step in which its handler goes on to `server.ready`. -/
theorem Bound.online_cases (hbound : Bound s) (hinv : Inv s)
    (hstep : step s action = some (t, events)) {d : UUID} {k : LiveConnection}
    (hk : t.service.manager.connections.lookup d = some k) (honline : k.status = .online) :
    ∃ k₀, s.service.manager.connections.lookup d = some k₀ ∧ SameConnection k₀ k ∧
      (k₀.status = .online ∨ ∃ handler x first, s.handlers k.transport = some handler ∧
        handler.stage = .activating x first ∧ handler.sessionId = some k.sessionId ∧
        t.handlers k.transport =
          some { handler with stage := if first then .sendingReady else .replying }) := by
  obtain ⟨service, issued, hserved, -, howners, hservice⟩ := step_service hstep
  obtain ⟨log, hreached⟩ := hinv.sessions.reached
  have hcalls := (calls_of_disconnect hservice).1
  have hk := lookup_of_disconnect hservice hk
  have changed {inner : Service.Operations.Action config} {served : List (Event Digest)}
      (hinner : Service.Operations.step s.service inner = some (service, served))
      (hother : ∀ x inputs, inner = .proceed x inputs → action = .service inner) :
      ∃ k₀, s.service.manager.connections.lookup d = some k₀ ∧ SameConnection k₀ k ∧
        (k₀.status = .online ∨ ∃ handler x first, s.handlers k.transport = some handler ∧
          handler.stage = .activating x first ∧ handler.sessionId = some k.sessionId ∧
          t.handlers k.transport =
            some { handler with stage := if first then .sendingReady else .replying }) := by
    obtain ⟨k₀, hk₀, hsame, hbefore | ⟨x, inputs, advertised, stage, value, rfl, hx, hrunning, hdone⟩⟩ :=
      Service.CallSteps.step_online hreached hinner hk honline
    · exact ⟨k₀, hk₀, hsame, .inl hbefore⟩
    · obtain rfl := hother x inputs rfl
      obtain ⟨h, handler, first, howns, hhandler, hstage, -, hsession⟩ :=
        (hbound.activating x d _ advertised stage hx).resolve_left hrunning
      obtain rfl := hbound.transport hinv hk₀ hhandler hsession
      rw [← hsame.transport] at hhandler
      have hafter := activated_step hstep (hcalls ▸ hdone) (hsame.transport ▸ howns) hhandler hstage
      exact ⟨k₀, hk₀, hsame, .inr ⟨handler, x, first, hhandler, hstage,
        hsame.sessionId ▸ hsession, hafter⟩⟩
  cases hserved with
  | idle => exact ⟨k, hk, .refl k, .inl honline⟩
  | own inner _ _ haction _ hinner => exact changed hinner fun _ _ _ => haction
  | passing inner _ _ hpassing hinner =>
      exact changed hinner fun x inputs heq => absurd heq (hpassing x inputs)

theorem Bound.step_online (hbound : Bound s) (hinv : Inv s)
    (hstep : step s action = some (t, events)) {d : UUID} {k : LiveConnection}
    (hk : t.service.manager.connections.lookup d = some k) (honline : k.status = .online) :
    Late t k.transport k.sessionId := by
  obtain ⟨k₀, hk₀, hsame, hbefore | ⟨handler, x, first, -, -, hsession, hafter⟩⟩ :=
    hbound.online_cases hinv hstep hk honline
  · rw [hsame.transport, hsame.sessionId]
    exact (hbound.online d k₀ hk₀ hbefore).step hstep
  · refine ⟨_, hafter, hsession, ?_⟩
    cases first with
    | true => exact id
    | false => exact id

theorem admitted_cases (hinv : Inv s) (hstep : step s action = some (t, events))
    {x : Nat} {call : AdmittedCall} (hcall : t.service.manager.calls x = some (.admitted call)) :
    (∃ call₀, s.service.manager.calls x = some (.admitted call₀) ∧
        call.admission = call₀.admission) ∨
      ∃ d k, s.service.manager.connections.lookup d = some k ∧ k.status = .online ∧
        call.admission.transport = k.transport ∧ call.admission.sessionId = k.sessionId := by
  obtain ⟨service, issued, hserved, -, -, hservice⟩ := step_service hstep
  obtain ⟨log, hreached⟩ := hinv.sessions.reached
  rw [(calls_of_disconnect hservice).2] at hcall
  rcases hserved.fresh with rfl | ⟨inner, served, hinner, -⟩
  · exact .inl ⟨call, hcall, rfl⟩
  · exact Service.CallSteps.step_admitted hreached hinner hcall

theorem Bound.step_admitted (hbound : Bound s) (hinv : Inv s)
    (hstep : step s action = some (t, events)) {x : Nat} {call : AdmittedCall}
    (hcall : t.service.manager.calls x = some (.admitted call)) :
    Late s call.admission.transport call.admission.sessionId := by
  rcases admitted_cases hinv hstep hcall with
    ⟨call₀, hcall₀, hsame⟩ | ⟨d, k, hk, honline, htransport, hsession⟩
  · rw [hsame]
    exact hbound.admitted x call₀ hcall₀
  · rw [htransport, hsession]
    exact hbound.online d k hk honline

theorem Bound.step (hbound : Bound s) (hinv : Inv s) (hstep : step s action = some (t, events)) :
    Bound t where
  named _ _ hk := hbound.step_named hinv hstep hk
  activating _ _ _ _ _ hx := hbound.step_activating hinv hstep hx
  online _ _ hk honline := hbound.step_online hinv hstep hk honline
  admitted _ _ hcall := (hbound.step_admitted hinv hstep hcall).step hstep

omit [DecidableEq Digest] in
theorem bound_initial : Bound (State.initial config) where
  named d k hk := by cases hk
  activating x d sessionId advertised stage hx := by cases hx
  online d k hk := by cases hk
  admitted x call hcall := by cases hcall

theorem serve_step {inner : Service.Operations.Action config} {s₁ : State config}
    {served : List (Event Digest)} (hserve : serve s inner = some (s₁, served)) :
    Service.Operations.step s.service inner = some (s₁.service, served) := by
  unfold serve at hserve
  split at hserve
  · split at hserve
    · rename_i hinner
      cases hserve
      exact hinner
    · cases hserve
  · cases hserve

omit [DecidableEq Digest] in
theorem mem_transportCalls {served : List (Event Digest)} {call : Manager.Operations.TransportCall}
    (hcall : .transport call ∈ served) : call ∈ transportCalls served :=
  List.mem_filterMap.mpr ⟨_, hcall, rfl⟩

/-- A command has been admitted on the transport that it goes to, or its connection is
online. -/
theorem sends_cases (hinv : Inv s) {inner : Service.Operations.Action config}
    {s₁ : State config} {served : List (Event Digest)}
    (hserve : serve s inner = some (s₁, served)) {x : Nat} {command : DeviceCommand}
    (hsend : .transport (.sendCommand x h command sessionId) ∈ served) :
    (∃ call, s.service.manager.calls x = some (.admitted call) ∧ call.admission.transport = h ∧
        call.admission.sessionId = sessionId) ∨
      ∃ d k, s.service.manager.connections.lookup d = some k ∧ k.status = .online ∧
        k.transport = h ∧ k.sessionId = sessionId := by
  obtain ⟨log, hreached⟩ := hinv.sessions.reached
  have hinner := serve_step hserve
  obtain ⟨call, hcall, rfl, rfl⟩ := step_sends hreached hinner (mem_transportCalls hsend)
  rcases Service.CallSteps.step_admitted hreached hinner hcall with
    ⟨call₀, hcall₀, hsame⟩ | ⟨d, k, hk, honline, htransport, hsession⟩
  · exact .inl ⟨call₀, hcall₀, by rw [hsame], by rw [hsame]⟩
  · exact .inr ⟨d, k, hk, honline, htransport.symm, hsession.symm⟩

theorem settled_of_connection (hinv : Inv s) {d : UUID} {k : LiveConnection}
    (hk : s.service.manager.connections.lookup d = some k) : ∃ x stage,
      s.service.calls x = some ⟨.connectDevice d k.transport, stage⟩ ∧ Settled stage := by
  obtain ⟨x, hsession | ⟨error, hcall⟩⟩ := hinv.sessions.connections d k hk
  · obtain ⟨stage, hcall, hsettled⟩ := hsession.call
    exact ⟨x, stage, hcall, hsettled⟩
  · exact ⟨x, _, hcall, trivial⟩

theorem Detached.inner (hdetached : Detached s.service h) (hinv : Inv s)
    {inner : Service.Operations.Action config} {service : Service.Operations.State config}
    (hinner : Service.Operations.step s.service inner = some (service, events)) :
    Detached service h := by
  obtain ⟨log, hreached⟩ := hinv.sessions.reached
  obtain ⟨⟨x, d, stage, hx, hsettled⟩, hnone⟩ := hdetached
  constructor
  · rcases step_settled hreached hinner hx hsettled with hsame | ⟨_, _, _, -, -, hdone, -⟩
    · exact ⟨x, d, stage, hsame, hsettled⟩
    · exact ⟨x, d, _, hdone, trivial⟩
  · rintro d' k hk rfl
    rcases step_gained hreached hinner hk with ⟨k₀, hk₀, hsame⟩ | ⟨y, inputs, -, ⟨device, hy, -⟩, -⟩
    · exact hnone d' k₀ hk₀ hsame.transport.symm
    · obtain rfl := hinv.once x y d d' _ _ _ hx hy
      cases hx.symm.trans hy
      exact hsettled

omit [DecidableEq Digest] in
theorem Detached.of_disconnect {service service' : Service.Operations.State config}
    (hdetached : Detached service h) (hservice : service' = service ∨ ∃ d sessionId,
      service' = { service with manager := (disconnect service.manager d sessionId).1 }) :
    Detached service' h := by
  obtain ⟨⟨x, d, stage, hx, hsettled⟩, hnone⟩ := hdetached
  refine ⟨⟨x, d, stage, ?_, hsettled⟩, fun d' k hk => hnone d' k (lookup_of_disconnect hservice hk)⟩
  rw [(calls_of_disconnect hservice).1]
  exact hx

theorem Detached.step (hdetached : Detached s.service h) (hinv : Inv s)
    (hstep : step s action = some (t, events)) : Detached t.service h := by
  obtain ⟨service, issued, hserved, -, -, hservice⟩ := step_service hstep
  refine Detached.of_disconnect ?_ hservice
  rcases hserved.fresh with rfl | ⟨inner, served, hinner, -⟩
  · exact hdetached
  · exact hdetached.inner hinv hinner

omit [DecidableEq Digest] in
theorem react_service (s : State config) (h : Nat) (reaction : Reaction) :
    (react s h reaction).1.service = s.service ∨ ∃ d sessionId,
      (react s h reaction).1.service =
        { s.service with manager := (disconnect s.service.manager d sessionId).1 } := by
  cases reaction with
  | await | close => exact .inl rfl
  | leave handler => exact (finallyClause_service s h handler).2.2

theorem detached_of_close (hinv : Inv s) {inner : Service.Operations.Action config}
    {s₁ : State config} {served : List (Event Digest)}
    (hserve : serve s inner = some (s₁, served))
    (hstep : step s (.service inner) = some (t, events)) {code : Nat} {reason : String}
    (hclose : .transport (.close h code reason) ∈ served) : Detached t.service h := by
  obtain ⟨log, hreached⟩ := hinv.sessions.reached
  have hinner := serve_step hserve
  obtain ⟨d, k, hk, rfl, hreplaced⟩ := step_closes hreached hinner (mem_transportCalls hclose)
  obtain ⟨x, stage, hx, hsettled⟩ := settled_of_connection hinv hk
  have unsettled {y : Nat} {d' : UUID} (hconnecting : Connecting s.service y d' k.transport) :
      False := by
    obtain ⟨device, hy, -⟩ := hconnecting
    obtain rfl := hinv.once x y d d' _ _ _ hx hy
    cases hx.symm.trans hy
    exact hsettled
  have hdetached : Detached s₁.service k.transport := by
    constructor
    · rcases step_settled hreached hinner hx hsettled with hsame | ⟨_, _, _, -, -, hdone, -⟩
      · exact ⟨x, d, stage, hsame, hsettled⟩
      · exact ⟨x, d, _, hdone, trivial⟩
    · intro d' k' hk' htransport
      rcases step_gained hreached hinner hk' with
        ⟨k₀, hk₀, hsame⟩ | ⟨y, inputs, -, hconnecting, -⟩
      · -- Two devices do not share a transport, so this is the connection that was replaced.
        obtain ⟨y, stage', hy, -⟩ := settled_of_connection hinv hk₀
        rw [← hsame.transport, htransport] at hy
        obtain rfl := hinv.once x y d d' _ _ _ hx hy
        cases hx.symm.trans hy
        obtain ⟨z, hconnecting⟩ := hreplaced k' hk'
        exact unsettled (htransport ▸ hconnecting)
      · exact unsettled (htransport ▸ hconnecting)
  simp only [step, hserve] at hstep
  split at hstep
  · cases hstep
    exact hdetached
  · cases hstep
    exact hdetached.of_disconnect (react_service _ _ _)

end Steps

end JarvisCore.Gateway.Sessions
