import JarvisCore.Gateway.Cleanup
import JarvisCore.Gateway.Sessions
import JarvisCore.Manager.ResultCorrelation
import JarvisCore.Manager.SendLocks

namespace JarvisCore.Gateway.ResultOrigins

open JarvisCore.Domain.Values
open JarvisCore.Domain.Errors
open JarvisCore.Domain.Models
open JarvisCore.Foundation.TransitionSystem
open JarvisCore.Manager.Operations
  (Admission AdmittedCall PendingCommand TransportCall disconnect resolve touch)
open JarvisCore.Manager.Execution (manager)
open JarvisCore.Manager.Evolution (Accepts step_continues run_continues)
open JarvisCore.Manager.SendLocks (PastSend dispatchOf step_pastSend)
open JarvisCore.Manager.ResultCorrelation (outcomeSound_of_reachable accepted_of_run)
open JarvisCore.Service.Operations (Config Request Value Event passedOn)
open JarvisCore.Service.Invariant (transportCalls)
open JarvisCore.Service.CallSteps
open JarvisCore.Gateway.Handlers
open JarvisCore.Gateway.Operations
open JarvisCore.Gateway.Effects
open JarvisCore.Gateway.Invariant
open JarvisCore.Gateway.Turns
open JarvisCore.Gateway.Sessions

variable {Digest : Type} {config : Config Digest} [DecidableEq Digest]

/-- In its READY loop the handler takes a message that passes the checks, and the result in it
goes to the manager. -/
structure PassesOn (u : Step config) (h : Nat) (deviceId sessionId : UUID)
    (result : DeviceCommandResult) : Prop where
  received : ∃ x message clock now handler,
    u.action = .received h x (.message message) clock now ∧
      u.source.handlers h = some handler ∧ handler.stage = .receiving ∧
      handler.deviceId = deviceId ∧ handler.sessionId = some sessionId ∧
      message.sessionId = sessionId ∧ message.messageId ∉ handler.seenIds.seen ∧
      message.payload = .result result.commandId result.succeeded result.output result.error
  deviceId : result.deviceId = deviceId

/-- The step of the manager is part of the step of the gateway. -/
structure Causes (u : Step config) (v : Manager.Evolution.Step) : Prop where
  calls : ∀ call ∈ v.events, .transport call ∈ u.events
  results : ∀ deviceId sessionId result, v.action = .resolve deviceId sessionId result →
    ∃ h, PassesOn u h deviceId sessionId result

def Follows (u : Step config) (m : Manager.Operations.State) : Prop :=
  ∃ steps, Run manager u.source.service.manager steps m ∧ ∀ v ∈ steps, Causes u v

section Steps

variable {h : Nat} {handler : Handler}

omit [DecidableEq Digest] in
theorem follows_source (u : Step config) : Follows u u.source.service.manager :=
  ⟨[], .nil, by simp⟩

omit [DecidableEq Digest] in
theorem Follows.step {u : Step config} {m m' : Manager.Operations.State}
    {managerAction : Manager.Execution.Action} {calls : List TransportCall} (hfollows : Follows u m)
    (hstep : Manager.Execution.step m managerAction = some (m', calls))
    (hcauses : Causes u ⟨m, managerAction, calls, m'⟩) : Follows u m' := by
  obtain ⟨steps, hrun, hall⟩ := hfollows
  refine ⟨_, .step managerAction calls m' hrun hstep, ?_⟩
  intro v hv
  rcases List.mem_cons.mp hv with rfl | hv
  · exact hcauses
  · exact hall v hv

omit [DecidableEq Digest] in
theorem Follows.disconnects {u : Step config} {m : Manager.Operations.State}
    (hfollows : Follows u m) (deviceId sessionId : UUID) :
    Follows u (disconnect m deviceId sessionId).1 := by
  have hstep : Manager.Execution.step m (.disconnect deviceId sessionId) =
      some ((disconnect m deviceId sessionId).1, []) := rfl
  refine hfollows.step hstep ⟨by simp, ?_⟩
  intro d c result haction
  cases haction

omit [DecidableEq Digest] in
theorem Follows.react {u : Step config} {s₁ : State config}
    (hfollows : Follows u s₁.service.manager) (h : Nat) (reaction : Reaction) :
    Follows u (react s₁ h reaction).1.service.manager := by
  rcases react_service s₁ h reaction with hsame | ⟨d, sessionId, hdisconnect⟩
  · rw [hsame]
    exact hfollows
  · rw [hdisconnect]
    exact hfollows.disconnects d sessionId

theorem follows_service {u : Step config} (hinv : Inv u.source)
    {inner : Service.Operations.Action config} {service : Service.Operations.State config}
    {served : List (Event Digest)}
    (hinner : Service.Operations.step u.source.service inner = some (service, served))
    (hresolve : ∀ deviceId sessionId result,
      inner ≠ .connections (.resolve deviceId sessionId result))
    (hserved : ∀ e ∈ served, e ∈ u.events) : Follows u service.manager := by
  obtain ⟨log, hreached⟩ := hinv.sessions.reached
  rcases Service.Invariant.step_manager hreached hinner with
    ⟨hsame, -⟩ | ⟨managerAction, -, hpassed, hstep⟩
  · rw [hsame]
    exact follows_source u
  · refine (follows_source u).step hstep ⟨?_, ?_⟩
    · intro call hcall
      obtain ⟨e, he, hcall⟩ := List.mem_filterMap.mp hcall
      cases e with
      | transport call' =>
          cases hcall
          exact hserved _ he
      | pairing => cases hcall
    · intro deviceId sessionId result haction
      obtain rfl : managerAction = .resolve deviceId sessionId result := haction
      exact absurd (hpassed rfl) (hresolve deviceId sessionId result)

theorem follows_call {u : Step config} (hinv : Inv u.source) {x : Nat} {request : Request}
    (hcall : callService u.source h handler x request = some (u.target, u.events)) :
    Follows u u.target.service.manager := by
  unfold callService at hcall
  split at hcall
  · rename_i service served hstart
    obtain ⟨htarget, hevents⟩ := Prod.mk.inj (Option.some.inj hcall)
    rw [← htarget]
    refine follows_service hinv hstart (by simp) ?_
    rw [hevents]
    exact fun _ he => he
  · cases hcall

omit [DecidableEq Digest] in
theorem follows_reaction {u : Step config} {s₁ : State config} {reaction : Reaction}
    (hfollows : Follows u s₁.service.manager)
    (hreact : some (react s₁ h reaction) = some (u.target, u.events)) :
    Follows u u.target.service.manager := by
  have htarget : (react s₁ h reaction).1 = u.target := congrArg Prod.fst (Option.some.inj hreact)
  rw [← htarget]
  exact hfollows.react h reaction

omit [DecidableEq Digest] in
theorem checkMessage_eq_ok {sessionId : UUID} {message : Message} {seenIds : SeenIds}
    (hcheck : handler.checkMessage sessionId message = .ok seenIds) :
    message.sessionId = sessionId ∧ message.messageId ∉ handler.seenIds.seen := by
  unfold Handler.checkMessage validateSession rememberMessage at hcheck
  split at hcheck
  · cases hcheck
  · rename_i hvalidate
    split at hvalidate
    · cases hvalidate
    · rename_i hsession
      split at hcheck
      · cases hcheck
      · rename_i hfresh
        exact ⟨not_not.mp hsession, hfresh⟩

theorem follows_served {u : Step config} (hinv : Inv u.source) {sessionId : UUID} {x : Nat}
    {message : Message} {clock : Datetime} {now : AwareDatetime}
    (haction : u.action = .received h x (.message message) clock now)
    (hhandler : u.source.handlers h = some handler) (hstage : handler.stage = .receiving)
    (hsession : handler.sessionId = some sessionId)
    (hserved : served u.source h handler sessionId x message clock now =
      some (u.target, u.events)) : Follows u u.target.service.manager := by
  unfold served at hserved
  split at hserved
  · exact follows_reaction (follows_source u) hserved
  · rename_i seenIds hcheck
    obtain ⟨hnamed, hfresh⟩ := checkMessage_eq_ok hcheck
    dsimp only at hserved
    split at hserved
    · split at hserved
      · refine follows_reaction ?_ hserved
        have hstep : Manager.Execution.step u.source.service.manager
            (.touch handler.deviceId sessionId now) =
            some ((touch u.source.service.manager handler.deviceId sessionId now).1, []) := rfl
        exact (follows_source u).step hstep ⟨by simp, by simp⟩
      · exact follows_reaction (follows_source u) hserved
    · exact follows_call hinv hserved
    · rename_i commandId succeeded output error hpayload
      split at hserved
      · exact follows_reaction (follows_source u) hserved
      · rename_i result hmake
        refine follows_reaction ?_ hserved
        obtain ⟨rfl, hdevice, rfl, rfl, rfl⟩ := DeviceCommandResult.make_eq_ok hmake
        have hstep : Manager.Execution.step u.source.service.manager
            (.resolve handler.deviceId sessionId result) =
            some ((resolve u.source.service.manager handler.deviceId sessionId result).1, []) := rfl
        refine (follows_source u).step hstep ⟨by simp, ?_⟩
        intro d c result' heq
        cases heq
        exact ⟨h, ⟨x, message, clock, now, handler, haction, hhandler, hstage, rfl, hsession,
          hnamed, hfresh, hpayload⟩, hdevice⟩
    · exact follows_reaction (follows_source u) hserved

theorem follows_receive {u : Step config} (hinv : Inv u.source) {x : Nat} {received : Received}
    {clock : Datetime} {now : AwareDatetime} (haction : u.action = .received h x received clock now)
    (hhandler : u.source.handlers h = some handler)
    (hreceive : receive u.source h handler x received clock now = some (u.target, u.events)) :
    Follows u u.target.service.manager := by
  unfold receive at hreceive
  split at hreceive
  · unfold greeted at hreceive
    split at hreceive
    · split at hreceive
      · exact follows_reaction (follows_source u) hreceive
      · exact follows_call hinv hreceive
    · exact follows_reaction (follows_source u) hreceive
  · rename_i hstage hsession
    exact follows_served hinv haction hhandler hstage hsession hreceive
  iterate 5 exact follows_reaction (follows_source u) hreceive
  cases hreceive

/-- A step of the gateway is any number of steps of the manager, and a result comes in only
with a message that a handler receives. -/
theorem step_follows {u : Step config} (hinv : Inv u.source)
    (hstep : step u.source u.action = some (u.target, u.events)) :
    Follows u u.target.service.manager := by
  have reacts {h : Nat} {reaction : Option Reaction}
      (hreact : reaction.map (react u.source h) = some (u.target, u.events)) :
      Follows u u.target.service.manager := by
    obtain ⟨reaction, -, hreact⟩ := Option.map_eq_some_iff.mp hreact
    exact follows_reaction (follows_source u) (congrArg some hreact)
  generalize haction : u.action = action at hstep
  cases action with
  | service inner =>
      simp only [Operations.step] at hstep
      split at hstep
      · cases hstep
      · rename_i s₁ served hserve
        have hresolve (d c : UUID) (result : DeviceCommandResult) :
            inner ≠ .connections (.resolve d c result) := by
          rintro rfl
          cases hserve
        split at hstep
        · obtain ⟨rfl, hevents⟩ := Prod.mk.inj (Option.some.inj hstep)
          refine follows_service hinv (serve_step hserve) hresolve ?_
          rw [hevents]
          exact fun _ he => he
        · obtain ⟨htarget, hevents⟩ := Prod.mk.inj (Option.some.inj hstep)
          rw [← htarget]
          refine Follows.react (follows_service hinv (serve_step hserve) hresolve ?_) _ _
          rw [← hevents]
          exact fun _ he => List.mem_append_left _ he
  | accept h x =>
      simp only [Operations.step, accept] at hstep
      split at hstep
      · exact follows_call hinv hstep
      · cases hstep
  | sent h failure | closed h failure =>
      obtain ⟨handler, -, hreact⟩ := onHandler_eq_some hstep
      exact reacts hreact
  | received h x received clock now =>
      obtain ⟨handler, hhandler, hreceive⟩ := onHandler_eq_some hstep
      exact follows_receive hinv haction hhandler hreceive
  | heartbeat h input =>
      obtain ⟨handler, -, hbeat⟩ := onHandler_eq_some hstep
      have hsame : u.target.service = u.source.service := by
        unfold beat at hbeat
        split at hbeat
        · obtain ⟨htarget, -⟩ := Prod.mk.inj (Option.some.inj hbeat)
          rw [← htarget]
          rfl
        · obtain ⟨htarget, -⟩ := Prod.mk.inj (Option.some.inj hbeat)
          rw [← htarget]
          rfl
        · cases hbeat
      rw [hsame]
      exact follows_source u
  | joined h =>
      obtain ⟨handler, -, hjoined⟩ := onHandler_eq_some hstep
      unfold joined at hjoined
      split at hjoined
      · rename_i outcome hstage hheartbeat
        have hreact : some (react u.source h (.leave handler)) = some (u.target, u.events) := by
          rw [← hjoined]
          simp only [react, finallyClause, hheartbeat]
        exact follows_reaction (follows_source u) hreact
      · cases hjoined

end Steps

section Runs

variable {history : List (Step config)} {s : State config}

theorem manager_run (hrun : Run (gateway config) (.initial config) history s) :
    ∃ steps, Run manager manager.start steps s.service.manager ∧
      ∀ v ∈ steps, ∃ u ∈ history, Causes u v := by
  refine hrun.historyInvariant (fun history s => ∃ steps,
    Run manager manager.start steps s.service.manager ∧ ∀ v ∈ steps, ∃ u ∈ history, Causes u v)
    ⟨[], .nil, by simp⟩ ?_
  rintro history s action t events hprev ⟨earlier, hearlier, hcaused⟩ hstep
  obtain ⟨later, hlater, hcauses⟩ :=
    step_follows (u := ⟨s, action, events, t⟩) (inv_of_run hprev) hstep
  refine ⟨later ++ earlier, hearlier.append hlater, ?_⟩
  intro v hv
  rcases List.mem_append.mp hv with hv | hv
  · exact ⟨_, List.mem_cons_self, hcauses v hv⟩
  · obtain ⟨u, hu, hcause⟩ := hcaused v hv
    exact ⟨u, List.mem_cons_of_mem _ hu, hcause⟩

omit [DecidableEq Digest] in
/-- The result of a call has come in for its session and under its identifier. -/
theorem resolved_of_returned {steps : List Manager.Evolution.Step} {m : Manager.Operations.State}
    (hrun : Run manager manager.start steps m) {x : Nat} {call : AdmittedCall}
    {result : DeviceCommandResult} (hcall : m.calls x = some (.admitted call))
    (hreturned : call.stage = .finished (.returned result)) :
    result.commandId = call.admission.command.id ∧
      result.deviceId = call.admission.command.deviceId ∧
      ∃ v ∈ steps, v.action =
        .resolve call.admission.command.deviceId call.admission.sessionId result := by
  have hheld : m.futures x = .result result :=
    outcomeSound_of_reachable hrun.reachable x call result hcall (by rw [hreturned]; exact rfl)
  obtain ⟨v, hv, haccepts⟩ := ((accepted_of_run hrun).recorded x result).mp hheld
  obtain ⟨later, earlier, -, hearlier, hfired, hlater⟩ := hrun.exists_of_mem hv
  obtain ⟨deviceId, sessionId, p, haction, ⟨hp, hd, hc, hr, -⟩, hpx, -⟩ := haccepts.spec hfired
  -- The entry is that of the call, whose admission does not change any more.
  obtain ⟨call₀, hcall₀, -, hid, hentry⟩ :=
    (Manager.Invariant.inv_of_reachable hearlier.reachable).owner _ p hp
  rw [hpx] at hcall₀ hentry
  obtain ⟨middle, hmiddle, hfirst⟩ := step_continues hfired hcall₀
  obtain ⟨last, hlast, hsecond⟩ := run_continues hlater hmiddle
  obtain rfl : last = call := by simpa [hlast] using hcall
  have hadmission : last.admission = call₀.admission := (hfirst.trans hsecond).admission
  have hdevice : call₀.admission.command.deviceId = deviceId := by
    rw [← hd, ← hentry]
    rfl
  have hsession : call₀.admission.sessionId = sessionId := by
    rw [← hc, ← hentry]
    rfl
  rw [hadmission, hid, hdevice, hsession]
  exact ⟨rfl, hr, v, hv, haction⟩

/-- The call that has authenticated the socket. -/
def Authenticated (s : State config) (h : Nat) (deviceId : UUID) : Prop :=
  ∃ token device, s.service.calls h = some ⟨.authenticate token, .finished (.ok (.device device))⟩ ∧
    device.id = deviceId

theorem Authenticated.step {t : State config} {action : Action config}
    {events : List (Event Digest)} {h : Nat} {deviceId : UUID}
    (hauthenticated : Authenticated s h deviceId) (hinv : Inv s)
    (hstep : Operations.step s action = some (t, events)) : Authenticated t h deviceId := by
  obtain ⟨token, device, hcall, hid⟩ := hauthenticated
  obtain ⟨service, issued, hserved, -, -, hservice⟩ := step_service hstep
  refine ⟨token, device, ?_, hid⟩
  rw [(calls_of_disconnect hservice).1]
  rcases hserved.fresh with rfl | ⟨inner, served, hinner, -⟩
  · exact hcall
  · obtain ⟨log, hreached⟩ := hinv.sessions.reached
    rcases step_settled hreached hinner hcall trivial with hsame | ⟨value, _, _, hvalue, -⟩
    · exact hsame
    · cases hvalue

theorem authenticated_of_accept {t : State config} {events : List (Event Digest)} {h x : Nat}
    {deviceId : UUID} {y : Nat} (haccept : accept s h x = some (t, events))
    (hhandler : t.handlers h = some (.accepted deviceId y)) : Authenticated s h deviceId := by
  unfold accept at haccept
  split at haccept
  · rename_i token device hnone hcall
    obtain ⟨service, -, rfl⟩ := callService_eq_some haccept
    rw [State.setHandler_self] at hhandler
    cases hhandler
    exact ⟨token, device, hcall, rfl⟩
  · cases haccept

theorem authenticated_of_run (hrun : Run (gateway config) (.initial config) history s) {h : Nat}
    {handler : Handler} (hhandler : s.handlers h = some handler) :
    Authenticated s h handler.deviceId := by
  revert h handler
  refine hrun.historyInvariant (fun _ s => ∀ {h : Nat} {handler : Handler},
    s.handlers h = some handler → Authenticated s h handler.deviceId) ?_ ?_
  · intro h handler hhandler
    cases hhandler
  · intro history s action t events hprev ih hstep h handler hhandler
    have hinv := inv_of_run hprev
    have hstep : Operations.step s action = some (t, events) := hstep
    cases step_local hstep h with
    | rests hsame => exact (ih (hsame ▸ hhandler)).step hinv hstep
    | accepted x deviceId haction hnone hafter =>
        obtain rfl := Option.some.inj (hafter.symm.trans hhandler)
        subst haction
        have haccept : accept s h x = some (t, events) := hstep
        exact (authenticated_of_accept haccept hafter).step hinv hstep
    | turns handler₀ stimulus reaction served hhandler₀ hturn _ hafter =>
        obtain rfl := Option.some.inj (hafter.symm.trans hhandler)
        rw [(Turn.advances hturn).deviceId]
        exact (ih hhandler₀).step hinv hstep
    | beats handler₀ handler' input _ hhandler₀ hbeat hafter =>
        obtain rfl := Option.some.inj (hafter.symm.trans hhandler)
        obtain ⟨hid, -⟩ := beat_goes hbeat
        rw [hid]
        exact (ih hhandler₀).step hinv hstep

theorem bound_of_run (hrun : Run (gateway config) (.initial config) history s) : Bound s :=
  hrun.historyInvariant (fun _ s => Bound s) bound_initial
    fun _ _ _ _ _ hprev hbound hstep => hbound.step (inv_of_run hprev) hstep

theorem same_handler (hinv : Inv s) {h h' : Nat} {sessionId : UUID} (hlate : Late s h sessionId)
    (hlate' : Late s h' sessionId) : h = h' := by
  obtain ⟨handler, hhandler, hsession, -⟩ := hlate
  obtain ⟨handler', hhandler', hsession', -⟩ := hlate'
  obtain ⟨x, hx⟩ := hinv.known h handler sessionId hhandler hsession
  obtain ⟨y, hy⟩ := hinv.known h' handler' sessionId hhandler' hsession'
  obtain rfl := hinv.sessions.unique x y _ _ _ _ sessionId (.inr hx) (.inr hy)
  exact (same_session (.inr hx) (.inr hy)).2.1

theorem kept_of_run {first : State config} (hrun : Run (gateway config) first history s)
    (hinv : Inv first) {h : Nat} {deviceId sessionId : UUID} (hlate : Late first h sessionId)
    (hauthenticated : Authenticated first h deviceId) :
    Late s h sessionId ∧ Authenticated s h deviceId := by
  obtain ⟨-, hkept⟩ := hrun.invariant
    (fun s => Inv s ∧ Late s h sessionId ∧ Authenticated s h deviceId)
    ⟨hinv, hlate, hauthenticated⟩ fun _ _ _ _ ⟨hinv, hlate, hauthenticated⟩ hstep =>
      ⟨hinv.step hstep, hlate.step hstep, hauthenticated.step hinv hstep⟩
  exact hkept

/-- What `execute_command` returns was said by the device itself: its command was sent on a
socket that had authenticated the device, and the result came in on that socket, in the session
of the command and under its identifier, in a message that had not been seen there before. -/
theorem results_come_from_sockets (hrun : Run (gateway config) (.initial config) history s)
    {x : Nat} {call : AdmittedCall} {result : DeviceCommandResult}
    (hcall : s.service.manager.calls x = some (.admitted call))
    (hreturned : call.stage = .finished (.returned result)) :
    ∃ h sessionId, Authenticated s h call.admission.command.deviceId ∧
      (∃ u ∈ history, .transport (.sendCommand x h call.admission.command sessionId) ∈ u.events) ∧
      (∃ u ∈ history, PassesOn u h call.admission.command.deviceId sessionId result) ∧
      result.commandId = call.admission.command.id := by
  obtain ⟨steps, hmanager, hcaused⟩ := manager_run hrun
  obtain ⟨hid, -, v, hv, hresolves⟩ := resolved_of_returned hmanager hcall hreturned
  obtain ⟨w, hw, hsend⟩ := Manager.SendLocks.dispatched_of_pastSend hmanager hcall
    (by rw [hreturned]; trivial)
  obtain ⟨u, hu, hcause⟩ := hcaused v hv
  obtain ⟨h, hpasses⟩ := hcause.results _ _ _ hresolves
  obtain ⟨y, message, clock, now, handler, -, hhandler, hstage, hdevice, hsession, -⟩ :=
    hpasses.received
  obtain ⟨later, earlier, -, hearlier, hfired, hlater⟩ := hrun.exists_of_mem hu
  have hsource := inv_of_run hearlier
  have hauthentic := authenticated_of_run hearlier hhandler
  rw [hdevice] at hauthentic
  have hlate : Late u.source h call.admission.sessionId :=
    ⟨handler, hhandler, hsession, hstage ▸ id⟩
  -- The handler keeps its session and its device after it has received the message.
  obtain ⟨hlate', hauthentic'⟩ := kept_of_run hlater (hsource.step hfired)
    (hlate.step hfired) (hauthentic.step hsource hfired)
  have hsame : h = call.admission.transport :=
    same_handler (inv_of_run hrun) hlate' ((bound_of_run hrun).admitted x call hcall)
  obtain ⟨u', hu', hcause'⟩ := hcaused w hw
  refine ⟨h, call.admission.sessionId, hauthentic', ⟨u', hu', ?_⟩, ⟨u, hu, hpasses⟩, hid⟩
  rw [hsame]
  exact hcause'.calls _ hsend

end Runs

section Samples

open JarvisCore.Manager.ResultCorrelation (hasReturned)
open JarvisCore.Service.GrantContainment (sampleService)
open JarvisCore.Gateway.Cleanup (sampleReady sampleSend sampleUuid)

/-- The device answers the command that call `3` has sent to it. -/
def sampleAnswer : List (Action sampleService) :=
  sampleReady ++ sampleSend none ++
    [.received 0 4 (.message ⟨sampleUuid 51, sampleUuid 102, .result ⟨9⟩ true .null none⟩)
        ⟨3, some 0⟩ ⟨3, 0⟩,
      .service (.connections (.copyResult 3)), .service (.connections (.resumeWait 3))]

theorem results_come_from_sockets_answered :
    ∃ (history : List (Step sampleService)) (s : State sampleService) (call : AdmittedCall)
      (result : DeviceCommandResult), Run (gateway sampleService) (.initial sampleService) history s ∧
      s.service.manager.calls 3 = some (.admitted call) ∧
      call.stage = .finished (.returned result) ∧
      ∃ h sessionId, Authenticated s h call.admission.command.deviceId ∧
        ∃ u ∈ history, PassesOn u h call.admission.command.deviceId sessionId result := by
  obtain ⟨history, s, hrun, hreturned⟩ := exists_run_of_replay (S := gateway sampleService)
    (s := .initial sampleService) sampleAnswer (fun _ s => hasReturned s.service.manager 3)
    (by decide)
  unfold hasReturned at hreturned
  split at hreturned
  · rename_i a cancelRequested result hcall
    obtain ⟨h, sessionId, hauthenticated, -, hpasses, -⟩ :=
      results_come_from_sockets hrun hcall rfl
    exact ⟨history, s, _, result, hrun, hcall, rfl, h, sessionId, hauthenticated, hpasses⟩
  · cases hreturned

end Samples

end JarvisCore.Gateway.ResultOrigins
