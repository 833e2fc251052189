import JarvisCore.Gateway.ReferenceRuns

namespace JarvisCore.Gateway.ConnectionStates

open JarvisCore.Domain.Values
open JarvisCore.Domain.Errors
open JarvisCore.Domain.Models
open JarvisCore.Foundation.TransitionSystem
open JarvisCore.Manager.Operations (disconnect resolve)
open JarvisCore.Service.Operations (Config Event)
open JarvisCore.Gateway.Handlers
open JarvisCore.Gateway.Effects (Inner onHandler_eq_some)
open JarvisCore.Gateway.Turns
open JarvisCore.Gateway.Sessions
open JarvisCore.Gateway.ReferenceMachine
open JarvisCore.Gateway.Transports
open JarvisCore.Gateway.Frames
open JarvisCore.Gateway.Outputs
open JarvisCore.Gateway.Wire
open JarvisCore.Gateway.WireSteps
open JarvisCore.Gateway.FrameOrder
open JarvisCore.Gateway.Conformance
open JarvisCore.Gateway.ReferenceRuns

variable {Digest : Type} {config : Config Digest} [DecidableEq Digest]

def Uncalled (service service' : Service.Operations.State config) : Prop :=
  ∃ middle, (middle = service ∨ ∃ inner events, ¬ Inner inner ∧
      Service.Operations.step service inner = some (middle, events)) ∧
    (service' = middle ∨ ∃ d sessionId,
      service' = { middle with manager := (disconnect middle.manager d sessionId).1 })

section Steps

variable {settings : Settings} {s t : State config} {g g' : Operations.State config}
  {events : List (Event Digest)} {h : Nat} {handler : Handler}

theorem uncalled_refl (service : Service.Operations.State config) : Uncalled service service :=
  ⟨service, .inl rfl, .inl rfl⟩

theorem uncalled_react {reaction : Reaction}
    (hreact : some (Operations.react g h reaction) = some (g', events)) :
    Uncalled g.service g'.service := by
  have hafter : (Operations.react g h reaction).1 = g' := congrArg Prod.fst (Option.some.inj hreact)
  rw [← hafter]
  exact ⟨g.service, .inl rfl, react_service g h reaction⟩

omit [DecidableEq Digest] in
theorem not_inner_of_permitted {inner : Service.Operations.Action config}
    (hpermitted : Operations.permitted g inner = true) : ¬ Inner inner := by
  intro hinner
  unfold Effects.Inner at hinner
  split at hinner
  · cases hpermitted
  · cases hpermitted
  · cases hpermitted
  · exact hinner

theorem service_uncalled {inner : Service.Operations.Action config}
    (hstep : Operations.step g (.service inner) = some (g', events)) :
    Uncalled g.service g'.service := by
  simp only [Operations.step] at hstep
  split at hstep
  · cases hstep
  · rename_i g₁ served hserve
    have hpermitted : Operations.permitted g inner = true := by
      unfold Operations.serve at hserve
      split at hserve
      · assumption
      · cases hserve
    have hserved : ∃ inner events, ¬ Inner inner ∧
        Service.Operations.step g.service inner = some (g₁.service, events) :=
      ⟨inner, served, not_inner_of_permitted hpermitted, serve_step hserve⟩
    split at hstep
    · cases hstep
      exact ⟨_, .inr hserved, .inl rfl⟩
    · cases hstep
      exact ⟨g₁.service, .inr hserved, react_service _ _ _⟩

/-- Only a message that comes in makes a handler call the service for its session. -/
theorem step_uncalled {passed : Operations.Action config}
    (hstep : Operations.step g passed = some (g', events))
    (hpassed : ∀ h x message clock now, passed ≠ .received h x (.message message) clock now) :
    Uncalled g.service g'.service := by
  cases passed with
  | service inner => exact service_uncalled hstep
  | accept h x =>
      have haccept : Operations.accept g h x = some (g', events) := hstep
      unfold Operations.accept at haccept
      split at haccept
      · obtain ⟨service, hstart, rfl⟩ := callService_eq_some haccept
        exact ⟨service, .inr ⟨_, _, id, hstart⟩, .inl rfl⟩
      · cases haccept
  | sent h failure =>
      obtain ⟨handler, -, hsend⟩ := onHandler_eq_some hstep
      obtain ⟨reaction, -, heq⟩ := Option.map_eq_some_iff.mp hsend
      exact uncalled_react (congrArg some heq)
  | closed h failure =>
      obtain ⟨handler, -, hclose⟩ := onHandler_eq_some hstep
      obtain ⟨reaction, -, heq⟩ := Option.map_eq_some_iff.mp hclose
      exact uncalled_react (congrArg some heq)
  | heartbeat h input =>
      obtain ⟨handler, -, hbeat⟩ := onHandler_eq_some hstep
      unfold Operations.beat at hbeat
      split at hbeat
      · cases hbeat
        exact uncalled_refl _
      · cases hbeat
        exact uncalled_refl _
      · cases hbeat
  | joined h =>
      obtain ⟨handler, -, hjoined⟩ := onHandler_eq_some hstep
      unfold Operations.joined at hjoined
      split at hjoined
      · rename_i outcome _ hheartbeat
        have hreact : some (Operations.react g h (.leave handler)) = some (g', events) := by
          rw [← hjoined]
          simp only [Operations.react, Operations.finallyClause, hheartbeat]
        exact uncalled_react hreact
      · cases hjoined
  | received h x received clock now =>
      obtain ⟨handler, -, hreceive⟩ := onHandler_eq_some hstep
      unfold Operations.receive at hreceive
      split at hreceive
      · exact absurd rfl (hpassed h x _ clock now)
      · exact absurd rfl (hpassed h x _ clock now)
      · exact uncalled_react hreceive
      · exact uncalled_react hreceive
      · exact uncalled_react hreceive
      · exact uncalled_react hreceive
      · exact uncalled_react hreceive
      · cases hreceive

theorem wire_uncalled {action : Action config} (hstep : step settings s action = some t)
    (hinbound : ∀ h x event closing clock now, action ≠ .inbound h x event closing clock now) :
    Uncalled s.gateway.service t.gateway.service := by
  rcases step_cases hstep with ⟨passed, s₁, hpasses, hadvance⟩ | hquiet
  · obtain ⟨g, served, hgateway, rfl, -⟩ := advance_eq_some hadvance
    rw [hpasses.gateway] at hgateway
    refine step_uncalled hgateway ?_
    intro h x message clock now heq
    cases hpasses with
    | internal _ hdirect =>
        rw [heq] at hdirect
        cases hdirect
    | inbound h' y event closing clock' now' =>
        exact hinbound h' y event closing clock' now' rfl
    | returned h' j _ writer job failure _ htask hcontinuation =>
        rw [heq] at hcontinuation
        unfold continuation at hcontinuation
        split at hcontinuation
        all_goals cases hcontinuation
  · rw [hquiet.gateway]
    exact uncalled_refl _

end Steps

section Runs

variable {settings : Settings} {history : List (Step config)} {s : State config} {h : Nat}
  {handler : Handler} {sessionId : UUID}

omit [DecidableEq Digest] in
theorem due_of_unmatched {stage : Handlers.Stage} (sessionId : UUID)
    (hidle : ∀ job, ¬ Matches stage job) : due stage = [] := by
  cases stage with
  | reporting inBody =>
      have hmatches : Matches (.reporting inBody) (.send ⟨sessionId, .protocolError "" ""⟩) := trivial
      exact absurd hmatches (hidle _)
  | connecting | sendingHello | receivingHello | activating | sendingReady | receiving | replying
  | closing | awaitingHeartbeat | finished => rfl

/-- As long as the socket works and nobody else closes it, the messages and the closes of a
connection are those of the machine: all of them when the handler waits for no job, and a
part from the start before. The phase of the machine is that of the handler. A frame that
comes in makes the handler call the service as it makes the machine, and after a close no
frame is taken in. No other step makes such a call. -/
theorem implements_state_machine
    (hrun : Run (wire config settings) (.initial config) history s)
    (hcalm : ∀ u ∈ history, ¬ Disturbed settings h u)
    (hhandler : s.gateway.handlers h = some handler)
    (hsession : handler.sessionId = some sessionId) :
    let context : Context := ⟨settings, handler.deviceId, sessionId⟩
    let outcome := run context (inputs h history)
    (written (s.transports h) <+: outcome.frames ∧ (s.transports h).closes <+: outcome.closes) ∧
    ((∀ job, ¬ Matches handler.stage job) →
      written (s.transports h) = outcome.frames ∧ (s.transports h).closes = outcome.closes) ∧
    outcome.machine.phase = phaseOf handler.stage ∧ Ended outcome ∧
    (∀ x event closing clock now t, (event.refusal settings ≠ none → closing = none) →
      step settings s (.inbound h x event closing clock now) = some t →
      outcome.machine.phase ≠ .closed ∧
      Serves s.gateway.service handler sessionId x now t.gateway.service
        (outcome.machine.step context (.frame event clock fun result =>
          (resolve s.gateway.service.manager handler.deviceId sessionId result).2)).2.call) ∧
    (∀ event clock resolves call,
      (outcome.machine.step context (.frame event clock resolves)).2.call = some call →
      ∃ raw message, event = .text raw ∧ event.refusal settings = none ∧
        settings.decode raw = some message ∧ outcome.machine.Fresh context message ∧
        Checked context outcome.machine clock message call) ∧
    (∀ action t, step settings s action = some t →
      (∀ h x event closing clock now, action ≠ .inbound h x event closing clock now) →
      Uncalled s.gateway.service t.gateway.service) := by
  intro context outcome
  have hsim := sim_of_run hrun hcalm
  have hinv := inv_of_run hrun
  obtain ⟨hcorresponds, closes, hasked, hcloses⟩ :=
    (hsim.tracks handler hhandler).follows sessionId hsession
  have hphase : outcome.machine.phase = phaseOf handler.stage := hcorresponds.phase
  obtain ⟨hframes, hclosed⟩ := hasked.within
  have hall : outcome.closes = closes ++ due handler.stage := hcloses
  refine ⟨⟨hframes, ?_⟩, ?_, hphase, run_ended context _, ?_, ?_, ?_⟩
  · rw [hall]
    exact hclosed.trans (List.prefix_append _ _)
  · intro hidle
    have hfree := (hinv.connection h handler hhandler).own.free hidle
    obtain ⟨hwritten, hdone⟩ := hasked.eq_of_free hfree
    refine ⟨hwritten.symm, ?_⟩
    rw [hall, due_of_unmatched sessionId hidle, List.append_nil]
    exact hdone.symm
  · intro x event closing clock now t hclosing hstep
    obtain ⟨g, served, hgateway, rfl, -⟩ := advance_eq_some hstep
    have hfirst : Operations.step s.gateway
        (.received h x (receiveMessage settings event closing) clock now) =
        some (t.gateway, served) := hgateway
    constructor
    · obtain ⟨handler', -, hhandler', -, hstage⟩ := receives_session hsim hfirst
      obtain rfl := Option.some.inj (hhandler.symm.trans hhandler')
      rw [hphase]
      rcases hstage with hstage | hstage
      · rw [hstage]
        exact Phase.noConfusion
      · rw [hstage]
        exact Phase.noConfusion
    · exact (inbound_takes hsim hhandler hsession hclosing hfirst).serves
  · intro event clock resolves call hcall
    exact step_call hcall
  · intro action t hstep hinbound
    exact wire_uncalled hstep hinbound

end Runs

section Samples

open JarvisCore.Service.GrantContainment (sampleService)
open JarvisCore.Gateway.Cleanup (sampleUuid sampleProceed samplePerform)

/-- Nothing of the step disturbs connection `h`. -/
def calmStep (h : Nat) (u : Step config) : Bool :=
  let untroubled : Bool :=
    match u.action with
    | .internal (.received _ _ _ _ _) => false
    | .inbound _ _ _ closing _ _ => closing.isNone
    | .returned h' j _ =>
        match (u.source.transports h').tasks j with
        | some ⟨.handler, _, .done (some _)⟩ => false
        | _ => true
    | _ => true
  untroubled && (List.range (u.target.transports h).nextTask).all fun j =>
    match (u.target.transports h).tasks j with
    | some ⟨.handler, _, _⟩ => true
    | some ⟨_, .close _ _, _⟩ => false
    | _ => true

omit [DecidableEq Digest] in
theorem calm_of_test {settings : Settings} {h : Nat} {u : Step config}
    (hok : (u.target.transports h).Ok) (htest : calmStep h u = true) :
    ¬ Disturbed settings h u := by
  simp only [calmStep, Bool.and_eq_true, List.all_eq_true, List.mem_range] at htest
  obtain ⟨huntroubled, hothers⟩ := htest
  intro hdisturbed
  cases hdisturbed with
  | received x received clock now haction =>
      rw [haction] at huntroubled
      cases huntroubled
  | unclosed x event error clock now haction =>
      rw [haction] at huntroubled
      cases huntroubled
  | failed j now job error haction htask =>
      rw [haction] at huntroubled
      simp [htask] at huntroubled
  | closed j writer code reason progress htask hwriter =>
      have hnone := hothers j (hok.used htask)
      rw [htask] at hnone
      cases writer with
      | handler => exact hwriter rfl
      | heartbeat | command | closing | shutdown => cases hnone

theorem calm_of_replay {settings : Settings} {history : List (Step config)} {s : State config}
    {h : Nat} (hrun : Run (wire config settings) (.initial config) history s)
    (htest : history.all (calmStep h) = true) : ∀ u ∈ history, ¬ Disturbed settings h u := by
  intro u hu
  obtain ⟨later, earlier, -, hearlier, hfire, -⟩ := hrun.exists_of_mem hu
  have hinv := (inv_of_run hearlier).step (wire_step hfire)
  exact calm_of_test (transport_ok hinv h) (List.all_eq_true.mp htest u hu)

/-- The Agent says hello, gets `server.ready`, and sends a pong that nobody has asked for. -/
def sampleUnsolicited : List (Action sampleService) :=
  let activates : List (Operations.Action sampleService) :=
    [samplePerform 2, sampleProceed 2 103]
  let leaves : List (Operations.Action sampleService) := [.heartbeat 0 .cancelled, .joined 0]
  sampleGreeted ++ [sampleInbound 2 (.text (sampleHello (sampleUuid 102)))] ++
    activates.map .internal ++ sampleReturns 1 ++
    [sampleInbound 3 (.text (samplePong (sampleUuid 102)))] ++ sampleReturns 2 ++
    sampleReturns 3 ++ leaves.map .internal

/-- The first text is a `device.hello` of another session. -/
def sampleStranger : List (Action sampleService) :=
  sampleGreeted ++ [sampleInbound 2 (.text (sampleHello (sampleUuid 999)))] ++
    sampleReturns 1 ++ sampleReturns 2

/-- The handler of socket `0` is over; its session and what it has written are these. -/
def leavesWith (session : UUID) (codes : List String) (s : State sampleService) : Bool :=
  let told : List String := (written (s.transports 0)).map fun payload =>
    match payload with
    | .serverHello _ _ _ => "server.hello"
    | .serverReady _ _ => "server.ready"
    | .protocolError code _ => code
    | _ => ""
  told = codes && (s.transports 0).closes = [4400] &&
    match s.gateway.handlers 0 with
    | some handler => handler.stage = .finished && handler.sessionId = some session
    | none => false

theorem implements_state_machine_unsolicited :
    ∃ history s handler,
      Run (wire sampleService sampleSettings) (.initial sampleService) history s ∧
      leavesWith (sampleUuid 102)
        ["server.hello", "server.ready", "invalid_message"] s = true ∧
      s.gateway.handlers 0 = some handler ∧
      written (s.transports 0) = (run
        ⟨sampleSettings, handler.deviceId, sampleUuid 102⟩ (inputs 0 history)).frames := by
  obtain ⟨history, s, hrun, htest⟩ := exists_run_of_replay
    (S := wire sampleService sampleSettings) (s := .initial sampleService) sampleUnsolicited
    (fun history s => leavesWith (sampleUuid 102)
      ["server.hello", "server.ready", "invalid_message"] s && history.all (calmStep 0))
    (by decide +kernel)
  simp only [Bool.and_eq_true] at htest
  obtain ⟨hleaves, hcalm⟩ := htest
  have hover := hleaves
  simp only [leavesWith, Bool.and_eq_true] at hover
  obtain ⟨-, hover⟩ := hover
  split at hover
  · rename_i handler hhandler
    simp only [Bool.and_eq_true, decide_eq_true_eq] at hover
    obtain ⟨hfinished, hsession⟩ := hover
    have hmachine := implements_state_machine hrun (calm_of_replay hrun hcalm) hhandler hsession
    have hidle : ∀ job, ¬ Matches handler.stage job := by
      rw [hfinished]
      exact fun job => id
    exact ⟨history, s, handler, hrun, hleaves, hhandler, (hmachine.2.1 hidle).1⟩
  · cases hover

def receivesFrom (sessionId : UUID) (u : Step sampleService) : Bool :=
  match u.action with
  | .inbound _ _ (.text raw) _ _ _ =>
      (sampleSettings.decode raw).map Message.sessionId = some sessionId
  | _ => true

/-- The first frame is decodable and no `device.hello` of this session, and the Agent is not
told `device_hello_required`. -/
theorem stranger_not_required_hello :
    ∃ history s, Run (wire sampleService sampleSettings) (.initial sampleService) history s ∧
      (∀ u ∈ history, ¬ Disturbed sampleSettings 0 u) ∧
      (∀ u ∈ history, ∀ h x raw closing clock now,
        u.action = .inbound h x (.text raw) closing clock now →
          (sampleSettings.decode raw).map Message.sessionId = some (sampleUuid 999)) ∧
      leavesWith (sampleUuid 102) ["server.hello", "invalid_message"] s = true := by
  obtain ⟨history, s, hrun, htest⟩ := exists_run_of_replay
    (S := wire sampleService sampleSettings) (s := .initial sampleService) sampleStranger
    (fun history s => leavesWith (sampleUuid 102) ["server.hello", "invalid_message"] s &&
      history.all (calmStep 0) && history.all (receivesFrom (sampleUuid 999))) (by decide +kernel)
  simp only [Bool.and_eq_true, List.all_eq_true] at htest
  obtain ⟨⟨hleaves, hcalm⟩, hfrom⟩ := htest
  refine ⟨history, s, hrun, calm_of_replay hrun (List.all_eq_true.mpr hcalm), ?_, hleaves⟩
  intro u hu h x raw closing clock now haction
  have hreceived := hfrom u hu
  simp only [receivesFrom, haction] at hreceived
  exact of_decide_eq_true hreceived

end Samples

end JarvisCore.Gateway.ConnectionStates
