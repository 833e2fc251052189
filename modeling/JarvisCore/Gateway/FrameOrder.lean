import JarvisCore.Gateway.Cleanup
import JarvisCore.Gateway.Frames
import JarvisCore.Gateway.Sessions
import JarvisCore.Gateway.WireSteps
import JarvisCore.Protocol.RoundTrip

namespace JarvisCore.Gateway.FrameOrder

open JarvisCore.Domain.Values
open JarvisCore.Domain.Errors
open JarvisCore.Domain.Models
open JarvisCore.Foundation.TransitionSystem
open JarvisCore.Manager.Operations (TransportCall LiveConnection AdmittedCall)
open JarvisCore.Service.Operations (Config Event)
open JarvisCore.Gateway.Handlers
open JarvisCore.Gateway.Operations (serve)
open JarvisCore.Gateway.Effects (beat_goes)
open JarvisCore.Gateway.Turns
open JarvisCore.Gateway.Sessions
open JarvisCore.Gateway.Transports
open JarvisCore.Gateway.Transports.Transport (Evolves request_evolves)
open JarvisCore.Gateway.Frames
open JarvisCore.Gateway.Wire
open JarvisCore.Gateway.WireSteps

variable {Digest : Type} {config : Config Digest}

def Matches (stage : Handlers.Stage) (job : Job) : Prop :=
  match stage, job with
  | .sendingHello, .send message => IsHello message
  | .sendingReady, .send message => IsReady message
  | .replying, .send _ | .reporting _, .send _ | .closing _, .close _ _ => True
  | _, _ => False

/-- What has been written when a handler is at a stage. -/
def Progressed (t : Transport) : Handlers.Stage → Prop
  | .receivingHello | .activating _ true | .sendingReady => t.frames ≠ []
  | .receiving | .replying | .activating _ false => ReadySent t
  | .reporting _ | .closing true => t.frames ≠ [] ∨ t.closed = true
  | _ => True

structure Written (handler : Handler) (t : Transport) : Prop where
  proper : Proper handler.sessionId t
  progressed : Progressed t handler.stage
  beating : handler.heartbeat ≠ none → ReadySent t ∧ ¬ Early handler.stage

/-- What the end of its job tells a handler about the transport. -/
def Reported (handler : Handler) (t : Transport) : Stimulus → Prop
  | .sent none =>
      (handler.stage = .sendingHello → t.frames ≠ []) ∧
        (handler.stage = .sendingReady → ReadySent t)
  | .sent (some error) =>
      handler.stage = .sendingHello → t.frames ≠ [] ∨ t.closed = true ∨ error = .cancelled
  | _ => True

section Turns

variable {handler : Handler} {stimulus : Stimulus} {reaction : Reaction} {t t' : Transport}

theorem Progressed.grows {stage : Handlers.Stage} (h : Progressed t stage) (hgrows : Grows t t') :
    Progressed t' stage := by
  unfold Progressed at h ⊢
  split
  all_goals
    first
      | exact frames_grow hgrows h
      | exact ReadySent.grows h hgrows
      | exact h.imp (frames_grow hgrows) hgrows.closed
      | trivial

theorem leave_progressed (handler : Handler) (t : Transport) :
    Progressed t (settle (.leave handler)).stage := by
  simp only [settle]
  split
  · trivial
  · trivial

/-- A handler that reports has sent `server.hello`, or its transport is closed. -/
theorem except_progressed {error : Raised}
    (hwritten : handler.sessionId ≠ none → error ≠ .cancelled →
      t.frames ≠ [] ∨ t.closed = true) : Progressed t (settle (handler.except error)).stage := by
  cases error with
  | disconnected | cancelled => exact leave_progressed handler t
  | device | valueError =>
      simp only [Handler.except]
      split
      · rename_i hsession
        exact hwritten (by simp [hsession]) (by simp)
      · exact leave_progressed handler t
  | typeError | runtimeError | foreign => trivial

/-- The body of the `try` statement raises when `server.hello` has been sent. -/
theorem raises_written {seenIds : SeenIds} {error : Raised} (hwritten : Written handler t)
    (hreported : Reported handler t stimulus)
    (hconnecting : ∀ x, handler.stage = .connecting x → handler.sessionId = none)
    (hraises : Raises handler stimulus seenIds error) (hsession : handler.sessionId ≠ none)
    (hcancelled : error ≠ .cancelled) : t.frames ≠ [] ∨ t.closed = true := by
  have hprogressed := hwritten.progressed
  cases hraises with
  | answered x _ hawaits =>
      cases hstage : handler.stage with
      | connecting y => exact absurd (hconnecting y hstage) hsession
      | activating y first =>
          rw [hstage] at hprogressed
          cases first with
          | true => exact .inl hprogressed
          | false => exact .inl (ReadySent.frames hprogressed)
      | _ =>
          rw [hstage] at hawaits
          cases hawaits
  | sending _ hstage =>
      rcases hstage with hstage | hstage | hstage
      · rcases hreported hstage with hframes | hclosed | heq
        · exact .inl hframes
        · exact .inr hclosed
        · exact absurd heq hcancelled
      · rw [hstage] at hprogressed
        exact .inl hprogressed
      · rw [hstage] at hprogressed
        exact .inl (ReadySent.frames hprogressed)
  | reporting _ hstage =>
      rw [hstage] at hprogressed
      exact hprogressed
  | closing _ hstage =>
      rw [hstage] at hprogressed
      exact hprogressed
  | receiving _ _ _ _ hstage =>
      rcases hstage with hstage | hstage
      · rw [hstage] at hprogressed
        exact .inl hprogressed
      · rw [hstage] at hprogressed
        exact .inl (ReadySent.frames hprogressed)
  | refused _ _ _ _ _ _ hstage =>
      rcases hstage with ⟨hstage, -⟩ | hstage
      · rw [hstage] at hprogressed
        exact .inl hprogressed
      · rw [hstage] at hprogressed
        exact .inl (ReadySent.frames hprogressed)
  | misplaced _ _ _ _ _ _ _ hstage =>
      rw [hstage] at hprogressed
      exact .inl (ReadySent.frames hprogressed)

theorem turn_progressed (hwritten : Written handler t) (hreported : Reported handler t stimulus)
    (hconnecting : ∀ x, handler.stage = .connecting x → handler.sessionId = none)
    (hturn : Turn handler stimulus reaction) : Progressed t (settle reaction).stage := by
  have hprogressed := hwritten.progressed
  cases hturn with
  | connected => trivial
  | departs => exact leave_progressed handler t
  | activated _ first _ hstage =>
      rw [hstage] at hprogressed
      cases first with
      | true => exact hprogressed
      | false => exact hprogressed
  | greeted hstage => exact hreported.1 hstage
  | readied hstage => exact hreported.2 hstage
  | replied hstage =>
      rw [hstage] at hprogressed
      exact hprogressed
  | reported inBody _ hstage =>
      rw [hstage] at hprogressed
      cases inBody with
      | true => exact hprogressed
      | false => trivial
  | timedOut _ _ _ hstage =>
      rw [hstage] at hprogressed
      exact .inl hprogressed
  | greets _ _ _ _ _ _ _ hstage =>
      rw [hstage] at hprogressed
      exact hprogressed
  | demandsHello _ _ _ _ _ hstage =>
      rw [hstage] at hprogressed
      exact .inl hprogressed
  | pongs => exact hprogressed
  | updates _ _ _ _ _ _ _ hstage =>
      rw [hstage] at hprogressed
      exact hprogressed
  | passesOn _ _ _ resolved _ _ _ _ _ _ _ hstage =>
      rw [hstage] at hprogressed
      cases resolved with
      | true => exact hprogressed
      | false => exact hprogressed
  | raises _ seenIds error hraises =>
      exact except_progressed fun hsession hcancelled =>
        raises_written hwritten hreported hconnecting hraises hsession hcancelled

theorem turn_heartbeat (hturn : Turn handler stimulus reaction) :
    (settle reaction).heartbeat = handler.heartbeat ∨
      handler.stage = .sendingReady ∧ stimulus = .sent none ∧
        settle reaction = { handler with heartbeat := some .sleeping, stage := .receiving } := by
  cases hturn with
  | readied hstage => exact .inr ⟨hstage, rfl, rfl⟩
  | raises _ seenIds error =>
      obtain ⟨stage, hsettle, -⟩ := settle_except { handler with seenIds } error
      rw [hsettle]
      exact .inl rfl
  | departs | connected | activated | greeted | replied | reported | timedOut | greets
  | demandsHello | pongs | updates | passesOn => exact .inl rfl

theorem turn_written (hwritten : Written handler t) (hreported : Reported handler t stimulus)
    (hconnecting : ∀ x, handler.stage = .connecting x → handler.sessionId = none)
    (hturn : Turn handler stimulus reaction) : Written (settle reaction) t where
  proper := by
    by_cases hstage : ∃ x, handler.stage = .connecting x
    · obtain ⟨x, hstage⟩ := hstage
      have hproper := hwritten.proper
      rw [hconnecting x hstage] at hproper
      exact hproper.learns _
    · rw [(Turn.advances hturn).sessionId (not_exists.mp hstage)]
      exact hwritten.proper
  progressed := turn_progressed hwritten hreported hconnecting hturn
  beating := by
    intro hheartbeat
    rcases turn_heartbeat hturn with hsame | ⟨hstage, rfl, hsettle⟩
    · rw [hsame] at hheartbeat
      obtain ⟨hready, hlate⟩ := hwritten.beating hheartbeat
      exact ⟨hready, (Turn.advances hturn).late hlate⟩
    · rw [hsettle]
      exact ⟨hreported.2 hstage, id⟩

end Turns

section Jobs

variable {settings : Settings} {g : Operations.State config} {action : Operations.Action config}
  {events : List (Event Digest)} {h : Nat} {before after : Handler} {t : Transport} {job : Job}

theorem closeRequest_eq_some (hclose : closeRequest h events = some job) :
    ∃ code reason, job = .close code reason := by
  unfold closeRequest at hclose
  obtain ⟨event, -, hevent⟩ := List.exists_of_findSome?_eq_some hclose
  split at hevent
  · split at hevent
    · cases hevent
      exact ⟨_, _, rfl⟩
    · cases hevent
  · cases hevent

theorem handlerJob_fits (hwritten : Written after t)
    (hjob : handlerJob settings g action events h before after = some job) :
    Fits after.sessionId t job ∧ Matches after.stage job := by
  have hprogressed := hwritten.progressed
  unfold handlerJob at hjob
  split at hjob
  · cases hjob
  · split at hjob
    · rename_i inBody hstage
      obtain ⟨code, reason, rfl⟩ := closeRequest_eq_some hjob
      rw [hstage]
      exact ⟨trivial, trivial⟩
    · split at hjob
      · rename_i payload sessionId hpayload hsession
        cases hjob
        unfold sentPayload at hpayload
        split at hpayload
        · rename_i hstage
          cases hpayload
          rw [hstage]
          exact ⟨⟨hsession, .inr ⟨.inl trivial, fun hlate => hlate.elim⟩⟩, trivial⟩
        · rename_i hstage
          cases hpayload
          rw [hstage] at hprogressed ⊢
          exact ⟨⟨hsession, .inr ⟨.inr hprogressed, fun hlate => hlate.elim⟩⟩, trivial⟩
        · rename_i hstage
          rw [hstage] at hprogressed ⊢
          have hready : ReadySent t := hprogressed
          exact ⟨⟨hsession, .inr ⟨.inr hready.frames, fun _ => hready⟩⟩, trivial⟩
        · rename_i hstage
          cases hpayload
          rw [hstage] at hprogressed ⊢
          refine ⟨⟨hsession, ?_⟩, trivial⟩
          rcases hprogressed with hframes | hclosed
          · exact .inr ⟨.inr hframes, fun hlate => hlate.elim⟩
          · exact .inl hclosed
        · rename_i hstage
          cases hpayload
          rw [hstage] at hprogressed ⊢
          refine ⟨⟨hsession, ?_⟩, trivial⟩
          rcases hprogressed with hframes | hclosed
          · exact .inr ⟨.inr hframes, fun hlate => hlate.elim⟩
          · exact .inl hclosed
        · cases hpayload
      · cases hjob

theorem heartbeatJob_fits (hwritten : Written after t)
    (hjob : heartbeatJob events h before after = some job) : Fits after.sessionId t job := by
  unfold heartbeatJob at hjob
  split at hjob
  · rename_i sessionId nonce _ hheartbeat hsession _
    cases hjob
    obtain ⟨hready, -⟩ := hwritten.beating (by simp [hheartbeat])
    exact ⟨hsession, .inr ⟨.inr hready.frames, fun _ => hready⟩⟩
  · obtain ⟨code, reason, rfl⟩ := closeRequest_eq_some hjob
    trivial
  · cases hjob

theorem heartbeatJob_eq_none (hsame : after.heartbeat = before.heartbeat ∨
    after.heartbeat = some .sleeping) : heartbeatJob events h before after = none := by
  unfold heartbeatJob
  split
  · rename_i hbefore hafter _ _
    rw [hbefore, hafter] at hsame
    simp at hsame
  · rename_i hbefore hafter
    rw [hbefore, hafter] at hsame
    simp at hsame
  · rfl

end Jobs

/-- A connection, its handler and its transport. -/
structure Connection (service : Service.Operations.State config) (h : Nat) (handler : Handler)
    (t : Transport) : Prop where
  ok : t.Ok
  written : Written handler t
  own : OwnTasks (Matches handler.stage) t
  untouched : Early handler.stage → Untouched t ∨ Detached service h

variable [DecidableEq Digest]

structure Inv (s : State config) : Prop where
  gateway : Gateway.Invariant.Inv s.gateway
  bound : Bound s.gateway
  idle : ∀ h, s.gateway.handlers h = none → s.transports h = .fresh
  connection : ∀ h handler, s.gateway.handlers h = some handler →
    Connection s.gateway.service h handler (s.transports h)
  online : ∀ d k, s.gateway.service.manager.connections.lookup d = some k → k.status = .online →
    ReadySent (s.transports k.transport)
  admitted : ∀ x call, s.gateway.service.manager.calls x = some (.admitted call) →
    ReadySent (s.transports call.admission.transport)
  gathered : ∀ r ∈ s.gathered, Detached s.gateway.service r.1 ∧
    ∃ code reason, r.2 = .close code reason

def Told (s : State config) : Operations.Action config → Prop
  | .sent h failure => ∀ handler, s.gateway.handlers h = some handler →
      Free (s.transports h) ∧ Reported handler (s.transports h) (.sent failure)
  | .closed h _ => Free (s.transports h)
  | _ => True

section Requests

variable {settings : Settings} {s s' : State config} {action : Operations.Action config}
  {g : Operations.State config} {events : List (Event Digest)} {h : Nat} {t : Transport}

omit [DecidableEq Digest] in
theorem requestAll_grows (encodes : DeviceCommand → Bool) (t : Transport)
    (jobs : List (Writer × Job)) : Grows t (requestAll encodes t jobs) :=
  requestAll_rule (.refl t) fun _ r _ hgrows =>
    hgrows.trans (grows_of_evolves (request_evolves r.1 r.2))

omit [DecidableEq Digest] in
theorem Written.grows {handler : Handler} {t' : Transport} (h : Written handler t)
    (hproper : Proper handler.sessionId t') (hgrows : Grows t t') : Written handler t' where
  proper := hproper
  progressed := h.progressed.grows hgrows
  beating hheartbeat := (h.beating hheartbeat).imp_left fun hready => hready.grows hgrows

omit [DecidableEq Digest] in
theorem requestAll_written {encodes : DeviceCommand → Bool} {handler : Handler}
    {jobs : List (Writer × Job)} (hwritten : Written handler t)
    (hfits : ∀ r ∈ jobs, Fits handler.sessionId t r.2) :
    Written handler (requestAll encodes t jobs) := by
  refine hwritten.grows ?_ (requestAll_grows encodes t jobs)
  have hproper : Grows t (requestAll encodes t jobs) ∧
      Proper handler.sessionId (requestAll encodes t jobs) := by
    refine requestAll_rule (P := fun t' => Grows t t' ∧ Proper handler.sessionId t')
      ⟨.refl t, hwritten.proper⟩ ?_
    rintro t' r hmem ⟨hgrows, hproper⟩
    have hevolves : Evolves t' _ _ (t'.request encodes r.1 r.2) := request_evolves r.1 r.2
    refine ⟨hgrows.trans (grows_of_evolves hevolves), ?_⟩
    exact hproper.evolves ((hfits r hmem).grows hgrows) (by simp) hevolves
  exact hproper.2

omit [DecidableEq Digest] in
theorem requestAll_ok {encodes : DeviceCommand → Bool} {jobs : List (Writer × Job)}
    (hok : t.Ok) : (requestAll encodes t jobs).Ok :=
  requestAll_rule hok fun _ r _ hok => hok.request r.1 r.2

omit [DecidableEq Digest] in
theorem requestAll_own {encodes : DeviceCommand → Bool} {jobs : List (Writer × Job)}
    {allowed : Job → Prop} (hown : OwnTasks allowed t) (hothers : ∀ r ∈ jobs, r.1 ≠ .handler) :
    OwnTasks allowed (requestAll encodes t jobs) :=
  requestAll_rule hown fun _ r hmem hown => hown.request (hothers r hmem) r.2

inductive ServiceJob (s : State config) (action : Operations.Action config) (h : Nat) :
    Writer × Job → Prop
  | sends (inner : Service.Operations.Action config) (s₁ : Operations.State config)
      (served : List (Event Digest)) (x : Nat) (command : DeviceCommand) (sessionId : UUID) :
      action = .service inner → serve s.gateway inner = some (s₁, served) →
      .transport (.sendCommand x h command sessionId) ∈ served →
      ServiceJob s action h (.command x, .send ⟨sessionId, .commandExecute command⟩)
  | closes (inner : Service.Operations.Action config) (s₁ : Operations.State config)
      (served : List (Event Digest)) (code : Nat) (reason : String) (writer : Writer) :
      action = .service inner → serve s.gateway inner = some (s₁, served) →
      .transport (.close h code reason) ∈ served → writer ≠ .handler →
      ServiceJob s action h (writer, .close code reason)

theorem serviceJob_of_mem {r : Writer × Job} (hmem : r ∈ serviceRequests s action h) :
    ServiceJob s action h r := by
  unfold serviceRequests at hmem
  split at hmem
  · rename_i inner
    split at hmem
    · rename_i s₁ served hserve
      obtain ⟨event, hevent, hjob⟩ := List.mem_filterMap.mp hmem
      unfold serviceJob at hjob
      split at hjob
      · rename_i x transport command sessionId
        split at hjob
        · rename_i htransport
          subst htransport
          cases hjob
          exact .sends inner s₁ served x command sessionId rfl hserve hevent
        · cases hjob
      · rename_i transport code reason
        split at hjob
        · split at hjob
          · rename_i htransport
            subst htransport
            cases hjob
            exact .closes _ s₁ served code reason _ rfl hserve hevent (by simp)
          · cases hjob
        · cases hjob
      · cases hjob
    · cases hmem
  · cases hmem

/-- The tasks of `close_all` close transports whose connections it has removed. -/
theorem mem_gather {r : Nat × Job} (hmem : r ∈ gather s action) :
    ∃ s₁ served code reason, action = .service (.connections .closeAll) ∧
      serve s.gateway (.connections .closeAll) = some (s₁, served) ∧
      .transport (.close r.1 code reason) ∈ served ∧ r.2 = .close code reason := by
  unfold gather at hmem
  split at hmem
  · split at hmem
    · rename_i s₁ served hserve
      obtain ⟨event, hevent, hclose⟩ := List.mem_filterMap.mp hmem
      unfold closeOf at hclose
      split at hclose
      · rename_i transport code reason
        cases hclose
        exact ⟨s₁, served, code, reason, rfl, hserve, hevent, rfl⟩
      · cases hclose
    · cases hmem
  · cases hmem

theorem ServiceJob.others {r : Writer × Job} (hjob : ServiceJob s action h r) :
    r.1 ≠ .handler := by
  cases hjob with
  | sends => simp
  | closes _ _ _ _ _ _ _ _ _ hwriter => exact hwriter

theorem Inv.sends (hinv : Inv s) {inner : Service.Operations.Action config}
    {s₁ : Operations.State config} {served : List (Event Digest)}
    (hserve : serve s.gateway inner = some (s₁, served)) {x : Nat} {command : DeviceCommand}
    {sessionId : UUID} (hsend : .transport (.sendCommand x h command sessionId) ∈ served) :
    Late s.gateway h sessionId ∧ ReadySent (s.transports h) := by
  rcases sends_cases hinv.gateway hserve hsend with
    ⟨call, hcall, rfl, rfl⟩ | ⟨d, k, hk, honline, rfl, rfl⟩
  · exact ⟨hinv.bound.admitted x call hcall, hinv.admitted x call hcall⟩
  · exact ⟨hinv.bound.online d k hk honline, hinv.online d k hk honline⟩

theorem ServiceJob.fits (hinv : Inv s) {r : Writer × Job} (hjob : ServiceJob s action h r)
    {handler : Handler} (hhandler : s.gateway.handlers h = some handler) :
    Fits handler.sessionId (s.transports h) r.2 := by
  cases hjob with
  | sends inner s₁ served x command sessionId _ hserve hsend =>
      obtain ⟨⟨handler', hhandler', hsession, -⟩, hready⟩ := hinv.sends hserve hsend
      obtain rfl := Option.some.inj (hhandler.symm.trans hhandler')
      exact ⟨hsession, .inr ⟨.inr hready.frames, fun _ => hready⟩⟩
  | closes => trivial

/-- The service gives a transport no job while its handler is early and its connection is
in the manager. -/
theorem serviceRequests_eq_nil (hinv : Inv s)
    (hstep : Operations.step s.gateway action = some (g, events))
    (hlate : ∀ sessionId, ¬ Late s.gateway h sessionId) (hattached : ¬ Detached g.service h) :
    serviceRequests s action h = [] := by
  apply List.eq_nil_iff_forall_not_mem.mpr
  intro r hmem
  cases serviceJob_of_mem hmem with
  | sends inner s₁ served x command sessionId _ hserve hsend =>
      exact hlate sessionId (hinv.sends hserve hsend).1
  | closes inner s₁ served code reason _ haction hserve hclose =>
      subst haction
      exact hattached (detached_of_close hinv.gateway hserve hstep hclose)

end Requests

section Advances

variable {settings : Settings} {s s' : State config} {action : Operations.Action config}
  {g : Operations.State config} {events : List (Event Digest)} {h : Nat} {handler : Handler}

omit [DecidableEq Digest] in
theorem turn_received {x : Nat} {received : Received} {clock : Datetime} {resolved : Bool}
    {reaction : Reaction} (hturn : Turn handler (.received x received clock resolved) reaction) :
    handler.stage = .receivingHello ∨ handler.stage = .receiving := by
  cases hturn with
  | timedOut _ _ _ hstage => exact .inl hstage
  | greets _ _ _ _ _ _ _ hstage => exact .inl hstage
  | demandsHello _ _ _ _ _ hstage => exact .inl hstage
  | pongs _ _ _ _ _ _ _ hstage => exact .inr hstage
  | updates _ _ _ _ _ _ _ hstage => exact .inr hstage
  | passesOn _ _ _ _ _ _ _ _ _ _ _ hstage => exact .inr hstage
  | raises _ _ _ hraises =>
      cases hraises with
      | receiving _ _ _ _ hstage => exact hstage
      | refused _ _ _ _ _ _ hstage => exact hstage.imp_left And.left
      | misplaced _ _ _ _ _ _ _ hstage => exact .inr hstage
  | departs _ hdeparts =>
      cases hdeparts with
      | frame _ _ _ hstage => exact hstage

omit [DecidableEq Digest] in
theorem free_of_cause {stimulus : Stimulus} {reaction : Reaction}
    (hown : OwnTasks (Matches handler.stage) (s.transports h)) (htold : Told s action)
    (hhandler : s.gateway.handlers h = some handler) (hturn : Turn handler stimulus reaction)
    (hcause : Cause g h handler action stimulus) :
    Free (s.transports h) ∧ Reported handler (s.transports h) stimulus := by
  have idle (hstage : ∀ job, ¬ Matches handler.stage job) : Free (s.transports h) := hown.free hstage
  cases hcause with
  | answered inner x request outcome _ hawaits =>
      refine ⟨idle fun job hmatches => ?_, trivial⟩
      cases hstage : handler.stage with
      | connecting | activating =>
          rw [hstage] at hmatches
          exact hmatches
      | _ =>
          rw [hstage] at hawaits
          cases hawaits
  | sent failure => exact htold handler hhandler
  | received x received clock now resolved =>
      refine ⟨idle fun job hmatches => ?_, trivial⟩
      rcases turn_received hturn with hstage | hstage
      · rw [hstage] at hmatches
        exact hmatches
      · rw [hstage] at hmatches
        exact hmatches
  | closed failure => exact ⟨htold, trivial⟩
  | joined =>
      refine ⟨idle fun job hmatches => ?_, trivial⟩
      cases hturn with
      | departs _ hdeparts =>
          cases hdeparts with
          | joined _ hstage =>
              rw [hstage] at hmatches
              exact hmatches
      | raises _ _ _ hraises => cases hraises

theorem Written.no_heartbeat {t : Transport} (h : Written handler t) (hearly : Early handler.stage) :
    handler.heartbeat = none := by
  by_contra hheartbeat
  exact (h.beating hheartbeat).2 hearly

theorem Inv.serviceRequests_idle (hinv : Inv s)
    (hstep : Operations.step s.gateway action = some (g, events))
    (hnone : s.gateway.handlers h = none) : serviceRequests s action h = [] := by
  apply List.eq_nil_iff_forall_not_mem.mpr
  intro r hmem
  cases serviceJob_of_mem hmem with
  | sends inner s₁ served x command sessionId _ hserve hsend =>
      obtain ⟨⟨handler, hhandler, -⟩, -⟩ := hinv.sends hserve hsend
      cases hnone.symm.trans hhandler
  | closes inner s₁ served code reason _ haction hserve hclose =>
      subst haction
      obtain ⟨log, hreached⟩ := hinv.gateway.sessions.reached
      obtain ⟨d, k, hk, rfl, -⟩ := Service.CallSteps.step_closes hreached (serve_step hserve)
        (mem_transportCalls hclose)
      obtain ⟨x, stage, hx, -⟩ := settled_of_connection hinv.gateway hk
      obtain ⟨handler, hhandler, -⟩ := hinv.gateway.calls x d _ stage hx
      cases hnone.symm.trans hhandler

omit [DecidableEq Digest] in
theorem handlerRequests_idle (hnone : s.gateway.handlers h = none) :
    handlerRequests settings s action g events h = [] := by
  simp only [handlerRequests, hnone]

omit [DecidableEq Digest] in
theorem handlerRequests_eq {after : Handler} (hbefore : s.gateway.handlers h = some handler)
    (hafter : g.handlers h = some after) : handlerRequests settings s action g events h =
      ((handlerJob settings g action events h handler after).map fun job => (.handler, job)).toList ++
        ((heartbeatJob events h handler after).map fun job => (.heartbeat, job)).toList := by
  simp only [handlerRequests, hbefore, hafter]

omit [DecidableEq Digest] in
theorem handlerRequests_rest (hsame : g.handlers h = s.gateway.handlers h) :
    handlerRequests settings s action g events h = [] := by
  cases hhandler : s.gateway.handlers h with
  | none => exact handlerRequests_idle hhandler
  | some handler =>
      rw [handlerRequests_eq hhandler (hsame.trans hhandler), heartbeatJob_eq_none (.inl rfl)]
      simp [handlerJob]

theorem Inv.requests_fit (hinv : Inv s) (hhandler : s.gateway.handlers h = some handler)
    {after : Handler} (hafter : g.handlers h = some after)
    (hsession : handler.sessionId = none ∨ after.sessionId = handler.sessionId)
    (hwritten : Written after (s.transports h)) :
    ∀ r ∈ serviceRequests s action h ++ handlerRequests settings s action g events h,
      Fits after.sessionId (s.transports h) r.2 := by
  intro r hmem
  rcases List.mem_append.mp hmem with hservice | hown
  · have hfits := (serviceJob_of_mem hservice).fits hinv hhandler
    rcases hsession with hnone | hsame
    · rw [hnone] at hfits
      cases hjob : r.2 with
      | close => trivial
      | send message =>
          rw [hjob] at hfits
          cases hfits.1
    · rw [hsame]
      exact hfits
  · rw [handlerRequests_eq hhandler hafter] at hown
    rcases List.mem_append.mp hown with hhandlerJob | hheartbeatJob
    · obtain ⟨job, hjob, rfl⟩ := Option.map_eq_some_iff.mp (Option.mem_toList.mp hhandlerJob)
      exact (handlerJob_fits hwritten hjob).1
    · obtain ⟨job, hjob, rfl⟩ := Option.map_eq_some_iff.mp (Option.mem_toList.mp hheartbeatJob)
      exact heartbeatJob_fits hwritten hjob

omit [DecidableEq Digest] in
theorem requestAll_append (encodes : DeviceCommand → Bool) (t : Transport)
    (jobs jobs' : List (Writer × Job)) :
    requestAll encodes t (jobs ++ jobs') = requestAll encodes (requestAll encodes t jobs) jobs' :=
  List.foldl_append

theorem Inv.own_after (hinv : Inv s) (hhandler : s.gateway.handlers h = some handler)
    {after : Handler} (hafter : g.handlers h = some after)
    (hwritten : Written after (s.transports h))
    (hfree : after.stage = handler.stage ∨ Free (s.transports h)) :
    OwnTasks (Matches after.stage) (requestAll settings.encodes (s.transports h)
      (serviceRequests s action h ++ handlerRequests settings s action g events h)) := by
  have hservice : ∀ r ∈ serviceRequests s action h, r.1 ≠ .handler := fun r hmem =>
    (serviceJob_of_mem hmem).others
  have hheartbeat : ∀ r ∈ ((heartbeatJob events h handler after).map fun job =>
      ((.heartbeat, job) : Writer × Job)).toList, r.1 ≠ .handler := by
    intro r hmem
    obtain ⟨job, -, rfl⟩ := Option.map_eq_some_iff.mp (Option.mem_toList.mp hmem)
    simp
  rw [handlerRequests_eq hhandler hafter, requestAll_append, requestAll_append]
  refine requestAll_own ?_ hheartbeat
  cases hjob : handlerJob settings g action events h handler after with
  | none =>
      show OwnTasks (Matches after.stage)
        (requestAll settings.encodes (s.transports h) (serviceRequests s action h))
      rcases hfree with hsame | hfree
      · rw [hsame]
        exact requestAll_own (hinv.connection h handler hhandler).own hservice
      · exact requestAll_own (hfree.ownTasks _) hservice
  | some job =>
      have hmatches := (handlerJob_fits hwritten hjob).2
      have hne : after.stage ≠ handler.stage := by
        intro hsame
        simp [handlerJob, hsame] at hjob
      have hnobody : OwnTasks (fun _ => False)
          (requestAll settings.encodes (s.transports h) (serviceRequests s action h)) :=
        requestAll_own ((hfree.resolve_left hne).ownTasks _) hservice
      exact (hnobody.free fun _ => id).request hmatches

theorem Inv.untouched_after (hinv : Inv s)
    (hstep : Operations.step s.gateway action = some (g, events))
    (hhandler : s.gateway.handlers h = some handler) {after : Handler}
    (hafter : g.handlers h = some after) (hwritten : Written after (s.transports h))
    (hearly : Early handler.stage) (hstill : Early after.stage) :
    Untouched (requestAll settings.encodes (s.transports h)
      (serviceRequests s action h ++ handlerRequests settings s action g events h)) ∨
      Detached g.service h := by
  by_cases hdetached : Detached g.service h
  · exact .inr hdetached
  left
  have hnolate (sessionId : UUID) : ¬ Late s.gateway h sessionId := by
    rintro ⟨handler', hhandler', -, hlate⟩
    obtain rfl := Option.some.inj (hhandler.symm.trans hhandler')
    exact hlate hearly
  have huntouched : Untouched (s.transports h) := by
    rcases (hinv.connection h handler hhandler).untouched hearly with huntouched | hbefore
    · exact huntouched
    · exact absurd (hbefore.step hinv.gateway hstep) hdetached
  have hbefore := (hinv.connection h handler hhandler).written.no_heartbeat hearly
  have hnobeat : after.heartbeat = handler.heartbeat :=
    (hwritten.no_heartbeat hstill).trans hbefore.symm
  rw [serviceRequests_eq_nil hinv hstep hnolate hdetached, handlerRequests_eq hhandler hafter,
    heartbeatJob_eq_none (.inl hnobeat)]
  cases hjob : handlerJob settings g action events h handler after with
  | none => exact huntouched
  | some job =>
      have hmatches := (handlerJob_fits hwritten hjob).2
      cases job with
      | send message => exact huntouched.request message
      | close code reason =>
          -- An early handler does not close its transport.
          exfalso
          cases hstage : after.stage with
          | closing => simp [hstage, Early] at hstill
          | _ =>
              rw [hstage] at hmatches
              exact hmatches

theorem Inv.connection_after (hinv : Inv s)
    (hstep : Operations.step s.gateway action = some (g, events))
    (hhandler : s.gateway.handlers h = some handler) {after : Handler}
    (hafter : g.handlers h = some after)
    (hsession : handler.sessionId = none ∨ after.sessionId = handler.sessionId)
    (hwritten : Written after (s.transports h))
    (hfree : after.stage = handler.stage ∨ Free (s.transports h))
    (hearly : Early after.stage → Early handler.stage) :
    Connection g.service h after (requestAll settings.encodes (s.transports h)
      (serviceRequests s action h ++ handlerRequests settings s action g events h)) where
  ok := requestAll_ok (hinv.connection h handler hhandler).ok
  written := requestAll_written hwritten (hinv.requests_fit hhandler hafter hsession hwritten)
  own := hinv.own_after hhandler hafter hwritten hfree
  untouched hstill :=
    hinv.untouched_after hstep hhandler hafter hwritten (hearly hstill) hstill

omit [DecidableEq Digest] in
theorem connection_fresh (service : Service.Operations.State config) (h : Nat) (deviceId : UUID)
    (x : Nat) : Connection service h (.accepted deviceId x) .fresh where
  ok := ok_fresh
  written :=
    { proper := proper_fresh
      progressed := trivial
      beating := fun hheartbeat => absurd rfl hheartbeat }
  own j task htask := by cases htask
  untouched _ := .inl ⟨rfl, fun j task htask => by cases htask⟩

theorem Inv.advance_connection (hinv : Inv s) (htold : Told s action)
    (hstep : Operations.step s.gateway action = some (g, events)) {after : Handler}
    (hafter : g.handlers h = some after) :
    Connection g.service h after (requestAll settings.encodes (s.transports h)
      (serviceRequests s action h ++ handlerRequests settings s action g events h)) := by
  cases step_local hstep h with
  | rests hsame =>
      have hhandler : s.gateway.handlers h = some after := hsame.symm.trans hafter
      exact hinv.connection_after hstep hhandler hafter (.inr rfl)
        (hinv.connection h after hhandler).written (.inl rfl) id
  | accepted x deviceId _ hnone haccepted =>
      obtain rfl := Option.some.inj (hafter.symm.trans haccepted)
      rw [hinv.serviceRequests_idle hstep hnone, handlerRequests_idle hnone, hinv.idle h hnone]
      exact connection_fresh g.service h deviceId x
  | turns handler stimulus reaction served hhandler hturn hcause hsettled =>
      obtain rfl := Option.some.inj (hafter.symm.trans hsettled)
      have hconnection := hinv.connection h handler hhandler
      obtain ⟨hfree, hreported⟩ := free_of_cause hconnection.own htold hhandler hturn hcause
      have hconnecting : ∀ x, handler.stage = .connecting x → handler.sessionId = none :=
        fun x hstage => (hinv.gateway.connecting h handler x hhandler hstage).1
      have hadvances := Turn.advances hturn
      refine hinv.connection_after hstep hhandler hafter ?_
        (turn_written hconnection.written hreported hconnecting hturn) (.inr hfree) ?_
      · by_cases hstage : ∃ x, handler.stage = .connecting x
        · obtain ⟨x, hstage⟩ := hstage
          exact .inl (hconnecting x hstage)
        · exact .inr (hadvances.sessionId (not_exists.mp hstage))
      · intro hstill
        by_contra hlate
        exact hadvances.late hlate hstill
  | beats handler handler' input _ hhandler hbeat hbeaten =>
      obtain rfl := Option.some.inj (hafter.symm.trans hbeaten)
      obtain ⟨-, hsession, hstage, hstarted⟩ := beat_goes hbeat
      have hwritten := (hinv.connection h handler hhandler).written
      refine hinv.connection_after hstep hhandler hafter (.inr hsession) ?_ (.inl hstage) ?_
      · exact
          { proper := hsession ▸ hwritten.proper
            progressed := hstage ▸ hwritten.progressed
            beating := fun _ => hstage ▸ hwritten.beating hstarted }
      · rw [hstage]
        exact id

theorem Inv.ready_written (hinv : Inv s)
    (hstep : Operations.step s.gateway action = some (g, events))
    (hhandler : s.gateway.handlers h = some handler) {x : Nat} {sessionId : UUID}
    (hstage : handler.stage = .activating x true) (hsession : handler.sessionId = some sessionId)
    (hafter : g.handlers h = some { handler with stage := .sendingReady })
    (hattached : ¬ Detached g.service h) :
    ReadySent (requestAll settings.encodes (s.transports h)
      (serviceRequests s action h ++ handlerRequests settings s action g events h)) := by
  have hconnection := hinv.connection h handler hhandler
  have hearly : Early handler.stage := by
    rw [hstage]
    trivial
  have hnolate (sessionId : UUID) : ¬ Late s.gateway h sessionId := by
    rintro ⟨handler', hhandler', -, hlate⟩
    obtain rfl := Option.some.inj (hhandler.symm.trans hhandler')
    exact hlate hearly
  have huntouched : Untouched (s.transports h) := by
    rcases hconnection.untouched hearly with huntouched | hbefore
    · exact huntouched
    · exact absurd (hbefore.step hinv.gateway hstep) hattached
  have hfree : Free (s.transports h) := by
    refine hconnection.own.free fun job hmatches => ?_
    rw [hstage] at hmatches
    exact hmatches
  have hjob : handlerJob settings g action events h handler { handler with stage := .sendingReady } =
      some (.send ⟨sessionId,
        .serverReady handler.deviceId (effectiveOf g handler.stage)⟩) := by
    simp [handlerJob, sentPayload, hstage, hsession]
  have hquiet : heartbeatJob events h handler { handler with stage := .sendingReady } = none :=
    heartbeatJob_eq_none (.inl rfl)
  rw [serviceRequests_eq_nil hinv hstep hnolate hattached, handlerRequests_eq hhandler hafter, hjob,
    hquiet]
  let ready : ServerMessage :=
    ⟨sessionId, .serverReady handler.deviceId (effectiveOf g handler.stage)⟩
  have hwrites : ((s.transports h).request settings.encodes .handler (.send ready)).frames =
      (s.transports h).frames ++ [ready] := huntouched.writes hfree hconnection.ok rfl
  refine ⟨ready, ?_, trivial⟩
  exact hwrites ▸ List.mem_append_right _ (List.mem_singleton_self _)

theorem Inv.advance (hinv : Inv s) (htold : Told s action)
    (hadvance : advance settings s action = some s') : Inv s' := by
  obtain ⟨g, events, hstep, rfl, htransports, hgathered⟩ := advance_eq_some hadvance
  have hgrows (h : Nat) : Grows (s.transports h) (s'.transports h) := by
    rw [htransports]
    exact requestAll_grows _ _ _
  have hgateway := hinv.gateway.step hstep
  refine ⟨hgateway, hinv.bound.step hinv.gateway hstep, ?_, ?_, ?_, ?_, ?_⟩
  · intro h hnone
    have hbefore : s.gateway.handlers h = none := by
      cases step_local hstep h with
      | rests hsame => exact hsame.symm.trans hnone
      | accepted _ _ _ hfree => exact hfree
      | turns _ _ _ _ _ _ _ hafter => cases hnone.symm.trans hafter
      | beats _ _ _ _ _ _ hafter => cases hnone.symm.trans hafter
    rw [htransports, hinv.serviceRequests_idle hstep hbefore, handlerRequests_idle hbefore,
      hinv.idle h hbefore]
    rfl
  · intro h after hafter
    rw [htransports]
    exact hinv.advance_connection htold hstep hafter
  · intro d k hk honline
    obtain ⟨k₀, hk₀, hsame, hbefore | ⟨handler, x, first, hhandler, hstage, hsession, hafter⟩⟩ :=
      hinv.bound.online_cases hinv.gateway hstep hk honline
    · rw [hsame.transport]
      exact (hinv.online d k₀ hk₀ hbefore).grows (hgrows _)
    · cases first with
      | true =>
          rw [htransports]
          exact hinv.ready_written hstep hhandler hstage hsession hafter fun hdetached =>
            hdetached.2 d k hk rfl
      | false =>
          have hprogressed := (hinv.connection _ handler hhandler).written.progressed
          rw [hstage] at hprogressed
          exact ReadySent.grows hprogressed (hgrows _)
  · intro x call hcall
    rcases admitted_cases hinv.gateway hstep hcall with
      ⟨call₀, hcall₀, hsame⟩ | ⟨d, k, hk, honline, htransport, -⟩
    · rw [hsame]
      exact (hinv.admitted x call₀ hcall₀).grows (hgrows _)
    · rw [htransport]
      exact (hinv.online d k hk honline).grows (hgrows _)
  · intro r hmem
    rw [hgathered] at hmem
    rcases List.mem_append.mp hmem with hold | hnew
    · exact (hinv.gathered r hold).imp_left fun hdetached => hdetached.step hinv.gateway hstep
    · obtain ⟨s₁, served, code, reason, haction, hserve, hclose, hjob⟩ := mem_gather hnew
      subst haction
      exact ⟨detached_of_close hinv.gateway hserve hstep hclose, code, reason, hjob⟩

end Advances

section Steps

variable {settings : Settings} {s s' : State config} {action : Action config} {h j : Nat}
  {handler : Handler} {t t' : Transport} {task : Task} {service : Service.Operations.State config}

omit [DecidableEq Digest] in
theorem Connection.evolves (hconnection : Connection service h handler t)
    (htask : t.tasks j = some task) (hevolves : Evolves t j task t') (hok : t'.Ok) :
    Connection service h handler t' where
  ok := hok
  written := by
    have hproper := hconnection.written.proper
    refine hconnection.written.grows ?_ (grows_of_evolves hevolves)
    refine hproper.evolves (hproper.fits j task htask) ?_ hevolves
    rintro writer message rfl
    exact hproper.active j writer message htask
  own := hconnection.own.evolves htask hevolves
  untouched hearly := (hconnection.untouched hearly).imp_left fun huntouched =>
    huntouched.evolves htask hevolves

omit [DecidableEq Digest] in
theorem Connection.clear (hconnection : Connection service h handler t) {writer : Writer}
    {job : Job} {failure : Option Raised} (htask : t.tasks j = some ⟨writer, job, .done failure⟩) :
    Connection service h handler (t.clear j) where
  ok := hconnection.ok.clear htask
  written := hconnection.written.grows (hconnection.written.proper.clear j) ⟨List.prefix_rfl, id⟩
  own := hconnection.own.clear j
  untouched hearly := (hconnection.untouched hearly).imp_left fun huntouched => huntouched.clear j

omit [DecidableEq Digest] in
theorem Connection.refuses (hconnection : Connection service h handler t) (codes : List Nat) :
    Connection service h handler { t with closes := t.closes ++ codes } where
  ok :=
    { owner := hconnection.ok.owner
      waiting := hconnection.ok.waiting
      unused := hconnection.ok.unused
      closed := fun hclosed => List.append_ne_nil_of_left_ne_nil (hconnection.ok.closed hclosed) _ }
  written := by
    refine hconnection.written.grows ?_ ⟨List.prefix_rfl, id⟩
    obtain ⟨hordered, hsession, hfits, hactive, hsent, hfailed⟩ := hconnection.written.proper
    refine ⟨hordered, hsession, ?_, hactive, hsent, hfailed⟩
    intro i task htask
    exact (hfits i task htask).grows ⟨List.prefix_rfl, id⟩
  own := hconnection.own
  untouched := hconnection.untouched

theorem Inv.setTransport (hinv : Inv s) (hhandler : s.gateway.handlers h = some handler)
    (hgrows : Grows (s.transports h) t)
    (hconnection : Connection s.gateway.service h handler t) : Inv (s.setTransport h t) := by
  have hself : (s.setTransport h t).transports h = t := Function.update_self _ _ _
  have hother {h' : Nat} (hne : h' ≠ h) :
      (s.setTransport h t).transports h' = s.transports h' := Function.update_of_ne hne _ _
  have hready {h' : Nat} (hsent : ReadySent (s.transports h')) :
      ReadySent ((s.setTransport h t).transports h') := by
    by_cases hne : h' = h
    · subst hne
      rw [hself]
      exact hsent.grows hgrows
    · rw [hother hne]
      exact hsent
  refine ⟨hinv.gateway, hinv.bound, ?_, ?_, ?_, ?_, hinv.gathered⟩
  · intro h' hnone
    rw [hother]
    · exact hinv.idle h' hnone
    · rintro rfl
      cases hhandler.symm.trans hnone
  · intro h' handler' hhandler'
    by_cases hne : h' = h
    · subst hne
      obtain rfl := Option.some.inj (hhandler.symm.trans hhandler')
      rw [hself]
      exact hconnection
    · rw [hother hne]
      exact hinv.connection h' handler' hhandler'
  · intro d k hk honline
    exact hready (hinv.online d k hk honline)
  · intro x call hcall
    exact hready (hinv.admitted x call hcall)

theorem Inv.handler_of_task (hinv : Inv s) (htask : (s.transports h).tasks j = some task) :
    ∃ handler, s.gateway.handlers h = some handler := by
  cases hhandler : s.gateway.handlers h with
  | some handler => exact ⟨handler, rfl⟩
  | none =>
      rw [hinv.idle h hhandler] at htask
      cases htask

theorem transport_ok (hinv : Inv s) (h : Nat) : (s.transports h).Ok := by
  cases hhandler : s.gateway.handlers h with
  | none =>
      rw [hinv.idle h hhandler]
      exact ok_fresh
  | some handler => exact (hinv.connection h handler hhandler).ok

theorem Inv.evolves (hinv : Inv s) (htask : (s.transports h).tasks j = some task)
    (hevolves : Evolves (s.transports h) j task t) (hok : (s.transports h).Ok → t.Ok) :
    Inv (s.setTransport h t) := by
  obtain ⟨handler, hhandler⟩ := hinv.handler_of_task htask
  have hconnection := hinv.connection h handler hhandler
  exact hinv.setTransport hhandler (grows_of_evolves hevolves)
    (hconnection.evolves htask hevolves (hok hconnection.ok))

theorem Inv.clear (hinv : Inv s) {writer : Writer} {job : Job} {failure : Option Raised}
    (htask : (s.transports h).tasks j = some ⟨writer, job, .done failure⟩) :
    Inv (s.setTransport h ((s.transports h).clear j)) := by
  obtain ⟨handler, hhandler⟩ := hinv.handler_of_task htask
  exact hinv.setTransport hhandler ⟨List.prefix_rfl, id⟩
    ((hinv.connection h handler hhandler).clear htask)

theorem told_of_returned (hinv : Inv s) {writer : Writer} {job : Job} {failure : Option Raised}
    {now : AwareDatetime} {gatewayAction : Operations.Action config}
    (htask : (s.transports h).tasks j = some ⟨writer, job, .done failure⟩)
    (hcontinuation : continuation h writer job failure now = some gatewayAction) :
    Told (s.setTransport h ((s.transports h).clear j)) gatewayAction := by
  have hself : (s.setTransport h ((s.transports h).clear j)).transports h =
      (s.transports h).clear j := Function.update_self _ _ _
  obtain ⟨handler, hhandler⟩ := hinv.handler_of_task htask
  have hconnection := hinv.connection h handler hhandler
  unfold continuation at hcontinuation
  split at hcontinuation
  · rename_i message
    cases hcontinuation
    intro handler' hhandler'
    obtain rfl := Option.some.inj (hhandler.symm.trans hhandler')
    rw [hself]
    refine ⟨hconnection.own.clear_own htask rfl, ?_⟩
    have hmatches := (hconnection.own j _ htask rfl).1
    have hproper := hconnection.written.proper
    cases failure with
    | none =>
        have hmem := hproper.sent j _ message htask
        refine ⟨fun _ => List.ne_nil_of_mem hmem, fun hstage => ⟨message, hmem, ?_⟩⟩
        rw [hstage] at hmatches
        exact hmatches
    | some error =>
        intro hstage
        rw [hstage] at hmatches
        rcases hproper.failed j _ message error htask with hmem | hclosed | hcancelled | hcommand
        · exact .inl (List.ne_nil_of_mem hmem)
        · exact .inr (.inl hclosed)
        · exact .inr (.inr hcancelled)
        · have hhello : IsHello message := hmatches
          unfold IsHello at hhello
          unfold IsCommand at hcommand
          split at hcommand
          · rename_i hpayload
            rw [hpayload] at hhello
            exact hhello.elim
          · exact hcommand.elim
  · cases hcontinuation
    show Free _
    rw [hself]
    exact hconnection.own.clear_own htask rfl
  all_goals
    cases hcontinuation
    try trivial

/-- The gateway goes on in a state in order, and its handlers are told the truth. -/
theorem Inv.passes (hinv : Inv s) {passed : Operations.Action config}
    (hpasses : Passes settings s action passed s')
    (hreceives : ∀ h x received clock now, passed = .received h x received clock now →
      ∃ handler, s.gateway.handlers h = some handler) : Inv s' ∧ Told s' passed := by
  cases hpasses with
  | internal _ hdirect =>
      refine ⟨hinv, ?_⟩
      cases passed with
      | sent | closed => cases hdirect
      | service | accept | received | heartbeat | joined => trivial
  | inbound h x event closing clock now =>
      obtain ⟨handler, hhandler⟩ := hreceives h x _ clock now rfl
      have hrefused := (hinv.connection h handler hhandler).refuses (event.refusal settings).toList
      exact ⟨hinv.setTransport hhandler ⟨List.prefix_rfl, id⟩ hrefused, trivial⟩
  | returned h j now writer job failure gatewayAction htask hcontinuation =>
      exact ⟨hinv.clear htask, told_of_returned hinv htask hcontinuation⟩

theorem Inv.ungather {r : Nat × Job} {gathered : List (Nat × Job)} (hinv : Inv s)
    (heq : s.gathered = r :: gathered) : Inv { s with gathered } :=
  ⟨hinv.gateway, hinv.bound, hinv.idle, hinv.connection, hinv.online, hinv.admitted,
    fun r hmem => hinv.gathered r (heq ▸ List.mem_cons_of_mem _ hmem)⟩

theorem Inv.quiet (hinv : Inv s) (hquiet : Quiet settings s action s') : Inv s' := by
  cases hquiet with
  | evolves _ h j task t _ htask hevolves hok => exact hinv.evolves htask hevolves hok
  | ends h j now writer job failure htask => exact hinv.clear htask
  | begins h job gathered heq =>
      obtain ⟨hdetached, code, reason, hjob⟩ :=
        hinv.gathered (h, job) (heq ▸ List.mem_cons_self)
      obtain rfl : job = .close code reason := hjob
      have hrest : Inv { s with gathered } := hinv.ungather heq
      obtain ⟨⟨x, d, stage, hx, -⟩, -⟩ := hdetached
      obtain ⟨handler, hhandler, -⟩ := hinv.gateway.calls x d h stage hx
      have hconnection := hinv.connection h handler hhandler
      have hevolves : Evolves (s.transports h) _ _
          ((s.transports h).request settings.encodes .shutdown (.close code reason)) :=
        request_evolves .shutdown (.close code reason)
      have hfits : Fits handler.sessionId (s.transports h) (.close code reason) := trivial
      refine hrest.setTransport hhandler (grows_of_evolves hevolves) ?_
      exact
        { ok := hconnection.ok.request .shutdown (.close code reason)
          written := hconnection.written.grows
            (hconnection.written.proper.evolves hfits (by simp) hevolves)
            (grows_of_evolves hevolves)
          own := hconnection.own.request (by simp) (.close code reason)
          untouched := fun _ => .inr (hinv.gathered (h, .close code reason)
            (heq ▸ List.mem_cons_self)).1 }
  | cancelsNext r gathered heq => exact hinv.ungather heq

theorem passes_receives {passed : Operations.Action config}
    (hpasses : Passes settings s action passed s') {s'' : State config}
    (hadvance : advance settings s' passed = some s'') :
    ∀ h x received clock now, passed = .received h x received clock now →
      ∃ handler, s.gateway.handlers h = some handler := by
  rintro h x received clock now rfl
  obtain ⟨g, events, hgateway, -⟩ := advance_eq_some hadvance
  rw [hpasses.gateway] at hgateway
  obtain ⟨handler, hhandler, -⟩ := Effects.onHandler_eq_some hgateway
  exact ⟨handler, hhandler⟩

theorem Inv.step (hinv : Inv s) (hstep : step settings s action = some s') : Inv s' := by
  rcases step_cases hstep with ⟨passed, s₁, hpasses, hadvance⟩ | hquiet
  · obtain ⟨hbefore, htold⟩ := hinv.passes hpasses (passes_receives hpasses hadvance)
    exact hbefore.advance htold hadvance
  · exact hinv.quiet hquiet

end Steps

section Runs

variable {settings : Settings} {history later : List (Step config)} {s t : State config}

theorem inv_initial : Inv (State.initial config) where
  gateway := Gateway.Invariant.inv_initial
  bound := bound_initial
  idle h _ := rfl
  connection h handler hhandler := by cases hhandler
  online d k hk := by cases hk
  admitted x call hcall := by cases hcall
  gathered r hmem := by cases hmem

theorem inv_of_run (hrun : Run (wire config settings) (.initial config) history s) : Inv s :=
  hrun.invariant Inv inv_initial fun _ _ _ _ hinv hstep => hinv.step (wire_step hstep)

/-- The frames of a connection begin with `server.hello`; before any command, ping,
acknowledgement or rejection there is a `server.ready`; all carry the session of the
connection; and a closed transport writes nothing more. -/
theorem frames_in_order (hrun : Run (wire config settings) (.initial config) history s) (h : Nat) :
    (∀ message rest, (s.transports h).frames = message :: rest → IsHello message) ∧
    (∀ earlier message later, (s.transports h).frames = earlier ++ message :: later →
      IsLate message → ∃ ready ∈ earlier, IsReady ready) ∧
    (∀ message ∈ (s.transports h).frames, ∃ handler, s.gateway.handlers h = some handler ∧
      handler.sessionId = some message.sessionId) ∧
    ((s.transports h).closed = true → ∀ later t, Run (wire config settings) s later t →
      (t.transports h).closed = true ∧ (t.transports h).frames = (s.transports h).frames) := by
  have hinv := inv_of_run hrun
  have hclosed : (s.transports h).closed = true → ∀ later t, Run (wire config settings) s later t →
      (t.transports h).closed = true ∧ (t.transports h).frames = (s.transports h).frames := by
    intro hclosed later t hlater
    have hstays := run_stays hlater h
    exact ⟨hstays.closed hclosed, hstays.frames hclosed⟩
  cases hhandler : s.gateway.handlers h with
  | none =>
      -- Nobody has begun to use a transport without a handler.
      have hframes : (s.transports h).frames = [] := by
        rw [hinv.idle h hhandler]
        rfl
      refine ⟨?_, ?_, ?_, hclosed⟩
      · intro message rest heq
        rw [hframes] at heq
        cases heq
      · intro earlier message later heq
        rw [hframes] at heq
        exact absurd heq.symm (List.append_ne_nil_of_right_ne_nil _ (List.cons_ne_nil _ _))
      · intro message hmem
        rw [hframes] at hmem
        cases hmem
  | some handler =>
      have hproper := (hinv.connection h handler hhandler).written.proper
      refine ⟨hproper.ordered.first, hproper.ordered.ready, ?_, hclosed⟩
      intro message hmem
      exact ⟨handler, rfl, hproper.session message hmem⟩

end Runs

section Samples

open JarvisCore.Service.GrantContainment (sampleService sampleDevice samplePaired sampleToken)
open JarvisCore.Gateway.Cleanup (sampleUuid sampleProceed samplePerform)
open JarvisCore.Protocol.Messages (ClientMessageType)
open JarvisCore.Protocol.RoundTrip (sampleRuntime)

/-- The text of a message whose payload has these members. -/
def sampleText (type : ClientMessageType) (messageId sessionId : UUID) (payload : String) : String :=
  "\x7b\"v\": 1, \"type\": \"" ++ type.value ++ "\", \"message_id\": \"" ++ messageId.text ++
    "\", \"session_id\": \"" ++ sessionId.text ++ "\", \"payload\": \x7b" ++ payload ++ "\x7d\x7d"

def sampleHello (sessionId : UUID) : String :=
  sampleText .deviceHello (sampleUuid 50) sessionId
    ("\"agent\": \"jarvis-agent\", \"version\": \"0.1.0\", \"platform\": \"macos\", " ++
      "\"capabilities\": [\"system\"]")

def samplePong (sessionId : UUID) : String :=
  sampleText .heartbeatPong (sampleUuid 51) sessionId
    ("\"nonce\": \"" ++ (sampleUuid 70).text ++ "\"")

def sampleObject (type : ClientMessageType) (messageId sessionId : UUID)
    (payload : List (String × JsonValue)) : JsonValue :=
  .object [("v", .int 1), ("type", .string type.value), ("message_id", .string messageId.text),
    ("session_id", .string sessionId.text), ("payload", .object payload)]

/-- The texts of the two messages, each with its value. -/
def sampleMessages (sessionId : UUID) : List (String × JsonValue) :=
  [(sampleHello sessionId, sampleObject .deviceHello (sampleUuid 50) sessionId
      [("agent", .string "jarvis-agent"), ("version", .string "0.1.0"),
        ("platform", .string "macos"), ("capabilities", .array [.string "system"])]),
    (samplePong sessionId, sampleObject .heartbeatPong (sampleUuid 51) sessionId
      [("nonce", .string (sampleUuid 70).text)])]

/-- `json.loads`, for the device and for a peer that has a session of another connection. -/
def sampleLoads (raw : String) : Option JsonValue :=
  (sampleMessages (sampleUuid 102) ++ sampleMessages (sampleUuid 999)).lookup raw

def sampleSettings : Settings where
  heartbeatIntervalSeconds := 20
  maxMessageBytes := 65536
  decode := decode sampleRuntime sampleLoads
  encodes _ := true

def sampleInbound (call : Nat) (event : Inbound) : Action sampleService :=
  .inbound 0 call event none ⟨2, some 0⟩ ⟨2, 0⟩

def sampleReturns (job : Nat) : List (Action sampleService) :=
  [.complete 0 job none, .returned 0 job ⟨2, 0⟩]

/-- The paired device opens socket `0` and gets `server.hello`. -/
def sampleGreeted : List (Action sampleService) :=
  let opening : List (Operations.Action sampleService) :=
    samplePaired.map .service ++
      [.service (.start 0 (.authenticate sampleToken)),
        samplePerform 0, sampleProceed 0 100,
        samplePerform 0, sampleProceed 0 101,
        .accept 0 1, samplePerform 1, sampleProceed 1 102]
  opening.map .internal ++ sampleReturns 0

/-- A command is asked for while `server.ready` is being written. -/
def sampleQueued : List (Action sampleService) :=
  let calls : List (Operations.Action sampleService) :=
    [samplePerform 2, sampleProceed 2 103,
      .service (.start 3 (.executeCommand sampleDevice .system "get_info" [])),
      samplePerform 3, sampleProceed 3 104]
  sampleGreeted ++ [sampleInbound 2 (.text (sampleHello (sampleUuid 102)))] ++
    calls.map .internal ++ [.complete 0 1 none, .resume 0 2]

def queuedCommand (s : State sampleService) : Bool :=
  match (s.transports 0).frames.map ServerMessage.payload with
  | [.serverHello _ _ _, .serverReady _ _, .commandExecute _] => true
  | _ => false

theorem frames_in_order_queued :
    ∃ history s, Run (wire sampleService sampleSettings) (.initial sampleService) history s ∧
      queuedCommand s = true ∧
      ∀ earlier message later, (s.transports 0).frames = earlier ++ message :: later →
        IsLate message → ∃ ready ∈ earlier, IsReady ready := by
  obtain ⟨history, s, hrun, hqueued⟩ := exists_run_of_replay
    (S := wire sampleService sampleSettings) (s := .initial sampleService) sampleQueued
    (fun _ s => queuedCommand s) (by decide +kernel)
  exact ⟨history, s, hrun, hqueued, (frames_in_order hrun 0).2.1⟩

end Samples

end JarvisCore.Gateway.FrameOrder
