import JarvisCore.Gateway.CloseCodes
import JarvisCore.Gateway.Conformance

namespace JarvisCore.Gateway.ReferenceRuns

open JarvisCore.Domain.Values
open JarvisCore.Domain.Errors
open JarvisCore.Domain.Models
open JarvisCore.Foundation.TransitionSystem
open JarvisCore.Manager.Operations (disconnect resolve)
open JarvisCore.Security.DeviceTables (sortedValues)
open JarvisCore.Service.Operations (Config Event Value)
open JarvisCore.Gateway.Handlers
open JarvisCore.Gateway.Effects (beat_goes)
open JarvisCore.Gateway.Turns
open JarvisCore.Gateway.Sessions
open JarvisCore.Gateway.ReplayWindow
open JarvisCore.Gateway.ReferenceMachine
open JarvisCore.Gateway.Transports
open JarvisCore.Gateway.Transports.Transport (Evolves request_evolves)
open JarvisCore.Gateway.Frames
open JarvisCore.Gateway.Outputs
open JarvisCore.Gateway.Wire
open JarvisCore.Gateway.WireSteps
open JarvisCore.Gateway.FrameOrder
open JarvisCore.Gateway.CloseCodes (Nameless turn_nameless passes_returned)
open JarvisCore.Gateway.Conformance

variable {Digest : Type} {config : Config Digest}

def answerOf : Except Raised Value → Except Raised (List String)
  | .ok (.capabilities effective) => .ok (sortedValues effective)
  | .ok _ => .ok []
  | .error error => .error error

/-- The answer of the service that a handler goes on with. -/
def answerTo (g : Operations.State config) (before after : Handler) : Option Input :=
  match before.stage with
  | .activating x _ =>
      if after.stage = before.stage then none
      else
        match g.service.calls x with
        | some ⟨_, .finished outcome⟩ => some (.answered (answerOf outcome))
        | _ => none
  | _ => none

def pingOf (before after : Handler) : Option Input :=
  match before.heartbeat, after.heartbeat with
  | some .sleeping, some .pinging => after.heartbeatNonce.map .pinged
  | _, _ => none

/-- What a step of the process gives to the machine of connection `h`. -/
def inputOf [DecidableEq Digest] (h : Nat) (u : Step config) : Option Input :=
  match u.source.gateway.handlers h, u.target.gateway.handlers h with
  | some before, some after =>
      match u.action with
      | .inbound h' _ event _ clock _ =>
          if h' = h then
            before.sessionId.map fun sessionId => .frame event clock fun result =>
              (resolve u.source.gateway.service.manager before.deviceId sessionId result).2
          else none
      | _ => (answerTo u.target.gateway before after).or (pingOf before after)
  | _, _ => none

def inputs [DecidableEq Digest] (h : Nat) (history : List (Step config)) : List Input :=
  (history.filterMap (inputOf h)).reverse

/-- The socket fails, or somebody else ends the connection. -/
inductive Disturbed (settings : Settings) (h : Nat) (u : Step config) : Prop
  /-- The first message stays out too long, `websocket.receive` raises, or the handler is
  cancelled there. -/
  | received (x : Nat) (received : Received) (clock : Datetime) (now : AwareDatetime) :
      u.action = .internal (.received h x received clock now) → Disturbed settings h u
  /-- The socket cannot be closed because of a frame. -/
  | unclosed (x : Nat) (event : Inbound) (error : Raised) (clock : Datetime)
      (now : AwareDatetime) : u.action = .inbound h x event (some error) clock now →
      event.refusal settings ≠ none → Disturbed settings h u
  /-- A message or a close of the handler raises. -/
  | failed (j : Nat) (now : AwareDatetime) (job : Job) (error : Raised) :
      u.action = .returned h j now →
      (u.source.transports h).tasks j = some ⟨.handler, job, .done (some error)⟩ →
      Disturbed settings h u
  /-- Another task closes the socket. -/
  | closed (j : Nat) (writer : Writer) (code : Nat) (reason : String) (progress : Progress) :
      (u.target.transports h).tasks j = some ⟨writer, .close code reason, progress⟩ →
      writer ≠ .handler → Disturbed settings h u

/-- The handler closes its transport, or has left the `try` statement. -/
def Quitting : Handlers.Stage → Prop
  | .closing _ | .awaitingHeartbeat | .finished => True
  | _ => False

/-- A transport after a step of other tasks. -/
structure Spares (t t' : Transport) : Prop where
  shared : Shared t → Shared t'
  asked : ∀ frames closes, Asked t frames closes → Asked t' frames closes
  written : written t' = written t
  closes : t'.closes = t.closes
  closed : t'.closed = t.closed
  free : Free t → Free t'
  ok : t.Ok → t'.Ok

section Transports

variable {encodes : DeviceCommand → Bool} {t t' t'' : Transport} {j : Nat}

theorem Spares.refl (t : Transport) : Spares t t :=
  ⟨id, fun _ _ => id, rfl, rfl, rfl, id, id⟩

theorem Spares.trans (h : Spares t t') (h' : Spares t' t'') : Spares t t'' where
  shared hshared := h'.shared (h.shared hshared)
  asked frames closes hasked := h'.asked frames closes (h.asked frames closes hasked)
  written := h'.written.trans h.written
  closes := h'.closes.trans h.closes
  closed := h'.closed.trans h.closed
  free hfree := h'.free (h.free hfree)
  ok hok := h'.ok (h.ok hok)

theorem spares_of_evolves {writer : Writer} {message : ServerMessage} {progress : Progress}
    (hwriter : writer ≠ .handler) (hother : Own message.payload = false)
    (hold : ∀ job progress, t.tasks j ≠ some ⟨.handler, job, progress⟩)
    (hevolves : Evolves t j ⟨writer, .send message, progress⟩ t') (hok : t.Ok → t'.Ok) :
    Spares t t' := by
  obtain ⟨progress', htasks⟩ := evolves_tasks hevolves
  have hsame : written t' = written t ∧ t'.closes = t.closes ∧ t'.closed = t.closed := by
    cases hevolves with
    | settles _ _ _ hframes hcloses hclosed => exact ⟨written_same hframes, hcloses, hclosed⟩
    | sends message' hjob _ _ hframes hcloses hclosed =>
        cases hjob
        exact ⟨written_other hframes hother, hcloses, hclosed⟩
    | closes _ _ hjob => cases hjob
  have hfair : Fair ⟨writer, .send message, progress⟩ := by
    cases writer with
    | handler => exact absurd rfl hwriter
    | heartbeat | command | closing | shutdown => exact hother
  refine ⟨fun hshared => hshared.evolves hfair hevolves, ?_, hsame.1, hsame.2.1, hsame.2.2, ?_, hok⟩
  · intro frames closes hasked
    exact hasked.others hwriter hother hold hevolves
  · intro hfree i task hi
    rcases tasks_of_update htasks hi with ⟨-, rfl⟩ | ⟨-, hi⟩
    · exact hwriter
    · exact hfree i task hi

theorem spares_request (hok : t.Ok) {writer : Writer} {message : ServerMessage}
    (hwriter : writer ≠ .handler) (hother : Own message.payload = false) :
    Spares t (t.request encodes writer (.send message)) := by
  refine spares_of_evolves hwriter hother ?_ (request_evolves writer (.send message)) ?_
  · intro job progress hnew
    rw [hok.unused _ le_rfl] at hnew
    cases hnew
  · intro hok
    exact hok.request writer (.send message)

theorem spares_requestAll (hok : t.Ok) {jobs : List (Writer × Job)}
    (hothers : ∀ r ∈ jobs, r.1 ≠ .handler ∧
      ∃ message, r.2 = .send message ∧ Own message.payload = false) :
    Spares t (requestAll encodes t jobs) := by
  refine requestAll_rule (P := Spares t) (.refl t) ?_
  rintro t' ⟨writer, job⟩ hmem hspares
  obtain ⟨hwriter, message, rfl, hother⟩ := hothers _ hmem
  exact hspares.trans (spares_request (hspares.ok hok) hwriter hother)

theorem spares_clear {writer : Writer} {job : Job} {failure : Option Raised}
    (htask : t.tasks j = some ⟨writer, job, .done failure⟩) (hwriter : writer ≠ .handler) :
    Spares t (t.clear j) where
  shared hshared := hshared.clear j
  asked _ _ hasked := hasked.clear htask hwriter
  written := rfl
  closes := rfl
  closed := rfl
  free hfree i task hi := hfree i task (clear_tasks hi).2
  ok hok := hok.clear htask

theorem spares_returns {allowed : Job → Prop} (hown : OwnTasks allowed t) {job : Job}
    (htask : t.tasks j = some ⟨.handler, job, .done none⟩) : Spares t (t.clear j) where
  shared hshared := hshared.clear j
  asked _ _ hasked := hasked.returns hown htask
  written := rfl
  closes := rfl
  closed := rfl
  free hfree i task hi := hfree i task (clear_tasks hi).2
  ok hok := hok.clear htask

theorem exists_of_mem {jobs : List (Writer × Job)} {r : Writer × Job} (hmem : r ∈ jobs)
    (hok : t.Ok) : ∃ j progress,
      (requestAll encodes t jobs).tasks j = some ⟨r.1, r.2, progress⟩ := by
  have kept {t t' : Transport} {j : Nat} {task : Task} {writer : Writer} {job : Job}
      (hevolves : Evolves t j task t') (hnew : t.tasks j = none)
      (hthere : ∃ j progress, t.tasks j = some ⟨writer, job, progress⟩) :
      ∃ j progress, t'.tasks j = some ⟨writer, job, progress⟩ := by
    obtain ⟨progress', htasks⟩ := evolves_tasks hevolves
    obtain ⟨i, progress, hi⟩ := hthere
    refine ⟨i, progress, ?_⟩
    rw [htasks, Function.update_of_ne]
    · exact hi
    · rintro rfl
      cases hnew.symm.trans hi
  induction jobs generalizing t with
  | nil => cases hmem
  | cons first jobs ih =>
      have hfirst : (t.request encodes first.1 first.2).Ok := hok.request first.1 first.2
      rcases List.mem_cons.mp hmem with rfl | hrest
      · have hevolves : Evolves t _ _ (t.request encodes r.1 r.2) := request_evolves r.1 r.2
        obtain ⟨progress, htasks⟩ := evolves_tasks hevolves
        have hthere : ∃ j progress, (t.request encodes r.1 r.2).tasks j =
            some ⟨r.1, r.2, progress⟩ := by
          refine ⟨t.nextTask, progress, ?_⟩
          rw [htasks]
          exact Function.update_self _ _ _
        have hall : (requestAll encodes (t.request encodes r.1 r.2) jobs).Ok ∧
            ∃ j progress, (requestAll encodes (t.request encodes r.1 r.2) jobs).tasks j =
              some ⟨r.1, r.2, progress⟩ := by
          refine requestAll_rule (P := fun t => t.Ok ∧ ∃ j progress, t.tasks j =
            some ⟨r.1, r.2, progress⟩) ⟨hfirst, hthere⟩ ?_
          rintro t' r' - ⟨hok', hthere'⟩
          have hevolves' : Evolves t' _ _ (t'.request encodes r'.1 r'.2) :=
            request_evolves r'.1 r'.2
          exact ⟨hok'.request r'.1 r'.2, kept hevolves' (hok'.unused _ le_rfl) hthere'⟩
        exact hall.2
      · exact ih hrest hfirst

end Transports

/-- A connection that has a session is where its machine is. -/
structure Follows (settings : Settings) (handler : Handler) (sessionId : UUID) (t : Transport)
    (fed : List Input) : Prop where
  corresponds :
    Corresponds handler (run ⟨settings, handler.deviceId, sessionId⟩ fed).machine
  asked : ∃ closes, Asked t (run ⟨settings, handler.deviceId, sessionId⟩ fed).frames closes ∧
    (run ⟨settings, handler.deviceId, sessionId⟩ fed).closes = closes ++ due handler.stage

/-- A handler and its transport after the inputs of its machine. -/
structure Tracks (settings : Settings) (handler : Handler) (t : Transport) (fed : List Input) :
    Prop where
  opened : ¬ Quitting handler.stage → t.closed = false
  nameless : handler.sessionId = none → Nameless handler.stage ∧ fed = []
  connecting : ∀ x, handler.stage = .connecting x → handler.seenIds = .empty ∧
    handler.heartbeatNonce = none ∧ Asked t [] []
  follows : ∀ sessionId, handler.sessionId = some sessionId →
    Follows settings handler sessionId t fed

structure Sim (settings : Settings) (h : Nat) (s : State config) (fed : List Input) : Prop where
  shared : Shared (s.transports h)
  unfed : s.gateway.handlers h = none → fed = []
  tracks : ∀ handler, s.gateway.handlers h = some handler →
    Tracks settings handler (s.transports h) fed

theorem Tracks.spares {settings : Settings} {handler : Handler} {t t' : Transport}
    {fed : List Input} (h : Tracks settings handler t fed) (hspares : Spares t t') :
    Tracks settings handler t' fed where
  opened hstage := hspares.closed.trans (h.opened hstage)
  nameless := h.nameless
  connecting x hstage := by
    obtain ⟨hseen, hnonce, hasked⟩ := h.connecting x hstage
    exact ⟨hseen, hnonce, hspares.asked _ _ hasked⟩
  follows sessionId hsession := by
    obtain ⟨hcorresponds, closes, hasked, hcloses⟩ := h.follows sessionId hsession
    exact ⟨hcorresponds, closes, hspares.asked _ _ hasked, hcloses⟩

section Turns

variable {settings : Settings} {g : Operations.State config} {action : Operations.Action config}
  {events served : List (Event Digest)} {h : Nat} {before after handler : Handler} {t : Transport}
  {m : Machine} {sessionId : UUID}

/-- What the machine does in a step of the process. -/
def takes (context : Context) (m : Machine) : Option Input → Machine × Output
  | some input => m.step context input
  | none => (m, .nothing)

def extend (outcome : Outcome) (r : Machine × Output) : Outcome :=
  ⟨r.1, outcome.frames ++ r.2.frames, outcome.closes ++ r.2.close.toList⟩

theorem run_inputs [DecidableEq Digest] (context : Context) (h : Nat) (u : Step config)
    (history : List (Step config)) :
    run context (inputs h (u :: history)) = extend (run context (inputs h history))
      (takes context (run context (inputs h history)).machine (inputOf h u)) := by
  cases hinput : inputOf h u with
  | none =>
      have hsame : inputs h (u :: history) = inputs h history := by
        simp [inputs, hinput]
      rw [hsame]
      simp [extend, takes, Output.nothing]
  | some input =>
      have hmore : inputs h (u :: history) = inputs h history ++ [input] := by
        simp [inputs, hinput]
      rw [hmore, run_append]
      rfl

theorem sentPayload_own {payload : ServerPayload} {stage : Handlers.Stage}
    (hpayload : sentPayload settings g action stage after = some payload) :
    Own payload = true := by
  have hrejection (action : Operations.Action config) : Own (rejection action) = true := by
    unfold rejection
    split
    · rfl
    · rfl
  unfold sentPayload at hpayload
  split at hpayload
  · cases hpayload
    rfl
  · cases hpayload
    rfl
  · split at hpayload
    · cases hpayload
      rfl
    · cases hpayload
      exact hrejection action
  · cases hpayload
    rfl
  · cases hpayload
    rfl
  · cases hpayload

theorem handlerJob_fair {job : Job}
    (hjob : handlerJob settings g action events h before after = some job) :
    Fair ⟨.handler, job, .queued false⟩ := by
  unfold handlerJob at hjob
  split at hjob
  · cases hjob
  · split at hjob
    · obtain ⟨code, reason, rfl⟩ := closeRequest_eq_some hjob
      trivial
    · split at hjob
      · rename_i payload sessionId hpayload _
        cases hjob
        exact sentPayload_own hpayload
      · cases hjob

theorem asked_after (encodes : DeviceCommand → Bool) {outcome : Outcome} {refused : List Nat}
    {r : Machine × Output} {job : Option Job} {stage stage' : Handlers.Stage}
    (hasked : ∃ closes, Asked t outcome.frames closes ∧ outcome.closes = closes ++ due stage)
    (hfree : Free t) (hopened : job ≠ none → t.closed = false)
    (hfair : ∀ job', job = some job' → Fair ⟨.handler, job', .queued false⟩)
    (hemits : Emits stage stage' job refused r.2) :
    ∃ closes, Asked (requestAll encodes { t with closes := t.closes ++ refused }
        (job.map fun job => (.handler, job)).toList) (extend outcome r).frames closes ∧
      (extend outcome r).closes = closes ++ due stage' := by
  obtain ⟨closes, hasked, hcloses⟩ := hasked
  have hrefused := hasked.refuses hfree refused
  have hall : outcome.closes ++ r.2.close.toList =
      closes ++ refused ++ codesOf job ++ due stage' := by
    rw [hcloses, List.append_assoc, hemits.closes]
    simp only [List.append_assoc]
  cases job with
  | none =>
      refine ⟨closes ++ refused, ?_, ?_⟩
      · simp only [extend, hemits.frames, framesOf, List.append_nil]
        exact hrefused
      · simpa only [extend, codesOf, List.append_nil] using hall
  | some job =>
      refine ⟨closes ++ refused ++ codesOf (some job), ?_, hall⟩
      have hopen : ({ t with closes := t.closes ++ refused } : Transport).closed = false :=
        hopened (by simp)
      simp only [extend, hemits.frames]
      exact hrefused.request hfree hopen (hfair job rfl)

theorem agrees_silent (hcorresponds : Corresponds handler m)
    (hphase : phaseOf after.stage = phaseOf handler.stage) (hseen : after.seenIds = handler.seenIds)
    (hnonce : after.heartbeatNonce = handler.heartbeatNonce) (hsilent : Silent after.stage)
    (hdue : due after.stage = due handler.stage) :
    Agrees settings g action events h handler after [] (m, .nothing) := by
  refine ⟨⟨hcorresponds.phase.trans hphase.symm, ?_, ?_⟩, ?_⟩
  · intro hopen
    rw [hseen]
    exact hcorresponds.seen hopen
  · intro hopen
    rw [hnonce]
    exact hcorresponds.outstanding hopen
  · rw [handlerJob_silent hsilent]
    constructor
    · rfl
    · rw [hdue]
      simp [Output.nothing, codesOf]

theorem answerOf_effective {x : Nat} {first : Bool} {value : Value}
    {request : Service.Operations.Request} (hstage : handler.stage = .activating x first)
    (hcall : g.service.calls x = some ⟨request, .finished (.ok value)⟩) :
    answerOf (.ok value) = .ok (effectiveOf g handler.stage) := by
  simp only [effectiveOf, hstage, Operations.awaitedCall, hcall]
  cases value with
  | capabilities effective => rfl
  | _ => rfl

/-- What the handler is told when nothing fails. -/
def Fine : Stimulus → Prop
  | .received _ _ _ _ | .sent (some _) | .closed (some _) => False
  | _ => True

theorem answerTo_of_ne (hstage : ∀ x first, handler.stage ≠ .activating x first) :
    answerTo g handler after = none := by
  unfold answerTo
  split
  · rename_i x first hactivating
    exact absurd hactivating (hstage x first)
  · rfl

theorem answerTo_answered {x : Nat} {first : Bool} {outcome : Except Raised Value}
    {request : Service.Operations.Request} (hstage : handler.stage = .activating x first)
    (hcall : g.service.calls x = some ⟨request, .finished outcome⟩)
    (hnew : after.stage ≠ handler.stage) :
    answerTo g handler after = some (.answered (answerOf outcome)) := by
  rw [hstage] at hnew
  simp [answerTo, hstage, hnew, hcall]

theorem pingOf_eq_none (hsame : after.heartbeat = handler.heartbeat ∨
    after.heartbeat = some .sleeping) : pingOf handler after = none := by
  unfold pingOf
  split
  · rename_i hbefore hafter
    rw [hbefore, hafter] at hsame
    simp at hsame
  · rfl

theorem leave_agrees (hcorresponds : Corresponds handler m)
    (hclosed : phaseOf handler.stage = .closed) (hdue : due handler.stage = []) :
    Agrees settings g action events h handler (settle (.leave handler)) [] (m, .nothing) :=
  agrees_leave (hcorresponds.phase.trans hclosed) rfl (by rw [hdue]; rfl) handler.seenIds

theorem activated_agrees {x : Nat} {first : Bool} (hsession : handler.sessionId = some sessionId)
    (hcorresponds : Corresponds handler m) (hstage : handler.stage = .activating x first) :
    Agrees settings g action events h handler
      { handler with stage := if first then .sendingReady else .replying } []
      (m.step ⟨settings, handler.deviceId, sessionId⟩
        (.answered (.ok (effectiveOf g handler.stage)))) := by
  have hopen : phaseOf handler.stage ≠ .closed := by
    rw [hstage]
    exact Phase.noConfusion
  have hphase : m.phase = .asking first := by
    rw [hcorresponds.phase, hstage]
    rfl
  have hmachine : m.phase ≠ .closed := hcorresponds.phase ▸ hopen
  have hremembers := hcorresponds.seen hmachine
  have houtstanding := hcorresponds.outstanding hmachine
  cases first with
  | true =>
      simp only [Machine.step, hphase]
      refine agrees_send hopen ⟨rfl, fun _ => hremembers, fun _ => houtstanding⟩ ?_ rfl rfl hsession
      rw [hstage]
      exact Handlers.Stage.noConfusion
  | false =>
      have hsent : sentPayload settings g action handler.stage
          { handler with stage := .replying } =
          some (.capabilitiesAck (effectiveOf g handler.stage)) := by
        rw [hstage]
        rfl
      simp only [Machine.step, hphase]
      refine agrees_send hopen ⟨rfl, fun _ => hremembers, fun _ => houtstanding⟩ ?_ rfl hsent hsession
      rw [hstage]
      exact Handlers.Stage.noConfusion

theorem unanswered_agrees {x : Nat} {first : Bool} {error : Raised}
    {request : Service.Operations.Request} (hsession : handler.sessionId = some sessionId)
    (hcorresponds : Corresponds handler m) (hstage : handler.stage = .activating x first)
    (hcall : g.service.calls x = some ⟨request, .finished (.error error)⟩)
    (hevents : events = served ++ closing h (handler.except error)) :
    Agrees settings g action events h handler (settle (handler.except error)) []
      (takes ⟨settings, handler.deviceId, sessionId⟩ m
        (answerTo g handler (settle (handler.except error)))) := by
  have hopen : phaseOf handler.stage ≠ .closed := by
    rw [hstage]
    exact Phase.noConfusion
  have hphase : m.phase = .asking first := by
    rw [hcorresponds.phase, hstage]
    rfl
  have hnew : (settle (handler.except error)).stage ≠ handler.stage := by
    obtain ⟨stage, hsettle, hleaving⟩ := settle_except handler error
    rw [hsettle, hstage]
    rintro rfl
    exact hleaving
  have hfail : takes ⟨settings, handler.deviceId, sessionId⟩ m
      (some (.answered (answerOf (.error error)))) = m.fail error := by
    simp [takes, answerOf, Machine.step, hphase]
  rw [answerTo_answered hstage hcall hnew, hfail]
  exact agrees_except handler.seenIds hopen hsession hevents

theorem reported_agrees {inBody : Bool} (hcorresponds : Corresponds handler m)
    (hstage : handler.stage = .reporting inBody)
    (hevents : events = served ++ closing h (.close { handler with stage := .closing inBody } 4400
      "Invalid device protocol message")) :
    Agrees settings g action events h handler { handler with stage := .closing inBody } []
      (m, .nothing) := by
  have hclosed : m.phase = .closed := by
    rw [hcorresponds.phase, hstage]
    rfl
  refine ⟨corresponds_closed hclosed rfl, ?_⟩
  have hnew : Handlers.Stage.closing inBody ≠ handler.stage := by
    rw [hstage]
    exact Handlers.Stage.noConfusion
  have hjob : handlerJob settings g action events h handler
      { handler with stage := .closing inBody } =
      some (.close 4400 "Invalid device protocol message") := by
    rw [hevents]
    exact handlerJob_close rfl hnew
  rw [hjob, hstage]
  constructor
  · rfl
  · rfl

/-- A handler that is told of a success, or of an answer of the service, does what the
machine does. -/
theorem turn_agrees {stimulus : Stimulus} {reaction : Reaction}
    (hsession : handler.sessionId = some sessionId)
    (hconnected : ∀ x, handler.stage ≠ .connecting x) (hcorresponds : Corresponds handler m)
    (hfine : Fine stimulus) (hturn : Turn handler stimulus reaction)
    (hcause : Cause g h handler action stimulus) (hevents : events = served ++ closing h reaction) :
    Agrees settings g action events h handler (settle reaction) []
      (takes ⟨settings, handler.deviceId, sessionId⟩ m (answerTo g handler (settle reaction))) := by
  have unasked {stage : Handlers.Stage} (hstage : handler.stage = stage)
      (hne : ∀ x first, stage ≠ .activating x first) :
      answerTo g handler (settle reaction) = none :=
    answerTo_of_ne fun x first => hstage ▸ hne x first
  cases hturn with
  | connected x _ hstage => exact absurd hstage (hconnected x)
  | activated x first value hstage =>
      cases hcause with
      | answered inner y request outcome _ hawaits hcall =>
          obtain rfl : x = y := by simpa [hstage, Operations.awaitedCall] using hawaits
          have hnew : (settle (handler.awaitAt
              (if first then .sendingReady else .replying))).stage ≠ handler.stage := by
            rw [hstage]
            cases first with
            | true | false => exact Handlers.Stage.noConfusion
          rw [answerTo_answered hstage hcall hnew, answerOf_effective hstage hcall]
          exact activated_agrees hsession hcorresponds hstage
  | greeted hstage =>
      rw [unasked hstage (by simp)]
      exact agrees_silent hcorresponds (by rw [hstage]; rfl) rfl rfl trivial (by rw [hstage]; rfl)
  | readied hstage =>
      rw [unasked hstage (by simp)]
      exact agrees_silent hcorresponds (by rw [hstage]; rfl) rfl rfl trivial (by rw [hstage]; rfl)
  | replied hstage =>
      rw [unasked hstage (by simp)]
      exact agrees_silent hcorresponds (by rw [hstage]; rfl) rfl rfl trivial (by rw [hstage]; rfl)
  | reported inBody failure hstage =>
      rw [unasked hstage (by simp)]
      exact reported_agrees hcorresponds hstage hevents
  | timedOut | greets | demandsHello | pongs | updates | passesOn => exact hfine.elim
  | raises _ seenIds error hraises =>
      cases hraises with
      | answered x _ hawaits =>
          cases hcause with
          | answered inner y request outcome _ hawaits' hcall =>
              obtain rfl := Option.some.inj (hawaits.symm.trans hawaits')
              have hactivating : ∃ first, handler.stage = .activating x first := by
                cases hstage : handler.stage with
                | connecting z => exact absurd hstage (hconnected z)
                | activating z first =>
                    obtain rfl : z = x := by simpa [hstage, Operations.awaitedCall] using hawaits
                    exact ⟨first, rfl⟩
                | _ =>
                    rw [hstage] at hawaits
                    cases hawaits
              obtain ⟨first, hstage⟩ := hactivating
              exact unanswered_agrees hsession hcorresponds hstage hcall hevents
      | sending | reporting | closing | receiving | refused | misplaced => exact hfine.elim
  | departs _ hdeparts =>
      cases hdeparts with
      | unreported | unclosed | frame => exact hfine.elim
      | closed inBody hstage =>
          rw [unasked hstage (by simp)]
          exact leave_agrees hcorresponds (by rw [hstage]; rfl) (by rw [hstage]; rfl)
      | joined outcome hstage =>
          rw [unasked hstage (by simp)]
          exact leave_agrees hcorresponds (by rw [hstage]; rfl) (by rw [hstage]; rfl)

theorem leave_quits (handler : Handler) : Quitting (settle (.leave handler)).stage := by
  simp only [settle]
  split
  · trivial
  · trivial

theorem turn_quits {stimulus : Stimulus} {reaction : Reaction} (hfine : Fine stimulus)
    (hturn : Turn handler stimulus reaction) (hquits : Quitting handler.stage) :
    Quitting (settle reaction).stage ∧ Silent (settle reaction).stage := by
  have elsewhere {stage : Handlers.Stage} (hstage : handler.stage = stage)
      (hstays : ¬ Quitting stage) : False := hstays (hstage ▸ hquits)
  cases hturn with
  | departs => exact ⟨leave_quits handler, (leave_silent handler).1⟩
  | timedOut | greets | demandsHello | pongs | updates | passesOn => exact hfine.elim
  | connected _ _ hstage => exact (elsewhere hstage id).elim
  | activated _ _ _ hstage => exact (elsewhere hstage id).elim
  | greeted hstage | readied hstage | replied hstage => exact (elsewhere hstage id).elim
  | reported _ _ hstage => exact (elsewhere hstage id).elim
  | raises _ _ _ hraises =>
      cases hraises with
      | answered x _ hawaits =>
          cases hstage : handler.stage with
          | connecting | activating => exact (elsewhere hstage id).elim
          | _ =>
              rw [hstage] at hawaits
              cases hawaits
      | sending | reporting | closing | receiving | refused | misplaced => exact hfine.elim

theorem turn_connected {stimulus : Stimulus} {reaction : Reaction}
    (hturn : Turn handler stimulus reaction) (x : Nat) :
    (settle reaction).stage ≠ .connecting x := by
  intro hstage
  cases hturn with
  | raises _ seenIds error =>
      obtain ⟨stage, hsettle, hleaving⟩ := settle_except { handler with seenIds } error
      rw [hsettle] at hstage
      obtain rfl : stage = _ := hstage
      exact hleaving
  | departs =>
      have hquits := leave_quits handler
      rw [hstage] at hquits
      exact hquits
  | pongs _ _ _ _ _ _ _ hreceiving => cases hreceiving.symm.trans hstage
  | activated _ first =>
      cases first with
      | true | false => cases hstage
  | passesOn _ _ _ resolved =>
      cases resolved with
      | true | false => cases hstage
  | connected | greeted | readied | replied | reported | timedOut | greets | demandsHello
  | updates => cases hstage

theorem closed_after {encodes : DeviceCommand → Bool} {job : Option Job}
    (hopen : t.closed = false) (hsends : ∀ code reason, job ≠ some (.close code reason)) :
    (requestAll encodes t (job.map fun job => (Writer.handler, job)).toList).closed = false := by
  cases job with
  | none => exact hopen
  | some job =>
      have hevolves : Evolves t _ _ (t.request encodes .handler job) := request_evolves .handler job
      show (t.request encodes .handler job).closed = false
      cases hevolves with
      | settles _ _ _ _ _ hclosed => exact hclosed.trans hopen
      | sends _ _ _ _ _ _ hclosed => exact hclosed.trans hopen
      | closes code reason hjob => exact absurd (congrArg some hjob) (hsends code reason)

theorem handlerJob_sends (hstays : ¬ Quitting after.stage) (code : Nat) (reason : String) :
    handlerJob settings g action events h before after ≠ some (.close code reason) := by
  intro hjob
  unfold handlerJob at hjob
  split at hjob
  · cases hjob
  · split at hjob
    · rename_i inBody hstage
      rw [hstage] at hstays
      exact hstays trivial
    · split at hjob
      · cases hjob
      · cases hjob

theorem shared_after {encodes : DeviceCommand → Bool} {job : Option Job} (hshared : Shared t)
    (hfair : ∀ job', job = some job' → Fair ⟨.handler, job', .queued false⟩) :
    Shared (requestAll encodes t (job.map fun job => (Writer.handler, job)).toList) := by
  cases job with
  | none => exact hshared
  | some job =>
      have hevolves : Evolves t t.nextTask ⟨.handler, job, .queued false⟩
          (t.request encodes .handler job) := request_evolves .handler job
      exact hshared.evolves (hfair job rfl) hevolves

theorem follows_agrees (encodes : DeviceCommand → Bool) {fed fed' : List Input}
    {refused : List Nat} {r : Machine × Output}
    (hfed : run ⟨settings, handler.deviceId, sessionId⟩ fed' =
      extend (run ⟨settings, handler.deviceId, sessionId⟩ fed) r)
    (hdevice : after.deviceId = handler.deviceId)
    (hasked : ∃ closes, Asked t (run ⟨settings, handler.deviceId, sessionId⟩ fed).frames closes ∧
      (run ⟨settings, handler.deviceId, sessionId⟩ fed).closes = closes ++ due handler.stage)
    (hfree : Free t)
    (hopened : handlerJob settings g action events h handler after ≠ none → t.closed = false)
    (hagrees : Agrees settings g action events h handler after refused r) :
    Follows settings after sessionId
      (requestAll encodes { t with closes := t.closes ++ refused }
        ((handlerJob settings g action events h handler after).map fun job =>
          (.handler, job)).toList) fed' := by
  constructor
  · rw [hdevice, hfed]
    exact hagrees.corresponds
  · rw [hdevice, hfed]
    exact asked_after encodes hasked hfree hopened (fun _ => handlerJob_fair) hagrees.emits

theorem connected_follows {encodes : DeviceCommand → Bool} {x : Nat}
    (hstage : handler.stage = .connecting x) (hseen : handler.seenIds = .empty)
    (hnonce : handler.heartbeatNonce = none) (hasked : Asked t [] []) (hfree : Free t)
    (hopen : t.closed = false) (hafter : after =
      { handler with sessionId := some sessionId, stage := .sendingHello }) :
    Follows settings after sessionId
      (requestAll encodes t ((handlerJob settings g action events h handler after).map fun job =>
        (.handler, job)).toList) [] := by
  subst hafter
  let after : Handler := { handler with sessionId := some sessionId, stage := .sendingHello }
  have hcorresponds : Corresponds after Machine.start :=
    { phase := rfl
      seen := fun _ => by
        show Remembers messageReplayWindow handler.seenIds []
        rw [hseen]
        exact remembers_empty _
      outstanding := fun _ => hnonce }
  have hphase : phaseOf handler.stage ≠ .closed := by
    rw [hstage]
    exact Phase.noConfusion
  have hnew : after.stage ≠ handler.stage := by
    rw [hstage]
    exact Handlers.Stage.noConfusion
  let hello : ServerPayload :=
    .serverHello handler.deviceId settings.heartbeatIntervalSeconds settings.maxMessageBytes
  have hagrees : Agrees settings g action events h handler after []
      (Machine.start, ⟨[hello], none, none⟩) :=
    agrees_send hphase hcorresponds hnew rfl rfl rfl
  have hdue : due handler.stage = [] := due_of_open hphase
  have hbefore : ∃ closes, Asked t (⟨.start, [], []⟩ : Outcome).frames closes ∧
      (⟨.start, [], []⟩ : Outcome).closes = closes ++ due handler.stage :=
    ⟨[], hasked, by rw [hdue]; rfl⟩
  have hall := asked_after encodes hbefore hfree (fun _ => hopen)
    (fun _ => handlerJob_fair) hagrees.emits
  simp only [List.append_nil] at hall
  exact ⟨hcorresponds, hall⟩

theorem turn_tracks {encodes : DeviceCommand → Bool} {stimulus : Stimulus} {reaction : Reaction}
    {fed fed' : List Input} (htracks : Tracks settings handler t fed)
    (hnameless : ∀ x, handler.stage = .connecting x → handler.sessionId = none) (hfree : Free t)
    (hfine : Fine stimulus) (hturn : Turn handler stimulus reaction)
    (hcause : Cause g h handler action stimulus) (hevents : events = served ++ closing h reaction)
    (hfed : ∀ context, run context fed' = extend (run context fed)
      (takes context (run context fed).machine (answerTo g handler (settle reaction))))
    (hrest : answerTo g handler (settle reaction) = none → fed' = fed) :
    Tracks settings (settle reaction) (requestAll encodes t
      ((handlerJob settings g action events h handler (settle reaction)).map fun job =>
        (.handler, job)).toList) fed' := by
  have hadvances := Turn.advances hturn
  have hopened : ¬ Quitting (settle reaction).stage → t.closed = false := fun hstays =>
    htracks.opened fun hquits => hstays (turn_quits hfine hturn hquits).1
  constructor
  · intro hstays
    exact closed_after (hopened hstays) (handlerJob_sends hstays)
  · intro hnone
    have hbefore : handler.sessionId = none := by
      by_cases hstage : ∃ x, handler.stage = .connecting x
      · obtain ⟨x, hstage⟩ := hstage
        exact hnameless x hstage
      · exact (hadvances.sessionId (not_exists.mp hstage)).symm.trans hnone
    obtain ⟨hstage, hnil⟩ := htracks.nameless hbefore
    refine ⟨turn_nameless hturn hstage hnone, (hrest ?_).trans hnil⟩
    refine answerTo_of_ne ?_
    intro x first hactivating
    rw [hactivating] at hstage
    exact hstage
  · intro x hstage
    exact absurd hstage (turn_connected hturn x)
  · intro sessionId hsession
    by_cases hconnecting : ∃ x, handler.stage = .connecting x
    · obtain ⟨x, hstage⟩ := hconnecting
      obtain ⟨hseen, hnonce, hasked⟩ := htracks.connecting x hstage
      have hnone := hnameless x hstage
      have hsilent : answerTo g handler (settle reaction) = none :=
        answerTo_of_ne fun y first hactivating => by cases hstage.symm.trans hactivating
      rw [hrest hsilent, (htracks.nameless hnone).2]
      have hopen : t.closed = false := htracks.opened (by rw [hstage]; exact id)
      cases hturn with
      | connected y sessionId' =>
          obtain rfl : sessionId' = sessionId := Option.some.inj hsession
          exact connected_follows hstage hseen hnonce hasked hfree hopen rfl
      | raises _ seenIds error =>
          obtain ⟨stage, hsettle, -⟩ := settle_except { handler with seenIds } error
          rw [hsettle] at hsession
          cases hnone.symm.trans hsession
      | departs => cases hnone.symm.trans hsession
      | activated | greeted | readied | replied | reported | timedOut | greets | demandsHello
      | pongs | updates | passesOn => cases hnone.symm.trans hsession
    · have hconnected := not_exists.mp hconnecting
      have hbefore := (hadvances.sessionId hconnected).symm.trans hsession
      obtain ⟨hcorresponds, hasked⟩ := htracks.follows sessionId hbefore
      have hagrees : Agrees settings g action events h handler (settle reaction) []
          (takes ⟨settings, handler.deviceId, sessionId⟩ _ (answerTo g handler (settle reaction))) :=
        turn_agrees hbefore hconnected hcorresponds hfine hturn hcause hevents
      have hjob : handlerJob settings g action events h handler (settle reaction) ≠ none →
          t.closed = false := by
        intro hjob
        refine htracks.opened fun hquits => hjob ?_
        exact handlerJob_silent (turn_quits hfine hturn hquits).2
      have hfollows := follows_agrees encodes (hfed _) hadvances.deviceId hasked hfree
        hjob hagrees
      simp only [List.append_nil] at hfollows
      exact hfollows

theorem beat_pings {input : HeartbeatInput} (hbeat : handler.beat input = some after) :
    after.seenIds = handler.seenIds ∧
      ((∃ nonce, pingOf handler after = some (.pinged nonce) ∧ after.heartbeatNonce = some nonce) ∨
        pingOf handler after = none ∧ after.heartbeatNonce = handler.heartbeatNonce) := by
  unfold Handler.beat at hbeat
  dsimp only at hbeat
  split at hbeat
  · rename_i nonce hheartbeat _
    cases hbeat
    exact ⟨rfl, .inl ⟨nonce, by simp [pingOf, hheartbeat], rfl⟩⟩
  · cases hbeat
    exact ⟨rfl, .inr ⟨by simp [pingOf], rfl⟩⟩
  · cases hbeat
    exact ⟨rfl, .inr ⟨by simp [pingOf], rfl⟩⟩
  · split at hbeat
    · cases hbeat
      exact ⟨rfl, .inr ⟨by simp [pingOf], rfl⟩⟩
    · cases hbeat
  all_goals
    cases hbeat
    try exact ⟨rfl, .inr ⟨by simp [pingOf], rfl⟩⟩

theorem beat_tracks {t' : Transport} {input : HeartbeatInput} {fed fed' : List Input}
    (htracks : Tracks settings handler t fed) (hbeat : handler.beat input = some after)
    (hnamed : handler.sessionId ≠ none) (hconnected : ∀ x, handler.stage ≠ .connecting x)
    (hspares : Spares t t')
    (hfed : ∀ context, run context fed' = extend (run context fed)
      (takes context (run context fed).machine (pingOf handler after))) :
    Tracks settings after t' fed' := by
  obtain ⟨hdevice, hsession, hstage, -⟩ := beat_goes hbeat
  obtain ⟨hseen, hnonce⟩ := beat_pings hbeat
  have hbefore := htracks.spares hspares
  constructor
  · rw [hstage]
    exact hbefore.opened
  · intro hnone
    exact absurd (hsession.symm.trans hnone) hnamed
  · intro x hconnecting
    exact absurd (hstage.symm.trans hconnecting) (hconnected x)
  · intro sessionId hafter
    obtain ⟨⟨hphase, hremembers, houtstanding⟩, hasked⟩ :=
      hbefore.follows sessionId (hsession.symm.trans hafter)
    have hrun := hfed ⟨settings, handler.deviceId, sessionId⟩
    rcases hnonce with ⟨nonce, hping, hpinged⟩ | ⟨hping, hsame⟩
    · rw [hping] at hrun
      constructor
      · rw [hdevice, hrun]
        constructor
        · rw [hstage]
          exact hphase
        · intro hopen
          rw [hseen]
          exact hremembers hopen
        · intro _
          exact hpinged
      · rw [hdevice, hrun, hstage]
        simpa [extend, takes, Machine.step, Output.nothing] using hasked
    · rw [hping] at hrun
      constructor
      · rw [hdevice, hrun]
        constructor
        · rw [hstage]
          exact hphase
        · intro hopen
          rw [hseen]
          exact hremembers hopen
        · intro hopen
          rw [hsame]
          exact houtstanding hopen
      · rw [hdevice, hrun, hstage]
        simpa [extend, takes, Output.nothing] using hasked

end Turns

section Steps

variable [DecidableEq Digest] {settings : Settings} {s s₁ t : State config}
  {action : Action config} {events : List Empty} {passed : Operations.Action config}
  {g : Operations.State config} {served : List (Event Digest)} {h : Nat} {handler : Handler}
  {history : List (Step config)} {fed : List Input}

omit [DecidableEq Digest] in
theorem sim_initial (settings : Settings) (h : Nat) :
    Sim settings h (State.initial config) [] where
  shared j task htask := by cases htask
  unfed _ := rfl
  tracks handler hhandler := by cases hhandler

omit [DecidableEq Digest] in
/-- A job that is not the handler's, in a step in which nobody else closes the socket. -/
theorem calm_sends (hcalm : ¬ Disturbed settings h ⟨s, action, events, t⟩) {t₁ : Transport}
    {jobs : List (Writer × Job)} (hok : t₁.Ok)
    (htransport : t.transports h = requestAll settings.encodes t₁ jobs) {r : Writer × Job}
    (hmem : r ∈ jobs) (hwriter : r.1 ≠ .handler) : ∃ message, r.2 = .send message := by
  cases hjob : r.2 with
  | send message => exact ⟨message, rfl⟩
  | close code reason =>
      have hthere : ∃ j progress,
          (requestAll settings.encodes t₁ jobs).tasks j = some ⟨r.1, r.2, progress⟩ :=
        exists_of_mem hmem hok
      obtain ⟨j, progress, htask⟩ := hthere
      rw [← htransport, hjob] at htask
      exact absurd (.closed j r.1 code reason progress htask hwriter) hcalm

theorem service_spares (hcalm : ¬ Disturbed settings h ⟨s, action, events, t⟩)
    {jobs : List (Writer × Job)} (hok : (s₁.transports h).Ok)
    (htransport : t.transports h = requestAll settings.encodes (s₁.transports h)
      (serviceRequests s₁ passed h ++ jobs)) :
    Spares (s₁.transports h)
      (requestAll settings.encodes (s₁.transports h) (serviceRequests s₁ passed h)) := by
  refine spares_requestAll hok ?_
  intro r hmem
  have hjob := serviceJob_of_mem hmem
  refine ⟨hjob.others, ?_⟩
  obtain ⟨message, hsend⟩ := calm_sends hcalm hok htransport (List.mem_append_left _ hmem) hjob.others
  cases hjob with
  | sends => exact ⟨_, rfl, rfl⟩
  | closes => cases hsend

theorem passes_spares (hinv : FrameOrder.Inv s) (hpasses : Passes settings s action passed s₁)
    (hcalm : ¬ Disturbed settings h ⟨s, action, events, t⟩)
    (hinbound : ∀ x event closing clock now, action ≠ .inbound h x event closing clock now) :
    Spares (s.transports h) (s₁.transports h) := by
  cases hpasses with
  | internal => exact .refl _
  | inbound h' x event closing clock now =>
      by_cases hne : h = h'
      · subst hne
        exact absurd rfl (hinbound x event closing clock now)
      · rw [setTransport_of_ne _ hne]
        exact .refl _
  | returned h' j now writer job failure passed htask hcontinuation =>
      by_cases hne : h = h'
      · subst hne
        rw [setTransport_self]
        by_cases hwriter : writer = .handler
        · subst hwriter
          cases failure with
          | none =>
              obtain ⟨handler, hhandler⟩ := hinv.handler_of_task htask
              exact spares_returns (hinv.connection h handler hhandler).own htask
          | some error => exact absurd (.failed j now job error rfl htask) hcalm
        · exact spares_clear htask hwriter
      · rw [setTransport_of_ne _ hne]
        exact .refl _

omit [DecidableEq Digest] in
theorem fine_of_calm {stimulus : Stimulus} (hpasses : Passes settings s action passed s₁)
    (hcalm : ¬ Disturbed settings h ⟨s, action, events, t⟩)
    (hinbound : ∀ x event closing clock now, action ≠ .inbound h x event closing clock now)
    (hcause : Cause g h handler passed stimulus) : Fine stimulus := by
  have told {failure : Option Raised}
      (hpassed : passed = .sent h failure ∨ passed = .closed h failure) : failure = none := by
    cases hpasses with
    | internal _ hdirect =>
        rcases hpassed with rfl | rfl
        all_goals cases hdirect
    | inbound => simp at hpassed
    | returned h' j now writer job failure' _ htask hcontinuation =>
        have hwriter : writer = .handler ∧ h' = h ∧ failure' = failure := by
          unfold continuation at hcontinuation
          split at hcontinuation
          · cases hcontinuation
            simpa using hpassed
          · cases hcontinuation
            simpa using hpassed
          all_goals
            cases hcontinuation
            try simp at hpassed
        obtain ⟨rfl, rfl, rfl⟩ := hwriter
        cases failure' with
        | none => rfl
        | some error => exact absurd (.failed j now job error rfl htask) hcalm
  cases hcause with
  | answered | joined => trivial
  | sent failure =>
      obtain rfl := told (.inl rfl)
      trivial
  | closed failure =>
      obtain rfl := told (.inr rfl)
      trivial
  | received x received clock now =>
      cases hpasses with
      | internal => exact absurd (.received x received clock now rfl) hcalm
      | inbound _ _ event closing => exact absurd rfl (hinbound x event closing clock now)
      | returned h' j now writer job failure' _ htask hcontinuation =>
          unfold continuation at hcontinuation
          split at hcontinuation
          all_goals cases hcontinuation

theorem inputOf_runs {before after : Handler} (hbefore : s.gateway.handlers h = some before)
    (hafter : t.gateway.handlers h = some after)
    (hpasses : Passes settings s action passed s₁)
    (hpassed : ∀ h' x received clock now, passed ≠ .received h' x received clock now) :
    inputOf h ⟨s, action, events, t⟩ =
      (answerTo t.gateway before after).or (pingOf before after) := by
  cases hpasses with
  | internal | returned => simp only [inputOf, hbefore, hafter]
  | inbound h' x event closing clock now => exact absurd rfl (hpassed h' x _ clock now)

theorem inputOf_rest (hsame : t.gateway.handlers h = s.gateway.handlers h)
    (hinbound : ∀ x event closing clock now, action ≠ .inbound h x event closing clock now) :
    inputOf h ⟨s, action, events, t⟩ = none := by
  have hidle (handler : Handler) :
      (answerTo t.gateway handler handler).or (pingOf handler handler) = none := by
    rw [pingOf_eq_none (.inl rfl), Option.or_none]
    unfold answerTo
    split
    · exact if_pos rfl
    · rfl
  cases hbefore : s.gateway.handlers h with
  | none => simp only [inputOf, hbefore]
  | some handler =>
      have hafter := hsame.trans hbefore
      unfold inputOf
      simp only [hbefore, hafter]
      split
      · rename_i h' x event closing clock now
        have hne : h' ≠ h := by
          rintro rfl
          exact hinbound x event closing clock now rfl
        exact if_neg hne
      · exact hidle handler

theorem inputs_rest {u : Step config} (hnone : inputOf h u = none) :
    inputs h (u :: history) = inputs h history := by
  simp [inputs, hnone]

omit [DecidableEq Digest] in
theorem heartbeatJob_other {before after : Handler} {message : ServerMessage}
    (hjob : heartbeatJob served h before after = some (.send message)) :
    Own message.payload = false := by
  unfold heartbeatJob at hjob
  split at hjob
  · cases hjob
    rfl
  · obtain ⟨code, reason, heq⟩ := closeRequest_eq_some hjob
    cases heq
  · cases hjob

omit [DecidableEq Digest] in
theorem handlerJob_same {before after : Handler} (hsame : after.stage = before.stage) :
    handlerJob settings g passed served h before after = none :=
  if_pos hsame

section Advance

/-- The socket once the calls of the service have used it, and before the handler does. -/
def serviced (settings : Settings) (s₁ : State config) (passed : Operations.Action config)
    (h : Nat) : Transport :=
  requestAll settings.encodes (s₁.transports h) (serviceRequests s₁ passed h)

variable {served : List (Event Digest)}

theorem Sim.tracks_serviced (hsim : Sim settings h s (inputs h history))
    (hgateway : s₁.gateway = s.gateway)
    (hspares : Spares (s.transports h) (serviced settings s₁ passed h)) {handler : Handler}
    (hhandler : s₁.gateway.handlers h = some handler) :
    Tracks settings handler (serviced settings s₁ passed h) (inputs h history) :=
  (hsim.tracks handler (hgateway ▸ hhandler)).spares hspares

theorem Sim.rests (hsim : Sim settings h s (inputs h history))
    (hgateway : s₁.gateway = s.gateway)
    (hspares : Spares (s.transports h) (serviced settings s₁ passed h))
    (htransport : t.transports h = requestAll settings.encodes (serviced settings s₁ passed h)
      (handlerRequests settings s₁ passed t.gateway served h))
    (hinbound : ∀ x event closing clock now, action ≠ .inbound h x event closing clock now)
    (hsame : t.gateway.handlers h = s₁.gateway.handlers h) :
    Sim settings h t (inputs h (⟨s, action, events, t⟩ :: history)) := by
  rw [handlerRequests_rest hsame] at htransport
  rw [inputs_rest (inputOf_rest (hsame.trans (congrArg (fun g => g.handlers h) hgateway))
    hinbound)]
  refine ⟨htransport ▸ hspares.shared hsim.shared, ?_, ?_⟩
  · intro hnone
    exact hsim.unfed (hgateway ▸ hsame.symm.trans hnone)
  · intro handler hhandler
    rw [htransport]
    exact hsim.tracks_serviced hgateway hspares (hsame.symm.trans hhandler)

theorem Sim.accepts (hsim : Sim settings h s (inputs h history)) (hbefore : FrameOrder.Inv s₁)
    (hgateway : s₁.gateway = s.gateway)
    (hstep : Operations.step s₁.gateway passed = some (t.gateway, served))
    (htransport : t.transports h = requestAll settings.encodes (serviced settings s₁ passed h)
      (handlerRequests settings s₁ passed t.gateway served h))
    {x : Nat} {deviceId : UUID} (hnone : s₁.gateway.handlers h = none)
    (hafter : t.gateway.handlers h = some (.accepted deviceId x)) :
    Sim settings h t (inputs h (⟨s, action, events, t⟩ :: history)) := by
  have hunfed : inputs h history = [] := hsim.unfed (hgateway ▸ hnone)
  have hinput : inputOf h ⟨s, action, events, t⟩ = none := by
    simp only [inputOf, ← hgateway, hnone]
  rw [inputs_rest hinput, hunfed]
  rw [serviced, hbefore.serviceRequests_idle hstep hnone, handlerRequests_idle hnone,
    hbefore.idle h hnone] at htransport
  have hfresh : t.transports h = .fresh := htransport
  refine ⟨?_, ?_, ?_⟩
  · intro j task htask
    rw [hfresh] at htask
    cases htask
  · intro hnone'
    cases hnone'.symm.trans hafter
  · intro handler hhandler
    obtain rfl := Option.some.inj (hafter.symm.trans hhandler)
    rw [hfresh]
    refine ⟨fun _ => rfl, fun _ => ⟨trivial, rfl⟩, fun _ _ => ⟨rfl, rfl, ?_⟩, ?_⟩
    · exact .idle fun j task htask => by cases htask
    · intro sessionId hsession
      cases hsession

theorem Sim.turns (hsim : Sim settings h s (inputs h history)) (hbefore : FrameOrder.Inv s₁)
    (htold : Told s₁ passed) (hpasses : Passes settings s action passed s₁)
    (hspares : Spares (s.transports h) (serviced settings s₁ passed h))
    (hstill : Free (s₁.transports h) → Free (serviced settings s₁ passed h))
    (htransport : t.transports h = requestAll settings.encodes (serviced settings s₁ passed h)
      (handlerRequests settings s₁ passed t.gateway served h))
    (hcalm : ¬ Disturbed settings h ⟨s, action, events, t⟩)
    (hinbound : ∀ x event closing clock now, action ≠ .inbound h x event closing clock now)
    {handler : Handler} {stimulus : Stimulus} {reaction : Reaction} {events' : List (Event Digest)}
    (hhandler : s₁.gateway.handlers h = some handler) (hturn : Turn handler stimulus reaction)
    (hcause : Cause t.gateway h handler passed stimulus)
    (hafter : t.gateway.handlers h = some (settle reaction))
    (hevents : served = events' ++ closing h reaction) :
    Sim settings h t (inputs h (⟨s, action, events, t⟩ :: history)) := by
  have hgateway : s₁.gateway = s.gateway := hpasses.gateway
  have hfine := fine_of_calm hpasses hcalm hinbound hcause
  have hpassed : ∀ h' x received clock now, passed ≠ .received h' x received clock now := by
    rintro h' x received clock now rfl
    cases hcause
    exact hfine
  have hping : pingOf handler (settle reaction) = none := by
    refine pingOf_eq_none ?_
    rcases turn_heartbeat hturn with hsame | ⟨-, -, hsettle⟩
    · exact .inl hsame
    · exact .inr (by rw [hsettle])
  have hnobeat : heartbeatJob served h handler (settle reaction) = none := by
    refine heartbeatJob_eq_none ?_
    rcases turn_heartbeat hturn with hsame | ⟨-, -, hsettle⟩
    · exact .inl hsame
    · exact .inr (by rw [hsettle])
  have hinput : inputOf h ⟨s, action, events, t⟩ =
      answerTo t.gateway handler (settle reaction) := by
    rw [inputOf_runs (hgateway ▸ hhandler) hafter hpasses hpassed, hping, Option.or_none]
  rw [handlerRequests_eq hhandler hafter, hnobeat] at htransport
  simp only [Option.map_none, Option.toList_none, List.append_nil] at htransport
  have hown := (hbefore.connection h handler hhandler).own
  obtain ⟨hfree, -⟩ := free_of_cause hown htold hhandler hturn hcause
  refine ⟨?_, ?_, ?_⟩
  · rw [htransport]
    exact shared_after (hspares.shared hsim.shared) fun _ => handlerJob_fair
  · intro hnone
    cases hnone.symm.trans hafter
  · intro after hafter'
    obtain rfl := Option.some.inj (hafter.symm.trans hafter')
    rw [htransport]
    refine turn_tracks (hsim.tracks_serviced hgateway hspares hhandler) ?_ (hstill hfree) hfine
      hturn hcause hevents ?_ ?_
    · intro x hstage
      exact (hbefore.gateway.connecting h handler x hhandler hstage).1
    · intro context
      rw [run_inputs, hinput]
    · intro hsilent
      exact inputs_rest (hinput.trans hsilent)

theorem Sim.beats (hsim : Sim settings h s (inputs h history)) (hinv : FrameOrder.Inv s)
    (hbefore : FrameOrder.Inv s₁) (hpasses : Passes settings s action passed s₁)
    (hspares : Spares (s.transports h) (serviced settings s₁ passed h))
    (htransport : t.transports h = requestAll settings.encodes (serviced settings s₁ passed h)
      (handlerRequests settings s₁ passed t.gateway served h))
    (hcalm : ¬ Disturbed settings h ⟨s, action, events, t⟩) {handler after : Handler}
    {input : HeartbeatInput} (haction : passed = .heartbeat h input)
    (hhandler : s₁.gateway.handlers h = some handler) (hbeat : handler.beat input = some after)
    (hafter : t.gateway.handlers h = some after) :
    Sim settings h t (inputs h (⟨s, action, events, t⟩ :: history)) := by
  have hgateway : s₁.gateway = s.gateway := hpasses.gateway
  obtain ⟨hdevice, hsession, hstage, hstarted⟩ := beat_goes hbeat
  obtain ⟨hready, hlate⟩ := (hbefore.connection h handler hhandler).written.beating hstarted
  have hinput : inputOf h ⟨s, action, events, t⟩ = pingOf handler after := by
    have hpassed : ∀ h' x received clock now, passed ≠ .received h' x received clock now := by
      rw [haction]
      simp
    have hsilent : answerTo t.gateway handler after = none := by
      unfold answerTo
      split
      · exact if_pos hstage
      · rfl
    rw [inputOf_runs (hgateway ▸ hhandler) hafter hpasses hpassed, hsilent, Option.none_or]
  rw [handlerRequests_eq hhandler hafter, handlerJob_same hstage] at htransport
  simp only [Option.map_none, Option.toList_none, List.nil_append] at htransport
  have hbeats : Spares (s.transports h) (t.transports h) := by
    rw [htransport]
    refine hspares.trans (spares_requestAll (hspares.ok (transport_ok hinv h)) ?_)
    intro r hmem
    obtain ⟨job, hjob, rfl⟩ := Option.map_eq_some_iff.mp (Option.mem_toList.mp hmem)
    obtain ⟨message, hsend⟩ :=
      calm_sends hcalm (hspares.ok (transport_ok hinv h)) htransport hmem (by simp)
    obtain rfl : job = .send message := hsend
    exact ⟨by simp, message, rfl, heartbeatJob_other hjob⟩
  refine ⟨hbeats.shared hsim.shared, ?_, ?_⟩
  · intro hnone
    cases hnone.symm.trans hafter
  · intro after' hafter'
    obtain rfl := Option.some.inj (hafter.symm.trans hafter')
    refine beat_tracks (hsim.tracks handler (hgateway ▸ hhandler)) hbeat ?_ ?_ hbeats ?_
    · obtain ⟨message, hmem, -⟩ := hready
      have hproper := (hbefore.connection h handler hhandler).written.proper
      simp [hproper.session message hmem]
    · intro x hconnecting
      rw [hconnecting] at hlate
      exact hlate trivial
    · intro context
      rw [run_inputs, hinput]

theorem Sim.advance (hsim : Sim settings h s (inputs h history)) (hinv : FrameOrder.Inv s)
    (hpasses : Passes settings s action passed s₁) (hadvance : advance settings s₁ passed = some t)
    (hcalm : ¬ Disturbed settings h ⟨s, action, events, t⟩)
    (hinbound : ∀ x event closing clock now, action ≠ .inbound h x event closing clock now) :
    Sim settings h t (inputs h (⟨s, action, events, t⟩ :: history)) := by
  obtain ⟨hbefore, htold⟩ := hinv.passes hpasses (passes_receives hpasses hadvance)
  obtain ⟨g, served, hstep, rfl, htransports, -⟩ := advance_eq_some hadvance
  have htransport := htransports h
  have hgateway : s₁.gateway = s.gateway := hpasses.gateway
  have hservice : Spares (s₁.transports h) (serviced settings s₁ passed h) :=
    service_spares hcalm (transport_ok hbefore h) htransport
  have hspares : Spares (s.transports h) (serviced settings s₁ passed h) :=
    (passes_spares hinv hpasses hcalm hinbound).trans hservice
  rw [requestAll_append] at htransport
  cases step_local hstep h with
  | rests hsame => exact hsim.rests hgateway hspares htransport hinbound hsame
  | accepted x deviceId _ hnone hafter =>
      exact hsim.accepts hbefore hgateway hstep htransport hnone hafter
  | turns handler stimulus reaction events' hhandler hturn hcause hafter hevents =>
      exact hsim.turns hbefore htold hpasses hspares hservice.free htransport hcalm hinbound
        hhandler hturn hcause hafter hevents
  | beats handler after input haction hhandler hbeat hafter =>
      exact hsim.beats hinv hbefore hpasses hspares htransport hcalm haction hhandler hbeat hafter

end Advance

theorem Tracks.evolves {t t' : Transport} {j : Nat} {task : Task}
    (htracks : Tracks settings handler t fed) (hown : OwnTasks (Matches handler.stage) t)
    (hshared : Shared t) (htask : t.tasks j = some task) (hwriter : task.writer = .handler)
    (hevolves : Evolves t j task t') : Tracks settings handler t' fed := by
  obtain ⟨writer, job, progress⟩ := task
  obtain rfl : writer = .handler := hwriter
  obtain ⟨hmatches, -⟩ := hown j _ htask rfl
  have hfair := hshared j _ htask
  constructor
  · intro hstays
    have hopen := htracks.opened hstays
    cases hevolves with
    | settles _ _ _ _ _ hclosed => exact hclosed.trans hopen
    | sends _ _ _ _ _ _ hclosed => exact hclosed.trans hopen
    | closes code reason hjob =>
        obtain rfl : job = _ := hjob
        exfalso
        cases hstage : handler.stage with
        | closing => exact hstays (by rw [hstage]; trivial)
        | _ =>
            rw [hstage] at hmatches
            exact hmatches
  · exact htracks.nameless
  · intro x hstage
    rw [hstage] at hmatches
    exact hmatches.elim
  · intro sessionId hsession
    obtain ⟨hcorresponds, closes, hasked, hcloses⟩ := htracks.follows sessionId hsession
    exact ⟨hcorresponds, closes, hasked.proceeds hown htask hfair hevolves, hcloses⟩

theorem Sim.quiet (hsim : Sim settings h s (inputs h history)) (hinv : FrameOrder.Inv s)
    (hquiet : Quiet settings s action t) (hcalm : ¬ Disturbed settings h ⟨s, action, events, t⟩) :
    Sim settings h t (inputs h (⟨s, action, events, t⟩ :: history)) := by
  have hgateway := hquiet.gateway
  have hinput : inputOf h ⟨s, action, events, t⟩ = none := by
    refine inputOf_rest (congrArg (fun g => g.handlers h) hgateway) ?_
    rintro x event closing clock now rfl
    cases hquiet with
    | evolves _ _ _ _ _ hmoves => cases hmoves
  rw [inputs_rest hinput]
  have same (hsame : t.transports h = s.transports h) :
      Sim settings h t (inputs h history) := by
    refine ⟨hsame ▸ hsim.shared, fun hnone => hsim.unfed (hgateway ▸ hnone), ?_⟩
    intro handler hhandler
    rw [hsame]
    exact hsim.tracks handler (hgateway ▸ hhandler)
  have spares (hspares : Spares (s.transports h) (t.transports h)) :
      Sim settings h t (inputs h history) := by
    refine ⟨hspares.shared hsim.shared, fun hnone => hsim.unfed (hgateway ▸ hnone), ?_⟩
    intro handler hhandler
    exact (hsim.tracks handler (hgateway ▸ hhandler)).spares hspares
  cases hquiet with
  | evolves _ h' j task t' hmoves htask hevolves hok =>
      by_cases hne : h = h'
      · subst hne
        by_cases hwriter : task.writer = .handler
        · refine ⟨?_, fun hnone => hsim.unfed (hgateway ▸ hnone), ?_⟩
          · rw [setTransport_self]
            exact hsim.shared.evolves (hsim.shared j task htask) hevolves
          · intro handler hhandler
            rw [setTransport_self]
            have hown := (hinv.connection h handler hhandler).own
            exact (hsim.tracks handler hhandler).evolves hown hsim.shared htask hwriter hevolves
        · refine spares ?_
          rw [setTransport_self]
          obtain ⟨writer, job, progress⟩ := task
          obtain ⟨message, rfl, hother⟩ := fair_other (hsim.shared j _ htask) hwriter
          refine spares_of_evolves hwriter hother ?_ hevolves hok
          intro job' progress' htask'
          rw [htask] at htask'
          cases htask'
          exact hwriter rfl
      · exact same (setTransport_of_ne _ hne)
  | ends h' j now writer job failure htask =>
      by_cases hne : h = h'
      · subst hne
        refine spares ?_
        rw [setTransport_self]
        by_cases hwriter : writer = .handler
        · subst hwriter
          cases failure with
          | none =>
              obtain ⟨handler, hhandler⟩ := hinv.handler_of_task htask
              exact spares_returns (hinv.connection h handler hhandler).own htask
          | some error => exact absurd (.failed j now job error rfl htask) hcalm
        · exact spares_clear htask hwriter
      · exact same (setTransport_of_ne _ hne)
  | begins h' job gathered heq =>
      by_cases hne : h = h'
      · subst hne
        obtain ⟨-, code, reason, hjob⟩ := hinv.gathered (h, job) (heq ▸ List.mem_cons_self)
        obtain rfl : job = .close code reason := hjob
        have hmem : ((.shutdown, .close code reason) : Writer × Job) ∈
            [(.shutdown, .close code reason)] := List.mem_singleton_self _
        obtain ⟨message, hsend⟩ := calm_sends hcalm (transport_ok hinv h) (setTransport_self _ _ _)
          hmem (by simp)
        cases hsend
      · exact same (setTransport_of_ne _ hne)
  | cancelsNext => exact same rfl

theorem received_keeps {x : Nat} {received : Received} {clock : Datetime} {now : AwareDatetime}
    {g g' : Operations.State config} {after : Handler}
    (hstep : Operations.step g (.received h x received clock now) = some (g', served))
    (hhandler : g.handlers h = some handler) (hafter : g'.handlers h = some after)
    (hconnected : ∀ x, handler.stage ≠ .connecting x) :
    after.deviceId = handler.deviceId ∧ after.sessionId = handler.sessionId ∧
      ∀ x, after.stage ≠ .connecting x := by
  cases step_local hstep h with
  | rests hsame =>
      obtain rfl := Option.some.inj (hafter.symm.trans (hsame.trans hhandler))
      exact ⟨rfl, rfl, hconnected⟩
  | accepted _ _ haction => cases haction
  | turns before stimulus reaction events' hbefore hturn _ hsettled =>
      obtain rfl := Option.some.inj (hhandler.symm.trans hbefore)
      obtain rfl := Option.some.inj (hafter.symm.trans hsettled)
      have hadvances := Turn.advances hturn
      exact ⟨hadvances.deviceId, hadvances.sessionId hconnected, turn_connected hturn⟩
  | beats _ _ _ haction => cases haction

theorem inbound_takes (hsim : Sim settings h s fed) {x : Nat}
    {event : Inbound} {closing : Option Raised} {clock : Datetime} {now : AwareDatetime}
    {sessionId : UUID} (hhandler : s.gateway.handlers h = some handler)
    (hsession : handler.sessionId = some sessionId)
    (hclosing : event.refusal settings ≠ none → closing = none)
    (hstep : Operations.step s.gateway
      (.received h x (receiveMessage settings event closing) clock now) = some (g, served)) :
    Takes settings s.gateway (.received h x (receiveMessage settings event closing) clock now) h x
      handler sessionId now (event.refusal settings).toList g served
      ((run ⟨settings, handler.deviceId, sessionId⟩ fed).machine.step
        ⟨settings, handler.deviceId, sessionId⟩ (.frame event clock fun result =>
          (resolve s.gateway.service.manager handler.deviceId sessionId result).2)) := by
  obtain ⟨handler', hhandler', hreceive⟩ := Effects.onHandler_eq_some hstep
  obtain rfl := Option.some.inj (hhandler.symm.trans hhandler')
  exact receive_takes hsession ((hsim.tracks handler hhandler).follows sessionId hsession).corresponds
    hclosing hreceive

theorem receives_session (hsim : Sim settings h s fed) {x : Nat} {received : Received}
    {clock : Datetime} {now : AwareDatetime}
    (hstep : Operations.step s.gateway (.received h x received clock now) = some (g, served)) :
    ∃ handler sessionId, s.gateway.handlers h = some handler ∧
      handler.sessionId = some sessionId ∧
      (handler.stage = .receivingHello ∨ handler.stage = .receiving) := by
  obtain ⟨handler, hhandler, hreceive⟩ := Effects.onHandler_eq_some hstep
  have hstage : handler.stage = .receivingHello ∨ handler.stage = .receiving := by
    cases hstage : handler.stage with
    | receivingHello => exact .inl rfl
    | receiving => exact .inr rfl
    | connecting | sendingHello | activating | sendingReady | replying | reporting | closing
    | awaitingHeartbeat | finished => simp [Operations.receive, hstage] at hreceive
  cases hsession : handler.sessionId with
  | some sessionId => exact ⟨handler, sessionId, hhandler, hsession, hstage⟩
  | none =>
      obtain ⟨hnameless, -⟩ := (hsim.tracks handler hhandler).nameless hsession
      rcases hstage with hstage | hstage
      · rw [hstage] at hnameless
        exact hnameless.elim
      · rw [hstage] at hnameless
        exact hnameless.elim

theorem Sim.inbound (hsim : Sim settings h s (inputs h history)) (hinv : FrameOrder.Inv s)
    {x : Nat} {event : Inbound} {closing : Option Raised} {clock : Datetime} {now : AwareDatetime}
    (hstep : step settings s (.inbound h x event closing clock now) = some t)
    (hcalm : ¬ Disturbed settings h ⟨s, .inbound h x event closing clock now, events, t⟩) :
    Sim settings h t (inputs h (⟨s, .inbound h x event closing clock now, events, t⟩ :: history)) := by
  obtain ⟨g, served, hgateway, rfl, htransports, -⟩ := advance_eq_some hstep
  have htransport := htransports h
  have hfirst : Operations.step s.gateway
      (.received h x (receiveMessage settings event closing) clock now) =
      some (t.gateway, served) := hgateway
  obtain ⟨handler, sessionId, hhandler, hsession, hstage⟩ := receives_session hsim hfirst
  have hconnected : ∀ x, handler.stage ≠ .connecting x := by
    intro x hconnecting
    rcases hstage with hstage | hstage
    all_goals cases hstage.symm.trans hconnecting
  have hclosing : event.refusal settings ≠ none → closing = none := by
    intro hrefused
    cases closing with
    | none => rfl
    | some error => exact absurd (.unclosed x event error clock now rfl hrefused) hcalm
  obtain ⟨⟨after, hafter, hheartbeat, hagrees⟩, -⟩ :=
    inbound_takes hsim hhandler hsession hclosing hfirst
  obtain ⟨hdevice, hkept, hnew⟩ := received_keeps hfirst hhandler hafter hconnected
  have htracks := hsim.tracks handler hhandler
  have hopen : (s.transports h).closed = false := by
    refine htracks.opened ?_
    rcases hstage with hstage | hstage
    · rw [hstage]
      exact id
    · rw [hstage]
      exact id
  have hfree : Free (s.transports h) := by
    refine (hinv.connection h handler hhandler).own.free fun job hmatches => ?_
    rcases hstage with hstage | hstage
    · rw [hstage] at hmatches
      exact hmatches
    · rw [hstage] at hmatches
      exact hmatches
  have hinput : inputOf h ⟨s, .inbound h x event closing clock now, events, t⟩ =
      some (.frame event clock fun result =>
        (resolve s.gateway.service.manager handler.deviceId sessionId result).2) := by
    simp [inputOf, hhandler, hafter, hsession]
  have hnobeat : heartbeatJob served h handler after = none :=
    heartbeatJob_eq_none (.inl hheartbeat)
  let refused : State config := s.setTransport h { s.transports h with
    closes := (s.transports h).closes ++ (event.refusal settings).toList }
  have hrequests : serviceRequests refused
      (.received h x (receiveMessage settings event closing) clock now) h = [] := rfl
  have hhandler' : refused.gateway.handlers h = some handler := hhandler
  rw [hrequests, List.nil_append, handlerRequests_eq hhandler' hafter, hnobeat, setTransport_self]
    at htransport
  simp only [Option.map_none, Option.toList_none, List.append_nil] at htransport
  refine ⟨?_, ?_, ?_⟩
  · rw [htransport]
    exact shared_after hsim.shared fun _ => handlerJob_fair
  · intro hnone
    cases hnone.symm.trans hafter
  · intro after' hafter'
    obtain rfl := Option.some.inj (hafter.symm.trans hafter')
    rw [htransport]
    constructor
    · intro hstays
      exact closed_after hopen (handlerJob_sends hstays)
    · intro hnone
      cases (hkept.trans hsession).symm.trans hnone
    · intro y hconnecting
      exact absurd hconnecting (hnew y)
    · intro sessionId' hsession'
      obtain rfl : sessionId' = sessionId :=
        Option.some.inj (hsession'.symm.trans (hkept.trans hsession))
      refine follows_agrees _ ?_ hdevice (htracks.follows _ hsession).asked hfree
        (fun _ => hopen) hagrees
      rw [run_inputs, hinput]
      rfl

theorem Sim.step (hsim : Sim settings h s (inputs h history)) (hinv : FrameOrder.Inv s)
    (hstep : step settings s action = some t)
    (hcalm : ¬ Disturbed settings h ⟨s, action, events, t⟩) :
    Sim settings h t (inputs h (⟨s, action, events, t⟩ :: history)) := by
  by_cases hinbound : ∃ x event closing clock now, action = .inbound h x event closing clock now
  · obtain ⟨x, event, closing, clock, now, rfl⟩ := hinbound
    exact hsim.inbound hinv hstep hcalm
  · have hother : ∀ x event closing clock now, action ≠ .inbound h x event closing clock now :=
      fun x event closing clock now heq => hinbound ⟨x, event, closing, clock, now, heq⟩
    rcases step_cases hstep with ⟨passed, s₁, hpasses, hadvance⟩ | hquiet
    · exact hsim.advance hinv hpasses hadvance hcalm hother
    · exact hsim.quiet hinv hquiet hcalm

theorem sim_of_run (hrun : Run (wire config settings) (.initial config) history s)
    (hcalm : ∀ u ∈ history, ¬ Disturbed settings h u) : Sim settings h s (inputs h history) := by
  induction hrun with
  | nil => exact sim_initial settings h
  | step action events t hprev hfire ih =>
      have hbefore := ih fun u hu => hcalm u (List.mem_cons_of_mem _ hu)
      exact hbefore.step (inv_of_run hprev) (wire_step hfire) (hcalm _ List.mem_cons_self)

end Steps

end JarvisCore.Gateway.ReferenceRuns
