import JarvisCore.Gateway.FrameOrder

namespace JarvisCore.Gateway.CloseCodes

open JarvisCore.Domain.Values
open JarvisCore.Domain.Errors
open JarvisCore.Domain.Models
open JarvisCore.Foundation.TransitionSystem
open JarvisCore.Service.Operations (Config Event)
open JarvisCore.Gateway.Handlers
open JarvisCore.Gateway.Effects (beat_goes)
open JarvisCore.Gateway.Turns
open JarvisCore.Gateway.Sessions
open JarvisCore.Gateway.Transports
open JarvisCore.Gateway.Transports.Transport (Evolves request_evolves)
open JarvisCore.Gateway.Frames
open JarvisCore.Gateway.Wire
open JarvisCore.Gateway.WireSteps
open JarvisCore.Gateway.FrameOrder

variable {Digest : Type} {config : Config Digest}

def Coded : Job → Prop
  | .close code _ => code ∈ protocolCloseCodes
  | .send _ => True

def Reached : Progress → Prop
  | .active | .done none => True
  | .done (some error) => error ≠ .cancelled
  | .queued _ => False

/-- What the calls of `websocket.close` owe to the jobs of a transport. -/
structure Recorded (t : Transport) : Prop where
  closes : ∀ code ∈ t.closes, code ∈ protocolCloseCodes
  jobs : ∀ j task, t.tasks j = some task → Coded task.job
  closed : t.closed = true → t.closes ≠ []
  reached : ∀ j writer code reason progress,
    t.tasks j = some ⟨writer, .close code reason, progress⟩ → Reached progress → t.closes ≠ []

structure Codes (s : State config) : Prop where
  transports : ∀ h, Recorded (s.transports h)
  gathered : ∀ r ∈ s.gathered, Coded r.2

def Left : Handlers.Stage → Prop
  | .awaitingHeartbeat | .finished => True
  | _ => False

/-- Where a handler without a session may be. -/
def Nameless : Handlers.Stage → Prop
  | .connecting _ | .closing false | .awaitingHeartbeat | .finished => True
  | _ => False

def raisedBy : Stimulus → Option Raised
  | .answered (.error error) => some error
  | .sent failure | .closed failure => failure
  | .received _ (.raised error) _ _ => some error
  | _ => none

/-- What handler `h` is told in a step of the process. -/
def Tells (settings : Settings) (h : Nat) (handler : Handler) (stimulus : Stimulus)
    (u : Step config) : Prop :=
  ∃ action s, Passes settings u.source u.action action s ∧
    u.source.gateway.handlers h = some handler ∧ Cause u.target.gateway h handler action stimulus

/-- The peer disconnects, or the task of the handler is cancelled, before the socket is
closed. -/
def Interrupted (settings : Settings) (h : Nat) (u : Step config) : Prop :=
  ∃ handler stimulus, Tells settings h handler stimulus u ∧
    (raisedBy stimulus = some .disconnected ∨ raisedBy stimulus = some .cancelled) ∧
    (u.source.transports h).closes = []

/-- The errors that the gateway takes for a fault of the Agent. -/
def Refusal : Raised → Prop
  | .device _ | .valueError _ => True
  | _ => False

def Refused (settings : Settings) (h : Nat) (u : Step config) : Prop :=
  ∃ handler x error, Tells settings h handler (.answered (.error error)) u ∧
    handler.stage = .connecting x ∧ Refusal error

/-- In an `except` clause, `protocol.error` cannot be sent, and the socket is still open. -/
def Unreported (settings : Settings) (h : Nat) (u : Step config) : Prop :=
  ∃ handler error, Tells settings h handler (.sent (some error)) u ∧
    handler.stage = .reporting false ∧ ¬ Suppressed (some error) ∧
    (u.source.transports h).closes = []

section Transports

variable {encodes : DeviceCommand → Bool} {t t' : Transport} {j : Nat} {task : Task}

theorem recorded_fresh : Recorded Transport.fresh where
  closes code h := by cases h
  jobs j task h := by cases h
  closed h := by cases h
  reached j writer code reason progress h := by cases h

theorem Recorded.evolves (h : Recorded t) (hcoded : Coded task.job)
    (hreached : ∀ code reason, task.job = .close code reason → Reached task.progress →
      t.closes ≠ []) (hevolves : Evolves t j task t') : Recorded t' := by
  obtain ⟨writer₀, job₀, progress₀⟩ := task
  have hstays := stays_of_evolves hevolves
  obtain ⟨progress, htasks⟩ := evolves_tasks hevolves
  have hjobs : ∀ i task', t'.tasks i = some task' → Coded task'.job := by
    intro i task' hi
    rcases tasks_of_update htasks hi with ⟨-, rfl⟩ | ⟨-, hold⟩
    · exact hcoded
    · exact h.jobs i task' hold
  cases hevolves with
  | settles progress hsettles htasks hframes hcloses hclosed =>
      refine ⟨hcloses ▸ h.closes, hjobs, fun hc => hcloses ▸ h.closed (hclosed ▸ hc), ?_⟩
      intro i writer code reason progress' hi hprogress
      refine hstays.closes_ne_nil ?_
      rcases tasks_of_update htasks hi with ⟨-, heq⟩ | ⟨-, hold⟩
      · cases heq
        cases hsettles with
        | queued => exact hprogress.elim
        | cancelled => exact absurd rfl hprogress
        | ended _ hactive =>
            obtain rfl : progress₀ = _ := hactive
            exact hreached code reason rfl trivial
        | refused _ _ hjob => cases hjob
        | invalid _ _ _ hjob => cases hjob
        | closedBefore _ _ _ hc => exact h.closed hc
      · exact h.reached i writer code reason progress' hold hprogress
  | sends message hjob hopen htasks hframes hcloses hclosed =>
      refine ⟨hcloses ▸ h.closes, hjobs, fun hc => hcloses ▸ h.closed (hclosed ▸ hc), ?_⟩
      intro i writer code reason progress' hi hprogress
      refine hstays.closes_ne_nil ?_
      rcases tasks_of_update htasks hi with ⟨-, heq⟩ | ⟨-, hold⟩
      · obtain rfl : job₀ = _ := hjob
        cases heq
      · exact h.reached i writer code reason progress' hold hprogress
  | closes code reason hjob hopen htasks hframes hcloses hclosed =>
      have hne : t'.closes ≠ [] := by simp [hcloses]
      refine ⟨?_, hjobs, fun _ => hne, fun _ _ _ _ _ _ _ => hne⟩
      intro code' hmem
      rw [hcloses] at hmem
      rcases List.mem_append.mp hmem with hold | hlast
      · exact h.closes code' hold
      · obtain rfl := List.mem_singleton.mp hlast
        obtain rfl : job₀ = _ := hjob
        exact hcoded

theorem Recorded.request (h : Recorded t) (writer : Writer) {job : Job} (hcoded : Coded job) :
    Recorded (t.request encodes writer job) := by
  have hevolves : Evolves t _ _ (t.request encodes writer job) := request_evolves writer job
  refine h.evolves hcoded ?_ hevolves
  intro code reason _ hreached
  exact False.elim hreached

theorem Recorded.existing (h : Recorded t) (htask : t.tasks j = some task)
    (hevolves : Evolves t j task t') : Recorded t' := by
  refine h.evolves (h.jobs j task htask) ?_ hevolves
  rintro code reason hjob hreached
  obtain ⟨writer, job, progress⟩ := task
  obtain rfl : job = _ := hjob
  exact h.reached j writer code reason progress htask hreached

theorem Recorded.clear (h : Recorded t) (j : Nat) : Recorded (t.clear j) where
  closes := h.closes
  jobs i task hi := h.jobs i task (clear_tasks hi).2
  closed := h.closed
  reached i writer code reason progress hi :=
    h.reached i writer code reason progress (clear_tasks hi).2

theorem Recorded.refuses (h : Recorded t) {codes : List Nat}
    (hcodes : ∀ code ∈ codes, code ∈ protocolCloseCodes) :
    Recorded { t with closes := t.closes ++ codes } where
  closes code hmem := (List.mem_append.mp hmem).elim (h.closes code) (hcodes code)
  jobs := h.jobs
  closed hclosed := List.append_ne_nil_of_left_ne_nil (h.closed hclosed) _
  reached i writer code reason progress hi hreached :=
    List.append_ne_nil_of_left_ne_nil (h.reached i writer code reason progress hi hreached) _

theorem refusal_coded (settings : Settings) (event : Inbound) :
    ∀ code ∈ (event.refusal settings).toList, code ∈ protocolCloseCodes := by
  intro code hmem
  have hrefusal := Option.mem_toList.mp hmem
  cases event with
  | text raw =>
      simp only [Inbound.refusal, Option.ite_none_right_eq_some] at hrefusal
      obtain ⟨-, heq⟩ := hrefusal
      cases heq
      decide
  | binary =>
      cases hrefusal
      decide
  | disconnect => cases hrefusal

end Transports

section Jobs

variable {settings : Settings} {handler before after : Handler} {stimulus : Stimulus}
  {reaction : Reaction} {events served : List (Event Digest)} {h : Nat} {job : Job}

theorem turn_closing {inBody : Bool} (hturn : Turn handler stimulus reaction)
    (hclosing : (settle reaction).stage = .closing inBody)
    (hnew : (settle reaction).stage ≠ handler.stage) :
    ∃ after code reason, reaction = .close after code reason ∧ code ∈ protocolCloseCodes := by
  have leave (handler : Handler) : (settle (.leave handler)).stage ≠ .closing inBody := by
    simp only [settle]
    split
    · simp
    · simp
  cases hturn with
  | reported | timedOut => exact ⟨_, _, _, rfl, by decide⟩
  | raises _ seenIds error =>
      cases error with
      | disconnected | cancelled => exact absurd hclosing (leave _)
      | typeError | runtimeError | foreign => exact ⟨_, _, _, rfl, by decide⟩
      | device | valueError =>
          simp only [Handler.except] at hclosing
          split at hclosing
          · cases hclosing
          · exact absurd hclosing (leave _)
  | departs => exact absurd hclosing (leave _)
  | pongs => exact absurd rfl hnew
  | connected | greeted | readied | replied | greets | demandsHello | updates => cases hclosing
  | activated _ first =>
      cases first with
      | true | false => cases hclosing
  | passesOn _ _ _ resolved =>
      cases resolved with
      | true | false => cases hclosing

theorem closeRequest_append (h code : Nat) (reason : String) (served : List (Event Digest)) :
    closeRequest h (served ++ [.transport (.close h code reason)]) = some (.close code reason) := by
  simp [closeRequest]

theorem closeRequest_closing {after : Handler} {code : Nat} {reason : String} :
    closeRequest h (served ++ closing h (.close after code reason)) = some (.close code reason) :=
  closeRequest_append h code reason served

theorem handlerJob_coded {g : Operations.State config} {action : Operations.Action config}
    (hturn : Turn before stimulus reaction)
    (hjob : handlerJob settings g action (served ++ closing h reaction) h before (settle reaction) =
      some job) : Coded job := by
  unfold handlerJob at hjob
  split at hjob
  · cases hjob
  · rename_i hnew
    split at hjob
    · rename_i inBody hclosing
      obtain ⟨after, code, reason, rfl, hcode⟩ := turn_closing hturn hclosing hnew
      rw [closeRequest_closing] at hjob
      cases hjob
      exact hcode
    · split at hjob
      · cases hjob
        trivial
      · cases hjob

theorem beat_closing {input : HeartbeatInput} (hbeat : before.beat input = some after)
    (hbefore : before.heartbeat = some .awaitingPong) (hafter : after.heartbeat = some .closing) :
    input = .timedOut := by
  cases input with
  | timedOut => rfl
  | wakes | sent | closed => simp [Handler.beat, hbefore] at hbeat
  | answered =>
      cases hjoining : decide (before.stage = .awaitingHeartbeat) with
      | true => simp [Handler.beat, hbefore, hjoining] at hbeat
      | false =>
          simp only [Handler.beat, hbefore, hjoining] at hbeat
          split at hbeat
          · cases hbeat
            cases hafter
          · cases hbeat
  | cancelled =>
      simp only [Handler.beat, hbefore] at hbeat
      cases hbeat
      cases hafter

end Jobs

variable [DecidableEq Digest]

section Steps

variable {settings : Settings} {s t : State config} {h : Nat} {handler : Handler}

omit [DecidableEq Digest] in
theorem heartbeatJob_coded {before after : Handler} {events : List (Event Digest)} {job : Job}
    {input : HeartbeatInput} (hbeat : before.beat input = some after)
    (htimedOut : input = .timedOut →
      events = [.transport (.close h 4408 "Heartbeat timed out")])
    (hjob : heartbeatJob events h before after = some job) : Coded job := by
  unfold heartbeatJob at hjob
  split at hjob
  · cases hjob
    trivial
  · rename_i hbefore hafter
    rw [htimedOut (beat_closing hbeat hbefore hafter)] at hjob
    have hclose : closeRequest h ([] ++ [.transport (.close h 4408 "Heartbeat timed out")]) =
        some (.close 4408 "Heartbeat timed out") :=
      closeRequest_append h 4408 "Heartbeat timed out" ([] : List (Event Digest))
    rw [List.nil_append] at hclose
    obtain rfl := Option.some.inj (hclose.symm.trans hjob)
    show 4408 ∈ protocolCloseCodes
    decide
  · cases hjob

theorem served_coded {inner : Service.Operations.Action config} {s₁ : Operations.State config}
    {served : List (Event Digest)} {code : Nat} {reason : String}
    (hserve : Operations.serve s.gateway inner = some (s₁, served))
    (hclose : .transport (.close h code reason) ∈ served) : code ∈ protocolCloseCodes := by
  rcases Service.CallSteps.step_closeCode (serve_step hserve) hclose with rfl | rfl | rfl
  all_goals decide

theorem requests_coded {action : Operations.Action config} {g : Operations.State config}
    {events : List (Event Digest)} (hstep : Operations.step s.gateway action = some (g, events)) :
    ∀ r ∈ serviceRequests s action h ++ handlerRequests settings s action g events h,
      Coded r.2 := by
  intro r hmem
  rcases List.mem_append.mp hmem with hservice | hown
  · cases serviceJob_of_mem hservice with
    | sends => trivial
    | closes inner s₁ served code reason _ _ hserve hclose => exact served_coded hserve hclose
  · cases step_local hstep h with
    | rests hsame =>
        rw [handlerRequests_rest hsame] at hown
        cases hown
    | accepted x deviceId _ hnone =>
        rw [handlerRequests_idle hnone] at hown
        cases hown
    | turns handler stimulus reaction served hhandler hturn _ hafter hevents =>
        rw [handlerRequests_eq hhandler hafter] at hown
        rcases List.mem_append.mp hown with hown | hown
        · obtain ⟨job, hjob, rfl⟩ := Option.map_eq_some_iff.mp (Option.mem_toList.mp hown)
          subst hevents
          exact handlerJob_coded hturn hjob
        · obtain ⟨job, hjob, rfl⟩ := Option.map_eq_some_iff.mp (Option.mem_toList.mp hown)
          rw [heartbeatJob_eq_none] at hjob
          · cases hjob
          · rcases turn_heartbeat hturn with hsame | ⟨-, -, hsettle⟩
            · exact .inl hsame
            · exact .inr (by rw [hsettle])
    | beats handler handler' input _ hhandler hbeat hafter htimedOut =>
        rw [handlerRequests_eq hhandler hafter] at hown
        rcases List.mem_append.mp hown with hown | hown
        · obtain ⟨job, hjob, rfl⟩ := Option.map_eq_some_iff.mp (Option.mem_toList.mp hown)
          have hstage : handler'.stage = handler.stage := (beat_goes hbeat).2.2.1
          simp [handlerJob, hstage] at hjob
        · obtain ⟨job, hjob, rfl⟩ := Option.map_eq_some_iff.mp (Option.mem_toList.mp hown)
          exact heartbeatJob_coded hbeat htimedOut hjob

theorem Codes.advance {action : Operations.Action config} (hcodes : Codes s)
    (hadvance : advance settings s action = some t) : Codes t := by
  obtain ⟨g, events, hstep, -, htransports, hgathered⟩ := advance_eq_some hadvance
  constructor
  · intro h
    rw [htransports]
    have hcoded : ∀ r ∈ serviceRequests s action h ++ handlerRequests settings s action g events h,
        Coded r.2 := requests_coded hstep
    exact requestAll_rule (hcodes.transports h) fun t r hmem hrecorded =>
      hrecorded.request r.1 (hcoded r hmem)
  · intro r hmem
    rw [hgathered] at hmem
    rcases List.mem_append.mp hmem with hold | hnew
    · exact hcodes.gathered r hold
    · obtain ⟨s₁, served, code, reason, -, hserve, hclose, hjob⟩ := mem_gather hnew
      rw [hjob]
      exact served_coded hserve hclose

omit [DecidableEq Digest] in
theorem Codes.setTransport {t : Transport} (hcodes : Codes s) (hrecorded : Recorded t) :
    Codes (s.setTransport h t) where
  transports := setTransport_rule (P := fun _ => Recorded) hcodes.transports hrecorded
  gathered := hcodes.gathered

omit [DecidableEq Digest] in
theorem Codes.passes {action : Action config} {passed : Operations.Action config}
    (hcodes : Codes s) (hpasses : Passes settings s action passed t) : Codes t := by
  cases hpasses with
  | internal => exact hcodes
  | inbound h x event =>
      exact hcodes.setTransport ((hcodes.transports h).refuses (refusal_coded settings event))
  | returned h j => exact hcodes.setTransport ((hcodes.transports h).clear j)

omit [DecidableEq Digest] in
theorem Codes.ungather {r : Nat × Job} {gathered : List (Nat × Job)} (hcodes : Codes s)
    (heq : s.gathered = r :: gathered) : Codes { s with gathered } :=
  ⟨hcodes.transports, fun r hmem => hcodes.gathered r (heq ▸ List.mem_cons_of_mem _ hmem)⟩

theorem Codes.step {action : Action config} (hcodes : Codes s)
    (hstep : step settings s action = some t) : Codes t := by
  rcases step_cases hstep with ⟨passed, s₁, hpasses, hadvance⟩ | hquiet
  · exact (hcodes.passes hpasses).advance hadvance
  · cases hquiet with
    | evolves _ h j task t _ htask hevolves _ =>
        exact hcodes.setTransport ((hcodes.transports h).existing htask hevolves)
    | ends h j => exact hcodes.setTransport ((hcodes.transports h).clear j)
    | begins h job gathered heq =>
        have hcoded : Coded job := hcodes.gathered (h, job) (heq ▸ List.mem_cons_self)
        have hrest : Codes { s with gathered } := hcodes.ungather heq
        exact hrest.setTransport ((hcodes.transports h).request .shutdown hcoded)
    | cancelsNext r gathered heq => exact hcodes.ungather heq

end Steps

section Endings

variable {settings : Settings} {s t : State config} {h : Nat} {handler : Handler}
  {stimulus : Stimulus} {reaction : Reaction}

/-- A handler that is over, or waits for its heartbeat task, has its socket closed. -/
structure Settled (s : State config) (h : Nat) : Prop where
  closes : ∀ handler, s.gateway.handlers h = some handler → Left handler.stage →
    (s.transports h).closes ≠ []
  nameless : ∀ handler, s.gateway.handlers h = some handler → handler.sessionId = none →
    Nameless handler.stage

/-- What the handler raises it has been told, or it is a fault of a message of its session. -/
theorem raises_told {seenIds : SeenIds} {error : Raised}
    (hraises : Raises handler stimulus seenIds error) :
    raisedBy stimulus = some error ∨ Refusal error ∧ handler.sessionId ≠ none := by
  cases hraises with
  | answered | sending | reporting | closing | receiving => exact .inl rfl
  | refused _ _ _ _ sessionId text _ hsession => exact .inr ⟨trivial, by simp [hsession]⟩
  | misplaced _ _ _ _ sessionId seenIds text _ hsession => exact .inr ⟨trivial, by simp [hsession]⟩

/-- An error takes a handler out of the `try` statement at once only if it ends the task or
there is no session to report it in. -/
theorem except_left {h : Handler} {error : Raised} (hleft : Left (settle (h.except error)).stage) :
    error = .disconnected ∨ error = .cancelled ∨ Refusal error ∧ h.sessionId = none := by
  cases error with
  | disconnected => exact .inl rfl
  | cancelled => exact .inr (.inl rfl)
  | typeError | runtimeError | foreign => exact hleft.elim
  | device | valueError =>
      refine .inr (.inr ⟨trivial, ?_⟩)
      cases hsession : h.sessionId with
      | none => rfl
      | some sessionId =>
          simp only [Handler.except, hsession] at hleft
          exact hleft.elim

theorem turn_left (hturn : Turn handler stimulus reaction) (hleft : Left (settle reaction).stage) :
    Departs handler stimulus ∨ ∃ seenIds error, Raises handler stimulus seenIds error ∧
      (error = .disconnected ∨ error = .cancelled ∨
        Refusal error ∧ handler.sessionId = none) := by
  cases hturn with
  | departs _ hdeparts => exact .inl hdeparts
  | raises _ seenIds error hraises =>
      have hexcept := except_left (h := { handler with seenIds }) hleft
      exact .inr ⟨seenIds, error, hraises, hexcept⟩
  | connected | greeted | readied | replied | reported | timedOut | greets | demandsHello
  | updates => exact hleft.elim
  | activated _ first =>
      cases first with
      | true | false => exact hleft.elim
  | pongs _ _ _ _ _ _ _ hstage =>
      have hreceiving : Left handler.stage := hleft
      rw [hstage] at hreceiving
      exact hreceiving.elim
  | passesOn _ _ _ resolved =>
      cases resolved with
      | true | false => exact hleft.elim

theorem raises_nameless {seenIds : SeenIds} {error : Raised}
    (hraises : Raises handler stimulus seenIds error) (hnameless : Nameless handler.stage) :
    ∃ x, handler.stage = .connecting x ∧ stimulus = .answered (.error error) := by
  cases hraises with
  | answered x _ hawaits =>
      cases hstage : handler.stage with
      | connecting y => exact ⟨y, rfl, rfl⟩
      | activating y first =>
          rw [hstage] at hnameless
          exact hnameless.elim
      | _ =>
          rw [hstage] at hawaits
          cases hawaits
  | sending _ hstage =>
      rcases hstage with hstage | hstage | hstage
      all_goals
        rw [hstage] at hnameless
        exact hnameless.elim
  | reporting _ hstage | closing _ hstage =>
      rw [hstage] at hnameless
      exact hnameless.elim
  | receiving _ _ _ _ hstage =>
      rcases hstage with hstage | hstage
      all_goals
        rw [hstage] at hnameless
        exact hnameless.elim
  | refused _ _ _ _ _ _ hstage =>
      rcases hstage with ⟨hstage, -⟩ | hstage
      all_goals
        rw [hstage] at hnameless
        exact hnameless.elim
  | misplaced _ _ _ _ _ _ _ hstage =>
      rw [hstage] at hnameless
      exact hnameless.elim

omit [DecidableEq Digest] in
theorem passes_returned {action : Action config} {passed : Operations.Action config}
    {failure : Option Raised} (hpasses : Passes settings s action passed t)
    (hpassed : passed = .sent h failure ∨ passed = .closed h failure) :
    ∃ j job, (s.transports h).tasks j = some ⟨.handler, job, .done failure⟩ ∧
      ((∃ message, job = .send message ∧ passed = .sent h failure) ∨
        ∃ code reason, job = .close code reason ∧ passed = .closed h failure) := by
  cases hpasses with
  | internal action hdirect =>
      rcases hpassed with rfl | rfl
      all_goals cases hdirect
  | inbound => simp at hpassed
  | returned h' j now writer job failure' action htask hcontinuation =>
      unfold continuation at hcontinuation
      split at hcontinuation
      · cases hcontinuation
        rcases hpassed with heq | heq
        · cases heq
          exact ⟨j, _, htask, .inl ⟨_, rfl, rfl⟩⟩
        · cases heq
      · cases hcontinuation
        rcases hpassed with heq | heq
        · cases heq
        · cases heq
          exact ⟨j, _, htask, .inr ⟨_, _, rfl, rfl⟩⟩
      all_goals
        cases hcontinuation
        try simp at hpassed

omit [DecidableEq Digest] in
theorem passes_closed {action : Action config} {failure : Option Raised} (hcodes : Codes s)
    (hpasses : Passes settings s action (.closed h failure) t) (hcalm : failure ≠ some .cancelled) :
    (s.transports h).closes ≠ [] := by
  obtain ⟨j, job, htask, ⟨message, -, heq⟩ | ⟨code, reason, rfl, -⟩⟩ :=
    passes_returned hpasses (.inr rfl)
  · cases heq
  · refine (hcodes.transports h).reached j _ code reason _ htask ?_
    cases failure with
    | none => trivial
    | some error =>
        intro heq
        exact hcalm (congrArg some heq)

omit [DecidableEq Digest] in
theorem receiveMessage_closed {event : Inbound} {closing : Option Raised}
    (hreceive : receiveMessage settings event closing = .protocolClosed) :
    (event.refusal settings).toList ≠ [] := by
  unfold receiveMessage at hreceive
  split at hreceive
  · rename_i code hrefusal
    simp [hrefusal]
  · split at hreceive
    · cases hreceive
    · cases hreceive
  · cases hreceive

omit [DecidableEq Digest] in
theorem passes_frame {action : Action config} {x : Nat} {clock : Datetime} {now : AwareDatetime}
    {received : Received} (hpasses : Passes settings s action (.received h x received clock now) t)
    (hreceived : received = .protocolClosed) : (t.transports h).closes ≠ [] := by
  cases hpasses with
  | internal _ hdirect =>
      subst hreceived
      cases hdirect
  | inbound _ _ event closing =>
      rw [setTransport_self]
      exact List.append_ne_nil_of_right_ne_nil _ (receiveMessage_closed hreceived)
  | returned h' j _ writer job failure action htask hcontinuation =>
      unfold continuation at hcontinuation
      split at hcontinuation
      all_goals cases hcontinuation

omit [DecidableEq Digest] in
theorem leave_nameless (handler : Handler) : Nameless (settle (.leave handler)).stage := by
  simp only [settle]
  split
  · trivial
  · trivial

theorem turn_nameless (hturn : Turn handler stimulus reaction) (hnameless : Nameless handler.stage)
    (hnone : (settle reaction).sessionId = none) : Nameless (settle reaction).stage := by
  have elsewhere {stage : Handlers.Stage} (hstage : handler.stage = stage)
      (hnamed : ¬ Nameless stage) : False := hnamed (hstage ▸ hnameless)
  cases hturn with
  | connected => cases hnone
  | departs => exact leave_nameless handler
  | raises _ seenIds error =>
      obtain ⟨stage, hsettle, -⟩ := settle_except { handler with seenIds } error
      have hsession : handler.sessionId = none := by
        rw [hsettle] at hnone
        exact hnone
      cases error with
      | disconnected | cancelled => exact leave_nameless _
      | typeError | runtimeError | foreign => trivial
      | device | valueError =>
          simp only [Handler.except, hsession]
          exact leave_nameless _
  | activated _ _ _ hstage => exact (elsewhere hstage id).elim
  | greeted hstage | readied hstage | replied hstage => exact (elsewhere hstage id).elim
  | reported inBody _ hstage =>
      cases inBody with
      | true | false => exact (elsewhere hstage id).elim
  | timedOut _ _ _ hstage => exact (elsewhere hstage id).elim
  | greets _ _ _ _ _ _ _ hstage => exact (elsewhere hstage id).elim
  | demandsHello _ _ _ _ _ hstage => exact (elsewhere hstage id).elim
  | pongs _ _ _ _ _ _ _ hstage => exact (elsewhere hstage id).elim
  | updates _ _ _ _ _ _ _ hstage => exact (elsewhere hstage id).elim
  | passesOn _ _ _ _ _ _ _ _ _ _ _ hstage => exact (elsewhere hstage id).elim

theorem turn_keeps_nameless (hturn : Turn handler stimulus reaction)
    (hnameless : handler.sessionId = none → Nameless handler.stage)
    (hnone : (settle reaction).sessionId = none) : Nameless (settle reaction).stage := by
  refine turn_nameless hturn ?_ hnone
  by_cases hconnecting : ∃ x, handler.stage = .connecting x
  · obtain ⟨x, hstage⟩ := hconnecting
    exact hstage ▸ trivial
  · have hsame := (Turn.advances hturn).sessionId (not_exists.mp hconnecting)
    exact hnameless (hsame.symm.trans hnone)

/-- A handler that leaves by itself while its socket is open has lost its peer or could not
report an error. -/
theorem departs_open {action : Action config} {passed : Operations.Action config}
    {events : List Empty} {s₁ : State config} (hcodes : Codes s) (hsettled : Settled s h)
    (hpasses : Passes settings s action passed s₁) (hadvance : advance settings s₁ passed = some t)
    (hhandler : s.gateway.handlers h = some handler)
    (hcause : Cause t.gateway h handler passed stimulus) (hdeparts : Departs handler stimulus)
    (hbefore : (s.transports h).closes = []) (hafter : (t.transports h).closes = []) :
    Interrupted settings h ⟨s, action, events, t⟩ ∨ Unreported settings h ⟨s, action, events, t⟩ := by
  have htold : Tells settings h handler stimulus ⟨s, action, events, t⟩ :=
    ⟨passed, s₁, hpasses, hhandler, hcause⟩
  cases hdeparts with
  | unreported error hstage hsuppressed =>
      exact .inr ⟨handler, error, htold, hstage, hsuppressed, hbefore⟩
  | closed inBody hstage =>
      cases hcause
      exact absurd hbefore (passes_closed hcodes hpasses (by simp))
  | unclosed error hstage =>
      refine .inl ⟨handler, _, htold, .inr ?_, hbefore⟩
      cases hcause
      by_contra hcalm
      exact passes_closed hcodes hpasses hcalm hbefore
  | frame =>
      cases hcause
      exact absurd hafter ((advance_stays hadvance h).closes_ne_nil (passes_frame hpasses rfl))
  | joined _ hstage =>
      have hleft : Left handler.stage := hstage ▸ trivial
      exact absurd hbefore (hsettled.closes handler hhandler hleft)

omit [DecidableEq Digest] in
/-- A handler that leaves with an error has lost its peer, or `connect_device` has refused it. -/
theorem raises_open {action : Action config} {events : List Empty} {seenIds : SeenIds}
    {error : Raised} (htold : Tells settings h handler stimulus ⟨s, action, events, t⟩)
    (hnameless : handler.sessionId = none → Nameless handler.stage)
    (hraises : Raises handler stimulus seenIds error)
    (herror : error = .disconnected ∨ error = .cancelled ∨
      Refusal error ∧ handler.sessionId = none)
    (hbefore : (s.transports h).closes = []) :
    Interrupted settings h ⟨s, action, events, t⟩ ∨ Refused settings h ⟨s, action, events, t⟩ := by
  have hinterrupted (hends : error = .disconnected ∨ error = .cancelled) :
      Interrupted settings h ⟨s, action, events, t⟩ := by
    rcases raises_told hraises with hraised | ⟨hrefusal, -⟩
    · refine ⟨handler, stimulus, htold, ?_, hbefore⟩
      rw [hraised]
      exact hends.imp (congrArg some) (congrArg some)
    · rcases hends with rfl | rfl
      all_goals exact hrefusal.elim
  rcases herror with hends | hends | ⟨hrefusal, hnone⟩
  · exact .inl (hinterrupted (.inl hends))
  · exact .inl (hinterrupted (.inr hends))
  · obtain ⟨x, hstage, rfl⟩ := raises_nameless hraises (hnameless hnone)
    exact .inr ⟨handler, x, error, htold, hstage, hrefusal⟩

theorem Settled.step {action : Action config} {events : List Empty} (hcodes : Codes s)
    (hsettled : Settled s h)
    (hstep : step settings s action = some t)
    (hpeer : ¬ Interrupted settings h ⟨s, action, events, t⟩)
    (hadmitted : ¬ Refused settings h ⟨s, action, events, t⟩)
    (hreported : ¬ Unreported settings h ⟨s, action, events, t⟩) : Settled t h := by
  have hstays := step_stays hstep h
  rcases step_cases hstep with ⟨passed, s₁, hpasses, hadvance⟩ | hquiet
  · obtain ⟨g, served, hgateway, rfl, -⟩ := advance_eq_some hadvance
    rw [hpasses.gateway] at hgateway
    cases step_local hgateway h with
    | rests hsame =>
        constructor
        · intro handler hhandler hleft
          exact hstays.closes_ne_nil (hsettled.closes handler (hsame.symm.trans hhandler) hleft)
        · intro handler hhandler
          exact hsettled.nameless handler (hsame.symm.trans hhandler)
    | accepted x deviceId _ _ hafter =>
        constructor
        · intro handler hhandler hleft
          obtain rfl := Option.some.inj (hafter.symm.trans hhandler)
          exact hleft.elim
        · intro handler hhandler _
          obtain rfl := Option.some.inj (hafter.symm.trans hhandler)
          trivial
    | beats before after input _ hbefore hbeat hafter =>
        obtain ⟨-, hsession, hstage, -⟩ := beat_goes hbeat
        constructor
        · intro handler hhandler hleft
          obtain rfl := Option.some.inj (hafter.symm.trans hhandler)
          rw [hstage] at hleft
          exact hstays.closes_ne_nil (hsettled.closes before hbefore hleft)
        · intro handler hhandler hnone
          obtain rfl := Option.some.inj (hafter.symm.trans hhandler)
          rw [hstage]
          exact hsettled.nameless before hbefore (hsession.symm.trans hnone)
    | turns before stimulus reaction served hbefore hturn hcause hafter =>
        have htold : Tells settings h before stimulus ⟨s, action, events, t⟩ :=
          ⟨passed, s₁, hpasses, hbefore, hcause⟩
        constructor
        · intro handler hhandler hleft
          obtain rfl := Option.some.inj (hafter.symm.trans hhandler)
          intro hopen
          have hbeforeOpen : (s.transports h).closes = [] := by
            by_contra hclosed
            exact hstays.closes_ne_nil hclosed hopen
          rcases turn_left hturn hleft with hdeparts | ⟨seenIds, error, hraises, herror⟩
          · exact (departs_open hcodes hsettled hpasses hadvance hbefore hcause hdeparts
              hbeforeOpen hopen).elim hpeer hreported
          · exact (raises_open htold (hsettled.nameless before hbefore) hraises herror
              hbeforeOpen).elim hpeer hadmitted
        · intro handler hhandler hnone
          obtain rfl := Option.some.inj (hafter.symm.trans hhandler)
          exact turn_keeps_nameless hturn (hsettled.nameless before hbefore) hnone
  · constructor
    · intro handler hhandler hleft
      rw [hquiet.gateway] at hhandler
      exact hstays.closes_ne_nil (hsettled.closes handler hhandler hleft)
    · intro handler hhandler
      rw [hquiet.gateway] at hhandler
      exact hsettled.nameless handler hhandler

end Endings

section Runs

variable {settings : Settings} {history : List (Step config)} {s : State config} {h : Nat}

theorem codes_of_run (hrun : Run (wire config settings) (.initial config) history s) : Codes s := by
  have hinitial : Codes (State.initial config) :=
    ⟨fun _ => recorded_fresh, fun r hmem => by cases hmem⟩
  exact hrun.invariant Codes hinitial fun _ _ _ _ hcodes hstep => hcodes.step (wire_step hstep)

theorem settled_of_run (hrun : Run (wire config settings) (.initial config) history s)
    (hpeer : ∀ u ∈ history, ¬ Interrupted settings h u)
    (hadmitted : ∀ u ∈ history, ¬ Refused settings h u)
    (hreported : ∀ u ∈ history, ¬ Unreported settings h u) : Settled s h := by
  induction hrun with
  | nil =>
      constructor
      · intro handler hhandler
        cases hhandler
      · intro handler hhandler
        cases hhandler
  | step action events t hprev hfire ih =>
      have hsettled := ih (fun u hu => hpeer u (List.mem_cons_of_mem _ hu))
        (fun u hu => hadmitted u (List.mem_cons_of_mem _ hu))
        (fun u hu => hreported u (List.mem_cons_of_mem _ hu))
      exact hsettled.step (codes_of_run hprev) (wire_step hfire) (hpeer _ List.mem_cons_self)
        (hadmitted _ List.mem_cons_self) (hreported _ List.mem_cons_self)

/-- If the peer stays, `connect_device` does not refuse the device, and `protocol.error` can
be sent where an exception is reported, a handler that has returned has had its socket closed
with a documented code. -/
theorem closed_with_documented_code
    (hrun : Run (wire config settings) (.initial config) history s)
    (hpeer : ∀ u ∈ history, ¬ Interrupted settings h u)
    (hadmitted : ∀ u ∈ history, ¬ Refused settings h u)
    (hreported : ∀ u ∈ history, ¬ Unreported settings h u) {handler : Handler}
    (hhandler : s.gateway.handlers h = some handler) (hfinished : handler.stage = .finished) :
    (s.transports h).closes ≠ [] ∧
      ∀ code ∈ (s.transports h).closes, code ∈ protocolCloseCodes := by
  have hleft : Left handler.stage := hfinished ▸ trivial
  exact ⟨(settled_of_run hrun hpeer hadmitted hreported).closes handler hhandler hleft,
    ((codes_of_run hrun).transports h).closes⟩

end Runs

section Samples

open JarvisCore.Service.CallSteps (callOf)
open JarvisCore.Service.GrantContainment (sampleService sampleDevice samplePaired sampleToken)
open JarvisCore.Gateway.Cleanup (sampleProceed samplePerform)

def allowsFailure (allowed : Raised → Bool) : Option Raised → Bool
  | some error => allowed error
  | none => true

def allowsReceived (allowed : Raised → Bool) : Received → Bool
  | .raised error => allowed error
  | _ => true

def tellsOnly (allowed : Raised → Bool) (settings : Settings) (u : Step config) : Bool :=
  match u.action with
  | .internal (.service inner) =>
      match callOf inner with
      | some x =>
          match u.target.gateway.service.calls x with
          | some ⟨_, .finished (.error error)⟩ => allowed error
          | _ => true
      | none => true
  | .internal (.received _ _ received _ _) => allowsReceived allowed received
  | .inbound _ _ event closing _ _ => allowsReceived allowed (receiveMessage settings event closing)
  | .returned h j _ =>
      match (u.source.transports h).tasks j with
      | some ⟨.handler, _, .done failure⟩ => allowsFailure allowed failure
      | _ => false
  | _ => true

omit [DecidableEq Digest] in
theorem allowed_of_tellsOnly {allowed : Raised → Bool} {settings : Settings} {u : Step config}
    {h : Nat} {handler : Handler} {stimulus : Stimulus} {error : Raised}
    (honly : tellsOnly allowed settings u = true) (htold : Tells settings h handler stimulus u)
    (hraised : raisedBy stimulus = some error) : allowed error = true := by
  obtain ⟨s, action, events, t⟩ := u
  obtain ⟨passed, s₁, hpasses, -, hcause⟩ := htold
  have received {x : Nat} {received : Received} {clock : Datetime} {resolved : Bool}
      (hraised : raisedBy (.received x received clock resolved) = some error)
      (hallows : allowsReceived allowed received = true) : allowed error = true := by
    cases received with
    | raised error' =>
        cases hraised
        exact hallows
    | message | protocolClosed | timedOut => cases hraised
  cases hpasses with
  | internal action hdirect =>
      cases hcause with
      | answered inner x request outcome hx _ hcall =>
          cases outcome with
          | ok value => cases hraised
          | error error' =>
              cases hraised
              have hcall : t.gateway.service.calls x = some ⟨request, .finished (.error error)⟩ :=
                hcall
              simp only [tellsOnly, hx, hcall] at honly
              exact honly
      | sent | closed => cases hdirect
      | received => exact received hraised honly
      | joined => cases hraised
  | inbound h' x event closing clock now =>
      cases hcause with
      | received => exact received hraised honly
  | returned h' j now writer job failure action htask hcontinuation =>
      have htask : (s.transports h').tasks j = some ⟨writer, job, .done failure⟩ := htask
      simp only [tellsOnly, htask] at honly
      cases writer with
      | handler =>
          cases job with
          | send message =>
              cases hcontinuation
              cases hcause with
              | sent =>
                  cases hraised
                  exact honly
          | close code reason =>
              cases hcontinuation
              cases hcause with
              | closed =>
                  cases hraised
                  exact honly
      | heartbeat | command | closing | shutdown => cases honly

def endsWith (codes : List Nat) (s : State sampleService) : Bool :=
  (s.transports 0).closes = codes && match s.gateway.handlers 0 with
    | some handler => handler.stage = .finished
    | none => false

theorem finished_of_endsWith {codes : List Nat} {s : State sampleService}
    (hends : endsWith codes s = true) : (s.transports 0).closes = codes ∧
      ∃ handler, s.gateway.handlers 0 = some handler ∧ handler.stage = .finished := by
  simp only [endsWith, Bool.and_eq_true, decide_eq_true_eq] at hends
  obtain ⟨hcloses, hfinished⟩ := hends
  split at hfinished
  · rename_i handler hhandler
    exact ⟨hcloses, handler, hhandler, of_decide_eq_true hfinished⟩
  · cases hfinished

/-- The device sends a binary frame. -/
theorem closed_with_documented_code_binary :
    ∃ history s, Run (wire sampleService sampleSettings) (.initial sampleService) history s ∧
      (s.transports 0).closes = [1003] ∧
      ∀ code ∈ (s.transports 0).closes, code ∈ protocolCloseCodes := by
  obtain ⟨history, s, hrun, htest⟩ := exists_run_of_replay
    (S := wire sampleService sampleSettings) (s := .initial sampleService)
    (sampleGreeted ++ [sampleInbound 2 .binary])
    (fun history s => endsWith [1003] s &&
      history.all (tellsOnly (fun _ => false) sampleSettings)) (by decide)
  simp only [Bool.and_eq_true, List.all_eq_true] at htest
  obtain ⟨hends, honly⟩ := htest
  obtain ⟨hcloses, handler, hhandler, hfinished⟩ := finished_of_endsWith hends
  have silent {u : Step sampleService} (hu : u ∈ history) {handler : Handler} {stimulus : Stimulus}
      {error : Raised} (htold : Tells sampleSettings 0 handler stimulus u)
      (hraised : raisedBy stimulus = some error) : False := by
    cases allowed_of_tellsOnly (honly u hu) htold hraised
  refine ⟨history, s, hrun, hcloses,
    (closed_with_documented_code hrun ?_ ?_ ?_ hhandler hfinished).2⟩
  · rintro u hu ⟨handler, stimulus, htold, hraised | hraised, -⟩
    · exact silent hu htold hraised
    · exact silent hu htold hraised
  · rintro u hu ⟨handler, x, error, htold, -⟩
    exact silent hu htold rfl
  · rintro u hu ⟨handler, error, htold, -⟩
    exact silent hu htold rfl

/-- The paired device is revoked while its socket is being accepted. -/
def sampleRevoked : List (Action sampleService) :=
  let calls : List (Operations.Action sampleService) :=
    samplePaired.map .service ++
      [.service (.start 0 (.authenticate sampleToken)),
        samplePerform 0, sampleProceed 0 100,
        samplePerform 0, sampleProceed 0 101,
        .service (.start 5 (.revokeDevice sampleDevice)),
        samplePerform 5, sampleProceed 5 102,
        samplePerform 5, sampleProceed 5 103,
        samplePerform 5, sampleProceed 5 104,
        .accept 0 1, samplePerform 1, sampleProceed 1 105]
  calls.map .internal

/-- The errors that a handler does not detect itself. -/
def comesFromOutside : Raised → Bool
  | .disconnected | .cancelled => true
  | _ => false

theorem revoked_without_close :
    ∃ history s handler,
      Run (wire sampleService sampleSettings) (.initial sampleService) history s ∧
      (∀ u ∈ history, ¬ Interrupted sampleSettings 0 u) ∧ s.gateway.handlers 0 = some handler ∧
      handler.stage = .finished ∧ (s.transports 0).closes = [] := by
  obtain ⟨history, s, hrun, htest⟩ := exists_run_of_replay
    (S := wire sampleService sampleSettings) (s := .initial sampleService) sampleRevoked
    (fun history s => endsWith [] s &&
      history.all (tellsOnly (fun error => !comesFromOutside error) sampleSettings)) (by decide)
  simp only [Bool.and_eq_true, List.all_eq_true] at htest
  obtain ⟨hends, honly⟩ := htest
  obtain ⟨hcloses, handler, hhandler, hfinished⟩ := finished_of_endsWith hends
  refine ⟨history, s, handler, hrun, ?_, hhandler, hfinished, hcloses⟩
  rintro u hu ⟨handler, stimulus, htold, hraised | hraised, -⟩
  · cases allowed_of_tellsOnly (honly u hu) htold hraised
  · cases allowed_of_tellsOnly (honly u hu) htold hraised

end Samples

end JarvisCore.Gateway.CloseCodes
