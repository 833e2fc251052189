import JarvisCore.Configuration.TrustDomains
import JarvisCore.Protocol.Commands
import JarvisCore.Service.Delivery

namespace JarvisCore.Api.DeviceCommands

open JarvisCore.Configuration.Settings
open JarvisCore.Configuration.TrustDomains
open JarvisCore.Domain.Errors
open JarvisCore.Domain.Models
open JarvisCore.Domain.Values
open JarvisCore.Foundation.Text
open JarvisCore.Foundation.TransitionSystem
open JarvisCore.Foundation.Url
open JarvisCore.Manager.Delivery (sendsIn)
open JarvisCore.Manager.Operations (Admission TransportCall)
open JarvisCore.Manager.SendLocks (dispatchOf)
open JarvisCore.Protocol.Commands
open JarvisCore.Protocol.Messages (Runtime)
open JarvisCore.Service.Delivery
open JarvisCore.Service.Invariant (transportCalls)
open JarvisCore.Service.Operations (Event Request service)

variable {Digest : Type}

section Responses

structure DeviceCommandResultResponse where
  succeeded : Bool
  output : JsonValue
  error : Option String
  completedAt : AwareDatetime
  success_has_no_error : succeeded = true → error = none
  failure_has_error : succeeded = false → ∃ text, error = some text ∧ text ≠ ""

def DeviceCommandResultResponse.fromDomain (result : DeviceCommandResult) :
    DeviceCommandResultResponse where
  succeeded := result.succeeded
  output := result.output
  error := result.error
  completedAt := result.completedAt
  success_has_no_error := result.success_has_no_error
  failure_has_error := by
    intro hfailed
    obtain ⟨text, htext, hblank⟩ := result.failure_has_error hfailed
    refine ⟨text, htext, ?_⟩
    rintro rfl
    exact hblank rfl

structure DeviceCommandResponse where
  id : UUID
  deviceId : UUID
  capability : DeviceCapability
  action : String
  arguments : PyDict
  issuedAt : AwareDatetime
  deadlineAt : AwareDatetime
  result : DeviceCommandResultResponse

def DeviceCommandResponse.fromDomain (command : DeviceCommand) (result : DeviceCommandResult) :
    DeviceCommandResponse where
  id := command.id
  deviceId := command.deviceId
  capability := command.capability
  action := command.action
  arguments := command.arguments
  issuedAt := command.issuedAt
  deadlineAt := command.deadlineAt
  result := .fromDomain result

/-- The status in `device_error_handler`. -/
def deviceErrorStatus : DeviceError → Nat
  | .deviceNotFound _ => 404
  | .deviceAuthentication | .invalidPairing => 401
  | .deviceRevoked _ => 403
  | .deviceCommandTimeout _ => 504
  | .deviceOffline _ | .deviceCapabilityUnavailable _ _ | .deviceActionUnavailable _ _ => 409
  | .commandResultRejected _ => 400

inductive Answer
  /-- 200 -/
  | ok (response : DeviceCommandResponse)
  /-- From `device_error_handler`. -/
  | deviceError (statusCode : Nat) (detail : String)
  /-- 401 or 503, from `require_device_admin`. -/
  | refused (error : HTTPException)
  /-- 422 -/
  | unprocessable
  /-- An exception that no handler turns into an answer of its own. -/
  | failed (error : Raised)

def deviceErrorHandler (error : DeviceError) : Answer :=
  .deviceError (deviceErrorStatus error) error.message

/-- What the route makes of the end of `execute_command`. The response may fail to render. -/
def answerOf (failure : Option Raised) :
    Except Raised (DeviceCommand × DeviceCommandResult) → Answer
  | .error (.device error) => deviceErrorHandler error
  | .error error => .failed error
  | .ok (command, result) =>
      match failure with
      | some error => .failed error
      | none => .ok (.fromDomain command result)

end Responses

structure Config (Digest : Type) where
  settings : Settings
  caseTables : CaseTables
  runtime : Runtime
  service : Service.Operations.Config Digest

structure Incoming where
  credentials : Option HTTPAuthorizationCredentials
  deviceId : String
  body : PyValue

variable (config : Config Digest)

def Incoming.read (incoming : Incoming) : Option Request :=
  match config.runtime.parseUuid incoming.deviceId, readRequest incoming.body with
  | some deviceId, some request =>
      some (.executeCommand deviceId request.capability request.action.val.val request.arguments)
  | _, _ => none

/-- The guard comes before the validation. -/
def admission (incoming : Incoming) : Except Answer Request :=
  match requireDeviceAdmin config.caseTables config.settings incoming.credentials with
  | .error error => .error (.refused error)
  | .ok () =>
      match incoming.read config with
      | none => .error .unprocessable
      | some request => .ok request

structure Exchange where
  incoming : Incoming
  answer : Option Answer

structure State where
  service : Service.Operations.State config.service
  exchanges : Nat → Option Exchange

namespace State

def initial : State config := ⟨.initial config.service, fun _ => none⟩

variable {config}

def setExchange (s : State config) (x : Nat) (exchange : Exchange) : State config :=
  { s with exchanges := fun y => if y = x then some exchange else s.exchanges y }

end State

inductive Action
  | receive (x : Nat) (incoming : Incoming)
  /-- What else happens in the process, to this call and to others. -/
  | service (action : Service.Operations.Action config.service)
  | respond (x : Nat) (failure : Option Raised)

/-- Only the route calls `execute_command`, and no transport raises a `DeviceError`. -/
def elsewhere : Service.Operations.Action config.service → Bool
  | .start _ (.executeCommand _ _ _ _) => false
  | .connections (.completeSend _ (some (.device _)) _) => false
  | _ => true

variable [DecidableEq Digest]

def step (s : State config) : Action config → Option (State config × List (Event Digest))
  | .receive x incoming =>
      match s.exchanges x with
      | some _ => none
      | none =>
          match admission config incoming with
          | .error answer => some (s.setExchange x ⟨incoming, some answer⟩, [])
          | .ok request =>
              match Service.Operations.step s.service (.start x request) with
              | some (service, events) =>
                  some (State.setExchange { s with service } x ⟨incoming, none⟩, events)
              | none => none
  | .service action =>
      if elsewhere config action then
        match Service.Operations.step s.service action with
        | some (service, events) => some ({ s with service }, events)
        | none => none
      else none
  | .respond x failure =>
      match s.exchanges x, outcome s.service x with
      | some ⟨incoming, none⟩, some out =>
          some (s.setExchange x ⟨incoming, some (answerOf failure out)⟩, [])
      | _, _ => none

/-- The application, as far as devices and commands go. -/
def deviceApi : System (State config) (Action config) (Event Digest) where
  start := .initial config
  step := step config

abbrev Step := Transition (State config) (Action config) (Event Digest)

section Steps

variable {config} {s t : State config} {action : Action config} {events : List (Event Digest)}

inductive Does (s : State config) :
    Action config → State config → List (Event Digest) → Prop
  | turnsAway (x : Nat) (incoming : Incoming) (answer : Answer) : s.exchanges x = none →
      admission config incoming = .error answer →
      Does s (.receive x incoming) (s.setExchange x ⟨incoming, some answer⟩) []
  | admits (x : Nat) (incoming : Incoming) (request : Request)
      (service : Service.Operations.State config.service) (events : List (Event Digest)) :
      s.exchanges x = none → admission config incoming = .ok request →
      Service.Operations.step s.service (.start x request) = some (service, events) →
      Does s (.receive x incoming) (State.setExchange { s with service } x ⟨incoming, none⟩) events
  | serves (action : Service.Operations.Action config.service)
      (service : Service.Operations.State config.service) (events : List (Event Digest)) :
      elsewhere config action = true →
      Service.Operations.step s.service action = some (service, events) →
      Does s (.service action) { s with service } events
  | responds (x : Nat) (failure : Option Raised) (incoming : Incoming)
      (out : Except Raised (DeviceCommand × DeviceCommandResult)) :
      s.exchanges x = some ⟨incoming, none⟩ → outcome s.service x = some out →
      Does s (.respond x failure) (s.setExchange x ⟨incoming, some (answerOf failure out)⟩) []

theorem step_does (h : step config s action = some (t, events)) : Does s action t events := by
  cases action with
  | receive x incoming =>
      simp only [step] at h
      split at h
      · cases h
      · rename_i hfresh
        split at h
        · rename_i answer hadmission
          cases h
          exact .turnsAway x incoming answer hfresh hadmission
        · rename_i request hadmission
          split at h
          · rename_i service served hstart
            cases h
            exact .admits x incoming request service events hfresh hadmission hstart
          · cases h
  | service action =>
      simp only [step] at h
      split at h
      · rename_i helsewhere
        split at h
        · rename_i service served hstep
          cases h
          exact .serves action service events helsewhere hstep
        · cases h
      · cases h
  | respond x failure =>
      simp only [step] at h
      split at h
      · rename_i incoming out hopen hended
        cases h
        exact .responds x failure incoming out hopen hended
      · cases h

omit [DecidableEq Digest] in
theorem setExchange_exchanges {x y : Nat} {exchange exchange' : Exchange}
    (h : (s.setExchange y exchange).exchanges x = some exchange') :
    (x = y ∧ exchange' = exchange) ∨ s.exchanges x = some exchange' := by
  simp only [State.setExchange] at h
  split at h
  · rename_i hx
    exact .inl ⟨hx, (Option.some.inj h).symm⟩
  · exact .inr h

omit [DecidableEq Digest] in
/-- What is let in is a call of `execute_command` with the values of the request. -/
theorem admission_eq_ok {incoming : Incoming} {request : Request}
    (h : admission config incoming = .ok request) :
    requireDeviceAdmin config.caseTables config.settings incoming.credentials = .ok () ∧
      ∃ deviceId body, config.runtime.parseUuid incoming.deviceId = some deviceId ∧
        readRequest incoming.body = some body ∧
        request = .executeCommand deviceId body.capability body.action.val.val body.arguments := by
  unfold admission at h
  split at h
  · cases h
  · rename_i hguard
    split at h
    · cases h
    · rename_i request' hread
      cases h
      unfold Incoming.read at hread
      split at hread
      · rename_i deviceId body hid hbody
        cases hread
        exact ⟨hguard, deviceId, body, hid, hbody, rfl⟩
      · cases hread

end Steps

section Runs

variable {config} {history : List (Step config)} {s : State config}

def sends (x : Nat) (history : List (Step config)) : List TransportCall :=
  history.flatMap fun u => sendsIn x (transportCalls u.events)

/-- The steps of the service that are part of the history. -/
structure Serves (history : List (Step config))
    (steps : List (Service.Invariant.Step config.service)) : Prop where
  sends : ∀ x, Service.Delivery.sends x steps = sends x history
  passed : ∀ v ∈ steps, (∃ x request, v.action = .start x request) ∨
    (elsewhere config v.action = true ∧ ∃ u ∈ history, u.action = .service v.action)

omit [DecidableEq Digest] in
theorem Serves.cons {steps : List (Service.Invariant.Step config.service)} {u : Step config}
    {v : Service.Invariant.Step config.service} (hserves : Serves history steps)
    (hevents : v.events = u.events)
    (haction : (∃ x request, v.action = .start x request) ∨
      (elsewhere config v.action = true ∧ u.action = .service v.action)) :
    Serves (u :: history) (v :: steps) := by
  constructor
  · intro x
    rw [Service.Delivery.sends, List.flatMap_cons, hevents, ← Service.Delivery.sends,
      hserves.sends x]
    rfl
  · intro w hw
    rcases List.mem_cons.mp hw with rfl | hw
    · exact haction.imp_right fun h => ⟨h.1, u, List.mem_cons_self, h.2⟩
    · refine (hserves.passed w hw).imp_right ?_
      rintro ⟨helsewhere, u', hu', haction'⟩
      exact ⟨helsewhere, u', List.mem_cons_of_mem u hu', haction'⟩

omit [DecidableEq Digest] in
theorem Serves.skip {steps : List (Service.Invariant.Step config.service)} {u : Step config}
    (hserves : Serves history steps) (hevents : u.events = []) : Serves (u :: history) steps := by
  constructor
  · intro x
    rw [hserves.sends x, DeviceCommands.sends, DeviceCommands.sends, List.flatMap_cons, hevents]
    rfl
  · intro w hw
    refine (hserves.passed w hw).imp_right ?_
    rintro ⟨helsewhere, u', hu', haction'⟩
    exact ⟨helsewhere, u', List.mem_cons_of_mem u hu', haction'⟩

theorem service_run (hrun : Run (deviceApi config) (.initial config) history s) :
    ∃ steps, Run (service config.service) (.initial config.service) steps s.service ∧
      Serves history steps := by
  induction hrun with
  | nil => exact ⟨[], .nil, fun _ => rfl, List.forall_mem_nil _⟩
  | @step history s action events t hprev h ih =>
      obtain ⟨steps, hsteps, hserves⟩ := ih
      cases step_does h with
      | turnsAway | responds => exact ⟨steps, hsteps, hserves.skip rfl⟩
      | admits x incoming request service events _ _ hstart =>
          have hnext : Run (Service.Operations.service config.service) (.initial config.service)
              (⟨s.service, .start x request, events, service⟩ :: steps) service :=
            .step _ _ _ hsteps hstart
          exact ⟨_, hnext, hserves.cons rfl (.inl ⟨x, request, rfl⟩)⟩
      | serves action service events helsewhere hstep =>
          exact ⟨_, .step _ _ service hsteps hstep, hserves.cons rfl (.inr ⟨helsewhere, rfl⟩)⟩

/-- The exchanges and the calls of `execute_command` belong together. -/
structure Inv (s : State config) : Prop where
  owned : ∀ x deviceId capability action arguments stage,
    s.service.calls x = some ⟨.executeCommand deviceId capability action arguments, stage⟩ →
    ∃ incoming answer, s.exchanges x = some ⟨incoming, answer⟩ ∧
      admission config incoming = .ok (.executeCommand deviceId capability action arguments)
  answered : ∀ x incoming answer, s.exchanges x = some ⟨incoming, some answer⟩ →
    admission config incoming = .error answer ∨
      ∃ out failure, answer = answerOf failure out ∧ Ends s.service x out

omit [DecidableEq Digest] in
theorem Inv.owned_fresh (hinv : Inv s) {x y : Nat} (hfresh : s.exchanges x = none)
    (service : Service.Operations.State config.service) (exchange : Exchange) {deviceId : UUID}
    {capability : DeviceCapability} {action : String} {arguments : PyDict}
    {stage : Service.Operations.Stage} (hcall : s.service.calls y =
      some ⟨.executeCommand deviceId capability action arguments, stage⟩) :
    ∃ incoming answer, (State.setExchange { s with service } x exchange).exchanges y =
        some ⟨incoming, answer⟩ ∧
      admission config incoming = .ok (.executeCommand deviceId capability action arguments) := by
  obtain ⟨incoming, answer, hexchange, hadmission⟩ :=
    hinv.owned y deviceId capability action arguments stage hcall
  refine ⟨incoming, answer, ?_, hadmission⟩
  refine (if_neg ?_).trans hexchange
  rintro rfl
  rw [hfresh] at hexchange
  cases hexchange

omit [DecidableEq Digest] in
theorem Inv.initial : Inv (State.initial config) := by
  constructor
  · intro x deviceId capability action arguments stage hcall
    cases hcall
  · intro x incoming answer hexchange
    cases hexchange

theorem Inv.step {t : State config} {action : Action config} {events : List (Event Digest)}
    (hprev : Run (deviceApi config) (.initial config) history s) (hinv : Inv s)
    (h : step config s action = some (t, events)) : Inv t := by
  obtain ⟨steps, hsteps, -⟩ := service_run hprev
  have hservice := Service.Invariant.inv_of_run hsteps
  have hcarried := carried_of_run hsteps
  cases step_does h with
  | turnsAway x incoming answer hfresh hadmission =>
      constructor
      · intro y deviceId capability action arguments stage hcall
        exact hinv.owned_fresh hfresh s.service _ hcall
      · intro y incoming' answer' hexchange
        rcases setExchange_exchanges hexchange with ⟨-, hsame⟩ | hold
        · cases hsame
          exact .inl hadmission
        · exact hinv.answered y incoming' answer' hold
  | admits x incoming request service events hfresh hadmission hstart =>
      constructor
      · intro y deviceId capability action arguments stage hcall
        rcases Service.CallSteps.step_request hservice hstart hcall with ⟨stage₀, hold⟩ | hnew
        · exact hinv.owned_fresh hfresh service _ hold
        · cases hnew
          exact ⟨incoming, none, if_pos rfl, hadmission⟩
      · intro y incoming' answer' hexchange
        rcases setExchange_exchanges hexchange with ⟨-, hsame⟩ | hold
        · cases hsame
        · refine (hinv.answered y incoming' answer' hold).imp_right ?_
          rintro ⟨out, failure, hanswer, hends⟩
          exact ⟨out, failure, hanswer, hends.step hservice hcarried hstart⟩
  | serves action service events helsewhere hstep =>
      constructor
      · intro y deviceId capability action' arguments stage hcall
        rcases Service.CallSteps.step_request hservice hstep hcall with ⟨stage₀, hold⟩ | hnew
        · exact hinv.owned y deviceId capability action' arguments stage₀ hold
        · rw [hnew] at helsewhere
          cases helsewhere
      · intro y incoming' answer' hexchange
        refine (hinv.answered y incoming' answer' hexchange).imp_right ?_
        rintro ⟨out, failure, hanswer, hends⟩
        exact ⟨out, failure, hanswer, hends.step hservice hcarried hstep⟩
  | responds x failure incoming out hopen hended =>
      constructor
      · intro y deviceId capability action arguments stage hcall
        obtain ⟨incoming', answer', hexchange, hadmitted⟩ :=
          hinv.owned y deviceId capability action arguments stage hcall
        by_cases hyx : y = x
        · subst hyx
          rw [hopen] at hexchange
          cases hexchange
          exact ⟨incoming, _, if_pos rfl, hadmitted⟩
        · exact ⟨incoming', answer', (if_neg hyx).trans hexchange, hadmitted⟩
      · intro y incoming' answer' hexchange
        rcases setExchange_exchanges hexchange with ⟨rfl, hsame⟩ | hold
        · cases hsame
          exact .inr ⟨out, failure, rfl, ends_of_outcome hended⟩
        · exact hinv.answered y incoming' answer' hold

theorem inv_of_run (hrun : Run (deviceApi config) (.initial config) history s) : Inv s := by
  refine hrun.historyInvariant (fun _ s => Inv s) .initial ?_
  intro history s action t events hprev hinv h
  exact hinv.step hprev h

end Runs

section Answers

/-- An administrator asks for the command, and for nothing else. -/
def Requested (incoming : Incoming) (command : DeviceCommand) : Prop :=
  requireDeviceAdmin config.caseTables config.settings incoming.credentials = .ok () ∧
    config.runtime.parseUuid incoming.deviceId = some command.deviceId ∧
    ∃ body, readRequest incoming.body = some body ∧ body.capability = command.capability ∧
      body.action.val.val = command.action ∧ body.arguments = command.arguments

variable {config} {history : List (Step config)} {s : State config} {x : Nat}

/-- The command that was handed to a transport for the request, once, if any was. -/
def Sent (history : List (Step config)) (x : Nat) : Option DeviceCommand → Prop
  | none => sends x history = []
  | some command => ∃ transport sessionId,
      sends x history = [.sendCommand x transport command sessionId]

def Resolved (history : List (Step config)) (command : DeviceCommand)
    (result : DeviceCommandResult) : Prop :=
  result.commandId = command.id ∧ ∃ sessionId, ∃ u ∈ history,
    u.action = .service (.connections (.resolve command.deviceId sessionId result))

/-- What an answer tells about the command. -/
inductive Tells (history : List (Step config)) : Answer → Option DeviceCommand → Prop
  | executed (command : DeviceCommand) (result : DeviceCommandResult) :
      Resolved history command result →
        Tells history (.ok (.fromDomain command result)) (some command)
  | timedOut (command : DeviceCommand) :
      Tells history (.deviceError 504 (DeviceError.deviceCommandTimeout command.id).message)
        (some command)
  | gone (command : DeviceCommand) :
      Tells history (.deviceError 409 (DeviceError.deviceOffline command.deviceId).message)
        (some command)
  | failed (command : DeviceCommand) (error : Raised) :
      Tells history (.failed error) (some command)
  | turnedAway (answer : Answer) : (∀ response, answer ≠ .ok response) → Tells history answer none

/-- One command at most went out for the request, as it was asked for, and the answer goes
with that. -/
def Accounted (history : List (Step config)) (s : State config) (x : Nat) : Prop :=
  ∃ command?, Sent history x command? ∧
    (∀ command ∈ command?, ∃ incoming answer, s.exchanges x = some ⟨incoming, answer⟩ ∧
      Requested config incoming command) ∧
    ∀ incoming answer, s.exchanges x = some ⟨incoming, some answer⟩ → Tells history answer command?

omit [DecidableEq Digest] in
theorem answer_ne_ok_of_admission {incoming : Incoming} {answer : Answer}
    (h : admission config incoming = .error answer) (response : DeviceCommandResponse) :
    answer ≠ .ok response := by
  unfold admission at h
  split at h
  · cases h
    simp
  · split at h
    · cases h
      simp
    · cases h

theorem answerOf_eq_ok {failure : Option Raised}
    {out : Except Raised (DeviceCommand × DeviceCommandResult)} {response : DeviceCommandResponse}
    (h : answerOf failure out = .ok response) : ∃ command result, out = .ok (command, result) := by
  cases out with
  | ok value => exact ⟨value.1, value.2, rfl⟩
  | error error => cases error <;> cases h

omit [DecidableEq Digest] in
theorem requested_of_admission {incoming : Incoming} {command : DeviceCommand}
    (h : admission config incoming = .ok (.executeCommand command.deviceId command.capability
      command.action command.arguments)) : Requested config incoming command := by
  obtain ⟨hguard, deviceId, body, hid, hbody, hrequest⟩ := admission_eq_ok h
  obtain ⟨rfl, hcapability, haction, harguments⟩ := Request.executeCommand.inj hrequest
  exact ⟨hguard, hid, body, hbody, hcapability.symm, haction.symm, harguments.symm⟩

omit [DecidableEq Digest] in
theorem tells_of_raised {steps : List (Service.Invariant.Step config.service)}
    (hserves : Serves history steps) {command : DeviceCommand} {error : Raised}
    (hraised : RaisedAfter steps x command error) (failure : Option Raised) :
    Tells history (answerOf failure (.error error)) (some command) := by
  rcases hraised with rfl | rfl | rfl | ⟨now, v, hv, haction⟩
  · exact .gone command
  · exact .timedOut command
  · exact .failed command _
  · rcases hserves.passed v hv with ⟨y, request, hstart⟩ | ⟨helsewhere, -⟩
    · rw [haction] at hstart
      cases hstart
    · rw [haction] at helsewhere
      cases error with
      | device error => cases helsewhere
      | valueError | typeError | runtimeError | disconnected | foreign | cancelled =>
          exact .failed command _

/-- In every run, what an answer says about the command of its request is true: a command goes
out at most once, only for an administrator and as the body has it; a request that is answered
with a result has had it sent, and a request that is turned away has not. -/
theorem answers_tell_what_was_sent
    (hrun : Run (deviceApi config) (.initial config) history s) (x : Nat) :
    Accounted history s x := by
  obtain ⟨steps, hsteps, hserves⟩ := service_run hrun
  have hinv := inv_of_run hrun
  rcases sends_of_run hsteps x with hnone | ⟨request, a, hcall, hasks, hone⟩
  · refine ⟨none, (hserves.sends x).symm.trans hnone, ?_, ?_⟩
    · intro command hcommand
      cases hcommand
    · intro incoming answer hexchange
      refine .turnedAway answer ?_
      intro response hok
      rcases hinv.answered x incoming answer hexchange with
        hadmission | ⟨out, failure, hanswer, hends⟩
      · exact answer_ne_ok_of_admission hadmission response hok
      · obtain ⟨command, result, rfl⟩ := answerOf_eq_ok (hanswer.symm.trans hok)
        obtain ⟨a, -, hsent, -⟩ := sends_of_returned hsteps hends
        rw [hnone] at hsent
        cases hsent
  · obtain rfl : request = _ := hasks
    obtain ⟨incoming, answer, hexchange, hadmission⟩ := hinv.owned x _ _ _ _ _ hcall
    refine ⟨some a.command, ⟨a.transport, a.sessionId, (hserves.sends x).symm.trans hone⟩, ?_, ?_⟩
    · intro command hcommand
      cases hcommand
      exact ⟨incoming, answer, hexchange, requested_of_admission hadmission⟩
    · intro incoming' answer' hexchange'
      rw [hexchange] at hexchange'
      cases hexchange'
      rcases hinv.answered x incoming answer' hexchange with hrefused | ⟨out, failure, rfl, hends⟩
      · rw [hadmission] at hrefused
        cases hrefused
      · cases out with
        | error error =>
            rcases sends_of_raised hsteps hends with hnone | ⟨a', hone', hraised⟩
            · rw [hone] at hnone
              cases hnone
            · rw [hone] at hone'
              obtain ⟨-, -, hcommand, -⟩ := TransportCall.sendCommand.inj (List.cons.inj hone').1
              rw [hcommand]
              exact tells_of_raised hserves hraised failure
        | ok value =>
            obtain ⟨command, result⟩ := value
            obtain ⟨a', rfl, hone', hid, sessionId, v, hv, hresolve⟩ :=
              sends_of_returned hsteps hends
            rw [hone] at hone'
            obtain ⟨-, -, hcommand, -⟩ := TransportCall.sendCommand.inj (List.cons.inj hone').1
            rw [hcommand]
            cases failure with
            | some error => exact .failed a'.command error
            | none =>
                rcases hserves.passed v hv with ⟨y, request, hstart⟩ | ⟨-, u, hu, haction⟩
                · rw [hresolve] at hstart
                  cases hstart
                · rw [hresolve] at haction
                  exact .executed a'.command result ⟨hid, sessionId, u, hu, haction⟩

end Answers

section Samples

open JarvisCore.Protocol.RoundTrip (sampleRuntime)
open JarvisCore.Service.GrantContainment (sampleService sampleDevice sampleSession sampleInputs
  samplePaired sampleCall)

def sampleApi : Config String where
  settings := sampleSettings "admin-token-with-at-least-32-bytes"
  caseTables := .ascii
  runtime := sampleRuntime
  service := sampleService

def sampleIncoming : Incoming where
  credentials := some ⟨"Bearer", "admin-token-with-at-least-32-bytes"⟩
  deviceId := "00000000-0000-0000-0000-000000000001"
  body := sampleBody (.int 3)

def sampleResult : DeviceCommandResult :=
  { Manager.PendingOwnership.sampleResult ⟨9⟩ with
    deviceId := sampleDevice
    completedAt := ⟨3, 0⟩ }

/-- A device is online, gets the command of the request, and answers it. -/
def sampleExchange : List (Action sampleApi) :=
  ((samplePaired ++ sampleCall 2 (.connectDevice sampleDevice 0) ++
    sampleCall 3 (.activateDevice sampleDevice sampleSession {.system})).map
      fun action => (.service action : Action sampleApi)) ++
  [.receive 4 sampleIncoming, .service (.perform 4 .completed), .service (.proceed 4 sampleInputs),
    .service (.connections (.completeSend 4 none ⟨2, 0⟩)),
    .service (.connections (.resolve sampleDevice sampleSession sampleResult)),
    .service (.connections (.copyResult 4)), .service (.connections (.resumeWait 4)),
    .respond 4 none]

def answersOk (s : State sampleApi) (x : Nat) : Bool :=
  match s.exchanges x with
  | some ⟨_, some (.ok response)⟩ => response.id = ⟨9⟩
  | _ => false

theorem answers_tell_what_was_sent_executed :
    ∃ history s, Run (deviceApi sampleApi) (.initial sampleApi) history s ∧
      answersOk s 4 = true ∧ Accounted history s 4 := by
  obtain ⟨history, s, hrun, hok⟩ := exists_run_of_replay (S := deviceApi sampleApi)
    (s := .initial sampleApi) sampleExchange (fun _ s => answersOk s 4) (by decide +kernel)
  exact ⟨history, s, hrun, hok, answers_tell_what_was_sent hrun 4⟩

end Samples

end JarvisCore.Api.DeviceCommands
