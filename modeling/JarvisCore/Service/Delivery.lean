import JarvisCore.Gateway.ResultOrigins
import JarvisCore.Manager.Delivery

namespace JarvisCore.Service.Delivery

open JarvisCore.Domain.Values
open JarvisCore.Domain.Errors
open JarvisCore.Domain.Models
open JarvisCore.Foundation.AsyncIO
open JarvisCore.Foundation.Text
open JarvisCore.Foundation.TransitionSystem
open JarvisCore.Gateway.ResultOrigins (resolved_of_returned)
open JarvisCore.Manager.Delivery
open JarvisCore.Manager.Evolution
open JarvisCore.Manager.Execution (admissionOf execute_cases onCall onCall_eq_some register setLock)
open JarvisCore.Manager.Operations (Admission AdmittedCall ExecuteCall Outcome TransportCall)
open JarvisCore.Manager.SendLocks (dispatchOf)
open JarvisCore.Service.CallSteps
open JarvisCore.Service.Effects
open JarvisCore.Service.Invariant
open JarvisCore.Service.Operations

variable {Digest : Type} [DecidableEq Digest] {config : Config Digest}

def sends (x : Nat) (history : List (Step config)) : List TransportCall :=
  history.flatMap fun u => sendsIn x (transportCalls u.events)

section Projection

variable {history : List (Step config)} {s : State config}

/-- What the manager does in a run of the service is a run of its own, with the same sends. -/
theorem manager_run (hrun : Run (service config) (.initial config) history s) :
    ∃ steps, Run Manager.Execution.manager .initial steps s.manager ∧
      (∀ x, Manager.Delivery.sends x steps = sends x history) ∧
      ∀ v ∈ steps, passedOn v.action = true →
        ∃ u ∈ history, u.action = .connections v.action := by
  induction hrun with
  | nil => exact ⟨[], .nil, fun _ => rfl, List.forall_mem_nil _⟩
  | @step history s action events t hprev h ih =>
      obtain ⟨steps, hsteps, hsends, hpassed⟩ := ih
      have hlater : ∀ v ∈ steps, passedOn v.action = true →
          ∃ u ∈ (⟨s, action, events, t⟩ :: history : List (Step config)),
            u.action = .connections v.action := by
        intro v hv hpass
        obtain ⟨u, hu, haction⟩ := hpassed v hv hpass
        exact ⟨u, List.mem_cons_of_mem _ hu, haction⟩
      rcases step_manager (inv_of_run hprev) h with
        ⟨hsame, hquiet⟩ | ⟨managerAction, -, hown, hstep⟩
      · refine ⟨steps, hsame ▸ hsteps, ?_, hlater⟩
        intro x
        rw [hsends x, sends, sends, List.flatMap_cons, hquiet]
        rfl
      · refine ⟨_, .step managerAction _ _ hsteps hstep, ?_, ?_⟩
        · intro x
          rw [Manager.Delivery.sends, List.flatMap_cons, ← Manager.Delivery.sends, hsends x]
          rfl
        · intro v hv hpass
          rcases List.mem_cons.mp hv with rfl | hv
          · exact ⟨_, List.mem_cons_self, hown hpass⟩
          · exact hlater v hv hpass

end Projection

section Commands

variable {s t : State config} {action : Action config} {events : List (Event Digest)} {x : Nat}

def Asks (request : Request) (command : DeviceCommand) : Prop :=
  request = .executeCommand command.deviceId command.capability command.action command.arguments

omit [DecidableEq Digest] in
theorem newCommand_arguments {id d : UUID} {capability : DeviceCapability} {action : String}
    {arguments : PyDict} {clock : Datetime} {command : DeviceCommand}
    (h : newCommand config id d capability action arguments clock = .ok command) :
    command.arguments = arguments := by
  unfold newCommand at h
  split at h
  · unfold DeviceCommand.make at h
    split at h
    · split at h
      · split at h
        · cases h
          rfl
        · cases h
      · cases h
    · cases h
  · split at h
    · cases h
    · cases h

omit [DecidableEq Digest] in
theorem prepareCommand_asks {manager : Manager.Operations.State} {device : Device} {id d : UUID}
    {capability : DeviceCapability} {action : String} {arguments : PyDict}
    {clock : Datetime} {command : DeviceCommand}
    (h : prepareCommand config manager device d capability action arguments id clock =
      .ok command) : Asks (.executeCommand d capability action arguments) command := by
  unfold prepareCommand at h
  split at h
  · cases h
  split at h
  · cases h
  split at h
  · cases h
  split at h
  · cases h
  · rename_i hallows
    have hallows : CapabilityRegistry.allows config.definitions capability action = true := by
      simpa using hallows
    obtain ⟨hd, hcapability, haction⟩ := newCommand_eq_ok h
    rw [Asks, hd, hcapability, haction, newCommand_arguments h,
      CapabilityRegistry.strip_of_allows hallows]

def commandOf : ExecuteCall → DeviceCommand
  | .refused command _ => command
  | .admitted call => call.admission.command

def ended : ExecuteCall → Option Outcome
  | .refused _ error => some (.raised error)
  | .admitted ⟨_, _, .finished outcome⟩ => some outcome
  | .admitted _ => none

theorem ended_admitted {call : AdmittedCall} {outcome : Outcome}
    (h : ended (.admitted call) = some outcome) : call.stage = .finished outcome := by
  obtain ⟨a, cancelled, stage⟩ := call
  cases stage with
  | waitingForLock | sending | waiting => cases h
  | finished outcome' => exact congrArg _ (Option.some.inj h)

theorem not_actor_of_refused {m m' : Manager.Operations.State} {a : Manager.Execution.Action}
    {calls : List TransportCall} (h : Manager.Execution.step m a = some (m', calls))
    {command : DeviceCommand} {error : Raised} (hcall : m.calls x = some (.refused command error)) :
    actor a ≠ some x := by
  intro hactor
  have hcalls : ∀ f : AdmittedCall → Option Manager.Execution.Result,
      onCall m x f ≠ some (m', calls) := by
    intro f hf
    obtain ⟨call, hadmitted, -⟩ := onCall_eq_some hf
    rw [hcall] at hadmitted
    cases hadmitted
  cases a with
  | execute y command timeoutSeconds now =>
      obtain rfl : y = x := Option.some.inj hactor
      simp only [Manager.Execution.step, hcall] at h
      cases h
  | resumeLock y | completeSend y | copyResult y | fireTimer y | resumeWait y | cancel y =>
      obtain rfl : y = x := Option.some.inj hactor
      exact hcalls _ h
  | connect | activate | disconnect | disconnectDevice | touch | resolve | closeAll => cases hactor

def CalledWith (m : Manager.Operations.State) (x : Nat) (command : DeviceCommand) : Prop :=
  ∃ call, m.calls x = some call ∧ commandOf call = command

theorem manager_call_step {m m' : Manager.Operations.State} {a : Manager.Execution.Action}
    {calls : List TransportCall} (h : Manager.Execution.step m a = some (m', calls))
    {call : ExecuteCall} (hcall : m.calls x = some call) :
    ∃ call', m'.calls x = some call' ∧ commandOf call' = commandOf call ∧
      ∀ outcome, ended call = some outcome → ended call' = some outcome := by
  cases call with
  | admitted call =>
      obtain ⟨call', hcall', hcontinues⟩ := step_continues h hcall
      refine ⟨_, hcall', congrArg Admission.command hcontinues.admission, ?_⟩
      intro outcome hended
      have hstage := ended_admitted hended
      have hdone : ¬ call.Active := fun hactive => hactive outcome hstage
      obtain rfl := hcontinues.finished hdone
      exact hended
  | refused command error =>
      have hactor := not_actor_of_refused h hcall
      exact ⟨_, (step_frame h hactor).1.trans hcall, rfl, fun _ hended => hended⟩

theorem execute_commandOf (m : Manager.Operations.State) (command : DeviceCommand)
    (timeoutSeconds : Int) (now : AwareDatetime) :
    ∃ call, (Manager.Execution.execute m x command timeoutSeconds now).1.calls x = some call ∧
      commandOf call = command := by
  rcases execute_cases m x command timeoutSeconds now with
    ⟨error, -, hr⟩ | ⟨k, lock, -, hr | hr⟩
  · rw [hr]
    exact ⟨_, setCall_calls_self _ _ _, rfl⟩
  · rw [hr]
    rcases (send_continuation (setLock (register m x (admissionOf command timeoutSeconds k))
        k.ref lock) x ⟨admissionOf command timeoutSeconds k, false, .waitingForLock⟩).1 with
      ⟨-, hcall⟩ | ⟨-, hcall⟩
    · exact ⟨_, hcall, rfl⟩
    · exact ⟨_, hcall, rfl⟩
  · rw [hr]
    exact ⟨_, Function.update_self _ _ _, rfl⟩

/-- A call that awaits `execute` has been doing so, or has just called it with what its request
asks for. -/
theorem step_executing {log : List (Pairing.Challenges.Event Digest)} (hinv : Inv log s)
    (h : Operations.step s action = some (t, events)) {request : Request}
    {command : DeviceCommand} (hx : t.calls x = some ⟨request, .awaitingExecute command⟩) :
    s.calls x = some ⟨request, .awaitingExecute command⟩ ∨
      (Asks request command ∧ CalledWith t.manager x command) := by
  cases step_effect h with
  | pairs | passes => exact .inl hx
  | begins y request₀ stage₀ _ hbegins =>
      rcases setCall_calls hx with ⟨-, hcall⟩ | hsame
      · cases hcall
        cases hbegins
      · exact .inl hsame
  | queues y request₀ lock =>
      rcases setCall_calls hx with ⟨-, hcall⟩ | hsame
      · cases hcall
      · exact .inl hsame
  | enters _ y request₀ d lock =>
      rcases setCall_calls hx with ⟨-, hcall⟩ | hsame
      · cases hcall
      · exact .inl hsame
  | leaves _ y request₀ cancelled stage₀ lock _ _ _ hstage =>
      rcases setCall_calls hx with ⟨-, hcall⟩ | hsame
      · cases hcall
        rcases hstage with hstage | hstage
        · cases hstage
        · cases hstage
      · exact .inl hsame
  | performs y request₀ stage₀ stage₁ tables _ _ hperforms =>
      rcases setCall_calls hx with ⟨-, hcall⟩ | hsame
      · cases hcall
        cases hperforms
      · exact .inl hsame
  | proceeds y request₀ stage₀ r inputs hcall₀ hproceeds =>
      cases hproceeds with
      | refuses | reads | activates =>
          rcases finish_calls hx with ⟨-, hcall⟩ | hsame
          · cases hcall
          · exact .inl hsame
      | identifies | strips | saves =>
          rcases setCall_calls hx with ⟨-, hcall⟩ | hsame
          · cases hcall
          · exact .inl hsame
      | disconnects _ _ _ _ _ _ _ _ _ _ hconcludes =>
          rcases concluded_calls hconcludes hx with ⟨-, -, hconcluding⟩ | hsame
          · exact hconcluding.elim
          · exact .inl hsame
      | connects _ _ _ _ _ _ _ _ _ _ _ _ _ hconcludes =>
          rcases concluded_calls hconcludes hx with ⟨-, -, hconcluding⟩ | hsame
          · exact hconcluding.elim
          · exact .inl hsame
      | executes d d' capability action arguments device commandId clock now command' hrequest
          hprepare =>
          rcases setCall_calls hx with ⟨rfl, hcall⟩ | hsame
          · cases hcall
            obtain rfl : request = _ := hrequest
            obtain rfl := (hinv.calls x _ hcall₀).target d _ rfl d' rfl
            exact .inr ⟨prepareCommand_asks hprepare, execute_commandOf _ _ _ _⟩
          · exact .inl hsame
  | closes y request₀ value outcome =>
      rcases finish_calls hx with ⟨-, hcall⟩ | hsame
      · cases hcall
      · exact .inl hsame

def Carried (s : State config) : Prop :=
  ∀ x request command, s.calls x = some ⟨request, .awaitingExecute command⟩ →
    Asks request command ∧ CalledWith s.manager x command

theorem step_manager_call {log : List (Pairing.Challenges.Event Digest)} (hinv : Inv log s)
    (h : Operations.step s action = some (t, events)) {call : ExecuteCall}
    (hcall : s.manager.calls x = some call) :
    ∃ call', t.manager.calls x = some call' ∧ commandOf call' = commandOf call ∧
      ∀ outcome, ended call = some outcome → ended call' = some outcome := by
  rcases step_manager hinv h with ⟨hmanager, -⟩ | ⟨managerAction, -, -, hstep⟩
  · rw [hmanager]
    exact ⟨call, hcall, rfl, fun _ hended => hended⟩
  · exact manager_call_step hstep hcall

theorem Carried.step {log : List (Pairing.Challenges.Event Digest)} (hinv : Inv log s)
    (hcarried : Carried s) (h : Operations.step s action = some (t, events)) : Carried t := by
  intro x request command hx
  rcases step_executing hinv h hx with hsame | hnew
  · obtain ⟨hasks, call, hcall, hcommand⟩ := hcarried x request command hsame
    obtain ⟨call', hcall', hkept, -⟩ := step_manager_call hinv h hcall
    exact ⟨hasks, call', hcall', hkept.trans hcommand⟩
  · exact hnew

theorem carried_of_run {history : List (Step config)}
    (hrun : Run (service config) (.initial config) history s) : Carried s := by
  refine hrun.historyInvariant (fun _ s => Carried s) ?_ ?_
  · intro x request command hx
    cases hx
  · intro history s action t events hprev hcarried h
    exact hcarried.step (inv_of_run hprev) h

end Commands

section Outcomes

def outcome (s : State config) (x : Nat) :
    Option (Except Raised (DeviceCommand × DeviceCommandResult)) :=
  match s.calls x with
  | some ⟨_, .finished (.error error)⟩ => some (.error error)
  | some ⟨_, .awaitingExecute command⟩ =>
      match (s.manager.calls x).bind ended with
      | some (.returned result) => some (.ok (command, result))
      | some (.raised error) => some (.error error)
      | none => none
  | _ => none

inductive Ends (s : State config) (x : Nat) :
    Except Raised (DeviceCommand × DeviceCommandResult) → Prop
  | early (request : Request) (error : Raised) :
      s.calls x = some ⟨request, .finished (.error error)⟩ → Ends s x (.error error)
  | returned (request : Request) (command : DeviceCommand) (result : DeviceCommandResult)
      (call : ExecuteCall) : s.calls x = some ⟨request, .awaitingExecute command⟩ →
      s.manager.calls x = some call → ended call = some (.returned result) →
      Ends s x (.ok (command, result))
  | raised (request : Request) (command : DeviceCommand) (error : Raised) (call : ExecuteCall) :
      s.calls x = some ⟨request, .awaitingExecute command⟩ → s.manager.calls x = some call →
      ended call = some (.raised error) → Ends s x (.error error)

omit [DecidableEq Digest] in
theorem ends_of_outcome {s : State config} {x : Nat}
    {out : Except Raised (DeviceCommand × DeviceCommandResult)} (h : outcome s x = some out) :
    Ends s x out := by
  unfold outcome at h
  split at h
  · rename_i request error hcall
    cases h
    exact .early request error hcall
  · rename_i request command hcall
    split at h
    · rename_i result hended
      cases h
      obtain ⟨call, hmanager, hended⟩ := Option.bind_eq_some_iff.mp hended
      exact .returned request command result call hcall hmanager hended
    · rename_i error hended
      cases h
      obtain ⟨call, hmanager, hended⟩ := Option.bind_eq_some_iff.mp hended
      exact .raised request command error call hcall hmanager hended
    · cases h
  · cases h

variable {log : List (Pairing.Challenges.Event Digest)} {s t : State config}
  {action : Action config} {events : List (Event Digest)} {x : Nat}

theorem step_awaits (hinv : Inv log s) (hcarried : Carried s)
    (h : Operations.step s action = some (t, events)) {request : Request}
    {command : DeviceCommand} (hx : s.calls x = some ⟨request, .awaitingExecute command⟩) :
    t.calls x = some ⟨request, .awaitingExecute command⟩ := by
  obtain ⟨-, call, hcall, rfl⟩ := hcarried x request command hx
  obtain ⟨call', hcall', hkept, -⟩ := step_manager_call hinv h hcall
  obtain ⟨request', command', hx'⟩ :=
    (hinv.step h).executing x (by rw [hcall']; exact Option.some_ne_none _)
  obtain ⟨stage, hx''⟩ := step_keeps hinv h hx
  obtain ⟨-, call'', hcall'', hcommand⟩ := hcarried.step hinv h x request' command' hx'
  rw [hx'] at hx''
  cases hx''
  rw [hcall'] at hcall''
  cases hcall''
  rw [hx', ← hcommand, hkept]

theorem Ends.step (hinv : Inv log s) (hcarried : Carried s)
    (h : Operations.step s action = some (t, events))
    {out : Except Raised (DeviceCommand × DeviceCommandResult)} (hends : Ends s x out) :
    Ends t x out := by
  cases hends with
  | early request error hcall =>
      rcases step_settled hinv h hcall trivial with hsame | ⟨value, _, _, hclosing, -⟩
      · exact .early request error hsame
      · cases hclosing
  | returned request command result call hcall hmanager hended =>
      obtain ⟨call', hcall', -, hkept⟩ := step_manager_call hinv h hmanager
      exact .returned request command result call' (step_awaits hinv hcarried h hcall) hcall'
        (hkept _ hended)
  | raised request command error call hcall hmanager hended =>
      obtain ⟨call', hcall', -, hkept⟩ := step_manager_call hinv h hmanager
      exact .raised request command error call' (step_awaits hinv hcarried h hcall) hcall'
        (hkept _ hended)

end Outcomes

section Runs

variable {history : List (Step config)} {s : State config} {x : Nat}

theorem StageSent.cases {a : Admission} {steps : List Manager.Evolution.Step}
    {stage : Manager.Operations.Stage} (h : StageSent x a steps stage) :
    Manager.Delivery.sends x steps = [] ∨ Manager.Delivery.sends x steps = [dispatchOf x a] := by
  cases stage with
  | waitingForLock => exact .inl h
  | sending => exact .inr h
  | waiting w => exact .inr h.1
  | finished outcome =>
      cases outcome with
      | returned result => exact .inr h
      | raised error => exact h.imp_right And.left

/-- A call of `execute_command` has its command sent at most once, as its request asks. -/
theorem sends_of_run (hrun : Run (service config) (.initial config) history s) (x : Nat) :
    sends x history = [] ∨ ∃ request a, s.calls x = some ⟨request, .awaitingExecute a.command⟩ ∧
      Asks request a.command ∧ sends x history = [dispatchOf x a] := by
  obtain ⟨steps, hsteps, hsends, -⟩ := manager_run hrun
  rw [← hsends x]
  obtain ⟨hsent, -⟩ := callSent_of_run hsteps x
  cases hcall : s.manager.calls x with
  | none =>
      rw [hcall] at hsent
      exact .inl hsent
  | some call =>
      rw [hcall] at hsent
      obtain ⟨request, command, hx⟩ :=
        (inv_of_run hrun).executing x (by rw [hcall]; exact Option.some_ne_none _)
      obtain ⟨hasks, call', hcall', hcommand⟩ := carried_of_run hrun x request command hx
      rw [hcall] at hcall'
      cases hcall'
      cases call with
      | refused command error => exact .inl hsent
      | admitted call =>
          refine (StageSent.cases hsent).imp_right fun hone => ?_
          obtain rfl : call.admission.command = command := hcommand
          exact ⟨request, call.admission, hx, hasks, hone⟩

/-- The result came in for the command. -/
def Reported (history : List (Step config)) (command : DeviceCommand)
    (result : DeviceCommandResult) : Prop :=
  result.commandId = command.id ∧ ∃ sessionId, ∃ u ∈ history,
    u.action = .connections (.resolve command.deviceId sessionId result)

/-- How a call whose command was sent may raise. -/
def RaisedAfter (history : List (Step config)) (x : Nat) (command : DeviceCommand)
    (error : Raised) : Prop :=
  error = .device (.deviceOffline command.deviceId) ∨
    error = .device (.deviceCommandTimeout command.id) ∨ error = .cancelled ∨
    ∃ now, ∃ u ∈ history, u.action = .connections (.completeSend x (some error) now)

theorem sends_of_returned (hrun : Run (service config) (.initial config) history s)
    {command : DeviceCommand} {result : DeviceCommandResult}
    (hends : Ends s x (.ok (command, result))) :
    ∃ a, a.command = command ∧ sends x history = [dispatchOf x a] ∧
      Reported history command result := by
  obtain ⟨steps, hsteps, hsends, hpassed⟩ := manager_run hrun
  cases hends with
  | returned request command result call hx hcall hended =>
      obtain ⟨-, call', hcall', rfl⟩ := carried_of_run hrun x request command hx
      rw [hcall] at hcall'
      cases hcall'
      obtain ⟨hsent, -⟩ := callSent_of_run hsteps x
      rw [hcall] at hsent
      cases call with
      | refused command error => cases hended
      | admitted call =>
          have hstage := ended_admitted hended
          rw [CallSent, hstage] at hsent
          obtain ⟨hid, -, v, hv, haction⟩ := resolved_of_returned hsteps hcall hstage
          obtain ⟨u, hu, hresolve⟩ := hpassed v hv (by rw [haction]; rfl)
          refine ⟨call.admission, rfl, (hsends x).symm.trans hsent, hid, ?_⟩
          exact ⟨call.admission.sessionId, u, hu, hresolve.trans (congrArg _ haction)⟩

/-- A call that raises has had its command sent only if it raises as `RaisedAfter` says. -/
theorem sends_of_raised (hrun : Run (service config) (.initial config) history s)
    {error : Raised} (hends : Ends s x (.error error)) :
    sends x history = [] ∨
      ∃ a, sends x history = [dispatchOf x a] ∧ RaisedAfter history x a.command error := by
  obtain ⟨steps, hsteps, hsends, hpassed⟩ := manager_run hrun
  rw [← hsends x]
  obtain ⟨hsent, -⟩ := callSent_of_run hsteps x
  cases hends with
  | early request error hx =>
      rw [(inv_of_run hrun).not_executing hx (by simp)] at hsent
      exact .inl hsent
  | raised request command error call hx hcall hended =>
      rw [hcall] at hsent
      cases call with
      | refused command error => exact .inl hsent
      | admitted call =>
          rw [CallSent, ended_admitted hended] at hsent
          refine hsent.imp_right ?_
          rintro ⟨hone, hraised⟩
          refine ⟨call.admission, hone, ?_⟩
          rcases hraised with hoffline | htimeout | hcancelled | ⟨now, v, hv, haction⟩
          · exact .inl hoffline
          · exact .inr (.inl htimeout)
          · exact .inr (.inr (.inl hcancelled))
          · obtain ⟨u, hu, hfailed⟩ := hpassed v hv (by rw [haction]; rfl)
            exact .inr (.inr (.inr ⟨now, u, hu, hfailed.trans (congrArg _ haction)⟩))

end Runs

end JarvisCore.Service.Delivery
