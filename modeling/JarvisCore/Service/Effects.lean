import JarvisCore.Service.Operations

namespace JarvisCore.Service.Effects

open JarvisCore.Domain.Values
open JarvisCore.Domain.Errors
open JarvisCore.Domain.Models
open JarvisCore.Foundation.AsyncIO
open JarvisCore.Foundation.Dictionary
open JarvisCore.Foundation.TransitionSystem
open JarvisCore.Manager.Operations (TransportCall LiveConnection connect activate disconnectDevice
  replacedCloseCode)
open JarvisCore.Pairing.Backends
open JarvisCore.Security.DeviceTables
open JarvisCore.Service.Operations

variable {Digest : Type} {config : Config Digest}

/-- What the database has done for a call. -/
inductive Performs [DecidableEq Digest] (config : Config Digest) (tables : Tables Digest) :
    Stage → Stage → Tables Digest → Prop
  | authenticates (token : String) (answer : Except Raised (Option UUID)) :
      (∀ d, answer = .ok (some d) → tables.authenticate config.codec token = some d) →
      Performs config tables (.awaitingAuthenticate token none)
        (.awaitingAuthenticate token (some answer)) tables
  | gets (d : UUID) (answer : Except Raised (Option Device)) :
      (∀ device, answer = .ok (some device) → tables.get config.dialect d = .ok (some device)) →
      Performs config tables (.awaitingGet d none) (.awaitingGet d (some answer)) tables
  | revokes (d : UUID) (device : Device) (answer : Except Raised Unit) (tables' : Tables Digest) :
      tables' = tables.revoke d ∨ (tables' = tables ∧ answer ≠ .ok ()) →
      Performs config tables (.awaitingRevoke d device none)
        (.awaitingRevoke d device (some answer)) tables'
  | saves (d : UUID) (device : Device) (answer : Except Raised Unit) (tables' : Tables Digest) :
      tables.save device = .ok tables' ∨ (tables' = tables ∧ answer ≠ .ok ()) →
      Performs config tables (.awaitingSave d device none)
        (.awaitingSave d device (some answer)) tables'

/-- An operation of the manager was the last: the call returns at once, or once the
transport of the removed connection is closed. -/
def Concludes (s : State config) (x : Nat) (request : Request) (value : Value)
    (manager : Manager.Operations.State) (events : List TransportCall) (r : Result config) : Prop :=
  (events = [] ∧ r = (finish { s with manager } x request (.ok value), [])) ∨
    ∃ transport code reason, events = [.close transport code reason] ∧
      r = (State.setCall { s with manager } x ⟨request, .awaitingClose value⟩,
        [.transport (.close transport code reason)])

def Answered : Stage → Prop
  | .awaitingAuthenticate _ (some _) | .awaitingGet _ (some _) | .awaitingRevoke _ _ (some _)
  | .awaitingSave _ _ (some _) => True
  | _ => False

/-- The requests that only look at the device. -/
def Views : Request → Prop
  | .authenticate _ | .getDevice _ => True
  | _ => False

/-- What a task does when it runs again with the answer of the database. -/
inductive Proceeds (s : State config) (x : Nat) (request : Request) :
    Stage → Result config → Prop
  | refuses (stage : Stage) (error : Raised) : Answered stage →
      Proceeds s x request stage (finish s x request (.error error), [])
  | identifies (token : String) (d : UUID) :
      Proceeds s x request (.awaitingAuthenticate token (some (.ok (some d))))
        (s.setCall x ⟨request, .awaitingGet d none⟩, [])
  | reads (d : UUID) (device seen : Device) : seen.id = device.id →
      (∀ token, request = .authenticate token → device.status ≠ .revoked) → Views request →
      Proceeds s x request (.awaitingGet d (some (.ok (some device))))
        (finish s x request (.ok (.device seen)), [])
  | strips (d d' : UUID) (device : Device) : request = .revokeDevice d' →
      Proceeds s x request (.awaitingGet d (some (.ok (some device))))
        (s.setCall x ⟨request, .awaitingRevoke d device none⟩, [])
  | saves (d : UUID) (device device' : Device) (clock : Datetime) :
      revokedDevice device clock = .ok device' →
      Proceeds s x request (.awaitingRevoke d device (some (.ok ())))
        (s.setCall x ⟨request, .awaitingSave d device' none⟩, [])
  | disconnects (stage : Stage) (d d' : UUID) (device : Device)
      (manager : Manager.Operations.State) (events : List TransportCall) (r : Result config) :
      (request = .revokeDevice d' ∧ stage = .awaitingGet d (some (.ok (some device))) ∧
        device.status = .revoked) ∨ stage = .awaitingSave d device (some (.ok ())) →
      Manager.Execution.step s.manager (.disconnectDevice d 4403 "Device credential revoked") =
        some (manager, events) →
      manager.calls = s.manager.calls → Concludes s x request (.device device) manager events r →
      Proceeds s x request stage r
  | connects (d d' : UUID) (transport : Nat) (device : Device) (sessionId : UUID)
      (now : AwareDatetime) (manager : Manager.Operations.State) (events : List TransportCall)
      (r : Result config) : request = .connectDevice d' transport → device.status ≠ .revoked →
      Manager.Execution.step s.manager (.connect d transport sessionId now) =
        some (manager, events) →
      manager.calls = s.manager.calls → Concludes s x request (.session sessionId) manager events r →
      Proceeds s x request (.awaitingGet d (some (.ok (some device)))) r
  | activates (d d' sessionId : UUID) (advertised : Finset DeviceCapability) (device : Device)
      (now : AwareDatetime) (manager : Manager.Operations.State) :
      request = .activateDevice d' sessionId advertised →
      activate s.manager d sessionId advertised (advertised ∩ device.grantedCapabilities) now =
        .ok manager →
      Proceeds s x request (.awaitingGet d (some (.ok (some device))))
        (finish { s with manager } x request
          (.ok (.capabilities (advertised ∩ device.grantedCapabilities))), [])
  | executes (d d' : UUID) (capability : DeviceCapability) (action : String)
      (arguments : PyDict) (device : Device) (commandId : UUID)
      (clock : Datetime) (now : AwareDatetime) (command : DeviceCommand) :
      request = .executeCommand d' capability action arguments →
      prepareCommand config s.manager device d capability action arguments commandId clock =
        .ok command →
      Proceeds s x request (.awaitingGet d (some (.ok (some device))))
        (State.setCall
          { s with
            manager := (Manager.Execution.execute s.manager x command
              config.commandTimeoutSeconds now).1 }
          x ⟨request, .awaitingExecute command⟩,
          (Manager.Execution.execute s.manager x command
            config.commandTimeoutSeconds now).2.map .transport)

/-- The first await of a request that does not ask for the lock. -/
inductive Begins : Request → Stage → Prop
  | authenticate (token : String) :
      Begins (.authenticate token) (.awaitingAuthenticate token none)
  | get (request : Request) (d : UUID) : request.underLock = false →
      request.deviceId? = some d → Begins request (.awaitingGet d none)

/-- Everything a step of the service can do. -/
inductive Effect [DecidableEq Digest] (s : State config) :
    Action config → State config → List (Event Digest) → Prop
  | pairs (action : Action config) (pairingAction' : Pairing.Challenges.Action (sql config.codec))
      (pairing : Pairing.Challenges.State Digest (sql config.codec))
      (events : List (Pairing.Challenges.Event Digest)) :
      pairingAction action = some pairingAction' →
      Pairing.Challenges.step config.pairing s.pairing pairingAction' = some (pairing, events) →
      Effect s action { s with pairing } (events.map .pairing)
  | passes (action : Manager.Execution.Action) (manager : Manager.Operations.State)
      (events : List TransportCall) : passedOn action = true →
      Manager.Execution.step s.manager action = some (manager, events) →
      Effect s (.connections action) { s with manager } (events.map .transport)
  | begins (x : Nat) (request : Request) (stage : Stage) : s.calls x = none →
      Begins request stage → Effect s (.start x request) (s.setCall x ⟨request, stage⟩) []
  | queues (x : Nat) (request : Request) (lock : Lock Nat) : s.calls x = none →
      lock.owner = s.lifecycle.owner → (s.lifecycle.WellFormed → lock.WellFormed) →
      Effect s (.start x request)
        (State.setCall { s with lifecycle := lock } x ⟨request, .waitingForLock false⟩) []
  | enters (action : Action config) (x : Nat) (request : Request) (d : UUID) (lock : Lock Nat) :
      (s.calls x = none ∧ action = .start x request) ∨
        (∃ cancelled, s.calls x = some ⟨request, .waitingForLock cancelled⟩) →
      request.deviceId? = some d → (s.lifecycle.WellFormed → s.lifecycle.owner = none) →
      lock.owner = some x → (s.lifecycle.WellFormed → lock.WellFormed) →
      Effect s action
        (State.setCall { s with lifecycle := lock } x ⟨request, .awaitingGet d none⟩) []
  | leaves (action : Action config) (x : Nat) (request : Request) (cancelled : Bool)
      (stage : Stage) (lock : Lock Nat) : s.calls x = some ⟨request, .waitingForLock cancelled⟩ →
      lock.owner = s.lifecycle.owner → (s.lifecycle.WellFormed → lock.WellFormed) →
      stage = .waitingForLock true ∨ stage = .finished (.error .cancelled) →
      Effect s action (State.setCall { s with lifecycle := lock } x ⟨request, stage⟩) []
  | performs (x : Nat) (request : Request) (stage stage' : Stage) (tables : Tables Digest)
      (outcome : AwaitOutcome) : s.calls x = some ⟨request, stage⟩ →
      Performs config s.tables stage stage' tables →
      Effect s (.perform x outcome) ((s.withTables tables).setCall x ⟨request, stage'⟩) []
  | proceeds (x : Nat) (request : Request) (stage : Stage) (r : Result config) (inputs : Inputs) :
      s.calls x = some ⟨request, stage⟩ → Proceeds s x request stage r →
      Effect s (.proceed x inputs) r.1 r.2
  | closes (x : Nat) (request : Request) (value : Value) (outcome : Except Raised Value)
      (failure : Option Raised) : s.calls x = some ⟨request, .awaitingClose value⟩ →
      outcome = .ok value ∨ (∃ error, failure = some error ∧ error.isException = false ∧
        outcome = .error error) →
      Effect s (.endClose x failure) (finish s x request outcome) []

theorem withRuntimeState_id {manager : Manager.Operations.State} {device seen : Device}
    (h : withRuntimeState manager device = .ok seen) : seen.id = device.id := by
  unfold withRuntimeState at h
  split at h
  · obtain rfl := Except.ok.inj h
    rfl
  · split at h
    · exact (Device.make_eq_ok h).1
    · exact (Device.make_eq_ok h).1

section WithDevice

variable (s : State config) (x : Nat) (request : Request) (d : UUID) (device : Device)

theorem disconnectRevoked_proceeds {stage : Stage} (d' : UUID)
    (hstage : (request = .revokeDevice d' ∧ stage = .awaitingGet d (some (.ok (some device))) ∧
      device.status = .revoked) ∨ stage = .awaitingSave d device (some (.ok ()))) :
    Proceeds s x request stage (disconnectRevoked s x request d device) := by
  refine .disconnects stage d d' device _ _ _ hstage rfl rfl ?_
  simp only [disconnectRevoked, disconnectDevice]
  cases s.manager.connections.lookup d with
  | none => exact .inl ⟨rfl, rfl⟩
  | some k => exact .inr ⟨_, _, _, rfl, rfl⟩

theorem connectTransport_proceeds {d' : UUID} {transport : Nat} (inputs : Inputs)
    (hrequest : request = .connectDevice d' transport) (hstatus : device.status ≠ .revoked) :
    Proceeds s x request (.awaitingGet d (some (.ok (some device))))
      (connectTransport s x request d transport inputs) := by
  refine .connects d d' transport device inputs.sessionId inputs.now _ _ _ hrequest hstatus rfl
    rfl ?_
  simp only [connectTransport, connect]
  cases s.manager.connections.lookup d with
  | none => exact .inl ⟨rfl, rfl⟩
  | some k => exact .inr ⟨_, _, _, rfl, rfl⟩

theorem view_proceeds (hstatus : ∀ token, request = .authenticate token → device.status ≠ .revoked)
    (hviews : Views request) :
    Proceeds s x request (.awaitingGet d (some (.ok (some device))))
      (finish s x request ((withRuntimeState s.manager device).map .device), []) := by
  cases hview : withRuntimeState s.manager device with
  | error error => exact .refuses _ error trivial
  | ok seen => exact .reads d device seen (withRuntimeState_id hview) hstatus hviews

theorem withDevice_proceeds (inputs : Inputs) :
    Proceeds s x request (.awaitingGet d (some (.ok (some device))))
      (withDevice s x request d device inputs) := by
  cases request with
  | authenticate token =>
      simp only [withDevice]
      split
      · exact .refuses _ _ trivial
      · rename_i hstatus
        exact view_proceeds s x _ d device (fun _ _ => hstatus) trivial
  | getDevice d' =>
      refine view_proceeds s x _ d device ?_ trivial
      intro token h
      cases h
  | revokeDevice d' =>
      simp only [withDevice]
      split
      · rename_i hstatus
        exact disconnectRevoked_proceeds s x _ d device d' (.inl ⟨rfl, rfl, hstatus⟩)
      · exact .strips d d' device rfl
  | connectDevice d' transport =>
      simp only [withDevice]
      split
      · exact .refuses _ _ trivial
      · rename_i hstatus
        exact connectTransport_proceeds s x _ d device inputs rfl hstatus
  | activateDevice d' sessionId advertised =>
      simp only [withDevice]
      split
      · exact .refuses _ _ trivial
      · simp only [activateSession]
        split
        · exact .refuses _ _ trivial
        · rename_i manager hactivate
          exact .activates d d' sessionId advertised device inputs.now manager rfl hactivate
  | executeCommand d' capability action arguments =>
      simp only [withDevice, executeWith]
      split
      · exact .refuses _ _ trivial
      · rename_i command hcommand
        exact .executes d d' capability action arguments device inputs.commandId inputs.clock
          inputs.now command rfl hcommand

end WithDevice

theorem proceed_proceeds {s : State config} {x : Nat} {call : Call} {inputs : Inputs}
    {r : Result config} (h : proceed s x call inputs = some r) :
    Proceeds s x call.request call.stage r := by
  obtain ⟨request, stage⟩ := call
  unfold proceed at h
  split at h
  · rename_i hstage
    cases h
    obtain rfl : stage = _ := hstage
    exact .refuses _ _ trivial
  · rename_i hstage
    cases h
    obtain rfl : stage = _ := hstage
    exact .refuses _ _ trivial
  · rename_i token d hstage
    cases h
    obtain rfl : stage = _ := hstage
    exact .identifies token d
  · rename_i hstage
    cases h
    obtain rfl : stage = _ := hstage
    exact .refuses _ _ trivial
  · rename_i hstage
    cases h
    obtain rfl : stage = _ := hstage
    exact .refuses _ _ trivial
  · rename_i d device hstage
    cases h
    obtain rfl : stage = _ := hstage
    exact withDevice_proceeds s x request d device inputs
  · rename_i hstage
    cases h
    obtain rfl : stage = _ := hstage
    exact .refuses _ _ trivial
  · rename_i d device hstage
    obtain rfl : stage = _ := hstage
    split at h
    · cases h
      exact .refuses _ _ trivial
    · rename_i device' hdevice
      cases h
      exact .saves d device device' inputs.clock hdevice
  · rename_i hstage
    cases h
    obtain rfl : stage = _ := hstage
    exact .refuses _ _ trivial
  · rename_i d device hstage
    cases h
    obtain rfl : stage = _ := hstage
    exact disconnectRevoked_proceeds s x request d device d (.inr rfl)
  · cases h

theorem writeAnswer_cases (tables : Tables Digest) (written : Except Raised (Tables Digest))
    (outcome : AwaitOutcome) :
    written = .ok (writeAnswer tables written outcome).1 ∨
      ((writeAnswer tables written outcome).1 = tables ∧
        (writeAnswer tables written outcome).2 ≠ .ok ()) := by
  cases outcome with
  | completed =>
      cases written with
      | ok tables' => exact .inl rfl
      | error error => exact .inr ⟨rfl, by simp [writeAnswer]⟩
  | interrupted error applied =>
      cases applied with
      | false => exact .inr ⟨rfl, by simp [writeAnswer]⟩
      | true =>
          cases written with
          | ok tables' => exact .inl rfl
          | error error' => exact .inr ⟨rfl, by simp [writeAnswer]⟩

theorem readAnswer_eq_ok {α : Type} {value : Except Raised α} {outcome : AwaitOutcome} {result : α}
    (h : readAnswer value outcome = .ok result) : value = .ok result := by
  cases outcome with
  | completed => exact h
  | interrupted => cases h

theorem begin_effect [DecidableEq Digest] {s : State config} {x : Nat} {request : Request}
    (hfresh : s.calls x = none) : Effect s (.start x request) (begin s x request) [] := by
  have locked (d : UUID) (hd : request.deviceId? = some d) :
      Effect s (.start x request)
        (if s.lifecycle.available then
          State.setCall { s with lifecycle := s.lifecycle.take x } x
            ⟨request, .awaitingGet d none⟩
        else
          State.setCall { s with lifecycle := s.lifecycle.enqueue x } x
            ⟨request, .waitingForLock false⟩) [] := by
    split
    · rename_i havailable
      exact .enters _ x request d _ (.inl ⟨hfresh, rfl⟩) hd
        (fun _ => Lock.owner_of_available havailable) rfl fun hwell => hwell.take havailable x
    · exact .queues x request _ hfresh rfl fun hwell => hwell.enqueue x
  cases request with
  | authenticate token => exact .begins x _ _ hfresh (.authenticate token)
  | getDevice d => exact .begins x _ _ hfresh (.get _ d rfl rfl)
  | activateDevice d sessionId advertised => exact .begins x _ _ hfresh (.get _ d rfl rfl)
  | executeCommand d capability action arguments => exact .begins x _ _ hfresh (.get _ d rfl rfl)
  | revokeDevice d => exact locked d rfl
  | connectDevice d transport => exact locked d rfl

theorem resumeLock_effect [DecidableEq Digest] {s : State config} {x : Nat} {call : Call}
    {r : Result config} (hcall : s.calls x = some call) (h : resumeLock s x call = some r) :
    Effect s (.resumeLock x) r.1 r.2 := by
  obtain ⟨request, stage⟩ := call
  unfold resumeLock at h
  split at h
  · rename_i d hstage hwoken hd
    cases h
    obtain rfl : stage = _ := hstage
    exact .enters _ x request d _ (.inr ⟨false, hcall⟩) hd (fun hwell => hwell.owner_of_woken hwoken)
      rfl fun hwell => hwell.grant hwoken
  · rename_i hstage hwoken
    cases h
    obtain rfl : stage = _ := hstage
    exact .leaves _ x request true _ _ hcall (Lock.owner_abandon x s.lifecycle)
      (fun hwell => hwell.abandon x) (.inr rfl)
  · rename_i hstage hwoken
    cases h
    obtain rfl : stage = _ := hstage
    exact .leaves _ x request true _ _ hcall (Lock.owner_abandon x s.lifecycle)
      (fun hwell => hwell.abandon x) (.inr rfl)
  · cases h

theorem perform_effect [DecidableEq Digest] {s : State config} {x : Nat} {call : Call}
    {outcome : AwaitOutcome} {r : Result config} (hcall : s.calls x = some call)
    (h : perform s x call outcome = some r) : Effect s (.perform x outcome) r.1 r.2 := by
  obtain ⟨request, stage⟩ := call
  unfold perform at h
  split at h
  · rename_i token hstage
    cases h
    obtain rfl : stage = _ := hstage
    refine .performs x request _ _ s.tables outcome hcall (.authenticates token _ ?_)
    intro d hanswer
    exact Except.ok.inj (readAnswer_eq_ok hanswer)
  · rename_i d hstage
    cases h
    obtain rfl : stage = _ := hstage
    refine .performs x request _ _ s.tables outcome hcall (.gets d _ ?_)
    intro device hanswer
    exact readAnswer_eq_ok hanswer
  · rename_i d device hstage
    cases h
    obtain rfl : stage = _ := hstage
    refine .performs x request _ _ _ outcome hcall (.revokes d device _ _ ?_)
    rcases writeAnswer_cases s.tables (.ok (s.tables.revoke d)) outcome with h | h
    · exact .inl (Except.ok.inj h).symm
    · exact .inr h
  · rename_i d device hstage
    cases h
    obtain rfl : stage = _ := hstage
    refine .performs x request _ _ _ outcome hcall (.saves d device _ _ ?_)
    exact writeAnswer_cases s.tables (s.tables.save device) outcome
  · cases h

theorem endClose_effect [DecidableEq Digest] {s : State config} {x : Nat} {call : Call}
    {failure : Option Raised} {r : Result config} (hcall : s.calls x = some call)
    (h : endClose s x call failure = some r) : Effect s (.endClose x failure) r.1 r.2 := by
  obtain ⟨request, stage⟩ := call
  unfold endClose at h
  split at h
  · rename_i value hstage
    cases h
    obtain rfl : stage = _ := hstage
    exact .closes x request value _ _ hcall (.inl rfl)
  · rename_i value error hstage
    obtain rfl : stage = _ := hstage
    split at h
    · cases h
      exact .closes x request value _ _ hcall (.inl rfl)
    · rename_i hexception
      cases h
      exact .closes x request value _ _ hcall
        (.inr ⟨error, rfl, eq_false_of_ne_true hexception, rfl⟩)
  · cases h

theorem onCall_eq_some {s : State config} {x : Nat} {f : Call → Option (Result config)}
    {r : Result config} (h : onCall s x f = some r) :
    ∃ call, s.calls x = some call ∧ f call = some r := by
  unfold onCall at h
  split at h
  · rename_i call hcall
    exact ⟨call, hcall, h⟩
  · cases h

theorem step_effect [DecidableEq Digest] {s t : State config} {action : Action config}
    {events : List (Event Digest)} (h : step s action = some (t, events)) :
    Effect s action t events := by
  unfold step at h
  split at h
  · rename_i pairingAction' hpairing
    split at h
    · rename_i pairing events hstep
      cases h
      exact .pairs action pairingAction' pairing events hpairing hstep
    · cases h
  split at h
  · rename_i action _
    split at h
    · rename_i hpassed
      split at h
      · rename_i manager events hstep
        cases h
        exact .passes action manager events hpassed hstep
      · cases h
    · cases h
  · rename_i x request
    split at h
    · rename_i hfresh
      cases h
      exact begin_effect hfresh
    · cases h
  · obtain ⟨call, hcall, h⟩ := onCall_eq_some h
    exact resumeLock_effect hcall h
  · obtain ⟨call, hcall, h⟩ := onCall_eq_some h
    unfold cancelWaiting at h
    split at h
    · rename_i cancelled hstage
      cases h
      obtain ⟨request, stage⟩ := call
      obtain rfl : stage = _ := hstage
      exact .leaves _ _ request cancelled _ _ hcall rfl (fun hwell => hwell.cancelWaiter _) (.inl rfl)
    · cases h
  · obtain ⟨call, hcall, h⟩ := onCall_eq_some h
    exact perform_effect hcall h
  · obtain ⟨call, hcall, h⟩ := onCall_eq_some h
    exact .proceeds _ call.request call.stage (t, events) _ hcall (proceed_proceeds h)
  · obtain ⟨call, hcall, h⟩ := onCall_eq_some h
    exact endClose_effect hcall h
  · cases h

end JarvisCore.Service.Effects
