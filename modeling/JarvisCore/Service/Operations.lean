import JarvisCore.Manager.Execution
import JarvisCore.Pairing.Backends

/-!
`DeviceService` over the connection manager, the database and the pairing
challenges: each method from one await to the next, and the system in which any
number of calls interleave. A database operation takes effect at one step and the
task that awaits it runs again at a later one, so what it has read may be stale.
-/

namespace JarvisCore.Service.Operations

open JarvisCore.Domain.Values
open JarvisCore.Domain.Errors
open JarvisCore.Domain.Models
open JarvisCore.Foundation.AsyncIO
open JarvisCore.Foundation.Dictionary
open JarvisCore.Foundation.Text
open JarvisCore.Foundation.TransitionSystem
open JarvisCore.Manager.Operations
open JarvisCore.Pairing.Challenges (DeviceCredential)
open JarvisCore.Pairing.Backends
open JarvisCore.Security.Credentials
open JarvisCore.Security.DeviceTables

namespace CapabilityRegistry

/-- The definitions that Core ships. -/
def shipped : List CapabilityDefinition :=
  [ { capability := .openApp, actions := ["open"]
      actions_normalized := by decide, actions_nonempty := by decide },
    { capability := .files, actions := ["list", "read", "write"]
      actions_normalized := by decide, actions_nonempty := by decide },
    { capability := .system, actions := ["get_info", "get_status"]
      actions_normalized := by decide, actions_nonempty := by decide } ]

/-- `InMemoryCapabilityRegistry(definitions)`: of two definitions of one capability
the later one counts. -/
def definition? (definitions : List CapabilityDefinition) (capability : DeviceCapability) :
    Option CapabilityDefinition :=
  ((if definitions.isEmpty then shipped else definitions).filter
    fun definition => definition.capability = capability).getLast?

def allows (definitions : List CapabilityDefinition) (capability : DeviceCapability)
    (action : String) : Bool :=
  match definition? definitions capability with
  | some definition => action ∈ definition.actions
  | none => false

theorem strip_of_allows {definitions : List CapabilityDefinition}
    {capability : DeviceCapability} {action : String}
    (h : allows definitions capability action = true) : strip action = action := by
  unfold allows at h
  split at h
  · rename_i definition _
    exact (definition.actions_normalized action (of_decide_eq_true h)).1
  · cases h

end CapabilityRegistry

variable {Digest : Type}

structure Config (Digest : Type) where
  pairing : Pairing.Challenges.Config Digest
  codec : DeviceCredentialCodec Digest
  dialect : Dialect
  definitions : List CapabilityDefinition
  pairingTtl : Int
  commandTimeoutSeconds : Int

inductive Request
  | authenticate (token : String)
  | getDevice (deviceId : UUID)
  | revokeDevice (deviceId : UUID)
  | connectDevice (deviceId : UUID) (transport : Nat)
  | activateDevice (deviceId sessionId : UUID)
      (advertisedCapabilities : Finset DeviceCapability)
  | executeCommand (deviceId : UUID) (capability : DeviceCapability) (action : String)
      (arguments : PyDict)

/-- The requests that run under `_lifecycle_lock`. -/
def Request.underLock : Request → Bool
  | .revokeDevice _ | .connectDevice _ _ => true
  | _ => false

inductive Value
  | device (device : Device)
  | session (sessionId : UUID)
  | capabilities (effective : Finset DeviceCapability)

/-- The await at which a call is suspended. An operation of the database that has
been carried out has left its answer for the task. -/
inductive Stage
  | waitingForLock (cancelRequested : Bool)
  | awaitingAuthenticate (token : String) (answer : Option (Except Raised (Option UUID)))
  | awaitingGet (deviceId : UUID) (answer : Option (Except Raised (Option Device)))
  | awaitingRevoke (deviceId : UUID) (device : Device) (answer : Option (Except Raised Unit))
  | awaitingSave (deviceId : UUID) (device : Device) (answer : Option (Except Raised Unit))
  /-- The manager closes the transport of a connection it has removed. -/
  | awaitingClose (value : Value)
  /-- The rest is the call of the manager that has the same number. -/
  | awaitingExecute (command : DeviceCommand)
  | finished (outcome : Except Raised Value)

structure Call where
  request : Request
  stage : Stage

structure State (config : Config Digest) where
  manager : Manager.Operations.State
  pairing : Pairing.Challenges.State Digest (sql config.codec)
  lifecycle : Lock Nat
  calls : Nat → Option Call

inductive Event (Digest : Type)
  | transport (call : TransportCall)
  | pairing (event : Pairing.Challenges.Event Digest)

variable {config : Config Digest}

abbrev Result (config : Config Digest) := State config × List (Event Digest)

namespace State

def initial (config : Config Digest) : State config where
  manager := .initial
  pairing := .initial (sql config.codec) Tables.empty
  lifecycle := .free
  calls := fun _ => none

def tables (s : State config) : Tables Digest := s.pairing.store

def withTables (s : State config) (tables : Tables Digest) : State config :=
  { s with pairing := { s.pairing with store := tables } }

def setCall (s : State config) (x : Nat) (call : Call) : State config :=
  { s with calls := Function.update s.calls x (some call) }

end State

/-- The call returns or raises, and leaves `async with self._lifecycle_lock`. -/
def finish (s : State config) (x : Nat) (request : Request) (outcome : Except Raised Value) :
    State config :=
  let s := s.setCall x ⟨request, .finished outcome⟩
  if request.underLock then { s with lifecycle := s.lifecycle.release } else s

def withRuntimeState (manager : Manager.Operations.State) (device : Device) :
    Except Raised Device :=
  if device.status = .revoked then .ok device
  else
    match getState manager device.id with
    | none =>
        Device.make device.id device.name device.grantedCapabilities device.pairedAt .offline ∅
          device.lastSeenAt device.revokedAt
    | some connection =>
        Device.make device.id device.name device.grantedCapabilities device.pairedAt
          connection.status connection.advertisedCapabilities (some connection.lastSeenAt)
          device.revokedAt

/-- `replace(device, status=REVOKED, revoked_at=..., advertised_capabilities=frozenset())`. -/
def revokedDevice (device : Device) (clock : Datetime) : Except Raised Device :=
  match requireUtc clock "revoked_at" with
  | .error error => .error error
  | .ok revokedAt =>
      Device.make device.id device.name device.grantedCapabilities device.pairedAt .revoked ∅
        device.lastSeenAt (some revokedAt)

/-- The `DeviceCommand` of `execute_command`. A clock without a timezone is refused
after the checks of the action. -/
def newCommand (config : Config Digest) (id deviceId : UUID) (capability : DeviceCapability)
    (action : String) (arguments : PyDict) (clock : Datetime) :
    Except Raised DeviceCommand :=
  match clock.toAware? with
  | some issuedAt =>
      DeviceCommand.make config.codec.classes id deviceId capability action arguments issuedAt
        (issuedAt.add config.commandTimeoutSeconds)
  | none =>
      match DeviceCommand.make config.codec.classes id deviceId capability action arguments
          ⟨clock.wall, 0⟩ ⟨clock.wall + 1, 0⟩ with
      | .error error => .error error
      | .ok _ => .error (.valueError "issued_at must be timezone-aware")

/-- The checks of `execute_command`, up to the call of the manager. -/
def prepareCommand (config : Config Digest) (manager : Manager.Operations.State)
    (device : Device) (deviceId : UUID) (capability : DeviceCapability) (action : String)
    (arguments : PyDict) (commandId : UUID) (clock : Datetime) :
    Except Raised DeviceCommand :=
  match withRuntimeState manager device with
  | .error error => .error error
  | .ok device =>
      if device.status ≠ .online then .error (.device (.deviceOffline deviceId))
      else if capability ∉ device.availableCapabilities then
        .error (.device (.deviceCapabilityUnavailable deviceId capability))
      else if !CapabilityRegistry.allows config.definitions capability action then
        .error (.device (.deviceActionUnavailable capability action))
      else newCommand config commandId deviceId capability action arguments clock

def notFound (deviceId : UUID) : Request → Raised
  | .authenticate _ => .device .deviceAuthentication
  | _ => .device (.deviceNotFound deviceId)

/-- What the clock and the identifier factories yield to a task that runs again;
`now` is a reading of the manager's clock. -/
structure Inputs where
  clock : Datetime
  now : AwareDatetime
  sessionId : UUID
  commandId : UUID

def connectTransport (s : State config) (x : Nat) (request : Request) (deviceId : UUID)
    (transport : Nat) (inputs : Inputs) : Result config :=
  let (manager, replaced) := connect s.manager deviceId transport inputs.sessionId inputs.now
  match replaced with
  | none =>
      (finish { s with manager } x request (.ok (.session inputs.sessionId)), [])
  | some k =>
      (State.setCall { s with manager } x ⟨request, .awaitingClose (.session inputs.sessionId)⟩,
        [.transport (.close k.transport replacedCloseCode
          "Connection replaced by a newer session.")])

/-- `connections.disconnect_device` in `revoke_device`. -/
def disconnectRevoked (s : State config) (x : Nat) (request : Request) (deviceId : UUID)
    (device : Device) : Result config :=
  let (manager, removed) := disconnectDevice s.manager deviceId
  match removed with
  | none => (finish { s with manager } x request (.ok (.device device)), [])
  | some k =>
      (State.setCall { s with manager } x ⟨request, .awaitingClose (.device device)⟩,
        [.transport (.close k.transport 4403 "Device credential revoked")])

def activateSession (s : State config) (x : Nat) (request : Request)
    (deviceId sessionId : UUID) (advertised : Finset DeviceCapability) (device : Device)
    (inputs : Inputs) : Result config :=
  let effective := advertised ∩ device.grantedCapabilities
  match activate s.manager deviceId sessionId advertised effective inputs.now with
  | .error error => (finish s x request (.error error), [])
  | .ok manager => (finish { s with manager } x request (.ok (.capabilities effective)), [])

def executeWith (s : State config) (x : Nat) (request : Request) (deviceId : UUID)
    (capability : DeviceCapability) (action : String) (arguments : PyDict)
    (device : Device) (inputs : Inputs) : Result config :=
  match prepareCommand config s.manager device deviceId capability action arguments
      inputs.commandId inputs.clock with
  | .error error => (finish s x request (.error error), [])
  | .ok command =>
      let (manager, events) := Manager.Execution.execute s.manager x command
        config.commandTimeoutSeconds inputs.now
      (State.setCall { s with manager } x ⟨request, .awaitingExecute command⟩,
        events.map .transport)

/-- What each method does with the device that `registry.get` returned. -/
def withDevice (s : State config) (x : Nat) (request : Request) (deviceId : UUID)
    (device : Device) (inputs : Inputs) : Result config :=
  match request with
  | .authenticate _ =>
      if device.status = .revoked then
        (finish s x request (.error (.device .deviceAuthentication)), [])
      else (finish s x request ((withRuntimeState s.manager device).map .device), [])
  | .getDevice _ => (finish s x request ((withRuntimeState s.manager device).map .device), [])
  | .revokeDevice _ =>
      if device.status = .revoked then disconnectRevoked s x request deviceId device
      else (s.setCall x ⟨request, .awaitingRevoke deviceId device none⟩, [])
  | .connectDevice _ transport =>
      if device.status = .revoked then
        (finish s x request (.error (.device (.deviceRevoked deviceId))), [])
      else connectTransport s x request deviceId transport inputs
  | .activateDevice _ sessionId advertised =>
      if device.status = .revoked then
        (finish s x request (.error (.device (.deviceRevoked deviceId))), [])
      else activateSession s x request deviceId sessionId advertised device inputs
  | .executeCommand _ capability action arguments =>
      executeWith s x request deviceId capability action arguments device inputs

/-- The task runs again with the answer of the database. -/
def proceed (s : State config) (x : Nat) (call : Call) (inputs : Inputs) :
    Option (Result config) :=
  match call.stage with
  | .awaitingAuthenticate _ (some (.error error)) => some (finish s x call.request (.error error), [])
  | .awaitingAuthenticate _ (some (.ok none)) =>
      some (finish s x call.request (.error (.device .deviceAuthentication)), [])
  | .awaitingAuthenticate _ (some (.ok (some deviceId))) =>
      some (s.setCall x ⟨call.request, .awaitingGet deviceId none⟩, [])
  | .awaitingGet _ (some (.error error)) => some (finish s x call.request (.error error), [])
  | .awaitingGet deviceId (some (.ok none)) =>
      some (finish s x call.request (.error (notFound deviceId call.request)), [])
  | .awaitingGet deviceId (some (.ok (some device))) =>
      some (withDevice s x call.request deviceId device inputs)
  | .awaitingRevoke _ _ (some (.error error)) => some (finish s x call.request (.error error), [])
  | .awaitingRevoke deviceId device (some (.ok ())) =>
      match revokedDevice device inputs.clock with
      | .error error => some (finish s x call.request (.error error), [])
      | .ok device => some (s.setCall x ⟨call.request, .awaitingSave deviceId device none⟩, [])
  | .awaitingSave _ _ (some (.error error)) => some (finish s x call.request (.error error), [])
  | .awaitingSave deviceId device (some (.ok ())) =>
      some (disconnectRevoked s x call.request deviceId device)
  | _ => none

def readAnswer {α : Type} (value : Except Raised α) : AwaitOutcome → Except Raised α
  | .completed => value
  | .interrupted error _ => .error error

def writeAnswer (tables : Tables Digest) (written : Except Raised (Tables Digest)) :
    AwaitOutcome → Tables Digest × Except Raised Unit
  | .completed =>
      match written with
      | .ok tables => (tables, .ok ())
      | .error error => (tables, .error error)
  | .interrupted error applied =>
      match applied, written with
      | true, .ok tables => (tables, .error error)
      | _, _ => (tables, .error error)

/-- The database carries out the operation that the call awaits, or fails. -/
def perform [DecidableEq Digest] (s : State config) (x : Nat) (call : Call)
    (outcome : AwaitOutcome) : Option (Result config) :=
  match call.stage with
  | .awaitingAuthenticate token none =>
      let answer := readAnswer (.ok (s.tables.authenticate config.codec token)) outcome
      some (s.setCall x ⟨call.request, .awaitingAuthenticate token (some answer)⟩, [])
  | .awaitingGet deviceId none =>
      let answer := readAnswer (s.tables.get config.dialect deviceId) outcome
      some (s.setCall x ⟨call.request, .awaitingGet deviceId (some answer)⟩, [])
  | .awaitingRevoke deviceId device none =>
      let (tables, answer) := writeAnswer s.tables (.ok (s.tables.revoke deviceId)) outcome
      some ((s.withTables tables).setCall x
        ⟨call.request, .awaitingRevoke deviceId device (some answer)⟩, [])
  | .awaitingSave deviceId device none =>
      let (tables, answer) := writeAnswer s.tables (s.tables.save device) outcome
      some ((s.withTables tables).setCall x
        ⟨call.request, .awaitingSave deviceId device (some answer)⟩, [])
  | _ => none

/-- The transport has been closed; `except Exception` hides its failures, but not a
cancellation. -/
def endClose (s : State config) (x : Nat) (call : Call) (failure : Option Raised) :
    Option (Result config) :=
  match call.stage, failure with
  | .awaitingClose value, none => some (finish s x call.request (.ok value), [])
  | .awaitingClose value, some error =>
      if error.isException then some (finish s x call.request (.ok value), [])
      else some (finish s x call.request (.error error), [])
  | _, _ => none

/-- A method up to its first await. -/
def begin (s : State config) (x : Nat) (request : Request) : State config :=
  let locked (deviceId : UUID) : State config :=
    if s.lifecycle.available then
      State.setCall { s with lifecycle := s.lifecycle.take x } x
        ⟨request, .awaitingGet deviceId none⟩
    else
      State.setCall { s with lifecycle := s.lifecycle.enqueue x } x
        ⟨request, .waitingForLock false⟩
  match request with
  | .authenticate token => s.setCall x ⟨request, .awaitingAuthenticate token none⟩
  | .revokeDevice deviceId | .connectDevice deviceId _ => locked deviceId
  | .getDevice deviceId | .activateDevice deviceId _ _ | .executeCommand deviceId _ _ _ =>
      s.setCall x ⟨request, .awaitingGet deviceId none⟩

/-- The device that a request under the lock is about. -/
def Request.deviceId? : Request → Option UUID
  | .authenticate _ => none
  | .getDevice deviceId | .revokeDevice deviceId | .connectDevice deviceId _
  | .activateDevice deviceId _ _ | .executeCommand deviceId _ _ _ => some deviceId

/-- A waiter of `_lifecycle_lock` runs again: woken by a release, or by a cancellation. -/
def resumeLock (s : State config) (x : Nat) (call : Call) : Option (Result config) :=
  let abandoned :=
    (State.setCall { s with lifecycle := s.lifecycle.abandon x } x
      ⟨call.request, .finished (.error .cancelled)⟩, [])
  match call.stage, s.lifecycle.waiterState x, call.request.deviceId? with
  | .waitingForLock false, some .woken, some deviceId =>
      some (State.setCall { s with lifecycle := s.lifecycle.grant x } x
        ⟨call.request, .awaitingGet deviceId none⟩, [])
  | .waitingForLock true, some .woken, _ | .waitingForLock true, some .cancelled, _ =>
      some abandoned
  | _, _, _ => none

def cancelWaiting (s : State config) (x : Nat) (call : Call) : Option (Result config) :=
  match call.stage with
  | .waitingForLock _ =>
      some (State.setCall { s with lifecycle := s.lifecycle.cancelWaiter x } x
        ⟨call.request, .waitingForLock true⟩, [])
  | _ => none

/-- What the rest of the process does with the manager by itself: the methods that
the service only passes on, and the tasks of `execute` calls. -/
def passedOn : Manager.Execution.Action → Bool
  | .connect _ _ _ _ | .activate _ _ _ _ _ | .disconnectDevice _ _ _ | .execute _ _ _ _ => false
  | _ => true

inductive Action (config : Config Digest)
  | createPairing (call : Nat) (granted : Finset DeviceCapability) (pairingId : UUID)
      (secret : String) (clock : Datetime)
  | pairDevice (call : Nat) (pairingId : UUID) (secret deviceName : String) (clock : Datetime)
      (setup : Sql.Setup)
  | resumePairing (call : Nat) (clock : Datetime) (setup : Sql.Setup)
  | cancelPairing (call : Nat)
  | advancePairing (call : Nat) (outcome : AwaitOutcome)
  | connections (action : Manager.Execution.Action)
  | start (call : Nat) (request : Request)
  | resumeLock (call : Nat)
  | cancelWaiting (call : Nat)
  | perform (call : Nat) (outcome : AwaitOutcome)
  | proceed (call : Nat) (inputs : Inputs)
  | endClose (call : Nat) (failure : Option Raised)

def pairingAction : Action config → Option (Pairing.Challenges.Action (sql config.codec))
  | .createPairing x granted pairingId secret clock =>
      some (.create x granted config.pairingTtl pairingId secret clock)
  | .pairDevice x pairingId secret deviceName clock setup =>
      some (.claim x pairingId secret deviceName clock setup)
  | .resumePairing x clock setup => some (.resumeLock x clock setup)
  | .cancelPairing x => some (.cancelWaiting x)
  | .advancePairing x outcome => some (.advance x outcome)
  | _ => none

def onCall (s : State config) (x : Nat) (f : Call → Option (Result config)) :
    Option (Result config) :=
  match s.calls x with
  | some call => f call
  | none => none

/-- The result of `pair_device`. -/
def paired : Except Raised (Option DeviceCredential) → Except Raised DeviceCredential
  | .ok (some credential) => .ok credential
  | .ok none => .error (.device .invalidPairing)
  | .error error => .error error

variable [DecidableEq Digest]

def step (s : State config) (action : Action config) : Option (Result config) :=
  match pairingAction action with
  | some pairingAction =>
      match Pairing.Challenges.step config.pairing s.pairing pairingAction with
      | some (pairing, events) => some ({ s with pairing }, events.map .pairing)
      | none => none
  | none =>
      match action with
      | .connections action =>
          if passedOn action then
            match Manager.Execution.step s.manager action with
            | some (manager, events) => some ({ s with manager }, events.map .transport)
            | none => none
          else none
      | .start x request =>
          match s.calls x with
          | none => some (begin s x request, [])
          | some _ => none
      | .resumeLock x => onCall s x (resumeLock s x)
      | .cancelWaiting x => onCall s x (cancelWaiting s x)
      | .perform x outcome => onCall s x fun call => perform s x call outcome
      | .proceed x inputs => onCall s x fun call => proceed s x call inputs
      | .endClose x failure => onCall s x fun call => endClose s x call failure
      | _ => none

def service (config : Config Digest) : System (State config) (Action config) (Event Digest) where
  start := .initial config
  step := step

end JarvisCore.Service.Operations
