import Mathlib.Data.Fintype.EquivFin
import JarvisCore.Foundation.LockOrder

/-!
How the coroutines of the device hive use their locks: each method with its locks, awaits
and ways out, under the name it has in the source. Which branch is taken, and which
connection or transport is found, is left open.
-/

namespace JarvisCore.Gateway.Locks

open JarvisCore.Foundation.Coroutines
open JarvisCore.Foundation.Coroutines.Code
open JarvisCore.Foundation.LockOrder
open JarvisCore.Foundation.TransitionSystem

/-- `_lifecycle_lock`, the manager's `_lock`, the `send_lock` of a connection, the
`_send_lock` of a transport, and the `_lock` of the registry, of the identity and of the
pairing. -/
inductive HiveLock
  | lifecycle
  | manager
  | connection (connection : Nat)
  | transport (transport : Nat)
  | registry
  | identity
  | pairing
  deriving DecidableEq

/-- What the registry, the identity and the pairing are built on. -/
inductive Stores
  | inMemory
  | sqlAlchemy

/-- An exception that some data raise. -/
def mayRaise : Code HiveLock := .choice .skip (.leave .raised)

def mayReturn : Code HiveLock := .choice .skip (.leave .returned)

def optional (p : Code HiveLock) : Code HiveLock := .choice .skip p

namespace InMemoryDeviceRegistry

def add : Code HiveLock := .withLock .registry mayRaise

def get : Code HiveLock := .withLock .registry (.leave .returned)

def save : Code HiveLock := .withLock .registry mayRaise

def remove : Code HiveLock := .withLock .registry (.leave .returned)

end InMemoryDeviceRegistry

namespace InMemoryDeviceIdentity

def issue : Code HiveLock :=
  .block [mayRaise, .withLock .identity mayRaise, .leave .returned]

def authenticate : Code HiveLock :=
  .block [mayReturn, .withLock .identity (.leave .returned)]

def revoke : Code HiveLock := .withLock .identity .skip

end InMemoryDeviceIdentity

/-- A method of the registry or of the identity. Those of the database await its session
and no lock. -/
def Stores.method (stores : Stores) (inMemory : Code HiveLock) : Code HiveLock :=
  match stores with
  | .inMemory => .call inMemory
  | .sqlAlchemy => .await

namespace InMemoryDevicePairing

def claim : Code HiveLock :=
  .withLock .pairing (.block
    [mayReturn, mayRaise, .call InMemoryDeviceIdentity.issue,
      .tryExcept (.call InMemoryDeviceRegistry.add) .baseException (.block
        [.tryFinally (.call InMemoryDeviceIdentity.revoke) (.call InMemoryDeviceRegistry.remove),
          .choice (.leave .raised) (.leave .cancelled)]),
      .leave .returned])

end InMemoryDevicePairing

namespace SqlAlchemyDevicePairing

def claim : Code HiveLock :=
  .withLock .pairing (.block [mayReturn, mayRaise, .await, .leave .returned])

end SqlAlchemyDevicePairing

/-- `create`, which both pairings have. -/
def create : Code HiveLock :=
  .block [mayRaise, .withLock .pairing mayRaise, .leave .returned]

def claim : Stores → Code HiveLock
  | .inMemory => InMemoryDevicePairing.claim
  | .sqlAlchemy => SqlAlchemyDevicePairing.claim

namespace WebSocketDeviceTransport

variable (transport : Nat)

def sendMessage : Code HiveLock := .withLock (.transport transport) (.block [mayRaise, .await])

def sendCommand : Code HiveLock := .call (sendMessage transport)

def close : Code HiveLock :=
  .withLock (.transport transport) (.block
    [mayReturn, .tryExcept .await .someExceptions .skip])

end WebSocketDeviceTransport

namespace InMemoryDeviceConnectionManager

/-- `try: await transport.close(…) except Exception: pass`, if there was a connection. -/
def closeFound : Code HiveLock :=
  optional (.choose fun transport =>
    .tryExcept (.call (WebSocketDeviceTransport.close transport)) .exception .skip)

def connect : Code HiveLock :=
  .block [.withLock .manager .skip, closeFound, .leave .returned]

def activate : Code HiveLock := .block [mayRaise, .withLock .manager mayRaise]

def disconnect : Code HiveLock := .block [.withLock .manager mayReturn, .leave .returned]

def disconnectDevice : Code HiveLock := .block [.withLock .manager .skip, closeFound]

def getState : Code HiveLock := .withLock .manager (.leave .returned)

def touch : Code HiveLock := .withLock .manager (.leave .returned)

/-- The command is sent under the `send_lock` of the connection that was found. -/
def send (connection transport : Nat) : Code HiveLock :=
  .withLock (.connection connection) (.block
    [.withLock .manager mayRaise,
      .tryExcept (.call (WebSocketDeviceTransport.sendCommand transport)) .exception
        (.block [.call disconnect, .leave .raised])])

def execute : Code HiveLock :=
  .block
    [mayRaise, .withLock .manager mayRaise,
      .choose fun connection => .choose fun transport =>
        .tryFinally
          (.block [send connection transport,
            .tryExcept (.block [.await, .leave .returned]) .someExceptions (.leave .raised)])
          (.withLock .manager .skip)]

def resolve : Code HiveLock := .withLock .manager (.leave .returned)

/-- `gather` runs each `close` as a task of its own. -/
def closeAll : Code HiveLock := .block [.withLock .manager .skip, .await]

end InMemoryDeviceConnectionManager

namespace DeviceService

variable (stores : Stores)

def createPairing : Code HiveLock := .block [.call create, .leave .returned]

def pairDevice : Code HiveLock := .block [.call (claim stores), mayRaise, .leave .returned]

def withRuntimeState : Code HiveLock :=
  .block [mayReturn, .call InMemoryDeviceConnectionManager.getState, .leave .returned]

def authenticate : Code HiveLock :=
  .block
    [stores.method InMemoryDeviceIdentity.authenticate, mayRaise,
      stores.method InMemoryDeviceRegistry.get, mayRaise, .call withRuntimeState,
      .leave .returned]

def getDevice : Code HiveLock :=
  .block
    [stores.method InMemoryDeviceRegistry.get, mayRaise, .call withRuntimeState,
      .leave .returned]

def revokeDevice : Code HiveLock :=
  .withLock .lifecycle (.block
    [stores.method InMemoryDeviceRegistry.get, mayRaise,
      optional (.block
        [stores.method InMemoryDeviceIdentity.revoke,
          stores.method InMemoryDeviceRegistry.save]),
      .call InMemoryDeviceConnectionManager.disconnectDevice, .leave .returned])

def connectDevice : Code HiveLock :=
  .withLock .lifecycle (.block
    [stores.method InMemoryDeviceRegistry.get, mayRaise,
      .call InMemoryDeviceConnectionManager.connect, .leave .returned])

def activateDevice : Code HiveLock :=
  .block
    [stores.method InMemoryDeviceRegistry.get, mayRaise,
      .call InMemoryDeviceConnectionManager.activate, .leave .returned]

def disconnectDeviceSession : Code HiveLock :=
  .block [.call InMemoryDeviceConnectionManager.disconnect, .leave .returned]

def markSeen : Code HiveLock :=
  .block [.call InMemoryDeviceConnectionManager.touch, .leave .returned]

def executeCommand : Code HiveLock :=
  .block
    [.call (getDevice stores), mayRaise, .call InMemoryDeviceConnectionManager.execute,
      .leave .returned]

def acceptCommandResult : Code HiveLock :=
  .block [mayRaise, .call InMemoryDeviceConnectionManager.resolve, mayRaise]

def shutdown : Code HiveLock := .call InMemoryDeviceConnectionManager.closeAll

end DeviceService

section Gateway

open WebSocketDeviceTransport (sendMessage close)

variable (stores : Stores) (transport : Nat)

def rejectHandshake : Code HiveLock := .tryExcept .await .someExceptions .await

def receiveMessage : Code HiveLock :=
  .block [.await, mayRaise, optional (.block [.await, .leave .raised]), mayRaise, .leave .returned]

def protocolError : Code HiveLock :=
  .block
    [.tryExcept (.call (sendMessage transport)) .someExceptions .skip, .call (close transport)]

def heartbeatLoop : Code HiveLock :=
  .loop (.block
    [.await, .call (sendMessage transport),
      .tryExcept .await .someExceptions (.block [.call (close transport), .leave .returned])])

/-- The branches of a message in the ready state. -/
def handleMessage : Code HiveLock :=
  .choice (.block [mayRaise, .call DeviceService.markSeen])
    (.choice
      (.block [.call (DeviceService.activateDevice stores), .call (sendMessage transport)])
      (.choice
        (.tryExcept (.call DeviceService.acceptCommandResult) .someExceptions
          (.call (sendMessage transport)))
        (.leave .raised)))

/-- The body of the handler's `try`. The heartbeat is a task of its own. -/
def session : Code HiveLock :=
  .block
    [.call (DeviceService.connectDevice stores), .call (sendMessage transport),
      .tryExcept (.call receiveMessage) .someExceptions
        (.block [.call (close transport), .leave .returned]),
      optional (.block [.call (protocolError transport), .leave .returned]),
      mayRaise, .call (DeviceService.activateDevice stores), .call (sendMessage transport),
      .loop (.block [.call receiveMessage, mayRaise, handleMessage stores transport])]

def deviceGateway : Code HiveLock :=
  .block
    [optional (.block [.call rejectHandshake, .leave .returned]),
      .tryExcept (.call (DeviceService.authenticate stores)) .someExceptions
        (.block [.call rejectHandshake, .leave .returned]),
      .await,
      .tryFinally
        (.tryExcept (session stores transport) .exception
          (.choice (optional (.call (protocolError transport))) (.call (close transport))))
        (.block
          [optional (.tryExcept .await .cancelledError .skip),
            optional (.call DeviceService.disconnectDeviceSession)])]

end Gateway

inductive Request
  | gateway (transport : Nat)
  | heartbeat (transport : Nat)
  | closeTransport (transport : Nat)
  | createPairing
  | pairDevice
  | getDevice
  | executeCommand
  | revokeDevice
  | shutdown

def program (stores : Stores) : Request → Code HiveLock
  | .gateway transport => deviceGateway stores transport
  | .heartbeat transport => heartbeatLoop transport
  | .closeTransport transport => WebSocketDeviceTransport.close transport
  | .createPairing => DeviceService.createPairing
  | .pairDevice => DeviceService.pairDevice stores
  | .getDevice => DeviceService.getDevice stores
  | .executeCommand => DeviceService.executeCommand stores
  | .revokeDevice => DeviceService.revokeDevice stores
  | .shutdown => DeviceService.shutdown

/-- The locks that are taken first, and those under which no other lock is taken. -/
def rank : HiveLock → Fin 2
  | .lifecycle | .connection _ | .pairing => 0
  | .manager | .transport _ | .registry | .identity => 1

abbrev InOrder (held : List HiveLock) (p : Code HiveLock) : Prop :=
  Ordered rank (fun l => l = .manager) held p

/-- Only locks that are taken first are held. -/
def Outer (held : List HiveLock) : Prop := ∀ l ∈ held, rank l = 0

theorem Outer.nil : Outer [] := by
  intro l hl
  cases hl

theorem Outer.single {l : HiveLock} (h : rank l = 0) : Outer [l] := by
  intro l' hl'
  rw [List.mem_singleton.mp hl', h]

variable {held : List HiveLock}

theorem Outer.ne_manager (h : Outer held) : ∀ l ∈ held, l ≠ .manager := by
  rintro l hl rfl
  exact absurd (h _ hl) (by decide)

theorem Outer.await (h : Outer held) : InOrder held .await := h.ne_manager

theorem Outer.withLock (h : Outer held) {l : HiveLock} (hl : rank l = 1) {p : Code HiveLock}
    (hp : InOrder (l :: held) p) : InOrder held (.withLock l p) := by
  refine ⟨?_, hp⟩
  intro l' hl'
  refine ⟨?_, h.ne_manager l' hl'⟩
  rw [h l' hl', hl]
  decide

@[simp] theorem inOrder_mayRaise : InOrder held mayRaise := by simp [mayRaise]

@[simp] theorem inOrder_mayReturn : InOrder held mayReturn := by simp [mayReturn]

@[simp] theorem inOrder_optional {p : Code HiveLock} :
    InOrder held (optional p) ↔ InOrder held p := by
  simp [optional]

section Methods

variable (h : Outer held)

include h

theorem registry_inOrder : InOrder held InMemoryDeviceRegistry.add ∧
    InOrder held InMemoryDeviceRegistry.get ∧ InOrder held InMemoryDeviceRegistry.save ∧
    InOrder held InMemoryDeviceRegistry.remove :=
  ⟨h.withLock rfl inOrder_mayRaise, h.withLock rfl trivial, h.withLock rfl inOrder_mayRaise,
    h.withLock rfl trivial⟩

theorem identity_inOrder : InOrder held InMemoryDeviceIdentity.issue ∧
    InOrder held InMemoryDeviceIdentity.authenticate ∧
    InOrder held InMemoryDeviceIdentity.revoke := by
  have hissue : InOrder held (.withLock .identity mayRaise) := h.withLock rfl inOrder_mayRaise
  have hauthenticate : InOrder held (.withLock .identity (.leave .returned)) :=
    h.withLock rfl trivial
  refine ⟨?_, ?_, h.withLock rfl trivial⟩
  · simp [InMemoryDeviceIdentity.issue, hissue]
  · simp [InMemoryDeviceIdentity.authenticate, hauthenticate]

theorem method_inOrder (stores : Stores) {p : Code HiveLock} (hp : InOrder held p) :
    InOrder held (stores.method p) := by
  cases stores with
  | inMemory => exact hp
  | sqlAlchemy => exact h.await

theorem await_inOrder (transport : Nat) : InOrder (.transport transport :: held) .await := by
  intro l hl
  rcases List.mem_cons.mp hl with rfl | hl
  · simp
  · exact h.ne_manager l hl

theorem sendMessage_inOrder (transport : Nat) :
    InOrder held (WebSocketDeviceTransport.sendMessage transport) := by
  apply h.withLock rfl
  simp [await_inOrder h transport]

theorem close_inOrder (transport : Nat) :
    InOrder held (WebSocketDeviceTransport.close transport) := by
  apply h.withLock rfl
  simp [await_inOrder h transport]

/-- The methods of the manager that a handler or the service calls, but for `execute`. -/
theorem manager_inOrder : InOrder held InMemoryDeviceConnectionManager.connect ∧
    InOrder held InMemoryDeviceConnectionManager.activate ∧
    InOrder held InMemoryDeviceConnectionManager.disconnect ∧
    InOrder held InMemoryDeviceConnectionManager.disconnectDevice ∧
    InOrder held InMemoryDeviceConnectionManager.getState ∧
    InOrder held InMemoryDeviceConnectionManager.touch ∧
    InOrder held InMemoryDeviceConnectionManager.resolve ∧
    InOrder held InMemoryDeviceConnectionManager.closeAll := by
  have hlock : ∀ p : Code HiveLock, (∀ locks, InOrder locks p) →
      InOrder held (.withLock .manager p) := fun p hp => h.withLock rfl (hp _)
  have hskip := hlock .skip fun _ => trivial
  have hraise := hlock mayRaise fun _ => inOrder_mayRaise
  have hmayReturn := hlock mayReturn fun _ => inOrder_mayReturn
  have hreturn := hlock (.leave .returned) fun _ => trivial
  have hclose : InOrder held InMemoryDeviceConnectionManager.closeFound := by
    simp [InMemoryDeviceConnectionManager.closeFound, close_inOrder h]
  refine ⟨?_, ?_, ?_, ?_, hreturn, hreturn, hreturn, ?_⟩
  · simp [InMemoryDeviceConnectionManager.connect, hskip, hclose]
  · simp [InMemoryDeviceConnectionManager.activate, hraise]
  · simp [InMemoryDeviceConnectionManager.disconnect, hmayReturn]
  · simp [InMemoryDeviceConnectionManager.disconnectDevice, hskip, hclose]
  · simp [InMemoryDeviceConnectionManager.closeAll, hskip, h.await]

end Methods

theorem inOrder_withLock {l : HiveLock} (hl : rank l = 0) {p : Code HiveLock}
    (hp : ∀ held, Outer held → InOrder held p) : InOrder [] (.withLock l p) := by
  refine ⟨?_, hp [l] (.single hl)⟩
  intro l' hl'
  cases hl'

theorem execute_inOrder : InOrder [] InMemoryDeviceConnectionManager.execute := by
  have hraise : ∀ held, Outer held → InOrder held (.withLock .manager mayRaise) :=
    fun held h => h.withLock rfl inOrder_mayRaise
  have hskip : InOrder [] (.withLock .manager .skip) := Outer.nil.withLock rfl trivial
  have hsend : ∀ connection transport,
      InOrder [] (InMemoryDeviceConnectionManager.send connection transport) := by
    intro connection transport
    apply inOrder_withLock rfl
    intro held h
    obtain ⟨-, -, hdisconnect, -⟩ := manager_inOrder h
    simp [hraise held h, hdisconnect, WebSocketDeviceTransport.sendCommand, sendMessage_inOrder h]
  simp [InMemoryDeviceConnectionManager.execute, hraise [] .nil, hskip, hsend, Outer.nil.await]

theorem create_inOrder : InOrder [] create := by
  have hlock : InOrder [] (.withLock .pairing mayRaise) :=
    inOrder_withLock rfl fun _ _ => inOrder_mayRaise
  simp [create, hlock]

theorem claim_inOrder (stores : Stores) : InOrder [] (claim stores) := by
  cases stores with
  | inMemory =>
      apply inOrder_withLock rfl
      intro held h
      obtain ⟨hadd, -, -, hremove⟩ := registry_inOrder h
      obtain ⟨hissue, -, hrevoke⟩ := identity_inOrder h
      simp [hadd, hremove, hissue, hrevoke]
  | sqlAlchemy =>
      apply inOrder_withLock rfl
      intro held h
      simp [h.await]

section Service

variable (stores : Stores)

theorem connectDevice_inOrder : InOrder [] (DeviceService.connectDevice stores) := by
  apply inOrder_withLock rfl
  intro held h
  obtain ⟨-, hget, -⟩ := registry_inOrder h
  obtain ⟨hconnect, -⟩ := manager_inOrder h
  simp [method_inOrder h stores hget, hconnect]

theorem revokeDevice_inOrder : InOrder [] (DeviceService.revokeDevice stores) := by
  apply inOrder_withLock rfl
  intro held h
  obtain ⟨-, hget, hsave, -⟩ := registry_inOrder h
  obtain ⟨-, -, hrevoke⟩ := identity_inOrder h
  obtain ⟨-, -, -, hdisconnect, -⟩ := manager_inOrder h
  simp [method_inOrder h stores hget, method_inOrder h stores hsave,
    method_inOrder h stores hrevoke, hdisconnect]

theorem authenticate_inOrder : InOrder [] (DeviceService.authenticate stores) := by
  obtain ⟨-, hget, -⟩ := registry_inOrder .nil
  obtain ⟨-, hauthenticate, -⟩ := identity_inOrder .nil
  obtain ⟨-, -, -, -, hstate, -⟩ := manager_inOrder .nil
  simp [DeviceService.authenticate, DeviceService.withRuntimeState, hstate,
    method_inOrder .nil stores hget, method_inOrder .nil stores hauthenticate]

theorem getDevice_inOrder : InOrder [] (DeviceService.getDevice stores) := by
  obtain ⟨-, hget, -⟩ := registry_inOrder .nil
  obtain ⟨-, -, -, -, hstate, -⟩ := manager_inOrder .nil
  simp [DeviceService.getDevice, DeviceService.withRuntimeState, hstate,
    method_inOrder .nil stores hget]

theorem activateDevice_inOrder : InOrder [] (DeviceService.activateDevice stores) := by
  obtain ⟨-, hget, -⟩ := registry_inOrder .nil
  obtain ⟨-, hactivate, -⟩ := manager_inOrder .nil
  simp [DeviceService.activateDevice, method_inOrder .nil stores hget, hactivate]

variable (transport : Nat)

theorem heartbeatLoop_inOrder : InOrder [] (heartbeatLoop transport) := by
  simp [heartbeatLoop, Outer.nil.await, sendMessage_inOrder .nil, close_inOrder .nil]

theorem session_inOrder : InOrder [] (session stores transport) := by
  obtain ⟨-, -, -, -, -, htouch, hresolve, -⟩ := manager_inOrder .nil
  have hreceive : InOrder [] receiveMessage := by
    simp [receiveMessage, Outer.nil.await]
  have herror : InOrder [] (protocolError transport) := by
    simp [protocolError, sendMessage_inOrder .nil, close_inOrder .nil]
  have hmessage : InOrder [] (handleMessage stores transport) := by
    simp [handleMessage, DeviceService.markSeen, DeviceService.acceptCommandResult, htouch,
      hresolve, activateDevice_inOrder, sendMessage_inOrder .nil]
  simp [session, connectDevice_inOrder, activateDevice_inOrder, sendMessage_inOrder .nil,
    close_inOrder .nil, hreceive, herror, hmessage]

theorem deviceGateway_inOrder : InOrder [] (deviceGateway stores transport) := by
  obtain ⟨-, -, hdisconnect, -⟩ := manager_inOrder .nil
  have hreject : InOrder [] rejectHandshake := by
    simp [rejectHandshake, Outer.nil.await]
  have herror : InOrder [] (protocolError transport) := by
    simp [protocolError, sendMessage_inOrder .nil, close_inOrder .nil]
  simp [deviceGateway, hreject, herror, authenticate_inOrder, session_inOrder, Outer.nil.await,
    close_inOrder .nil, DeviceService.disconnectDeviceSession, hdisconnect]

theorem program_inOrder (request : Request) : InOrder [] (program stores request) := by
  cases request with
  | gateway transport => exact deviceGateway_inOrder stores transport
  | heartbeat transport => exact heartbeatLoop_inOrder transport
  | closeTransport transport => exact close_inOrder .nil transport
  | createPairing => simp [program, DeviceService.createPairing, create_inOrder]
  | pairDevice => simp [program, DeviceService.pairDevice, claim_inOrder]
  | getDevice => exact getDevice_inOrder stores
  | executeCommand =>
      simp [program, DeviceService.executeCommand, getDevice_inOrder, execute_inOrder]
  | revokeDevice => exact revokeDevice_inOrder stores
  | shutdown =>
      obtain ⟨-, -, -, -, -, -, -, hclose⟩ := manager_inOrder .nil
      exact hclose

end Service

/-- No tasks wait for locks in a circle, and nothing suspends under the manager's lock. -/
theorem no_lock_deadlock (stores : Stores) (s : State HiveLock)
    (h : Reachable (eventLoop (program stores)) s) :
    (∀ tasks : Set Nat, tasks.Nonempty → ¬ Deadlocked s tasks) ∧
      ∀ x, (s.locks .manager).owner = some x → s.current = some x := by
  have hinvariant := invariant_of_reachable (program_inOrder stores) h
  constructor
  · intro tasks hnonempty
    exact hinvariant.not_deadlocked hnonempty
  · intro x howner
    exact hinvariant.current_of_brief rfl howner

section Sample

/-- A revocation awaits the registry, and another one asks for the lifecycle lock. -/
def sampleActions : List (Action Request) :=
  [.start 0 .revokeDevice, .resume 0 .completed, .go 0, .go 0, .go 0, .go 0,
    .start 1 .revokeDevice, .resume 1 .completed, .go 0, .go 0]

def isBlocked (s : State HiveLock) : Bool :=
  match s.tasks 1 with
  | some ⟨.waiting .lifecycle _ _, _⟩ => (s.locks .lifecycle).owner = some 0
  | _ => false

theorem no_lock_deadlock_blocked : ∃ s, Reachable (eventLoop (program .sqlAlchemy)) s ∧
    Waits s 1 .lifecycle ∧ (s.locks .lifecycle).owner = some 0 ∧
      (∀ tasks : Set Nat, tasks.Nonempty → ¬ Deadlocked s tasks) ∧
        ∀ x, (s.locks .manager).owner = some x → s.current = some x := by
  obtain ⟨history, s, hrun, hblocked⟩ := exists_run_of_replay
    (S := eventLoop (program .sqlAlchemy)) (s := (eventLoop (program .sqlAlchemy)).start)
    sampleActions (fun _ s => isBlocked s) (by decide)
  unfold isBlocked at hblocked
  split at hblocked
  · rename_i body cancelRequested k hwaiting
    exact ⟨s, hrun.reachable, ⟨body, cancelRequested, k, hwaiting⟩, of_decide_eq_true hblocked,
      no_lock_deadlock .sqlAlchemy s hrun.reachable⟩
  · cases hblocked

end Sample

end JarvisCore.Gateway.Locks
