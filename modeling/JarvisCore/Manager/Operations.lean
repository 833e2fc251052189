import Mathlib.Logic.Function.Basic
import JarvisCore.Domain.Models
import JarvisCore.Foundation.AsyncIO
import JarvisCore.Foundation.Dictionary

/-!
The atomic operations of `InMemoryDeviceConnectionManager`. No method suspends
while it holds the manager's `_lock`, so every critical section, together with
the completion of futures after it, is one function of the state.
-/

namespace JarvisCore.Manager.Operations

open JarvisCore.Domain.Values
open JarvisCore.Domain.Errors
open JarvisCore.Domain.Models
open JarvisCore.Foundation.AsyncIO
open JarvisCore.Foundation.Dictionary

/-- One live connection. `ref` is the identity of the object, `transport` that of
its transport; the `send_lock` of the object is kept in `State.sendLocks`. -/
structure LiveConnection where
  ref : Nat
  sessionId : UUID
  transport : Nat
  status : DeviceStatus
  advertisedCapabilities : Finset DeviceCapability
  effectiveCapabilities : Finset DeviceCapability
  connectedAt : AwareDatetime
  lastSeenAt : AwareDatetime
  effective_subset : effectiveCapabilities ⊆ advertisedCapabilities

/-- An entry of `_pending`. Every `execute` call makes one future and at most one
entry, so the number of the call identifies both objects. -/
structure PendingCommand where
  deviceId : UUID
  sessionId : UUID
  future : Nat
  deriving DecidableEq

abbrev ResultFuture := FutureState DeviceCommandResult Raised

inductive Outcome
  | returned (result : DeviceCommandResult)
  | raised (error : Raised)

/-- What an `execute` call fixed when it stored its entry: the local variables
`command`, `timeout_seconds` and `connection`. -/
structure Admission where
  command : DeviceCommand
  timeoutSeconds : Int
  connection : Nat
  sessionId : UUID
  transport : Nat

def Admission.entry (a : Admission) (call : Nat) : PendingCommand where
  deviceId := a.command.deviceId
  sessionId := a.sessionId
  future := call

/-- The await at which an admitted call is suspended. -/
inductive Stage
  | waitingForLock
  | sending
  | waiting (w : ShieldedWait DeviceCommandResult Raised)
  | finished (outcome : Outcome)

structure AdmittedCall where
  admission : Admission
  cancelRequested : Bool
  stage : Stage

/-- The call has registered and has not entered its cleanup. -/
def AdmittedCall.Active (call : AdmittedCall) : Prop := ∀ outcome, call.stage ≠ .finished outcome

inductive ExecuteCall
  /-- It raised before it stored an entry. -/
  | refused (command : DeviceCommand) (error : Raised)
  | admitted (call : AdmittedCall)

structure State where
  connections : Dict UUID LiveConnection
  pending : Dict UUID PendingCommand
  futures : Nat → ResultFuture
  sendLocks : Nat → Lock Nat
  calls : Nat → Option ExecuteCall
  nextRef : Nat

def State.initial : State where
  connections := ∅
  pending := ∅
  futures := fun _ => .pending
  sendLocks := fun _ => .free
  calls := fun _ => none
  nextRef := 0

/-- The calls that the manager makes on a transport. -/
inductive TransportCall
  | sendCommand (call transport : Nat) (command : DeviceCommand) (sessionId : UUID)
  | close (transport code : Nat) (reason : String)

def replacedCloseCode : Nat := 4409

def removePendingForDevice (deviceId : UUID) (pending : Dict UUID PendingCommand) :
    Dict UUID PendingCommand × List PendingCommand :=
  (Dict.filter (fun _ p => p.deviceId ≠ deviceId) pending,
    Dict.values (Dict.filter (fun _ p => p.deviceId = deviceId) pending))

def failPending (pendingCommands : List PendingCommand) (error : Raised)
    (futures : Nat → ResultFuture) : Nat → ResultFuture :=
  pendingCommands.foldl
    (fun futures p =>
      Function.update futures p.future ((futures p.future).completeWith (.exception error)))
    futures

/-- The removal of a device's entries and the failure of their futures, as
`connect`, `disconnect` and `disconnect_device` do them. -/
def dropPending (deviceId : UUID) (s : State) : State :=
  let removal := removePendingForDevice deviceId s.pending
  { s with
    pending := removal.1
    futures := failPending removal.2 (.device (.deviceOffline deviceId)) s.futures }

/-- Everything `connect` does before it closes the transport of the connection it
replaced, which is the second component. -/
def connect (s : State) (deviceId : UUID) (transport : Nat) (sessionId : UUID)
    (now : AwareDatetime) : State × Option LiveConnection :=
  let connection : LiveConnection :=
    { ref := s.nextRef, sessionId, transport, status := .connecting
      advertisedCapabilities := ∅, effectiveCapabilities := ∅
      connectedAt := now, lastSeenAt := now
      effective_subset := Finset.Subset.refl _ }
  let registered :=
    { s with
      connections := s.connections.insert deviceId connection
      nextRef := s.nextRef + 1 }
  (dropPending deviceId registered, s.connections.lookup deviceId)

def current (s : State) (deviceId sessionId : UUID) : Except Raised LiveConnection :=
  match s.connections.lookup deviceId with
  | none => .error (.device (.deviceOffline deviceId))
  | some connection =>
      if connection.sessionId ≠ sessionId then .error (.device (.deviceOffline deviceId))
      else .ok connection

def activate (s : State) (deviceId sessionId : UUID)
    (advertisedCapabilities effectiveCapabilities : Finset DeviceCapability)
    (now : AwareDatetime) : Except Raised State :=
  if h : effectiveCapabilities ⊆ advertisedCapabilities then
    match current s deviceId sessionId with
    | .error error => .error error
    | .ok connection =>
        .ok { s with
          connections := s.connections.insert deviceId
            { connection with
              status := .online
              advertisedCapabilities
              effectiveCapabilities
              lastSeenAt := now
              effective_subset := h } }
  else .error (.valueError "effective capabilities must be advertised by the device")

def disconnect (s : State) (deviceId sessionId : UUID) : State × Bool :=
  match s.connections.lookup deviceId with
  | none => (s, false)
  | some connection =>
      if connection.sessionId ≠ sessionId then (s, false)
      else (dropPending deviceId { s with connections := s.connections.erase deviceId }, true)

/-- Everything `disconnect_device` does before it closes the transport of the
connection it removed, which is the second component. -/
def disconnectDevice (s : State) (deviceId : UUID) : State × Option LiveConnection :=
  (dropPending deviceId { s with connections := s.connections.erase deviceId },
    s.connections.lookup deviceId)

def getState (s : State) (deviceId : UUID) : Option DeviceConnectionState :=
  (s.connections.lookup deviceId).map fun connection =>
    { sessionId := connection.sessionId
      status := connection.status
      advertisedCapabilities := connection.advertisedCapabilities
      effectiveCapabilities := connection.effectiveCapabilities
      connectedAt := connection.connectedAt
      lastSeenAt := connection.lastSeenAt
      effective_subset := connection.effective_subset }

def touch (s : State) (deviceId sessionId : UUID) (now : AwareDatetime) : State × Bool :=
  match s.connections.lookup deviceId with
  | none => (s, false)
  | some connection =>
      if connection.sessionId ≠ sessionId then (s, false)
      else
        ({ s with connections := s.connections.insert deviceId { connection with lastSeenAt := now } },
          true)

def resolve (s : State) (deviceId sessionId : UUID) (result : DeviceCommandResult) :
    State × Bool :=
  match s.pending.lookup result.commandId, s.connections.lookup deviceId with
  | some p, some connection =>
      if p.deviceId ≠ deviceId ∨ p.sessionId ≠ sessionId ∨ result.deviceId ≠ deviceId ∨
          connection.sessionId ≠ sessionId then (s, false)
      else if (s.futures p.future).done then
        ({ s with pending := s.pending.erase result.commandId }, false)
      else
        ({ s with
            pending := s.pending.erase result.commandId
            futures := Function.update s.futures p.future (.result result) },
          true)
  | _, _ => (s, false)

/-- The loop of `close_all` over the connections it removed. -/
def failPendingOf (connections : List (UUID × LiveConnection)) (pending : List PendingCommand)
    (futures : Nat → ResultFuture) : Nat → ResultFuture :=
  connections.foldl
    (fun futures c => failPending (pending.filter fun item => item.deviceId = c.1)
      (.device (.deviceOffline c.1)) futures)
    futures

/-- Everything `close_all` does before it closes the transports of the
connections it removed, which are the second component. -/
def closeAll (s : State) : State × List (UUID × LiveConnection) :=
  let connections := s.connections.entries.map fun e => (e.1, e.2)
  let pending := Dict.values s.pending
  ({ s with
      connections := ∅
      pending := ∅
      futures := failPendingOf connections pending s.futures },
    connections)

theorem failPending_apply (items : List PendingCommand) (error : Raised)
    (futures : Nat → ResultFuture) (x : Nat) :
    failPending items error futures x =
      if ∃ p ∈ items, p.future = x then (futures x).completeWith (.exception error)
      else futures x := by
  induction items generalizing futures with
  | nil => simp [failPending]
  | cons p items ih =>
      have hcons : failPending (p :: items) error futures =
          failPending items error (Function.update futures p.future
            ((futures p.future).completeWith (.exception error))) := rfl
      rw [hcons, ih]
      by_cases hp : p.future = x
      · subst hp
        cases futures p.future <;> simp [FutureState.completeWith]
      · have hx : x ≠ p.future := fun h => hp h.symm
        simp [Function.update_of_ne hx, hp]

theorem failPending_of_not_mem {items : List PendingCommand} {error : Raised}
    {futures : Nat → ResultFuture} {x : Nat} (h : ∀ p ∈ items, p.future ≠ x) :
    failPending items error futures x = futures x := by
  rw [failPending_apply, if_neg]
  rintro ⟨p, hp, hx⟩
  exact h p hp hx

theorem failPending_eq_result_iff {items : List PendingCommand} {error : Raised}
    {futures : Nat → ResultFuture} {x : Nat} {result : DeviceCommandResult} :
    failPending items error futures x = .result result ↔ futures x = .result result := by
  rw [failPending_apply]
  split
  · exact FutureState.fail_eq_result_iff
  · exact Iff.rfl

theorem dropPending_lookup {deviceId c : UUID} {s : State} {p : PendingCommand} :
    (dropPending deviceId s).pending.lookup c = some p ↔
      s.pending.lookup c = some p ∧ p.deviceId ≠ deviceId := by
  simp [dropPending, removePendingForDevice, Dict.lookup_filter_eq_some_iff]

theorem mem_removed_iff {deviceId : UUID} {pending : Dict UUID PendingCommand}
    {p : PendingCommand} :
    p ∈ (removePendingForDevice deviceId pending).2 ↔
      ∃ c, pending.lookup c = some p ∧ p.deviceId = deviceId := by
  simp [removePendingForDevice, Dict.mem_values, Dict.lookup_filter_eq_some_iff]

theorem dropPending_futures_of_kept {deviceId : UUID} {s : State} {x : Nat}
    (h : ∀ c p, s.pending.lookup c = some p → p.future = x → p.deviceId ≠ deviceId) :
    (dropPending deviceId s).futures x = s.futures x := by
  apply failPending_of_not_mem
  intro p hp hx
  obtain ⟨c, hc, hd⟩ := mem_removed_iff.mp hp
  exact h c p hc hx hd

theorem dropPending_futures_of_entry {deviceId c : UUID} {s : State} {p : PendingCommand}
    (hc : s.pending.lookup c = some p) (hd : p.deviceId = deviceId) :
    ((dropPending deviceId s).futures p.future).done = true := by
  have hmem : ∃ q ∈ (removePendingForDevice deviceId s.pending).2, q.future = p.future :=
    ⟨p, mem_removed_iff.mpr ⟨c, hc, hd⟩, rfl⟩
  simp only [dropPending, failPending_apply, if_pos hmem]
  exact FutureState.done_completeWith rfl

theorem dropPending_futures_eq_result_iff {deviceId : UUID} {s : State} {x : Nat}
    {result : DeviceCommandResult} :
    (dropPending deviceId s).futures x = .result result ↔ s.futures x = .result result := by
  simp only [dropPending]
  exact failPending_eq_result_iff

@[simp] theorem dropPending_connections (deviceId : UUID) (s : State) :
    (dropPending deviceId s).connections = s.connections := rfl
@[simp] theorem dropPending_calls (deviceId : UUID) (s : State) :
    (dropPending deviceId s).calls = s.calls := rfl
@[simp] theorem dropPending_sendLocks (deviceId : UUID) (s : State) :
    (dropPending deviceId s).sendLocks = s.sendLocks := rfl
@[simp] theorem dropPending_nextRef (deviceId : UUID) (s : State) :
    (dropPending deviceId s).nextRef = s.nextRef := rfl

theorem current_eq_ok_iff {s : State} {deviceId sessionId : UUID} {k : LiveConnection} :
    current s deviceId sessionId = .ok k ↔
      s.connections.lookup deviceId = some k ∧ k.sessionId = sessionId := by
  unfold current
  cases h : s.connections.lookup deviceId with
  | none => simp
  | some connection =>
      by_cases hs : connection.sessionId = sessionId
      · simp only [hs, ne_eq, not_true_eq_false, ite_false, Except.ok.injEq, Option.some.injEq]
        constructor
        · rintro rfl
          exact ⟨rfl, hs⟩
        · rintro ⟨rfl, -⟩
          rfl
      · simp only [ne_eq, hs, not_false_eq_true, ite_true, reduceCtorEq, Option.some.injEq,
          false_iff]
        rintro ⟨rfl, hk⟩
        exact hs hk

theorem activate_eq_ok {s t : State} {deviceId sessionId : UUID}
    {advertised effective : Finset DeviceCapability} {now : AwareDatetime}
    (h : activate s deviceId sessionId advertised effective now = .ok t) :
    ∃ k k', s.connections.lookup deviceId = some k ∧ k.sessionId = sessionId ∧
      k'.ref = k.ref ∧ k'.sessionId = k.sessionId ∧ k'.transport = k.transport ∧
      k'.status = .online ∧ k'.advertisedCapabilities = advertised ∧
      k'.effectiveCapabilities = effective ∧
      t = { s with connections := s.connections.insert deviceId k' } := by
  unfold activate at h
  split at h
  · rename_i hsubset
    split at h
    · cases h
    · rename_i k hk
      obtain ⟨hlookup, hsession⟩ := current_eq_ok_iff.mp hk
      cases h
      exact ⟨k, ⟨k.ref, k.sessionId, k.transport, .online, advertised, effective,
        k.connectedAt, now, hsubset⟩, hlookup, hsession, rfl, rfl, rfl, rfl, rfl, rfl, rfl⟩
  · cases h

/-- `touch` returns `True` exactly for the current session, and then only the time
of the last sign of life changes. -/
theorem touch_cases (s : State) (deviceId sessionId : UUID) (now : AwareDatetime) :
    touch s deviceId sessionId now = (s, false) ∨
      ∃ k, s.connections.lookup deviceId = some k ∧ k.sessionId = sessionId ∧
        touch s deviceId sessionId now =
          ({ s with
              connections := s.connections.insert deviceId { k with lastSeenAt := now } }, true) := by
  unfold touch
  cases h : s.connections.lookup deviceId with
  | none => exact .inl rfl
  | some k =>
      by_cases hs : k.sessionId = sessionId
      · exact .inr ⟨k, rfl, hs, by simp [hs]⟩
      · exact .inl (by simp [hs])

theorem disconnect_cases (s : State) (deviceId sessionId : UUID) :
    disconnect s deviceId sessionId = (s, false) ∨
      ∃ k, s.connections.lookup deviceId = some k ∧ k.sessionId = sessionId ∧
        disconnect s deviceId sessionId =
          (dropPending deviceId { s with connections := s.connections.erase deviceId }, true) := by
  unfold disconnect
  cases h : s.connections.lookup deviceId with
  | none => exact .inl rfl
  | some k =>
      by_cases hs : k.sessionId = sessionId
      · exact .inr ⟨k, rfl, hs, by simp [hs]⟩
      · exact .inl (by simp [hs])

/-- The guard under which `resolve` acts on an entry. -/
def Addressed (s : State) (deviceId sessionId : UUID) (result : DeviceCommandResult)
    (p : PendingCommand) : Prop :=
  s.pending.lookup result.commandId = some p ∧ p.deviceId = deviceId ∧
    p.sessionId = sessionId ∧ result.deviceId = deviceId ∧
    ∃ k, s.connections.lookup deviceId = some k ∧ k.sessionId = sessionId

/-- `resolve` ignores a result that addresses no entry; otherwise it removes the
entry, and completes the future when that is still open. -/
theorem resolve_cases (s : State) (deviceId sessionId : UUID) (result : DeviceCommandResult) :
    (resolve s deviceId sessionId result = (s, false) ∧
        ∀ p, ¬ Addressed s deviceId sessionId result p) ∨
      ∃ p, Addressed s deviceId sessionId result p ∧
        (((s.futures p.future).done = true ∧ resolve s deviceId sessionId result =
            ({ s with pending := s.pending.erase result.commandId }, false)) ∨
          (s.futures p.future = .pending ∧ resolve s deviceId sessionId result =
            ({ s with
                pending := s.pending.erase result.commandId
                futures := Function.update s.futures p.future (.result result) }, true))) := by
  unfold resolve
  cases hp : s.pending.lookup result.commandId with
  | none =>
      refine .inl ⟨rfl, ?_⟩
      rintro q ⟨hq, -⟩
      simp [hp] at hq
  | some p =>
      cases hk : s.connections.lookup deviceId with
      | none =>
          refine .inl ⟨rfl, ?_⟩
          rintro q ⟨-, -, -, -, k, hk', -⟩
          simp [hk] at hk'
      | some k =>
          by_cases hguard : p.deviceId ≠ deviceId ∨ p.sessionId ≠ sessionId ∨
              result.deviceId ≠ deviceId ∨ k.sessionId ≠ sessionId
          · refine .inl ⟨if_pos hguard, ?_⟩
            rintro q ⟨hq, h1, h2, h3, k', hk', h4⟩
            obtain rfl : p = q := Option.some.inj (hp.symm.trans hq)
            obtain rfl : k = k' := Option.some.inj (hk.symm.trans hk')
            rcases hguard with h | h | h | h
            · exact h h1
            · exact h h2
            · exact h h3
            · exact h h4
          · simp only [not_or, ne_eq, not_not] at hguard
            obtain ⟨h1, h2, h3, h4⟩ := hguard
            refine .inr ⟨p, ⟨hp, h1, h2, h3, k, hk, h4⟩, ?_⟩
            cases hf : s.futures p.future with
            | pending => exact .inr ⟨rfl, by simp [h1, h2, h3, h4, hf]⟩
            | result | exception | cancelled =>
                exact .inl ⟨rfl, by simp [h1, h2, h3, h4, hf]⟩

theorem failPending_done {items : List PendingCommand} {error : Raised}
    {futures : Nat → ResultFuture} {x : Nat} (h : (futures x).done = true) :
    (failPending items error futures x).done = true := by
  rw [failPending_apply, FutureState.completeWith_of_done h]
  split <;> exact h

theorem failPendingOf_done {connections : List (UUID × LiveConnection)}
    {pending : List PendingCommand} {futures : Nat → ResultFuture} {x : Nat}
    (h : (futures x).done = true) : (failPendingOf connections pending futures x).done = true := by
  induction connections generalizing futures with
  | nil => exact h
  | cons c connections ih => exact ih (failPending_done h)

theorem failPendingOf_of_entry {connections : List (UUID × LiveConnection)}
    {pending : List PendingCommand} {futures : Nat → ResultFuture} {p : PendingCommand}
    {k : LiveConnection} (hp : p ∈ pending) (hk : (p.deviceId, k) ∈ connections) :
    (failPendingOf connections pending futures p.future).done = true := by
  induction connections generalizing futures with
  | nil => simp at hk
  | cons c connections ih =>
      rcases List.mem_cons.mp hk with rfl | hk
      · have hfailed : (failPending (pending.filter fun item => item.deviceId = p.deviceId)
            (.device (.deviceOffline p.deviceId)) futures p.future).done = true := by
          rw [failPending_apply, if_pos ⟨p, by simp [hp], rfl⟩]
          exact FutureState.done_completeWith rfl
        show (failPendingOf connections pending _ p.future).done = true
        exact failPendingOf_done hfailed
      · exact ih hk

theorem mem_closeAll_connections {s : State} {deviceId : UUID} {k : LiveConnection} :
    (deviceId, k) ∈ (closeAll s).2 ↔ s.connections.lookup deviceId = some k := by
  simp only [closeAll, List.mem_map, Dict.lookup_eq_some_iff]
  constructor
  · rintro ⟨⟨d, k'⟩, he, heq⟩
    obtain ⟨rfl, rfl⟩ := Prod.mk.inj heq
    exact he
  · intro he
    exact ⟨⟨deviceId, k⟩, he, rfl⟩

end JarvisCore.Manager.Operations
