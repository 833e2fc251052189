import Mathlib.Logic.Function.Basic
import JarvisCore.Domain.Models
import JarvisCore.Foundation.AsyncIO
import JarvisCore.Foundation.Dictionary
import JarvisCore.Foundation.TransitionSystem

/-!
The pairing challenges that `InMemoryDevicePairing` and `SqlAlchemyDevicePairing`
keep in the same way. They differ in how a claim with the right secret registers
its device, which is a parameter here.
-/

namespace JarvisCore.Pairing.Challenges

open JarvisCore.Domain.Values
open JarvisCore.Domain.Errors
open JarvisCore.Domain.Models
open JarvisCore.Foundation.AsyncIO
open JarvisCore.Foundation.Dictionary
open JarvisCore.Foundation.TransitionSystem

/-- One entry of `_pairings`. `challenge` is the identity of the object: the number
of the `create` call that made it. -/
structure PairingRecord (Digest : Type) where
  challenge : Nat
  secretDigest : Digest
  grantedCapabilities : Finset DeviceCapability
  expiresAt : AwareDatetime
  failedAttempts : Nat

structure DevicePairingChallenge where
  id : UUID
  secret : String
  grantedCapabilities : Finset DeviceCapability
  expiresAt : AwareDatetime

structure DeviceCredential where
  device : Device
  token : String

/-- What the constructors fix. -/
structure Config (Digest : Type) where
  digest : String → Digest
  maxClaimAttempts : Nat
  attempts_positive : 1 ≤ maxClaimAttempts

/-- How far the registration of a device has come when its task runs again. -/
inductive Resumption (Stage : Type)
  | suspended (stage : Stage)
  | returned (token : String)
  | raised (error : Raised)

/-- The registration of the device of a claim: up to its first await, and from one
await to the next. `Setup` is what the factories yield for it, `Input` what the
environment decides at an await. -/
structure Backend where
  Store : Type
  Setup : Type
  Stage : Type
  Input : Type
  readClock : Datetime → Except Raised AwareDatetime
  start : Setup → String → Finset DeviceCapability → AwareDatetime → Store →
    Store × Except Raised (Device × Stage)
  resume : Stage → Input → Store → Option (Store × Resumption Stage)
  start_granted : ∀ setup name granted now store store' device stage,
    start setup name granted now store = (store', .ok (device, stage)) →
      device.grantedCapabilities = granted

variable {Digest : Type}

inductive CreateStage
  | waitingForLock (cancelRequested : Bool)
  | finished (outcome : Except Raised DevicePairingChallenge)

structure CreateCall (Digest : Type) where
  challenge : DevicePairingChallenge
  record : PairingRecord Digest
  stage : CreateStage

inductive ClaimStage (B : Backend)
  | waitingForLock (cancelRequested : Bool)
  | registering (stage : B.Stage)
  | finished (outcome : Except Raised (Option DeviceCredential))

/-- The local variables of a claim that found the right secret. -/
structure Registration (Digest : Type) where
  record : PairingRecord Digest
  now : AwareDatetime
  device : Device

structure ClaimCall (Digest : Type) (B : Backend) where
  pairingId : UUID
  secret : String
  deviceName : String
  registration : Option (Registration Digest)
  stage : ClaimStage B

inductive PairingCall (Digest : Type) (B : Backend)
  /-- It raised before it asked for the lock. -/
  | refused (error : Raised)
  | create (call : CreateCall Digest)
  | claim (call : ClaimCall Digest B)

structure State (Digest : Type) (B : Backend) where
  pairings : Dict UUID (PairingRecord Digest)
  lock : Lock Nat
  calls : Nat → Option (PairingCall Digest B)
  store : B.Store

def State.initial (B : Backend) (store : B.Store) : State Digest B where
  pairings := ∅
  lock := .free
  calls := fun _ => none
  store := store

inductive Verdict
  | expired
  | wrongSecret
  | rightSecret
  deriving DecidableEq

/-- What a step did, as far as the statements about runs need it. -/
inductive Event (Digest : Type)
  | created (call : Nat) (challenge : DevicePairingChallenge) (record : PairingRecord Digest)
  | collided (call : Nat) (pairingId : UUID)
  | checked (call challenge : Nat) (secret : String) (now : AwareDatetime) (verdict : Verdict)
  | claimed (call challenge : Nat) (credential : DeviceCredential)

variable {B : Backend}

abbrev Result (Digest : Type) (B : Backend) := State Digest B × List (Event Digest)

def setCall (s : State Digest B) (x : Nat) (call : PairingCall Digest B) : State Digest B :=
  { s with calls := Function.update s.calls x (some call) }

/-- The call leaves `async with self._lock` and is over. -/
def finishCreate (s : State Digest B) (x : Nat) (call : CreateCall Digest)
    (outcome : Except Raised DevicePairingChallenge) : State Digest B :=
  setCall { s with lock := s.lock.release } x (.create { call with stage := .finished outcome })

def finishClaim (s : State Digest B) (x : Nat) (call : ClaimCall Digest B)
    (outcome : Except Raised (Option DeviceCredential)) : State Digest B :=
  setCall { s with lock := s.lock.release } x (.claim { call with stage := .finished outcome })

def createSection (s : State Digest B) (x : Nat) (call : CreateCall Digest) : Result Digest B :=
  match s.pairings.lookup call.challenge.id with
  | some _ =>
      (finishCreate s x call (.error (.runtimeError "pairing identifier collision")),
        [.collided x call.challenge.id])
  | none =>
      (finishCreate { s with pairings := s.pairings.insert call.challenge.id call.record } x call
          (.ok call.challenge),
        [.created x call.challenge call.record])

/-- What a claim with a wrong secret makes of the entry. -/
def countFailure (config : Config Digest) (pairingId : UUID) (record : PairingRecord Digest)
    (pairings : Dict UUID (PairingRecord Digest)) : Dict UUID (PairingRecord Digest) :=
  if config.maxClaimAttempts ≤ record.failedAttempts + 1 then pairings.erase pairingId
  else pairings.insert pairingId { record with failedAttempts := record.failedAttempts + 1 }

variable [DecidableEq Digest] (config : Config Digest)

/-- The critical section of `claim` up to its first await. -/
def claimSection (s : State Digest B) (x : Nat) (call : ClaimCall Digest B) (clock : Datetime)
    (setup : B.Setup) : Result Digest B :=
  match s.pairings.lookup call.pairingId with
  | none => (finishClaim s x call (.ok none), [])
  | some record =>
      match B.readClock clock with
      | .error error => (finishClaim s x call (.error error), [])
      | .ok now =>
          let checked := Event.checked x record.challenge call.secret now
          if record.expiresAt.instant ≤ now.instant then
            (finishClaim { s with pairings := s.pairings.erase call.pairingId } x call (.ok none),
              [checked .expired])
          else if record.secretDigest ≠ config.digest call.secret then
            (finishClaim
                { s with pairings := countFailure config call.pairingId record s.pairings } x call
                (.ok none),
              [checked .wrongSecret])
          else
            match B.start setup call.deviceName record.grantedCapabilities now s.store with
            | (store, .error error) =>
                (finishClaim { s with store } x call (.error error), [checked .rightSecret])
            | (store, .ok (device, stage)) =>
                (setCall { s with store } x (.claim
                    { call with registration := some ⟨record, now, device⟩
                                stage := .registering stage }),
                  [checked .rightSecret])

/-- `async with self._lock`: at once, or from the end of the queue. -/
def enter (s : State Digest B) (x : Nat) (call : PairingCall Digest B)
    (locked : State Digest B → Result Digest B) : Result Digest B :=
  if s.lock.available then locked { s with lock := s.lock.take x }
  else (setCall { s with lock := s.lock.enqueue x } x call, [])

/-- The checks of `create` before it asks for the lock. -/
def prepareCreate (x : Nat) (granted : Finset DeviceCapability) (ttl : Int) (pairingId : UUID)
    (secret : String) (clock : Datetime) : Except Raised (CreateCall Digest) :=
  if ttl ≤ 0 then .error (.valueError "Pairing time-to-live must be greater than zero.")
  else if secret.length < 16 then .error (.valueError "pairing secret is too short")
  else
    match clock.toAware? with
    | none => .error (.valueError "pairing clock must return a timezone-aware value")
    | some now =>
        .ok
          { challenge :=
              { id := pairingId, secret, grantedCapabilities := granted, expiresAt := now.add ttl }
            record :=
              { challenge := x, secretDigest := config.digest secret
                grantedCapabilities := granted, expiresAt := now.add ttl, failedAttempts := 0 }
            stage := .waitingForLock false }

/-- `cancelRequested` of a call that waits for the lock. -/
def waitingCancelled : PairingCall Digest B → Option Bool
  | .create ⟨_, _, .waitingForLock cancelRequested⟩ => some cancelRequested
  | .claim ⟨_, _, _, _, .waitingForLock cancelRequested⟩ => some cancelRequested
  | _ => none

/-- A cancelled waiter leaves the queue and raises. -/
def abandon (s : State Digest B) (x : Nat) (call : PairingCall Digest B) : State Digest B :=
  let s := { s with lock := s.lock.abandon x }
  match call with
  | .create call => setCall s x (.create { call with stage := .finished (.error .cancelled) })
  | .claim call => setCall s x (.claim { call with stage := .finished (.error .cancelled) })
  | .refused _ => s

def lockedSection (s : State Digest B) (x : Nat) (call : PairingCall Digest B) (clock : Datetime)
    (setup : B.Setup) : Result Digest B :=
  match call with
  | .refused _ => (s, [])
  | .create call => createSection s x call
  | .claim call => claimSection config s x call clock setup

/-- A waiter of the lock runs again: woken by a release, or by a cancellation. -/
def resumeLock (s : State Digest B) (x : Nat) (call : PairingCall Digest B) (clock : Datetime)
    (setup : B.Setup) : Option (Result Digest B) :=
  match waitingCancelled call, s.lock.waiterState x with
  | some false, some .woken =>
      some (lockedSection config { s with lock := s.lock.grant x } x call clock setup)
  | some true, some .woken | some true, some .cancelled => some (abandon s x call, [])
  | _, _ => none

def requestCancel : PairingCall Digest B → PairingCall Digest B
  | .create call => .create { call with stage := .waitingForLock true }
  | .claim call => .claim { call with stage := .waitingForLock true }
  | .refused error => .refused error

def cancelWaiting (s : State Digest B) (x : Nat) (call : PairingCall Digest B) :
    Option (Result Digest B) :=
  match waitingCancelled call with
  | some _ => some (setCall { s with lock := s.lock.cancelWaiter x } x (requestCancel call), [])
  | none => none

def advance (s : State Digest B) (x : Nat) (call : ClaimCall Digest B) (input : B.Input) :
    Option (Result Digest B) :=
  match call.stage, call.registration with
  | .registering stage, some registration =>
      match B.resume stage input s.store with
      | none => none
      | some (store, .suspended stage) =>
          some (setCall { s with store } x (.claim { call with stage := .registering stage }), [])
      | some (store, .raised error) => some (finishClaim { s with store } x call (.error error), [])
      | some (store, .returned token) =>
          let credential : DeviceCredential := ⟨registration.device, token⟩
          some (finishClaim { s with store, pairings := s.pairings.erase call.pairingId } x call
              (.ok (some credential)),
            [.claimed x registration.record.challenge credential])
  | _, _ => none

inductive Action (B : Backend)
  | create (call : Nat) (granted : Finset DeviceCapability) (ttl : Int) (pairingId : UUID)
      (secret : String) (clock : Datetime)
  | claim (call : Nat) (pairingId : UUID) (secret deviceName : String) (clock : Datetime)
      (setup : B.Setup)
  | resumeLock (call : Nat) (clock : Datetime) (setup : B.Setup)
  | cancelWaiting (call : Nat)
  | advance (call : Nat) (input : B.Input)

def actor : Action B → Nat
  | .create x _ _ _ _ _ | .claim x _ _ _ _ _ | .resumeLock x _ _ | .cancelWaiting x
  | .advance x _ => x

def step (s : State Digest B) : Action B → Option (Result Digest B)
  | .create x granted ttl pairingId secret clock =>
      match s.calls x with
      | some _ => none
      | none =>
          match prepareCreate config x granted ttl pairingId secret clock with
          | .error error => some (setCall s x (.refused error), [])
          | .ok call => some (enter s x (.create call) fun s => createSection s x call)
  | .claim x pairingId secret deviceName clock setup =>
      match s.calls x with
      | some _ => none
      | none =>
          let call : ClaimCall Digest B :=
            ⟨pairingId, secret, deviceName, none, .waitingForLock false⟩
          some (enter s x (.claim call) fun s => claimSection config s x call clock setup)
  | .resumeLock x clock setup =>
      match s.calls x with
      | some call => resumeLock config s x call clock setup
      | none => none
  | .cancelWaiting x =>
      match s.calls x with
      | some call => cancelWaiting s x call
      | none => none
  | .advance x input =>
      match s.calls x with
      | some (.claim call) => advance s x call input
      | _ => none

def pairing (store : B.Store) : System (State Digest B) (Action B) (Event Digest) where
  start := State.initial B store
  step := step config

end JarvisCore.Pairing.Challenges
