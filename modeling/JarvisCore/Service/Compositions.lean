import JarvisCore.Foundation.Lockstep
import JarvisCore.Service.Operations

namespace JarvisCore.Service.Compositions

open JarvisCore.Domain.Values
open JarvisCore.Domain.Errors
open JarvisCore.Domain.Models
open JarvisCore.Foundation.AsyncIO
open JarvisCore.Foundation.Dictionary
open JarvisCore.Foundation.Grouping (sortBy)
open JarvisCore.Foundation.Lockstep
open JarvisCore.Manager.Operations (disconnectDevice)
open JarvisCore.Pairing.Backends
open JarvisCore.Pairing.Challenges
open JarvisCore.Security.Credentials
open JarvisCore.Security.DeviceTables
open JarvisCore.Security.InMemoryStores
open JarvisCore.Service.Operations (revokedDevice withRuntimeState)

/-- What `uuid4` and the token factory yield for a registration. -/
structure Fresh where
  deviceId : UUID
  credentialId : UUID
  tokenSecret : String

inductive Request
  | createPairing (granted : Finset DeviceCapability) (pairingId : UUID) (secret : String)
  | pairDevice (pairingId : UUID) (secret deviceName : String) (fresh : Fresh)
  | authenticate (token : String)
  | getDevice (deviceId : UUID)
  | listDevices
  | revokeDevice (deviceId : UUID)

/-- A call, and what the UTC clock shows during it. -/
structure Call where
  request : Request
  clock : Int

def Call.reading (call : Call) : Datetime := ⟨call.clock, some 0⟩

inductive Value
  | challenge (challenge : DevicePairingChallenge)
  | credential (credential : DeviceCredential)
  | device (device : Device)
  | devices (devices : List Device)

/-- What a call returns or raises; `none` if it does not come to an end. -/
abbrev Reply := Option (Except Raised Value)

variable {Digest : Type}

/-- The registry, the identity and the pairing that a service is built on. -/
structure Composition (Digest : Type) where
  backend : Backend
  setup : Fresh → Datetime → backend.Setup
  completed : backend.Input
  empty : backend.Store
  get : backend.Store → UUID → Except Raised (Option Device)
  listAll : backend.Store → Except Raised (List Device)
  save : backend.Store → Device → Except Raised backend.Store
  authenticate : backend.Store → String → Option UUID
  revoke : backend.Store → UUID → backend.Store

def inMemoryResources [DecidableEq Digest] (codec : DeviceCredentialCodec Digest) :
    Composition Digest where
  backend := inMemory codec
  setup fresh clock := ⟨fresh.deviceId, clock, fresh.credentialId, fresh.tokenSecret⟩
  completed := AwaitOutcome.completed
  empty := Stores.empty
  get stores deviceId := .ok (Stores.get stores deviceId)
  listAll stores := .ok (Stores.listAll stores)
  save := Stores.save
  authenticate := Stores.authenticate codec
  revoke := Stores.revoke

def hiveResources [DecidableEq Digest] (codec : DeviceCredentialCodec Digest) (dialect : Dialect) :
    Composition Digest where
  backend := sql codec
  setup fresh _ := ⟨fresh.deviceId, fresh.credentialId, fresh.tokenSecret⟩
  completed := AwaitOutcome.completed
  empty := Tables.empty
  get := Tables.get dialect
  listAll := Tables.listAll dialect
  save := Tables.save
  authenticate := Tables.authenticate codec
  revoke := Tables.revoke

/-- The settings, and `str.casefold`. -/
structure Settings (Digest : Type) where
  pairing : Pairing.Challenges.Config Digest
  pairingTtl : Int
  casefold : String → String

structure State (C : Composition Digest) where
  pairing : Pairing.Challenges.State Digest C.backend
  manager : Manager.Operations.State
  calls : Nat

variable {C : Composition Digest}

def State.initial (C : Composition Digest) : State C where
  pairing := .initial C.backend C.empty
  manager := .initial
  calls := 0

def State.store (s : State C) : C.backend.Store := s.pairing.store

def State.setStore (s : State C) (store : C.backend.Store) : State C :=
  { s with pairing := { s.pairing with store } }

section Pairing

variable [DecidableEq Digest] {B : Backend} (config : Pairing.Challenges.Config Digest)

/-- The claim `x` is resumed as long as it is registering, at most so many times. -/
def settle (completed : B.Input) (x : Nat) :
    Nat → Pairing.Challenges.State Digest B → Pairing.Challenges.State Digest B
  | 0, s => s
  | n + 1, s =>
      match Pairing.Challenges.step config s (.advance x completed) with
      | some (s, _) => settle completed x n s
      | none => s

def runPairing (completed : B.Input) (x : Nat) (action : Action B)
    (s : Pairing.Challenges.State Digest B) : Pairing.Challenges.State Digest B :=
  match Pairing.Challenges.step config s action with
  | some (s, _) => settle config completed x 3 s
  | none => s

/-- What `create_pairing` and `pair_device` make of the outcome of the pairing's call. -/
def outcome : PairingCall Digest B → Reply
  | .refused error => some (.error error)
  | .create ⟨_, _, .finished (.ok challenge)⟩ => some (.ok (.challenge challenge))
  | .create ⟨_, _, .finished (.error error)⟩ => some (.error error)
  | .claim ⟨_, _, _, _, .finished (.ok (some credential))⟩ => some (.ok (.credential credential))
  | .claim ⟨_, _, _, _, .finished (.ok none)⟩ => some (.error (.device .invalidPairing))
  | .claim ⟨_, _, _, _, .finished (.error error)⟩ => some (.error error)
  | _ => none

end Pairing

variable [DecidableEq Digest] (settings : Settings Digest)

def pair (s : State C) (action : Nat → Action C.backend) : State C × Reply :=
  let x := s.calls
  let pairing := runPairing settings.pairing C.completed x (action x) s.pairing
  ({ s with pairing, calls := x + 1 }, (pairing.calls x).bind outcome)

def authenticate (s : State C) (token : String) : Except Raised Value :=
  match C.authenticate s.store token with
  | none => .error (.device .deviceAuthentication)
  | some deviceId =>
      match C.get s.store deviceId with
      | .error error => .error error
      | .ok none => .error (.device .deviceAuthentication)
      | .ok (some device) =>
          if device.status = .revoked then .error (.device .deviceAuthentication)
          else (withRuntimeState s.manager device).map .device

def getDevice (s : State C) (deviceId : UUID) : Except Raised Value :=
  match C.get s.store deviceId with
  | .error error => .error error
  | .ok none => .error (.device (.deviceNotFound deviceId))
  | .ok (some device) => (withRuntimeState s.manager device).map .device

def listDevices (s : State C) : Except Raised Value :=
  match C.listAll s.store with
  | .error error => .error error
  | .ok devices =>
      (devices.mapM (withRuntimeState s.manager)).map fun hydrated =>
        .devices (sortBy (fun device => toLex (settings.casefold device.name, device.id.text))
          hydrated)

/-- The end of `revoke_device`. -/
def disconnectRevoked (s : State C) (deviceId : UUID) (device : Device) :
    State C × Except Raised Value :=
  ({ s with manager := (disconnectDevice s.manager deviceId).1 }, .ok (.device device))

def revokeDevice (s : State C) (deviceId : UUID) (clock : Datetime) :
    State C × Except Raised Value :=
  match C.get s.store deviceId with
  | .error error => (s, .error error)
  | .ok none => (s, .error (.device (.deviceNotFound deviceId)))
  | .ok (some device) =>
      if device.status = .revoked then disconnectRevoked s deviceId device
      else
        let store := C.revoke s.store deviceId
        match revokedDevice device clock with
        | .error error => (s.setStore store, .error error)
        | .ok device =>
            match C.save store device with
            | .error error => (s.setStore store, .error error)
            | .ok saved => disconnectRevoked (s.setStore saved) deviceId device

def answer (s : State C) (call : Call) : State C × Reply :=
  match call.request with
  | .createPairing granted pairingId secret =>
      pair settings s fun x =>
        .create x granted settings.pairingTtl pairingId secret call.reading
  | .pairDevice pairingId secret deviceName fresh =>
      pair settings s fun x =>
        .claim x pairingId secret deviceName call.reading (C.setup fresh call.reading)
  | .authenticate token => (s, some (authenticate s token))
  | .getDevice deviceId => (s, some (getDevice s deviceId))
  | .listDevices => (s, some (listDevices settings s))
  | .revokeDevice deviceId =>
      let revoked := revokeDevice s deviceId call.reading
      (revoked.1, some revoked.2)

def service (C : Composition Digest) : Machine Call Reply where
  State := State C
  answer := answer settings

end JarvisCore.Service.Compositions
