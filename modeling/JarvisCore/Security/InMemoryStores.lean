import Mathlib.Data.Prod.Lex
import Mathlib.Data.String.Basic
import JarvisCore.Domain.Models
import JarvisCore.Foundation.Dictionary
import JarvisCore.Foundation.Grouping
import JarvisCore.Security.Credentials

/-!
`InMemoryDeviceRegistry` and `InMemoryDeviceIdentity`. Their methods never suspend
inside their locks, so each is one function of the maps.
-/

namespace JarvisCore.Security.InMemoryStores

open JarvisCore.Domain.Values
open JarvisCore.Domain.Errors
open JarvisCore.Domain.Models
open JarvisCore.Foundation.Dictionary
open JarvisCore.Foundation.Grouping (sortBy)
open JarvisCore.Security.Credentials

structure CredentialRecord (Digest : Type) where
  deviceId : UUID
  digest : Digest

structure Stores (Digest : Type) where
  devices : Dict UUID Device
  credentials : Dict UUID (CredentialRecord Digest)
  deviceTokens : Dict UUID (List UUID)

variable {Digest : Type}

namespace Stores

def empty : Stores Digest := ⟨∅, ∅, ∅⟩

/-- `identity.revoke`: the credentials listed for the device go. -/
def revoke (stores : Stores Digest) (deviceId : UUID) : Stores Digest :=
  let previous := (stores.deviceTokens.lookup deviceId).getD []
  { stores with
    credentials := Dict.filter (fun tokenId _ => tokenId ∉ previous) stores.credentials
    deviceTokens := stores.deviceTokens.erase deviceId }

/-- `identity.issue`, which rotates every earlier credential of the device. -/
def issue (stores : Stores Digest) (deviceId : UUID) (issued : IssuedDeviceCredential Digest) :
    Except Raised (Stores Digest) :=
  if (stores.credentials.lookup issued.id).isSome then
    .error (.runtimeError "device token identifier collision")
  else
    let rotated := stores.revoke deviceId
    .ok
      { rotated with
        credentials := rotated.credentials.insert issued.id ⟨deviceId, issued.digest⟩
        deviceTokens := rotated.deviceTokens.insert deviceId [issued.id] }

def authenticate [DecidableEq Digest] (codec : DeviceCredentialCodec Digest)
    (stores : Stores Digest) (token : String) : Option UUID :=
  match codec.parseTokenId token with
  | none => none
  | some tokenId =>
      match stores.credentials.lookup tokenId with
      | none => none
      | some record =>
          if codec.matchesDigest token record.digest then some record.deviceId else none

def add (stores : Stores Digest) (device : Device) : Except Raised (Stores Digest) :=
  if (stores.devices.lookup device.id).isSome then
    .error (.valueError ("Device '" ++ device.id.text ++ "' is already registered."))
  else .ok { stores with devices := stores.devices.insert device.id device }

def get (stores : Stores Digest) (deviceId : UUID) : Option Device := stores.devices.lookup deviceId

def listAll (stores : Stores Digest) : List Device :=
  sortBy (fun device => toLex (device.pairedAt.instant, device.id.text)) (Dict.values stores.devices)

def save (stores : Stores Digest) (device : Device) : Except Raised (Stores Digest) :=
  match stores.devices.lookup device.id with
  | none => .error (.device (.deviceNotFound device.id))
  | some _ => .ok { stores with devices := stores.devices.insert device.id device }

def remove (stores : Stores Digest) (deviceId : UUID) : Stores Digest :=
  { stores with devices := stores.devices.erase deviceId }

theorem authenticate_eq_some [DecidableEq Digest] (codec : DeviceCredentialCodec Digest)
    {stores : Stores Digest} {token : String} {d : UUID} :
    stores.authenticate codec token = some d ↔
      ∃ c, codec.parseTokenId token = some c ∧
        (stores.credentials.lookup c).map (fun r => (r.deviceId, r.digest)) =
          some (d, codec.digest token) := by
  unfold authenticate
  cases codec.parseTokenId token with
  | none => simp
  | some c =>
      simp only [Option.some.injEq, exists_eq_left']
      cases stores.credentials.lookup c with
      | none => simp
      | some r => simp [DeviceCredentialCodec.matchesDigest, and_comm]

end Stores

end JarvisCore.Security.InMemoryStores
