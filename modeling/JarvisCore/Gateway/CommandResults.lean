import JarvisCore.Gateway.FrameOrder
import JarvisCore.Protocol.RoundTrip

namespace JarvisCore.Gateway.CommandResults

open JarvisCore.Domain.Values
open JarvisCore.Domain.Errors
open JarvisCore.Domain.Models
open JarvisCore.Foundation.Text
open JarvisCore.Gateway.FrameOrder
open JarvisCore.Gateway.Handlers
open JarvisCore.Gateway.Transports (Job ServerMessage Transport)
open JarvisCore.Gateway.Wire
open JarvisCore.Manager.Operations (Addressed resolve resolve_cases)
open JarvisCore.Protocol.Messages (CommandResultPayload Envelope Runtime deviceMessageAdapter
  serverMessage)
open JarvisCore.Service.Operations (Config)

def rejected (sessionId commandId : UUID) : ServerMessage :=
  ⟨sessionId, .commandResultRejected commandId "command_is_not_pending"⟩

section Steps

variable {Digest : Type} [DecidableEq Digest] {config : Config Digest}

structure Resolved (s t : Wire.State config) (h : Nat) (handler : Handler) (seenIds : SeenIds)
    (sessionId : UUID) (result : DeviceCommandResult) : Prop where
  delivered : ∃ p, Addressed s.gateway.service.manager handler.deviceId sessionId result p ∧
    t.gateway.service.manager.futures p.future = .result result
  ready : t.gateway.handlers h = some { handler with seenIds }
  transports : t.transports = s.transports

/-- The handler has one message to send, for the command that is not pending. A transport
that is open writes the message, and then the handler is back in the READY loop. -/
structure Refused (settings : Settings) (s t : Wire.State config) (h : Nat) (handler : Handler)
    (seenIds : SeenIds) (sessionId commandId : UUID) : Prop where
  replies : t.gateway.handlers h = some { handler with seenIds, stage := .replying }
  requested : t.transports h =
    (s.transports h).request settings.encodes .handler (.send (rejected sessionId commandId))
  others : ∀ h', h' ≠ h → t.transports h' = s.transports h'
  written : ∀ (u : Transport) j, u.closed = false →
    (u.perform settings.encodes j ⟨.handler, .send (rejected sessionId commandId),
      .queued false⟩).frames = u.frames ++ [rejected sessionId commandId]
  returns : ∀ u : Operations.State config,
    u.handlers h = some { handler with seenIds, stage := .replying } →
      Operations.step u (.sent h none) = some (u.setHandler h { handler with seenIds }, [])

end Steps

section Samples

open JarvisCore.Protocol.RoundTrip (sampleRuntime)
open JarvisCore.Service.GrantContainment (sampleService sampleDevice)

end Samples

end JarvisCore.Gateway.CommandResults
