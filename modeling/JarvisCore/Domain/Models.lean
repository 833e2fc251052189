import JarvisCore.Domain.Errors
import JarvisCore.Foundation.Text

namespace JarvisCore.Domain.Models

open JarvisCore.Domain.Values
open JarvisCore.Domain.Errors
open JarvisCore.Foundation.Text

def requireUtc (value : Datetime) (fieldName : String) : Except Raised AwareDatetime :=
  match value.toAware? with
  | some aware => .ok aware
  | none => .error (.valueError (fieldName ++ " must be timezone-aware"))

structure CapabilityDefinition where
  capability : DeviceCapability
  actions : List String
  actions_normalized : ∀ action ∈ actions, strip action = action ∧ action ≠ ""
  actions_nonempty : actions ≠ []

def CapabilityDefinition.make (capability : DeviceCapability) (actions : List String) :
    Except Raised CapabilityDefinition :=
  let normalized := actions.map strip
  if h : normalized ≠ [] ∧ ∀ action ∈ normalized, action ≠ "" then
    .ok
      { capability, actions := normalized
        actions_normalized := fun action haction => ⟨by
          obtain ⟨raw, -, rfl⟩ := List.mem_map.mp haction
          exact strip_strip raw, h.2 action haction⟩
        actions_nonempty := h.1 }
  else .error (.valueError "a capability must define at least one action")

structure Device where
  id : UUID
  name : String
  grantedCapabilities : Finset DeviceCapability
  pairedAt : AwareDatetime
  status : DeviceStatus
  advertisedCapabilities : Finset DeviceCapability
  lastSeenAt : Option AwareDatetime
  revokedAt : Option AwareDatetime
  name_normalized : strip name = name
  name_length : 0 < name.length ∧ name.length ≤ 120
  revoked_iff : status = .revoked ↔ revokedAt.isSome

namespace Device

/-- The checks of `__post_init__` that depend on the values and not on their types. -/
def make (id : UUID) (name : String) (grantedCapabilities : Finset DeviceCapability)
    (pairedAt : AwareDatetime) (status : DeviceStatus)
    (advertisedCapabilities : Finset DeviceCapability)
    (lastSeenAt revokedAt : Option AwareDatetime) : Except Raised Device :=
  if hname : 0 < (strip name).length ∧ (strip name).length ≤ 120 then
    if hrevoked : status = .revoked ↔ revokedAt.isSome then
      .ok
        { id, name := strip name, grantedCapabilities, pairedAt, status
          advertisedCapabilities, lastSeenAt, revokedAt
          name_normalized := strip_strip name
          name_length := hname
          revoked_iff := hrevoked }
    else .error (.valueError "revoked device status and timestamp must agree")
  else .error (.valueError "device name must contain 1 to 120 characters")

def availableCapabilities (d : Device) : Finset DeviceCapability :=
  d.grantedCapabilities ∩ d.advertisedCapabilities

theorem make_eq_ok {id : UUID} {name : String} {granted advertised : Finset DeviceCapability}
    {pairedAt : AwareDatetime} {status : DeviceStatus}
    {lastSeenAt revokedAt : Option AwareDatetime} {d : Device}
    (h : make id name granted pairedAt status advertised lastSeenAt revokedAt = .ok d) :
    d.id = id ∧ d.name = strip name ∧ d.grantedCapabilities = granted ∧ d.pairedAt = pairedAt ∧
      d.status = status ∧ d.advertisedCapabilities = advertised ∧
      d.lastSeenAt = lastSeenAt ∧ d.revokedAt = revokedAt := by
  unfold make at h
  split at h
  · split at h
    · cases h
      exact ⟨rfl, rfl, rfl, rfl, rfl, rfl, rfl, rfl⟩
    · cases h
  · cases h

theorem exists_make (id : UUID) {name : String} (granted advertised : Finset DeviceCapability)
    (pairedAt : AwareDatetime) (lastSeenAt : Option AwareDatetime) {status : DeviceStatus}
    {revokedAt : Option AwareDatetime}
    (hname : 0 < (strip name).length ∧ (strip name).length ≤ 120)
    (hrevoked : status = .revoked ↔ revokedAt.isSome) :
    ∃ d, make id name granted pairedAt status advertised lastSeenAt revokedAt = .ok d := by
  unfold make
  rw [dif_pos hname, dif_pos hrevoked]
  exact ⟨_, rfl⟩

end Device

structure DeviceConnectionState where
  sessionId : UUID
  status : DeviceStatus
  advertisedCapabilities : Finset DeviceCapability
  effectiveCapabilities : Finset DeviceCapability
  connectedAt : AwareDatetime
  lastSeenAt : AwareDatetime
  effective_subset : effectiveCapabilities ⊆ advertisedCapabilities

structure DeviceCommand where
  id : UUID
  deviceId : UUID
  capability : DeviceCapability
  action : String
  arguments : PyDict
  issuedAt : AwareDatetime
  deadlineAt : AwareDatetime
  action_normalized : strip action = action
  action_length : 0 < action.length ∧ action.length ≤ 80
  deadline_after_issue : issuedAt.instant < deadlineAt.instant

namespace DeviceCommand

def actionCharactersSupported (classes : CharacterClasses) (action : String) : Bool :=
  (action.toList.head?.any classes.isAlpha) &&
    action.toList.all fun c => classes.isAlnum c || c = '_' || c = '.' || c = '-'

def make (classes : CharacterClasses) (id deviceId : UUID) (capability : DeviceCapability)
    (action : String) (arguments : PyDict)
    (issuedAt deadlineAt : AwareDatetime) : Except Raised DeviceCommand :=
  if haction : 0 < (strip action).length ∧ (strip action).length ≤ 80 then
    if actionCharactersSupported classes (strip action) then
      if hdeadline : issuedAt.instant < deadlineAt.instant then
        .ok
          { id, deviceId, capability, action := strip action, arguments, issuedAt, deadlineAt
            action_normalized := strip_strip action
            action_length := haction
            deadline_after_issue := hdeadline }
      else .error (.valueError "command deadline must be after its issue time")
    else .error (.valueError "command action contains unsupported characters")
  else .error (.valueError "command action must contain 1 to 80 characters")

theorem make_eq_ok {classes : CharacterClasses} {id deviceId : UUID}
    {capability : DeviceCapability} {action : String} {arguments : PyDict}
    {issuedAt deadlineAt : AwareDatetime} {command : DeviceCommand}
    (h : make classes id deviceId capability action arguments issuedAt deadlineAt = .ok command) :
    command.id = id ∧ command.deviceId = deviceId ∧ command.capability = capability ∧
      command.action = strip action ∧ command.issuedAt = issuedAt ∧
      command.deadlineAt = deadlineAt := by
  unfold make at h
  split at h
  · split at h
    · split at h
      · cases h
        exact ⟨rfl, rfl, rfl, rfl, rfl, rfl⟩
      · cases h
    · cases h
  · cases h

end DeviceCommand

structure DeviceCommandResult where
  commandId : UUID
  deviceId : UUID
  succeeded : Bool
  completedAt : AwareDatetime
  output : JsonValue
  error : Option String
  success_has_no_error : succeeded = true → error = none
  failure_has_error : succeeded = false → ∃ text, error = some text ∧ strip text ≠ ""
  error_length : ∀ text, error = some text → text.length ≤ 2000

namespace DeviceCommandResult

/-- An absent text and a blank one count alike in `not (error and error.strip())`. -/
def make (commandId deviceId : UUID) (succeeded : Bool) (output : JsonValue)
    (error : Option String) (completedAt : Datetime) : Except Raised DeviceCommandResult :=
  match requireUtc completedAt "completed_at" with
  | .error raised => .error raised
  | .ok completedAt =>
      if hsuccess : succeeded = true → error = none then
        if hfailure : succeeded = false → strip (error.getD "") ≠ "" then
          if hlength : ∀ text ∈ error, text.length ≤ 2000 then
            .ok
              { commandId, deviceId, succeeded, completedAt, output, error
                success_has_no_error := hsuccess
                failure_has_error := fun hfailed => by
                  cases error with
                  | none => exact absurd (by decide) (hfailure hfailed)
                  | some text => exact ⟨text, rfl, hfailure hfailed⟩
                error_length := hlength }
          else .error (.valueError "command result error is too long")
        else .error (.valueError "a failed command result must contain an error")
      else .error (.valueError "a successful command result cannot contain an error")

theorem make_eq_ok {commandId deviceId : UUID} {succeeded : Bool} {output : JsonValue}
    {error : Option String} {completedAt : Datetime} {result : DeviceCommandResult}
    (h : make commandId deviceId succeeded output error completedAt = .ok result) :
    result.commandId = commandId ∧ result.deviceId = deviceId ∧ result.succeeded = succeeded ∧
      result.output = output ∧ result.error = error := by
  unfold make at h
  split at h
  · cases h
  · split at h
    · split at h
      · split at h
        · cases h
          exact ⟨rfl, rfl, rfl, rfl, rfl⟩
        · cases h
      · cases h
    · cases h

theorem make_error {commandId deviceId : UUID} {succeeded : Bool} {output : JsonValue}
    {error : Option String} {completedAt : Datetime} {raised : Raised}
    (h : make commandId deviceId succeeded output error completedAt = .error raised) :
    ∃ message, raised = .valueError message := by
  unfold make requireUtc at h
  split at h
  · rename_i raised' hutc
    cases h
    split at hutc
    · cases hutc
    · cases hutc
      exact ⟨_, rfl⟩
  · split at h
    · split at h
      · split at h
        · cases h
        · cases h
          exact ⟨_, rfl⟩
      · cases h
        exact ⟨_, rfl⟩
    · cases h
      exact ⟨_, rfl⟩

end DeviceCommandResult

end JarvisCore.Domain.Models
