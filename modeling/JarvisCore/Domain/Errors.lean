import JarvisCore.Domain.Values

namespace JarvisCore.Domain.Errors

open JarvisCore.Domain.Values

inductive DeviceError
  | deviceNotFound (deviceId : UUID)
  | deviceAuthentication
  | invalidPairing
  | deviceRevoked (deviceId : UUID)
  | deviceOffline (deviceId : UUID)
  | deviceCapabilityUnavailable (deviceId : UUID) (capability : DeviceCapability)
  | deviceActionUnavailable (capability : DeviceCapability) (action : String)
  | deviceCommandTimeout (commandId : UUID)
  | commandResultRejected (commandId : UUID)
  deriving DecidableEq, Repr

def DeviceError.message : DeviceError → String
  | .deviceNotFound deviceId => "Device '" ++ deviceId.text ++ "' was not found."
  | .deviceAuthentication => "Device authentication failed."
  | .invalidPairing => "The pairing request is invalid or has expired."
  | .deviceRevoked deviceId => "Device '" ++ deviceId.text ++ "' has been revoked."
  | .deviceOffline deviceId => "Device '" ++ deviceId.text ++ "' is offline."
  | .deviceCapabilityUnavailable deviceId capability =>
      "Device '" ++ deviceId.text ++ "' cannot execute capability '" ++ capability.value ++ "'."
  | .deviceActionUnavailable capability action =>
      "Action '" ++ action ++ "' is not registered for capability '" ++ capability.value ++ "'."
  | .deviceCommandTimeout commandId => "Device command '" ++ commandId.text ++ "' timed out."
  | .commandResultRejected commandId =>
      "Command result '" ++ commandId.text ++ "' was not expected."

/-- What a call can raise. Only `cancelled` is not an `Exception`. -/
inductive Raised
  | device (error : DeviceError)
  | valueError (message : String)
  | typeError (message : String)
  | runtimeError (message : String)
  /-- The peer of a socket is gone. -/
  | disconnected
  /-- An exception of code that is not in the repository: a driver or a socket. -/
  | foreign (message : String)
  | cancelled
  deriving DecidableEq, Repr

/-- The exceptions that `except Exception` catches. -/
def Raised.isException : Raised → Bool
  | .cancelled => false
  | _ => true

end JarvisCore.Domain.Errors
