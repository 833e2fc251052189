import JarvisCore.Foundation.Utf8

namespace JarvisCore.Gateway.CloseReasons

open JarvisCore.Foundation.Utf8

def maxCloseReasonBytes : Nat := 123

def truncateCloseReason (reason : String) : String :=
  let encoded := encode reason.toList
  if encoded.length ≤ maxCloseReasonBytes then reason
  else String.ofList (decodeIgnore 0 (encoded.take maxCloseReasonBytes))

theorem truncateCloseReason_of_fits {reason : String}
    (hfits : (encode reason.toList).length ≤ maxCloseReasonBytes) :
    truncateCloseReason reason = reason :=
  if_pos hfits

/-- The branch that leaves the reason as it is computes the same prefix as the other one. -/
theorem toList_truncateCloseReason (reason : String) :
    (truncateCloseReason reason).toList =
      longestPrefix Char.utf8Size maxCloseReasonBytes reason.toList := by
  by_cases hfits : (encode reason.toList).length ≤ maxCloseReasonBytes
  · rw [truncateCloseReason_of_fits hfits]
    rw [length_encode] at hfits
    exact (longestPrefix_eq_self Char.utf8Size hfits).symm
  · rw [truncateCloseReason, if_neg hfits, String.toList_ofList, decodeIgnore_take_encode]

theorem truncateCloseReason_fits (reason : String) :
    (encode (truncateCloseReason reason).toList).length ≤ maxCloseReasonBytes := by
  rw [toList_truncateCloseReason]
  exact (longestFitting_longestPrefix maxCloseReasonBytes reason.toList).fits

/-- What `websocket.close` sends. The payload of a control frame has at most 125 bytes,
two of which are the code. -/
structure CloseFrame where
  code : Nat
  reason : String
  fits : 2 + (encode reason.toList).length ≤ 125

/-- The frame that `WebSocketDeviceTransport.close` asks for. -/
def closeFrame (code : Nat) (reason : String) : CloseFrame where
  code := code
  reason := truncateCloseReason reason
  fits := Nat.add_le_add_left (truncateCloseReason_fits reason) 2

theorem close_reason_truncation (reason : String) :
    LongestFitting maxCloseReasonBytes reason.toList (truncateCloseReason reason).toList ∧
      (∀ code, (closeFrame code reason).code = code ∧
        (closeFrame code reason).reason = truncateCloseReason reason ∧
        2 + (encode (truncateCloseReason reason).toList).length ≤ 125) ∧
      ((encode reason.toList).length ≤ maxCloseReasonBytes →
        truncateCloseReason reason = reason) ∧
      truncateCloseReason (truncateCloseReason reason) = truncateCloseReason reason := by
  refine ⟨?_, fun code => ⟨rfl, rfl, (closeFrame code reason).fits⟩,
    truncateCloseReason_of_fits, ?_⟩
  · rw [toList_truncateCloseReason]
    exact longestFitting_longestPrefix maxCloseReasonBytes reason.toList
  · exact truncateCloseReason_of_fits (truncateCloseReason_fits reason)

/-- 62 letters of two bytes each have one byte too many. -/
example : truncateCloseReason (String.ofList (List.replicate 62 'é')) =
    String.ofList (List.replicate 61 'é') := by
  decide +kernel

end JarvisCore.Gateway.CloseReasons
