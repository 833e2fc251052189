import Mathlib.Algebra.GroupWithZero.Nat
import Mathlib.Data.List.Infix

namespace JarvisCore.Foundation.Utf8

section Prefixes

variable {α : Type*} (weight : α → Nat)

/-- The longest prefix whose weights add up to the limit at most. -/
def longestPrefix : Nat → List α → List α
  | _, [] => []
  | limit, a :: rest =>
      if weight a ≤ limit then a :: longestPrefix (limit - weight a) rest else []

theorem longestPrefix_isPrefix (limit : Nat) (l : List α) : longestPrefix weight limit l <+: l := by
  induction l generalizing limit with
  | nil => exact List.prefix_rfl
  | cons a rest ih =>
      rw [longestPrefix]
      split
      · exact List.prefix_cons_inj a |>.mpr (ih _)
      · exact List.nil_prefix

theorem sum_longestPrefix_le (limit : Nat) (l : List α) :
    ((longestPrefix weight limit l).map weight).sum ≤ limit := by
  induction l generalizing limit with
  | nil => exact Nat.zero_le limit
  | cons a rest ih =>
      rw [longestPrefix]
      split
      · rename_i hfits
        have hrest := ih (limit - weight a)
        rw [List.map_cons, List.sum_cons]
        omega
      · exact Nat.zero_le limit

theorem prefix_longestPrefix {limit : Nat} {l p : List α} (hstart : p <+: l)
    (hfits : (p.map weight).sum ≤ limit) : p <+: longestPrefix weight limit l := by
  induction l generalizing limit p with
  | nil =>
      rw [List.prefix_nil.mp hstart]
      exact List.nil_prefix
  | cons a rest ih =>
      cases p with
      | nil => exact List.nil_prefix
      | cons b p =>
          obtain ⟨rfl, hrest⟩ := List.cons_prefix_cons.mp hstart
          rw [List.map_cons, List.sum_cons] at hfits
          rw [longestPrefix, if_pos (by omega)]
          apply List.cons_prefix_cons.mpr
          exact ⟨rfl, ih hrest (by omega)⟩

theorem longestPrefix_eq_self {limit : Nat} {l : List α} (hfits : (l.map weight).sum ≤ limit) :
    longestPrefix weight limit l = l :=
  (longestPrefix_isPrefix weight limit l).eq_of_length_le
    (prefix_longestPrefix weight List.prefix_rfl hfits).length_le

end Prefixes

/-- `str.encode("utf-8")`, for a text without surrogates. -/
def encode (text : List Char) : List UInt8 := text.flatMap String.utf8EncodeChar

/-- The character whose encoding the bytes start with. -/
def decodeChar? (bytes : List UInt8) : Option Char := bytes.toByteArray.utf8DecodeChar? 0

/-- `bytes.decode("utf-8", errors="ignore")`, while `skip` bytes of the last character are
still to be passed over. A malformed sequence is passed over byte by byte: what belongs to
it after its first byte are continuation bytes, which start no character. -/
def decodeIgnore : Nat → List UInt8 → List Char
  | _, [] => []
  | skip + 1, _ :: rest => decodeIgnore skip rest
  | 0, b :: rest =>
      match decodeChar? (b :: rest) with
      | some c => c :: decodeIgnore (c.utf8Size - 1) rest
      | none => decodeIgnore 0 rest

theorem length_encode (text : List Char) :
    (encode text).length = (text.map Char.utf8Size).sum := by
  simp [encode, List.length_flatMap]

theorem toByteArray_encode (s : String) : (encode s.toList).toByteArray = s.toByteArray :=
  String.utf8Encode_toList

theorem encode_inj {s t : String} (h : encode s.toList = encode t.toList) : s = t := by
  apply String.toByteArray_inj.mp
  rw [← toByteArray_encode, ← toByteArray_encode, h]

theorem decodeChar?_encodeChar_append (c : Char) (rest : List UInt8) :
    decodeChar? (String.utf8EncodeChar c ++ rest) = some c := by
  rw [decodeChar?, List.toByteArray_append]
  exact ByteArray.utf8DecodeChar?_utf8EncodeChar_append

theorem decodeChar?_of_continuation {b : UInt8} (hb : ¬ b.IsUTF8FirstByte) (rest : List UInt8) :
    decodeChar? (b :: rest) = none := by
  rw [← Option.not_isSome_iff_eq_none]
  intro hsome
  exact hb (by simpa using ByteArray.isUTF8FirstByte_of_isSome_utf8DecodeChar? hsome)

theorem decodeChar?_of_incomplete {c : Char} {bytes missing : List UInt8}
    (hcut : bytes ++ missing = String.utf8EncodeChar c) (hmissing : missing ≠ []) :
    decodeChar? bytes = none := by
  cases hdecode : decodeChar? bytes with
  | none => rfl
  | some d =>
      have hwhole : decodeChar? (bytes ++ missing) = some d := by
        rw [decodeChar?, List.toByteArray_append]
        exact ByteArray.utf8DecodeChar?_append_eq_some hdecode _
      have hsize : d.utf8Size ≤ bytes.length := by
        simpa using ByteArray.le_size_of_utf8DecodeChar?_eq_some hdecode
      have hc : decodeChar? (bytes ++ missing) = some c := by
        rw [hcut]
        simpa using decodeChar?_encodeChar_append c []
      obtain rfl : d = c := Option.some.inj (hwhole.symm.trans hc)
      have hlength := congrArg List.length hcut
      rw [List.length_append, String.length_utf8EncodeChar] at hlength
      have hpos := List.length_pos_iff.mpr hmissing
      omega

theorem decodeIgnore_skip (skipped rest : List UInt8) :
    decodeIgnore skipped.length (skipped ++ rest) = decodeIgnore 0 rest := by
  induction skipped with
  | nil => rfl
  | cons b skipped ih => exact ih

theorem decodeIgnore_encodeChar_append (c : Char) (rest : List UInt8) :
    decodeIgnore 0 (String.utf8EncodeChar c ++ rest) = c :: decodeIgnore 0 rest := by
  have hlength := String.length_utf8EncodeChar c
  have hdecode := decodeChar?_encodeChar_append c rest
  cases hbytes : String.utf8EncodeChar c with
  | nil =>
      rw [hbytes] at hlength
      exact absurd hlength.symm c.utf8Size_pos.ne'
  | cons b tail =>
      rw [hbytes, List.length_cons] at hlength
      rw [hbytes] at hdecode
      rw [List.cons_append] at hdecode ⊢
      rw [decodeIgnore, hdecode]
      simp only
      rw [show c.utf8Size - 1 = tail.length by omega, decodeIgnore_skip]

theorem decodeIgnore_continuation {bytes : List UInt8}
    (hbytes : ∀ b ∈ bytes, ¬ b.IsUTF8FirstByte) : decodeIgnore 0 bytes = [] := by
  induction bytes with
  | nil => rfl
  | cons b rest ih =>
      rw [decodeIgnore, decodeChar?_of_continuation (hbytes b List.mem_cons_self)]
      exact ih fun b' hb' => hbytes b' (List.mem_cons_of_mem _ hb')

theorem decodeIgnore_incomplete {c : Char} {bytes missing : List UInt8}
    (hcut : bytes ++ missing = String.utf8EncodeChar c) (hmissing : missing ≠ []) :
    decodeIgnore 0 bytes = [] := by
  cases bytes with
  | nil => rfl
  | cons b rest =>
      rw [decodeIgnore, decodeChar?_of_incomplete hcut hmissing]
      refine decodeIgnore_continuation fun b' hb' => ?_
      obtain ⟨i, hi, rfl⟩ := List.mem_iff_getElem.mp hb'
      have hlater : (String.utf8EncodeChar c)[i + 1]? = some rest[i] := by
        rw [← hcut, List.getElem?_append_left (by simpa using hi), List.getElem?_cons_succ]
        exact List.getElem?_eq_getElem hi
      obtain ⟨hbound, hbyte⟩ := List.getElem?_eq_some_iff.mp hlater
      rw [← hbyte, UInt8.isUTF8FirstByte_getElem_utf8EncodeChar]
      exact Nat.succ_ne_zero i

theorem decodeIgnore_take_encode (limit : Nat) (text : List Char) :
    decodeIgnore 0 ((encode text).take limit) = longestPrefix Char.utf8Size limit text := by
  induction text generalizing limit with
  | nil => rw [encode, List.flatMap_nil, List.take_nil, decodeIgnore, longestPrefix]
  | cons c rest ih =>
      have hlength := String.length_utf8EncodeChar c
      rw [encode, List.flatMap_cons, List.take_append, hlength, longestPrefix]
      split
      · rename_i hfits
        rw [List.take_of_length_le (by omega), decodeIgnore_encodeChar_append]
        exact congrArg (c :: ·) (ih _)
      · rename_i hexceeds
        rw [Nat.sub_eq_zero_of_le (by omega), List.take_zero, List.append_nil]
        exact decodeIgnore_incomplete (List.take_append_drop limit _)
          (by simpa [hlength] using hexceeds)

/-- `result` is the longest prefix of the text whose encoding has `limit` bytes at most. -/
structure LongestFitting (limit : Nat) (text result : List Char) : Prop where
  isPrefix : result <+: text
  fits : (encode result).length ≤ limit
  longest : ∀ p, p <+: text → (encode p).length ≤ limit → p.length ≤ result.length

theorem longestFitting_longestPrefix (limit : Nat) (text : List Char) :
    LongestFitting limit text (longestPrefix Char.utf8Size limit text) where
  isPrefix := longestPrefix_isPrefix Char.utf8Size limit text
  fits := by
    rw [length_encode]
    exact sum_longestPrefix_le Char.utf8Size limit text
  longest p hstart hfits := by
    rw [length_encode] at hfits
    exact (prefix_longestPrefix Char.utf8Size hstart hfits).length_le

end JarvisCore.Foundation.Utf8
