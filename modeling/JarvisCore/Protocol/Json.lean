import JarvisCore.Domain.Values
import JarvisCore.Foundation.Schema

namespace JarvisCore.Protocol.Json

open JarvisCore.Domain.Values
open JarvisCore.Foundation.Schema

def finiteFloat : PyFloat → Bool
  | .finite _ _ => true
  | .infinity _ | .nan => false

section Finite

variable {Text : Type}

mutual

/-- All numbers in the value are finite. -/
def finite : JsonTree Text → Bool
  | .null | .bool _ | .int _ | .string _ => true
  | .float value => finiteFloat value
  | .array items => finiteItems items
  | .object fields => finiteFields fields

def finiteItems : List (JsonTree Text) → Bool
  | [] => true
  | item :: rest => finite item && finiteItems rest

def finiteFields : List (Text × JsonTree Text) → Bool
  | [] => true
  | (_, value) :: rest => finite value && finiteFields rest

end

theorem finiteItems_iff {items : List (JsonTree Text)} :
    finiteItems items = true ↔ ∀ item ∈ items, finite item = true := by
  induction items with
  | nil => simp [finiteItems]
  | cons item rest ih => rw [finiteItems, Bool.and_eq_true, ih, List.forall_mem_cons]

theorem finiteFields_iff {fields : List (Text × JsonTree Text)} :
    finiteFields fields = true ↔ ∀ entry ∈ fields, finite entry.2 = true := by
  induction fields with
  | nil => simp [finiteFields]
  | cons entry rest ih => rw [finiteFields, Bool.and_eq_true, ih, List.forall_mem_cons]

abbrev Finite (v : JsonTree Text) : Prop := finite v = true

end Finite

def string : Format JsonValue String where
  read
    | .string value => some value
    | _ => none
  write := .string
  read_write _ := rfl

/-- `StrictBool`. -/
def bool : Format JsonValue Bool where
  read
    | .bool value => some value
    | _ => none
  write := .bool
  read_write _ := rfl

/-- `StrictInt`. -/
def int : Format JsonValue Int where
  read
    | .int value => some value
    | _ => none
  write := .int
  read_write _ := rfl

def array : Format JsonValue (List JsonValue) where
  read
    | .array items => some items
    | _ => none
  write := .array
  read_write _ := rfl

def object : Format JsonValue (List (String × JsonValue)) where
  read
    | .object fields => some fields
    | _ => none
  write := .object
  read_write _ := rfl

/-- `JsonValue` under `allow_inf_nan=False`. -/
def jsonValue : Format JsonValue { v : JsonValue // Finite v } where
  read v := if h : Finite v then some ⟨v, h⟩ else none
  write v := v
  read_write v := dif_pos v.property

/-- `dict[str, JsonValue]`. -/
def jsonObject : Format JsonValue { fields : List (String × JsonValue) // finiteFields fields } :=
  object.guard fun fields => finiteFields fields

inductive Number
  | int (value : Int)
  | float (value : PyFloat)

def Number.positive : Number → Bool
  | .int value => 0 < value
  | .float (.finite mantissa _) => 0 < mantissa
  | .float (.infinity negative) => !negative
  | .float .nan => false

def Number.finite : Number → Bool
  | .int _ => true
  | .float value => finiteFloat value

/-- `StrictInt | StrictFloat` without a bound. -/
def number : Format JsonValue { n : Number // n.finite } where
  read
    | .int value => some ⟨.int value, rfl⟩
    | .float value => if h : finiteFloat value then some ⟨.float value, h⟩ else none
    | _ => none
  write
    | ⟨.int value, _⟩ => .int value
    | ⟨.float value, _⟩ => .float value
  read_write
    | ⟨.int _, _⟩ => rfl
    | ⟨.float _, h⟩ => dif_pos h

/-- `Field(min_length=low, max_length=high)`. -/
abbrev BoundedString (low high : Nat) : Type :=
  { s : String // low ≤ s.length ∧ s.length ≤ high }

def boundedString (low high : Nat) : Format JsonValue (BoundedString low high) :=
  string.guard fun s => low ≤ s.length ∧ s.length ≤ high

def isNull : JsonValue → Bool
  | .null => true
  | _ => false

/-- `T | None` for a type whose values are not written as null. -/
def orNull {α : Type} (f : Format JsonValue α) (h : ∀ a, isNull (f.write a) = false) :
    Format JsonValue (Option α) :=
  f.optional .null isNull rfl h

theorem object_eq_some {v : JsonValue} {fields : List (String × JsonValue)}
    (h : object.read v = some fields) : v = .object fields := by
  cases v with
  | object fields' =>
      cases h
      rfl
  | null | bool | int | float | string | array => cases h

theorem string_eq_some {v : JsonValue} {s : String} (h : string.read v = some s) :
    v = .string s := by
  cases v with
  | string s' =>
      cases h
      rfl
  | null | bool | int | float | object | array => cases h

theorem int_eq_some {v : JsonValue} {n : Int} (h : int.read v = some n) : v = .int n := by
  cases v with
  | int n' =>
      cases h
      rfl
  | null | bool | string | float | object | array => cases h

section Finiteness

theorem admits_string : string.Admits Finite := by
  intro v s h
  rw [string_eq_some h]
  rfl

theorem admits_bool : bool.Admits Finite := by
  intro v b h
  cases v with
  | bool => rfl
  | null | int | float | string | array | object => cases h

theorem admits_int : int.Admits Finite := by
  intro v n h
  rw [int_eq_some h]
  rfl

theorem admits_number : number.Admits Finite := by
  intro v n h
  cases v with
  | int => rfl
  | float value =>
      change (if h : finiteFloat value then _ else none) = some n at h
      split at h
      · assumption
      · cases h
  | null | bool | string | array | object => cases h

theorem admits_jsonValue : jsonValue.Admits Finite := by
  intro v a h
  change (if h : Finite v then _ else none) = some a at h
  split at h
  · assumption
  · cases h

theorem finite_of_object {v : JsonValue} {fields : List (String × JsonValue)}
    (h : object.read v = some fields) (hfields : ∀ entry ∈ fields, Finite entry.2) :
    Finite v := by
  rw [object_eq_some h]
  exact finiteFields_iff.mpr hfields

theorem finite_of_array {v : JsonValue} {items : List JsonValue}
    (h : array.read v = some items) (hitems : ∀ item ∈ items, Finite item) : Finite v := by
  cases v with
  | array items' =>
      cases h
      exact finiteItems_iff.mpr hitems
  | null | bool | int | float | string | object => cases h

theorem admits_jsonObject : jsonObject.Admits Finite := by
  intro v fields h
  obtain ⟨entries, hentries, hmake⟩ := Option.bind_eq_some_iff.mp h
  split at hmake
  · rename_i hfinite
    exact finite_of_object hentries (finiteFields_iff.mp hfinite)
  · cases hmake

theorem admits_orNull {α : Type} {f : Format JsonValue α} (hf : f.Admits Finite)
    (h : ∀ a, isNull (f.write a) = false) : (orNull f h).Admits Finite := by
  apply hf.optional
  intro v hv
  cases v with
  | null => rfl
  | bool | int | float | string | array | object => cases hv

theorem admits_list {α : Type} {f : Format JsonValue α} (hf : f.Admits Finite) :
    (Format.list array f).Admits Finite :=
  hf.list fun _ _ hread hitems => finite_of_array hread hitems

theorem admits_record {α : Type} {s : Fields JsonValue α} (hs : s.Admits Finite) :
    (s.record object).Admits Finite :=
  hs.record fun _ _ hread hentries => finite_of_object hread hentries

end Finiteness

end JarvisCore.Protocol.Json
