import JarvisCore.Domain.Values
import JarvisCore.Foundation.Text

namespace JarvisCore.Domain.Documents

open JarvisCore.Domain.Values

mutual

/-- No object in the value has a key twice: each of them is a `dict`. -/
def distinct : JsonValue → Bool
  | .null | .bool _ | .int _ | .float _ | .string _ => true
  | .array items => distinctItems items
  | .object fields => distinctFields fields

def distinctItems : List JsonValue → Bool
  | [] => true
  | item :: rest => distinct item && distinctItems rest

def distinctFields : List (String × JsonValue) → Bool
  | [] => true
  | (key, value) :: rest =>
      decide (key ∉ rest.map Prod.fst) && distinct value && distinctFields rest

end

/-- A `dict` at the root of a document. -/
abbrev JsonObject : Type := { fields : List (String × JsonValue) // distinctFields fields = true }

theorem nodup_of_distinctFields {fields : List (String × JsonValue)}
    (h : distinctFields fields = true) : (fields.map Prod.fst).Nodup := by
  induction fields with
  | nil => exact List.nodup_nil
  | cons entry rest ih =>
      rw [distinctFields, Bool.and_eq_true, Bool.and_eq_true, decide_eq_true_eq] at h
      exact List.nodup_cons.mpr ⟨h.1.1, ih h.2⟩

theorem distinct_of_mem {fields : List (String × JsonValue)} (h : distinctFields fields = true)
    {entry : String × JsonValue} (hentry : entry ∈ fields) : distinct entry.2 = true := by
  induction fields with
  | nil => cases hentry
  | cons first rest ih =>
      rw [distinctFields, Bool.and_eq_true, Bool.and_eq_true] at h
      rcases List.mem_cons.mp hentry with rfl | hrest
      · exact h.1.2
      · exact ih h.2 hrest

/-- What `repr` of a text and of a finite `float` rests on. -/
structure ReprTables where
  isPrintable : Char → Bool
  float : (mantissa exponent : Int) → String

def hexText (width n : Nat) : String :=
  String.ofList ((List.range width).map fun i => Nat.digitChar (n / 16 ^ (width - 1 - i) % 16))

variable (tables : ReprTables)

/-- How `repr` writes a character between the quotes `quote`. -/
def reprChar (quote c : Char) : String :=
  let n := c.toNat
  if c = quote ∨ c = '\\' then String.ofList ['\\', c]
  else if c = '\t' then "\\t"
  else if c = '\n' then "\\n"
  else if c = '\r' then "\\r"
  else if n < 0x20 ∨ n = 0x7F then "\\x" ++ hexText 2 n
  else if n < 0x7F ∨ tables.isPrintable c then String.singleton c
  else if n ≤ 0xFF then "\\x" ++ hexText 2 n
  else if n ≤ 0xFFFF then "\\u" ++ hexText 4 n
  else "\\U" ++ hexText 8 n

def reprString (s : String) : String :=
  let quote := if '\'' ∈ s.toList ∧ '"' ∉ s.toList then '"' else '\''
  String.singleton quote ++ String.join (s.toList.map (reprChar tables quote)) ++
    String.singleton quote

def reprFloat : PyFloat → String
  | .finite mantissa exponent => tables.float mantissa exponent
  | .infinity negative => if negative then "-inf" else "inf"
  | .nan => "nan"

mutual

def repr : JsonValue → String
  | .null => "None"
  | .bool value => if value then "True" else "False"
  | .int value => toString value
  | .float value => reprFloat tables value
  | .string value => reprString tables value
  | .array items => "[" ++ ", ".intercalate (reprItems items) ++ "]"
  | .object fields => "\x7b" ++ ", ".intercalate (reprFields fields) ++ "\x7d"

def reprItems : List JsonValue → List String
  | [] => []
  | item :: rest => repr item :: reprItems rest

def reprFields : List (String × JsonValue) → List String
  | [] => []
  | (key, value) :: rest => (reprString tables key ++ ": " ++ repr value) :: reprFields rest

end

def str : JsonValue → String
  | .string value => value
  | value => repr tables value

end JarvisCore.Domain.Documents
