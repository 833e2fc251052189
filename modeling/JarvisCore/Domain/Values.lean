import Mathlib.Algebra.GroupWithZero.Nat
import Mathlib.Data.Finset.Basic
import Mathlib.Data.Fintype.Basic
import JarvisCore.Foundation.Text

namespace JarvisCore.Domain.Values

open JarvisCore.Foundation.Text (PyText)

structure UUID where
  int : Fin (2 ^ 128)
  deriving DecidableEq, Repr

instance neZeroTwoPow : NeZero (2 ^ 128) := ⟨by decide⟩

namespace UUID

def hexDigit (u : UUID) (place : Nat) : Char :=
  Nat.digitChar (u.int.val / 16 ^ place % 16)

def text (u : UUID) : String :=
  let digits := fun first count => (List.range count).map fun i => u.hexDigit (first - i)
  String.ofList (digits 31 8 ++ '-' :: digits 23 4 ++ '-' :: digits 19 4 ++
    '-' :: digits 15 4 ++ '-' :: digits 11 12)

end UUID

inductive DeviceCapability
  | openApp
  | files
  | system
  deriving DecidableEq, Repr

def DeviceCapability.value : DeviceCapability → String
  | .openApp => "open_app"
  | .files => "files"
  | .system => "system"

inductive DeviceStatus
  | offline
  | connecting
  | online
  | revoked
  deriving DecidableEq, Repr

/-- A timezone-aware point in time, in microseconds of local wall-clock time and
of offset from UTC. -/
structure AwareDatetime where
  wall : Int
  utcoffset : Int
  deriving DecidableEq, Repr

namespace AwareDatetime

/-- The point in time; comparison and subtraction of aware values use it. -/
def instant (d : AwareDatetime) : Int := d.wall - d.utcoffset

def add (d : AwareDatetime) (duration : Int) : AwareDatetime := { d with wall := d.wall + duration }

@[simp] theorem instant_add (d : AwareDatetime) (duration : Int) :
    (d.add duration).instant = d.instant + duration := by
  simp only [instant, add]
  omega

end AwareDatetime

/-- The reading of a clock, which may be naive. -/
structure Datetime where
  wall : Int
  utcoffset : Option Int
  deriving DecidableEq, Repr

def Datetime.toAware? (d : Datetime) : Option AwareDatetime :=
  d.utcoffset.map fun offset => ⟨d.wall, offset⟩

inductive PyFloat
  | finite (mantissa exponent : Int)
  | infinity (negative : Bool)
  | nan
  deriving DecidableEq, Repr

/-- The values that `json.loads` builds, with texts of the given type. -/
inductive JsonTree (Text : Type)
  | null
  | bool (value : Bool)
  | int (value : Int)
  | float (value : PyFloat)
  | string (value : Text)
  | array (items : List (JsonTree Text))
  | object (fields : List (Text × JsonTree Text))

/-- A value whose texts have no surrogates. -/
abbrev JsonValue := JsonTree String

/-- A value that came out of `json.loads`: an escape such as `\ud800` makes a surrogate. -/
abbrev PyValue := JsonTree PyText

/-- `dict[str, Any]`. -/
abbrev PyDict := List (PyText × PyValue)

end JarvisCore.Domain.Values
