import Mathlib.Logic.Basic

namespace JarvisCore.Foundation.LastWrites

universe u v w

variable {A : Type u} {K : Type v} {V : Type w} [DecidableEq K]

/-- A write of one entry; without a value it removes the entry. -/
structure Write (K : Type v) (V : Type w) where
  key : K
  value : Option V

def Write.apply (write : Write K V) (m : K → Option V) : K → Option V := fun k =>
  if k = write.key then write.value else m k

/-- What the writes of a history, the latest one first, leave of a map. -/
def lastWrites (writeOf : A → Option (Write K V)) (first : K → Option V) :
    List A → K → Option V
  | [] => first
  | a :: earlier =>
      match writeOf a with
      | some write => write.apply (lastWrites writeOf first earlier)
      | none => lastWrites writeOf first earlier

variable {writeOf : A → Option (Write K V)} {first : K → Option V}

theorem lastWrites_of_none {a : A} (h : writeOf a = none) (earlier : List A) :
    lastWrites writeOf first (a :: earlier) = lastWrites writeOf first earlier := by
  rw [lastWrites, h]

theorem lastWrites_of_some {a : A} {write : Write K V} (h : writeOf a = some write)
    (earlier : List A) : lastWrites writeOf first (a :: earlier) =
      write.apply (lastWrites writeOf first earlier) := by
  rw [lastWrites, h]

end JarvisCore.Foundation.LastWrites
