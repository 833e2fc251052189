import Mathlib.Logic.Function.Basic

namespace JarvisCore.Foundation.Files

universe u v

abbrev Directory (Name : Type u) (Content : Type v) := Name → Option Content

variable {Name : Type u} {Content : Type v} [DecidableEq Name]

namespace Directory

def write (d : Directory Name Content) (name : Name) (content : Content) :
    Directory Name Content :=
  Function.update d name (some content)

def remove (d : Directory Name Content) (name : Name) : Directory Name Content :=
  Function.update d name none

/-- `rename(2)` of an existing file; without one it fails. -/
def rename (d : Directory Name Content) (old new : Name) : Option (Directory Name Content) :=
  (d old).map fun content => (d.remove old).write new content

variable (d : Directory Name Content)

theorem write_same (name : Name) (content : Content) : d.write name content name = some content :=
  Function.update_self _ _ _

theorem write_other {name other : Name} (content : Content) (h : other ≠ name) :
    d.write name content other = d other :=
  Function.update_of_ne h _ _

theorem remove_other {name other : Name} (h : other ≠ name) : d.remove name other = d other :=
  Function.update_of_ne h _ _

variable {d} {renamed : Directory Name Content} {old new : Name}

theorem rename_new (h : d.rename old new = some renamed) : renamed new = d old := by
  obtain ⟨content, hcontent, rfl⟩ := Option.map_eq_some_iff.mp h
  rw [hcontent]
  exact write_same _ _ _

theorem rename_other {other : Name} (h : d.rename old new = some renamed) (hold : other ≠ old)
    (hnew : other ≠ new) : renamed other = d other := by
  obtain ⟨content, -, rfl⟩ := Option.map_eq_some_iff.mp h
  exact (write_other _ content hnew).trans (remove_other d hold)

end Directory

end JarvisCore.Foundation.Files
