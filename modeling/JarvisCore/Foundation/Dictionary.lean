import Mathlib.Data.List.AList

namespace JarvisCore.Foundation.Dictionary

universe u v

/-- A dictionary: an association list without duplicate keys. -/
abbrev Dict (K : Type u) (V : Type v) := AList (fun _ : K => V)

variable {K : Type u} {V : Type v} [DecidableEq K]

namespace Dict

theorem lookup_insert_eq (m : Dict K V) (k k' : K) (v : V) :
    (m.insert k' v).lookup k = if k = k' then some v else m.lookup k := by
  by_cases h : k = k'
  · subst h
    simp
  · rw [if_neg h]
    exact AList.lookup_insert_ne h

theorem lookup_erase_eq (m : Dict K V) (k k' : K) :
    (m.erase k').lookup k = if k = k' then none else m.lookup k := by
  by_cases h : k = k'
  · subst h
    simp
  · rw [if_neg h]
    exact AList.lookup_erase_ne h

/-- The entries whose key and value pass a test, in their order. -/
def filter (test : K → V → Bool) (m : Dict K V) : Dict K V where
  entries := m.entries.filter fun e => test e.1 e.2
  nodupKeys := List.NodupKeys.sublist List.filter_sublist m.nodupKeys

theorem lookup_eq_some_iff {m : Dict K V} {k : K} {v : V} :
    m.lookup k = some v ↔ (⟨k, v⟩ : Sigma fun _ : K => V) ∈ m.entries := by
  rw [← Option.mem_def]
  exact AList.mem_lookup_iff

theorem lookup_filter_eq_some_iff {test : K → V → Bool} {m : Dict K V} {k : K} {v : V} :
    (filter test m).lookup k = some v ↔ m.lookup k = some v ∧ test k v = true := by
  rw [lookup_eq_some_iff, lookup_eq_some_iff]
  simp [filter, List.mem_filter]

theorem lookup_filter_eq (test : K → V → Bool) (m : Dict K V) (k : K) :
    (filter test m).lookup k = (m.lookup k).filter (test k) := by
  apply Option.ext
  intro v
  rw [lookup_filter_eq_some_iff, Option.filter_eq_some_iff]

def values (m : Dict K V) : List V := m.entries.map fun e => e.2

theorem mem_values {m : Dict K V} {v : V} : v ∈ values m ↔ ∃ k, m.lookup k = some v := by
  simp only [values, List.mem_map, lookup_eq_some_iff]
  constructor
  · rintro ⟨⟨k, w⟩, he, rfl⟩
    exact ⟨k, he⟩
  · rintro ⟨k, he⟩
    exact ⟨⟨k, v⟩, he, rfl⟩

end Dict

end JarvisCore.Foundation.Dictionary
