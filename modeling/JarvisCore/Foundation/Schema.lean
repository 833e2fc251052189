import Mathlib.Data.List.Nodup
import Mathlib.Data.List.Perm.Subperm

/-!
Formats that read back what they write, and closed records of named fields. The written
form of a value is an element of an arbitrary type `V`.
-/

namespace JarvisCore.Foundation.Schema

universe u v w

variable {V : Type u} {α : Type v} {β : Type w}

structure Format (V : Type u) (α : Type v) where
  read : V → Option α
  write : α → V
  read_write : ∀ a, read (write a) = some a

namespace Format

def Admits (f : Format V α) (good : V → Prop) : Prop := ∀ v a, f.read v = some a → good v

/-- A further check on what is read, or another presentation of it. -/
def refine (f : Format V α) (make : α → Option β) (parts : β → α)
    (hmake : ∀ b, make (parts b) = some b) : Format V β where
  read v := (f.read v).bind make
  write b := f.write (parts b)
  read_write b := by rw [f.read_write, Option.bind_some, hmake]

def guard (f : Format V α) (p : α → Prop) [DecidablePred p] : Format V { a // p a } :=
  f.refine (fun a => if h : p a then some ⟨a, h⟩ else none) Subtype.val
    fun b => dif_pos b.property

def literal [DecidableEq α] (f : Format V α) (a : α) : Format V Unit :=
  f.refine (fun b => if b = a then some () else none) (fun _ => a) fun _ => if_pos rfl

def list (array : Format V (List V)) (f : Format V α) : Format V (List α) where
  read v := (array.read v).bind fun items => items.mapM f.read
  write as := array.write (as.map f.write)
  read_write as := by
    rw [array.read_write, Option.bind_some]
    induction as with
    | nil => rfl
    | cons a as ih =>
        rw [List.map_cons, List.mapM_cons, f.read_write, ih]
        rfl

/-- A value or its absence, which has a form of its own. -/
def optional (f : Format V α) (absent : V) (isAbsent : V → Bool)
    (habsent : isAbsent absent = true) (hwrite : ∀ a, isAbsent (f.write a) = false) :
    Format V (Option α) where
  read v := if isAbsent v then some none else (f.read v).map some
  write a := a.elim absent f.write
  read_write a := by
    cases a with
    | none => exact if_pos habsent
    | some a =>
        show (if isAbsent (f.write a) then some none else (f.read (f.write a)).map some) = _
        rw [hwrite, f.read_write]
        rfl

variable {f : Format V α} {good : V → Prop}

theorem Admits.refine (h : f.Admits good) (make : α → Option β) (parts : β → α)
    (hmake : ∀ b, make (parts b) = some b) : (f.refine make parts hmake).Admits good := by
  intro v b hread
  obtain ⟨a, ha, -⟩ := Option.bind_eq_some_iff.mp hread
  exact h v a ha

theorem Admits.guard (h : f.Admits good) (p : α → Prop) [DecidablePred p] :
    (f.guard p).Admits good :=
  h.refine _ _ _

theorem Admits.literal [DecidableEq α] (h : f.Admits good) (a : α) :
    (f.literal a).Admits good :=
  h.refine _ _ _

theorem read_literal [DecidableEq α] {v : V} {a : α} {b : Unit}
    (h : (f.literal a).read v = some b) : f.read v = some a := by
  obtain ⟨c, hc, hmake⟩ := Option.bind_eq_some_iff.mp h
  split at hmake
  · rename_i heq
    exact heq ▸ hc
  · cases hmake

theorem mapM_admits (h : f.Admits good) {items : List V} {as : List α}
    (hread : items.mapM f.read = some as) : ∀ v ∈ items, good v := by
  induction items generalizing as with
  | nil =>
      intro v hv
      cases hv
  | cons first rest ih =>
      rw [List.mapM_cons] at hread
      obtain ⟨a, hfirst, hrest⟩ := Option.bind_eq_some_iff.mp hread
      obtain ⟨as', hrest, -⟩ := Option.bind_eq_some_iff.mp hrest
      intro v hv
      rcases List.mem_cons.mp hv with rfl | hv
      · exact h _ _ hfirst
      · exact ih hrest v hv

theorem Admits.list {array : Format V (List V)} (h : f.Admits good)
    (harray : ∀ v items, array.read v = some items → (∀ item ∈ items, good item) → good v) :
    (list array f).Admits good := by
  intro v as hread
  obtain ⟨items, hitems, hmap⟩ := Option.bind_eq_some_iff.mp hread
  exact harray v items hitems (mapM_admits h hmap)

theorem Admits.optional (h : f.Admits good) {absent : V} {isAbsent : V → Bool}
    (habsent : isAbsent absent = true) (hwrite : ∀ a, isAbsent (f.write a) = false)
    (hgood : ∀ v, isAbsent v = true → good v) :
    (f.optional absent isAbsent habsent hwrite).Admits good := by
  intro v a hread
  change (if isAbsent v then some none else (f.read v).map some) = some a at hread
  split at hread
  · exact hgood v ‹_›
  · obtain ⟨b, hb, -⟩ := Option.map_eq_some_iff.mp hread
    exact h v b hb

end Format

/-- The fields of a closed record: their names, the names that must be given, what is read
from the values under the names, and the entries that are written. -/
structure Fields (V : Type u) (α : Type v) where
  names : List String
  required : List String
  read : (String → Option V) → Option α
  write : α → List (String × V)
  nodup : names.Nodup
  required_subset : ∀ name ∈ required, name ∈ names
  names_write : ∀ a, (write a).map Prod.fst = names
  read_congr : ∀ {l l' : String → Option V}, (∀ name ∈ names, l name = l' name) → read l = read l'
  read_write : ∀ a, read (fun name => (write a).lookup name) = some a
  given : ∀ {l : String → Option V} {a}, read l = some a → ∀ name ∈ required, (l name).isSome

namespace Fields

def Admits (s : Fields V α) (good : V → Prop) : Prop :=
  ∀ l a, s.read l = some a → ∀ name ∈ s.names, ∀ v, l name = some v → good v

def field (name : String) (f : Format V α) : Fields V α where
  names := [name]
  required := [name]
  read l := (l name).bind f.read
  write a := [(name, f.write a)]
  nodup := List.nodup_singleton name
  required_subset _ h := h
  names_write _ := rfl
  read_congr h := by rw [h name List.mem_cons_self]
  read_write a := by
    show (List.lookup name [(name, f.write a)]).bind f.read = some a
    rw [List.lookup_cons_self, Option.bind_some, f.read_write]
  given h name' hname := by
    obtain rfl := List.mem_singleton.mp hname
    obtain ⟨v, hv, -⟩ := Option.bind_eq_some_iff.mp h
    rw [hv]
    rfl

/-- A field with a default. It is always written. -/
def fieldWithDefault (name : String) (f : Format V α) (default : α) : Fields V α where
  names := [name]
  required := []
  read l := (l name).elim (some default) f.read
  write a := [(name, f.write a)]
  nodup := List.nodup_singleton name
  required_subset _ h := by cases h
  names_write _ := rfl
  read_congr h := by rw [h name List.mem_cons_self]
  read_write a := by
    show (List.lookup name [(name, f.write a)]).elim (some default) f.read = some a
    rw [List.lookup_cons_self, Option.elim_some, f.read_write]
  given _ _ h := by cases h

theorem lookup_write_of_notMem (s : Fields V α) (a : α) {name : String} (h : name ∉ s.names) :
    (s.write a).lookup name = none := by
  rw [List.lookup_eq_none_iff]
  intro entry hentry
  rw [bne_iff_ne]
  rintro rfl
  exact h (s.names_write a ▸ List.mem_map_of_mem hentry)

theorem lookup_write_isSome (s : Fields V α) (a : α) {name : String} (h : name ∈ s.names) :
    ((s.write a).lookup name).isSome := by
  rw [← s.names_write a] at h
  obtain ⟨entry, hentry, rfl⟩ := List.mem_map.mp h
  rw [List.lookup_isSome_iff]
  exact ⟨entry, hentry, beq_self_eq_true _⟩

def and (s : Fields V α) (t : Fields V β)
    (hdisjoint : ∀ name ∈ s.names, name ∉ t.names := by simp) : Fields V (α × β) where
  names := s.names ++ t.names
  required := s.required ++ t.required
  read l := (s.read l).bind fun a => (t.read l).map fun b => (a, b)
  write p := s.write p.1 ++ t.write p.2
  nodup := List.nodup_append.mpr ⟨s.nodup, t.nodup, fun _ ha _ hb hab => hdisjoint _ ha (hab ▸ hb)⟩
  required_subset name h := by
    rw [List.mem_append] at h ⊢
    exact h.imp (s.required_subset name) (t.required_subset name)
  names_write p := by rw [List.map_append, s.names_write, t.names_write]
  read_congr h := by
    rw [s.read_congr fun name hname => h name (List.mem_append_left _ hname),
      t.read_congr fun name hname => h name (List.mem_append_right _ hname)]
  read_write p := by
    have hs : s.read (fun name => (s.write p.1 ++ t.write p.2).lookup name) = some p.1 := by
      rw [← s.read_write p.1]
      apply s.read_congr
      intro name hname
      rw [List.lookup_append, Option.or_of_isSome (s.lookup_write_isSome p.1 hname)]
    have ht : t.read (fun name => (s.write p.1 ++ t.write p.2).lookup name) = some p.2 := by
      rw [← t.read_write p.2]
      apply t.read_congr
      intro name hname
      have hnone : (s.write p.1).lookup name = none :=
        s.lookup_write_of_notMem p.1 fun hmem => hdisjoint name hmem hname
      rw [List.lookup_append, hnone, Option.none_or]
    rw [hs, ht]
    rfl
  given h name hname := by
    obtain ⟨a, ha, h⟩ := Option.bind_eq_some_iff.mp h
    obtain ⟨b, hb, -⟩ := Option.map_eq_some_iff.mp h
    rcases List.mem_append.mp hname with hs | ht
    · exact s.given ha name hs
    · exact t.given hb name ht

/-- A validator over all fields, or a structure of them. -/
def refine (s : Fields V α) (make : α → Option β) (parts : β → α)
    (hmake : ∀ b, make (parts b) = some b) : Fields V β where
  names := s.names
  required := s.required
  read l := (s.read l).bind make
  write b := s.write (parts b)
  nodup := s.nodup
  required_subset := s.required_subset
  names_write b := s.names_write (parts b)
  read_congr h := by rw [s.read_congr h]
  read_write b := by rw [s.read_write, Option.bind_some, hmake]
  given h := by
    obtain ⟨a, ha, -⟩ := Option.bind_eq_some_iff.mp h
    exact s.given ha

-- The brackets keep these equations from being used up to definitional unfolding.
@[simp] theorem names_field (name : String) (f : Format V α) : (field name f).names = [name] :=
  (rfl)

@[simp] theorem names_fieldWithDefault (name : String) (f : Format V α) (default : α) :
    (fieldWithDefault name f default).names = [name] := (rfl)

@[simp] theorem names_and (s : Fields V α) (t : Fields V β)
    (h : ∀ name ∈ s.names, name ∉ t.names) : (s.and t h).names = s.names ++ t.names := (rfl)

/-- A validator that only checks. -/
def guard (s : Fields V α) (p : α → Prop) [DecidablePred p] : Fields V { a // p a } :=
  s.refine (fun a => if h : p a then some ⟨a, h⟩ else none) Subtype.val fun b => dif_pos b.property

theorem read_field {name : String} {f : Format V α} {l : String → Option V} {a : α} :
    (field name f).read l = some a ↔ ∃ v, l name = some v ∧ f.read v = some a :=
  Option.bind_eq_some_iff

theorem read_fieldWithDefault {name : String} {f : Format V α} {default : α}
    {l : String → Option V} {a : α} :
    (fieldWithDefault name f default).read l = some a ↔
      (l name = none ∧ a = default) ∨ ∃ v, l name = some v ∧ f.read v = some a := by
  show (l name).elim (some default) f.read = some a ↔ _
  cases l name with
  | none => simp [eq_comm]
  | some v => simp

theorem read_and {s : Fields V α} {t : Fields V β} {h : ∀ name ∈ s.names, name ∉ t.names}
    {l : String → Option V} {p : α × β} :
    (s.and t h).read l = some p ↔ s.read l = some p.1 ∧ t.read l = some p.2 := by
  constructor
  · intro hread
    obtain ⟨a, ha, hread⟩ := Option.bind_eq_some_iff.mp hread
    obtain ⟨b, hb, rfl⟩ := Option.map_eq_some_iff.mp hread
    exact ⟨ha, hb⟩
  · rintro ⟨ha, hb⟩
    show ((s.read l).bind fun a => (t.read l).map fun b => (a, b)) = some p
    rw [ha, hb]
    rfl

theorem read_refine {s : Fields V α} {make : α → Option β} {parts : β → α}
    {hmake : ∀ b, make (parts b) = some b} {l : String → Option V} {b : β} :
    (s.refine make parts hmake).read l = some b ↔ ∃ a, s.read l = some a ∧ make a = some b :=
  Option.bind_eq_some_iff

section Admission

variable {s : Fields V α} {t : Fields V β} {good : V → Prop}

theorem admits_field {f : Format V α} (h : f.Admits good) (name : String) :
    (field name f).Admits good := by
  intro l a hread name' hname v hv
  obtain rfl := List.mem_singleton.mp hname
  have hf : f.read v = some a := by
    change (l name').bind f.read = some a at hread
    rwa [hv] at hread
  exact h v a hf

theorem admits_fieldWithDefault {f : Format V α} (h : f.Admits good) (name : String)
    (default : α) : (fieldWithDefault name f default).Admits good := by
  intro l a hread name' hname v hv
  obtain rfl := List.mem_singleton.mp hname
  have hf : f.read v = some a := by
    change (l name').elim (some default) f.read = some a at hread
    rwa [hv] at hread
  exact h v a hf

theorem Admits.and (hs : s.Admits good) (ht : t.Admits good)
    (hdisjoint : ∀ name ∈ s.names, name ∉ t.names) : (s.and t hdisjoint).Admits good := by
  intro l p hread name hname v hv
  obtain ⟨a, ha, hread⟩ := Option.bind_eq_some_iff.mp hread
  obtain ⟨b, hb, -⟩ := Option.map_eq_some_iff.mp hread
  rcases List.mem_append.mp hname with hname | hname
  · exact hs l a ha name hname v hv
  · exact ht l b hb name hname v hv

theorem Admits.refine (hs : s.Admits good) (make : α → Option β) (parts : β → α)
    (hmake : ∀ b, make (parts b) = some b) : (s.refine make parts hmake).Admits good := by
  intro l b hread
  obtain ⟨a, ha, -⟩ := Option.bind_eq_some_iff.mp hread
  exact hs l a ha

theorem Admits.guard (hs : s.Admits good) (p : α → Prop) [DecidablePred p] :
    (s.guard p).Admits good :=
  hs.refine _ _ _

end Admission

/-- The closed record: no key twice and none that is not the name of a field. -/
def record (object : Format V (List (String × V))) (s : Fields V α) : Format V α where
  read v := (object.read v).bind fun entries =>
    if (entries.map Prod.fst).Nodup ∧ ∀ key ∈ entries.map Prod.fst, key ∈ s.names then
      s.read fun name => entries.lookup name
    else none
  write a := object.write (s.write a)
  read_write a := by
    have hclosed : ((s.write a).map Prod.fst).Nodup ∧
        ∀ key ∈ (s.write a).map Prod.fst, key ∈ s.names := by
      rw [s.names_write]
      exact ⟨s.nodup, fun _ h => h⟩
    rw [object.read_write, Option.bind_some, if_pos hclosed, s.read_write]

/-- The keys are names of the record, and they contain those that must be given. -/
structure Closed (s : Fields V α) (entries : List (String × V)) : Prop where
  nodup : (entries.map Prod.fst).Nodup
  known : ∀ key ∈ entries.map Prod.fst, key ∈ s.names
  given : ∀ name ∈ s.required, name ∈ entries.map Prod.fst

variable {object : Format V (List (String × V))} {s : Fields V α}

theorem record_eq_some {v : V} {a : α} (h : (s.record object).read v = some a) :
    ∃ entries, object.read v = some entries ∧ s.Closed entries ∧
      s.read (fun name => entries.lookup name) = some a := by
  obtain ⟨entries, hentries, hread⟩ := Option.bind_eq_some_iff.mp h
  split at hread
  · rename_i hclosed
    refine ⟨entries, hentries, ⟨hclosed.1, hclosed.2, ?_⟩, hread⟩
    intro name hname
    obtain ⟨entry, hentry, hkey⟩ := List.lookup_isSome_iff.mp (s.given hread name hname)
    rw [eq_of_beq hkey]
    exact List.mem_map_of_mem hentry
  · cases hread

theorem Closed.perm {entries : List (String × V)} (h : s.Closed entries)
    (hrequired : ∀ name ∈ s.names, name ∈ s.required) :
    (entries.map Prod.fst).Perm s.names := by
  rw [List.perm_ext_iff_of_nodup h.nodup s.nodup]
  exact fun name => ⟨h.known name, fun hname => h.given name (hrequired name hname)⟩

theorem lookup_of_mem {entries : List (String × V)} (hnodup : (entries.map Prod.fst).Nodup)
    {entry : String × V} (h : entry ∈ entries) : entries.lookup entry.1 = some entry.2 := by
  induction entries with
  | nil => cases h
  | cons first rest ih =>
      rw [List.map_cons, List.nodup_cons] at hnodup
      rcases List.mem_cons.mp h with rfl | h
      · exact List.lookup_cons_self
      · have hne : (entry.1 == first.1) = false := by
          rw [beq_eq_false_iff_ne]
          intro heq
          exact hnodup.1 (heq ▸ List.mem_map_of_mem h)
        rw [List.lookup_cons, hne]
        exact ih hnodup.2 h

theorem lookup_eq_some_iff_mem {entries : List (String × V)}
    (hnodup : (entries.map Prod.fst).Nodup) {name : String} {value : V} :
    entries.lookup name = some value ↔ (name, value) ∈ entries := by
  constructor
  · intro h
    obtain ⟨before, after, rfl, -⟩ := List.lookup_eq_some_iff.mp h
    exact List.mem_append_right _ List.mem_cons_self
  · exact fun h => lookup_of_mem hnodup h

theorem Admits.record {good : V → Prop} (hs : s.Admits good)
    (hobject : ∀ v entries, object.read v = some entries → (∀ entry ∈ entries, good entry.2) →
      good v) : (s.record object).Admits good := by
  intro v a hread
  obtain ⟨entries, hentries, hclosed, hfields⟩ := record_eq_some hread
  apply hobject v entries hentries
  intro entry hentry
  exact hs _ a hfields entry.1 (hclosed.known _ (List.mem_map_of_mem hentry)) entry.2
    (lookup_of_mem hclosed.nodup hentry)

end Fields

/-- A record whose shape one of its fields selects. -/
def tagged {T : Type w} {Message : T → Type v} (object : Format V (List (String × V)))
    (tag : Format V T) (discriminator : String) (shape : (t : T) → Fields V (Message t))
    (htag : ∀ t m, ((shape t).write m).lookup discriminator = some (tag.write t)) :
    Format V (Sigma Message) where
  read v := (object.read v).bind fun entries =>
    (entries.lookup discriminator).bind fun found =>
      (tag.read found).bind fun t => (((shape t).record object).read v).map fun m => ⟨t, m⟩
  write m := ((shape m.1).record object).write m.2
  read_write m := by
    have hwrite : ((shape m.1).record object).write m.2 = object.write ((shape m.1).write m.2) :=
      rfl
    rw [hwrite, object.read_write, Option.bind_some, htag, Option.bind_some, tag.read_write,
      Option.bind_some, ← hwrite, ((shape m.1).record object).read_write]
    rfl

theorem tagged_eq_some {T : Type w} {Message : T → Type v}
    {object : Format V (List (String × V))} {tag : Format V T} {discriminator : String}
    {shape : (t : T) → Fields V (Message t)}
    {htag : ∀ t m, ((shape t).write m).lookup discriminator = some (tag.write t)}
    {v : V} {m : Sigma Message}
    (h : (tagged object tag discriminator shape htag).read v = some m) :
    ((shape m.1).record object).read v = some m.2 ∧
      ∃ entries found, object.read v = some entries ∧
        entries.lookup discriminator = some found ∧ tag.read found = some m.1 := by
  obtain ⟨entries, hentries, h⟩ := Option.bind_eq_some_iff.mp h
  obtain ⟨found, hfound, h⟩ := Option.bind_eq_some_iff.mp h
  obtain ⟨t, ht, h⟩ := Option.bind_eq_some_iff.mp h
  obtain ⟨message, hmessage, rfl⟩ := Option.map_eq_some_iff.mp h
  exact ⟨hmessage, entries, found, hentries, hfound, ht⟩

end JarvisCore.Foundation.Schema
