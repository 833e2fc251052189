import Mathlib.Logic.Relation
import Mathlib.Order.Lattice
import JarvisCore.Foundation.Dictionary

namespace JarvisCore.Foundation.Grouping

open JarvisCore.Foundation.Dictionary

universe u v

variable {A : Type u} {K : Type v} [DecidableEq K] (key : A → K)

/-- `grouped.setdefault(key(a), []).append(a)` -/
def append (grouped : Dict K (List A)) (a : A) : Dict K (List A) :=
  grouped.insert (key a) ((grouped.lookup (key a)).getD [] ++ [a])

def groupBy (l : List A) : Dict K (List A) := l.foldl (append key) ∅

/-- `grouped.get(k, [])` -/
def group (grouped : Dict K (List A)) (k : K) : List A := (grouped.lookup k).getD []

theorem group_append (grouped : Dict K (List A)) (a : A) (k : K) :
    group (append key grouped a) k =
      group grouped k ++ if key a = k then [a] else [] := by
  unfold group append
  rw [Dict.lookup_insert_eq]
  split
  · rename_i hk
    rw [if_pos hk.symm, hk]
    rfl
  · rename_i hk
    rw [if_neg (Ne.symm hk), List.append_nil]

theorem group_foldl (l : List A) (grouped : Dict K (List A)) (k : K) :
    group (l.foldl (append key) grouped) k =
      group grouped k ++ l.filter fun a => key a = k := by
  induction l generalizing grouped with
  | nil => simp
  | cons a rest ih =>
      rw [List.foldl_cons, ih, group_append, List.append_assoc]
      congr 1
      by_cases hk : key a = k
      · simp [hk]
      · simp [hk]

theorem group_groupBy (l : List A) (k : K) :
    group (groupBy key l) k = l.filter fun a => key a = k := by
  have hempty : group (∅ : Dict K (List A)) k = [] := rfl
  rw [groupBy, group_foldl, hempty, List.nil_append]

/-- Groups for keys without duplicates that cover the list make up the list. -/
theorem flatMap_filter_perm {keys : List K} (hkeys : keys.Nodup) (l : List A)
    (hcovered : ∀ a ∈ l, key a ∈ keys) :
    (keys.flatMap fun k => l.filter fun a => key a = k).Perm l := by
  induction keys generalizing l with
  | nil =>
      have hnil : l = [] := List.eq_nil_iff_forall_not_mem.mpr fun a ha =>
        List.not_mem_nil (hcovered a ha)
      rw [hnil]
      exact .nil
  | cons k rest ih =>
      obtain ⟨hk, hrest⟩ := List.nodup_cons.mp hkeys
      let others := l.filter fun a => !decide (key a = k)
      have hothers : ∀ k' ∈ rest, (l.filter fun a => key a = k') =
          others.filter fun a => key a = k' := by
        intro k' hk'
        rw [List.filter_filter]
        apply List.filter_congr
        intro a _
        by_cases ha : key a = k'
        · have hne : key a ≠ k := fun heq => hk (heq ▸ ha ▸ hk')
          simp [ha, show k' ≠ k from ha ▸ hne]
        · simp [ha]
      have hperm := ih hrest others fun a ha => by
        obtain ⟨hmem, hne⟩ := List.mem_filter.mp ha
        have hkey := List.mem_cons.mp (hcovered a hmem)
        exact hkey.resolve_left (by simpa using hne)
      rw [List.flatMap_cons, List.flatMap_congr hothers]
      exact (hperm.append_left _).trans (List.filter_append_perm _ l)

/-- Two neighbours with different keys are exchanged. -/
def Swapped (l l' : List A) : Prop :=
  ∃ front a b back, key a ≠ key b ∧ l = front ++ a :: b :: back ∧ l' = front ++ b :: a :: back

theorem Swapped.filter_eq {l l' : List A} (h : Swapped key l l') (k : K) :
    (l.filter fun a => key a = k) = l'.filter fun a => key a = k := by
  obtain ⟨front, a, b, back, hne, rfl, rfl⟩ := h
  rw [List.filter_append, List.filter_append]
  congr 1
  by_cases ha : key a = k
  · have hb : ¬ key b = k := fun heq => hne (ha.trans heq.symm)
    simp [ha, hb]
  · simp [List.filter_cons, ha]

/-- Moving elements with different keys past each other leaves every group as it is. -/
theorem filter_eq_of_swaps {l l' : List A} (h : Relation.ReflTransGen (Swapped key) l l') (k : K) :
    (l.filter fun a => key a = k) = l'.filter fun a => key a = k := by
  induction h with
  | refl => rfl
  | tail _ hstep ih => exact ih.trans (Swapped.filter_eq key hstep k)

section Sorting

variable {K : Type*} [LinearOrder K] {α : Type*}

/-- `sorted(l, key=key)`. -/
def sortBy (key : α → K) (l : List α) : List α := l.mergeSort fun a b => decide (key a ≤ key b)

theorem sortBy_perm (key : α → K) (l : List α) : (sortBy key l).Perm l := List.mergeSort_perm l _

theorem sortBy_pairwise (key : α → K) (l : List α) :
    (sortBy key l).Pairwise fun a b => key a ≤ key b := by
  refine (List.pairwise_mergeSort ?_ ?_ l).imp of_decide_eq_true
  · intro a b c hab hbc
    exact decide_eq_true (le_trans (of_decide_eq_true hab) (of_decide_eq_true hbc))
  · intro a b
    rw [Bool.or_eq_true, decide_eq_true_eq, decide_eq_true_eq]
    exact le_total (key a) (key b)

/-- Where the keys tell the elements apart, sorting forgets the order of the list. -/
theorem sortBy_eq_of_perm (key : α → K) {l l' : List α} (hperm : l.Perm l')
    (hkey : ∀ a ∈ l, ∀ b ∈ l, key a = key b → a = b) : sortBy key l = sortBy key l' := by
  have hsorted (m : List α) : (sortBy key m).Pairwise fun a b => decide (key a ≤ key b) = true := by
    apply List.pairwise_mergeSort
    · intro a b c hab hbc
      exact decide_eq_true (le_trans (of_decide_eq_true hab) (of_decide_eq_true hbc))
    · intro a b
      rw [Bool.or_eq_true, decide_eq_true_eq, decide_eq_true_eq]
      exact le_total (key a) (key b)
  have hboth : (sortBy key l).Perm (sortBy key l') :=
    (sortBy_perm key l).trans (hperm.trans (sortBy_perm key l').symm)
  refine hboth.eq_of_pairwise ?_ (hsorted l) (hsorted l')
  intro a b ha hb hab hba
  have ha' : a ∈ l := (sortBy_perm key l).mem_iff.mp ha
  have hb' : b ∈ l := hperm.mem_iff.mpr ((sortBy_perm key l').mem_iff.mp hb)
  exact hkey a ha' b hb' (le_antisymm (of_decide_eq_true hab) (of_decide_eq_true hba))

end Sorting

section Fallible

variable {ε α β γ : Type} {f : α → Except ε β}

theorem mapM_cons_eq_ok {a : α} {l : List α} {bs : List β} :
    (a :: l).mapM f = .ok bs ↔
      ∃ b rest, f a = .ok b ∧ l.mapM f = .ok rest ∧ bs = b :: rest := by
  rw [List.mapM_cons]
  cases f a with
  | error error => simp [bind, Except.bind]
  | ok b =>
      cases l.mapM f with
      | error error => simp [bind, Except.bind]
      | ok rest => simp [bind, Except.bind, pure, Except.pure, eq_comm]

/-- A pass over a list in another order yields the same results in another order. -/
theorem mapM_perm {l l' : List α} (hperm : l.Perm l') {bs : List β} (h : l.mapM f = .ok bs) :
    ∃ bs', l'.mapM f = .ok bs' ∧ bs.Perm bs' := by
  induction hperm generalizing bs with
  | nil => exact ⟨bs, h, .refl bs⟩
  | cons a _ ih =>
      obtain ⟨b, rest, hb, hrest, rfl⟩ := mapM_cons_eq_ok.mp h
      obtain ⟨rest', hrest', hperm⟩ := ih hrest
      exact ⟨b :: rest', mapM_cons_eq_ok.mpr ⟨b, rest', hb, hrest', rfl⟩, hperm.cons b⟩
  | swap a a' l =>
      obtain ⟨b, rest, hb, hrest, rfl⟩ := mapM_cons_eq_ok.mp h
      obtain ⟨b', rest', hb', hrest', rfl⟩ := mapM_cons_eq_ok.mp hrest
      refine ⟨b' :: b :: rest', ?_, .swap b' b rest'⟩
      apply mapM_cons_eq_ok.mpr
      exact ⟨b', b :: rest', hb', mapM_cons_eq_ok.mpr ⟨b, rest', hb, hrest', rfl⟩, rfl⟩
  | trans _ _ ih ih' =>
      obtain ⟨middle, hmiddle, hperm⟩ := ih h
      obtain ⟨bs', hbs', hperm'⟩ := ih' hmiddle
      exact ⟨bs', hbs', hperm.trans hperm'⟩

theorem mem_of_mapM {l : List α} {bs : List β} (h : l.mapM f = .ok bs) {b : β} (hb : b ∈ bs) :
    ∃ a ∈ l, f a = .ok b := by
  induction l generalizing bs with
  | nil =>
      obtain rfl : [] = bs := Except.ok.inj h
      cases hb
  | cons a l ih =>
      obtain ⟨first, rest, hfirst, hrest, rfl⟩ := mapM_cons_eq_ok.mp h
      rcases List.mem_cons.mp hb with rfl | hb
      · exact ⟨a, List.mem_cons_self, hfirst⟩
      · obtain ⟨a', ha', heq⟩ := ih hrest hb
        exact ⟨a', List.mem_cons_of_mem a ha', heq⟩

theorem exists_of_mapM {l : List α} {bs : List β} (h : l.mapM f = .ok bs) {a : α} (ha : a ∈ l) :
    ∃ b ∈ bs, f a = .ok b := by
  induction l generalizing bs with
  | nil => cases ha
  | cons first l ih =>
      obtain ⟨b, rest, hb, hrest, rfl⟩ := mapM_cons_eq_ok.mp h
      rcases List.mem_cons.mp ha with rfl | ha
      · exact ⟨b, List.mem_cons_self, hb⟩
      · obtain ⟨b', hb', heq⟩ := ih hrest ha
        exact ⟨b', List.mem_cons_of_mem b hb', heq⟩

theorem exists_mapM {l : List α} (h : ∀ a ∈ l, ∃ b, f a = .ok b) : ∃ bs, l.mapM f = .ok bs := by
  induction l with
  | nil => exact ⟨[], rfl⟩
  | cons a l ih =>
      obtain ⟨b, hb⟩ := h a List.mem_cons_self
      obtain ⟨rest, hrest⟩ := ih fun a' ha' => h a' (List.mem_cons_of_mem a ha')
      exact ⟨b :: rest, mapM_cons_eq_ok.mpr ⟨b, rest, hb, hrest, rfl⟩⟩

theorem map_of_mapM {g : α → γ} {g' : β → γ} (hg : ∀ a b, f a = .ok b → g' b = g a)
    {l : List α} {bs : List β} (h : l.mapM f = .ok bs) : bs.map g' = l.map g := by
  induction l generalizing bs with
  | nil =>
      obtain rfl : [] = bs := Except.ok.inj h
      rfl
  | cons a l ih =>
      obtain ⟨b, rest, hb, hrest, rfl⟩ := mapM_cons_eq_ok.mp h
      rw [List.map_cons, List.map_cons, hg a b hb, ih hrest]

theorem mapM_map_eq_ok {g : γ → α} {value : γ → β} {l : List γ}
    (h : ∀ c ∈ l, f (g c) = .ok (value c)) : (l.map g).mapM f = .ok (l.map value) := by
  induction l with
  | nil => rfl
  | cons c l ih =>
      have hhead := h c List.mem_cons_self
      have htail := ih fun c' hc' => h c' (List.mem_cons_of_mem c hc')
      exact mapM_cons_eq_ok.mpr ⟨value c, l.map value, hhead, htail, rfl⟩

end Fallible

end JarvisCore.Foundation.Grouping
