import Mathlib.Algebra.Order.BigOperators.Group.Finset
import JarvisCore.Foundation.TransitionSystem

namespace JarvisCore.Foundation.Progress

open JarvisCore.Foundation.TransitionSystem

variable {State Action Event : Type*} {S : System State Action Event} {Kind : Action → Prop}

def Only (Kind : Action → Prop) (history : List (Transition State Action Event)) : Prop :=
  ∀ u ∈ history, Kind u.action

def Stuck (S : System State Action Event) (Kind : Action → Prop) (s : State) : Prop :=
  ∀ action, Kind action → S.step s action = none

theorem exists_step_of_not_stuck {s : State} (h : ¬ Stuck S Kind s) :
    ∃ action t events, Kind action ∧ S.step s action = some (t, events) := by
  simp only [Stuck, not_forall] at h
  obtain ⟨action, hkind, hfire⟩ := h
  obtain ⟨⟨t, events⟩, hfire⟩ := Option.ne_none_iff_exists'.mp hfire
  exact ⟨action, t, events, hkind, hfire⟩

/-- The potential rule: the steps taken and the potential that is left stay within the
potential at the start. -/
theorem Run.potential {first s : State} {history : List (Transition State Action Event)}
    (Inv : State → Prop) (potential : State → Nat)
    (hlower : ∀ s action t events, Inv s → Kind action → S.step s action = some (t, events) →
      Inv t ∧ potential t < potential s)
    (hrun : Run S first history s) (honly : Only Kind history) (hfirst : Inv first) :
    Inv s ∧ history.length + potential s ≤ potential first := by
  induction hrun with
  | nil => exact ⟨hfirst, by simp⟩
  | step action events t _ hfire ih =>
      obtain ⟨hinv, hle⟩ := ih fun u hu => honly u (List.mem_cons_of_mem _ hu)
      obtain ⟨hinv', hlt⟩ := hlower _ action t events hinv (honly _ List.mem_cons_self) hfire
      refine ⟨hinv', ?_⟩
      rw [List.length_cons]
      omega

theorem exists_stuck {first : State} (Inv : State → Prop) (potential : State → Nat)
    (hlower : ∀ s action t events, Inv s → Kind action → S.step s action = some (t, events) →
      Inv t ∧ potential t < potential s) (hfirst : Inv first) :
    ∃ history s, Run S first history s ∧ Only Kind history ∧ Stuck S Kind s := by
  generalize hn : potential first = n
  induction n using Nat.strongRecOn generalizing first with
  | ind n ih =>
      by_cases hstuck : Stuck S Kind first
      · exact ⟨[], first, .nil, by simp [Only], hstuck⟩
      · obtain ⟨action, t, events, hkind, hfire⟩ := exists_step_of_not_stuck hstuck
        obtain ⟨hinv, hlt⟩ := hlower first action t events hfirst hkind hfire
        obtain ⟨history, s, hrun, honly, hlast⟩ := ih _ (hn ▸ hlt) hinv rfl
        refine ⟨history ++ [⟨first, action, events, t⟩], s,
          Run.append (.step action events t .nil hfire) hrun, ?_, hlast⟩
        intro u hu
        rcases List.mem_append.mp hu with hu | hu
        · exact honly u hu
        · obtain rfl := List.mem_singleton.mp hu
          exact hkind

section Tasks

variable {Task : Type*} {left : State → Task → Nat}

/-- Each step of the kind is one of a single task, and brings it closer to its end. -/
def Lowers (left : State → Task → Nat) (s t : State) : Prop :=
  ∃ x, left t x < left s x ∧ ∀ y, y ≠ x → left t y = left s y

/-- The tasks come to an end: they take together at most the steps that each has left, and
some run takes them as far as they go. -/
theorem tasks_drain {first : State} (Inv : State → Prop)
    (hlower : ∀ s action t events, Inv s → Kind action → S.step s action = some (t, events) →
      Inv t ∧ Lowers left s t) (hfirst : Inv first) (tasks : Finset Task)
    (htasks : ∀ x, left first x ≠ 0 → x ∈ tasks) :
    (∃ history s, Run S first history s ∧ Only Kind history ∧ Stuck S Kind s) ∧
      ∀ history s, Run S first history s → Only Kind history →
        Inv s ∧ history.length ≤ ∑ x ∈ tasks, left first x := by
  have hpotential : ∀ s action t events, (Inv s ∧ ∀ x, left s x ≠ 0 → x ∈ tasks) →
      Kind action → S.step s action = some (t, events) →
      (Inv t ∧ ∀ x, left t x ≠ 0 → x ∈ tasks) ∧ ∑ x ∈ tasks, left t x < ∑ x ∈ tasks, left s x := by
    rintro s action t events ⟨hinv, hwithin⟩ hkind hfire
    obtain ⟨hinv', x, hlt, hother⟩ := hlower s action t events hinv hkind hfire
    have hx : x ∈ tasks := hwithin x (by omega)
    refine ⟨⟨hinv', ?_⟩, Finset.sum_lt_sum ?_ ⟨x, hx, hlt⟩⟩
    · intro y hy
      by_cases hyx : y = x
      · rw [hyx]
        exact hx
      · rw [hother y hyx] at hy
        exact hwithin y hy
    · intro y _
      by_cases hyx : y = x
      · rw [hyx]
        exact hlt.le
      · rw [hother y hyx]
  refine ⟨exists_stuck _ _ hpotential ⟨hfirst, htasks⟩, ?_⟩
  intro history s hrun honly
  obtain ⟨⟨hinv, -⟩, hle⟩ := Run.potential _ _ hpotential hrun honly ⟨hfirst, htasks⟩
  exact ⟨hinv, by omega⟩

end Tasks

end JarvisCore.Foundation.Progress
