import Mathlib.Data.List.Basic

namespace JarvisCore.Foundation.TransitionSystem

/-- A system that takes one atomic step at a time. A step may be disabled; an
enabled one yields the next state and the calls it makes on its environment. -/
structure System (State Action Event : Type*) where
  start : State
  step : State → Action → Option (State × List Event)

structure Transition (State Action Event : Type*) where
  source : State
  action : Action
  events : List Event
  target : State

variable {State Action Event : Type*}

/-- The runs of a system from a given state. The history lists the transitions
taken, the latest one first. -/
inductive Run (S : System State Action Event) (first : State) :
    List (Transition State Action Event) → State → Prop
  | nil : Run S first [] first
  | step {history s} (action : Action) (events : List Event) (t : State) :
      Run S first history s → S.step s action = some (t, events) →
      Run S first (⟨s, action, events, t⟩ :: history) t

def Reachable (S : System State Action Event) (s : State) : Prop :=
  ∃ history, Run S S.start history s

variable {S : System State Action Event}

/-- The invariant rule: what every step preserves holds at the end of a run. -/
theorem Run.invariant {first s : State} {history : List (Transition State Action Event)}
    (Inv : State → Prop) (hfirst : Inv first)
    (hstep : ∀ s action t events, Inv s → S.step s action = some (t, events) → Inv t)
    (hrun : Run S first history s) : Inv s := by
  induction hrun with
  | nil => exact hfirst
  | step action events t _ hfire ih => exact hstep _ action t events ih hfire

/-- The invariant rule for facts that relate a state to the history that led to it. -/
theorem Run.historyInvariant {first s : State}
    {history : List (Transition State Action Event)}
    (Inv : List (Transition State Action Event) → State → Prop) (hfirst : Inv [] first)
    (hstep : ∀ history s action t events, Run S first history s → Inv history s →
      S.step s action = some (t, events) → Inv (⟨s, action, events, t⟩ :: history) t)
    (hrun : Run S first history s) : Inv history s := by
  induction hrun with
  | nil => exact hfirst
  | step action events t hprev hfire ih => exact hstep _ _ action t events hprev ih hfire

theorem Run.reachable {s : State} {history : List (Transition State Action Event)}
    (hrun : Run S S.start history s) : Reachable S s := ⟨history, hrun⟩

theorem Reachable.invariant {s : State} (Inv : State → Prop) (hstart : Inv S.start)
    (hstep : ∀ s action t events, Inv s → S.step s action = some (t, events) → Inv t)
    (hs : Reachable S s) : Inv s := by
  obtain ⟨history, hrun⟩ := hs
  exact hrun.invariant Inv hstart hstep

theorem Reachable.step {s t : State} {action : Action} {events : List Event}
    (hs : Reachable S s) (hfire : S.step s action = some (t, events)) : Reachable S t := by
  obtain ⟨history, hrun⟩ := hs
  exact ⟨_, .step action events t hrun hfire⟩

theorem Run.append {first middle last : State}
    {earlier later : List (Transition State Action Event)}
    (hearlier : Run S first earlier middle) (hlater : Run S middle later last) :
    Run S first (later ++ earlier) last := by
  induction hlater with
  | nil => exact hearlier
  | step action events t _ hfire ih => exact .step action events t ih hfire

/-- Every transition of a history fired from the state that the part of the run
before it reached. -/
theorem Run.exists_of_mem {first s : State} {history : List (Transition State Action Event)}
    {t : Transition State Action Event} (hrun : Run S first history s) (ht : t ∈ history) :
    ∃ later earlier, history = later ++ t :: earlier ∧ Run S first earlier t.source ∧
      S.step t.source t.action = some (t.target, t.events) ∧ Run S t.target later s := by
  induction hrun with
  | nil => simp at ht
  | @step history s action events target hprev hfire ih =>
      rcases List.mem_cons.mp ht with rfl | ht
      · exact ⟨[], history, rfl, hprev, hfire, .nil⟩
      · obtain ⟨later, earlier, rfl, hearlier, hfired, hlater⟩ := ih ht
        exact ⟨_ :: later, earlier, rfl, hearlier, hfired, .step action events target hlater hfire⟩

theorem Run.split {first s : State} {later earlier : List (Transition State Action Event)}
    {u : Transition State Action Event} (hrun : Run S first (later ++ u :: earlier) s) :
    Run S first earlier u.source ∧ S.step u.source u.action = some (u.target, u.events) ∧
      Run S u.target later s := by
  induction later generalizing s with
  | nil =>
      cases hrun with
      | step action events t hprev hfire => exact ⟨hprev, hfire, .nil⟩
  | cons v later ih =>
      cases hrun with
      | step action events t hprev hfire =>
          obtain ⟨hearlier, hfired, hlater⟩ := ih hprev
          exact ⟨hearlier, hfired, .step action events _ hlater hfire⟩

/-- The property holds at every point of a run from `first`, of the part of the history
that lies before that point. -/
def Throughout (P : List (Transition State Action Event) → State → Prop) (first : State) :
    List (Transition State Action Event) → Prop
  | [] => P [] first
  | u :: earlier => P (u :: earlier) u.target ∧ Throughout P first earlier

/-- No transition is bad after what happened before it. -/
def Never (Bad : List (Transition State Action Event) → Transition State Action Event → Prop) :
    List (Transition State Action Event) → Prop
  | [] => True
  | u :: earlier => ¬ Bad earlier u ∧ Never Bad earlier

theorem Never.of_forall
    {Bad : List (Transition State Action Event) → Transition State Action Event → Prop}
    {history : List (Transition State Action Event)}
    (h : ∀ u ∈ history, ∀ earlier, ¬ Bad earlier u) : Never Bad history := by
  induction history with
  | nil => trivial
  | cons u earlier ih =>
      refine ⟨h u List.mem_cons_self earlier, ih ?_⟩
      intro v hv
      exact h v (List.mem_cons_of_mem _ hv)

theorem Throughout.mono {P Q : List (Transition State Action Event) → State → Prop} {first : State}
    {history : List (Transition State Action Event)} (hpoints : Throughout P first history)
    (h : ∀ history s, P history s → Q history s) : Throughout Q first history := by
  induction history with
  | nil => exact h [] first hpoints
  | cons u earlier ih => exact ⟨h _ _ hpoints.1, ih hpoints.2⟩

theorem Run.throughout_last {first s : State} {history : List (Transition State Action Event)}
    {P : List (Transition State Action Event) → State → Prop} (hrun : Run S first history s)
    (hpoints : Throughout P first history) : P history s := by
  cases hrun with
  | nil => exact hpoints
  | step => exact hpoints.1

/-- What every step but the bad ones keeps holds throughout the runs without bad steps. -/
theorem Run.throughout_of_never {first s : State}
    {history : List (Transition State Action Event)}
    (P : List (Transition State Action Event) → State → Prop)
    (Bad : List (Transition State Action Event) → Transition State Action Event → Prop)
    (hfirst : P [] first)
    (hkeeps : ∀ history s action events t, Run S first history s → P history s →
      S.step s action = some (t, events) → ¬ Bad history ⟨s, action, events, t⟩ →
      P (⟨s, action, events, t⟩ :: history) t)
    (hrun : Run S first history s) (hnever : Never Bad history) :
    Throughout P first history := by
  induction hrun with
  | nil => exact hfirst
  | step action events t hprev hfire ih =>
      obtain ⟨hgood, hnever⟩ := hnever
      have hpoints := ih hnever
      exact ⟨hkeeps _ _ action events t hprev (hprev.throughout_last hpoints) hfire hgood, hpoints⟩

/-- A property that every bad step breaks holds throughout only if there is none. -/
theorem Run.never_of_throughout {first s : State}
    {history : List (Transition State Action Event)}
    (P : List (Transition State Action Event) → State → Prop)
    (Bad : List (Transition State Action Event) → Transition State Action Event → Prop)
    (hbreaks : ∀ history s action events t, Run S first history s → P history s →
      S.step s action = some (t, events) → Bad history ⟨s, action, events, t⟩ →
      ¬ P (⟨s, action, events, t⟩ :: history) t)
    (hrun : Run S first history s) (hpoints : Throughout P first history) :
    Never Bad history := by
  induction hrun with
  | nil => trivial
  | step action events t hprev hfire ih =>
      obtain ⟨hlast, hpoints⟩ := hpoints
      refine ⟨fun hbad => ?_, ih hpoints⟩
      exact hbreaks _ _ action events t hprev (hprev.throughout_last hpoints) hfire hbad hlast

/-- The transitions taken by a list of actions, when all of them are enabled. -/
def replay (S : System State Action Event) (s : State) :
    List Action → Option (List (Transition State Action Event) × State)
  | [] => some ([], s)
  | action :: actions =>
      match S.step s action with
      | none => none
      | some (t, events) =>
          (replay S t actions).map fun rest => (rest.1 ++ [⟨s, action, events, t⟩], rest.2)

theorem run_of_replay {s t : State} {actions : List Action}
    {history : List (Transition State Action Event)}
    (hreplay : replay S s actions = some (history, t)) : Run S s history t := by
  induction actions generalizing s history t with
  | nil =>
      simp only [replay, Option.some.injEq, Prod.mk.injEq] at hreplay
      obtain ⟨rfl, rfl⟩ := hreplay
      exact .nil
  | cons action actions ih =>
      unfold replay at hreplay
      split at hreplay
      · simp at hreplay
      · rename_i middle events hfire
        obtain ⟨⟨rest, last⟩, hrest, heq⟩ := Option.map_eq_some_iff.mp hreplay
        simp only [Prod.mk.injEq] at heq
        obtain ⟨rfl, rfl⟩ := heq
        exact Run.append (.step action events middle .nil hfire) (ih hrest)

theorem exists_run_of_replay {s : State} (actions : List Action)
    (test : List (Transition State Action Event) → State → Bool)
    (h : (replay S s actions).any (fun r => test r.1 r.2) = true) :
    ∃ history t, Run S s history t ∧ test history t = true := by
  obtain ⟨⟨history, t⟩, hreplay, htest⟩ := (Option.any_eq_true _ _).mp h
  exact ⟨history, t, run_of_replay hreplay, htest⟩

/-- The system beside a clock that never goes back. What the clock shows when a step is
over comes with the action, and what the step itself reads from it lies in between. -/
def clocked (S : System State Action Event) (reading : Action → Option Int) (origin : Int) :
    System (State × Int) (Action × Int) Event where
  start := (S.start, origin)
  step s a :=
    let read := (reading a.1).getD s.2
    if s.2 ≤ read ∧ read ≤ a.2 then
      (S.step s.1 a.1).map fun r => ((r.1, a.2), r.2)
    else none

theorem clocked_step {reading : Action → Option Int} {origin : Int} {s t : State × Int}
    {a : Action × Int} {events : List Event}
    (h : (clocked S reading origin).step s a = some (t, events)) :
    S.step s.1 a.1 = some (t.1, events) ∧ t.2 = a.2 := by
  simp only [clocked] at h
  split at h
  · obtain ⟨r, hr, heq⟩ := Option.map_eq_some_iff.mp h
    obtain ⟨rfl, rfl⟩ := Prod.mk.inj heq
    exact ⟨hr, rfl⟩
  · cases h

theorem clocked_le {reading : Action → Option Int} {origin : Int} {s t : State × Int}
    {a : Action × Int} {events : List Event}
    (h : (clocked S reading origin).step s a = some (t, events)) : s.2 ≤ a.2 := by
  simp only [clocked] at h
  split at h
  · rename_i hclock
    exact Int.le_trans hclock.1 hclock.2
  · cases h

theorem Run.clock_le {reading : Action → Option Int} {origin : Int} {first s : State × Int}
    {history : List (Transition (State × Int) (Action × Int) Event)}
    (hrun : Run (clocked S reading origin) first history s) : first.2 ≤ s.2 := by
  induction hrun with
  | nil => exact Int.le_refl _
  | step action events t _ hfire ih =>
      rw [(clocked_step hfire).2]
      exact Int.le_trans ih (clocked_le hfire)

def Transition.untimed (u : Transition (State × Int) (Action × Int) Event) :
    Transition State Action Event :=
  ⟨u.source.1, u.action.1, u.events, u.target.1⟩

/-- Without the clock, a run of the clocked system is one of the system itself. -/
theorem Run.untimed {reading : Action → Option Int} {origin : Int} {first s : State × Int}
    {history : List (Transition (State × Int) (Action × Int) Event)}
    (hrun : Run (clocked S reading origin) first history s) :
    Run S first.1 (history.map Transition.untimed) s.1 := by
  induction hrun with
  | nil => exact .nil
  | step action events t _ hfire ih => exact .step action.1 events t.1 ih (clocked_step hfire).1

/-- Every step of `S` is, seen through `view` and `seen`, a step of `T` or no step at all. -/
def Refines {State' Action' Event' : Type*} (S : System State Action Event)
    (T : System State' Action' Event') (view : State → State')
    (seen : List Event → List Event') : Prop :=
  view S.start = T.start ∧
    ∀ s action t events, Reachable S s → S.step s action = some (t, events) →
      (view t = view s ∧ seen events = []) ∨
        ∃ action', T.step (view s) action' = some (view t, seen events)

theorem Refines.reachable {State' Action' Event' : Type*}
    {T : System State' Action' Event'} {view : State → State'}
    {seen : List Event → List Event'} (hrefines : Refines S T view seen) {s : State}
    (hs : Reachable S s) : Reachable T (view s) := by
  obtain ⟨history, hrun⟩ := hs
  induction hrun with
  | nil =>
      rw [hrefines.1]
      exact ⟨[], .nil⟩
  | step action events t hprev hfire ih =>
      rcases hrefines.2 _ action t events hprev.reachable hfire with ⟨hsame, -⟩ | ⟨action', hfire'⟩
      · rw [hsame]
        exact ih
      · exact ih.step hfire'

/-- In a history, the latest entry first: `P` happened, and `Q` has not happened since. -/
def Since {α : Type*} (P Q : α → Prop) : List α → Prop
  | [] => False
  | a :: earlier => P a ∨ (¬ Q a ∧ Since P Q earlier)

theorem since_iff {α : Type*} {P Q : α → Prop} {l : List α} :
    Since P Q l ↔ ∃ later a earlier, l = later ++ a :: earlier ∧ P a ∧ ∀ b ∈ later, ¬ Q b := by
  induction l with
  | nil => simp [Since]
  | cons a l ih =>
      constructor
      · rintro (ha | ⟨ha, hl⟩)
        · exact ⟨[], a, l, rfl, ha, by simp⟩
        · obtain ⟨later, b, earlier, rfl, hb, hlater⟩ := ih.mp hl
          exact ⟨a :: later, b, earlier, rfl, hb, List.forall_mem_cons.mpr ⟨ha, hlater⟩⟩
      · rintro ⟨later, b, earlier, heq, hb, hlater⟩
        cases later with
        | nil =>
            obtain ⟨rfl, rfl⟩ := List.cons.inj heq
            exact Or.inl hb
        | cons c later =>
            obtain ⟨rfl, rfl⟩ := List.cons.inj heq
            obtain ⟨ha, hlater⟩ := List.forall_mem_cons.mp hlater
            exact Or.inr ⟨ha, ih.mpr ⟨later, b, earlier, rfl, hb, hlater⟩⟩

def ExactlyOnce {α : Type*} (P : α → Prop) (l : List α) : Prop :=
  ∃ before a after, l = before ++ a :: after ∧ P a ∧
    (∀ b ∈ before, ¬ P b) ∧ ∀ b ∈ after, ¬ P b

theorem ExactlyOnce.head {α : Type*} {P : α → Prop} {a : α} {l : List α}
    (ha : P a) (hl : ∀ b ∈ l, ¬ P b) : ExactlyOnce P (a :: l) :=
  ⟨[], a, l, rfl, ha, by simp, hl⟩

theorem ExactlyOnce.cons {α : Type*} {P : α → Prop} {a : α} {l : List α}
    (ha : ¬ P a) (hl : ExactlyOnce P l) : ExactlyOnce P (a :: l) := by
  obtain ⟨before, b, after, rfl, hb, hbefore, hafter⟩ := hl
  refine ⟨a :: before, b, after, rfl, hb, ?_, hafter⟩
  intro c hc
  rcases List.mem_cons.mp hc with rfl | hc
  · exact ha
  · exact hbefore c hc

end JarvisCore.Foundation.TransitionSystem
