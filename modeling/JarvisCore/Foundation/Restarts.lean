import JarvisCore.Foundation.TransitionSystem

namespace JarvisCore.Foundation.Restarts

open JarvisCore.Foundation.TransitionSystem

variable {State Action Event : Type*}

/-- The system in a process that may die before any step. The action `none` kills the
process and starts it again, and `recover` tells with what. -/
def restarting (S : System State Action Event) (recover : State → State) :
    System State (Option Action) Event where
  start := S.start
  step s
    | some action => S.step s action
    | none => some (recover s, [])

/-- The steps taken in any of the processes, the latest one first. -/
def stepsTaken (history : List (Transition State (Option Action) Event)) :
    List (Transition State Action Event) :=
  history.filterMap fun u => u.action.map fun action => ⟨u.source, action, u.events, u.target⟩

/-- The steps taken since the process was started. -/
def sinceStart : List (Transition State (Option Action) Event) →
    List (Transition State Action Event)
  | [] => []
  | ⟨s, some action, events, t⟩ :: earlier => ⟨s, action, events, t⟩ :: sinceStart earlier
  | ⟨_, none, _, _⟩ :: _ => []

section Steps

variable {s t : State} {action : Action} {events : List Event}
  {earlier : List (Transition State (Option Action) Event)}

@[simp] theorem stepsTaken_cons_some : stepsTaken (⟨s, some action, events, t⟩ :: earlier) =
    ⟨s, action, events, t⟩ :: stepsTaken earlier := rfl

@[simp] theorem stepsTaken_cons_none : stepsTaken (⟨s, none, events, t⟩ :: earlier) =
    stepsTaken earlier := rfl

end Steps

variable {S : System State Action Event} {recover : State → State}

/-- The invariant rule: what the steps keep, and what recovery restores, always holds. -/
theorem Run.restartInvariant {first s : State}
    {history : List (Transition State (Option Action) Event)}
    (Inv : List (Transition State Action Event) → State → Prop) (hfirst : Inv [] first)
    (hstep : ∀ history s action t events, Inv history s → S.step s action = some (t, events) →
      Inv (⟨s, action, events, t⟩ :: history) t)
    (hrecover : ∀ history s, Inv history s → Inv history (recover s))
    (hrun : Run (restarting S recover) first history s) : Inv (stepsTaken history) s := by
  induction hrun with
  | nil => exact hfirst
  | step action events t _ hfire ih =>
      cases action with
      | some action => exact hstep _ _ action t events ih hfire
      | none =>
          cases hfire
          exact hrecover _ _ ih

end JarvisCore.Foundation.Restarts
