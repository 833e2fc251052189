import JarvisCore.Foundation.TransitionSystem

namespace JarvisCore.Foundation.Moments

open JarvisCore.Foundation.TransitionSystem

variable {State Action Event : Type*} {S : System State Action Event} {first s t : State}
  {moments : List State} {history : List (Transition State Action Event)}

/-- The run goes through the states, of which the list has the latest one first. -/
def Passes (S : System State Action Event) (first : State) :
    List State → List (Transition State Action Event) → State → Prop
  | [], history, s => Run S first history s
  | moment :: earlier, history, s =>
      ∃ later before, history = later ++ before ∧ Passes S first earlier before moment ∧
        Run S moment later s

theorem Passes.run (h : Passes S first moments history s) : Run S first history s := by
  induction moments generalizing history s with
  | nil => exact h
  | cons moment earlier ih =>
      obtain ⟨later, before, rfl, hearlier, hlater⟩ := h
      exact (ih hearlier).append hlater

theorem Passes.step {action : Action} {events : List Event}
    (h : Passes S first moments history s) (hstep : S.step s action = some (t, events)) :
    Passes S first moments (⟨s, action, events, t⟩ :: history) t := by
  cases moments with
  | nil => exact .step action events t h hstep
  | cons moment earlier =>
      obtain ⟨later, before, rfl, hearlier, hlater⟩ := h
      exact ⟨_, before, rfl, hearlier, .step action events t hlater hstep⟩

theorem Passes.mark (h : Passes S first moments history s) :
    Passes S first (s :: moments) history s :=
  ⟨[], history, rfl, h, .nil⟩

theorem Passes.split {moment : State} (h : Passes S first (moment :: moments) history s) :
    ∃ before later, Passes S first moments before moment ∧ Run S moment later s := by
  obtain ⟨later, before, -, hbefore, hlater⟩ := h
  exact ⟨before, later, hbefore, hlater⟩

theorem Run.relates {R : State → State → Prop} (hrefl : ∀ s, R s s)
    (htrans : ∀ s t u, R s t → R t u → R s u)
    (hstep : ∀ history s action t events, Run S first history s →
      S.step s action = some (t, events) → R s t)
    {earlier later : List (Transition State Action Event)}
    (hearlier : Run S first earlier s) (hlater : Run S s later t) : R s t := by
  induction hlater with
  | nil => exact hrefl _
  | step action events t hlater hfire ih =>
      exact htrans _ _ _ ih (hstep _ _ action t events (hearlier.append hlater) hfire)

end JarvisCore.Foundation.Moments
