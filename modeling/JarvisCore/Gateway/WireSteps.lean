import JarvisCore.Gateway.Wire

namespace JarvisCore.Gateway.WireSteps

open JarvisCore.Domain.Values
open JarvisCore.Domain.Errors
open JarvisCore.Domain.Models
open JarvisCore.Foundation.TransitionSystem
open JarvisCore.Service.Operations (Config Event)
open JarvisCore.Gateway.Handlers
open JarvisCore.Gateway.Transports
open JarvisCore.Gateway.Transports.Transport (Evolves request_evolves resume_evolves cancel_evolves
  complete_evolves)
open JarvisCore.Gateway.Wire

variable {Digest : Type} {config : Config Digest}

abbrev Step (config : Config Digest) := Transition (State config) (Action config) Empty

/-- The step of the gateway that a step of the process contains, and the state in which it
happens. -/
inductive Passes (settings : Settings) (s : State config) :
    Action config → Operations.Action config → State config → Prop
  | internal (action : Operations.Action config) : direct s.gateway action = true →
      Passes settings s (.internal action) action s
  | inbound (h x : Nat) (event : Inbound) (closing : Option Raised) (clock : Datetime)
      (now : AwareDatetime) :
      Passes settings s (.inbound h x event closing clock now)
        (.received h x (receiveMessage settings event closing) clock now)
        (s.setTransport h { s.transports h with
          closes := (s.transports h).closes ++ (event.refusal settings).toList })
  | returned (h j : Nat) (now : AwareDatetime) (writer : Writer) (job : Job)
      (failure : Option Raised) (action : Operations.Action config) :
      (s.transports h).tasks j = some ⟨writer, job, .done failure⟩ →
      continuation h writer job failure now = some action →
      Passes settings s (.returned h j now) action
        (s.setTransport h ((s.transports h).clear j))

/-- Only job `j` of transport `h` goes on. -/
inductive Moves (h j : Nat) : Action config → Prop
  | resume : Moves h j (.resume h j)
  | cancel : Moves h j (.cancel h j)
  | complete (failure : Option Raised) : Moves h j (.complete h j failure)

/-- The steps in which the gateway rests. -/
inductive Quiet (settings : Settings) (s : State config) : Action config → State config → Prop
  | evolves (action : Action config) (h j : Nat) (task : Task) (t : Transport) :
      Moves h j action → (s.transports h).tasks j = some task →
      Evolves (s.transports h) j task t → ((s.transports h).Ok → t.Ok) →
      Quiet settings s action (s.setTransport h t)
  | ends (h j : Nat) (now : AwareDatetime) (writer : Writer) (job : Job)
      (failure : Option Raised) :
      (s.transports h).tasks j = some ⟨writer, job, .done failure⟩ →
      Quiet settings s (.returned h j now) (s.setTransport h ((s.transports h).clear j))
  | begins (h : Nat) (job : Job) (gathered : List (Nat × Job)) : s.gathered = (h, job) :: gathered →
      Quiet settings s .begins (State.setTransport { s with gathered } h
        ((s.transports h).request settings.encodes .shutdown job))
  | cancelsNext (r : Nat × Job) (gathered : List (Nat × Job)) : s.gathered = r :: gathered →
      Quiet settings s .cancelNext { s with gathered }

/-- A closed transport stays closed and writes nothing. -/
structure Stays (t t' : Transport) : Prop where
  closed : t.closed = true → t'.closed = true
  frames : t.closed = true → t'.frames = t.frames
  closes : t.closes <+: t'.closes

theorem Stays.refl (t : Transport) : Stays t t := ⟨id, fun _ => rfl, List.prefix_rfl⟩

theorem Stays.trans {t t' t'' : Transport} (h : Stays t t') (h' : Stays t' t'') : Stays t t'' where
  closed hclosed := h'.closed (h.closed hclosed)
  frames hclosed := (h'.frames (h.closed hclosed)).trans (h.frames hclosed)
  closes := h.closes.trans h'.closes

theorem stays_of_evolves {t t' : Transport} {j : Nat} {task : Task} (h : Evolves t j task t') :
    Stays t t' where
  closed hclosed := (h.monotone.2.1 hclosed).1
  frames hclosed := (h.monotone.2.1 hclosed).2
  closes := h.monotone.2.2

theorem Stays.closes_ne_nil {t t' : Transport} (h : Stays t t') (hclosed : t.closes ≠ []) :
    t'.closes ≠ [] := by
  obtain ⟨rest, hrest⟩ := h.closes
  rw [← hrest]
  exact List.append_ne_nil_of_left_ne_nil hclosed rest

theorem requestAll_rule {encodes : DeviceCommand → Bool} {t : Transport}
    {jobs : List (Writer × Job)} {P : Transport → Prop} (ht : P t)
    (hrequest : ∀ t r, r ∈ jobs → P t → P (t.request encodes r.1 r.2)) :
    P (requestAll encodes t jobs) := by
  induction jobs generalizing t with
  | nil => exact ht
  | cons r jobs ih =>
      refine ih (hrequest t r List.mem_cons_self ht) ?_
      intro t' r' hmem
      exact hrequest t' r' (List.mem_cons_of_mem _ hmem)

@[simp] theorem setTransport_self (s : State config) (h : Nat) (t : Transport) :
    (s.setTransport h t).transports h = t :=
  Function.update_self _ _ _

theorem setTransport_of_ne {s : State config} {h h' : Nat} (t : Transport) (hne : h' ≠ h) :
    (s.setTransport h t).transports h' = s.transports h' :=
  Function.update_of_ne hne _ _

theorem setTransport_rule {s : State config} {h : Nat} {t : Transport}
    {P : Nat → Transport → Prop} (hs : ∀ h', P h' (s.transports h')) (ht : P h t) (h' : Nat) :
    P h' ((s.setTransport h t).transports h') := by
  by_cases hne : h' = h
  · subst hne
    rw [setTransport_self]
    exact ht
  · rw [setTransport_of_ne t hne]
    exact hs h'

theorem setTransport_stays {s : State config} {h : Nat} {t : Transport}
    (hstays : Stays (s.transports h) t) (h' : Nat) :
    Stays (s.transports h') ((s.setTransport h t).transports h') :=
  setTransport_rule (P := fun h' t' => Stays (s.transports h') t') (fun _ => .refl _) hstays h'

variable [DecidableEq Digest] {settings : Settings} {s t : State config}

theorem advance_eq_some {action : Operations.Action config}
    (hadvance : advance settings s action = some t) :
    ∃ g events, Operations.step s.gateway action = some (g, events) ∧ t.gateway = g ∧
      (∀ h, t.transports h = requestAll settings.encodes (s.transports h)
        (serviceRequests s action h ++ handlerRequests settings s action g events h)) ∧
      t.gathered = s.gathered ++ gather s action := by
  unfold advance at hadvance
  split at hadvance
  · cases hadvance
  · rename_i g events hstep
    cases hadvance
    exact ⟨g, events, hstep, rfl, fun _ => rfl, rfl⟩

theorem advance_stays {action : Operations.Action config}
    (hadvance : advance settings s action = some t) (h : Nat) :
    Stays (s.transports h) (t.transports h) := by
  obtain ⟨g, events, -, -, htransports, -⟩ := advance_eq_some hadvance
  rw [htransports]
  exact requestAll_rule (P := Stays (s.transports h)) (.refl _) fun _ r _ hstays =>
    hstays.trans (stays_of_evolves (request_evolves r.1 r.2))

theorem step_cases {action : Action config} (hstep : step settings s action = some t) :
    (∃ passed s₁, Passes settings s action passed s₁ ∧ advance settings s₁ passed = some t) ∨
      Quiet settings s action t := by
  cases action with
  | internal gatewayAction =>
      simp only [step] at hstep
      split at hstep
      · rename_i hdirect
        exact .inl ⟨gatewayAction, s, .internal _ hdirect, hstep⟩
      · cases hstep
  | inbound h x event closing clock now =>
      exact .inl ⟨_, _, .inbound h x event closing clock now, hstep⟩
  | resume h j =>
      obtain ⟨t, ht, rfl⟩ := Option.map_eq_some_iff.mp hstep
      obtain ⟨task, htask, hevolves⟩ := resume_evolves ht
      exact .inr (.evolves _ h j task t .resume htask hevolves fun hok => hok.resume ht)
  | cancel h j =>
      obtain ⟨t, ht, rfl⟩ := Option.map_eq_some_iff.mp hstep
      obtain ⟨task, htask, hevolves⟩ := cancel_evolves ht
      exact .inr (.evolves _ h j task t .cancel htask hevolves fun hok => hok.cancel ht)
  | complete h j failure =>
      obtain ⟨t, ht, rfl⟩ := Option.map_eq_some_iff.mp hstep
      obtain ⟨task, htask, hevolves⟩ := complete_evolves ht
      exact .inr (.evolves _ h j task t (.complete failure) htask hevolves fun hok => hok.complete ht)
  | returned h j now =>
      simp only [step] at hstep
      split at hstep
      · rename_i writer job failure htask
        split at hstep
        · rename_i gatewayAction hcontinuation
          exact .inl ⟨gatewayAction, _, .returned h j now writer job failure gatewayAction htask
            hcontinuation, hstep⟩
        · cases hstep
          exact .inr (.ends h j now writer job failure htask)
      · cases hstep
  | begins =>
      simp only [step] at hstep
      split at hstep
      · rename_i h job gathered heq
        cases hstep
        exact .inr (.begins h job gathered heq)
      · cases hstep
  | cancelNext =>
      simp only [step] at hstep
      split at hstep
      · rename_i r gathered heq
        cases hstep
        exact .inr (.cancelsNext r gathered heq)
      · cases hstep

omit [DecidableEq Digest] in
theorem Passes.gateway {action : Action config} {passed : Operations.Action config}
    (h : Passes settings s action passed t) : t.gateway = s.gateway := by
  cases h with
  | internal | inbound | returned => rfl

omit [DecidableEq Digest] in
theorem Passes.stays {action : Action config} {passed : Operations.Action config}
    (hpasses : Passes settings s action passed t) (h : Nat) :
    Stays (s.transports h) (t.transports h) := by
  cases hpasses with
  | internal => exact .refl _
  | inbound h' x event closing clock now =>
      refine setTransport_stays ?_ h
      exact ⟨id, fun _ => rfl, List.prefix_append _ _⟩
  | returned h' j now writer job failure action htask =>
      refine setTransport_stays ?_ h
      exact ⟨id, fun _ => rfl, List.prefix_rfl⟩

omit [DecidableEq Digest] in
theorem Quiet.gateway {action : Action config} (h : Quiet settings s action t) :
    t.gateway = s.gateway := by
  cases h with
  | evolves | ends | begins | cancelsNext => rfl

omit [DecidableEq Digest] in
theorem Quiet.stays {action : Action config} (hquiet : Quiet settings s action t) (h : Nat) :
    Stays (s.transports h) (t.transports h) := by
  cases hquiet with
  | evolves _ h' j task t _ _ hevolves _ => exact setTransport_stays (stays_of_evolves hevolves) h
  | ends h' j now writer job failure htask =>
      refine setTransport_stays ?_ h
      exact ⟨id, fun _ => rfl, List.prefix_rfl⟩
  | begins h' job gathered heq =>
      have hevolves : Evolves (s.transports h') _ _
          ((s.transports h').request settings.encodes .shutdown job) :=
        request_evolves .shutdown job
      exact setTransport_stays (s := { s with gathered }) (stays_of_evolves hevolves) h
  | cancelsNext => exact .refl _

theorem step_stays {action : Action config} (hstep : step settings s action = some t) (h : Nat) :
    Stays (s.transports h) (t.transports h) := by
  rcases step_cases hstep with ⟨passed, s₁, hpasses, hadvance⟩ | hquiet
  · exact (hpasses.stays h).trans (advance_stays hadvance h)
  · exact hquiet.stays h

theorem wire_step {action : Action config} {events : List Empty}
    (hstep : (wire config settings).step s action = some (t, events)) :
    step settings s action = some t := by
  obtain ⟨t', ht, heq⟩ := Option.map_eq_some_iff.mp hstep
  cases heq
  exact ht

theorem run_stays {later : List (Step config)} (hrun : Run (wire config settings) s later t)
    (h : Nat) : Stays (s.transports h) (t.transports h) :=
  hrun.invariant (fun t => Stays (s.transports h) (t.transports h)) (.refl _)
    fun _ _ _ _ hstays hstep => hstays.trans (step_stays (wire_step hstep) h)

end JarvisCore.Gateway.WireSteps
