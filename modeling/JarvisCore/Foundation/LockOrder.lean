import Mathlib.Order.WellFounded
import JarvisCore.Foundation.Coroutines

/-!
Programs that take their locks in the order of a rank, and do not suspend while they hold
a lock of a given kind. Tasks that run such programs never block each other for good.
-/

namespace JarvisCore.Foundation.LockOrder

open JarvisCore.Foundation.AsyncIO
open JarvisCore.Foundation.Coroutines
open JarvisCore.Foundation.TransitionSystem

universe u

variable {L : Type} {R : Type u} [Preorder R] (rank : L → R) (brief : L → Prop)

/-- Under the locks `held`, a lock of higher rank may be taken, and nothing suspends while
a brief lock is held. -/
def Ordered (held : List L) : Code L → Prop
  | .skip | .leave _ => True
  | .await => ∀ l ∈ held, ¬ brief l
  | .seq p q | .choice p q | .tryExcept p _ q | .tryFinally p q =>
      Ordered held p ∧ Ordered held q
  | .choose p => ∀ n, Ordered held (p n)
  | .loop p | .call p => Ordered held p
  | .withLock l p => (∀ l' ∈ held, rank l' < rank l ∧ ¬ brief l') ∧ Ordered (l :: held) p

def held : List (Frame L) → List L
  | [] => []
  | .release l :: k => l :: held k
  | .rest _ :: k | .loop _ :: k | .handler _ _ :: k | .cleanup _ :: k | .resume _ :: k
  | .call :: k => held k

def FrameOrdered (outer : List L) : Frame L → Prop
  | .rest p | .loop p | .handler _ p | .cleanup p => Ordered rank brief outer p
  | .release l => ∀ l' ∈ outer, rank l' < rank l
  | .resume _ | .call => True

def StackOrdered : List (Frame L) → Prop
  | [] => True
  | frame :: k => FrameOrdered rank brief (held k) frame ∧ StackOrdered k

def ModeOrdered (locks : List L) : Mode L → Prop
  | .running p => Ordered rank brief locks p
  | .leaving _ => True
  | .awaiting => ∀ l ∈ locks, ¬ brief l
  | .waiting l p _ => Ordered rank brief locks (.withLock l p)

structure TaskOrdered (task : Coroutine L) : Prop where
  mode : ModeOrdered rank brief (held task.stack) task.mode
  stack : StackOrdered rank brief task.stack

/-- The locks belong to the tasks that are to give them back, and only the current task may
hold a brief one. -/
structure Invariant (s : State L) : Prop where
  ordered : ∀ x task, s.tasks x = some task → TaskOrdered rank brief task
  owned : ∀ x l, (s.locks l).owner = some x ↔
    ∃ task, s.tasks x = some task ∧ l ∈ held task.stack
  brief_current : ∀ x task, s.tasks x = some task → s.current ≠ some x →
    ∀ l ∈ held task.stack, ¬ brief l
  wellFormed : ∀ l, (s.locks l).WellFormed

variable {rank brief}

section Rules

variable {locks : List L} {p q : Code L}

@[simp] theorem ordered_skip : Ordered rank brief locks .skip := trivial

@[simp] theorem ordered_leave (e : Leaving) : Ordered rank brief locks (.leave e) := trivial

@[simp] theorem ordered_seq : Ordered rank brief locks (.seq p q) ↔
    Ordered rank brief locks p ∧ Ordered rank brief locks q := .rfl

@[simp] theorem ordered_choice : Ordered rank brief locks (.choice p q) ↔
    Ordered rank brief locks p ∧ Ordered rank brief locks q := .rfl

@[simp] theorem ordered_choose {p : Nat → Code L} : Ordered rank brief locks (.choose p) ↔
    ∀ n, Ordered rank brief locks (p n) := .rfl

@[simp] theorem ordered_loop : Ordered rank brief locks (.loop p) ↔
    Ordered rank brief locks p := .rfl

@[simp] theorem ordered_tryExcept {clause : Clause} :
    Ordered rank brief locks (.tryExcept p clause q) ↔
      Ordered rank brief locks p ∧ Ordered rank brief locks q := .rfl

@[simp] theorem ordered_tryFinally : Ordered rank brief locks (.tryFinally p q) ↔
    Ordered rank brief locks p ∧ Ordered rank brief locks q := .rfl

@[simp] theorem ordered_call : Ordered rank brief locks (.call p) ↔
    Ordered rank brief locks p := .rfl

end Rules

@[simp] theorem Ordered.block {locks : List L} {ps : List (Code L)} :
    Ordered rank brief locks (Code.block ps) ↔ ∀ p ∈ ps, Ordered rank brief locks p := by
  induction ps with
  | nil => simp [Code.block]
  | cons p ps ih => simp [Code.block, ih]

namespace Invariant

variable {s s' : State L} {x : Nat}

theorem update (h : Invariant rank brief s) {after : Option (Coroutine L)}
    (htasks : s'.tasks = Function.update s.tasks x after)
    (hordered : ∀ task ∈ after, TaskOrdered rank brief task)
    (howned : ∀ l, (s'.locks l).owner = some x ↔ ∃ task ∈ after, l ∈ held task.stack)
    (hothers : ∀ y, y ≠ x → ∀ l, (s'.locks l).owner = some y ↔ (s.locks l).owner = some y)
    (hwellFormed : ∀ l, (s'.locks l).WellFormed)
    (hcurrent : ∀ y, y ≠ x → s.current ≠ some y ∨ s'.current = some y)
    (hbrief : s'.current = some x ∨ ∀ task ∈ after, ∀ l ∈ held task.stack, ¬ brief l) :
    Invariant rank brief s' := by
  have hself : s'.tasks x = after := by rw [htasks, Function.update_self]
  have hother : ∀ y, y ≠ x → s'.tasks y = s.tasks y := by
    intro y hy
    rw [htasks, Function.update_of_ne hy]
  constructor
  · intro y task hy
    by_cases hyx : y = x
    · subst hyx
      exact hordered task (hself.symm.trans hy)
    · exact h.ordered y task ((hother y hyx).symm.trans hy)
  · intro y l
    by_cases hyx : y = x
    · subst hyx
      rw [howned, hself]
      rfl
    · rw [hothers y hyx, h.owned, hother y hyx]
  · intro y task hy hnot
    by_cases hyx : y = x
    · subst hyx
      exact (hbrief.resolve_left hnot) task (hself.symm.trans hy)
    · exact h.brief_current y task ((hother y hyx).symm.trans hy)
        ((hcurrent y hyx).resolve_right hnot)
  · exact hwellFormed

variable {before after : Coroutine L}

theorem keep (h : Invariant rank brief s) (hbefore : s.tasks x = some before)
    (htasks : s'.tasks = Function.update s.tasks x (some after)) (hlocks : s'.locks = s.locks)
    (hheld : held after.stack = held before.stack) (hordered : TaskOrdered rank brief after)
    (hcurrent : ∀ y, y ≠ x → s.current ≠ some y ∨ s'.current = some y)
    (hbrief : s'.current = some x ∨ ∀ l ∈ held after.stack, ¬ brief l) :
    Invariant rank brief s' := by
  refine h.update htasks ?_ ?_ ?_ ?_ hcurrent ?_
  · rintro task ⟨⟩
    exact hordered
  · intro l
    rw [hlocks, h.owned, hbefore]
    simp [hheld]
  · intro y _ l
    rw [hlocks]
  · rw [hlocks]
    exact h.wellFormed
  · refine hbrief.imp_right ?_
    rintro hbrief task ⟨⟩
    exact hbrief

theorem relock [DecidableEq L] (h : Invariant rank brief s) (hbefore : s.tasks x = some before)
    (htasks : s'.tasks = Function.update s.tasks x (some after)) {l : L} {lock : Lock Nat}
    (hlocks : s'.locks = Function.update s.locks l lock) (hlock : lock.WellFormed)
    (hordered : TaskOrdered rank brief after)
    (hmine : lock.owner = some x ↔ l ∈ held after.stack)
    (hothers : ∀ y, y ≠ x → (lock.owner = some y ↔ (s.locks l).owner = some y))
    (hheld : ∀ l', l' ≠ l → (l' ∈ held after.stack ↔ l' ∈ held before.stack))
    (hcurrent : ∀ y, y ≠ x → s.current ≠ some y ∨ s'.current = some y)
    (hbrief : s'.current = some x ∨ ∀ l ∈ held after.stack, ¬ brief l) :
    Invariant rank brief s' := by
  have hself : s'.locks l = lock := by rw [hlocks, Function.update_self]
  have hother : ∀ l', l' ≠ l → s'.locks l' = s.locks l' := by
    intro l' hl'
    rw [hlocks, Function.update_of_ne hl']
  refine h.update htasks ?_ ?_ ?_ ?_ hcurrent ?_
  · rintro task ⟨⟩
    exact hordered
  · intro l'
    by_cases hl' : l' = l
    · subst hl'
      simp [hself, hmine]
    · rw [hother l' hl', h.owned, hbefore]
      simp [hheld l' hl']
  · intro y hy l'
    by_cases hl' : l' = l
    · subst hl'
      rw [hself]
      exact hothers y hy
    · rw [hother l' hl']
  · intro l'
    by_cases hl' : l' = l
    · subst hl'
      rw [hself]
      exact hlock
    · rw [hother l' hl']
      exact h.wellFormed l'
  · refine hbrief.imp_right ?_
    rintro hbrief task ⟨⟩
    exact hbrief

section Current

variable (h : Invariant rank brief s) (hcurrent : s.current = some x)

include hcurrent in
theorem others_not_current {s' : State L} :
    ∀ y, y ≠ x → s.current ≠ some y ∨ s'.current = some y := by
  intro y hy
  left
  rw [hcurrent]
  exact fun heq => hy (Option.some.inj heq).symm

include h hcurrent

theorem put (hbefore : s.tasks x = some before) (hheld : held after.stack = held before.stack)
    (hordered : TaskOrdered rank brief after) : Invariant rank brief (s.put x after) :=
  h.keep hbefore rfl rfl hheld hordered (others_not_current hcurrent) (.inl hcurrent)

theorem suspend (hbefore : s.tasks x = some before) (hheld : held after.stack = held before.stack)
    (hordered : TaskOrdered rank brief after) (hbrief : ∀ l ∈ held after.stack, ¬ brief l) :
    Invariant rank brief (s.suspend x after) :=
  h.keep hbefore rfl rfl hheld hordered (others_not_current hcurrent) (.inr hbrief)

theorem finish (hbefore : s.tasks x = some before) (hheld : held before.stack = []) :
    Invariant rank brief (s.finish x) := by
  refine h.update rfl (by simp) ?_ (fun _ _ _ => .rfl) h.wellFormed
    (others_not_current hcurrent) (.inr (by simp))
  intro l
  show (s.locks l).owner = some x ↔ _
  rw [h.owned, hbefore]
  simp [hheld]

variable [DecidableEq L] {l : L}

theorem release {mode mode' : Mode L} {k : List (Frame L)}
    (hbefore : s.tasks x = some ⟨mode, .release l :: k⟩)
    (hordered : ModeOrdered rank brief (held k) mode') :
    Invariant rank brief ((s.setLock l (s.locks l).release).put x ⟨mode', k⟩) := by
  have hstack := (h.ordered x _ hbefore).stack
  have hnot : l ∉ held k := fun hl => lt_irrefl _ (hstack.1 l hl)
  have howner : (s.locks l).owner = some x :=
    (h.owned x l).mpr ⟨_, hbefore, List.mem_cons_self⟩
  refine h.relock hbefore rfl rfl (h.wellFormed l).release ⟨hordered, hstack.2⟩ ?_ ?_ ?_
    (others_not_current hcurrent) (.inl hcurrent)
  · simp [hnot]
  · intro y hy
    simp [howner, Ne.symm hy]
  · intro l' hl'
    simp [held, hl']

theorem acquire {body : Code L} {mode : Mode L} {k : List (Frame L)}
    (hbefore : s.tasks x = some ⟨mode, k⟩)
    (hordered : Ordered rank brief (held k) (.withLock l body)) :
    Invariant rank brief (s.acquire x l body k) := by
  have hstack := (h.ordered x _ hbefore).stack
  have hnot : l ∉ held k := fun hl => lt_irrefl _ (hordered.1 l hl).1
  unfold State.acquire
  split
  · rename_i havailable
    have hfree := Lock.owner_of_available havailable
    refine h.relock hbefore rfl rfl ((h.wellFormed l).take havailable x)
      ⟨hordered.2, fun l' hl' => (hordered.1 l' hl').1, hstack⟩ ?_ ?_ ?_
      (others_not_current hcurrent) (.inl hcurrent)
    · simp [held]
    · intro y hy
      simp [hfree, Ne.symm hy]
    · intro l' hl'
      simp [held, hl']
  · refine h.relock hbefore rfl rfl ((h.wellFormed l).enqueue x) ⟨hordered, hstack⟩ ?_
      (fun _ _ => .rfl) (fun _ _ => .rfl) (others_not_current hcurrent)
      (.inr fun l' hl' => (hordered.1 l' hl').2)
    rw [Lock.owner_enqueue, h.owned, hbefore]
    simp

theorem proceed {mode : Mode L} {k : List (Frame L)} (hbefore : s.tasks x = some ⟨mode, k⟩) :
    Invariant rank brief (s.proceed x k) := by
  have hstack := (h.ordered x _ hbefore).stack
  cases k with
  | nil => exact h.finish hcurrent hbefore rfl
  | cons frame k =>
      obtain ⟨hframe, hrest⟩ := hstack
      cases frame with
      | rest p => exact h.put hcurrent hbefore rfl ⟨hframe, hrest⟩
      | loop body => exact h.put hcurrent hbefore rfl ⟨hframe, hframe, hrest⟩
      | release l => exact h.release hcurrent hbefore trivial
      | handler clause p => exact h.put hcurrent hbefore rfl ⟨trivial, hrest⟩
      | cleanup p => exact h.put hcurrent hbefore rfl ⟨hframe, hrest⟩
      | resume e => exact h.put hcurrent hbefore rfl ⟨trivial, hrest⟩
      | call => exact h.put hcurrent hbefore rfl ⟨trivial, hrest⟩

theorem unwind {mode : Mode L} {k : List (Frame L)} (pick : Nat) (e : Leaving)
    (hbefore : s.tasks x = some ⟨mode, k⟩) : Invariant rank brief (s.unwind x pick e k) := by
  have hstack := (h.ordered x _ hbefore).stack
  cases k with
  | nil => exact h.finish hcurrent hbefore rfl
  | cons frame k =>
      obtain ⟨hframe, hrest⟩ := hstack
      cases frame with
      | rest p => exact h.put hcurrent hbefore rfl ⟨trivial, hrest⟩
      | loop body => exact h.put hcurrent hbefore rfl ⟨trivial, hrest⟩
      | release l => exact h.release hcurrent hbefore trivial
      | handler clause p =>
          simp only [State.unwind]
          split
          · exact h.put hcurrent hbefore rfl ⟨hframe, hrest⟩
          · exact h.put hcurrent hbefore rfl ⟨trivial, hrest⟩
      | cleanup p => exact h.put hcurrent hbefore rfl ⟨hframe, trivial, hrest⟩
      | resume e' => exact h.put hcurrent hbefore rfl ⟨trivial, hrest⟩
      | call =>
          refine h.put hcurrent hbefore rfl ⟨?_, hrest⟩
          show ModeOrdered rank brief (held k) (if e = .returned then .running .skip else .leaving e)
          split <;> trivial

/-- One statement: one case for each constructor of the code. -/
theorem execute {p : Code L} {k : List (Frame L)} (pick : Nat)
    (hbefore : s.tasks x = some ⟨.running p, k⟩) :
    Invariant rank brief (s.execute x pick k p) := by
  obtain ⟨hmode, hstack⟩ := h.ordered x _ hbefore
  cases p with
  | skip => exact h.proceed hcurrent hbefore
  | await => exact h.suspend hcurrent hbefore rfl ⟨hmode, hstack⟩ hmode
  | leave e => exact h.put hcurrent hbefore rfl ⟨trivial, hstack⟩
  | seq first rest => exact h.put hcurrent hbefore rfl ⟨hmode.1, hmode.2, hstack⟩
  | choice left right =>
      refine h.put hcurrent hbefore rfl ⟨?_, hstack⟩
      show Ordered rank brief (held k) (if pick = 0 then left else right)
      split
      · exact hmode.1
      · exact hmode.2
  | choose rest => exact h.put hcurrent hbefore rfl ⟨hmode pick, hstack⟩
  | loop body => exact h.put hcurrent hbefore rfl ⟨hmode, hmode, hstack⟩
  | withLock l body => exact h.acquire hcurrent hbefore hmode
  | tryExcept body clause handler => exact h.put hcurrent hbefore rfl ⟨hmode.1, hmode.2, hstack⟩
  | tryFinally body cleanup => exact h.put hcurrent hbefore rfl ⟨hmode.1, hmode.2, hstack⟩
  | call body => exact h.put hcurrent hbefore rfl ⟨hmode, trivial, hstack⟩

end Current

/-- A suspended task runs again: at its await, or with the lock that it was waiting for. -/
theorem resume [DecidableEq L] (h : Invariant rank brief s) (hidle : s.current = none)
    {task : Coroutine L} (hbefore : s.tasks x = some task) {outcome : Outcome}
    (hresume : s.resume x outcome task = some s') : Invariant rank brief s' := by
  obtain ⟨hmode, hstack⟩ := h.ordered x _ hbefore
  have hothers : ∀ s'' : State L, ∀ y, y ≠ x → s.current ≠ some y ∨ s''.current = some y := by
    intro s'' y _
    left
    rw [hidle]
    simp
  obtain ⟨mode, k⟩ := task
  cases mode with
  | running p => cases hresume
  | leaving e => cases hresume
  | awaiting =>
      have hwake : ∀ mode, ModeOrdered rank brief (held k) mode →
          Invariant rank brief (s.wake x ⟨mode, k⟩) := fun mode hordered =>
        h.keep hbefore rfl rfl rfl ⟨hordered, hstack⟩ (hothers _) (.inl rfl)
      cases outcome <;> cases hresume <;> exact hwake _ trivial
  | waiting l body cancelRequested =>
      have habandon : Invariant rank brief
          ((s.setLock l ((s.locks l).abandon x)).wake x ⟨.leaving .cancelled, k⟩) := by
        refine h.relock hbefore rfl rfl ((h.wellFormed l).abandon x) ⟨trivial, hstack⟩ ?_ ?_
          (fun _ _ => .rfl) (hothers _) (.inl rfl)
        · rw [Lock.owner_abandon, h.owned, hbefore]
          simp
        · intro y _
          rw [Lock.owner_abandon]
      simp only [State.resume] at hresume
      split at hresume
      · rename_i hwoken
        cases hresume
        have hfree := (h.wellFormed l).owner_of_woken hwoken
        refine h.relock hbefore rfl rfl ((h.wellFormed l).grant hwoken)
          ⟨hmode.2, fun l' hl' => (hmode.1 l' hl').1, hstack⟩ ?_ ?_ ?_ (hothers _)
          (.inl rfl)
        · simp [held]
        · intro y hy
          simp [hfree, Ne.symm hy]
        · intro l' hl'
          simp [held, hl']
      all_goals cases hresume
      all_goals exact habandon

theorem startTask (h : Invariant rank brief s) {p : Code L} (hp : Ordered rank brief [] p)
    (hnone : s.tasks x = none) :
    Invariant rank brief (s.put x ⟨.awaiting, [.rest p]⟩) := by
  have hordered : TaskOrdered rank brief ⟨.awaiting, [.rest p]⟩ := by
    refine ⟨?_, hp, trivial⟩
    intro l hl
    cases hl
  refine h.update rfl ?_ ?_ (fun _ _ _ => .rfl) h.wellFormed ?_ (.inr ?_)
  · rintro task ⟨⟩
    exact hordered
  · intro l
    show (s.locks l).owner = some x ↔ _
    rw [h.owned, hnone]
    simp [held]
  · intro y _
    exact (em (s.current = some y)).symm
  · rintro task ⟨⟩ l hl
    cases hl

theorem cancelWaiter [DecidableEq L] (h : Invariant rank brief s) {l : L} {body : Code L}
    {k : List (Frame L)} (hbefore : s.tasks x = some ⟨.waiting l body false, k⟩) :
    Invariant rank brief
      ((s.setLock l ((s.locks l).cancelWaiter x)).put x ⟨.waiting l body true, k⟩) := by
  obtain ⟨hmode, hstack⟩ := h.ordered x _ hbefore
  refine h.relock hbefore rfl rfl ((h.wellFormed l).cancelWaiter x) ⟨hmode, hstack⟩ ?_
    (fun _ _ => .rfl) (fun _ _ => .rfl) ?_ (.inr fun l' hl' => (hmode.1 l' hl').2)
  · rw [Lock.owner_cancelWaiter, h.owned, hbefore]
    simp
  · intro y _
    exact (em (s.current = some y)).symm

theorem step [DecidableEq L] {Request : Type} {program : Request → Code L}
    (hprogram : ∀ request, Ordered rank brief [] (program request)) (h : Invariant rank brief s)
    {action : Action Request} (hstep : step program s action = some s') :
    Invariant rank brief s' := by
  cases action with
  | start x request =>
      simp only [Coroutines.step] at hstep
      split at hstep
      · cases hstep
      · rename_i hnone
        cases hstep
        exact h.startTask (hprogram request) hnone
  | go pick =>
      simp only [Coroutines.step] at hstep
      split at hstep
      · cases hstep
      rename_i x hcurrent
      split at hstep
      · rename_i p k hbefore
        cases hstep
        exact h.execute hcurrent pick hbefore
      · rename_i e k hbefore
        cases hstep
        exact h.unwind hcurrent pick e hbefore
      · cases hstep
  | fail =>
      simp only [Coroutines.step] at hstep
      split at hstep
      · cases hstep
      rename_i x hcurrent
      split at hstep
      · rename_i p k hbefore
        cases hstep
        exact h.put hcurrent hbefore rfl ⟨trivial, (h.ordered x _ hbefore).stack⟩
      · cases hstep
  | resume x outcome =>
      simp only [Coroutines.step] at hstep
      split at hstep
      · rename_i task hidle hbefore
        exact h.resume hidle hbefore hstep
      · cases hstep
  | cancel x =>
      simp only [Coroutines.step] at hstep
      split at hstep
      · rename_i l body k hbefore
        cases hstep
        exact h.cancelWaiter hbefore
      · cases hstep

theorem start : Invariant rank brief (⟨fun _ => none, fun _ => .free, none⟩ : State L) where
  ordered x task h := by cases h
  owned x l := by simp [Lock.free]
  brief_current x task h := by cases h
  wellFormed l := Lock.WellFormed.free

/-- A waiting task holds only locks of lower rank than the one it waits for. -/
theorem rank_lt_of_waits (h : Invariant rank brief s) {l l' : L} (hwaits : Waits s x l)
    (howner : (s.locks l').owner = some x) : rank l' < rank l := by
  obtain ⟨body, cancelRequested, k, hx⟩ := hwaits
  obtain ⟨task, htask, hl'⟩ := (h.owned x l').mp howner
  obtain rfl : _ = task := Option.some.inj (hx.symm.trans htask)
  exact ((h.ordered x _ hx).mode.1 l' hl').1

/-- Of the tasks of a deadlock, one would wait for a lock of the highest rank; but the
holder of that lock waits for a lock of a rank that is higher still. -/
theorem not_deadlocked [WellFoundedGT R] (h : Invariant rank brief s) {tasks : Set Nat}
    (hnonempty : tasks.Nonempty) : ¬ Deadlocked s tasks := by
  intro hdeadlocked
  let ranks : Set R := {r | ∃ x ∈ tasks, ∃ l, Waits s x l ∧ rank l = r}
  have hranks : ranks.Nonempty := by
    obtain ⟨x, hx⟩ := hnonempty
    obtain ⟨l, y, hwaits, -, -⟩ := hdeadlocked x hx
    exact ⟨rank l, x, hx, l, hwaits, rfl⟩
  obtain ⟨top, htop, hmaximal⟩ := wellFounded_gt.has_min ranks hranks
  obtain ⟨x, hx, l, hwaits, rfl⟩ := htop
  obtain ⟨l₁, y, hwaits₁, howner, hy⟩ := hdeadlocked x hx
  obtain ⟨l₂, z, hwaits₂, -, -⟩ := hdeadlocked y hy
  have hsame : l₁ = l := by
    obtain ⟨body, cancelRequested, k, hmode⟩ := hwaits
    obtain ⟨body₁, cancelRequested₁, k₁, hmode₁⟩ := hwaits₁
    rw [hmode] at hmode₁
    cases hmode₁
    rfl
  rw [hsame] at howner
  exact hmaximal (rank l₂) ⟨y, hy, l₂, hwaits₂, rfl⟩ (h.rank_lt_of_waits hwaits₂ howner)

theorem current_of_brief (h : Invariant rank brief s) {l : L} (hbrief : brief l)
    (howner : (s.locks l).owner = some x) : s.current = some x := by
  obtain ⟨task, htask, hl⟩ := (h.owned x l).mp howner
  by_contra hnot
  exact h.brief_current x task htask hnot l hl hbrief

end Invariant

variable [DecidableEq L] {Request : Type} {program : Request → Code L}

theorem invariant_of_reachable
    (hprogram : ∀ request, Ordered rank brief [] (program request)) {s : State L}
    (h : Reachable (eventLoop program) s) : Invariant rank brief s := by
  refine h.invariant (Invariant rank brief) .start ?_
  intro s action t events hinv hfire
  obtain ⟨t', hstep, heq⟩ := Option.map_eq_some_iff.mp hfire
  cases heq
  exact hinv.step hprogram hstep

end JarvisCore.Foundation.LockOrder
