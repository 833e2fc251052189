import JarvisCore.Gateway.Frames
import JarvisCore.Gateway.WireSteps

namespace JarvisCore.Gateway.Outputs

open JarvisCore.Domain.Values
open JarvisCore.Domain.Errors
open JarvisCore.Domain.Models
open JarvisCore.Gateway.Transports
open JarvisCore.Gateway.Transports.Transport (Evolves request_evolves)
open JarvisCore.Gateway.Frames
open JarvisCore.Gateway.Wire
open JarvisCore.Gateway.WireSteps

/-- The messages that a handler sends itself. -/
def Own : ServerPayload → Bool
  | .heartbeatPing _ | .commandExecute _ => false
  | _ => true

/-- The messages on the socket, but for pings and commands. -/
def written (t : Transport) : List ServerPayload :=
  (t.frames.map ServerMessage.payload).filter Own

def framesOf : Option Job → List ServerPayload
  | some (.send message) => [message.payload]
  | _ => []

def codesOf : Option Job → List Nat
  | some (.close code _) => [code]
  | _ => []

/-- The handler has asked for these messages and these closes, in this order. The last of
them may have to wait for the lock. -/
inductive Asked (t : Transport) : List ServerPayload → List Nat → Prop
  | idle : Free t → Asked t (written t) t.closes
  | waits (j : Nat) (job : Job) (progress : Progress) :
      t.tasks j = some ⟨.handler, job, progress⟩ → progress.Waits → t.closed = false →
      Asked t (written t ++ framesOf (some job)) (t.closes ++ codesOf (some job))
  | works (j : Nat) (job : Job) (progress : Progress) :
      t.tasks j = some ⟨.handler, job, progress⟩ → ¬ progress.Waits →
      Asked t (written t) t.closes
  | fails (j : Nat) (job : Job) (error : Raised) (frames : List ServerPayload) (closes : List Nat) :
      t.tasks j = some ⟨.handler, job, .done (some error)⟩ → written t <+: frames →
      t.closes <+: closes → Asked t frames closes

/-- A task that is not the handler's sends a ping or a command, and the handler sends
neither. -/
def Fair (task : Task) : Prop :=
  match task.writer, task.job with
  | .handler, .send message => Own message.payload = true
  | .handler, .close _ _ => True
  | _, .send message => Own message.payload = false
  | _, .close _ _ => False

def Shared (t : Transport) : Prop := ∀ j task, t.tasks j = some task → Fair task

section Steps

variable {encodes : DeviceCommand → Bool} {t t' : Transport} {j : Nat} {task : Task}
  {frames : List ServerPayload} {closes : List Nat} {allowed : Job → Prop} {message : ServerMessage}

theorem written_own (hframes : t'.frames = t.frames ++ [message])
    (hown : Own message.payload = true) : written t' = written t ++ [message.payload] := by
  simp [written, hframes, hown]

theorem written_other (hframes : t'.frames = t.frames ++ [message])
    (hother : Own message.payload = false) : written t' = written t := by
  simp [written, hframes, hother]

theorem written_same (hframes : t'.frames = t.frames) : written t' = written t := by
  rw [written, hframes, written]

theorem fair_other {writer : Writer} {job : Job} {progress : Progress}
    (hfair : Fair ⟨writer, job, progress⟩) (hwriter : writer ≠ .handler) :
    ∃ message, job = .send message ∧ Own message.payload = false := by
  cases writer with
  | handler => exact absurd rfl hwriter
  | heartbeat | command | closing | shutdown =>
      cases job with
      | send message => exact ⟨message, rfl, hfair⟩
      | close => exact hfair.elim

theorem Shared.evolves (h : Shared t) (hfair : Fair task) (hevolves : Evolves t j task t') :
    Shared t' := by
  obtain ⟨progress, htasks⟩ := evolves_tasks hevolves
  intro i task' hi
  rcases tasks_of_update htasks hi with ⟨-, rfl⟩ | ⟨-, hold⟩
  · exact hfair
  · exact h i task' hold

theorem Shared.clear (h : Shared t) (j : Nat) : Shared (t.clear j) :=
  fun i task hi => h i task (clear_tasks hi).2

theorem Asked.others (h : Asked t frames closes) {writer : Writer} {progress : Progress}
    (hwriter : writer ≠ .handler) (hother : Own message.payload = false)
    (hold : ∀ job progress, t.tasks j ≠ some ⟨.handler, job, progress⟩)
    (hevolves : Evolves t j ⟨writer, .send message, progress⟩ t') : Asked t' frames closes := by
  have hsame : written t' = written t ∧ t'.closes = t.closes ∧ t'.closed = t.closed := by
    cases hevolves with
    | settles _ _ _ hframes hcloses hclosed => exact ⟨written_same hframes, hcloses, hclosed⟩
    | sends message' hjob _ _ hframes hcloses hclosed =>
        cases hjob
        exact ⟨written_other hframes hother, hcloses, hclosed⟩
    | closes _ _ hjob => cases hjob
  obtain ⟨hwritten, hcloses, hclosed⟩ := hsame
  obtain ⟨progress', htasks⟩ := evolves_tasks hevolves
  have kept {i : Nat} {job : Job} {progress : Progress}
      (hi : t.tasks i = some ⟨.handler, job, progress⟩) :
      t'.tasks i = some ⟨.handler, job, progress⟩ := by
    have hne : i ≠ j := by
      rintro rfl
      exact hold job progress hi
    rw [htasks, Function.update_of_ne hne]
    exact hi
  cases h with
  | idle hfree =>
      rw [← hwritten, ← hcloses]
      refine .idle fun i task hi => ?_
      rcases tasks_of_update htasks hi with ⟨-, rfl⟩ | ⟨-, hi⟩
      · exact hwriter
      · exact hfree i task hi
  | waits i job progress hi hwaits hopen =>
      rw [← hwritten, ← hcloses]
      exact .waits i job progress (kept hi) hwaits (hclosed.trans hopen)
  | works i job progress hi hworks =>
      rw [← hwritten, ← hcloses]
      exact .works i job progress (kept hi) hworks
  | fails i job error _ _ hi hframes hcodes =>
      exact .fails i job error _ _ (kept hi) (hwritten ▸ hframes) (hcloses ▸ hcodes)

/-- A job of the handler that waits for the lock on an open transport keeps its promise. -/
theorem asked_of_waiting {job : Job} {progress : Progress} (hopen : t.closed = false)
    (hwaits : progress.Waits) (hfair : Fair ⟨.handler, job, progress⟩)
    (hevolves : Evolves t j ⟨.handler, job, progress⟩ t') :
    Asked t' (written t ++ framesOf (some job)) (t.closes ++ codesOf (some job)) := by
  have now {task : Task} (htasks : t'.tasks = Function.update t.tasks j (some task)) :
      t'.tasks j = some task := by
    rw [htasks]
    exact Function.update_self _ _ _
  cases hevolves with
  | settles progress' hsettles htasks hframes hcloses hclosed =>
      have hwritten := written_same hframes
      have failed {error : Raised} (heq : progress' = .done (some error)) :
          Asked t' (written t ++ framesOf (some job)) (t.closes ++ codesOf (some job)) := by
        subst heq
        exact .fails j job error _ _ (now htasks) (hwritten ▸ List.prefix_append _ _)
          (hcloses ▸ List.prefix_append _ _)
      cases hsettles with
      | queued cancelRequested =>
          rw [← hwritten, ← hcloses]
          exact .waits j job _ (now htasks) trivial (hclosed.trans hopen)
      | cancelled => exact failed rfl
      | ended _ hactive =>
          obtain rfl : progress = _ := hactive
          exact hwaits.elim
      | refused => exact failed rfl
      | invalid => exact failed rfl
      | closedBefore _ _ _ hclosedBefore => simp [hopen] at hclosedBefore
  | sends message hjob _ htasks hframes hcloses =>
      obtain rfl : job = _ := hjob
      have hwritten := written_own hframes hfair
      have hcodes : t'.closes = t.closes ++ codesOf (some (.send message)) :=
        hcloses.trans (List.append_nil t.closes).symm
      rw [show written t ++ framesOf (some (.send message)) = written t' from hwritten.symm, ← hcodes]
      exact .works j _ _ (now htasks) id
  | closes code reason hjob _ htasks hframes hcloses =>
      obtain rfl : job = _ := hjob
      have hwritten : written t' = written t ++ framesOf (some (.close code reason)) :=
        (written_same hframes).trans (List.append_nil (written t)).symm
      rw [← hwritten, show t.closes ++ codesOf (some (.close code reason)) = t'.closes from
        hcloses.symm]
      exact .works j _ _ (now htasks) id

theorem Asked.proceeds (h : Asked t frames closes) (hown : OwnTasks allowed t) {job : Job}
    {progress : Progress} (htask : t.tasks j = some ⟨.handler, job, progress⟩)
    (hfair : Fair ⟨.handler, job, progress⟩)
    (hevolves : Evolves t j ⟨.handler, job, progress⟩ t') : Asked t' frames closes := by
  have same {i : Nat} {job' : Job} {progress' : Progress}
      (hi : t.tasks i = some ⟨.handler, job', progress'⟩) : job' = job ∧ progress' = progress := by
    obtain rfl : i = j := (hown j _ htask rfl).2 i _ hi rfl
    rw [htask] at hi
    cases hi
    exact ⟨rfl, rfl⟩
  cases h with
  | idle hfree => exact absurd rfl (hfree j _ htask)
  | waits i job' progress' hi hwaits hopen =>
      obtain ⟨rfl, rfl⟩ := same hi
      exact asked_of_waiting hopen hwaits hfair hevolves
  | works i job' progress' hi hworks =>
      obtain ⟨rfl, rfl⟩ := same hi
      cases hevolves with
      | settles progress'' hsettles htasks hframes hcloses =>
          have hwritten := written_same hframes
          have hnow : t'.tasks j = some ⟨.handler, job', progress''⟩ := by
            rw [htasks]
            exact Function.update_self _ _ _
          cases hsettles with
          | queued _ hwaits => exact absurd hwaits hworks
          | cancelled hwaits => exact absurd hwaits hworks
          | refused _ _ _ _ hwaits => exact absurd hwaits hworks
          | invalid _ _ _ _ _ hwaits => exact absurd hwaits hworks
          | closedBefore _ _ _ _ hwaits => exact absurd hwaits hworks
          | ended failure =>
              rw [← hwritten, ← hcloses]
              exact .works j job' _ hnow id
      | sends _ _ _ _ _ _ _ hwaits => exact absurd hwaits hworks
      | closes _ _ _ _ _ _ _ _ hwaits => exact absurd hwaits hworks
  | fails i job' error _ _ hi =>
      obtain ⟨rfl, rfl⟩ := same hi
      cases hevolves with
      | settles _ hsettles =>
          cases hsettles with
          | queued _ hwaits => exact hwaits.elim
          | cancelled hwaits => exact hwaits.elim
          | refused _ _ _ _ hwaits => exact hwaits.elim
          | invalid _ _ _ _ _ hwaits => exact hwaits.elim
          | closedBefore _ _ _ _ hwaits => exact hwaits.elim
          | ended _ hactive => cases hactive
      | sends _ _ _ _ _ _ _ hwaits => exact hwaits.elim
      | closes _ _ _ _ _ _ _ _ hwaits => exact hwaits.elim

theorem Asked.eq_of_free (h : Asked t frames closes) (hfree : Free t) :
    frames = written t ∧ closes = t.closes := by
  cases h with
  | idle => exact ⟨rfl, rfl⟩
  | waits j _ _ htask | works j _ _ htask | fails j _ _ _ _ htask =>
      exact absurd rfl (hfree j _ htask)

theorem Asked.within (h : Asked t frames closes) : written t <+: frames ∧ t.closes <+: closes := by
  cases h with
  | idle => exact ⟨List.prefix_rfl, List.prefix_rfl⟩
  | waits => exact ⟨List.prefix_append _ _, List.prefix_append _ _⟩
  | works => exact ⟨List.prefix_rfl, List.prefix_rfl⟩
  | fails _ _ _ _ _ _ hframes hcodes => exact ⟨hframes, hcodes⟩

theorem Asked.request (h : Asked t frames closes) (hfree : Free t) (hopen : t.closed = false)
    {job : Job} (hfair : Fair ⟨.handler, job, .queued false⟩) :
    Asked (t.request encodes .handler job) (frames ++ framesOf (some job))
      (closes ++ codesOf (some job)) := by
  obtain ⟨rfl, rfl⟩ := h.eq_of_free hfree
  have hevolves : Evolves t t.nextTask ⟨.handler, job, .queued false⟩
      (t.request encodes .handler job) := request_evolves .handler job
  have hwaits : (Progress.queued false).Waits := trivial
  exact asked_of_waiting hopen hwaits hfair hevolves

theorem Asked.refuses (h : Asked t frames closes) (hfree : Free t) (codes : List Nat) :
    Asked { t with closes := t.closes ++ codes } frames (closes ++ codes) := by
  obtain ⟨rfl, rfl⟩ := h.eq_of_free hfree
  exact .idle hfree

theorem Asked.returns (h : Asked t frames closes) (hown : OwnTasks allowed t) {job : Job}
    (htask : t.tasks j = some ⟨.handler, job, .done none⟩) : Asked (t.clear j) frames closes := by
  have hfree : Free (t.clear j) := hown.clear_own htask rfl
  have same {i : Nat} {job' : Job} {progress' : Progress}
      (hi : t.tasks i = some ⟨.handler, job', progress'⟩) : progress' = .done none := by
    obtain rfl : i = j := (hown j _ htask rfl).2 i _ hi rfl
    rw [htask] at hi
    cases hi
    rfl
  cases h with
  | idle => exact .idle hfree
  | waits i job' progress hi hwaits =>
      obtain rfl := same hi
      exact hwaits.elim
  | works => exact .idle hfree
  | fails i job' error _ _ hi => cases same hi

theorem Asked.clear (h : Asked t frames closes) {writer : Writer} {job : Job} {progress : Progress}
    (htask : t.tasks j = some ⟨writer, job, progress⟩) (hwriter : writer ≠ .handler) :
    Asked (t.clear j) frames closes := by
  have kept {i : Nat} {job' : Job} {progress' : Progress}
      (hi : t.tasks i = some ⟨.handler, job', progress'⟩) :
      (t.clear j).tasks i = some ⟨.handler, job', progress'⟩ := by
    have hne : i ≠ j := by
      rintro rfl
      rw [htask] at hi
      cases hi
      exact hwriter rfl
    exact (Function.update_of_ne hne _ _).trans hi
  cases h with
  | idle hfree => exact .idle fun i task hi => hfree i task (clear_tasks hi).2
  | waits i job' progress' hi hwaits hopen => exact .waits i job' progress' (kept hi) hwaits hopen
  | works i job' progress' hi hworks => exact .works i job' progress' (kept hi) hworks
  | fails i job' error _ _ hi hframes hcodes =>
      exact .fails i job' error _ _ (kept hi) hframes hcodes

end Steps

end JarvisCore.Gateway.Outputs
