import JarvisCore.Gateway.FrameOrder

namespace JarvisCore.Gateway.ZombieSessions

open JarvisCore.Domain.Values
open JarvisCore.Domain.Errors
open JarvisCore.Domain.Models
open JarvisCore.Foundation.TransitionSystem
open JarvisCore.Manager.Connections (FailsSend disconnect_lookup failsSend_drops)
open JarvisCore.Manager.Operations (LiveConnection disconnect)
open JarvisCore.Service.CallSteps
open JarvisCore.Service.Invariant (transportCalls)
open JarvisCore.Service.Operations (Config Event)
open JarvisCore.Gateway.Cleanup (Finished)
open JarvisCore.Gateway.Effects
open JarvisCore.Gateway.FrameOrder
open JarvisCore.Gateway.Frames (clear_tasks evolves_tasks)
open JarvisCore.Gateway.Handlers
open JarvisCore.Gateway.Invariant (same_session)
open JarvisCore.Gateway.Operations (serve)
open JarvisCore.Gateway.Sessions
open JarvisCore.Gateway.Transports
open JarvisCore.Gateway.Transports.Transport (Evolves Settles request_evolves)
open JarvisCore.Gateway.Turns
open JarvisCore.Gateway.Wire
open JarvisCore.Gateway.WireSteps

variable {Digest : Type} {config : Config Digest}

def SocketClosed (s : State config) (h : Nat) : Prop := (s.transports h).closes ≠ []

/-- A call of `transport.close` that has not been forgotten yet. -/
def CloseAt (s : State config) (h : Nat) : Prop :=
  (∃ j writer code reason progress,
    (s.transports h).tasks j = some ⟨writer, .close code reason, progress⟩) ∨
  ∃ code reason, (h, .close code reason) ∈ s.gathered

/-- Job `j` is a call of `transport.close` that waits for the lock. -/
def QueuedClose (t : Transport) (j : Nat) : Prop :=
  ∃ writer code reason cancelRequested,
    t.tasks j = some ⟨writer, .close code reason, .queued cancelRequested⟩

/-- A call of `transport.close` waits for the lock, or its task has yet to begin. -/
def CloseWaits (s : State config) (h : Nat) : Prop :=
  (∃ j, QueuedClose (s.transports h) j) ∨ ∃ code reason, (h, .close code reason) ∈ s.gathered

/-- The handler is out of its loops. -/
def Away (s : State config) (h : Nat) : Prop :=
  ∃ handler, s.gateway.handlers h = some handler ∧ Leaving handler.stage

def CloseCalled (history : List (Step config)) (h : Nat) : Prop :=
  ∃ u ∈ history, CloseAt u.target h

/-- The socket comes to an end. `close` has been called on the transport, or the handler has
finished; and the call has reached the socket or still waits to, or the handler is away. -/
structure Ending (history : List (Step config)) (s : State config) (h : Nat) : Prop where
  called : CloseCalled history h ∨ Finished s.gateway h
  effective : SocketClosed s h ∨ CloseWaits s h ∨ Away s h

/-- Every session that `connect` has made is the current one of its device, or its socket comes
to an end. -/
def NoZombies (history : List (Step config)) (s : State config) : Prop :=
  ∀ x d h sessionId, HasSession s.gateway.service x d h sessionId →
    Current s.gateway.service d h sessionId ∨ Ending history s h

/-- No `execute` is under way, no operation of the manager waits for a close, and `close_all`
has begun all its tasks. -/
structure Idle (s : State config) : Prop where
  calls : ∀ x call, s.gateway.service.manager.calls x = some (.admitted call) →
    ∃ outcome, call.stage = .finished outcome
  requests : ∀ x request value,
    s.gateway.service.calls x ≠ some ⟨request, .awaitingClose value⟩
  gathered : s.gathered = []

/-- `send_command` raises an `Exception` for a command to the current session of a device, whose
socket does not come to an end otherwise. -/
def Abandons (older : List (Step config)) (u : Step config) : Prop :=
  ∃ i j now x job error y d k, u.action = .returned i j now ∧
    (u.source.transports i).tasks j = some ⟨.command x, job, .done (some error)⟩ ∧
    HasSession u.source.gateway.service y d k.transport k.sessionId ∧
    u.source.gateway.service.manager.connections.lookup d = some k ∧
    FailsSend u.source.gateway.service.manager d k (.completeSend x (some error) now) ∧
    ¬ Ending older u.source k.transport

/-- The only call of `transport.close` that waits is cancelled, before it has the lock or before
its task begins. -/
inductive Withdrawn (s : State config) (h : Nat) : Action config → Prop
  | queued (j : Nat) (writer : Writer) (code : Nat) (reason : String) :
      (s.transports h).tasks j = some ⟨writer, .close code reason, .queued true⟩ →
      (∀ i, i ≠ j → ¬ QueuedClose (s.transports h) i) →
      (∀ code reason, (h, .close code reason) ∉ s.gathered) → Withdrawn s h (.resume h j)
  | gathered (code : Nat) (reason : String) (gathered : List (Nat × Job)) :
      s.gathered = (h, .close code reason) :: gathered →
      (∀ j, ¬ QueuedClose (s.transports h) j) →
      (∀ code reason, (h, .close code reason) ∉ gathered) → Withdrawn s h .cancelNext

/-- This happens to the open socket of a session that is not current, whose handler is in its
loops. -/
structure Withdraws (u : Step config) (x : Nat) (d : UUID) (h : Nat) (sessionId : UUID) :
    Prop where
  withdrawn : Withdrawn u.source h u.action
  session : HasSession u.source.gateway.service x d h sessionId
  dropped : ¬ Current u.source.gateway.service d h sessionId
  isOpen : ¬ SocketClosed u.source h
  stays : ¬ Away u.source h

def MakesZombie (older : List (Step config)) (u : Step config) : Prop :=
  Abandons older u ∨ ∃ x d h sessionId, Withdraws u x d h sessionId

section Sessions

variable [DecidableEq Digest] {s s₁ t : Operations.State config}
  {action : Operations.Action config} {events : List (Event Digest)} {x : Nat} {d : UUID} {h : Nat}
  {sessionId : UUID}

/-- The service has the transport closed, without the handler's doing. -/
def ServesClose (s : Operations.State config) (action : Operations.Action config) (h : Nat) :
    Prop :=
  ∃ inner s₁ served code reason, action = .service inner ∧ serve s inner = some (s₁, served) ∧
    .close h code reason ∈ transportCalls served

def FailsOn (s : Operations.State config) (action : Operations.Action config) (d : UUID) (h : Nat)
    (sessionId : UUID) : Prop :=
  ∃ k managerAction, s.service.manager.connections.lookup d = some k ∧ k.transport = h ∧
    k.sessionId = sessionId ∧ action = .service (.connections managerAction) ∧
    FailsSend s.service.manager d k managerAction

theorem inner_session (hinv : Gateway.Invariant.Inv s) {inner : Service.Operations.Action config}
    {service : Service.Operations.State config}
    (hstep : Service.Operations.step s.service inner = some (service, events))
    (hsession : HasSession service x d h sessionId) :
    Current service d h sessionId ∨ HasSession s.service x d h sessionId ∧
      (Current s.service d h sessionId →
        (∃ code reason, .close h code reason ∈ transportCalls events) ∨
        ∃ k managerAction, s.service.manager.connections.lookup d = some k ∧ k.transport = h ∧
          k.sessionId = sessionId ∧ inner = .connections managerAction ∧
          (managerAction = .disconnect d sessionId ∨
            FailsSend s.service.manager d k managerAction)) := by
  obtain ⟨log, hservice⟩ := hinv.sessions.reached
  rcases step_session hservice hstep hsession with hold | ⟨inputs, rfl, hconnecting, rfl⟩
  · by_cases hkept : Current service d h sessionId
    · exact .inl hkept
    · refine .inr ⟨hold, ?_⟩
      rintro ⟨k, hk, rfl, rfl⟩
      rcases step_lost hservice hstep hk with
        ⟨k', hk', hsame⟩ | hclose | ⟨-, managerAction, haction, hdropped⟩
      · exact absurd ⟨k', hk', hsame.transport, hsame.sessionId⟩ hkept
      · exact .inl hclose
      · exact .inr ⟨k, managerAction, hk, rfl, rfl, haction, hdropped⟩
  · exact .inl (step_connects hstep hconnecting).1

theorem serves_session (hinv : Gateway.Invariant.Inv s) (hserves : Serves s action s₁ events)
    (hsession : HasSession s₁.service x d h sessionId) :
    Current s₁.service d h sessionId ∨ HasSession s.service x d h sessionId ∧
      (Current s.service d h sessionId →
        ServesClose s action h ∨ FailsOn s action d h sessionId) := by
  cases hserves with
  | idle =>
      by_cases hcurrent : Current s.service d h sessionId
      · exact .inl hcurrent
      · exact .inr ⟨hsession, fun h => absurd h hcurrent⟩
  | own inner service _ haction hpermitted hstep =>
      have hserve : serve s inner =
          some ({ s with service, issued := Operations.issuedBy inner ++ s.issued }, events) := by
        simp only [serve, if_pos hpermitted, hstep]
      refine (inner_session hinv hstep hsession).imp_right (And.imp_right fun hlost hcurrent => ?_)
      rcases hlost hcurrent with ⟨code, reason, hclose⟩ |
        ⟨k, managerAction, hk, htransport, hk', rfl, rfl | hfails⟩
      · exact .inl ⟨inner, _, events, code, reason, haction, hserve, hclose⟩
      · cases hpermitted
      · exact .inr ⟨k, managerAction, hk, htransport, hk', haction, hfails⟩
  | inner inner service owners _ hinner hstep =>
      refine (inner_session hinv hstep hsession).imp_right (And.imp_right fun hlost hcurrent => ?_)
      rcases hlost hcurrent with ⟨code, reason, hclose⟩ |
        ⟨k, managerAction, hk, htransport, hk', rfl, rfl | ⟨_, _, _, _, rfl, -⟩⟩
      · rcases action_of_close hstep hclose with ⟨y, inputs, rfl⟩ | rfl
        · exact hinner.elim
        · exact hinner.elim
      · exact hinner.elim
      · exact hinner.elim

theorem disconnectSession_session (hinv : Gateway.Invariant.Inv s) {handler : Handler}
    {i : Nat} (hhandler : s.handlers i = some handler)
    (hsession : HasSession s.service x d h sessionId) (hcurrent : Current s.service d h sessionId) :
    Current (Operations.disconnectSession s i handler).service d h sessionId ∨
      Finished (Operations.disconnectSession s i handler) h := by
  unfold Operations.disconnectSession
  dsimp only
  split
  · exact .inl hcurrent
  · rename_i sessionId' hsession'
    obtain ⟨k, hk, rfl, rfl⟩ := hcurrent
    rcases disconnect_lookup s.service.manager handler.deviceId sessionId' d with
      hsame | ⟨rfl, -, k', hk', rfl⟩
    · exact .inl ⟨k, hsame.trans hk, rfl, rfl⟩
    · obtain rfl := Option.some.inj (hk.symm.trans hk')
      obtain ⟨y, hy⟩ := hinv.known i handler k.sessionId hhandler hsession'
      obtain rfl := hinv.sessions.unique x y _ _ _ _ _ hsession (.inr hy)
      obtain ⟨-, rfl, -⟩ := same_session hsession (.inr hy)
      exact .inr ⟨_, Operations.State.setHandler_self _ _ _, rfl⟩

theorem finallyClause_session (hinv : Gateway.Invariant.Inv s) {handler : Handler}
    {i : Nat} (hhandler : s.handlers i = some handler)
    (hsession : HasSession s.service x d h sessionId) (hcurrent : Current s.service d h sessionId) :
    Current (Operations.finallyClause s i handler).service d h sessionId ∨
      Finished (Operations.finallyClause s i handler) h := by
  unfold Operations.finallyClause Operations.joinHeartbeat
  split
  · exact disconnectSession_session hinv hhandler hsession hcurrent
  · split
    · exact disconnectSession_session hinv hhandler hsession hcurrent
    · split
      · exact .inl hcurrent
      · exact disconnectSession_session hinv hhandler hsession hcurrent
  · exact .inl hcurrent

/-- A session that a step of the gateway drops has its transport closed by the service, or its
handler has finished, or a send has failed on it. -/
theorem step_dropped (hinv : Gateway.Invariant.Inv s)
    (hstep : Operations.step s action = some (t, events))
    (hsession : HasSession t.service x d h sessionId) :
    Current t.service d h sessionId ∨ Finished t h ∨ HasSession s.service x d h sessionId ∧
      (Current s.service d h sessionId →
        ServesClose s action h ∨ FailsOn s action d h sessionId) := by
  cases step_effect hstep with
  | serves _ _ hserves => exact (serves_session hinv hserves hsession).imp_right .inr
  | accepts i y deviceId service owners _ _ _ hstart =>
      refine (inner_session hinv hstart hsession).imp_right fun hlost => .inr ⟨hlost.1, ?_⟩
      intro hcurrent
      rcases hlost.2 hcurrent with ⟨code, reason, hclose⟩ | ⟨k, managerAction, -, -, -, hnone, -⟩
      · rcases action_of_close hstart hclose with ⟨_, _, hnone⟩ | hnone
        · cases hnone
        · cases hnone
      · cases hnone
  | goes s₁ _ _ i handler handler' hserves =>
      exact (serves_session hinv hserves hsession).imp_right .inr
  | beats =>
      by_cases hcurrent : Current s.service d h sessionId
      · exact .inl hcurrent
      · exact .inr (.inr ⟨hsession, fun h => absurd h hcurrent⟩)
  | leaves s₁ _ i handler hserves hhandler hleaves =>
      have hcalls : (Operations.finallyClause s₁ i handler).service.calls = s₁.service.calls := by
        rcases (finallyClause_service s₁ i handler).2.2 with hsame | ⟨_, _, hsame⟩
        · rw [hsame]
        · rw [hsame]
      have hsession₁ : HasSession s₁.service x d h sessionId := by
        unfold HasSession
        rw [← hcalls]
        exact hsession
      rw [← hserves.handlers] at hhandler
      rcases serves_session hinv hserves hsession₁ with hcurrent | hlost
      · exact (finallyClause_session (hinv.serves hserves) hhandler hsession₁ hcurrent).imp_right
          .inl
      · exact .inr (.inr hlost)

end Sessions

section Transports

variable {encodes : DeviceCommand → Bool} {t t' : Transport} {i j : Nat}

theorem QueuedClose.update (hqueued : QueuedClose t j) {task : Option Task}
    (htasks : t'.tasks = Function.update t.tasks i task) (hne : j ≠ i) : QueuedClose t' j := by
  obtain ⟨writer, code, reason, cancelRequested, htask⟩ := hqueued
  refine ⟨writer, code, reason, cancelRequested, ?_⟩
  rw [htasks, Function.update_of_ne hne]
  exact htask

theorem QueuedClose.evolves {task : Task} (hqueued : QueuedClose t j)
    (hevolves : Evolves t i task t') (hne : j ≠ i) : QueuedClose t' j := by
  obtain ⟨progress, htasks⟩ := evolves_tasks hevolves
  exact hqueued.update htasks hne

theorem perform_close (encodes : DeviceCommand → Bool) (t : Transport) (j : Nat) (writer : Writer)
    (code : Nat) (reason : String) (progress : Progress) (hok : t.closed = true → t.closes ≠ []) :
    ∃ progress', (t.perform encodes j ⟨writer, .close code reason, progress⟩).tasks j =
        some ⟨writer, .close code reason, progress'⟩ ∧
      (t.perform encodes j ⟨writer, .close code reason, progress⟩).closes ≠ [] := by
  unfold Transport.perform
  dsimp only
  split
  · rename_i hclosed
    exact ⟨_, Transport.setTask_self _ _ _, hok hclosed⟩
  · exact ⟨_, Transport.setTask_self _ _ _, by simp [Transport.setTask]⟩

theorem request_close (encodes : DeviceCommand → Bool) (hok : t.Ok) (writer : Writer) (code : Nat)
    (reason : String) :
    ∃ progress, (t.request encodes writer (.close code reason)).tasks t.nextTask =
        some ⟨writer, .close code reason, progress⟩ ∧
      ((∃ cancelRequested, progress = .queued cancelRequested) ∨
        (t.request encodes writer (.close code reason)).closes ≠ []) := by
  unfold Transport.request
  dsimp only
  split
  · obtain ⟨progress, htask, hcloses⟩ := perform_close encodes
      { t with lock := t.lock.take t.nextTask, nextTask := t.nextTask + 1 } t.nextTask writer code
      reason (.queued false) hok.closed
    exact ⟨progress, htask, .inr hcloses⟩
  · exact ⟨_, Transport.setTask_self _ _ _, .inl ⟨false, rfl⟩⟩

theorem request_keeps {task : Task} (hok : t.Ok) (htask : t.tasks j = some task) (writer : Writer)
    (job : Job) : (t.request encodes writer job).tasks j = some task := by
  obtain ⟨progress, htasks⟩ := evolves_tasks
    (request_evolves writer job : Evolves t t.nextTask _ (t.request encodes writer job))
  rw [htasks, Function.update_of_ne (hok.used htask).ne]
  exact htask

theorem requestAll_keeps {task : Task} (hok : t.Ok) (htask : t.tasks j = some task)
    (jobs : List (Writer × Job)) : (requestAll encodes t jobs).tasks j = some task := by
  have hall : (requestAll encodes t jobs).Ok ∧ (requestAll encodes t jobs).tasks j = some task := by
    refine requestAll_rule (P := fun t => t.Ok ∧ t.tasks j = some task) ⟨hok, htask⟩ ?_
    rintro t r - ⟨hok, htask⟩
    exact ⟨hok.request r.1 r.2, request_keeps hok htask r.1 r.2⟩
  exact hall.2

theorem requestAll_closes_ne_nil (jobs : List (Writer × Job)) (hclosed : t.closes ≠ []) :
    (requestAll encodes t jobs).closes ≠ [] :=
  requestAll_rule (P := fun t => t.closes ≠ []) hclosed fun _ r _ hclosed =>
    (stays_of_evolves (request_evolves r.1 r.2)).closes_ne_nil hclosed

theorem requestAll_close (encodes : DeviceCommand → Bool) (hok : t.Ok) {jobs : List (Writer × Job)}
    {writer : Writer} {code : Nat} {reason : String}
    (hmem : (writer, .close code reason) ∈ jobs) :
    ∃ j progress, (requestAll encodes t jobs).tasks j = some ⟨writer, .close code reason, progress⟩ ∧
      ((∃ cancelRequested, progress = .queued cancelRequested) ∨
        (requestAll encodes t jobs).closes ≠ []) := by
  induction jobs generalizing t with
  | nil => cases hmem
  | cons r jobs ih =>
      rcases List.mem_cons.mp hmem with rfl | hmem
      · obtain ⟨progress, htask, hend⟩ := request_close encodes hok writer code reason
        exact ⟨t.nextTask, progress, requestAll_keeps (hok.request _ _) htask jobs,
          hend.imp_right (requestAll_closes_ne_nil jobs)⟩
      · exact ih (hok.request r.1 r.2) hmem

theorem QueuedClose.requestAll (hqueued : QueuedClose t j) (hok : t.Ok)
    (jobs : List (Writer × Job)) : QueuedClose (requestAll encodes t jobs) j := by
  obtain ⟨writer, code, reason, cancelRequested, htask⟩ := hqueued
  exact ⟨writer, code, reason, cancelRequested, requestAll_keeps hok htask jobs⟩

/-- A waiter that runs again closes the socket, unless its task has been cancelled. -/
theorem QueuedClose.resume (hqueued : QueuedClose t j) (hok : t.Ok)
    (h : t.resume encodes i = some t') :
    QueuedClose t' j ∨ t'.closes ≠ [] ∨
      i = j ∧ ∃ writer code reason, t.tasks j = some ⟨writer, .close code reason, .queued true⟩ := by
  rcases eq_or_ne j i with rfl | hne
  · right
    obtain ⟨writer, code, reason, cancelRequested, htask⟩ := hqueued
    unfold Transport.resume at h
    dsimp only at h
    rw [htask] at h
    split at h
    · rename_i heq _
      cases heq
      cases h
      obtain ⟨-, -, hcloses⟩ := perform_close encodes { t with lock := t.lock.grant j } j writer code
        reason (.queued false) hok.closed
      exact .inl hcloses
    · rename_i heq _
      cases heq
      exact .inr ⟨rfl, writer, code, reason, htask⟩
    · rename_i heq _
      cases heq
      exact .inr ⟨rfl, writer, code, reason, htask⟩
    · cases h
  · obtain ⟨task, -, hevolves⟩ := Transport.resume_evolves h
    exact .inl (hqueued.evolves hevolves hne)

theorem QueuedClose.cancel (hqueued : QueuedClose t j) (h : t.cancel i = some t') :
    QueuedClose t' j := by
  rcases eq_or_ne j i with rfl | hne
  · obtain ⟨writer, code, reason, cancelRequested, htask⟩ := hqueued
    unfold Transport.cancel at h
    rw [htask] at h
    cases h
    exact ⟨writer, code, reason, true, Transport.setTask_self _ _ _⟩
  · obtain ⟨task, -, hevolves⟩ := Transport.cancel_evolves h
    exact hqueued.evolves hevolves hne

theorem QueuedClose.complete {failure : Option Raised} (hqueued : QueuedClose t j)
    (h : t.complete i failure = some t') : QueuedClose t' j := by
  rcases eq_or_ne j i with rfl | hne
  · obtain ⟨writer, code, reason, cancelRequested, htask⟩ := hqueued
    unfold Transport.complete at h
    rw [htask] at h
    cases h
  · obtain ⟨task, -, hevolves⟩ := Transport.complete_evolves h
    exact hqueued.evolves hevolves hne

theorem QueuedClose.clear {writer : Writer} {job : Job} {failure : Option Raised}
    (hqueued : QueuedClose t j) (htask : t.tasks i = some ⟨writer, job, .done failure⟩) :
    QueuedClose (t.clear i) j := by
  refine hqueued.update rfl ?_
  rintro rfl
  obtain ⟨_, _, _, _, hqueued⟩ := hqueued
  rw [htask] at hqueued
  cases hqueued

theorem resume_cancelled {writer : Writer} {job : Job}
    (htask : t.tasks j = some ⟨writer, job, .queued true⟩) (h : t.resume encodes j = some t') :
    t'.closes = t.closes ∧
      t'.tasks = Function.update t.tasks j (some ⟨writer, job, .done (some .cancelled)⟩) := by
  unfold Transport.resume at h
  dsimp only at h
  rw [htask] at h
  split at h
  · rename_i heq _
    cases heq
  · rename_i heq _
    cases heq
    cases h
    exact ⟨rfl, rfl⟩
  · rename_i heq _
    cases heq
    cases h
    exact ⟨rfl, rfl⟩
  · cases h

end Transports

section Steps

variable [DecidableEq Digest] {settings : Settings} {older : List (Step config)}
  {s s₁ t : State config} {action : Action config} {events : List Empty} {h : Nat}

/-- The service has a transport closed: the job for it is there after the step. -/
theorem advance_closes {passed : Operations.Action config} (hok : (s.transports h).Ok)
    (hadvance : advance settings s passed = some t) (hcloses : ServesClose s.gateway passed h) :
    CloseAt t h ∧ (SocketClosed t h ∨ CloseWaits t h) := by
  obtain ⟨inner, g, served, code, reason, rfl, hserve, hclose⟩ := hcloses
  obtain ⟨g', events, -, -, htransports, hgathered⟩ := advance_eq_some hadvance
  obtain ⟨event, hevent, hcall⟩ := List.mem_filterMap.mp hclose
  obtain rfl : event = .transport (.close h code reason) := by
    cases event with
    | transport call =>
        cases hcall
        rfl
    | pairing => cases hcall
  rcases action_of_close (serve_step hserve) hclose with ⟨x, inputs, rfl⟩ | rfl
  · have hjob : (Writer.closing x, Job.close code reason) ∈
        serviceRequests s (.service (.proceed x inputs)) h := by
      simp only [serviceRequests, hserve, List.mem_filterMap]
      exact ⟨_, hevent, if_pos rfl⟩
    obtain ⟨j, progress, htask, hend⟩ := requestAll_close settings.encodes hok
      (List.mem_append_left (handlerRequests settings s _ g' events h) hjob)
    rw [← htransports] at htask hend
    refine ⟨.inl ⟨j, _, code, reason, progress, htask⟩, ?_⟩
    rcases hend with ⟨cancelRequested, rfl⟩ | hclosed
    · exact .inr (.inl ⟨j, _, code, reason, cancelRequested, htask⟩)
    · exact .inl hclosed
  · have hjob : (h, Job.close code reason) ∈ t.gathered := by
      rw [hgathered, List.mem_append]
      right
      simp only [gather, hserve, List.mem_filterMap]
      exact ⟨_, hevent, rfl⟩
    exact ⟨.inr ⟨code, reason, hjob⟩, .inr (.inr ⟨code, reason, hjob⟩)⟩

theorem advance_waits {passed : Operations.Action config} (hok : (s.transports h).Ok)
    (hadvance : advance settings s passed = some t) (hwaits : CloseWaits s h) : CloseWaits t h := by
  obtain ⟨g, events, -, -, htransports, hgathered⟩ := advance_eq_some hadvance
  rcases hwaits with ⟨j, hqueued⟩ | ⟨code, reason, hmem⟩
  · refine .inl ⟨j, ?_⟩
    rw [htransports]
    exact hqueued.requestAll hok _
  · refine .inr ⟨code, reason, ?_⟩
    rw [hgathered]
    exact List.mem_append_left _ hmem

omit [DecidableEq Digest] in
theorem setTransport_waits {i : Nat} {t' : Transport} (hwaits : CloseWaits s h)
    (hkept : ∀ j, QueuedClose (s.transports i) j → QueuedClose t' j) :
    CloseWaits (s.setTransport i t') h := by
  rcases hwaits with ⟨j, hqueued⟩ | hgathered
  · exact .inl ⟨j, setTransport_rule (P := fun h' t =>
      QueuedClose (s.transports h') j → QueuedClose t j) (fun _ => id) (hkept j) h hqueued⟩
  · exact .inr hgathered

omit [DecidableEq Digest] in
theorem passes_waits {passed : Operations.Action config}
    (hpasses : Passes settings s action passed s₁) (hwaits : CloseWaits s h) : CloseWaits s₁ h := by
  cases hpasses with
  | internal => exact hwaits
  | inbound => exact setTransport_waits hwaits fun _ hqueued => hqueued
  | returned i j now writer job failure _ htask =>
      exact setTransport_waits hwaits fun _ hqueued => hqueued.clear htask

/-- A call of `transport.close` that waits goes on to wait, or the socket is closed, or the call
was the last one and is withdrawn. -/
theorem quiet_waits (hok : ∀ h, (s.transports h).Ok) (hquiet : Quiet settings s action t)
    (hstep : step settings s action = some t) (hwaits : CloseWaits s h) :
    SocketClosed t h ∨ CloseWaits t h ∨ Withdrawn s h action := by
  cases action with
  | internal | inbound =>
      cases hquiet with
      | evolves _ _ _ _ _ hmoves => cases hmoves
  | resume i j =>
      obtain ⟨t', hresume, rfl⟩ := Option.map_eq_some_iff.mp hstep
      by_cases hclosed : SocketClosed (s.setTransport i t') h
      · exact .inl hclosed
      by_cases hkept : CloseWaits (s.setTransport i t') h
      · exact .inr (.inl hkept)
      -- The socket is open and nobody waits any more, so the step has taken the last one.
      have hlost (j' : Nat) (hqueued : QueuedClose (s.transports h) j') : i = h ∧ j = j' ∧
          ∃ writer code reason,
            (s.transports h).tasks j' = some ⟨writer, .close code reason, .queued true⟩ := by
        rcases eq_or_ne h i with rfl | hne
        · unfold SocketClosed at hclosed
          unfold CloseWaits at hkept
          rw [setTransport_self] at hclosed hkept
          rcases hqueued.resume (hok h) hresume with hqueued | hend | hcancelled
          · exact absurd (.inl ⟨j', hqueued⟩) hkept
          · exact absurd hend hclosed
          · exact ⟨rfl, hcancelled⟩
        · refine absurd (.inl ⟨j', ?_⟩) hkept
          rw [setTransport_of_ne t' hne]
          exact hqueued
      have hnone : ∀ code reason, (h, .close code reason) ∉ s.gathered := fun code reason hmem =>
        hkept (.inr ⟨code, reason, hmem⟩)
      rcases hwaits with ⟨j', hqueued⟩ | ⟨code, reason, hmem⟩
      · obtain ⟨rfl, rfl, writer, code, reason, htask⟩ := hlost j' hqueued
        exact .inr (.inr (.queued j writer code reason htask
          (fun i hne hqueued => hne (hlost i hqueued).2.1.symm) hnone))
      · exact absurd hmem (hnone code reason)
  | cancel i j =>
      obtain ⟨t', hcancel, rfl⟩ := Option.map_eq_some_iff.mp hstep
      exact .inr (.inl (setTransport_waits hwaits fun _ hqueued => hqueued.cancel hcancel))
  | complete i j failure =>
      obtain ⟨t', hcomplete, rfl⟩ := Option.map_eq_some_iff.mp hstep
      exact .inr (.inl (setTransport_waits hwaits fun _ hqueued => hqueued.complete hcomplete))
  | returned i j now =>
      cases hquiet with
      | evolves _ _ _ _ _ hmoves => cases hmoves
      | ends _ _ _ writer job failure htask =>
          exact .inr (.inl (setTransport_waits hwaits fun _ hqueued => hqueued.clear htask))
  | begins =>
      cases hquiet with
      | evolves _ _ _ _ _ hmoves => cases hmoves
      | begins i job gathered heq =>
          rcases hwaits with hqueued | ⟨code, reason, hmem⟩
          · refine .inr (.inl (setTransport_waits (s := { s with gathered }) (.inl hqueued) ?_))
            rintro j ⟨writer, code, reason, cancelRequested, htask⟩
            exact ⟨writer, code, reason, cancelRequested, request_keeps (hok i) htask _ _⟩
          · rw [heq] at hmem
            rcases List.mem_cons.mp hmem with hfirst | hrest
            · cases hfirst
              obtain ⟨progress, htask, hend⟩ :=
                request_close settings.encodes (hok h) .shutdown code reason
              unfold SocketClosed CloseWaits
              rw [setTransport_self]
              rcases hend with ⟨cancelRequested, rfl⟩ | hclosed
              · exact .inr (.inl (.inl ⟨_, _, code, reason, cancelRequested, htask⟩))
              · exact .inl hclosed
            · exact .inr (.inl (.inr ⟨code, reason, hrest⟩))
  | cancelNext =>
      cases hquiet with
      | evolves _ _ _ _ _ hmoves => cases hmoves
      | cancelsNext r gathered heq =>
          rcases hwaits with hqueued | ⟨code, reason, hmem⟩
          · exact .inr (.inl (.inl hqueued))
          by_cases hkept : CloseWaits { s with gathered } h
          · exact .inr (.inl hkept)
          obtain ⟨hunqueued, hnone⟩ := not_or.mp hkept
          rw [heq] at hmem
          rcases List.mem_cons.mp hmem with rfl | hrest
          · exact .inr (.inr (.gathered code reason gathered heq (not_exists.mp hunqueued)
              fun code reason hrest => hnone ⟨code, reason, hrest⟩))
          · exact absurd ⟨code, reason, hrest⟩ hnone

theorem step_away (hstep : step settings s action = some t) :
    (Away s h → Away t h) ∧ (Finished s.gateway h → Finished t.gateway h) := by
  rcases step_cases hstep with ⟨passed, s₁, hpasses, hadvance⟩ | hquiet
  · obtain ⟨g, events, hgateway, rfl, -⟩ := advance_eq_some hadvance
    rw [hpasses.gateway] at hgateway
    constructor
    · rintro ⟨handler, hhandler, hleaving⟩
      exact leaving_step hhandler hleaving hgateway
    · rintro ⟨handler, hhandler, hfinished⟩
      exact finished_step hhandler hfinished hgateway
  · unfold Away
    rw [hquiet.gateway]
    exact ⟨id, id⟩

theorem Ending.step (hending : Ending older s h) (hinv : Inv s)
    (hstep : step settings s action = some t) :
    Ending (⟨s, action, events, t⟩ :: older) t h ∨
      ¬ SocketClosed s h ∧ ¬ Away s h ∧ Withdrawn s h action := by
  have hcalled : CloseCalled (⟨s, action, events, t⟩ :: older) h ∨ Finished t.gateway h := by
    rcases hending.called with ⟨u, hu, hclose⟩ | hfinished
    · exact .inl ⟨u, List.mem_cons_of_mem _ hu, hclose⟩
    · exact .inr ((step_away hstep).2 hfinished)
  by_cases hclosed : SocketClosed s h
  · exact .inl ⟨hcalled, .inl ((step_stays hstep h).closes_ne_nil hclosed)⟩
  by_cases haway : Away s h
  · exact .inl ⟨hcalled, .inr (.inr ((step_away hstep).1 haway))⟩
  have hwaits : CloseWaits s h := (hending.effective.resolve_left hclosed).resolve_right haway
  rcases step_cases hstep with ⟨passed, s₁, hpasses, hadvance⟩ | hquiet
  · have hok := transport_ok (hinv.passes hpasses (passes_receives hpasses hadvance)).1
    exact .inl ⟨hcalled, .inr (.inl (advance_waits (hok h) hadvance (passes_waits hpasses hwaits)))⟩
  · rcases quiet_waits (transport_ok hinv) hquiet hstep hwaits with hclosed | hwaits | hwithdrawn
    · exact .inl ⟨hcalled, .inl hclosed⟩
    · exact .inl ⟨hcalled, .inr (.inl hwaits)⟩
    · exact .inr ⟨hclosed, haway, hwithdrawn⟩

omit [DecidableEq Digest] in
theorem abandons_of_failsOn {passed : Operations.Action config} {x : Nat} {d : UUID}
    {sessionId : UUID} (hpasses : Passes settings s action passed s₁)
    (hfails : FailsOn s.gateway passed d h sessionId)
    (hsession : HasSession s.gateway.service x d h sessionId) (hopen : ¬ Ending older s h) :
    Abandons older ⟨s, action, events, t⟩ := by
  obtain ⟨k, managerAction, hk, rfl, rfl, rfl, y, error, now, call, rfl, hfails⟩ := hfails
  cases hpasses with
  | internal _ hdirect => cases hdirect
  | returned i j now' writer job failure _ htask hcontinuation =>
      unfold continuation at hcontinuation
      split at hcontinuation
      all_goals cases hcontinuation
      exact ⟨i, j, now, y, job, error, x, d, k, rfl, htask, hsession, hk,
        ⟨y, error, now, call, rfl, hfails⟩, hopen⟩

theorem NoZombies.step (hs : NoZombies older s) (hinv : Inv s)
    (hstep : step settings s action = some t)
    (hkept : ¬ MakesZombie older ⟨s, action, events, t⟩) :
    NoZombies (⟨s, action, events, t⟩ :: older) t := by
  intro x d h sessionId hsession
  have ends (hold : HasSession s.gateway.service x d h sessionId)
      (hdropped : ¬ Current s.gateway.service d h sessionId) :
      Ending (⟨s, action, events, t⟩ :: older) t h := by
    have hending := (hs x d h sessionId hold).resolve_left hdropped
    rcases hending.step hinv hstep with hending | ⟨hopen, hstays, hwithdrawn⟩
    · exact hending
    · exact absurd (.inr ⟨x, d, h, sessionId, hwithdrawn, hold, hdropped, hopen, hstays⟩) hkept
  rcases step_cases hstep with ⟨passed, s₁, hpasses, hadvance⟩ | hquiet
  · obtain ⟨g, served, hgateway, rfl, -⟩ := advance_eq_some hadvance
    rw [hpasses.gateway] at hgateway
    rcases step_dropped hinv.gateway hgateway hsession with hcurrent | hfinished | ⟨hold, hlost⟩
    · exact .inl hcurrent
    · obtain ⟨handler, hhandler, hstage⟩ := hfinished
      exact .inr ⟨.inr ⟨handler, hhandler, hstage⟩, .inr (.inr ⟨handler, hhandler, hstage ▸ trivial⟩)⟩
    · by_cases hcurrent : Current s.gateway.service d h sessionId
      swap
      · exact .inr (ends hold hcurrent)
      right
      rcases hlost hcurrent with hcloses | hfails
      · rw [← hpasses.gateway] at hcloses
        have hok := transport_ok (hinv.passes hpasses (passes_receives hpasses hadvance)).1
        obtain ⟨hcalled, hend⟩ := advance_closes (hok h) hadvance hcloses
        exact ⟨.inl ⟨_, List.mem_cons_self, hcalled⟩, hend.imp_right .inl⟩
      · have hending : Ending older s h := by
          by_contra hopen
          exact hkept (.inl (abandons_of_failsOn hpasses hfails hold hopen))
        rcases hending.step hinv hstep with hending | ⟨-, -, hwithdrawn⟩
        · exact hending
        · cases hwithdrawn with
          | queued | gathered => cases hpasses
  · by_cases hcurrent : Current s.gateway.service d h sessionId
    · rw [hquiet.gateway]
      exact .inl hcurrent
    · rw [hquiet.gateway] at hsession
      exact .inr (ends hsession hcurrent)

/-- A send that fails changes nothing but the manager, and asks for nothing. -/
theorem failsSend_step {g g' : Operations.State config} {served : List (Event Digest)} {d : UUID}
    {k : LiveConnection} {managerAction : Manager.Execution.Action}
    (hk : g.service.manager.connections.lookup d = some k)
    (hfails : FailsSend g.service.manager d k managerAction)
    (hstep : Operations.step g (.service (.connections managerAction)) = some (g', served)) :
    g'.service.manager.connections.lookup d = none ∧ g'.service.calls = g.service.calls ∧
      g'.handlers = g.handlers ∧ ∃ g₁, serve g (.connections managerAction) = some (g₁, []) := by
  simp only [Operations.step] at hstep
  split at hstep
  · cases hstep
  · rename_i g₁ events₁ hserve
    obtain ⟨manager, calls, hmanager, hservice, rfl⟩ := connections_step (serve_step hserve)
    obtain ⟨hnone, rfl⟩ := failsSend_drops hmanager hk hfails
    have hresumes : Operations.resumption g₁ (.connections managerAction) = none := rfl
    rw [hresumes] at hstep
    cases hstep
    refine ⟨?_, ?_, serve_handlers hserve, _, hserve⟩
    · rw [hservice]
      exact hnone
    · rw [hservice]

theorem closeCalled_of_run (hrun : Run (wire config settings) (.initial config) older s)
    (hclose : CloseAt s h) : CloseCalled older h := by
  cases hrun with
  | nil =>
      rcases hclose with ⟨j, writer, code, reason, progress, htask⟩ | ⟨code, reason, hmem⟩
      · cases htask
      · cases hmem
  | step action events t => exact ⟨_, List.mem_cons_self, hclose⟩

/-- The step in which a send fails forgets the job of the send, and gives out none. -/
theorem failsSend_transports {i j x : Nat} {job : Job} {error : Raised} {now : AwareDatetime}
    {d : UUID} {k : LiveConnection}
    (htask : (s.transports i).tasks j = some ⟨.command x, job, .done (some error)⟩)
    (hk : s.gateway.service.manager.connections.lookup d = some k)
    (hfails : FailsSend s.gateway.service.manager d k (.completeSend x (some error) now))
    (hstep : step settings s (.returned i j now) = some t) :
    t.gateway.service.manager.connections.lookup d = none ∧
      t.gateway.service.calls = s.gateway.service.calls ∧
      t.gateway.handlers = s.gateway.handlers ∧ t.gathered = s.gathered ∧
      t.transports = (s.setTransport i ((s.transports i).clear j)).transports := by
  simp only [step, htask, continuation] at hstep
  obtain ⟨g, served, hgateway, hg, htransports, hgathered⟩ := advance_eq_some hstep
  obtain ⟨hnone, hcalls, hhandlers, g₁, hserve⟩ := failsSend_step hk hfails hgateway
  refine ⟨hg ▸ hnone, hg ▸ hcalls, hg ▸ hhandlers, hgathered.trans (List.append_nil _), ?_⟩
  funext h
  have hhandler : handlerRequests settings (s.setTransport i ((s.transports i).clear j))
      (.service (.connections (.completeSend x (some error) now))) g served h = [] := by
    unfold handlerRequests
    rw [hhandlers]
    split
    · rename_i before after hbefore hafter
      obtain rfl := Option.some.inj (hbefore.symm.trans hafter)
      simp [handlerJob, heartbeatJob_eq_none (.inl rfl)]
    · rfl
  have hservice : serviceRequests (s.setTransport i ((s.transports i).clear j))
      (.service (.connections (.completeSend x (some error) now))) h = [] := by
    simp only [serviceRequests]
    rw [show (s.setTransport i ((s.transports i).clear j)).gateway = s.gateway from rfl, hserve]
    rfl
  rw [htransports, hservice, hhandler]
  rfl

/-- A socket does not begin to come to its end in a step that only forgets jobs. -/
theorem Ending.of_forgotten (hrun : Run (wire config settings) (.initial config) older s)
    (hhandlers : t.gateway.handlers = s.gateway.handlers) (hgathered : t.gathered = s.gathered)
    (hcloses : (t.transports h).closes = (s.transports h).closes)
    (htasks : ∀ j task, (t.transports h).tasks j = some task →
      (s.transports h).tasks j = some task)
    (hending : Ending (⟨s, action, events, t⟩ :: older) t h) : Ending older s h := by
  constructor
  · rcases hending.called with ⟨u, hu, hclose⟩ | hfinished
    · left
      rcases List.mem_cons.mp hu with rfl | hu
      · refine closeCalled_of_run hrun ?_
        rcases hclose with ⟨j, writer, code, reason, progress, htask⟩ | hmem
        · exact .inl ⟨j, writer, code, reason, progress, htasks _ _ htask⟩
        · exact .inr (hgathered ▸ hmem)
      · exact ⟨u, hu, hclose⟩
    · right
      unfold Finished at hfinished
      rw [hhandlers] at hfinished
      exact hfinished
  · rcases hending.effective with hclosed | (⟨j, writer, code, reason, flag, htask⟩ | hmem) | haway
    · unfold SocketClosed at hclosed
      rw [hcloses] at hclosed
      exact .inl hclosed
    · exact .inr (.inl (.inl ⟨j, writer, code, reason, flag, htasks _ _ htask⟩))
    · exact .inr (.inl (.inr (hgathered ▸ hmem)))
    · right
      right
      unfold Away at haway
      rw [hhandlers] at haway
      exact haway

theorem Abandons.zombie (hrun : Run (wire config settings) (.initial config) older s)
    (hstep : step settings s action = some t)
    (habandons : Abandons older ⟨s, action, events, t⟩) :
    ¬ NoZombies (⟨s, action, events, t⟩ :: older) t := by
  obtain ⟨i, j, now, x, job, error, y, d, k, haction, htask, hsession, hk, hfails, hopen⟩ :=
    habandons
  obtain rfl : action = .returned i j now := haction
  obtain ⟨hnone, hcalls, hhandlers, hgathered, htransports⟩ :=
    failsSend_transports htask hk hfails hstep
  intro hs
  have hsession' : HasSession t.gateway.service y d k.transport k.sessionId := by
    unfold HasSession
    rw [hcalls]
    exact hsession
  rcases hs y d k.transport k.sessionId hsession' with ⟨k', hk', -⟩ | hending
  · cases hnone.symm.trans hk'
  · refine hopen (hending.of_forgotten hrun hhandlers hgathered ?_ ?_)
    · rw [htransports]
      exact setTransport_rule (t := (s.transports i).clear j)
        (P := fun h t => t.closes = (s.transports h).closes) (fun _ => rfl) rfl _
    · rw [htransports]
      exact setTransport_rule (P := fun h t => ∀ j' task, t.tasks j' = some task →
        (s.transports h).tasks j' = some task) (fun _ _ _ htask => htask)
        (fun _ _ htask => (clear_tasks htask).2) _

/-- After the step nobody closes the socket. -/
theorem Withdrawn.not_waits (hwithdrawn : Withdrawn s h action)
    (hstep : step settings s action = some t) :
    t.gateway = s.gateway ∧ (t.transports h).closes = (s.transports h).closes ∧
      ¬ CloseWaits t h := by
  cases hwithdrawn with
  | queued j writer code reason htask honly hnone =>
      obtain ⟨t', hresume, rfl⟩ := Option.map_eq_some_iff.mp hstep
      obtain ⟨hcloses, htasks⟩ := resume_cancelled htask hresume
      unfold CloseWaits
      rw [setTransport_self]
      refine ⟨rfl, hcloses, ?_⟩
      rintro (⟨i, writer', code', reason', cancelRequested, hqueued⟩ | ⟨code', reason', hmem⟩)
      · rw [htasks] at hqueued
        rcases eq_or_ne i j with rfl | hne
        · rw [Function.update_self] at hqueued
          cases hqueued
        · rw [Function.update_of_ne hne] at hqueued
          exact honly i hne ⟨writer', code', reason', cancelRequested, hqueued⟩
      · exact hnone code' reason' hmem
  | gathered code reason gathered heq hunqueued hnone =>
      simp only [step, heq] at hstep
      cases hstep
      refine ⟨rfl, rfl, ?_⟩
      rintro (⟨j, hqueued⟩ | ⟨code', reason', hmem⟩)
      · exact hunqueued j hqueued
      · exact hnone code' reason' hmem

theorem Withdraws.zombie (hstep : step settings s action = some t) {x : Nat} {d : UUID}
    {sessionId : UUID} (hwithdraws : Withdraws ⟨s, action, events, t⟩ x d h sessionId) :
    ¬ NoZombies (⟨s, action, events, t⟩ :: older) t := by
  obtain ⟨hwithdrawn, hsession, hdropped, hopen, hstays⟩ := hwithdraws
  obtain ⟨hgateway, hcloses, hnone⟩ := hwithdrawn.not_waits hstep
  intro hs
  rcases hs x d h sessionId (hgateway ▸ hsession) with hcurrent | hending
  · exact hdropped (hgateway ▸ hcurrent)
  · rcases hending.effective with hclosed | hwaits | haway
    · unfold SocketClosed at hclosed
      rw [hcloses] at hclosed
      exact hopen hclosed
    · exact hnone hwaits
    · unfold Away at haway
      rw [hgateway] at haway
      exact hstays haway

end Steps

section Runs

variable [DecidableEq Digest] {settings : Settings} {history : List (Step config)}
  {s : State config}

omit [DecidableEq Digest] in
theorem noZombies_initial : NoZombies [] (State.initial config) := by
  rintro x d h sessionId (hx | hx)
  · cases hx
  · cases hx

/-- A run leaves no session behind exactly when no send fails on a session whose socket is to
stay, and no close that such a session depends on is withdrawn. -/
theorem no_zombie_sessions_iff (hrun : Run (wire config settings) (.initial config) history s) :
    Throughout NoZombies (.initial config) history ↔ Never MakesZombie history := by
  constructor
  · refine hrun.never_of_throughout _ MakesZombie ?_
    rintro history s action events t hrun - hstep
      (habandons | ⟨x, d, h, sessionId, hwithdraws⟩)
    · exact habandons.zombie hrun (wire_step hstep)
    · exact hwithdraws.zombie (wire_step hstep)
  · refine hrun.throughout_of_never _ MakesZombie noZombies_initial ?_
    intro history s action events t hrun hs hstep hkept
    exact hs.step (inv_of_run hrun) (wire_step hstep) hkept

end Runs

section Samples

open JarvisCore.Foundation.Text (PyText)
open JarvisCore.Gateway.Cleanup (sampleUuid sampleProceed samplePerform)
open JarvisCore.Service.GrantContainment (sampleService sampleDevice)

/-- The paired device is ready on socket `0`. -/
def sampleConnected : List (Action sampleService) :=
  let activates : List (Operations.Action sampleService) := [samplePerform 2, sampleProceed 2 103]
  sampleGreeted ++ [sampleInbound 2 (.text (sampleHello (sampleUuid 102)))] ++
    activates.map .internal ++ sampleReturns 1

def sampleCommand (arguments : PyDict) : List (Action sampleService) :=
  let calls : List (Operations.Action sampleService) :=
    [.service (.start 3 (.executeCommand sampleDevice .system "get_info" arguments)),
      samplePerform 3, sampleProceed 3 104]
  calls.map .internal

def sampleDisconnected : List (Action sampleService) :=
  let ends : List (Operations.Action sampleService) := [.heartbeat 0 .cancelled, .joined 0]
  sampleConnected ++ sampleCommand [] ++ sampleReturns 2 ++ [sampleInbound 4 .disconnect] ++
    ends.map .internal

/-- Neither a wait for the lock nor a send that has failed ends in the step, and no task of
`close_all` is cancelled. -/
def harmless (u : Step sampleService) : Bool :=
  match u.action with
  | .resume _ _ | .cancelNext => false
  | .returned i j _ =>
      match (u.source.transports i).tasks j with
      | some ⟨.command _, _, .done (some _)⟩ => false
      | _ => true
  | _ => true

theorem not_makesZombie_of_harmless {older : List (Step sampleService)} {u : Step sampleService}
    (htest : harmless u = true) : ¬ MakesZombie older u := by
  unfold harmless at htest
  rintro (⟨i, j, now, x, job, error, y, d, k, haction, htask, -⟩ |
    ⟨x, d, h, sessionId, ⟨hwithdrawn, -⟩⟩)
  · simp only [haction, htask] at htest
    cases htest
  · cases haction : u.action with
    | resume | cancelNext =>
        rw [haction] at htest
        cases htest
    | _ =>
        rw [haction] at hwithdrawn
        cases hwithdrawn

theorem no_zombie_sessions_disconnected :
    ∃ history s, Run (wire sampleService sampleSettings) (.initial sampleService) history s ∧
      queuedCommand s = true ∧ Finished s.gateway 0 ∧
      Throughout NoZombies (.initial sampleService) history := by
  obtain ⟨history, s, hrun, htest⟩ := exists_run_of_replay
    (S := wire sampleService sampleSettings) (s := .initial sampleService) sampleDisconnected
    (fun history s => queuedCommand s && history.all harmless &&
      (s.gateway.handlers 0).any fun handler => handler.stage = .finished) (by decide +kernel)
  simp only [Bool.and_eq_true, List.all_eq_true, Option.any_eq_true] at htest
  obtain ⟨⟨hsent, hharmless⟩, handler, hhandler, hfinished⟩ := htest
  refine ⟨history, s, hrun, hsent, ⟨handler, hhandler, of_decide_eq_true hfinished⟩, ?_⟩
  apply (no_zombie_sessions_iff hrun).mpr
  exact Never.of_forall fun u hu _ => not_makesZombie_of_harmless (hharmless u hu)

/-- `server_message` refuses a `NaN` among the arguments. -/
def strictSettings : Settings :=
  { sampleSettings with
    encodes := fun command => command.arguments.all fun argument =>
      match argument.2 with
      | .float .nan => false
      | _ => true }

def sampleAbandoned : List (Action sampleService) :=
  sampleConnected ++ sampleCommand [(.ofString "level", .float .nan)] ++ [.returned 0 2 ⟨2, 0⟩]

/-- Call `4` revokes the device while the command is being written, and is cancelled while its
`transport.close` waits for that. Call `5` revokes the device again. -/
def sampleWithdrawn : List (Action sampleService) :=
  let revokes : List (Operations.Action sampleService) :=
    [.service (.start 4 (.revokeDevice sampleDevice)), samplePerform 4, sampleProceed 4 105,
      samplePerform 4, sampleProceed 4 106, samplePerform 4, sampleProceed 4 107]
  let revokesAgain : List (Operations.Action sampleService) :=
    [.service (.start 5 (.revokeDevice sampleDevice)), samplePerform 5, sampleProceed 5 108]
  sampleConnected ++ sampleCommand [] ++ revokes.map .internal ++
    [.cancel 0 3, .resume 0 3, .returned 0 3 ⟨2, 0⟩] ++ sampleReturns 2 ++
    revokesAgain.map .internal

def idleAt (s : State sampleService) (x : Nat) : Bool :=
  (match s.gateway.service.manager.calls x with
    | some (.admitted call) => match call.stage with
        | .finished _ => true
        | _ => false
    | _ => true) &&
  match s.gateway.service.calls x with
  | some ⟨_, .awaitingClose _⟩ => false
  | _ => true

theorem idle_of_idleAt {s : State sampleService} (hidle : ∀ x, idleAt s x = true)
    (hgathered : s.gathered = []) : Idle s := by
  simp only [idleAt, Bool.and_eq_true] at hidle
  refine ⟨?_, ?_, hgathered⟩
  · intro x call hcall
    have hx := (hidle x).1
    rw [hcall] at hx
    dsimp only at hx
    split at hx
    · rename_i outcome hstage
      exact ⟨outcome, hstage⟩
    · cases hx
  · intro x request value hcall
    have hx := (hidle x).2
    rw [hcall] at hx
    cases hx

/-- Nobody routes to session `0` any more, whose handler is in the READY loop and whose socket
is open. -/
def abandoned (s : State sampleService) : Bool :=
  s.gathered.isEmpty && (s.transports 0).closes.isEmpty &&
    (List.range (s.transports 0).nextTask).all (fun j => ((s.transports 0).tasks j).isNone) &&
    (s.gateway.service.manager.connections.lookup sampleDevice).isNone &&
    (match s.gateway.service.calls 1 with
      | some ⟨.connectDevice d 0, .finished (.ok (.session _))⟩ => d = sampleDevice
      | _ => false) &&
    (s.gateway.handlers 0).any fun handler => handler.stage = .receiving

theorem gathered_of_abandoned {s : State sampleService} (htest : abandoned s = true) :
    s.gathered = [] := by
  simp only [abandoned, Bool.and_eq_true, List.isEmpty_iff] at htest
  exact htest.1.1.1.1.1

/-- Nobody calls `close` on transport `0`. -/
def silent (u : Step sampleService) : Bool :=
  u.target.gathered.isEmpty && (List.range (u.target.transports 0).nextTask).all fun j =>
    match (u.target.transports 0).tasks j with
    | some ⟨_, .close _ _, _⟩ => false
    | _ => true

variable {settings : Settings} {history : List (Step sampleService)} {s : State sampleService}

theorem not_closeCalled_of_silent
    (hrun : Run (wire sampleService settings) (.initial sampleService) history s)
    (htest : history.all silent = true) : ¬ CloseCalled history 0 := by
  rintro ⟨u, hu, hclose⟩
  obtain ⟨later, earlier, -, hearlier, hfire, -⟩ := hrun.exists_of_mem hu
  have hok := transport_ok ((inv_of_run hearlier).step (wire_step hfire)) 0
  have hsilent := List.all_eq_true.mp htest u hu
  simp only [silent, Bool.and_eq_true, List.all_eq_true, List.mem_range,
    List.isEmpty_iff] at hsilent
  obtain ⟨hgathered, htasks⟩ := hsilent
  rcases hclose with ⟨j, writer, code, reason, progress, htask⟩ | ⟨code, reason, hmem⟩
  · have hj := htasks j (hok.used htask)
    rw [htask] at hj
    cases hj
  · rw [hgathered] at hmem
    cases hmem

theorem not_noZombies_of_abandoned
    (hrun : Run (wire sampleService settings) (.initial sampleService) history s)
    (htest : abandoned s = true) : ¬ NoZombies history s := by
  have hok := transport_ok (inv_of_run hrun) 0
  simp only [abandoned, Bool.and_eq_true, List.all_eq_true, List.mem_range, List.isEmpty_iff,
    Option.isNone_iff_eq_none, Option.any_eq_true] at htest
  obtain ⟨⟨⟨⟨⟨hgathered, hcloses⟩, htasks⟩, hgone⟩, hcall⟩, handler, hhandler, hstage⟩ := htest
  intro hs
  split at hcall
  swap
  · cases hcall
  rename_i d sessionId hconnected
  obtain rfl : d = sampleDevice := of_decide_eq_true hcall
  rcases hs 1 _ 0 sessionId (.inr hconnected) with ⟨k, hk, -⟩ | hending
  · cases hgone.symm.trans hk
  rcases hending.effective with hclosed | (⟨j, _, _, _, _, htask⟩ | ⟨_, _, hmem⟩) | haway
  · exact hclosed hcloses
  · cases (htasks j (hok.used htask)).symm.trans htask
  · rw [hgathered] at hmem
    cases hmem
  · obtain ⟨handler', hhandler', hleaving⟩ := haway
    obtain rfl := Option.some.inj (hhandler.symm.trans hhandler')
    rw [of_decide_eq_true hstage] at hleaving
    exact hleaving

def idleAfter (settings : Settings) (actions : List (Action sampleService)) (x : Nat) : Bool :=
  (replay (wire sampleService settings) (.initial sampleService) actions).all fun r => idleAt r.2 x

theorem idle_of_replay {actions : List (Action sampleService)}
    (hreplay : replay (wire sampleService settings) (.initial sampleService) actions =
      some (history, s))
    (hstarted : ∀ x < 6, idleAfter settings actions x = true)
    (hothers : ∀ x, idleAfter settings actions (x + 6) = true) (hgathered : s.gathered = []) :
    Idle s := by
  have hidle (x : Nat) (h : idleAfter settings actions x = true) : idleAt s x = true := by
    simpa [idleAfter, hreplay] using h
  refine idle_of_idleAt (fun x => hidle x ?_) hgathered
  rcases lt_or_ge x 6 with hx | hx
  · exact hstarted x hx
  · obtain ⟨y, rfl⟩ := Nat.exists_eq_add_of_le' hx
    exact hothers y

set_option maxRecDepth 20000 in
theorem sampleAbandoned_others (x : Nat) :
    idleAfter strictSettings sampleAbandoned (x + 6) = true := rfl

set_option maxRecDepth 20000 in
theorem sampleWithdrawn_others (x : Nat) :
    idleAfter sampleSettings sampleWithdrawn (x + 6) = true := rfl

/-- A send that is refused drops the session and `close` is never called; a revocation that is
cancelled takes its `close` back, and the next one finds nothing to close. -/
theorem no_zombie_sessions_abandoned :
    (∃ history s, Run (wire sampleService strictSettings) (.initial sampleService) history s ∧
        Idle s ∧ abandoned s = true ∧ ¬ CloseCalled history 0 ∧ ¬ NoZombies history s) ∧
      ∃ history s, Run (wire sampleService sampleSettings) (.initial sampleService) history s ∧
        Idle s ∧ abandoned s = true ∧ ¬ NoZombies history s := by
  constructor
  · obtain ⟨⟨history, s⟩, hreplay, htest⟩ := (Option.any_eq_true _ _).mp
      (show (replay (wire sampleService strictSettings) (.initial sampleService)
        sampleAbandoned).any (fun r => abandoned r.2 && r.1.all silent) = true by decide +kernel)
    rw [Bool.and_eq_true] at htest
    obtain ⟨habandoned, hsilent⟩ := htest
    have hrun := run_of_replay hreplay
    have hidle : Idle s := idle_of_replay hreplay (by decide +kernel) sampleAbandoned_others
      (gathered_of_abandoned habandoned)
    exact ⟨history, s, hrun, hidle, habandoned, not_closeCalled_of_silent hrun hsilent,
      not_noZombies_of_abandoned hrun habandoned⟩
  · obtain ⟨⟨history, s⟩, hreplay, habandoned⟩ := (Option.any_eq_true _ _).mp
      (show (replay (wire sampleService sampleSettings) (.initial sampleService)
        sampleWithdrawn).any (fun r => abandoned r.2) = true by decide +kernel)
    have hrun := run_of_replay hreplay
    have hidle : Idle s := idle_of_replay hreplay (by decide +kernel) sampleWithdrawn_others
      (gathered_of_abandoned habandoned)
    exact ⟨history, s, hrun, hidle, habandoned, not_noZombies_of_abandoned hrun habandoned⟩

end Samples

end JarvisCore.Gateway.ZombieSessions
