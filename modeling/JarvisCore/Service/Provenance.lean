import JarvisCore.Pairing.CallArguments
import JarvisCore.Service.CallSteps
import JarvisCore.Service.GrantContainment

namespace JarvisCore.Service.Provenance

open JarvisCore.Domain.Values
open JarvisCore.Domain.Errors
open JarvisCore.Domain.Models
open JarvisCore.Foundation.Dictionary
open JarvisCore.Foundation.Text
open JarvisCore.Foundation.TransitionSystem
open JarvisCore.Pairing.Backends
open JarvisCore.Pairing.CallArguments
open JarvisCore.Pairing.Challenges (ClaimCall DeviceCredential Registration actor)
open JarvisCore.Pairing.DurableClaim (Commits Moves Phase phase step_moves)
open JarvisCore.Security.DeviceTables
open JarvisCore.Security.DeviceRecords
open JarvisCore.Service.CallSteps
open JarvisCore.Service.Effects
open JarvisCore.Service.GrantContainment
open JarvisCore.Service.Invariant
open JarvisCore.Service.Operations

variable {Digest : Type} [DecidableEq Digest] {config : Config Digest}

/-- Call `y` presented, under the name, the identifier and the secret of the challenge that
call `x` created for the capabilities. -/
def Presents (s : State config) (x y : Nat) (granted : Finset DeviceCapability) (name : String) :
    Prop :=
  ∃ pairingId secret secret', argumentsAt s.pairing x = some (.create granted pairingId secret) ∧
    argumentsAt s.pairing y = some (.claim pairingId secret' name) ∧
    config.pairing.digest secret' = config.pairing.digest secret

def CommitsFor (y : Nat) (registration : Registration Digest) (rows : Sql.Rows Digest)
    (u : Step config) : Prop :=
  ∃ action, pairingAction u.action = some action ∧
    Commits y registration rows ⟨u.source.pairing, action, pairingEvents u.events, u.target.pairing⟩

omit [DecidableEq Digest] in
theorem CommitsFor.commitsClaim {y : Nat} {registration : Registration Digest}
    {rows : Sql.Rows Digest} {u : Step config} (h : CommitsFor y registration rows u) :
    CommitsClaim registration rows u := by
  obtain ⟨action, haction, hcommits⟩ := h
  obtain rfl : actor action = y := hcommits.own
  exact ⟨action, haction, hcommits⟩

section Steps

variable {log : List (Pairing.Challenges.Event Digest)} {s t : State config}
  {action : Action config} {events : List (Event Digest)}

/-- A step of the service makes one step of the pairing store or leaves its calls alone. -/
theorem pairing_step (h : Operations.step s action = some (t, events)) :
    (t.pairing.calls = s.pairing.calls ∧ pairingEvents events = []) ∨
      ∃ pairingAction', pairingAction action = some pairingAction' ∧
        Pairing.Challenges.step config.pairing s.pairing pairingAction' =
          some (t.pairing, pairingEvents events) := by
  cases step_effect h with
  | pairs _ pairingAction' pairing events haction hstep =>
      refine .inr ⟨pairingAction', haction, ?_⟩
      rw [pairingEvents_pairing]
      exact hstep
  | passes => exact .inl ⟨rfl, pairingEvents_transport _⟩
  | begins | queues | enters | leaves | performs => exact .inl ⟨rfl, rfl⟩
  | closes =>
      rw [finish_pairing]
      exact .inl ⟨rfl, rfl⟩
  | proceeds x request stage r inputs _ hproceeds =>
      rw [proceeds_pairing hproceeds]
      exact .inl ⟨rfl, Proceeds.pairingEvents hproceeds⟩

theorem step_argumentsAt (h : Operations.step s action = some (t, events)) {x : Nat}
    {arguments : Arguments} (hx : argumentsAt s.pairing x = some arguments) :
    argumentsAt t.pairing x = some arguments := by
  rcases pairing_step h with ⟨hsame, -⟩ | ⟨pairingAction', -, hstep⟩
  · rw [argumentsAt, hsame]
    exact hx
  · exact Pairing.CallArguments.step_argumentsAt hstep hx

theorem Presents.step {x y : Nat} {granted : Finset DeviceCapability} {name : String}
    (hpresents : Presents s x y granted name)
    (h : Operations.step s action = some (t, events)) : Presents t x y granted name := by
  obtain ⟨pairingId, secret, secret', hx, hy, hsecret⟩ := hpresents
  exact ⟨pairingId, secret, secret', step_argumentsAt h hx, step_argumentsAt h hy, hsecret⟩

/-- A commit writes the device of a claim that presented a created challenge. -/
theorem commits_presents (hinv : Inv log s) (hnamed : Named s.pairing)
    (h : Operations.step s action = some (t, events)) {y : Nat}
    {registration : Registration Digest} {rows : Sql.Rows Digest}
    (hcommits : CommitsFor y registration rows ⟨s, action, events, t⟩) :
    ∃ granted name, Presents t registration.record.challenge y granted name ∧
      HasGrants t.tables rows.device.id granted ∧ rows.device.name = strip name := by
  obtain ⟨challenge, record, hcreated, hgrants⟩ := commits_grants hinv hcommits.commitsClaim
  obtain ⟨pairingAction', -, -, ⟨call, hcall, hregistration, hstage⟩, -⟩ := hcommits
  obtain ⟨created, hcall', -, rfl, rfl⟩ := hinv.pairing.created _ _ _ hcreated
  obtain ⟨-, registration', hregistration', hrecord, hadmitted⟩ :=
    hinv.pairing.registering _ call _ hcall hstage
  obtain rfl : registration = registration' :=
    Option.some.inj (hregistration.symm.trans hregistration')
  obtain ⟨challenge', hid, hcreated'⟩ := (hinv.pairing.records _ _ hrecord).created
  obtain ⟨created', hcall'', -, rfl, hrecord'⟩ := hinv.pairing.created _ _ _ hcreated'
  rw [hcall'] at hcall''
  cases hcall''
  obtain ⟨-, -, hdigest, -⟩ := hinv.pairing.calls _ _ hcall'
  have hname : rows.device.name = strip call.deviceName := by
    obtain ⟨pairingId, secret, name, staging, stage⟩ := call
    obtain rfl : stage = _ := hstage
    obtain ⟨registration', hstaging, hdevice, -⟩ := hinv.staged _ _ rows hcall rfl
    obtain rfl : registration = registration' :=
      Option.some.inj (hregistration.symm.trans hstaging)
    rw [hdevice]
    exact hnamed _ _ registration hcall hregistration
  have hpresents : Presents s registration.record.challenge y created.challenge.grantedCapabilities
      call.deviceName := by
    refine ⟨created.challenge.id, created.challenge.secret, call.secret, argumentsAt_eq hcall',
      ?_, ?_⟩
    · rw [argumentsAt_eq hcall, hid]
      rfl
    · rw [← hadmitted.secret, ← hdigest, hrecord']
  exact ⟨_, _, hpresents.step h, hgrants, hname⟩

end Steps

section Runs

variable {history : List (Step config)} {s : State config}

theorem named_of_run (hrun : Run (service config) (.initial config) history s) :
    Named s.pairing := by
  refine hrun.historyInvariant (fun _ s => Named s.pairing) ?_ ?_
  · intro x call registration hcall
    cases hcall
  · intro history s action t events hprev hnamed h
    rcases pairing_step h with ⟨hsame, -⟩ | ⟨pairingAction', -, hstep⟩
    · rw [Named, hsame]
      exact hnamed
    · exact hnamed.step (inv_of_run hprev).pairing hstep

/-- Every commit of a history presented a created challenge, and its device has the grants
of that challenge. -/
theorem committed_presents (hrun : Run (service config) (.initial config) history s)
    {u : Step config} (hu : u ∈ history) {y : Nat} {registration : Registration Digest}
    {rows : Sql.Rows Digest} (hcommits : CommitsFor y registration rows u) :
    ∃ granted name, Presents s registration.record.challenge y granted name ∧
      HasGrants s.tables rows.device.id granted ∧ rows.device.name = strip name := by
  induction hrun with
  | nil => cases hu
  | @step history s action events t hprev h ih =>
      rcases List.mem_cons.mp hu with rfl | hu
      · exact commits_presents (inv_of_run hprev) (named_of_run hprev) h hcommits
      · obtain ⟨granted, name, hpresents, hgrants, hname⟩ := ih hu
        exact ⟨granted, name, hpresents.step h,
          (step_tables (inv_of_run hprev) h).1.grants _ _ hgrants, hname⟩

def RegisteredAs (history : List (Step config)) (d : UUID) (name : String) : Prop :=
  ∃ u ∈ history, ∃ y registration rows, CommitsFor y registration rows u ∧
    rows.device.id = d ∧ rows.device.name = name

theorem registered_presents (hrun : Run (service config) (.initial config) history s) {d : UUID}
    (hd : (s.tables.devices.lookup d).isSome) :
    ∃ x y granted name, Presents s x y granted name ∧ HasGrants s.tables d granted ∧
      RegisteredAs history d (strip name) := by
  obtain ⟨u, hu, registration, rows, ⟨action, haction, hcommits⟩, rfl⟩ :=
    (ledger_of_run hrun).registered d hd
  have hfor : CommitsFor (actor action) registration rows u := ⟨action, haction, hcommits⟩
  obtain ⟨granted, name, hpresents, hgrants, hname⟩ := committed_presents hrun hu hfor
  exact ⟨_, _, granted, name, hpresents, hgrants, u, hu, _, registration, rows, hfor, rfl, hname⟩

/-- What has been written for a claim at each phase of it. -/
def Written (history : List (Step config)) (y : Nat) : Phase Digest → Prop
  | .committed registration rows => ∃ known, registration = some known ∧
      ∃ u ∈ history, CommitsFor y known rows u
  | .returned registration credential => ∃ known rows, registration = some known ∧
      (∃ u ∈ history, CommitsFor y known rows u) ∧
      credential = ⟨rows.device, rows.issued.token⟩ ∧
      .claimed y known.record.challenge credential ∈ pairingLog history
  | _ => True

omit [DecidableEq Digest] in
theorem Written.cons {y : Nat} {p : Phase Digest} (h : Written history y p) (u : Step config) :
    Written (u :: history) y p := by
  cases p with
  | uncommitted | raising => trivial
  | committed registration rows =>
      obtain ⟨known, hknown, v, hv, hcommits⟩ := h
      exact ⟨known, hknown, v, List.mem_cons_of_mem u hv, hcommits⟩
  | returned registration credential =>
      obtain ⟨known, rows, hknown, ⟨v, hv, hcommits⟩, hcredential, hclaimed⟩ := h
      exact ⟨known, rows, hknown, ⟨v, List.mem_cons_of_mem u hv, hcommits⟩, hcredential,
        List.mem_append_right _ hclaimed⟩

omit [DecidableEq Digest] in
theorem Written.moves {u : Step config} {action : Pairing.Challenges.Action (sql config.codec)}
    {p q : Phase Digest} (h : Written history (actor action) p)
    (haction : pairingAction u.action = some action)
    (hmoves : Moves ⟨u.source.pairing, action, pairingEvents u.events, u.target.pairing⟩ p q) :
    Written (u :: history) (actor action) q := by
  cases hmoves with
  | prepares | fails | cut | closes | aborts => trivial
  | commits registration rows hcommits =>
      exact ⟨registration, rfl, u, List.mem_cons_self, action, haction, hcommits⟩
  | returns registration rows _ _ hdevice hclaimed =>
      obtain ⟨known, hknown, v, hv, hcommits⟩ := h
      cases hknown
      refine ⟨registration, rows, rfl, ⟨v, List.mem_cons_of_mem u hv, hcommits⟩, ?_, ?_⟩
      · rw [hdevice]
      · exact List.mem_append_left _ hclaimed

theorem written_of_run (hrun : Run (service config) (.initial config) history s) (y : Nat) :
    Written history y (phase (s.pairing.calls y)) := by
  induction hrun with
  | nil => trivial
  | @step history s action events t hprev h ih =>
      rcases pairing_step h with ⟨hsame, -⟩ | ⟨pairingAction', haction, hstep⟩
      · rw [hsame]
        exact ih.cons _
      · have hinv := inv_of_run hprev
        by_cases hy : y = actor pairingAction'
        · subst hy
          exact ih.moves (u := ⟨s, action, events, t⟩) haction
            (step_moves hinv.pairing hinv.staged hstep)
        · rw [Pairing.Contract.step_others hinv.pairing hstep hy]
          exact ih.cons _

/-- A claim that has returned a credential has committed it, and was the one that claimed its
challenge. -/
theorem returned_commits (hrun : Run (service config) (.initial config) history s) {y : Nat}
    {call : ClaimCall Digest (sql config.codec)} {credential : DeviceCredential}
    (hcall : s.pairing.calls y = some (.claim call))
    (hreturned : call.stage = .finished (.ok (some credential))) :
    ∃ registration rows, (∃ u ∈ history, CommitsFor y registration rows u) ∧
      credential = ⟨rows.device, rows.issued.token⟩ ∧
      .claimed y registration.record.challenge credential ∈ pairingLog history := by
  have hwritten := written_of_run hrun y
  obtain ⟨pairingId, secret, name, registration, stage⟩ := call
  obtain rfl : stage = _ := hreturned
  rw [hcall] at hwritten
  obtain ⟨known, rows, -, hcommits, hcredential, hclaimed⟩ := hwritten
  exact ⟨known, rows, hcommits, hcredential, hclaimed⟩

theorem claimed_unique (hrun : Run (service config) (.initial config) history s)
    {x x' c : Nat} {credential credential' : DeviceCredential}
    (h : .claimed x c credential ∈ pairingLog history)
    (h' : .claimed x' c credential' ∈ pairingLog history) : x = x' := by
  rcases Pairing.Contract.exactlyOnce_claims (inv_of_run hrun).pairing.claims c with
    hnone | ⟨newer, e, older, hlog, -, hnewer, holder⟩
  · exact absurd ⟨x, credential, rfl⟩ (hnone _ h)
  · rw [hlog] at h h'
    have only {y : Nat} {given : DeviceCredential}
        (hy : .claimed y c given ∈ newer ++ e :: older) : .claimed y c given = e := by
      rcases List.mem_append.mp hy with hy | hy
      · exact absurd ⟨y, given, rfl⟩ (hnewer _ hy)
      · rcases List.mem_cons.mp hy with hy | hy
        · exact hy
        · exact absurd ⟨y, given, rfl⟩ (holder _ hy)
    exact (Pairing.Challenges.Event.claimed.inj ((only h).trans (only h').symm)).1

end Runs

section Revocations

variable {log : List (Pairing.Challenges.Event Digest)} {history : List (Step config)}
  {s t : State config} {action : Action config} {events : List (Event Digest)}

theorem step_revokes (hinv : Inv log s) (h : Operations.step s action = some (t, events))
    {d : UUID} (hd : Revoked t.tables d) :
    Revoked s.tables d ∨ ∃ x stage, s.calls x = some ⟨.revokeDevice d, stage⟩ := by
  cases step_effect h with
  | pairs _ pairingAction' pairing events _ hstep =>
      refine .inl ?_
      rcases hinv.pairs_store hstep with hsame | ⟨registration, rows, hcommits, hnew⟩
      · rwa [show State.tables { s with pairing } = s.tables from hsame] at hd
      · have hcommit : s.tables.register rows.device rows.issued rows.createdAt =
            some pairing.store := hcommits.committed
        exact (register_revoked_iff hcommit hnew d).mp hd
  | passes | begins | queues | enters | leaves => exact .inl hd
  | closes =>
      rw [State.tables, finish_pairing] at hd
      exact .inl hd
  | proceeds x request stage r inputs _ hproceeds =>
      rw [State.tables, proceeds_pairing hproceeds] at hd
      exact .inl hd
  | performs x request stage stage' tables _ hcall hperforms =>
      have hok := hinv.calls x _ hcall
      cases hperforms with
      | authenticates | gets => exact .inl hd
      | revokes d' device answer _ hanswer =>
          rcases hanswer with rfl | ⟨rfl, -⟩
          · exact .inl hd
          · exact .inl hd
      | saves d' device answer _ hanswer =>
          obtain ⟨rfl, rfl, -⟩ := hok.saving d' device none rfl
          rcases hanswer with hsave | ⟨rfl, -⟩
          · by_cases hid : d = device.id
            · subst hid
              exact .inr ⟨x, _, hcall⟩
            · exact .inl ((save_revoked_iff hsave hid).mp hd)
          · exact .inl hd

theorem revoked_requested (hrun : Run (service config) (.initial config) history s) {d : UUID}
    (hd : Revoked s.tables d) : ∃ x stage, s.calls x = some ⟨.revokeDevice d, stage⟩ := by
  induction hrun with
  | nil =>
      obtain ⟨row, hrow, -⟩ := hd
      cases hrow
  | @step history s action events t hprev h ih =>
      have hinv := inv_of_run hprev
      have hrequested : ∃ x stage, s.calls x = some ⟨.revokeDevice d, stage⟩ := by
        rcases step_revokes hinv h hd with hd | hrequested
        · exact ih hd
        · exact hrequested
      obtain ⟨x, stage, hx⟩ := hrequested
      obtain ⟨stage', hx'⟩ := step_keeps hinv h hx
      exact ⟨x, stage', hx'⟩

end Revocations

end JarvisCore.Service.Provenance
