import JarvisCore.Foundation.TransitionSystem
import JarvisCore.Security.DeviceTables
import JarvisCore.Security.InMemoryStores

namespace JarvisCore.Security.CredentialHistory

open JarvisCore.Domain.Values
open JarvisCore.Domain.Errors
open JarvisCore.Foundation.Dictionary
open JarvisCore.Foundation.Text
open JarvisCore.Foundation.TransitionSystem
open JarvisCore.Security.Credentials
open JarvisCore.Security.DeviceTables
open JarvisCore.Security.InMemoryStores

structure IdentityStore (Digest : Type) where
  State : Type
  issue : State → UUID → IssuedDeviceCredential Digest → Datetime → Except Raised State
  authenticate : State → String → Option UUID
  revoke : State → UUID → State

/-- The calls of an identity, an `issue` with what the factories and the clock yield. -/
inductive Call
  | issue (deviceId credentialId : UUID) (tokenSecret : String) (clock : Datetime)
  | authenticate (token : String)
  | revoke (deviceId : UUID)

inductive Reply
  | issued (token : String)
  | authenticated (deviceId : Option UUID)
  | revoked
  | raised (error : Raised)

abbrev Taken (State : Type) := Transition State Call Reply

variable {Digest : Type}

def answer (codec : DeviceCredentialCodec Digest) (store : IdentityStore Digest)
    (s : store.State) : Call → store.State × Reply
  | .issue deviceId credentialId tokenSecret clock =>
      match codec.issue credentialId tokenSecret with
      | .error error => (s, .raised error)
      | .ok issued =>
          match store.issue s deviceId issued clock with
          | .error error => (s, .raised error)
          | .ok s' => (s', .issued issued.token)
  | .authenticate token => (s, .authenticated (store.authenticate s token))
  | .revoke deviceId => (store.revoke s deviceId, .revoked)

def identity (codec : DeviceCredentialCodec Digest) (store : IdentityStore Digest)
    (first : store.State) : System store.State Call Reply where
  start := first
  step s call := some ((answer codec store s call).1, [(answer codec store s call).2])

theorem step_cases {codec : DeviceCredentialCodec Digest} {store : IdentityStore Digest}
    {first s s' : store.State} {call : Call} {events : List Reply}
    (hstep : (identity codec store first).step s call = some (s', events)) :
    (∃ d c x k issued, call = .issue d c x k ∧ codec.issue c x = .ok issued ∧
        store.issue s d issued k = .ok s' ∧ events = [.issued issued.token]) ∨
      (∃ d, call = .revoke d ∧ s' = store.revoke s d ∧ events = [.revoked]) ∨
      (s' = s ∧ (∀ d, call ≠ .revoke d) ∧ ∀ token, events ≠ [.issued token]) := by
  cases call with
  | issue d c x k =>
      cases hcodec : codec.issue c x with
      | error error =>
          simp only [identity, answer, hcodec] at hstep
          cases hstep
          exact Or.inr (Or.inr ⟨rfl, by simp, by simp⟩)
      | ok issued =>
          cases hstore : store.issue s d issued k with
          | error error =>
              simp only [identity, answer, hcodec, hstore] at hstep
              cases hstep
              exact Or.inr (Or.inr ⟨rfl, by simp, by simp⟩)
          | ok stored =>
              simp only [identity, answer, hcodec, hstore] at hstep
              cases hstep
              exact Or.inl ⟨d, c, x, k, issued, rfl, hcodec, hstore, rfl⟩
  | authenticate token =>
      cases hstep
      exact Or.inr (Or.inr ⟨rfl, by simp, by simp [answer]⟩)
  | revoke d =>
      cases hstep
      exact Or.inr (Or.inl ⟨d, rfl, rfl, rfl⟩)

section Histories

variable {State : Type}

def Issues (d : UUID) (token : String) (u : Taken State) : Prop :=
  (∃ credentialId tokenSecret clock, u.action = .issue d credentialId tokenSecret clock) ∧
    u.events = [.issued token]

/-- The call ends the life of the credential that the device has had. -/
def Replaces (d : UUID) (u : Taken State) : Prop :=
  (∃ token, Issues d token u) ∨ u.action = .revoke d

/-- The token is that of the latest successful `issue` for the device, and no `revoke` of
the device has happened since. -/
def Holds (d : UUID) (token : String) (history : List (Taken State)) : Prop :=
  Since (Issues d token) (Replaces d) history

def TokensFit (history : List (Taken State)) : Prop :=
  ∀ u ∈ history, ∀ d token, Issues d token u → token.length ≤ 256

theorem holds_cons {d : UUID} {token : String} {u : Taken State} {history : List (Taken State)}
    (h : ¬ Replaces d u) : Holds d token (u :: history) ↔ Holds d token history := by
  constructor
  · rintro (hissues | ⟨-, hholds⟩)
    · exact absurd (Or.inl ⟨token, hissues⟩) h
    · exact hholds
  · intro hholds
    exact Or.inr ⟨h, hholds⟩

theorem holds_of_issues {d : UUID} {token token' : String} {u : Taken State}
    {history : List (Taken State)} (h : Issues d token u) :
    Holds d token' (u :: history) ↔ token' = token := by
  constructor
  · rintro (hissues | ⟨hnot, -⟩)
    · have heq := h.2.symm.trans hissues.2
      cases heq
      rfl
    · exact absurd (Or.inl ⟨token, h⟩) hnot
  · rintro rfl
    exact Or.inl h

theorem not_holds_of_revoke {d : UUID} {token : String} {u : Taken State}
    {history : List (Taken State)} (h : u.action = .revoke d) :
    ¬ Holds d token (u :: history) := by
  rintro (⟨⟨c, x, k, hissue⟩, -⟩ | ⟨hnot, -⟩)
  · rw [h] at hissue
    cases hissue
  · exact hnot (Or.inr h)

theorem Holds.unique {d : UUID} {token token' : String} {history : List (Taken State)}
    (h : Holds d token history) (h' : Holds d token' history) : token' = token := by
  induction history with
  | nil => exact h.elim
  | cons u history ih =>
      rcases h with hissues | ⟨hkeeps, h⟩
      · exact (holds_of_issues hissues).mp h'
      · exact ih h ((holds_cons hkeeps).mp h')

theorem Holds.exists_issues {d : UUID} {token : String} {history : List (Taken State)}
    (h : Holds d token history) : ∃ u ∈ history, Issues d token u := by
  obtain ⟨later, u, earlier, rfl, hu, -⟩ := since_iff.mp h
  exact ⟨u, by simp, hu⟩

end Histories

/-- Rotation: what a store keeps of the credentials, as a partial function from their
identifiers, and how the calls change it. -/
structure Rotation (codec : DeviceCredentialCodec Digest) (store : IdentityStore Digest) where
  Inv : store.State → Prop
  kept : store.State → UUID → Option (UUID × Digest)
  issue_ok : ∀ s d issued clock s', Inv s → store.issue s d issued clock = .ok s' →
    Inv s' ∧ (∀ r, kept s issued.id = some r → r.1 = d) ∧
      ∀ c, kept s' c =
        if c = issued.id then some (d, issued.digest) else (kept s c).filter (·.1 ≠ d)
  revoke_eq : ∀ s d, Inv s → Inv (store.revoke s d) ∧
    ∀ c, kept (store.revoke s d) c = (kept s c).filter (·.1 ≠ d)
  authenticate_eq_some : ∀ s token d, store.authenticate s token = some d ↔
    ∃ c, codec.parseTokenId token = some c ∧ kept s c = some (d, codec.digest token)

namespace Rotation

variable {codec : DeviceCredentialCodec Digest} {store : IdentityStore Digest}
  (R : Rotation codec store)

/-- The store keeps exactly the digests of the tokens that the devices hold. -/
def Reflects (history : List (Taken store.State)) (s : store.State) : Prop :=
  ∀ c d digest, R.kept s c = some (d, digest) ↔
    ∃ token, Holds d token history ∧ codec.parseTokenId token = some c ∧
      digest = codec.digest token

variable {R} {history : List (Taken store.State)} {s : store.State}

theorem Reflects.issue {d : UUID} {issued : IssuedDeviceCredential Digest} {s' : store.State}
    {u : Taken store.State} (h : R.Reflects history s)
    (hparse : codec.parseTokenId issued.token = some issued.id)
    (hdigest : issued.digest = codec.digest issued.token)
    (hfree : ∀ r, R.kept s issued.id = some r → r.1 = d)
    (hkept : ∀ c, R.kept s' c =
      if c = issued.id then some (d, issued.digest) else (R.kept s c).filter (·.1 ≠ d))
    (hissues : Issues d issued.token u) (hothers : ∀ d', d' ≠ d → ¬ Replaces d' u) :
    R.Reflects (u :: history) s' := by
  intro c d' digest
  rw [hkept]
  by_cases hd : d' = d
  · subst hd
    simp only [holds_of_issues hissues]
    split
    · rename_i hc
      subst hc
      simp only [Option.some.injEq, Prod.mk.injEq, true_and]
      constructor
      · rintro rfl
        exact ⟨_, rfl, hparse, hdigest⟩
      · rintro ⟨_, rfl, -, rfl⟩
        exact hdigest
    · rename_i hc
      constructor
      · intro hfilter
        obtain ⟨-, hne⟩ := Option.filter_eq_some_iff.mp hfilter
        simp at hne
      · rintro ⟨_, rfl, hparse', -⟩
        rw [hparse] at hparse'
        exact absurd (Option.some.inj hparse').symm hc
  · simp only [holds_cons (hothers d' hd)]
    rw [← h c d' digest]
    split
    · rename_i hc
      subst hc
      constructor
      · intro heq
        cases heq
        exact absurd rfl hd
      · intro hsome
        exact absurd (hfree _ hsome) hd
    · rw [Option.filter_eq_some_iff]
      simp [hd]

theorem Reflects.revoke {d : UUID} {s' : store.State} {u : Taken store.State}
    (h : R.Reflects history s)
    (hkept : ∀ c, R.kept s' c = (R.kept s c).filter (·.1 ≠ d)) (hu : u.action = .revoke d) :
    R.Reflects (u :: history) s' := by
  intro c d' digest
  rw [hkept, Option.filter_eq_some_iff]
  by_cases hd : d' = d
  · subst hd
    simp [not_holds_of_revoke hu]
  · have hkeeps : ¬ Replaces d' u := by
      rintro (⟨_, ⟨_, _, _, hissue⟩, -⟩ | hrevoke)
      · rw [hu] at hissue
        cases hissue
      · rw [hu] at hrevoke
        cases hrevoke
        exact hd rfl
    simp only [holds_cons hkeeps]
    rw [← h c d' digest]
    simp [hd]

theorem Reflects.of_not_replaces {u : Taken store.State} (h : R.Reflects history s)
    (hu : ∀ d, ¬ Replaces d u) : R.Reflects (u :: history) s := by
  intro c d digest
  simp only [holds_cons (hu d)]
  exact h c d digest

theorem Reflects.step {first s' : store.State} {events : List Reply} {call : Call}
    (hinv : R.Inv s) (h : R.Reflects history s)
    (hstep : (identity codec store first).step s call = some (s', events))
    (hfits : ∀ d token, Issues d token (⟨s, call, events, s'⟩ : Taken store.State) →
      token.length ≤ 256) :
    R.Inv s' ∧ R.Reflects (⟨s, call, events, s'⟩ :: history) s' := by
  rcases step_cases hstep with ⟨d, c, x, k, issued, rfl, hcodec, hstore, rfl⟩ |
    ⟨d, rfl, rfl, rfl⟩ | ⟨rfl, hrevoke, hissued⟩
  · obtain ⟨hinv', hfree, hkept⟩ := R.issue_ok s d issued k s' hinv hstore
    have hissues : Issues d issued.token
        (⟨s, .issue d c x k, [.issued issued.token], s'⟩ : Taken store.State) :=
      ⟨⟨c, x, k, rfl⟩, rfl⟩
    have hparse := DeviceCredentialCodec.parseTokenId_of_issue hcodec (hfits d _ hissues)
    obtain ⟨-, -, -, -, hdigest⟩ := DeviceCredentialCodec.issue_eq_ok hcodec
    refine ⟨hinv', h.issue hparse hdigest hfree hkept hissues ?_⟩
    rintro d' hd (⟨_, ⟨_, _, _, heq⟩, -⟩ | heq)
    · cases heq
      exact hd rfl
    · cases heq
  · obtain ⟨hinv', hkept⟩ := R.revoke_eq s d hinv
    exact ⟨hinv', h.revoke hkept rfl⟩
  · refine ⟨hinv, h.of_not_replaces ?_⟩
    rintro d (⟨token, -, hevents⟩ | hcall)
    · exact hissued token hevents
    · exact hrevoke d hcall

theorem reflects_of_run {first : store.State} (hinv : R.Inv first)
    (hempty : ∀ c, R.kept first c = none)
    (hrun : Run (identity codec store first) first history s) (hfits : TokensFit history) :
    R.Inv s ∧ R.Reflects history s := by
  induction hrun with
  | nil =>
      refine ⟨hinv, ?_⟩
      intro c d digest
      rw [hempty]
      simp [Holds, Since]
  | step call events s' _ hstep ih =>
      obtain ⟨hinv, hreflects⟩ := ih fun u hu => hfits u (List.mem_cons_of_mem _ hu)
      exact hreflects.step hinv hstep (hfits _ List.mem_cons_self)

end Rotation

/-- `InMemoryDeviceIdentity`. -/
def inMemoryIdentity [DecidableEq Digest] (codec : DeviceCredentialCodec Digest) :
    IdentityStore Digest where
  State := Stores Digest
  issue stores deviceId issued _ := stores.issue deviceId issued
  authenticate := Stores.authenticate codec
  revoke := Stores.revoke

/-- `SqlAlchemyDeviceIdentity`. -/
def sqlIdentity [DecidableEq Digest] (codec : DeviceCredentialCodec Digest) :
    IdentityStore Digest where
  State := Tables Digest
  issue := Tables.issue
  authenticate := Tables.authenticate codec
  revoke := Tables.revoke

/-- Every credential is listed for its device, and a device lists no more than one. -/
structure Consistent (stores : Stores Digest) : Prop where
  listed : ∀ c r, stores.credentials.lookup c = some r →
    stores.deviceTokens.lookup r.deviceId = some [c]
  single : ∀ d tokens, stores.deviceTokens.lookup d = some tokens →
    ∃ c r, tokens = [c] ∧ stores.credentials.lookup c = some r ∧ r.deviceId = d

namespace Consistent

variable {stores stores' : Stores Digest}

theorem mem_iff (h : Consistent stores) {d c : UUID} {r : CredentialRecord Digest}
    (hr : stores.credentials.lookup c = some r) :
    c ∈ (stores.deviceTokens.lookup d).getD [] ↔ r.deviceId = d := by
  constructor
  · intro hc
    cases htokens : stores.deviceTokens.lookup d with
    | none => simp [htokens] at hc
    | some tokens =>
        obtain ⟨c', r', rfl, hr', rfl⟩ := h.single d tokens htokens
        obtain rfl : c = c' := by simpa [htokens] using hc
        rw [hr] at hr'
        cases hr'
        rfl
  · rintro rfl
    rw [h.listed c r hr]
    exact List.mem_singleton_self c

theorem lookup_revoke (h : Consistent stores) (d c : UUID) :
    (stores.revoke d).credentials.lookup c =
      (stores.credentials.lookup c).filter (fun r => r.deviceId ≠ d) := by
  apply Option.ext
  intro r
  rw [Option.filter_eq_some_iff]
  show (Dict.filter _ _).lookup c = some r ↔ _
  rw [Dict.lookup_filter_eq_some_iff]
  refine and_congr_right fun hr => ?_
  rw [decide_eq_true_iff, decide_eq_true_iff, h.mem_iff hr]

theorem revoke (h : Consistent stores) (d : UUID) : Consistent (stores.revoke d) := by
  constructor
  · intro c r hr
    rw [h.lookup_revoke, Option.filter_eq_some_iff] at hr
    obtain ⟨hr, hne⟩ := hr
    show (stores.deviceTokens.erase d).lookup r.deviceId = some [c]
    rw [Dict.lookup_erase_eq, if_neg (of_decide_eq_true hne)]
    exact h.listed c r hr
  · intro d' tokens htokens
    have herase : (stores.deviceTokens.erase d).lookup d' = some tokens := htokens
    rw [Dict.lookup_erase_eq] at herase
    split at herase
    · cases herase
    rename_i hd
    obtain ⟨c, r, rfl, hr, rfl⟩ := h.single d' tokens herase
    refine ⟨c, r, rfl, ?_, rfl⟩
    rw [h.lookup_revoke, hr]
    simp [hd]

theorem issue (h : Consistent stores) {d : UUID} {issued : IssuedDeviceCredential Digest}
    (hissue : stores.issue d issued = .ok stores') :
    Consistent stores' ∧ stores.credentials.lookup issued.id = none ∧
      ∀ c, stores'.credentials.lookup c =
        if c = issued.id then some ⟨d, issued.digest⟩
        else (stores.credentials.lookup c).filter (fun r => r.deviceId ≠ d) := by
  unfold Stores.issue at hissue
  split at hissue
  · cases hissue
  rename_i hfree
  rw [Option.not_isSome_iff_eq_none] at hfree
  cases hissue
  have hrotated := h.revoke d
  have hlookup : ∀ c, ((stores.revoke d).credentials.insert issued.id ⟨d, issued.digest⟩).lookup c =
      if c = issued.id then some ⟨d, issued.digest⟩
      else (stores.credentials.lookup c).filter (fun r => r.deviceId ≠ d) := by
    intro c
    rw [Dict.lookup_insert_eq, h.lookup_revoke]
  have htokens : ∀ d', ((stores.revoke d).deviceTokens.insert d [issued.id]).lookup d' =
      if d' = d then some [issued.id] else (stores.revoke d).deviceTokens.lookup d' := by
    intro d'
    rw [Dict.lookup_insert_eq]
  refine ⟨⟨?_, ?_⟩, hfree, hlookup⟩
  · intro c r hr
    show ((stores.revoke d).deviceTokens.insert d [issued.id]).lookup r.deviceId = some [c]
    have hr' := (hlookup c).symm.trans hr
    rw [htokens]
    split at hr'
    · rename_i hc
      cases hr'
      rw [if_pos rfl, hc]
    · obtain ⟨hr', hne⟩ := Option.filter_eq_some_iff.mp hr'
      rw [if_neg (of_decide_eq_true hne)]
      apply hrotated.listed c r
      rw [h.lookup_revoke]
      exact Option.filter_eq_some_iff.mpr ⟨hr', hne⟩
  · intro d' tokens hd'
    have hd'' := (htokens d').symm.trans hd'
    split at hd''
    · rename_i hd
      cases hd''
      exact ⟨issued.id, ⟨d, issued.digest⟩, rfl, (hlookup _).trans (if_pos rfl), hd.symm⟩
    · obtain ⟨c, r, rfl, hr, hrd⟩ := hrotated.single d' tokens hd''
      refine ⟨c, r, rfl, ?_, hrd⟩
      have hne : c ≠ issued.id := by
        rintro rfl
        rw [h.lookup_revoke, hfree] at hr
        cases hr
      rw [h.lookup_revoke] at hr
      exact (hlookup c).trans ((if_neg hne).trans hr)

end Consistent

section Kept

def keptRecords (stores : Stores Digest) (c : UUID) : Option (UUID × Digest) :=
  (stores.credentials.lookup c).map fun r => (r.deviceId, r.digest)

def keptRows (tables : Tables Digest) (c : UUID) : Option (UUID × Digest) :=
  (tables.credentials.lookup c).map fun r => (r.deviceId, r.tokenDigest)

theorem filter_records (d : UUID) (found : Option (CredentialRecord Digest)) :
    (found.filter fun r => r.deviceId ≠ d).map (fun r => (r.deviceId, r.digest)) =
      (found.map fun r => (r.deviceId, r.digest)).filter (·.1 ≠ d) := by
  rw [Option.filter_map]
  rfl

theorem filter_rows (d : UUID) (found : Option (CredentialRow Digest)) :
    (found.filter fun r => r.deviceId ≠ d).map (fun r => (r.deviceId, r.tokenDigest)) =
      (found.map fun r => (r.deviceId, r.tokenDigest)).filter (·.1 ≠ d) := by
  rw [Option.filter_map]
  rfl

theorem keptRecords_issue {stores stores' : Stores Digest} (h : Consistent stores) {d : UUID}
    {issued : IssuedDeviceCredential Digest} (hissue : stores.issue d issued = .ok stores') :
    Consistent stores' ∧ (∀ r, keptRecords stores issued.id = some r → r.1 = d) ∧
      ∀ c, keptRecords stores' c =
        if c = issued.id then some (d, issued.digest) else (keptRecords stores c).filter (·.1 ≠ d) := by
  obtain ⟨hconsistent, hfree, hlookup⟩ := h.issue hissue
  refine ⟨hconsistent, by simp [keptRecords, hfree], ?_⟩
  intro c
  rw [keptRecords, hlookup]
  split
  · rfl
  · exact filter_records d _

theorem keptRows_issue {tables tables' : Tables Digest} {d : UUID}
    {issued : IssuedDeviceCredential Digest} {clock : Datetime}
    (hissue : tables.issue d issued clock = .ok tables') :
    (∀ r, keptRows tables issued.id = some r → r.1 = d) ∧
      ∀ c, keptRows tables' c =
        if c = issued.id then some (d, issued.digest) else (keptRows tables c).filter (·.1 ≠ d) := by
  obtain ⟨-, hfree, createdAt, hlookup⟩ := Tables.issue_eq_ok hissue
  constructor
  · intro r hr
    obtain ⟨row, hrow, rfl⟩ := Option.map_eq_some_iff.mp hr
    exact hfree row hrow
  · intro c
    rw [keptRows, hlookup]
    split
    · rfl
    · exact filter_rows d _

variable [DecidableEq Digest] (codec : DeviceCredentialCodec Digest)

def inMemoryRotation : Rotation codec (inMemoryIdentity codec) where
  Inv := Consistent
  kept := keptRecords
  issue_ok _ _ _ _ _ hinv hissue := keptRecords_issue hinv hissue
  revoke_eq stores d hinv := by
    refine ⟨Consistent.revoke hinv d, ?_⟩
    intro c
    exact (congrArg _ (Consistent.lookup_revoke hinv d c)).trans (filter_records d _)
  authenticate_eq_some _ _ _ := Stores.authenticate_eq_some codec

def sqlRotation : Rotation codec (sqlIdentity codec) where
  Inv _ := True
  kept := keptRows
  issue_ok _ _ _ _ _ _ hissue := ⟨trivial, keptRows_issue hissue⟩
  revoke_eq tables d _ := by
    refine ⟨trivial, ?_⟩
    intro c
    exact (congrArg _ (Tables.revoke_lookup tables d c)).trans (filter_rows d _)
  authenticate_eq_some _ _ _ := Tables.authenticate_eq_some codec

end Kept

/-- The token that `issue` makes of an identifier and a secret. -/
def tokenOf (credentialId : UUID) (tokenSecret : String) : String :=
  tokenPrefix ++ "." ++ credentialId.text ++ "." ++ tokenSecret

/-- The semantics of a credential store after a history of calls. -/
structure Semantics {State : Type} (history : List (Taken State))
    (authenticate : String → Option UUID) : Prop where
  authenticates : ∀ token d, authenticate token = some d ↔ Holds d token history
  refuses : ∀ token, authenticate token = none ↔ ∀ d, ¬ Holds d token history
  bound : ∀ token d d', Holds d token history → Holds d' token history → d = d'
  rotated : ∀ d token earlier, Holds d token history → (∃ u ∈ history, Issues d earlier u) →
    earlier ≠ token → authenticate earlier ≠ some d
  /-- The identifier of one credential with the secret of another. -/
  spliced : ∀ d d' id id' secret secret', Holds d (tokenOf id secret) history →
    Holds d' (tokenOf id' secret') history → secret ≠ secret' →
    authenticate (tokenOf id secret') = none
  /-- Only the canonical spelling of an identifier authenticates. -/
  spelled : ∀ token d, authenticate token = some d →
    ∃ credentialId tokenSecret clock, token = tokenOf credentialId tokenSecret ∧
      ∃ u ∈ history, u.action = .issue d credentialId tokenSecret clock
  failed : ∀ u ∈ history, ∀ error, u.events = [.raised error] → u.target = u.source

section Semantics

variable {codec : DeviceCredentialCodec Digest} {store : IdentityStore Digest}
  {first s : store.State} {history : List (Taken store.State)}

theorem exists_issue_eq_ok (hrun : Run (identity codec store first) first history s)
    {d : UUID} {token : String} (hholds : Holds d token history) :
    ∃ u ∈ history, Issues d token u ∧ ∃ c x k issued, u.action = .issue d c x k ∧
      codec.issue c x = .ok issued ∧ issued.token = token := by
  obtain ⟨u, hu, hissues⟩ := hholds.exists_issues
  obtain ⟨-, -, -, -, hfired, -⟩ := hrun.exists_of_mem hu
  refine ⟨u, hu, hissues, ?_⟩
  obtain ⟨⟨c, x, k, haction⟩, hevents⟩ := hissues
  rcases step_cases hfired with ⟨d', c', x', k', issued, hcall, hcodec, -, hissued⟩ |
    ⟨_, -, -, hrevoked⟩ | ⟨-, -, hnone⟩
  · rw [hevents] at hissued
    cases hissued
    rw [haction] at hcall
    cases hcall
    exact ⟨c, x, k, issued, haction, hcodec, rfl⟩
  · rw [hevents] at hrevoked
    cases hrevoked
  · exact absurd hevents (hnone token)

theorem target_of_raised (hrun : Run (identity codec store first) first history s)
    {u : Taken store.State} (hu : u ∈ history) {error : Raised}
    (hraised : u.events = [.raised error]) : u.target = u.source := by
  obtain ⟨-, -, -, -, hfired, -⟩ := hrun.exists_of_mem hu
  rcases step_cases hfired with ⟨_, _, _, _, _, -, -, -, hevents⟩ | ⟨_, -, -, hevents⟩ | ⟨hsame, -⟩
  · rw [hraised] at hevents
    cases hevents
  · rw [hraised] at hevents
    cases hevents
  · exact hsame

theorem parseTokenId_of_holds (hrun : Run (identity codec store first) first history s)
    (hfits : TokensFit history) {d : UUID} {token : String} (hholds : Holds d token history) :
    ∃ c, codec.parseTokenId token = some c := by
  obtain ⟨u, hu, hissues, c, x, k, issued, -, hcodec, rfl⟩ := exists_issue_eq_ok hrun hholds
  exact ⟨_, DeviceCredentialCodec.parseTokenId_of_issue hcodec (hfits u hu d _ hissues)⟩

theorem eq_of_parseTokenId_tokenOf {c credentialId : UUID} {tokenSecret : String}
    (h : codec.parseTokenId (tokenOf credentialId tokenSecret) = some c) : c = credentialId := by
  have hlist : (tokenOf credentialId tokenSecret).toList =
      tokenPrefix.toList ++ '.' :: (credentialId.text.toList ++ '.' :: tokenSecret.toList) := by
    simp [tokenOf, String.toList_append]
  have hsplit : splitOn '.' (tokenOf credentialId tokenSecret).toList =
      tokenPrefix.toList :: credentialId.text.toList :: splitOn '.' tokenSecret.toList := by
    rw [hlist, splitOn_append (by decide), splitOn_append (notMem_text (by decide))]
  unfold DeviceCredentialCodec.parseTokenId at h
  split at h
  · cases h
  split at h
  · rename_i first second third hparts
    rw [hsplit] at hparts
    obtain ⟨-, hsecond, -⟩ := List.cons.inj hparts |>.imp id List.cons.inj
    rw [← hsecond, parseUuid_text] at h
    split at h
    · cases h
    · exact (Option.some.inj h).symm
  · cases h

theorem tokenOf_inj {credentialId : UUID} {secret secret' : String}
    (h : tokenOf credentialId secret = tokenOf credentialId secret') : secret = secret' := by
  have hlist := congrArg String.toList h
  simp only [tokenOf, String.toList_append] at hlist
  exact String.toList_inj.mp (List.append_cancel_left hlist)

theorem Rotation.semantics (R : Rotation codec store) (hinjective : codec.digest.Injective)
    (hreflects : R.Reflects history s) (hfits : TokensFit history)
    (hrun : Run (identity codec store first) first history s) :
    Semantics history (store.authenticate s) := by
  have hkept : ∀ token d, Holds d token history → ∃ c, codec.parseTokenId token = some c ∧
      R.kept s c = some (d, codec.digest token) := by
    intro token d hholds
    obtain ⟨c, hparse⟩ := parseTokenId_of_holds hrun hfits hholds
    exact ⟨c, hparse, (hreflects c d _).mpr ⟨token, hholds, hparse, rfl⟩⟩
  have hauthenticates : ∀ token d, store.authenticate s token = some d ↔ Holds d token history := by
    intro token d
    rw [R.authenticate_eq_some]
    constructor
    · rintro ⟨c, -, hsome⟩
      obtain ⟨token', hholds, -, hdigest⟩ := (hreflects c d _).mp hsome
      rwa [hinjective hdigest]
    · exact hkept token d
  refine ⟨hauthenticates, ?_, ?_, ?_, ?_, ?_, ?_⟩
  · intro token
    rw [Option.eq_none_iff_forall_ne_some]
    simp only [ne_eq, hauthenticates]
  · intro token d d' hd hd'
    rw [← hauthenticates] at hd hd'
    rw [hd] at hd'
    exact Option.some.inj hd'
  · intro d token earlier hholds _ hne hearlier
    rw [hauthenticates] at hearlier
    exact hne (hholds.unique hearlier)
  · intro d d' id id' secret secret' hd hd' hne
    rw [Option.eq_none_iff_forall_ne_some]
    intro d'' hsome
    obtain ⟨c, hparse, hc⟩ := hkept _ _ hd
    obtain ⟨c', hparse', hc'⟩ := hkept _ _ ((hauthenticates _ _).mp hsome)
    obtain rfl := eq_of_parseTokenId_tokenOf hparse
    obtain rfl := eq_of_parseTokenId_tokenOf hparse'
    have hdigests := congrArg Prod.snd (Option.some.inj (hc.symm.trans hc'))
    exact hne (tokenOf_inj (hinjective hdigests))
  · intro token d hsome
    rw [hauthenticates] at hsome
    obtain ⟨u, hu, -, c, x, k, issued, haction, hcodec, rfl⟩ := exists_issue_eq_ok hrun hsome
    obtain ⟨-, -, -, htoken, -⟩ := DeviceCredentialCodec.issue_eq_ok hcodec
    exact ⟨c, x, k, htoken, u, hu, haction⟩
  · intro u hu error hraised
    exact target_of_raised hrun hu hraised

end Semantics

theorem credential_store_semantics [DecidableEq Digest] (codec : DeviceCredentialCodec Digest)
    (hinjective : codec.digest.Injective) :
    (∀ devices history (stores : Stores Digest),
      Run (identity codec (inMemoryIdentity codec) ⟨devices, ∅, ∅⟩) ⟨devices, ∅, ∅⟩ history stores →
        TokensFit history →
          Semantics history (stores.authenticate codec) ∧ Consistent stores) ∧
    ∀ devices history (tables : Tables Digest),
      Run (identity codec (sqlIdentity codec) ⟨devices, ∅⟩) ⟨devices, ∅⟩ history tables →
        TokensFit history → Semantics history (tables.authenticate codec) := by
  constructor
  · intro devices history stores hrun hfits
    have hfirst : Consistent (⟨devices, ∅, ∅⟩ : Stores Digest) := ⟨nofun, nofun⟩
    obtain ⟨hconsistent, hreflects⟩ :=
      (inMemoryRotation codec).reflects_of_run hfirst (fun _ => rfl) hrun hfits
    exact ⟨(inMemoryRotation codec).semantics hinjective hreflects hfits hrun, hconsistent⟩
  · intro devices history tables hrun hfits
    obtain ⟨-, hreflects⟩ :=
      (sqlRotation codec).reflects_of_run trivial (fun _ => rfl) hrun hfits
    exact (sqlRotation codec).semantics hinjective hreflects hfits hrun

section Sample

open DeviceCredentialCodec (sampleCodec)

/-- Device 1 is issued a credential, and another one that replaces it. -/
def sampleCalls : List Call :=
  [.issue ⟨1⟩ ⟨3⟩ "aaaaaaaaaaaaaaaa" ⟨0, some 0⟩,
    .issue ⟨1⟩ ⟨4⟩ "bbbbbbbbbbbbbbbb" ⟨0, some 0⟩]

def sampleTables : Tables String :=
  ⟨(∅ : Dict UUID DeviceRow).insert ⟨1⟩ ⟨"lamp", [], ⟨0, 0⟩, none⟩, ∅⟩

def fit {State : Type} (history : List (Taken State)) : Bool :=
  history.all fun u => u.events.all fun reply =>
    match reply with
    | .issued token => token.length ≤ 256
    | _ => true

theorem tokensFit_of_fit {State : Type} {history : List (Taken State)} (h : fit history = true) :
    TokensFit history := by
  intro u hu d token hissues
  have hall := List.all_eq_true.mp h u hu
  rw [hissues.2] at hall
  simpa using hall

theorem credential_store_semantics_sample :
    (∃ history stores, Run (identity sampleCodec (inMemoryIdentity sampleCodec) Stores.empty)
        Stores.empty history stores ∧
      stores.authenticate sampleCodec (tokenOf ⟨4⟩ "bbbbbbbbbbbbbbbb") =
        some ⟨1⟩ ∧
      Semantics history (stores.authenticate sampleCodec) ∧ Consistent stores) ∧
    ∃ history tables, Run (identity sampleCodec (sqlIdentity sampleCodec) sampleTables)
        sampleTables history tables ∧
      tables.authenticate sampleCodec (tokenOf ⟨4⟩ "bbbbbbbbbbbbbbbb") =
        some ⟨1⟩ ∧
      Semantics history (tables.authenticate sampleCodec) := by
  constructor
  · obtain ⟨history, stores, hrun, htest⟩ := exists_run_of_replay
      (S := identity sampleCodec (inMemoryIdentity sampleCodec) Stores.empty)
      (s := (Stores.empty : Stores String)) sampleCalls
      (fun history stores => fit history && decide (Stores.authenticate sampleCodec stores
        (tokenOf ⟨4⟩ "bbbbbbbbbbbbbbbb") = some ⟨1⟩)) (by decide)
    obtain ⟨hfit, hauthenticates⟩ := Bool.and_eq_true_iff.mp htest
    exact ⟨history, stores, hrun, of_decide_eq_true hauthenticates,
      (credential_store_semantics sampleCodec Function.injective_id).1 ∅ history stores hrun
        (tokensFit_of_fit hfit)⟩
  · obtain ⟨history, tables, hrun, htest⟩ := exists_run_of_replay
      (S := identity sampleCodec (sqlIdentity sampleCodec) sampleTables) (s := sampleTables) sampleCalls
      (fun history tables => fit history && decide (Tables.authenticate sampleCodec tables
        (tokenOf ⟨4⟩ "bbbbbbbbbbbbbbbb") = some ⟨1⟩)) (by decide)
    obtain ⟨hfit, hauthenticates⟩ := Bool.and_eq_true_iff.mp htest
    exact ⟨history, tables, hrun, of_decide_eq_true hauthenticates,
      (credential_store_semantics sampleCodec Function.injective_id).2 _ history tables hrun
        (tokensFit_of_fit hfit)⟩

end Sample

end JarvisCore.Security.CredentialHistory
