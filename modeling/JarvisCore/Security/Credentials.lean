import JarvisCore.Domain.Errors
import JarvisCore.Foundation.Text

namespace JarvisCore.Security.Credentials

open JarvisCore.Domain.Values
open JarvisCore.Domain.Errors
open JarvisCore.Foundation.Text

structure IssuedDeviceCredential (Digest : Type) where
  id : UUID
  token : String
  digest : Digest

/-- The keyed digest of a codec, and the character tables of its parser. -/
structure DeviceCredentialCodec (Digest : Type) where
  digest : String → Digest
  classes : CharacterClasses

def tokenPrefix : String := "jv1"

variable {Digest : Type}

namespace DeviceCredentialCodec

/-- `issue`, for the identifier and the secret that the factories yield. -/
def issue (codec : DeviceCredentialCodec Digest) (credentialId : UUID) (tokenSecret : String) :
    Except Raised (IssuedDeviceCredential Digest) :=
  if tokenSecret.length < 16 then .error (.valueError "device token secret is too short")
  else if '.' ∈ tokenSecret.toList then
    .error (.valueError "device token secret cannot contain periods")
  else
    let token := tokenPrefix ++ "." ++ credentialId.text ++ "." ++ tokenSecret
    .ok { id := credentialId, token, digest := codec.digest token }

def matchesDigest [DecidableEq Digest] (codec : DeviceCredentialCodec Digest) (token : String)
    (expected : Digest) : Bool :=
  expected = codec.digest token

/-- `UUID(text)`, which accepts more spellings than the canonical one. -/
def parseUuid (classes : CharacterClasses) (text : List Char) : Option UUID :=
  let bare := removeAll "uuid:".toList 0 (removeAll "urn:".toList 0 text)
  let hex := removeAll "-".toList 0 (stripList (fun c => c = '{' || c = '}') bare)
  if hex.length ≠ 32 then none
  else
    match intBase16 classes hex with
    | some value => if h : 0 ≤ value ∧ value.toNat < 2 ^ 128 then some ⟨value.toNat, h.2⟩ else none
    | none => none

def parseTokenId (codec : DeviceCredentialCodec Digest) (token : String) : Option UUID :=
  if 256 < token.length then none
  else
    match splitOn '.' token.toList with
    | [first, second, third] =>
        if first ≠ tokenPrefix.toList ∨ third = [] then none else parseUuid codec.classes second
    | _ => none

end DeviceCredentialCodec

theorem toList_text (u : UUID) : u.text.toList =
    (hexDigits u.int 32).take 8 ++ '-' :: ((hexDigits u.int 32).drop 8).take 4 ++
      '-' :: ((hexDigits u.int 32).drop 12).take 4 ++
      '-' :: ((hexDigits u.int 32).drop 16).take 4 ++ '-' :: (hexDigits u.int 32).drop 20 := by
  rw [UUID.text, String.toList_ofList]
  rfl

theorem filter_text (u : UUID) : u.text.toList.filter (· ≠ '-') = hexDigits u.int 32 := by
  have hself : ∀ part : List Char, part ⊆ hexDigits u.int 32 → part.filter (· ≠ '-') = part := by
    intro part hpart
    rw [List.filter_eq_self]
    intro c hc
    have hne : c ≠ '-' := fun heq => notMem_hexDigits (by decide) (heq ▸ hpart hc)
    exact decide_eq_true hne
  have htake : ∀ i j, ((hexDigits u.int 32).drop i).take j ⊆ hexDigits u.int 32 := by
    intro i j c hc
    exact List.drop_subset _ _ (List.take_subset _ _ hc)
  have hdash : ∀ l : List Char, ('-' :: l).filter (· ≠ '-') = l.filter (· ≠ '-') := fun _ => rfl
  rw [toList_text]
  simp only [List.filter_append, hdash]
  rw [hself _ (List.take_subset _ _), hself _ (htake _ _), hself _ (htake _ _),
    hself _ (htake _ _), hself _ (List.drop_subset _ _)]
  rfl

theorem notMem_text {u : UUID} {c : Char} (h : c ∈ ['.', 'u', '{', '}']) :
    c ∉ u.text.toList := by
  intro hc
  have hne : c ≠ '-' := by
    rintro rfl
    exact absurd h (by decide)
  have hdigit : c ∈ hexDigits u.int 32 := by
    rw [← filter_text]
    exact List.mem_filter.mpr ⟨hc, decide_eq_true hne⟩
  have hsubset : ['.', 'u', '{', '}'] ⊆ ['_', '+', '-', 'x', 'X', '.', 'u', '{', '}', ' '] := by
    decide
  exact notMem_hexDigits (hsubset h) hdigit

theorem parseUuid_text (classes : CharacterClasses) (u : UUID) :
    DeviceCredentialCodec.parseUuid classes u.text.toList = some u := by
  have hurn : removeAll "urn:".toList 0 u.text.toList = u.text.toList :=
    removeAll_eq_self (notMem_text (by decide))
  have huuid : removeAll "uuid:".toList 0 u.text.toList = u.text.toList :=
    removeAll_eq_self (notMem_text (by decide))
  have hbraces : stripList (fun c => c = '{' || c = '}') u.text.toList = u.text.toList := by
    apply stripList_eq_self
    intro c hc
    have hopen : c ≠ '{' := fun heq => notMem_text (by decide) (heq ▸ hc)
    have hclose : c ≠ '}' := fun heq => notMem_text (by decide) (heq ▸ hc)
    simp [hopen, hclose]
  have hdashes : removeAll "-".toList 0 u.text.toList = hexDigits u.int 32 := by
    rw [← filter_text]
    exact removeAll_singleton '-' _
  have hbound : u.int.val < 16 ^ 32 := lt_of_lt_of_eq u.int.isLt (by decide)
  simp only [DeviceCredentialCodec.parseUuid, hurn, huuid, hbraces, hdashes, length_hexDigits,
    intBase16_hexDigits classes (by decide : 0 < 32) hbound]
  simp

theorem text_injective : Function.Injective UUID.text := by
  intro u v h
  let classes : CharacterClasses := ⟨fun _ => false, fun _ => false, fun _ => none⟩
  have hu := parseUuid_text classes u
  rw [h, parseUuid_text classes v] at hu
  exact (Option.some.inj hu).symm

namespace DeviceCredentialCodec

variable {codec : DeviceCredentialCodec Digest} {credentialId : UUID} {tokenSecret : String}
  {issued : IssuedDeviceCredential Digest}

theorem issue_eq_ok (h : codec.issue credentialId tokenSecret = .ok issued) :
    16 ≤ tokenSecret.length ∧ '.' ∉ tokenSecret.toList ∧ issued.id = credentialId ∧
      issued.token = tokenPrefix ++ "." ++ credentialId.text ++ "." ++ tokenSecret ∧
      issued.digest = codec.digest issued.token := by
  unfold issue at h
  split at h
  · cases h
  rename_i hlong
  split at h
  · cases h
  rename_i hperiod
  cases h
  exact ⟨Nat.le_of_not_lt hlong, hperiod, rfl, rfl, rfl⟩

theorem parseTokenId_of_issue (h : codec.issue credentialId tokenSecret = .ok issued)
    (hlength : issued.token.length ≤ 256) : codec.parseTokenId issued.token = some issued.id := by
  obtain ⟨hlong, hperiod, hid, htoken, -⟩ := issue_eq_ok h
  have hlist : issued.token.toList =
      tokenPrefix.toList ++ '.' :: (credentialId.text.toList ++ '.' :: tokenSecret.toList) := by
    rw [htoken]
    simp [String.toList_append]
  have hsecret : tokenSecret.toList ≠ [] := by
    intro hnil
    have hzero : tokenSecret.length = 0 := by
      rw [← String.length_toList, hnil]
      rfl
    omega
  have hparts : splitOn '.' issued.token.toList =
      [tokenPrefix.toList, credentialId.text.toList, tokenSecret.toList] := by
    rw [hlist, splitOn_append (by decide), splitOn_append (notMem_text (by decide)),
      splitOn_eq_singleton hperiod]
  rw [parseTokenId, if_neg (Nat.not_lt.mpr hlength), hparts]
  simp [hsecret, parseUuid_text, hid]

theorem length_text (u : UUID) : u.text.length = 36 := by
  rw [← String.length_toList, toList_text]
  simp [length_hexDigits]

theorem issue_of_accepted (codec : DeviceCredentialCodec Digest) (credentialId : UUID)
    (hlong : 16 ≤ tokenSecret.length) (hperiod : '.' ∉ tokenSecret.toList) :
    ∃ issued, codec.issue credentialId tokenSecret = .ok issued := by
  unfold issue
  rw [if_neg (Nat.not_lt.mpr hlong), if_neg hperiod]
  exact ⟨_, rfl⟩

theorem length_token (h : codec.issue credentialId tokenSecret = .ok issued) :
    issued.token.length = 41 + tokenSecret.length := by
  obtain ⟨-, -, -, htoken, -⟩ := issue_eq_ok h
  have hprefix : tokenPrefix.length = 3 := rfl
  have hperiod : ".".length = 1 := rfl
  rw [htoken]
  simp only [String.length_append, hprefix, hperiod, length_text]

/-- `parse_token_id` bounds the token, and `issue` does not bound its secret. -/
theorem parseTokenId_of_long (hlong : 256 < issued.token.length) :
    codec.parseTokenId issued.token = none :=
  if_pos hlong

/-- An issued token authenticates its holder if and only if its secret has at most 215
characters. -/
theorem authenticates_iff [DecidableEq Digest] (codec : DeviceCredentialCodec Digest)
    (credentialId : UUID) (tokenSecret : String) (issued : IssuedDeviceCredential Digest)
    (h : codec.issue credentialId tokenSecret = .ok issued) :
    codec.parseTokenId issued.token = some credentialId ∧
        codec.matchesDigest issued.token issued.digest = true ↔ tokenSecret.length ≤ 215 := by
  have hlength := length_token h
  obtain ⟨-, -, hid, -, hdigest⟩ := issue_eq_ok h
  constructor
  · rintro ⟨hparsed, -⟩
    by_contra hlong
    rw [parseTokenId_of_long (by omega)] at hparsed
    cases hparsed
  · intro hshort
    constructor
    · rw [parseTokenId_of_issue h (by omega), hid]
    · simp [matchesDigest, hdigest]

/-- A codec whose tables are restricted to ASCII. -/
def sampleCodec : DeviceCredentialCodec String where
  digest := id
  classes := ⟨Char.isAlpha, Char.isAlphanum, fun _ => none⟩

theorem authenticates_iff_sixteen : ∃ issued,
    sampleCodec.issue ⟨1⟩ "abcdefghijklmnop" = .ok issued ∧
      (sampleCodec.parseTokenId issued.token = some ⟨1⟩ ∧
        sampleCodec.matchesDigest issued.token issued.digest = true ↔
        "abcdefghijklmnop".length ≤ 215) := by
  have hlong : 16 ≤ "abcdefghijklmnop".length := by decide
  have hperiod : '.' ∉ "abcdefghijklmnop".toList := by decide
  obtain ⟨issued, h⟩ := issue_of_accepted sampleCodec ⟨1⟩ hlong hperiod
  exact ⟨issued, h, authenticates_iff sampleCodec ⟨1⟩ _ issued h⟩

/-- A secret of 216 characters is accepted, and its token leads to no credential. -/
theorem long_secret_unparsable : ∃ secret issued, secret.length = 216 ∧
    sampleCodec.issue ⟨1⟩ secret = .ok issued ∧ sampleCodec.parseTokenId issued.token = none := by
  let secret : String := String.ofList (List.replicate 216 'a')
  have hlength : secret.length = 216 := by
    rw [← String.length_toList, String.toList_ofList, List.length_replicate]
  have hperiod : '.' ∉ secret.toList := by
    rw [String.toList_ofList]
    intro hmem
    exact absurd (List.eq_of_mem_replicate hmem) (by decide)
  obtain ⟨issued, h⟩ := issue_of_accepted sampleCodec ⟨1⟩ (by omega) hperiod
  refine ⟨secret, issued, hlength, h, parseTokenId_of_long ?_⟩
  rw [length_token h, hlength]
  decide

end DeviceCredentialCodec

end JarvisCore.Security.Credentials
