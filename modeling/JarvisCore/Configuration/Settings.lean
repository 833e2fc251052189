import Mathlib.Data.Finset.Card
import Mathlib.Data.List.Infix
import JarvisCore.Foundation.Url

/-!
`Settings`, as far as the startup check and the request guards read it, and
`validate_runtime_settings`.
-/

namespace JarvisCore.Configuration.Settings

open JarvisCore.Foundation.Text
open JarvisCore.Foundation.Url

inductive Environment
  | development
  | test
  | staging
  | production
  deriving DecidableEq

/-- A `SecretStr` is the text it hides. -/
structure Settings where
  environment : Environment
  trustedHosts : List String
  databaseUrl : String
  aiProvider : String
  geminiApiKey : Option String
  ownerToken : Option String
  deviceAdminToken : Option String
  deviceCredentialDigestKey : Option String
  corsOrigins : List String

def placeholderSecrets : List String :=
  ["change-me", "replace-me", "replace-with-a-random-secret"]

structure ProductionConfigurationError where
  message : String
  deriving DecidableEq

def secretValue : Option String → String
  | some secret => strip secret
  | none => ""

def isAscii (value : String) : Bool := value.toList.all fun c => c.toNat < 128

variable (tables : CaseTables)

def casefold (value : String) : String := String.ofList (tables.casefold value.toList)

def isConfiguredValue (value : String) : Bool :=
  value ≠ "" && casefold tables value ∉ placeholderSecrets

def isStrongSecret (value : String) : Bool :=
  32 ≤ value.utf8ByteSize && isConfiguredValue tables value

def isStrongBearerSecret (value : String) : Bool :=
  32 ≤ value.length && isAscii value && isConfiguredValue tables value

def isSecureExactOrigin (value : String) : Bool :=
  match urlsplit tables (strip value).toList with
  | none => false
  | some parsed =>
      parsed.scheme = "https".toList && (parsed.hostname tables).isSome &&
        '*' ∉ (parsed.hostname tables).getD [] && parsed.username = none &&
        parsed.password = none && parsed.path.isEmpty && parsed.query.isEmpty &&
        parsed.fragment.isEmpty

def isExplicitHost (host : String) : Bool :=
  strip host ≠ "" && strip host ≠ "*" && !decide ("://".toList <:+: host.toList) &&
    '/' ∉ host.toList

/-- The split database URL, unless it is invalid, and the password in it. -/
def databaseUrl (settings : Settings) : Option SplitResult × String :=
  match urlsplit tables settings.databaseUrl.toList with
  | none => (none, "")
  | some url => (some url, String.ofList (unquote (url.password.getD [])))

def ownerToken (settings : Settings) : String := secretValue settings.ownerToken

def adminToken (settings : Settings) : String := secretValue settings.deviceAdminToken

def digestKey (settings : Settings) : String := secretValue settings.deviceCredentialDigestKey

def geminiApiKey (settings : Settings) : String := strip (settings.geminiApiKey.getD "")

def databasePassword (settings : Settings) : String := (databaseUrl tables settings).2

def isSafeDatabaseUrl (settings : Settings) : Bool :=
  match (databaseUrl tables settings).1 with
  | none => false
  | some url =>
      url.scheme = "postgresql+asyncpg".toList && url.username.getD [] ≠ [] &&
        (url.hostname tables).isSome && !(stripList (· = '/') url.path).isEmpty &&
        isStrongSecret tables (databasePassword tables settings)

def configuredCredentials (settings : Settings) : List String :=
  [ownerToken settings, adminToken settings, digestKey settings,
    databasePassword tables settings, geminiApiKey settings]

/-- The test behind "all production credentials and secret keys must differ". -/
def credentialsClash (credentials : List String) : Bool :=
  credentials.all (· ≠ "") && credentials.toFinset.card ≠ credentials.length

def problemUnless (ok : Bool) (problem : String) : List String :=
  if ok then [] else [problem]

def bearerProblems (variableName value : String) : List String :=
  problemUnless (isStrongBearerSecret tables value)
    (variableName ++ " must contain at least 32 ASCII characters")

def problems (settings : Settings) : List String :=
  bearerProblems tables "JARVIS_OWNER_TOKEN" (ownerToken settings) ++
  bearerProblems tables "JARVIS_DEVICE_ADMIN_TOKEN" (adminToken settings) ++
  problemUnless (isStrongSecret tables (digestKey settings))
    "JARVIS_DEVICE_CREDENTIAL_DIGEST_KEY must contain at least 32 bytes" ++
  problemUnless
    (casefold tables (strip settings.aiProvider) ≠ "gemini" ||
      isConfiguredValue tables (geminiApiKey settings))
    "JARVIS_GEMINI_API_KEY must be configured for Gemini" ++
  problemUnless (isSafeDatabaseUrl tables settings)
    "JARVIS_DATABASE_URL must use PostgreSQL/asyncpg with non-default credentials" ++
  problemUnless (!credentialsClash (configuredCredentials tables settings))
    "all production credentials and secret keys must differ" ++
  problemUnless (!settings.trustedHosts.isEmpty && settings.trustedHosts.all isExplicitHost)
    "JARVIS_TRUSTED_HOSTS must explicitly list allowed hosts" ++
  problemUnless (settings.corsOrigins.all (isSecureExactOrigin tables))
    "JARVIS_CORS_ORIGINS must contain only exact HTTPS origins"

def validateRuntimeSettings (settings : Settings) : Except ProductionConfigurationError Unit :=
  if settings.environment ≠ .production then .ok ()
  else if problems tables settings = [] then .ok ()
  else
    .error ⟨"Unsafe production configuration: " ++
      "; ".intercalate (problems tables settings) ++ "."⟩

theorem problemUnless_eq_nil {ok : Bool} {problem : String} :
    problemUnless ok problem = [] ↔ ok = true := by
  cases ok <;> simp [problemUnless]

/-- What the acceptance of production settings says of their credentials. -/
structure AcceptedCredentials (settings : Settings) : Prop where
  owner : isStrongBearerSecret tables (ownerToken settings) = true
  admin : isStrongBearerSecret tables (adminToken settings) = true
  digest : isStrongSecret tables (digestKey settings) = true
  password : isStrongSecret tables (databasePassword tables settings) = true
  distinct : credentialsClash (configuredCredentials tables settings) = false

theorem accepted_credentials {tables : CaseTables} {settings : Settings}
    (hproduction : settings.environment = .production)
    (haccepted : validateRuntimeSettings tables settings = .ok ()) :
    AcceptedCredentials tables settings := by
  have hproblems : problems tables settings = [] := by
    unfold validateRuntimeSettings at haccepted
    rw [if_neg (not_not.mpr hproduction)] at haccepted
    split at haccepted
    · rename_i hnone
      exact hnone
    · cases haccepted
  simp only [problems, bearerProblems, List.append_eq_nil_iff, problemUnless_eq_nil] at hproblems
  obtain ⟨⟨⟨⟨⟨⟨⟨howner, hadmin⟩, hdigest⟩, -⟩, hdatabase⟩, hdistinct⟩, -⟩, -⟩ := hproblems
  refine ⟨howner, hadmin, hdigest, ?_, by simpa using hdistinct⟩
  unfold isSafeDatabaseUrl at hdatabase
  split at hdatabase
  · cases hdatabase
  · simp only [Bool.and_eq_true] at hdatabase
    exact hdatabase.2

theorem ne_empty_of_configured {tables : CaseTables} {value : String}
    (h : isConfiguredValue tables value = true) : value ≠ "" := by
  have hnonempty := (Bool.and_eq_true_iff.mp h).1
  exact of_decide_eq_true hnonempty

theorem ne_empty_of_strong {tables : CaseTables} {value : String}
    (h : isStrongSecret tables value = true) : value ≠ "" :=
  ne_empty_of_configured (Bool.and_eq_true_iff.mp h).2

theorem ne_empty_of_strongBearer {tables : CaseTables} {value : String}
    (h : isStrongBearerSecret tables value = true) : value ≠ "" :=
  ne_empty_of_configured (Bool.and_eq_true_iff.mp h).2

theorem credentialsClash_eq_false {credentials : List String} :
    credentialsClash credentials = false ↔ ("" ∉ credentials → credentials.Nodup) := by
  have hcard : credentials.toFinset.card = credentials.length ↔ credentials.Nodup := by
    rw [List.card_toFinset]
    constructor
    · intro hlength
      have hsame : credentials.dedup = credentials :=
        (List.dedup_sublist credentials).eq_of_length hlength
      rw [← hsame]
      exact List.nodup_dedup credentials
    · intro hnodup
      rw [hnodup.dedup]
  simp only [credentialsClash, Bool.and_eq_false_iff, decide_not, Bool.not_eq_false',
    decide_eq_true_eq, hcard]
  constructor
  · rintro (hempty | hnodup)
    · intro hfull
      exfalso
      rw [List.all_eq_false] at hempty
      obtain ⟨value, hvalue, heq⟩ := hempty
      simp only [Bool.not_eq_true, Bool.not_eq_false', decide_eq_true_eq] at heq
      exact hfull (heq ▸ hvalue)
    · exact fun _ => hnodup
  · intro h
    by_cases hfull : "" ∈ credentials
    · refine .inl (List.all_eq_false.mpr ⟨"", hfull, ?_⟩)
      decide
    · exact .inr (h hfull)

end JarvisCore.Configuration.Settings
