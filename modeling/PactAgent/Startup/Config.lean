import PactAgent.Common.Errors
import PactAgent.Foundation.Guard
import PactAgent.Foundation.Text

/-! The configuration, with its key rings, and the checks that it passes at startup. -/

namespace PactAgent.Startup
open PactAgent.Common PactAgent.Foundation

section Keyrings

/-- The entries of a key ring as its parser leaves them: no identifier twice, and neither
identifiers nor secrets that are empty. -/
structure Keyring where
  entries : List (String × String)
  distinct : (entries.map Prod.fst).Nodup
  filled : ∀ entry ∈ entries, entry.1 ≠ "" ∧ entry.2 ≠ ""

def Keyring.own (keyring : Keyring) (id : String) : Option String := keyring.entries.lookup id

/-- What stands under a name in an object: a text of its own, or what it inherits. -/
inductive Property
  | text (value : String)
  | function (length : Nat)
  | object
  deriving DecidableEq

/-- The properties that every object inherits. -/
def inherited : String → Option Property
  | "constructor" => some (.function 1)
  | "__defineGetter__" => some (.function 2)
  | "__defineSetter__" => some (.function 2)
  | "hasOwnProperty" => some (.function 1)
  | "__lookupGetter__" => some (.function 1)
  | "__lookupSetter__" => some (.function 1)
  | "isPrototypeOf" => some (.function 1)
  | "propertyIsEnumerable" => some (.function 1)
  | "toString" => some (.function 0)
  | "valueOf" => some (.function 0)
  | "toLocaleString" => some (.function 0)
  | "__proto__" => some .object
  | _ => none

/-- `keyring[id]`. -/
def Keyring.property (keyring : Keyring) (id : String) : Option Property :=
  match keyring.own id with
  | some secret => some (.text secret)
  | none => inherited id

/-- `property || other`. -/
def orText (property : Option Property) (other : String) : Property :=
  match property with
  | some (.text "") => .text other
  | some value => value
  | none => .text other

end Keyrings

inductive NodeEnv where
  | development
  | test
  | staging
  | production
  deriving DecidableEq

inductive ServiceRole where
  | api
  | worker
  deriving DecidableEq

inductive CkbNetwork where
  | testnet
  | mainnet
  deriving DecidableEq

/-- The settings that the checks, the tokens and the webhook secrets read. -/
structure Config where
  nodeEnv : NodeEnv
  serviceRole : ServiceRole
  databaseUrl : String
  directUrl : String
  /-- `CORS_ORIGIN`, and the origins in it. -/
  corsOrigin : String
  corsOrigins : List String
  ckbRailEnabled : Bool
  ckbNetwork : CkbNetwork
  ckbNodeUrl : String
  ckbIndexerUrl : String
  ckbMainnetEnabled : Bool
  ckbContractCodeHash : String
  ckbContractHashType : String
  ckbContractDeploymentTxHash : String
  ckbContractDepType : String
  ckbSignerMode : String
  ckbSignerPrivateKey : String
  requireSettlementReady : Bool
  workerQueues : List String
  jobLeaseMs : Nat
  jobTimeoutMs : Nat
  redisUrl : String
  webhookEgressProxyUrl : String
  metricsBearerToken : String
  adminAddresses : List String
  authJwtSecret : String
  authJwtActiveKid : String
  /-- An empty setting means `legacy`. -/
  authJwtActiveKid_ne : authJwtActiveKid ≠ ""
  authJwtKeys : Keyring
  authTokenTtlSecs : Nat
  authTokenTtlSecs_pos : 0 < authTokenTtlSecs
  authChallengeTtlSecs : Nat
  webhookSecretEncryptionKey : String
  webhookActiveKeyId : String
  webhookEncryptionKeys : Keyring

/-- What the checks read of a parsed URL. -/
structure UrlParts where
  protocol : String
  hostname : String
  port : String
  pathname : String

/-- The runtime's `URL`, which throws on other texts. -/
abbrev ParseUrl := String → Option UrlParts

section Checks
variable (parseUrl : ParseUrl) (config : Config)

def isDeployedEnvironment : Bool := config.nodeEnv = .staging || config.nodeEnv = .production

def requireConfig (value : Property) (name : String) : Except Failure Property :=
  if value = .text "" then .error (.other ("Missing required configuration: " ++ name)) else .ok value

def isPlaceholder (value : String) : Bool :=
  ["change-me", "changeme", "secret", "password", "development", "dev", "test"].contains
    (String.ofList (value.toList.map Char.toLower))

/-- `value.length < 32`; an object has no length. -/
def isShort : Property → Bool
  | .text value => Text.utf16Length value < 32
  | .function length => length < 32
  | .object => false

def requireStrongSecret (value : Property) (name : String) : Except Failure Unit := do
  let value ← requireConfig value name
  if isShort value then
    throw (.other (name ++ " must be at least 32 characters in production."))
  else
    match value with
    | .text text =>
        if isPlaceholder text then
          throw (.other (name ++ " must not use a placeholder value in production."))
        else pure ()
    -- the texts of functions and objects are no placeholders
    | _ => pure ()

def parsed (url : String) : Except Failure UrlParts :=
  match parseUrl url with
  | some parts => .ok parts
  | none => .error (.other "Invalid URL")

def databaseEndpointIdentity (value : String) : Except Failure String := do
  let url ← parsed parseUrl value
  return url.protocol ++ "//" ++ url.hostname ++ ":" ++ (if url.port = "" then "5432" else url.port) ++ url.pathname

def assertDistinctDatabaseEndpoints (databaseUrl directUrl : String) : Except Failure Unit := do
  let first ← databaseEndpointIdentity parseUrl databaseUrl
  let second ← databaseEndpointIdentity parseUrl directUrl
  if first = second then
    throw (.other ("DATABASE_URL must use the pooled application endpoint and DIRECT_URL must use a distinct direct "
      ++ "migration endpoint in staging and production."))
  else pure ()

def assertControlledEgressProxy (proxyUrl : String) : Except Failure Unit := do
  let _ ← requireConfig (.text proxyUrl) "WEBHOOK_EGRESS_PROXY_URL"
  let url ← parsed parseUrl proxyUrl
  if url.protocol ≠ "http:" then
    throw (.other ("WEBHOOK_EGRESS_PROXY_URL must use http so HTTPS destinations can use an authenticated CONNECT "
      ++ "tunnel."))
  else pure ()

def hasWildcardOrigin (origin : String) : Bool := origin.toList.contains '*'

def hasLocalhostOrigin (origin : String) : Bool :=
  match parseUrl origin with
  | some parts => ["localhost", "127.0.0.1", "0.0.0.0", "::1"].contains parts.hostname
  | none => true

def isHexDigit (character : Char) : Bool :=
  ('0' ≤ character && character ≤ '9') || ('a' ≤ character && character ≤ 'f') || ('A' ≤ character && character ≤ 'F')

/-- `/^0x[0-9a-fA-F]{64}$/`. -/
def isHex32 (text : String) : Bool :=
  match text.toList with
  | '0' :: 'x' :: digits => digits.length = 64 && digits.all isHexDigit
  | _ => false

def validateCkbRailConfig : Except Failure Unit :=
  if !config.ckbRailEnabled then pure ()
  else do
    let _ ← requireConfig (.text config.ckbNodeUrl) "CKB_NODE_URL"
    let _ ← requireConfig (.text config.ckbIndexerUrl) "CKB_INDEXER_URL"
    if !isHex32 config.ckbContractCodeHash then
      throw (.other "CKB_CONTRACT_CODE_HASH must be a 32-byte hex value.")
    else if config.ckbContractHashType ∉ ["data", "type", "data1", "data2"] then
      throw (.other "CKB_CONTRACT_HASH_TYPE must be data, type, data1, or data2.")
    else if !isHex32 config.ckbContractDeploymentTxHash then
      throw (.other "CKB_CONTRACT_DEPLOYMENT_TX_HASH must be a 32-byte hex value.")
    else if config.ckbContractDepType ∉ ["code", "depGroup"] then
      throw (.other "CKB_CONTRACT_DEP_TYPE must be code or depGroup.")
    else if config.ckbSignerMode ∉ ["local_dev", "external"] then
      throw (.other "CKB_SIGNER_MODE must be local_dev or external when the CKB rail is enabled.")
    else if config.ckbSignerMode = "local_dev" ∧ !isHex32 config.ckbSignerPrivateKey then
      throw (.other "CKB_SIGNER_PRIVATE_KEY must be a 32-byte hex value for local_dev signing.")
    else if config.ckbNetwork = .mainnet then
      if !config.ckbMainnetEnabled then throw (.other "CKB_MAINNET_ENABLED=true is required for mainnet.")
      else if config.ckbSignerMode ≠ "external" then throw (.other "Mainnet requires an external signer provider.")
      else throw (.other "The external mainnet signer provider is not installed; mainnet cannot be enabled.")
    else if config.ckbSignerMode = "external" then
      throw (.other ("The external CKB signer provider is not installed; the CKB rail cannot be enabled with "
        ++ "CKB_SIGNER_MODE=external."))
    else if isDeployedEnvironment config ∧ config.ckbSignerMode = "local_dev" then
      throw (.other "Local CKB private-key signing is forbidden in staging and production.")
    else pure ()

def activeJwtKey : Property := orText (config.authJwtKeys.property config.authJwtActiveKid) config.authJwtSecret

def activeWebhookKey : Property :=
  orText (config.webhookEncryptionKeys.property config.webhookActiveKeyId) config.webhookSecretEncryptionKey

/-- The checks of a worker. -/
def validateWorker : Except Failure Unit :=
  let invalidQueues := config.workerQueues.filter fun queue => decide (queue ∉ ["webhook", "settlement"])
  if config.workerQueues = [] ∨ invalidQueues ≠ [] then
    throw (.other ("WORKER_QUEUES must contain only webhook and settlement. Invalid values: "
      ++ ", ".intercalate invalidQueues))
  else if config.jobLeaseMs * 30 ≤ config.jobTimeoutMs then
    throw (.other "JOB_TIMEOUT_MS must be less than 30 lease periods.")
  else pure ()

/-- The last checks of an api process. -/
def validateApi : Except Failure Unit := do
  requireStrongSecret (activeJwtKey config) ("JWT key " ++ config.authJwtActiveKid)
  requireStrongSecret (.text config.metricsBearerToken) "METRICS_BEARER_TOKEN"
  if config.adminAddresses = [] then
    throw (.other "ADMIN_ADDRESSES must include at least one admin identity in staging and production.")
  else if config.corsOrigin = "" then
    throw (.other "CORS_ORIGIN must be set explicitly in staging and production.")
  else if config.corsOrigins.any fun origin => hasWildcardOrigin origin || hasLocalhostOrigin parseUrl origin then
    throw (.other "Staging and production CORS origins cannot include wildcards, localhost, or invalid URLs.")
  else pure ()

/-- The checks of the secrets, after those of a worker. -/
def validateSecrets : Except Failure Unit := do
  let _ ← (if config.serviceRole = .worker then validateWorker config else pure () : Except Failure Unit)
  requireStrongSecret (activeWebhookKey config) ("webhook encryption key " ++ config.webhookActiveKeyId)
  if config.serviceRole = .api then validateApi parseUrl config else pure ()

/-- The checks of staging and production. -/
def validateDeployed : Except Failure Unit :=
  if config.ckbRailEnabled ∧ !config.requireSettlementReady then
    throw (.other ("REQUIRE_SETTLEMENT_READY=true is required when the CKB rail is enabled in a deployed "
      ++ "environment."))
  else if 86400 < config.authTokenTtlSecs then
    throw (.other "AUTH_TOKEN_TTL_SECS must not exceed 86400 in staging or production.")
  else do
    let _ ← requireConfig (.text config.databaseUrl) "DATABASE_URL"
    let _ ← requireConfig (.text config.directUrl) "DIRECT_URL"
    assertDistinctDatabaseEndpoints parseUrl config.databaseUrl config.directUrl
    if config.serviceRole = .api ∧ config.redisUrl = "" then
      throw (.other ("REDIS_URL or REDIS_URL_FILE is required in staging and production for distributed rate "
        ++ "limiting and auth challenges."))
    else do
      assertControlledEgressProxy parseUrl config.webhookEgressProxyUrl
      validateSecrets parseUrl config

def validateProductionConfig : Except Failure Unit := do
  validateCkbRailConfig config
  if !isDeployedEnvironment config then pure () else validateDeployed parseUrl config

end Checks

section Accepted
variable {parseUrl : ParseUrl} {config : Config} {keyring : Keyring} {id other : String}

theorem Keyring.own_filled {secret : String} (found : keyring.own id = some secret) : id ≠ "" ∧ secret ≠ "" := by
  obtain ⟨before, after, split, -⟩ := List.lookup_eq_some_iff.mp found
  have member : (id, secret) ∈ keyring.entries := by
    rw [split]
    exact List.mem_append_right _ List.mem_cons_self
  exact keyring.filled _ member

/-- An entry of the ring is its own key. -/
theorem orText_own {secret : String} (found : keyring.own id = some secret) :
    orText (keyring.property id) other = .text secret := by
  have filled := (Keyring.own_filled found).2
  unfold Keyring.property
  rw [found]
  unfold orText
  split
  · next same =>
    cases same
    exact absurd rfl filled
  · next same => cases same; rfl
  · next none => cases none

/-- Without an entry, a text can only be the other one. -/
theorem orText_text {secret : String} (missing : keyring.own id = none)
    (text : orText (keyring.property id) other = .text secret) : inherited id = none ∧ secret = other := by
  have kinds : ∀ value, inherited id = some (.text value) → False := by
    intro value same
    unfold inherited at same
    split at same <;> cases same
  unfold Keyring.property at text
  rw [missing] at text
  simp only at text
  cases shared : inherited id with
  | none =>
    rw [shared] at text
    cases text
    exact ⟨rfl, rfl⟩
  | some property =>
    rw [shared] at text
    cases property with
    | text value => exact (kinds value shared).elim
    | function length => cases text
    | object => cases text

/-- A configuration that is accepted in staging or production has an active webhook key. -/
theorem accepted_webhookKey (accepted : validateProductionConfig parseUrl config = .ok ())
    (deployed : isDeployedEnvironment config = true) : activeWebhookKey config ≠ .text "" := by
  obtain ⟨_, -, checked⟩ := Guard.bind_ok_iff.mp accepted
  rw [deployed] at checked
  have strong : ∃ name, requireStrongSecret (activeWebhookKey config) name = .ok () := by
    change validateDeployed parseUrl config = .ok () at checked
    simp only [validateDeployed, validateSecrets, Guard.reject_ok_iff, Guard.bind_ok_iff] at checked
    obtain ⟨-, -, _, -, _, -, _, -, -, _, -, _, -, _, strong, -⟩ := checked
    exact ⟨_, strong⟩
  obtain ⟨name, strong⟩ := strong
  obtain ⟨value, required, -⟩ := Guard.bind_ok_iff.mp strong
  intro empty
  rw [empty] at required
  cases required

end Accepted

end PactAgent.Startup
