import PactAgent.Common.Errors
import PactAgent.Foundation.Autocommit
import PactAgent.Foundation.Base64Url
import PactAgent.Foundation.LittleEndian
import PactAgent.Foundation.Table
import PactAgent.Foundation.Text

/-! Apps and their API keys: what owners do with them, and how a request gets into an app by
a key. No statement of these services runs in a transaction with another. -/

namespace PactAgent.Tenancy.Apps
open PactAgent.Foundation PactAgent.Common

inductive AppEnvironment where
  | sandbox
  | production
deriving DecidableEq, Repr

inductive AppStatus where
  | active
  | disabled
  | suspended
deriving DecidableEq, Repr

inductive ApiKeyStatus where
  | active
  | revoked
deriving DecidableEq, Repr

inductive ApiKeyScope where
  | appsRead
  | agreementsCreate
  | agreementsRead
  | agreementsUpdate
  | agreementsCancel
  | milestonesCreate
  | milestonesRead
  | escrowsCreate
  | escrowsRead
  | escrowsFund
  | escrowsRelease
  | escrowsRefund
  | proofsCreate
  | proofsRead
  | proofsReview
  | disputesCreate
  | disputesRead
  | disputesResolve
  | eventsRead
  | webhooksManage
  | webhooksRead
  | adminRead
  | adminWrite
deriving DecidableEq, Repr

def ApiKeyScope.text : ApiKeyScope → String
  | .appsRead => "apps:read"
  | .agreementsCreate => "agreements:create"
  | .agreementsRead => "agreements:read"
  | .agreementsUpdate => "agreements:update"
  | .agreementsCancel => "agreements:cancel"
  | .milestonesCreate => "milestones:create"
  | .milestonesRead => "milestones:read"
  | .escrowsCreate => "escrows:create"
  | .escrowsRead => "escrows:read"
  | .escrowsFund => "escrows:fund"
  | .escrowsRelease => "escrows:release"
  | .escrowsRefund => "escrows:refund"
  | .proofsCreate => "proofs:create"
  | .proofsRead => "proofs:read"
  | .proofsReview => "proofs:review"
  | .disputesCreate => "disputes:create"
  | .disputesRead => "disputes:read"
  | .disputesResolve => "disputes:resolve"
  | .eventsRead => "events:read"
  | .webhooksManage => "webhooks:manage"
  | .webhooksRead => "webhooks:read"
  | .adminRead => "admin:read"
  | .adminWrite => "admin:write"

section Rows

structure AppRecord where
  id : String
  name : String
  slug : String
  ownerId : String
  environment : AppEnvironment
  status : AppStatus
  defaultCurrency : String
  defaultNetwork : String
  createdAt : Nat
  updatedAt : Nat
deriving DecidableEq

structure ApiKeyRecord where
  id : String
  appId : String
  name : String
  keyPrefix : String
  keyHash : String
  environment : AppEnvironment
  status : ApiKeyStatus
  scopes : List ApiKeyScope
  lastUsedAt : Option Nat
  createdAt : Nat
  revokedAt : Option Nat
deriving DecidableEq

/-- A record as it is shown. -/
inductive Resource where
  | app (id name slug : String) (environment : AppEnvironment) (status : AppStatus)
      (defaultCurrency defaultNetwork : String) (createdAt updatedAt : Nat)
  | apiKey (id appId name keyPrefix maskedKey : String) (environment : AppEnvironment) (status : ApiKeyStatus)
      (scopes : List ApiKeyScope) (lastUsedAt : Option Nat) (createdAt : Nat) (revokedAt : Option Nat)
deriving DecidableEq

structure AuditLog where
  appId : String
  actorType : String
  actorAddress : String
  action : String
  targetType : String
  targetId : String
  before : Option Resource
  after : Option Resource
  ipAddress : String
  userAgent : Option String
  requestId : String
deriving DecidableEq

instance : Keyed AppRecord String := ⟨AppRecord.id⟩
instance : Keyed ApiKeyRecord String := ⟨ApiKeyRecord.id⟩

structure Db where
  apps : Table AppRecord
  apiKeys : Table ApiKeyRecord
  auditLogs : List AuditLog

def Db.empty : Db := ⟨Table.empty, Table.empty, []⟩

inductive Write where
  | app (row : AppRecord)
  | apiKey (row : ApiKeyRecord)
  | auditLog (row : AuditLog)

def Write.apply (db : Db) : Write → Db
  | .app row => { db with apps := db.apps.put row }
  | .apiKey row => { db with apiKeys := db.apiKeys.put row }
  | .auditLog row => { db with auditLogs := db.auditLogs ++ [row] }

/-- A statement is a transaction, so that no lock outlives it. -/
instance : Storage Db Write Empty where
  apply write db := write.apply db
  locks _ := []
  agree lock := lock.elim
  agree_refl lock := lock.elim
  agree_trans lock := lock.elim
  agree_apply _ lock := lock.elim
  agree_congr _ lock := lock.elim

inductive Query where
  | uuid
  | randomBytes
  | createApp
  | findAppForOwner
  | updateAppForOwner
  | disableAppForOwner
  | createApiKey
  | findApiKeyForOwner
  | findActiveApiKeyByHash
  | revokeApiKeyForOwner
  | updateApiKeyLastUsedAt
  | createInfrastructureAuditLog
deriving DecidableEq

abbrev Tx := Program Db Write Query Failure

end Rows

section Keys

/-- The hash of the runtime, and the ids that the database client makes of random numbers. -/
structure Platform where
  sha256Hex : String → String
  uuid : Nat → String
  uuid_filled : ∀ random, Text.trim (uuid random) = uuid random ∧ uuid random ≠ ""

variable (platform : Platform)

def apiKeyRandomBytes : Nat := 32
def apiKeyPrefixChars : Nat := 16

def rawKeyPrefix : AppEnvironment → String
  | .production => "pa_live"
  | .sandbox => "pa_test"

def createRawApiKey (environment : AppEnvironment) (bytes : List UInt8) : String :=
  rawKeyPrefix environment ++ "_" ++ String.ofList (Base64Url.encode bytes)

def getApiKeyPrefix (rawKey : String) : String := String.ofList (rawKey.toList.take apiKeyPrefixChars)

def hashApiKey (rawKey : String) : String := platform.sha256Hex rawKey

def maskApiKey (keyPrefix : String) : String := keyPrefix ++ "..."

def serializeApp (app : AppRecord) : Resource :=
  .app app.id app.name app.slug app.environment app.status app.defaultCurrency app.defaultNetwork app.createdAt app.updatedAt

def serializeApiKey (apiKey : ApiKeyRecord) : Resource :=
  .apiKey apiKey.id apiKey.appId apiKey.name apiKey.keyPrefix (maskApiKey apiKey.keyPrefix) apiKey.environment apiKey.status
    apiKey.scopes apiKey.lastUsedAt apiKey.createdAt apiKey.revokedAt

end Keys

section Repository
variable (platform : Platform)

structure CreateAppInput where
  name : String
  slug : String
  environment : AppEnvironment
  defaultCurrency : String
  defaultNetwork : String
deriving DecidableEq

structure UpdateAppInput where
  name : Option String
  status : Option AppStatus
  defaultCurrency : Option String
  defaultNetwork : Option String
deriving DecidableEq

structure CreateApiKeyInput where
  appId : String
  name : String
  scopes : List ApiKeyScope
  scopes_ne : scopes ≠ []
deriving DecidableEq

def uuid : Tx String := .statement .uuid fun random _ => .ok (platform.uuid random, [])

def randomBytes (size : Nat) : Tx (List UInt8) :=
  .statement .randomBytes fun random _ => .ok (LittleEndian.toBytes size random, [])

def newApp (id ownerId : String) (input : CreateAppInput) (now : Nat) : AppRecord where
  id := id
  name := input.name
  slug := input.slug
  ownerId := ownerId
  environment := input.environment
  status := .active
  defaultCurrency := input.defaultCurrency
  defaultNetwork := input.defaultNetwork
  createdAt := now
  updatedAt := now

/-- An owner has a slug only once. -/
def createApp (id ownerId : String) (input : CreateAppInput) : Tx AppRecord :=
  .statement .createApp fun now db =>
    if db.apps.rows.any fun row => row.id = id || (row.ownerId = ownerId && row.slug = input.slug) then
      .error .uniqueConstraint
    else .ok (newApp id ownerId input now, [.app (newApp id ownerId input now)])

def Db.appForOwner (db : Db) (ownerId appId : String) : Option AppRecord :=
  (db.apps.get appId).filter fun app => app.ownerId = ownerId

def findAppForOwner (ownerId appId : String) : Tx (Option AppRecord) :=
  .statement .findAppForOwner fun _ db => .ok (db.appForOwner ownerId appId, [])

def AppRecord.updated (app : AppRecord) (input : UpdateAppInput) (now : Nat) : AppRecord :=
  { app with
    name := input.name.getD app.name
    status := input.status.getD app.status
    defaultCurrency := input.defaultCurrency.getD app.defaultCurrency
    defaultNetwork := input.defaultNetwork.getD app.defaultNetwork
    updatedAt := now }

namespace appRepository

def updateAppForOwner (ownerId appId : String) (input : UpdateAppInput) : Tx Unit :=
  .statement .updateAppForOwner fun now db =>
    .ok ((), (db.appForOwner ownerId appId).toList.map fun app => .app (app.updated input now))

def disableAppForOwner (ownerId appId : String) : Tx Unit :=
  .statement .disableAppForOwner fun now db =>
    .ok ((), (db.appForOwner ownerId appId).toList.map fun app => .app { app with status := .disabled, updatedAt := now })

end appRepository

def newApiKey (id : String) (app : AppRecord) (input : CreateApiKeyInput) (rawKey : String) (now : Nat) : ApiKeyRecord where
  id := id
  appId := app.id
  name := input.name
  keyPrefix := getApiKeyPrefix rawKey
  keyHash := hashApiKey platform rawKey
  environment := app.environment
  status := .active
  scopes := input.scopes
  lastUsedAt := none
  createdAt := now
  revokedAt := none

/-- No two keys have one hash, and the app has to be there. -/
def createApiKey (id : String) (app : AppRecord) (input : CreateApiKeyInput) (rawKey : String) : Tx ApiKeyRecord :=
  .statement .createApiKey fun now db =>
    if db.apiKeys.rows.any fun row => row.id = id || row.keyHash = hashApiKey platform rawKey then .error .uniqueConstraint
    else if (db.apps.get app.id).isNone then .error (.other "Foreign key constraint violated")
    else .ok (newApiKey platform id app input rawKey now, [.apiKey (newApiKey platform id app input rawKey now)])

def Db.apiKeyForOwner (db : Db) (ownerId apiKeyId : String) : Option ApiKeyRecord :=
  (db.apiKeys.get apiKeyId).filter fun apiKey => (db.apps.get apiKey.appId).any fun app => app.ownerId = ownerId

def findApiKeyForOwner (ownerId apiKeyId : String) : Tx (Option ApiKeyRecord) :=
  .statement .findApiKeyForOwner fun _ db => .ok (db.apiKeyForOwner ownerId apiKeyId, [])

/-- An active key of an active app. -/
def Db.activeApiKey (db : Db) (keyHash : String) : Option (ApiKeyRecord × AppRecord) :=
  db.apiKeys.rows.findSome? fun apiKey =>
    if apiKey.keyHash = keyHash ∧ apiKey.status = .active then
      ((db.apps.get apiKey.appId).filter fun app => app.status = .active).map fun app => (apiKey, app)
    else none

def findActiveApiKeyByHash (keyHash : String) : Tx (Option (ApiKeyRecord × AppRecord)) :=
  .statement .findActiveApiKeyByHash fun _ db => .ok (db.activeApiKey keyHash, [])

namespace apiKeyRepository

def revokeApiKeyForOwner (ownerId apiKeyId : String) : Tx Unit :=
  .statement .revokeApiKeyForOwner fun now db =>
    .ok ((), ((db.apiKeyForOwner ownerId apiKeyId).filter fun apiKey => apiKey.status = .active).toList.map fun apiKey =>
      .apiKey { apiKey with status := .revoked, revokedAt := some now })

end apiKeyRepository

def updateApiKeyLastUsedAt (apiKeyId : String) : Tx Unit :=
  .statement .updateApiKeyLastUsedAt fun now db =>
    match db.apiKeys.get apiKeyId with
    | none => .error (.other "Record to update not found.")
    | some apiKey => .ok ((), [.apiKey { apiKey with lastUsedAt := some now }])

/-- What the log takes from a request. -/
structure RequestOrigin where
  ip : String
  userAgent : Option String
  requestId : String
deriving DecidableEq

/-- The log of a user's action on one of the user's records. -/
def createAuditLogForRequest (req : RequestOrigin) (appId ownerId action targetType targetId : String)
    (before after : Option Resource) : Tx Unit :=
  .statement .createInfrastructureAuditLog fun _ _ =>
    .ok ((), [.auditLog ⟨appId, "user", ownerId, action, targetType, targetId, before, after, req.ip, req.userAgent,
      req.requestId⟩])

end Repository

section Services
variable (platform : Platform)

inductive Response where
  | resource (data : Resource)
  /-- The only place where a raw key is shown. -/
  | created (data : Resource) (key : String)
  | authorized (apiKey : ApiKeyRecord) (currentApp : AppRecord) (tenant : String)
  | refused (error : AppError)
deriving DecidableEq

/-- The unique-constraint error of the client is answered as a conflict. -/
def asConflict (error : AppError) : Failure → Failure
  | .uniqueConstraint => .app error
  | other => other

def createAppForOwner (req : RequestOrigin) (ownerId : String) (input : CreateAppInput) : Tx Response :=
  Program.mapError (asConflict (conflict "An app with this slug already exists for this owner." "app_slug_conflict")) do
    let id ← uuid platform
    let app ← createApp id ownerId input
    createAuditLogForRequest req app.id ownerId "app.created" "app" app.id none (some (serializeApp app))
    return .resource (serializeApp app)

def appNotFound : Failure := .app (notFound "App not found." "app_not_found")

def updateAppForOwner (req : RequestOrigin) (ownerId appId : String) (input : UpdateAppInput) : Tx Response := do
  let some before ← findAppForOwner ownerId appId | throw appNotFound
  appRepository.updateAppForOwner ownerId appId input
  let some after ← findAppForOwner ownerId appId | throw appNotFound
  createAuditLogForRequest req appId ownerId (if input.status = some .disabled then "app.disabled" else "app.updated")
    "app" appId (some (serializeApp before)) (some (serializeApp after))
  return .resource (serializeApp after)

def disableAppForOwner (req : RequestOrigin) (ownerId appId : String) : Tx Response := do
  let some before ← findAppForOwner ownerId appId | throw appNotFound
  appRepository.disableAppForOwner ownerId appId
  let some after ← findAppForOwner ownerId appId | throw appNotFound
  createAuditLogForRequest req appId ownerId "app.disabled" "app" appId (some (serializeApp before))
    (some (serializeApp after))
  return .resource (serializeApp after)

/-- The app and the raw key are not yet under the handler of conflicts. -/
def createApiKeyForOwner (req : RequestOrigin) (ownerId : String) (input : CreateApiKeyInput) : Tx Response := do
  let some app ← findAppForOwner ownerId input.appId | throw appNotFound
  let bytes ← randomBytes apiKeyRandomBytes
  let rawKey := createRawApiKey app.environment bytes
  Program.mapError (asConflict (conflict "Generated API key collided. Please retry." "api_key_conflict")) do
    let id ← uuid platform
    let apiKey ← createApiKey platform id app input rawKey
    createAuditLogForRequest req app.id ownerId "api_key.created" "api_key" apiKey.id none (some (serializeApiKey apiKey))
    return .created (serializeApiKey apiKey) rawKey

def apiKeyNotFound : Failure := .app (notFound "API key not found." "api_key_not_found")

def revokeApiKeyForOwner (req : RequestOrigin) (ownerId apiKeyId : String) : Tx Response := do
  let some before ← findApiKeyForOwner ownerId apiKeyId | throw apiKeyNotFound
  apiKeyRepository.revokeApiKeyForOwner ownerId apiKeyId
  let some after ← findApiKeyForOwner ownerId apiKeyId | throw apiKeyNotFound
  createAuditLogForRequest req after.appId ownerId "api_key.revoked" "api_key" apiKeyId (some (serializeApiKey before))
    (some (serializeApiKey after))
  return .resource (serializeApiKey after)

def authenticateApiKey (rawKey : String) : Tx (Option (ApiKeyRecord × AppRecord)) := do
  let some found ← findActiveApiKeyByHash (hashApiKey platform rawKey) | return none
  updateApiKeyLastUsedAt found.1.id
  return some found

end Services

section Middleware
variable (platform : Platform)

structure Headers where
  xApiKey : Option String
  authorization : Option String
deriving DecidableEq

/-- The text behind a beginning. -/
def behind (beginning text : String) : Option String :=
  if beginning.toList.isPrefixOf text.toList then some (String.ofList (text.toList.drop beginning.toList.length)) else none

def extractApiKey (headers : Headers) : Option String :=
  match (headers.xApiKey.map Text.trim).filter (· ≠ "") with
  | some xApiKey => some xApiKey
  | none => (headers.authorization.bind (behind "Bearer ")).bind fun rest =>
      let token := Text.trim rest
      if (behind "pa_test_" token).isSome ∨ (behind "pa_live_" token).isSome then some token else none

def tenantContext (appId : String) : Except Failure String :=
  let normalized := Text.trim appId
  if normalized = "" then .error (.other "Tenant context requires a non-empty appId.") else .ok normalized

/-- What a route asks of a key. -/
inductive Required where
  | scope (scope : ApiKeyScope)
  | anyScope (scopes : List ApiKeyScope)
deriving DecidableEq

def requireScope (granted : List ApiKeyScope) (scope : ApiKeyScope) : Except AppError Unit :=
  if scope ∈ granted then .ok () else .error (permissionError ("Missing required scope: " ++ scope.text) "missing_scope")

def requireAnyScope (granted scopes : List ApiKeyScope) : Except AppError Unit :=
  if scopes.any (· ∈ granted) then .ok ()
  else .error (permissionError
    ("Missing one of required scopes: " ++ String.intercalate ", " (scopes.map ApiKeyScope.text)) "missing_scope")

def Required.check (granted : List ApiKeyScope) : Required → Except AppError Unit
  | .scope wanted => requireScope granted wanted
  | .anyScope wanted => requireAnyScope granted wanted

/-- The answer to what the key lookup has found. -/
def grant (required : Required) (apiKey : ApiKeyRecord) (app : AppRecord) (tenant : String) : Response :=
  match required.check apiKey.scopes with
  | .ok () => .authorized apiKey app tenant
  | .error error => .refused error

/-- The middleware of a route, up to its handler. -/
def requireApiKey (headers : Headers) (required : Required) : Tx Response :=
  match extractApiKey headers with
  | none => return .refused (authenticationError "API key required.")
  | some rawKey => do
      let some (apiKey, app) ← authenticateApiKey platform rawKey | return .refused (authenticationError "Invalid API key.")
      let tenant ← Program.ofExcept (tenantContext apiKey.appId)
      return grant required apiKey app tenant

end Middleware

section Requests
variable (platform : Platform)

inductive Request where
  | createAppForOwner (req : RequestOrigin) (ownerId : String) (input : CreateAppInput)
  | updateAppForOwner (req : RequestOrigin) (ownerId appId : String) (input : UpdateAppInput)
  | disableAppForOwner (req : RequestOrigin) (ownerId appId : String)
  | createApiKeyForOwner (req : RequestOrigin) (ownerId : String) (input : CreateApiKeyInput)
  | revokeApiKeyForOwner (req : RequestOrigin) (ownerId apiKeyId : String)
  | requireApiKey (headers : Headers) (required : Required)
deriving DecidableEq

def Request.program : Request → Tx Response
  | .createAppForOwner req ownerId input => Apps.createAppForOwner platform req ownerId input
  | .updateAppForOwner req ownerId appId input => Apps.updateAppForOwner req ownerId appId input
  | .disableAppForOwner req ownerId appId => Apps.disableAppForOwner req ownerId appId
  | .createApiKeyForOwner req ownerId input => Apps.createApiKeyForOwner platform req ownerId input
  | .revokeApiKeyForOwner req ownerId apiKeyId => Apps.revokeApiKeyForOwner req ownerId apiKeyId
  | .requireApiKey headers required => Apps.requireApiKey platform headers required

abbrev State := Autocommit.State Request Db Write Query Failure Response

abbrev Action := Autocommit.Action Request Failure

def step : State → Action → Option State := Autocommit.step (Request.program platform)

def initial : State := Autocommit.State.start Db.empty

end Requests

end PactAgent.Tenancy.Apps
