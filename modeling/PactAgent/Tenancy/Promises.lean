import PactAgent.Tenancy.Apps

/-! What the requests of owners and of key holders write, and what their answers promise
while the statements of others are between their own. -/

namespace PactAgent.Tenancy.Apps
open PactAgent.Foundation PactAgent.Common
open PactAgent.Foundation.Execution PactAgent.Foundation.Autocommit

section Allowed
variable (platform : Platform)

/-- What a request may write. -/
inductive Allowed : Request → Db → Write → Prop
  | createApp {req : RequestOrigin} {ownerId : String} {input : CreateAppInput} {db : Db} (random now : Nat)
      (free : ∀ row ∈ db.apps, row.id ≠ platform.uuid random ∧ ¬(row.ownerId = ownerId ∧ row.slug = input.slug)) :
      Allowed (.createAppForOwner req ownerId input) db (.app (newApp (platform.uuid random) ownerId input now))
  | updateApp {req : RequestOrigin} {ownerId appId : String} {input : UpdateAppInput} {db : Db} {old : AppRecord}
      (stored : db.appForOwner ownerId appId = some old) (now : Nat) :
      Allowed (.updateAppForOwner req ownerId appId input) db (.app (old.updated input now))
  | disableApp {req : RequestOrigin} {ownerId appId : String} {db : Db} {old : AppRecord}
      (stored : db.appForOwner ownerId appId = some old) (now : Nat) :
      Allowed (.disableAppForOwner req ownerId appId) db (.app { old with status := .disabled, updatedAt := now })
  | createApiKey {req : RequestOrigin} {ownerId : String} {input : CreateApiKeyInput} {db : Db} {app : AppRecord}
      (stored : db.appForOwner ownerId input.appId = some app) (id : String) (random now : Nat)
      (free : ∀ row ∈ db.apiKeys, row.id ≠ id ∧ row.keyHash ≠ hashApiKey platform
        (createRawApiKey app.environment (LittleEndian.toBytes apiKeyRandomBytes random))) :
      Allowed (.createApiKeyForOwner req ownerId input) db (.apiKey (newApiKey platform id app input
        (createRawApiKey app.environment (LittleEndian.toBytes apiKeyRandomBytes random)) now))
  | revokeApiKey {req : RequestOrigin} {ownerId apiKeyId : String} {db : Db} {old : ApiKeyRecord}
      (stored : db.apiKeyForOwner ownerId apiKeyId = some old) (active : old.status = .active) (now : Nat) :
      Allowed (.revokeApiKeyForOwner req ownerId apiKeyId) db
        (.apiKey { old with status := .revoked, revokedAt := some now })
  | useApiKey {headers : Headers} {required : Required} {db : Db} {old : ApiKeyRecord}
      (stored : db.apiKeys.get old.id = some old) (now : Nat) :
      Allowed (.requireApiKey headers required) db (.apiKey { old with lastUsedAt := some now })
  | audit (request : Request) (db : Db) (row : AuditLog) : Allowed request db (.auditLog row)

/-- The key that a request of the owner issues in the app. -/
structure Issues (platform : Platform) (ownerId : String) (input : CreateApiKeyInput) (rawKey : String) (app : AppRecord)
    (apiKey : ApiKeyRecord) : Prop where
  owned : app.ownerId = ownerId
  place : app.id = input.appId
  raw : ∃ random, rawKey = createRawApiKey app.environment (LittleEndian.toBytes apiKeyRandomBytes random)
  row : ∃ id now, apiKey = newApiKey platform id app input rawKey now

end Allowed

section Kept

/-- The columns of an app that no statement changes. -/
structure AppRecord.Keeps (old new : AppRecord) : Prop where
  id : new.id = old.id
  ownerId : new.ownerId = old.ownerId
  slug : new.slug = old.slug
  environment : new.environment = old.environment

/-- A key stays what it was issued as, and a revoked key stays revoked. -/
structure ApiKeyRecord.Keeps (old new : ApiKeyRecord) : Prop where
  id : new.id = old.id
  appId : new.appId = old.appId
  keyPrefix : new.keyPrefix = old.keyPrefix
  keyHash : new.keyHash = old.keyHash
  environment : new.environment = old.environment
  scopes : new.scopes = old.scopes
  name : new.name = old.name
  revoked : old.status = .revoked → new.status = .revoked

theorem AppRecord.Keeps.refl (app : AppRecord) : app.Keeps app := ⟨rfl, rfl, rfl, rfl⟩

theorem AppRecord.Keeps.trans {first second third : AppRecord} (earlier : first.Keeps second) (later : second.Keeps third) :
    first.Keeps third :=
  ⟨later.id.trans earlier.id, later.ownerId.trans earlier.ownerId, later.slug.trans earlier.slug,
    later.environment.trans earlier.environment⟩

theorem ApiKeyRecord.Keeps.refl (apiKey : ApiKeyRecord) : apiKey.Keeps apiKey :=
  ⟨rfl, rfl, rfl, rfl, rfl, rfl, rfl, fun revoked => revoked⟩

theorem ApiKeyRecord.Keeps.trans {first second third : ApiKeyRecord} (earlier : first.Keeps second)
    (later : second.Keeps third) : first.Keeps third :=
  ⟨later.id.trans earlier.id, later.appId.trans earlier.appId, later.keyPrefix.trans earlier.keyPrefix,
    later.keyHash.trans earlier.keyHash, later.environment.trans earlier.environment, later.scopes.trans earlier.scopes,
    later.name.trans earlier.name, fun revoked => later.revoked (earlier.revoked revoked)⟩

/-- No row is lost, and none loses what it was created with. -/
structure Kept (first second : Db) : Prop where
  apps : Table.Kept (fun _ => True) AppRecord.Keeps first.apps second.apps
  apiKeys : Table.Kept (fun _ => True) ApiKeyRecord.Keeps first.apiKeys second.apiKeys
  auditLogs : ∀ row ∈ first.auditLogs, row ∈ second.auditLogs

theorem Kept.refl (db : Db) : Kept db db :=
  ⟨Table.Kept.refl AppRecord.Keeps.refl _, Table.Kept.refl ApiKeyRecord.Keeps.refl _, fun _ member => member⟩

theorem Kept.trans {first second third : Db} (earlier : Kept first second) (later : Kept second third) : Kept first third :=
  ⟨earlier.apps.trans (fun _ _ _ one two => one.trans two) (fun _ _ _ _ => trivial) later.apps,
    earlier.apiKeys.trans (fun _ _ _ one two => one.trans two) (fun _ _ _ _ => trivial) later.apiKeys,
    fun row member => later.auditLogs row (earlier.auditLogs row member)⟩

variable {db : Db}

theorem kept_app {row : AppRecord} (each : ∀ old, db.apps.get row.id = some old → old.Keeps row) :
    Kept db ((Write.app row).apply db) :=
  ⟨Table.Kept.put AppRecord.Keeps.refl fun old found _ => each old found,
    Table.Kept.refl ApiKeyRecord.Keeps.refl _, fun _ member => member⟩

theorem kept_apiKey {row : ApiKeyRecord} (each : ∀ old, db.apiKeys.get row.id = some old → old.Keeps row) :
    Kept db ((Write.apiKey row).apply db) :=
  ⟨Table.Kept.refl AppRecord.Keeps.refl _, Table.Kept.put ApiKeyRecord.Keeps.refl fun old found _ => each old found,
    fun _ member => member⟩

theorem appForOwner_some {ownerId appId : String} {app : AppRecord} (stored : db.appForOwner ownerId appId = some app) :
    db.apps.get appId = some app ∧ app.id = appId ∧ app.ownerId = ownerId := by
  obtain ⟨found, owned⟩ := Option.filter_eq_some_iff.mp stored
  exact ⟨found, Table.key_of_get found, by simpa using owned⟩

theorem apiKeyForOwner_some {ownerId apiKeyId : String} {apiKey : ApiKeyRecord}
    (stored : db.apiKeyForOwner ownerId apiKeyId = some apiKey) : db.apiKeys.get apiKeyId = some apiKey ∧
      apiKey.id = apiKeyId ∧ ∃ app, db.apps.get apiKey.appId = some app ∧ app.ownerId = ownerId := by
  obtain ⟨found, owned⟩ := Option.filter_eq_some_iff.mp stored
  refine ⟨found, Table.key_of_get found, ?_⟩
  simpa [Option.any_eq_true] using owned

/-- A write of an app is about an app that is there, or creates one for the owner who asks. -/
theorem allowed_app {platform : Platform} {request : Request} {row : AppRecord}
    (allows : Allowed platform request db (.app row)) : (∃ old, db.apps.get row.id = some old ∧ old.Keeps row) ∨
      ∃ req ownerId input random now, request = .createAppForOwner req ownerId input ∧
        row = newApp (platform.uuid random) ownerId input now ∧ ∀ other ∈ db.apps, other.id ≠ row.id := by
  cases allows with
  | createApp random now free => exact .inr ⟨_, _, _, random, now, rfl, rfl, fun other member => (free other member).1⟩
  | @updateApp _ _ _ input _ old stored now =>
    obtain ⟨found, key, _⟩ := appForOwner_some stored
    exact .inl ⟨old, key ▸ found, rfl, rfl, rfl, rfl⟩
  | @disableApp _ _ _ _ old stored now =>
    obtain ⟨found, key, _⟩ := appForOwner_some stored
    exact .inl ⟨old, key ▸ found, rfl, rfl, rfl, rfl⟩

/-- A write of a key is about a key that is there, or issues one for the owner of the app. -/
theorem allowed_apiKey {platform : Platform} {request : Request} {row : ApiKeyRecord}
    (allows : Allowed platform request db (.apiKey row)) : (∃ old, db.apiKeys.get row.id = some old ∧ old.Keeps row) ∨
      ∃ req ownerId input rawKey app, request = .createApiKeyForOwner req ownerId input ∧
        Issues platform ownerId input rawKey app row ∧ db.apps.get app.id = some app ∧
        ∀ other ∈ db.apiKeys, other.id ≠ row.id ∧ other.keyHash ≠ row.keyHash := by
  cases allows with
  | @createApiKey req ownerId input _ app stored id random now free =>
    obtain ⟨found, key, owned⟩ := appForOwner_some stored
    exact .inr ⟨req, ownerId, input, _, app, rfl, ⟨owned, key, ⟨random, rfl⟩, id, now, rfl⟩, key.symm ▸ found, free⟩
  | @revokeApiKey _ _ _ _ old stored active now =>
    obtain ⟨found, key, _⟩ := apiKeyForOwner_some stored
    exact .inl ⟨old, key ▸ found, rfl, rfl, rfl, rfl, rfl, rfl, rfl, fun _ => rfl⟩
  | @useApiKey _ _ _ old stored now => exact .inl ⟨old, stored, rfl, rfl, rfl, rfl, rfl, rfl, rfl, fun revoked => revoked⟩

theorem Kept.allowed {platform : Platform} {request : Request} {write : Write} (allows : Allowed platform request db write) :
    Kept db (write.apply db) := by
  cases write with
  | app row =>
    apply kept_app
    intro other found
    rcases allowed_app allows with ⟨old, stored, keeps⟩ | ⟨_, _, _, _, _, _, _, free⟩
    · cases stored.symm.trans found
      exact keeps
    · exact absurd (Table.key_of_get found) (free other (Table.mem_of_get found))
  | apiKey row =>
    apply kept_apiKey
    intro other found
    rcases allowed_apiKey allows with ⟨old, stored, keeps⟩ | ⟨_, _, _, _, _, _, _, _, free⟩
    · cases stored.symm.trans found
      exact keeps
    · exact absurd (Table.key_of_get found) (free other (Table.mem_of_get found)).1
  | auditLog row =>
    exact ⟨Table.Kept.refl AppRecord.Keeps.refl _, Table.Kept.refl ApiKeyRecord.Keeps.refl _,
      fun other member => List.mem_append_left _ member⟩

theorem kept_respects (platform : Platform) : Respects (fun _ => True) Kept (Allowed platform) where
  refl := Kept.refl
  trans _ _ _ := Kept.trans
  each _ _ _ _ allows := Kept.allowed allows

end Kept

section Held
variable {kept : Db → Db → Prop} {db : Db}

/-- The app is there, as it was read. -/
def AppRecord.Held (app : AppRecord) (db : Db) : Prop := ∃ stored, db.apps.get app.id = some stored ∧ app.Keeps stored

def ApiKeyRecord.Held (apiKey : ApiKeyRecord) (db : Db) : Prop :=
  ∃ stored, db.apiKeys.get apiKey.id = some stored ∧ apiKey.Keeps stored

def Revoked (apiKeyId : String) (db : Db) : Prop :=
  ∃ stored, db.apiKeys.get apiKeyId = some stored ∧ stored.status = .revoked

theorem lasts_app (implies : ∀ first second, kept first second → Kept first second) (app : AppRecord) :
    Lasts kept app.Held := by
  intro first second follows held
  obtain ⟨stored, found, keeps⟩ := held
  obtain ⟨later, there, onwards⟩ := (implies _ _ follows).apps app.id stored found trivial
  exact ⟨later, there, keeps.trans onwards⟩

theorem lasts_apiKey (implies : ∀ first second, kept first second → Kept first second) (apiKey : ApiKeyRecord) :
    Lasts kept apiKey.Held := by
  intro first second follows held
  obtain ⟨stored, found, keeps⟩ := held
  obtain ⟨later, there, onwards⟩ := (implies _ _ follows).apiKeys apiKey.id stored found trivial
  exact ⟨later, there, keeps.trans onwards⟩

theorem lasts_revoked (implies : ∀ first second, kept first second → Kept first second) (apiKeyId : String) :
    Lasts kept (Revoked apiKeyId) := by
  intro first second follows held
  obtain ⟨stored, found, revoked⟩ := held
  obtain ⟨later, there, onwards⟩ := (implies _ _ follows).apiKeys apiKeyId stored found trivial
  exact ⟨later, there, onwards.revoked revoked⟩

/-- What the lookup of an owner's app has found. -/
def FoundApp (ownerId appId : String) (app : AppRecord) (db : Db) : Prop :=
  app.Held db ∧ app.id = appId ∧ app.ownerId = ownerId

/-- What the lookup of an owner's key has found. -/
def FoundApiKey (ownerId apiKeyId : String) (apiKey : ApiKeyRecord) (db : Db) : Prop :=
  apiKey.Held db ∧ apiKey.id = apiKeyId ∧ ∃ app : AppRecord, app.Held db ∧ app.id = apiKey.appId ∧ app.ownerId = ownerId

theorem foundApp_forOwner {ownerId appId : String} {app : AppRecord} (found : FoundApp ownerId appId app db) :
    ∃ stored, db.appForOwner ownerId appId = some stored ∧ app.Keeps stored := by
  obtain ⟨⟨stored, there, keeps⟩, key, owned⟩ := found
  refine ⟨stored, ?_, keeps⟩
  rw [Db.appForOwner, ← key, there]
  simp [keeps.ownerId, owned]

theorem foundApiKey_forOwner {ownerId apiKeyId : String} {apiKey : ApiKeyRecord}
    (found : FoundApiKey ownerId apiKeyId apiKey db) :
    ∃ stored, db.apiKeyForOwner ownerId apiKeyId = some stored ∧ apiKey.Keeps stored := by
  obtain ⟨⟨stored, there, keeps⟩, key, app, ⟨held, place, same⟩, named, owned⟩ := found
  refine ⟨stored, ?_, keeps⟩
  rw [Db.apiKeyForOwner, ← key, there]
  simp only [Option.filter_eq_some_iff, true_and]
  rw [keeps.appId, ← named, place]
  simp [same.ownerId, owned]

end Held

section Statements
open Program
variable {platform : Platform} {kept : Db → Db → Prop} {request : Request} {known : Db → Prop}

theorem learns_findAppForOwner (implies : ∀ first second, kept first second → Kept first second) (ownerId appId : String) :
    (findAppForOwner ownerId appId).Learns kept (Allowed platform request)
      (fun found db => known db ∧ ∀ app, found = some app → FoundApp ownerId appId app db) known := by
  apply learns_statement
  · intro now db answer added holds executed
    cases executed
    refine ⟨trivial, ?_⟩
    intro app same
    obtain ⟨found, key, owned⟩ := appForOwner_some same
    exact ⟨⟨app, key ▸ found, AppRecord.Keeps.refl app⟩, key, owned⟩
  · intro answer first second follows holds app same
    obtain ⟨held, rest⟩ := holds app same
    exact ⟨lasts_app implies app _ _ follows held, rest⟩

theorem learns_findApiKeyForOwner (implies : ∀ first second, kept first second → Kept first second)
    (ownerId apiKeyId : String) : (findApiKeyForOwner ownerId apiKeyId).Learns kept (Allowed platform request)
      (fun found db => known db ∧ ∀ apiKey, found = some apiKey → FoundApiKey ownerId apiKeyId apiKey db) known := by
  apply learns_statement
  · intro now db answer added holds executed
    cases executed
    refine ⟨trivial, ?_⟩
    intro apiKey same
    obtain ⟨found, key, app, there, owned⟩ := apiKeyForOwner_some same
    have place : app.id = apiKey.appId := Table.key_of_get there
    exact ⟨⟨apiKey, key ▸ found, ApiKeyRecord.Keeps.refl apiKey⟩, key, app,
      ⟨app, place ▸ there, AppRecord.Keeps.refl app⟩, place, owned⟩
  · intro answer first second follows holds apiKey same
    obtain ⟨held, key, app, there, rest⟩ := holds apiKey same
    exact ⟨lasts_apiKey implies apiKey _ _ follows held, key, app, lasts_app implies app _ _ follows there, rest⟩

theorem learns_audit (req : RequestOrigin) (appId ownerId action targetType targetId : String)
    (before after : Option Resource) :
    (createAuditLogForRequest req appId ownerId action targetType targetId before after).Learns kept
      (Allowed platform request) (fun _ => known) known := by
  apply learns_allowed
  intro now db answer added holds executed
  cases executed
  exact ⟨.audit _ _ _, trivial⟩

theorem learns_uuid : (uuid platform).Learns kept (Allowed platform request)
    (fun id db => known db ∧ ∃ random, id = platform.uuid random) known := by
  apply learns_statement
  · intro now db answer added holds executed
    cases executed
    exact ⟨trivial, now, rfl⟩
  · exact fun answer => lasts_const _ _

theorem learns_randomBytes (size : Nat) : (randomBytes size).Learns kept (Allowed platform request)
    (fun bytes db => known db ∧ ∃ random, bytes = LittleEndian.toBytes size random) known := by
  apply learns_statement
  · intro now db answer added holds executed
    cases executed
    exact ⟨trivial, now, rfl⟩
  · exact fun answer => lasts_const _ _

end Statements

section Services
open Program
variable {platform : Platform} {kept : Db → Db → Prop} {known fact : Db → Prop}

theorem learns_createAppForOwner (req : RequestOrigin) (ownerId : String) (input : CreateAppInput) :
    (createAppForOwner platform req ownerId input).Learns kept (Allowed platform (.createAppForOwner req ownerId input))
      (fun _ => known) known := by
  apply learns_mapError
  apply learns_bind learns_uuid
  intro id
  have inserted : (createApp id ownerId input).Learns kept (Allowed platform (.createAppForOwner req ownerId input))
      (fun _ db => known db ∧ ∃ random, id = platform.uuid random)
      fun db => known db ∧ ∃ random, id = platform.uuid random := by
    apply learns_allowed
    intro now db answer added holds executed
    split at executed
    next => cases executed
    next free =>
      cases executed
      obtain ⟨_, random, rfl⟩ := holds
      refine ⟨.createApp random now ?_, trivial⟩
      intro row member
      simp only [List.any_eq_true, not_exists, not_and, Bool.or_eq_true, Bool.and_eq_true, decide_eq_true_eq,
        not_or] at free
      exact ⟨(free row member).1, fun both => (free row member).2 both.1 both.2⟩
  apply learns_bind inserted
  intro app
  apply learns_bind (learns_audit _ _ _ _ _ _ _ _)
  exact fun _ => learns_pure fun db holds => holds.1

/-- A change of an app that was found leaves the fact behind that it writes. -/
theorem learns_change {request : Request} {query : Query} {ownerId appId : String} {before : AppRecord}
    {change : AppRecord → Nat → AppRecord} (lasts : Lasts kept fact)
    (found : ∀ db, known db → FoundApp ownerId appId before db)
    (each : ∀ db old now, db.appForOwner ownerId appId = some old →
      Allowed platform request db (.app (change old now)) ∧ fact ((Write.app (change old now)).apply db)) :
    (Program.statement query fun now db =>
      .ok ((), (db.appForOwner ownerId appId).toList.map fun app => Write.app (change app now)) : Tx Unit).Learns kept
      (Allowed platform request) (fun _ db => known db ∧ fact db) known := by
  apply learns_statement
  · intro now db answer added holds executed
    obtain ⟨old, stored, _⟩ := foundApp_forOwner (found db holds)
    rw [stored] at executed
    cases executed
    exact ⟨⟨(each db old now stored).1, trivial⟩, (each db old now stored).2⟩
  · exact fun _ => lasts

/-- What the update writes is so when it is answered. -/
theorem learns_updateAppForOwner (implies : ∀ first second, kept first second → Kept first second) (req : RequestOrigin)
    (ownerId appId : String) (input : UpdateAppInput) (lasts : Lasts kept fact)
    (written : ∀ db old now, db.appForOwner ownerId appId = some old →
      fact ((Write.app (old.updated input now)).apply db)) :
    (updateAppForOwner req ownerId appId input).Learns kept
      (Allowed platform (.updateAppForOwner req ownerId appId input)) (fun _ => fact) known := by
  apply learns_bind (learns_findAppForOwner implies ownerId appId)
  intro found
  cases found with
  | none => exact learns_throw _
  | some before =>
    have updated : (appRepository.updateAppForOwner ownerId appId input).Learns kept
        (Allowed platform (.updateAppForOwner req ownerId appId input)) (fun _ db =>
          (known db ∧ ∀ app, some before = some app → FoundApp ownerId appId app db) ∧ fact db)
        fun db => known db ∧ ∀ app, some before = some app → FoundApp ownerId appId app db :=
      learns_change lasts (fun _ holds => holds.2 before rfl)
        fun db old now stored => ⟨.updateApp stored now, written db old now stored⟩
    apply learns_bind updated
    intro _
    apply learns_bind (learns_findAppForOwner implies ownerId appId)
    intro found
    cases found with
    | none => exact learns_throw _
    | some after =>
      apply learns_bind (learns_audit _ _ _ _ _ _ _ _)
      exact fun _ => learns_pure fun db holds => holds.1.2

theorem learns_disableAppForOwner (implies : ∀ first second, kept first second → Kept first second) (req : RequestOrigin)
    (ownerId appId : String) (lasts : Lasts kept fact)
    (written : ∀ db old now, db.appForOwner ownerId appId = some old →
      fact ((Write.app { old with status := .disabled, updatedAt := now }).apply db)) :
    (disableAppForOwner req ownerId appId).Learns kept (Allowed platform (.disableAppForOwner req ownerId appId))
      (fun _ => fact) known := by
  apply learns_bind (learns_findAppForOwner implies ownerId appId)
  intro found
  cases found with
  | none => exact learns_throw _
  | some before =>
    have disabled : (appRepository.disableAppForOwner ownerId appId).Learns kept
        (Allowed platform (.disableAppForOwner req ownerId appId)) (fun _ db =>
          (known db ∧ ∀ app, some before = some app → FoundApp ownerId appId app db) ∧ fact db)
        fun db => known db ∧ ∀ app, some before = some app → FoundApp ownerId appId app db :=
      learns_change lasts (fun _ holds => holds.2 before rfl)
        fun db old now stored => ⟨.disableApp stored now, written db old now stored⟩
    apply learns_bind disabled
    intro _
    apply learns_bind (learns_findAppForOwner implies ownerId appId)
    intro found
    cases found with
    | none => exact learns_throw _
    | some after =>
      apply learns_bind (learns_audit _ _ _ _ _ _ _ _)
      exact fun _ => learns_pure fun db holds => holds.1.2

/-- The creation of a key leaves the fact behind that it writes. -/
theorem learns_createApiKeyForOwner (implies : ∀ first second, kept first second → Kept first second) (req : RequestOrigin)
    (ownerId : String) (input : CreateApiKeyInput) {fact : ApiKeyRecord → Db → Prop}
    (lasts : ∀ apiKey, Lasts kept (fact apiKey))
    (written : ∀ db rawKey app apiKey, Issues platform ownerId input rawKey app apiKey → known db →
      (∀ row ∈ db.apiKeys, row.id ≠ apiKey.id ∧ row.keyHash ≠ apiKey.keyHash) →
      fact apiKey ((Write.apiKey apiKey).apply db)) :
    (createApiKeyForOwner platform req ownerId input).Learns kept
      (Allowed platform (.createApiKeyForOwner req ownerId input))
      (fun response db => ∃ rawKey app apiKey, Issues platform ownerId input rawKey app apiKey ∧
        response = .created (serializeApiKey apiKey) rawKey ∧ app.Held db ∧ fact apiKey db) known := by
  apply learns_bind (learns_findAppForOwner implies ownerId input.appId)
  intro found
  cases found with
  | none => exact learns_throw _
  | some app =>
    apply learns_bind (learns_randomBytes _)
    intro bytes
    apply learns_mapError
    apply learns_bind learns_uuid
    intro id
    have inserted : (createApiKey platform id app input (createRawApiKey app.environment bytes)).Learns kept
        (Allowed platform (.createApiKeyForOwner req ownerId input))
        (fun apiKey db => (((known db ∧ ∀ one, some app = some one → FoundApp ownerId input.appId one db) ∧
          ∃ random, bytes = LittleEndian.toBytes apiKeyRandomBytes random) ∧ ∃ random, id = platform.uuid random) ∧
          Issues platform ownerId input (createRawApiKey app.environment bytes) app apiKey ∧ fact apiKey db)
        fun db => ((known db ∧ ∀ one, some app = some one → FoundApp ownerId input.appId one db) ∧
          ∃ random, bytes = LittleEndian.toBytes apiKeyRandomBytes random) ∧ ∃ random, id = platform.uuid random := by
      apply learns_statement
      · intro now db answer added holds executed
        obtain ⟨⟨⟨before, looked⟩, random, drawn⟩, _⟩ := holds
        have there := looked app rfl
        obtain ⟨stored, present, keeps⟩ := foundApp_forOwner there
        split at executed
        next => cases executed
        next free =>
          split at executed
          next => cases executed
          next =>
            cases executed
            have fresh : ∀ row ∈ db.apiKeys, row.id ≠ id ∧
                row.keyHash ≠ hashApiKey platform (createRawApiKey app.environment bytes) := by
              intro row member
              simp only [List.any_eq_true, not_exists, not_and, Bool.or_eq_true, decide_eq_true_eq, not_or] at free
              exact free row member
            have issues : Issues platform ownerId input (createRawApiKey app.environment bytes) app
                (newApiKey platform id app input (createRawApiKey app.environment bytes) now) :=
              ⟨there.2.2, there.2.1, ⟨random, by rw [drawn]⟩, id, now, rfl⟩
            refine ⟨⟨?_, trivial⟩, issues, written db _ app _ issues before fresh⟩
            -- the row is the one of the app as it is stored now
            have same : newApiKey platform id app input (createRawApiKey app.environment bytes) now =
                newApiKey platform id stored input (createRawApiKey stored.environment
                  (LittleEndian.toBytes apiKeyRandomBytes random)) now := by
              rw [drawn, keeps.environment, newApiKey, newApiKey, keeps.id, keeps.environment]
            rw [same]
            apply Allowed.createApiKey present
            rw [keeps.environment, ← drawn]
            exact fresh
      · intro apiKey first second follows holds
        exact ⟨holds.1, lasts apiKey _ _ follows holds.2⟩
    apply learns_bind inserted
    intro apiKey
    apply learns_bind (learns_audit _ _ _ _ _ _ _ _)
    intro _
    apply learns_pure
    intro db holds
    obtain ⟨⟨⟨⟨_, looked⟩, _⟩, _⟩, issues, left⟩ := holds
    exact ⟨_, app, apiKey, issues, rfl, (looked app rfl).1, left⟩

/-- A key is revoked when its revocation is answered. -/
theorem learns_revokeApiKeyForOwner (implies : ∀ first second, kept first second → Kept first second) (req : RequestOrigin)
    (ownerId apiKeyId : String) : (revokeApiKeyForOwner req ownerId apiKeyId).Learns kept
      (Allowed platform (.revokeApiKeyForOwner req ownerId apiKeyId)) (fun _ => Revoked apiKeyId) known := by
  apply learns_bind (learns_findApiKeyForOwner implies ownerId apiKeyId)
  intro found
  cases found with
  | none => exact learns_throw _
  | some before =>
    have revoked : (apiKeyRepository.revokeApiKeyForOwner ownerId apiKeyId).Learns kept
        (Allowed platform (.revokeApiKeyForOwner req ownerId apiKeyId)) (fun _ db =>
          (known db ∧ ∀ apiKey, some before = some apiKey → FoundApiKey ownerId apiKeyId apiKey db) ∧ Revoked apiKeyId db)
        fun db => known db ∧ ∀ apiKey, some before = some apiKey → FoundApiKey ownerId apiKeyId apiKey db := by
      apply learns_statement
      · intro now db answer added holds executed
        obtain ⟨old, stored, _⟩ := foundApiKey_forOwner (holds.2 before rfl)
        obtain ⟨there, key, _⟩ := apiKeyForOwner_some stored
        rw [stored] at executed
        by_cases active : old.status = .active
        · simp only [Option.filter_some, active, decide_true, if_true] at executed
          cases executed
          refine ⟨⟨.revokeApiKey stored active now, trivial⟩,
            { old with status := .revoked, revokedAt := some now }, ?_, rfl⟩
          rw [← key]
          exact Table.get_put_self { old with status := .revoked, revokedAt := some now } db.apiKeys
        · simp only [Option.filter_some, active, decide_false] at executed
          cases executed
          refine ⟨trivial, old, there, ?_⟩
          cases status : old.status with
          | active => exact absurd status active
          | revoked => rfl
      · exact fun _ => lasts_revoked implies apiKeyId
    apply learns_bind revoked
    intro _
    apply learns_bind (learns_findApiKeyForOwner implies ownerId apiKeyId)
    intro found
    cases found with
    | none => exact learns_throw _
    | some after =>
      apply learns_bind (learns_audit _ _ _ _ _ _ _ _)
      exact fun _ => learns_pure fun db holds => holds.1.2

/-- The answer to what the lookup of the key has found. -/
def verdict (required : Required) : Option (ApiKeyRecord × AppRecord) → Response
  | none => .refused (authenticationError "Invalid API key.")
  | some (apiKey, app) => grant required apiKey app (Text.trim apiKey.appId)

theorem tenantContext_ok {appId tenant : String} (passed : tenantContext appId = .ok tenant) : tenant = Text.trim appId := by
  unfold tenantContext at passed
  simp only at passed
  split at passed
  next => cases passed
  next =>
    cases passed
    rfl

/-- The answer rests on one lookup of the key. -/
theorem learns_requireApiKey (headers : Headers) (required : Required)
    {fact : String → Option (ApiKeyRecord × AppRecord) → Db → Prop}
    (lasts : ∀ rawKey found, Lasts kept (fact rawKey found))
    (looked : ∀ db rawKey, known db → fact rawKey (db.activeApiKey (hashApiKey platform rawKey)) db) :
    (requireApiKey platform headers required).Learns kept (Allowed platform (.requireApiKey headers required))
      (fun response db => response = .refused (authenticationError "API key required.") ∧ extractApiKey headers = none ∨
        ∃ rawKey found, extractApiKey headers = some rawKey ∧ fact rawKey found db ∧ response = verdict required found)
      known := by
  unfold requireApiKey
  cases presented : extractApiKey headers with
  | none => exact learns_pure fun _ _ => .inl ⟨rfl, rfl⟩
  | some rawKey =>
    have found : (authenticateApiKey platform rawKey).Learns kept (Allowed platform (.requireApiKey headers required))
        (fun found db => known db ∧ fact rawKey found db) known := by
      have searched : (findActiveApiKeyByHash (hashApiKey platform rawKey)).Learns kept
          (Allowed platform (.requireApiKey headers required)) (fun found db => known db ∧ fact rawKey found db) known := by
        apply learns_statement
        · intro now db answer added holds executed
          cases executed
          exact ⟨trivial, looked db rawKey holds⟩
        · exact lasts rawKey
      apply learns_bind searched
      intro found
      cases found with
      | none => exact learns_pure fun _ holds => holds
      | some found =>
        have used : (updateApiKeyLastUsedAt found.1.id).Learns kept (Allowed platform (.requireApiKey headers required))
            (fun _ db => known db ∧ fact rawKey (some found) db) fun db => known db ∧ fact rawKey (some found) db := by
          apply learns_allowed
          intro now db answer added holds executed
          split at executed
          next => cases executed
          next old stored =>
            cases executed
            have key : old.id = found.1.id := Table.key_of_get stored
            exact ⟨.useApiKey (key.symm ▸ stored) now, trivial⟩
        apply learns_bind used
        exact fun _ => learns_pure fun _ holds => holds
    apply learns_bind found
    intro found
    cases found with
    | none => exact learns_pure fun _ holds => .inr ⟨rawKey, none, rfl, holds.2, rfl⟩
    | some found =>
      apply learns_check
      intro tenant passed
      apply learns_pure
      intro db holds
      refine .inr ⟨rawKey, some found, rfl, holds.2, ?_⟩
      rw [tenantContext_ok passed]
      rfl

end Services

section Lookup
variable {db : Db}

theorem activeApiKey_some {keyHash : String} {apiKey : ApiKeyRecord} {app : AppRecord}
    (found : db.activeApiKey keyHash = some (apiKey, app)) : db.apiKeys.get apiKey.id = some apiKey ∧
      apiKey.keyHash = keyHash ∧ apiKey.status = .active ∧ db.apps.get apiKey.appId = some app ∧ app.status = .active := by
  obtain ⟨row, member, passed⟩ := List.exists_of_findSome?_eq_some found
  split at passed
  next matching =>
    obtain ⟨one, there, same⟩ := Option.map_eq_some_iff.mp passed
    cases same
    obtain ⟨stored, active⟩ := Option.filter_eq_some_iff.mp there
    exact ⟨Table.get_of_mem member, matching.1, matching.2, stored, by simpa using active⟩
  next => cases passed

/-- A hash is the hash of one key. -/
def UniqueHashes (db : Db) : Prop :=
  ∀ one ∈ db.apiKeys, ∀ other ∈ db.apiKeys, one.keyHash = other.keyHash → one.id = other.id

theorem activeApiKey_unique (unique : UniqueHashes db) {apiKey : ApiKeyRecord} {app : AppRecord}
    (stored : db.apiKeys.get apiKey.id = some apiKey) (active : apiKey.status = .active)
    (place : db.apps.get apiKey.appId = some app) (running : app.status = .active) :
    db.activeApiKey apiKey.keyHash = some (apiKey, app) := by
  have passes : (if apiKey.keyHash = apiKey.keyHash ∧ apiKey.status = .active then
      ((db.apps.get apiKey.appId).filter fun app => app.status = .active).map fun app => (apiKey, app)
      else none) = some (apiKey, app) := by
    rw [if_pos ⟨rfl, active⟩, place]
    simp [running]
  cases found : db.activeApiKey apiKey.keyHash with
  | none =>
    have fails := List.findSome?_eq_none_iff.mp found apiKey (Table.mem_of_get stored)
    exact absurd (passes.symm.trans fails) (by simp)
  | some pair =>
    obtain ⟨other, place'⟩ := pair
    obtain ⟨there, hash, _, at', _⟩ := activeApiKey_some found
    have same := unique other (Table.mem_of_get there) apiKey (Table.mem_of_get stored) hash
    rw [same, stored] at there
    cases there
    rw [place] at at'
    cases at'
    rfl

theorem uniqueHashes_allowed {platform : Platform} {request : Request} {write : Write}
    (allows : Allowed platform request db write) (unique : UniqueHashes db) : UniqueHashes (write.apply db) := by
  cases write with
  | app row => exact unique
  | auditLog row => exact unique
  | apiKey row =>
    intro one oneIn other otherIn hashes
    rcases allowed_apiKey allows with ⟨old, stored, keeps⟩ | ⟨_, _, _, _, _, _, _, _, free⟩
    · -- each row has the hash that the row under its id had before
      have back : ∀ each ∈ db.apiKeys.put row, ∃ before ∈ db.apiKeys, before.id = each.id ∧
          before.keyHash = each.keyHash := by
        intro each member
        cases Table.mem_put.mp member with
        | inl equal => exact ⟨old, Table.mem_of_get stored, equal ▸ Table.key_of_get stored, equal ▸ keeps.keyHash.symm⟩
        | inr before => exact ⟨each, before.1, rfl, rfl⟩
      obtain ⟨before, beforeIn, key, hash⟩ := back one oneIn
      obtain ⟨after, afterIn, key', hash'⟩ := back other otherIn
      rw [← key, ← key']
      exact unique before beforeIn after afterIn (hash.trans (hashes.trans hash'.symm))
    · cases Table.mem_put.mp oneIn with
      | inl same =>
        cases Table.mem_put.mp otherIn with
        | inl same' => rw [same, same']
        | inr before =>
          subst same
          exact absurd hashes.symm (free other before.1).2
      | inr before =>
        cases Table.mem_put.mp otherIn with
        | inl same =>
          subst same
          exact absurd hashes (free one before.1).2
        | inr before' => exact unique one before.1 other before'.1 hashes

end Lookup

section Origin
variable (platform : Platform)

/-- Where an app comes from. -/
def AppRecord.Created (requests : Nat → Option Request) (app : AppRecord) : Prop :=
  (∃ random, app.id = platform.uuid random) ∧ ∃ id req input, requests id = some (.createAppForOwner req app.ownerId input) ∧
    app.slug = input.slug ∧ app.environment = input.environment

/-- Where a key comes from: a request of the owner of its app, for these scopes. -/
def ApiKeyRecord.Issued (requests : Nat → Option Request) (db : Db) (apiKey : ApiKeyRecord) : Prop :=
  ∃ id req ownerId input rawKey app row, requests id = some (.createApiKeyForOwner req ownerId input) ∧
    Issues platform ownerId input rawKey app row ∧ app.Held db ∧ row.Keeps apiKey

structure Origins (requests : Nat → Option Request) (db : Db) : Prop where
  apps : ∀ app ∈ db.apps, app.Created platform requests
  apiKeys : ∀ apiKey ∈ db.apiKeys, apiKey.Issued platform requests db

variable {platform} {requests more : Nat → Option Request} {db : Db}

theorem Origins.grows (grows : ∀ id request, requests id = some request → more id = some request)
    (origins : Origins platform requests db) : Origins platform more db := by
  refine ⟨?_, ?_⟩
  · intro app member
    obtain ⟨drawn, id, req, input, arrived, rest⟩ := origins.apps app member
    exact ⟨drawn, id, req, input, grows _ _ arrived, rest⟩
  · intro apiKey member
    obtain ⟨id, req, ownerId, input, rawKey, app, row, arrived, rest⟩ := origins.apiKeys apiKey member
    exact ⟨id, req, ownerId, input, rawKey, app, row, grows _ _ arrived, rest⟩

theorem Origins.allowed {id : Nat} {request : Request} {write : Write} (arrived : requests id = some request)
    (allows : Allowed platform request db write) (origins : Origins platform requests db) :
    Origins platform requests (write.apply db) := by
  have kept := Kept.allowed allows
  have still : ∀ apiKey : ApiKeyRecord, apiKey.Issued platform requests db →
      apiKey.Issued platform requests (write.apply db) := by
    intro apiKey issued
    obtain ⟨id, req, ownerId, input, rawKey, app, row, arrived, issues, held, keeps⟩ := issued
    exact ⟨id, req, ownerId, input, rawKey, app, row, arrived, issues,
      lasts_app (fun _ _ follows => follows) app _ _ kept held, keeps⟩
  cases write with
  | app row =>
    refine ⟨?_, fun apiKey member => still apiKey (origins.apiKeys apiKey member)⟩
    intro app member
    cases Table.mem_put.mp member with
    | inr before => exact origins.apps app before.1
    | inl same =>
      subst same
      rcases allowed_app allows with ⟨old, stored, keeps⟩ | ⟨req, ownerId, input, random, now, rfl, rfl, _⟩
      · obtain ⟨drawn, id, req, input, arrived, slug, environment⟩ := origins.apps old (Table.mem_of_get stored)
        rw [← keeps.id] at drawn
        rw [← keeps.ownerId] at arrived
        exact ⟨drawn, id, req, input, arrived, keeps.slug.trans slug, keeps.environment.trans environment⟩
      · exact ⟨⟨random, rfl⟩, id, req, input, arrived, rfl, rfl⟩
  | apiKey row =>
    refine ⟨origins.apps, ?_⟩
    intro apiKey member
    apply still
    cases Table.mem_put.mp member with
    | inr before => exact origins.apiKeys apiKey before.1
    | inl same =>
      subst same
      rcases allowed_apiKey allows with ⟨old, stored, keeps⟩ | ⟨req, ownerId, input, rawKey, app, rfl, issues, stored, _⟩
      · obtain ⟨id, req, ownerId, input, rawKey, app, row, arrived, issues, held, before⟩ :=
          origins.apiKeys old (Table.mem_of_get stored)
        exact ⟨id, req, ownerId, input, rawKey, app, row, arrived, issues, held, before.trans keeps⟩
      · exact ⟨id, req, ownerId, input, rawKey, app, apiKey, arrived, issues, ⟨app, stored, AppRecord.Keeps.refl app⟩,
          ApiKeyRecord.Keeps.refl apiKey⟩
  | auditLog row => exact ⟨origins.apps, fun apiKey member => still apiKey (origins.apiKeys apiKey member)⟩

end Origin

section Promises
open Program
variable {platform : Platform} {kept : Db → Db → Prop} {known : Db → Prop}

/-- Facts about the database that requests leave behind, and read. -/
structure Facts (platform : Platform) (kept : Db → Db → Prop) (known : Db → Prop) where
  updated : String → UpdateAppInput → Db → Prop
  disabled : String → Db → Prop
  issued : ApiKeyRecord → Db → Prop
  found : String → Option (ApiKeyRecord × AppRecord) → Db → Prop
  lasts_updated : ∀ appId input, Lasts kept (updated appId input)
  lasts_disabled : ∀ appId, Lasts kept (disabled appId)
  lasts_issued : ∀ apiKey, Lasts kept (issued apiKey)
  lasts_found : ∀ rawKey pair, Lasts kept (found rawKey pair)
  updates : ∀ db ownerId appId input old now, db.appForOwner ownerId appId = some old →
    updated appId input ((Write.app (old.updated input now)).apply db)
  disables : ∀ db ownerId appId old now, db.appForOwner ownerId appId = some old →
    disabled appId ((Write.app { old with status := .disabled, updatedAt := now }).apply db)
  issues : ∀ db ownerId input rawKey app apiKey, Issues platform ownerId input rawKey app apiKey → known db →
    (∀ row ∈ db.apiKeys, row.id ≠ apiKey.id ∧ row.keyHash ≠ apiKey.keyHash) →
      issued apiKey ((Write.apiKey apiKey).apply db)
  looks : ∀ db rawKey, known db → found rawKey (db.activeApiKey (hashApiKey platform rawKey)) db

/-- What an answer promises. -/
def Facts.promise (facts : Facts platform kept known) : Request → Response → Db → Prop
  | .createAppForOwner _ _ _, _, _ => True
  | .updateAppForOwner _ _ appId input, _, db => facts.updated appId input db
  | .disableAppForOwner _ _ appId, _, db => facts.disabled appId db
  | .createApiKeyForOwner _ ownerId input, response, db => ∃ rawKey app apiKey,
      Issues platform ownerId input rawKey app apiKey ∧ response = .created (serializeApiKey apiKey) rawKey ∧ app.Held db ∧ facts.issued apiKey db
  | .revokeApiKeyForOwner _ _ apiKeyId, _, db => Revoked apiKeyId db
  | .requireApiKey headers required, response, db =>
      response = .refused (authenticationError "API key required.") ∧ extractApiKey headers = none ∨
      ∃ rawKey found, extractApiKey headers = some rawKey ∧ facts.found rawKey found db ∧ response = verdict required found

theorem Facts.learns (facts : Facts platform kept known) (implies : ∀ first second, kept first second → Kept first second)
    (request : Request) :
    (request.program platform).Learns kept (Allowed platform request) (facts.promise request) known := by
  cases request with
  | createAppForOwner req ownerId input => exact (learns_createAppForOwner req ownerId input).mono fun _ _ _ => trivial
  | updateAppForOwner req ownerId appId input =>
    exact learns_updateAppForOwner implies req ownerId appId input (facts.lasts_updated appId input)
      fun db old now stored => facts.updates db ownerId appId input old now stored
  | disableAppForOwner req ownerId appId =>
    exact learns_disableAppForOwner implies req ownerId appId (facts.lasts_disabled appId)
      fun db old now stored => facts.disables db ownerId appId old now stored
  | createApiKeyForOwner req ownerId input =>
    exact learns_createApiKeyForOwner implies req ownerId input facts.lasts_issued
      fun db rawKey app apiKey issues before fresh => facts.issues db ownerId input rawKey app apiKey issues before fresh
  | revokeApiKeyForOwner req ownerId apiKeyId => exact learns_revokeApiKeyForOwner implies req ownerId apiKeyId
  | requireApiKey headers required =>
    exact learns_requireApiKey headers required facts.lasts_found facts.looks

end Promises

end PactAgent.Tenancy.Apps
