import PactAgent.Foundation.Hex
import PactAgent.Tenancy.Promises

/-! What a key lets a request into: only an app whose owner has issued the key, not after the
key has been revoked or the app disabled, and until then always. Requests run next to
each other, statement by statement. -/

namespace PactAgent.Tenancy.Apps
open PactAgent.Foundation PactAgent.Common
open PactAgent.Foundation.Execution PactAgent.Foundation.Autocommit

section Presenting

theorem whiteSpace_digit {sextet : Nat} (bound : sextet < 64) : Text.isWhiteSpace (Base64Url.digit sextet) = false := by
  have all : ∀ sextet < 64, Text.isWhiteSpace (Base64Url.digit sextet) = false := by decide +kernel
  exact all sextet bound

theorem whiteSpace_lowerDigit {character : Char} (digit : Hex.isLowerDigit character = true) :
    Text.isWhiteSpace character = false := by
  simp only [Hex.isLowerDigit, Bool.or_eq_true, Bool.and_eq_true, decide_eq_true_eq, Char.le_def,
    UInt32.le_iff_toNat_le] at digit
  have bounds : 48 ≤ character.toNat ∧ character.toNat ≤ 57 ∨ 97 ≤ character.toNat ∧ character.toNat ≤ 102 := digit
  simp only [Text.isWhiteSpace, Bool.or_eq_false_iff, Bool.and_eq_false_iff, decide_eq_false_iff_not, beq_eq_false_iff_ne]
  omega

/-- A text without white space is left as it is. -/
theorem trim_of_filled {text : String} (filled : ∀ character ∈ text.toList, Text.isWhiteSpace character = false) :
    Text.trim text = text := by
  have kept : ∀ list : List Char, (∀ character ∈ list, Text.isWhiteSpace character = false) →
      list.dropWhile Text.isWhiteSpace = list := by
    intro list each
    cases list with
    | nil => rfl
    | cons head tail => rw [List.dropWhile_cons_of_neg (by simp [each head List.mem_cons_self])]
  unfold Text.trim
  rw [kept _ filled, kept _ (by simpa using filled), List.reverse_reverse, String.ofList_toList]

theorem toList_rawKey (environment : AppEnvironment) (bytes : List UInt8) :
    (createRawApiKey environment bytes).toList =
      (rawKeyPrefix environment).toList ++ ['_'] ++ Base64Url.encode bytes := by
  unfold createRawApiKey
  simp only [String.toList_append, String.toList_ofList]
  rfl

theorem rawKey_filled (environment : AppEnvironment) (bytes : List UInt8) :
    ∀ character ∈ (createRawApiKey environment bytes).toList, Text.isWhiteSpace character = false := by
  intro character member
  rw [toList_rawKey, List.mem_append] at member
  cases member with
  | inl fixed =>
    have fixed' : character ∈ ['p', 'a', '_', 'l', 'i', 'v', 'e', '_'] ∨
        character ∈ ['p', 'a', '_', 't', 'e', 's', 't', '_'] := by
      cases environment with
      | sandbox => exact .inr fixed
      | production => exact .inl fixed
    have all : ∀ character ∈ ['p', 'a', '_', 'l', 'i', 'v', 'e', '_'] ++ ['p', 'a', '_', 't', 'e', 's', 't', '_'],
        Text.isWhiteSpace character = false := by simp [Text.isWhiteSpace]
    exact all character (List.mem_append.mpr fixed')
  | inr encoded =>
    obtain ⟨sextet, member, rfl⟩ := List.mem_map.mp encoded
    exact whiteSpace_digit (Base64Url.sextets_bound sextet member)

/-- The headers of a request that carries the key, in one of the two places. -/
def Headers.Carry (headers : Headers) (rawKey : String) : Prop :=
  headers.xApiKey = some rawKey ∨ headers.xApiKey = none ∧ headers.authorization = some ("Bearer " ++ rawKey)

theorem behind_append (beginning rest : String) : behind beginning (beginning ++ rest) = some rest := by
  unfold behind
  rw [String.toList_append, if_pos (by simp), List.drop_left, String.ofList_toList]

/-- A key that was issued is read from the headers as it was issued. -/
theorem extractApiKey_issued {headers : Headers} {environment : AppEnvironment} {bytes : List UInt8}
    (carry : headers.Carry (createRawApiKey environment bytes)) :
    extractApiKey headers = some (createRawApiKey environment bytes) := by
  have trimmed := trim_of_filled (rawKey_filled environment bytes)
  have ne : createRawApiKey environment bytes ≠ "" := by
    intro empty
    have none := congrArg String.toList empty
    rw [toList_rawKey] at none
    simp at none
  rcases carry with direct | ⟨missing, bearer⟩
  · have filled : (some (createRawApiKey environment bytes)).filter (· ≠ "") = some (createRawApiKey environment bytes) := by
      rw [Option.filter_some, if_pos (by simpa using ne)]
    rw [extractApiKey, direct, Option.map_some, trimmed, filled]
  · have marked : (behind "pa_test_" (createRawApiKey environment bytes)).isSome ∨
        (behind "pa_live_" (createRawApiKey environment bytes)).isSome := by
      cases environment with
      | sandbox =>
        have same : createRawApiKey .sandbox bytes = "pa_test_" ++ String.ofList (Base64Url.encode bytes) := rfl
        rw [same, behind_append]
        exact .inl rfl
      | production =>
        have same : createRawApiKey .production bytes = "pa_live_" ++ String.ofList (Base64Url.encode bytes) := rfl
        rw [same, behind_append "pa_live_"]
        exact .inr rfl
    simp only [extractApiKey, missing, bearer, Option.map_none, Option.filter_none, Option.bind_some, behind_append, trimmed,
      if_pos marked]

end Presenting

section Sample

def firstKey : String := createRawApiKey .sandbox (LittleEndian.toBytes apiKeyRandomBytes 7)
def secondKey : String := createRawApiKey .sandbox (LittleEndian.toBytes apiKeyRandomBytes 8)

/-- The real hashes of two keys. -/
def samplePlatform : Platform where
  sha256Hex text :=
    if text = firstKey then "11699dbbaacb7296689ea025ebd4b2887a6976b34db3977626f34b7aa0cc404d"
    else if text = secondKey then "d1131b99d64c4f47cc5afcd62fc96cac0849477465e007f8618de7270cb7cca5"
    else text
  uuid random := "00000000-0000-4000-8000-" ++ String.ofList (Hex.encode (LittleEndian.toBytes 6 random))
  uuid_filled random := by
    refine ⟨trim_of_filled ?_, ?_⟩
    · intro character member
      simp only [String.toList_append, String.toList_ofList, List.mem_append] at member
      cases member with
      | inl fixed =>
        have all : ∀ character ∈ "00000000-0000-4000-8000-".toList, Text.isWhiteSpace character = false := by
          simp [Text.isWhiteSpace]
        exact all character fixed
      | inr encoded => exact whiteSpace_lowerDigit (Hex.mem_encode encoded).1
    · intro empty
      have none := congrArg String.toList empty
      simp at none

def shop : CreateAppInput := ⟨"Shop", "shop", .sandbox, "CKB", "sandbox"⟩
def library' : CreateAppInput := ⟨"Library", "library", .sandbox, "CKB", "sandbox"⟩
def origin : RequestOrigin := ⟨"203.0.113.7", none, "request"⟩
def readsAgreements (appId : String) : CreateApiKeyInput := ⟨appId, "Server", [.agreementsRead], by decide⟩

def createsApp (id : Nat) (input : CreateAppInput) : List Action :=
  [.arrive id (.createAppForOwner origin "owner" input), .statement id id, .statement id 100, .statement id 0]

def issuesKey (id app random : Nat) : List Action :=
  [.arrive id (.createApiKeyForOwner origin "owner" (readsAgreements (samplePlatform.uuid app))), .statement id 0,
    .statement id random, .statement id id, .statement id 110, .statement id 0]

def presents (id : Nat) (rawKey : String) : List Action :=
  [.arrive id (.requireApiKey ⟨some rawKey, none⟩ (.scope .agreementsRead)), .statement id 0, .statement id 120]

/-- A request of four statements. -/
def asks (id : Nat) (request : Request) : List Action :=
  [.arrive id request, .statement id 0, .statement id 130, .statement id 0, .statement id 0]

def shopApp : AppRecord := newApp (samplePlatform.uuid 0) "owner" shop 100
def libraryApp : AppRecord := newApp (samplePlatform.uuid 1) "owner" library' 100
def shopKey (id : Nat) (rawKey : String) : ApiKeyRecord :=
  newApiKey samplePlatform (samplePlatform.uuid id) shopApp (readsAgreements shopApp.id) rawKey 110

def revokedKey : Resource := serializeApiKey { shopKey 2 firstKey with status := .revoked, revokedAt := some 130 }

def disabledApp : Resource := serializeApp { shopApp with status := .disabled, updatedAt := 130 }
def libraryKey : ApiKeyRecord :=
  newApiKey samplePlatform (samplePlatform.uuid 3) libraryApp (readsAgreements libraryApp.id) secondKey 110

theorem openingSeen : (run (step samplePlatform) initial (createsApp 0 shop ++ issuesKey 2 0 7 ++ presents 3 firstKey)).map
    (·.answer 3) = some (some (.requireApiKey ⟨some firstKey, none⟩ (.scope .agreementsRead),
      .authorized (shopKey 2 firstKey) shopApp shopApp.id)) := by
  decide +kernel

end Sample

section Reached
variable (platform : Platform)

/-- No facts at all. -/
def silent (kept : Db → Db → Prop) (known : Db → Prop) : Facts platform kept known where
  updated _ _ _ := True
  disabled _ _ := True
  issued _ _ := True
  found _ _ _ := True
  lasts_updated _ _ := lasts_const _ _
  lasts_disabled _ := lasts_const _ _
  lasts_issued _ := lasts_const _ _
  lasts_found _ _ := lasts_const _ _
  updates _ _ _ _ _ _ _ := trivial
  disables _ _ _ _ _ _ := trivial
  issues _ _ _ _ _ _ _ _ _ := trivial
  looks _ _ _ := trivial

/-- What the lookup of a key has found whatever else goes on. -/
def plain : Facts platform Kept fun _ => True where
  __ := silent platform Kept fun _ => True
  found rawKey pair db := ∀ apiKey app, pair = some (apiKey, app) →
    apiKey.Held db ∧ app.Held db ∧ app.id = apiKey.appId ∧ apiKey.keyHash = hashApiKey platform rawKey
  lasts_found _ _ _ _ follows holds apiKey app same :=
    ⟨lasts_apiKey (fun _ _ kept => kept) apiKey _ _ follows (holds apiKey app same).1,
      lasts_app (fun _ _ kept => kept) app _ _ follows (holds apiKey app same).2.1, (holds apiKey app same).2.2⟩
  looks db rawKey _ apiKey app same := by
    obtain ⟨stored, hash, _, place, _⟩ := activeApiKey_some same
    have key : app.id = apiKey.appId := Table.key_of_get place
    exact ⟨⟨apiKey, stored, ApiKeyRecord.Keeps.refl apiKey⟩, ⟨app, key ▸ place, AppRecord.Keeps.refl app⟩, key, hash⟩

variable {platform} {actions : List Action} {state : State}

theorem honest_reached (reached : run (step platform) initial actions = some state) :
    Honest Kept (Allowed platform) (fun _ => (plain platform).promise) state :=
  ((kept_respects platform).always reached (onlyActing_all _ _) (honest_start _)
    (fun _ => (plain platform).learns fun _ _ kept => kept) (lasts_const Kept True) trivial).1

theorem origins_reached (reached : run (step platform) initial actions = some state) :
    Origins platform state.requests state.db := by
  apply (kept_respects platform).history (Origins platform) (fun _ _ _ grows origins => origins.grows grows)
    (fun _ _ _ _ _ arrived allows origins => origins.allowed arrived allows)
    (fun _ => (plain platform).learns fun _ _ kept => kept) reached (honest_start _)
  exact ⟨fun _ member => absurd member (Table.not_mem_empty _), fun _ member => absurd member (Table.not_mem_empty _)⟩

theorem uniqueHashes_reached (reached : run (step platform) initial actions = some state) : UniqueHashes state.db := by
  apply (kept_respects platform).history (fun _ db => UniqueHashes db) (fun _ _ _ _ unique => unique)
    (fun _ _ _ _ _ _ allows unique => uniqueHashes_allowed allows unique)
    (fun _ => (plain platform).learns fun _ _ kept => kept) reached (honest_start _)
  exact fun _ member => absurd member (Table.not_mem_empty _)

/-- The tenant of a request is the app as its owner knows it. -/
theorem trim_appId (reached : run (step platform) initial actions = some state) {app : AppRecord} (held : app.Held state.db) :
    Text.trim app.id = app.id := by
  obtain ⟨stored, there, keeps⟩ := held
  obtain ⟨⟨random, drawn⟩, _⟩ := (origins_reached reached).apps stored (Table.mem_of_get there)
  rw [← keeps.id, drawn]
  exact (platform.uuid_filled random).1

theorem grant_authorized {required : Required} {apiKey found : ApiKeyRecord} {app place : AppRecord} {tenant context : String}
    (admitted : grant required found place context = .authorized apiKey app tenant) :
    required.check apiKey.scopes = .ok () ∧ found = apiKey ∧ place = app ∧ context = tenant := by
  unfold grant at admitted
  split at admitted
  next passed =>
    cases admitted
    exact ⟨passed, rfl, rfl, rfl⟩
  next => cases admitted

/-- An authorized answer rests on a key that was found. -/
theorem verdict_authorized {required : Required} {pair : Option (ApiKeyRecord × AppRecord)} {apiKey : ApiKeyRecord}
    {app : AppRecord} {tenant : String} (admitted : .authorized apiKey app tenant = verdict required pair) :
    pair = some (apiKey, app) ∧ tenant = Text.trim apiKey.appId ∧ required.check apiKey.scopes = .ok () := by
  cases pair with
  | none => cases admitted
  | some found =>
    obtain ⟨passed, rfl, rfl, rfl⟩ := grant_authorized admitted.symm
    exact ⟨rfl, rfl, passed⟩

/-- The owner of the app has issued the key that was presented, for this app and these scopes. -/
def Grounds (platform : Platform) (state : State) (headers : Headers) (required : Required) (apiKey : ApiKeyRecord)
    (app : AppRecord) (tenant : String) : Prop :=
  ∃ issuer creator req req' input input' rawKey issued random,
    state.requests issuer = some (.createApiKeyForOwner req app.ownerId input) ∧
    state.requests creator = some (.createAppForOwner req' app.ownerId input') ∧
    issued = createRawApiKey input'.environment (LittleEndian.toBytes apiKeyRandomBytes random) ∧
    extractApiKey headers = some rawKey ∧ hashApiKey platform rawKey = hashApiKey platform issued ∧
    tenant = input.appId ∧ app.id = input.appId ∧ apiKey.appId = input.appId ∧
    apiKey.scopes = input.scopes ∧ apiKey.name = input.name ∧ apiKey.keyPrefix = getApiKeyPrefix issued ∧
    apiKey.environment = input'.environment ∧ required.check input.scopes = .ok ()

/-- A request gets into an app only by a key that the owner of the app has issued for the
app, and for the scopes that the route asks. -/
theorem authorized_issued (reached : run (step platform) initial actions = some state) {id : Nat} {headers : Headers}
    {required : Required} {apiKey : ApiKeyRecord} {app : AppRecord} {tenant : String}
    (answered : state.answer id = some (.requireApiKey headers required, .authorized apiKey app tenant)) :
    Grounds platform state headers required apiKey app tenant := by
  have promised := (honest_reached reached).answered answered
  rcases promised with ⟨refused, _⟩ | ⟨rawKey, pair, presented, facts, same⟩
  · cases refused
  · obtain ⟨found, tenants, passed⟩ := verdict_authorized same
    obtain ⟨⟨stored, there, keeps⟩, ⟨home, at', still⟩, place, hash⟩ := facts apiKey app found
    have origins := origins_reached reached
    obtain ⟨issuer, req, ownerId, input, issued, source, row, arrived, issues, ⟨source', at'', same'⟩, onwards⟩ :=
      origins.apiKeys stored (Table.mem_of_get there)
    obtain ⟨_, creator, req', input', arrived', _, environment⟩ := origins.apps home (Table.mem_of_get at')
    obtain ⟨owned, named, ⟨random, drawn⟩, rowId, now, rfl⟩ := issues
    -- the app of the issued key, the app that was found and the stored app are one
    have appId : stored.appId = source.id := onwards.appId
    have one : source.id = app.id := by rw [← appId, keeps.appId, place]
    rw [one, at'] at at''
    cases at''
    have owner : ownerId = app.ownerId := by rw [← owned, ← same'.ownerId, still.ownerId]
    have environments : source.environment = input'.environment := same'.environment.symm.trans environment
    have tenant' : tenant = app.id := by
      rw [tenants, ← place, trim_appId reached ⟨home, at', still⟩]
    subst owner
    rw [still.ownerId] at arrived'
    refine ⟨issuer, creator, req, req', input, input', rawKey, issued, random, arrived, arrived', environments ▸ drawn,
      presented, ?_, tenant'.trans (one.symm.trans named), one.symm.trans named, ?_, ?_, ?_, ?_, ?_, ?_⟩
    · rw [← hash, ← keeps.keyHash, onwards.keyHash]
      rfl
    · rw [← place, ← one, named]
    · rw [← keeps.scopes, onwards.scopes]
      rfl
    · rw [← keeps.name, onwards.name]
      rfl
    · rw [← keeps.keyPrefix, onwards.keyPrefix]
      rfl
    · rw [← keeps.environment, onwards.environment]
      exact environments
    · have scopes : apiKey.scopes = input.scopes := by
        rw [← keeps.scopes, onwards.scopes]
        rfl
      rw [← scopes]
      exact passed

theorem opening_authorized : ∃ state,
    run (step samplePlatform) initial (createsApp 0 shop ++ issuesKey 2 0 7 ++ presents 3 firstKey) = some state ∧
    Grounds samplePlatform state ⟨some firstKey, none⟩ (.scope .agreementsRead) (shopKey 2 firstKey) shopApp shopApp.id := by
  obtain ⟨state, reached, answered⟩ := Option.map_eq_some_iff.mp openingSeen
  exact ⟨state, reached, authorized_issued reached answered⟩

end Reached

section Revocation
variable {platform : Platform}

/-- Where a key is revoked, no lookup finds it. -/
def afterRevocation (platform : Platform) (apiKeyId : String) : Facts platform Kept (Revoked apiKeyId) where
  __ := silent platform Kept (Revoked apiKeyId)
  found _ pair _ := ∀ apiKey app, pair = some (apiKey, app) → apiKey.id ≠ apiKeyId
  lasts_found _ _ := lasts_const _ _
  looks db rawKey known apiKey app same := by
    rintro rfl
    obtain ⟨stored, there, revoked⟩ := known
    obtain ⟨there', _, active, _⟩ := activeApiKey_some same
    cases there.symm.trans there'
    rw [active] at revoked
    cases revoked

/-- Once a revocation has been answered, no request that arrives later gets in by the key. -/
theorem revoked_refused {first second : List Action} {middle final : State}
    (reached : run (step platform) initial first = some middle) {revoker : Nat} {req : RequestOrigin}
    {ownerId apiKeyId : String} {response : Response}
    (revoked : middle.answer revoker = some (.revokeApiKeyForOwner req ownerId apiKeyId, response))
    (onwards : run (step platform) middle second = some final) {id : Nat} (absent : middle.requests id = none)
    {headers : Headers} {required : Required} {apiKey : ApiKeyRecord} {app : AppRecord} {tenant : String}
    (answered : final.answer id = some (.requireApiKey headers required, .authorized apiKey app tenant)) :
    apiKey.id ≠ apiKeyId := by
  have honest := honest_reached reached
  have known : Revoked apiKeyId middle.db := honest.answered revoked
  have promised := (kept_respects platform).answers onwards (onlyActing_all _ _) honest
    ((afterRevocation platform apiKeyId).learns fun _ _ kept => kept) (lasts_revoked (fun _ _ kept => kept) apiKeyId) known
    absent answered
  rcases promised with ⟨refused, _⟩ | ⟨rawKey, pair, _, facts, same⟩
  · cases refused
  · exact facts apiKey app (verdict_authorized same).1

theorem secondKey_survives : ∃ middle final,
    run (step samplePlatform) initial (createsApp 0 shop ++ issuesKey 2 0 7 ++ issuesKey 3 0 8 ++
      asks 4 (.revokeApiKeyForOwner origin "owner" (samplePlatform.uuid 2))) = some middle ∧
    run (step samplePlatform) middle (presents 5 secondKey) = some final ∧
    (shopKey 3 secondKey).id ≠ samplePlatform.uuid 2 := by
  have observed : trace (step samplePlatform) (fun state => (state.answer 4, state.requests 5, state.answer 5)) initial
      [createsApp 0 shop ++ issuesKey 2 0 7 ++ issuesKey 3 0 8 ++
        asks 4 (.revokeApiKeyForOwner origin "owner" (samplePlatform.uuid 2)), presents 5 secondKey] =
      [(some (.revokeApiKeyForOwner origin "owner" (samplePlatform.uuid 2), .resource revokedKey), none, none),
       (some (.revokeApiKeyForOwner origin "owner" (samplePlatform.uuid 2), .resource revokedKey),
        some (.requireApiKey ⟨some secondKey, none⟩ (.scope .agreementsRead)),
        some (.requireApiKey ⟨some secondKey, none⟩ (.scope .agreementsRead),
          .authorized (shopKey 3 secondKey) shopApp shopApp.id))] := by
    decide +kernel
  obtain ⟨middle, reached, seen, rest⟩ := trace_cons observed
  obtain ⟨final, onwards, seen', _⟩ := trace_cons rest
  simp only [Prod.mk.injEq] at seen seen'
  exact ⟨middle, final, reached, onwards, revoked_refused reached seen.1 onwards seen.2.1 seen'.2.2⟩

end Revocation

section Disabling
variable {platform : Platform}

def Inactive (appId : String) (db : Db) : Prop := ∃ app, db.apps.get appId = some app ∧ app.status ≠ .active

/-- A request that can make the app active. -/
def Reactivates (appId : String) : Request → Prop
  | .updateAppForOwner _ _ id input => id = appId ∧ input.status = some .active
  | _ => False

/-- A request after which the app is not active. -/
def Deactivates (appId : String) : Request → Prop
  | .updateAppForOwner _ _ id input => id = appId ∧ ∃ status, input.status = some status ∧ status ≠ .active
  | .disableAppForOwner _ _ id => id = appId
  | _ => False

instance (appId : String) : DecidablePred (Reactivates appId)
  | .updateAppForOwner _ _ id input => inferInstanceAs (Decidable (id = appId ∧ input.status = some .active))
  | .createAppForOwner .. | .disableAppForOwner .. | .createApiKeyForOwner .. | .revokeApiKeyForOwner ..
  | .requireApiKey .. => .isFalse False.elim

/-- Nobody makes the app active again. -/
def StaysInactive (appId : String) (first second : Db) : Prop :=
  Kept first second ∧ (Inactive appId first → Inactive appId second)

theorem inactive_respects (appId : String) :
    Respects (fun request => ¬Reactivates appId request) (StaysInactive appId) (Allowed platform) := by
  have base : Respects (fun request => ¬Reactivates appId request) Kept (Allowed platform) :=
    ⟨Kept.refl, fun _ _ _ => Kept.trans, fun _ _ _ _ allows => Kept.allowed allows⟩
  apply base.and (Inactive appId)
  intro request db write acts allows inactive
  obtain ⟨app, there, status⟩ := inactive
  have other : ∀ row : AppRecord, (row.id = appId → row.status ≠ .active) →
      Inactive appId ((Write.app row).apply db) := by
    intro row each
    by_cases same : appId = row.id
    · exact ⟨row, same ▸ Table.get_put_self row db.apps, each same.symm⟩
    · exact ⟨app, (Table.get_put_of_ne same).trans there, status⟩
  cases allows with
  | createApp random now free =>
    apply other
    intro same
    exact absurd (Table.key_of_get there) fun key => (free app (Table.mem_of_get there)).1 (key.trans same.symm)
  | @updateApp req ownerId appId' input _ old stored now =>
    apply other
    intro same
    obtain ⟨found, key, _⟩ := appForOwner_some stored
    have place : appId' = appId := key.symm.trans same
    rw [place, there] at found
    cases found
    cases set : input.status with
    | none => simpa [AppRecord.updated, set] using status
    | some next =>
      intro active
      apply acts
      refine ⟨place, ?_⟩
      rw [set]
      simpa [AppRecord.updated, set] using active
  | disableApp stored now =>
    apply other
    intro _ active
    cases active
  | createApiKey | revokeApiKey | useApiKey | audit => exact ⟨app, there, status⟩

theorem lasts_inactive (appId : String) : Lasts (StaysInactive appId) (Inactive appId) :=
  fun _ _ follows holds => follows.2 holds

/-- An update that deactivates the app leaves it inactive. -/
def deactivation (platform : Platform) (appId : String) : Facts platform (StaysInactive appId) fun _ => True where
  __ := silent platform (StaysInactive appId) fun _ => True
  updated id input db := id = appId → (∃ status, input.status = some status ∧ status ≠ .active) → Inactive appId db
  disabled id db := id = appId → Inactive appId db
  lasts_updated _ _ _ _ follows holds same set := follows.2 (holds same set)
  lasts_disabled _ _ _ follows holds same := follows.2 (holds same)
  updates db ownerId id input old now stored same set := by
    obtain ⟨status, given, other⟩ := set
    obtain ⟨_, key, _⟩ := appForOwner_some stored
    refine ⟨old.updated input now, ?_, ?_⟩
    · rw [← same, ← key]
      exact Table.get_put_self (old.updated input now) db.apps
    · simpa [AppRecord.updated, given] using other
  disables db ownerId id old now stored same := by
    obtain ⟨_, key, _⟩ := appForOwner_some stored
    refine ⟨{ old with status := .disabled, updatedAt := now }, ?_, ?_⟩
    · rw [← same, ← key]
      exact Table.get_put_self { old with status := .disabled, updatedAt := now } db.apps
    · exact fun active => nomatch active

/-- Where an app is not active, no lookup finds its keys. -/
def afterDeactivation (platform : Platform) (appId : String) : Facts platform (StaysInactive appId) (Inactive appId) where
  __ := silent platform (StaysInactive appId) (Inactive appId)
  found _ pair _ := ∀ apiKey app, pair = some (apiKey, app) → app.id ≠ appId
  lasts_found _ _ := lasts_const _ _
  looks db rawKey known apiKey app same := by
    rintro rfl
    obtain ⟨stored, there, status⟩ := known
    obtain ⟨_, _, _, place, active⟩ := activeApiKey_some same
    have key : app.id = apiKey.appId := Table.key_of_get place
    rw [key, place] at there
    cases there
    exact status active

/-- Once an app has been disabled or suspended, no request that arrives later gets into it,
unless a request makes it active again. -/
theorem disabled_refused {first second third : List Action} {early middle final : State}
    (reached : run (step platform) initial first = some early) {disabler : Nat} (before : early.requests disabler = none)
    (disabling : run (step platform) early second = some middle) {request : Request} {response : Response} {appId : String}
    (deactivates : Deactivates appId request) (disabled : middle.answer disabler = some (request, response))
    (onwards : run (step platform) middle third = some final)
    (left : OnlyActing (fun request => ¬Reactivates appId request) early final)
    {id : Nat} (absent : middle.requests id = none) {headers : Headers} {required : Required} {apiKey : ApiKeyRecord}
    {app : AppRecord} {tenant : String}
    (answered : final.answer id = some (.requireApiKey headers required, .authorized apiKey app tenant)) :
    app.id ≠ appId := by
  have implies : ∀ one two, StaysInactive appId one two → Kept one two := fun _ _ follows => follows.1
  have respects := @inactive_respects platform appId
  have honest := (honest_reached reached).strengthen implies
  have learns := (deactivation platform appId).learns implies
  have known : Inactive appId middle.db := by
    have promised := respects.answers disabling (left.before onwards) honest learns (lasts_const _ True) trivial before disabled
    cases request with
    | updateAppForOwner req ownerId id input => exact promised deactivates.1 deactivates.2
    | disableAppForOwner req ownerId id => exact promised deactivates
    | _ => exact deactivates.elim
  have still := (respects.always disabling (left.before onwards) honest
    (fun _ request => ((plain platform).learns (fun _ _ kept => kept) request).strengthen implies)
    (lasts_const _ True) trivial).1
  have promised := respects.answers onwards (left.after disabling) still
    ((afterDeactivation platform appId).learns implies) (lasts_inactive appId) known absent answered
  rcases promised with ⟨refused, _⟩ | ⟨rawKey, pair, _, facts, same⟩
  · cases refused
  · exact facts apiKey app (verdict_authorized same).1

theorem libraryApp_survives : ∃ early middle final,
    run (step samplePlatform) initial
      (createsApp 0 shop ++ createsApp 1 library' ++ issuesKey 2 0 7 ++ issuesKey 3 1 8) = some early ∧
    run (step samplePlatform) early (asks 4 (.disableAppForOwner origin "owner" (samplePlatform.uuid 0))) = some middle ∧
    run (step samplePlatform) middle (presents 5 secondKey) = some final ∧ libraryApp.id ≠ samplePlatform.uuid 0 := by
  have observed : trace (step samplePlatform) (fun state => (state.requests 4, state.answer 4, state.requests 5, state.answer 5))
      initial [createsApp 0 shop ++ createsApp 1 library' ++ issuesKey 2 0 7 ++ issuesKey 3 1 8,
        asks 4 (.disableAppForOwner origin "owner" (samplePlatform.uuid 0)), presents 5 secondKey] =
      [(none, none, none, none),
       (some (.disableAppForOwner origin "owner" (samplePlatform.uuid 0)),
        some (.disableAppForOwner origin "owner" (samplePlatform.uuid 0), .resource disabledApp), none, none),
       (some (.disableAppForOwner origin "owner" (samplePlatform.uuid 0)),
        some (.disableAppForOwner origin "owner" (samplePlatform.uuid 0), .resource disabledApp),
        some (.requireApiKey ⟨some secondKey, none⟩ (.scope .agreementsRead)),
        some (.requireApiKey ⟨some secondKey, none⟩ (.scope .agreementsRead),
          .authorized libraryKey libraryApp libraryApp.id))] := by
    decide +kernel
  obtain ⟨early, reached, seen, rest⟩ := trace_cons observed
  obtain ⟨middle, disabling, seen', rest'⟩ := trace_cons rest
  obtain ⟨final, onwards, last, _⟩ := trace_cons rest'
  simp only [Prod.mk.injEq] at seen seen' last
  have left : OnlyActing (fun request => ¬Reactivates (samplePlatform.uuid 0) request) early final := by
    apply onlyActing_arrivals reached ((run_append disabling).trans onwards)
    · have all : ∀ arrival ∈ arrivals (createsApp 0 shop ++ createsApp 1 library' ++ issuesKey 2 0 7 ++ issuesKey 3 1 8),
          ¬Reactivates (samplePlatform.uuid 0) arrival.2 := by decide +kernel
      exact fun arrival member => .inl (all arrival member)
    · decide +kernel
  exact ⟨early, middle, final, reached, disabling, onwards,
    disabled_refused reached seen.1 disabling
      (show Deactivates (samplePlatform.uuid 0) (.disableAppForOwner origin "owner" (samplePlatform.uuid 0)) from rfl)
      seen'.2.1 onwards left seen'.2.2.1 last.2.2.2⟩

end Disabling

section Acceptance
variable {platform : Platform}

def Running (appId : String) (db : Db) : Prop := ∃ app, db.apps.get appId = some app ∧ app.status = .active

def Valid (apiKeyId : String) (db : Db) : Prop := ∃ apiKey, db.apiKeys.get apiKeyId = some apiKey ∧ apiKey.status = .active

/-- A request that takes the key or its app out of service. -/
def Withdraws (appId apiKeyId : String) : Request → Prop
  | .revokeApiKeyForOwner _ _ id => id = apiKeyId
  | request => Deactivates appId request

theorem withdraws_of_deactivates {appId apiKeyId : String} {request : Request} (deactivates : Deactivates appId request) :
    Withdraws appId apiKeyId request := by
  cases request with
  | updateAppForOwner | disableAppForOwner => exact deactivates
  | _ => exact deactivates.elim

theorem running_allowed {appId : String} {request : Request} {db : Db} {write : Write} (acts : ¬Deactivates appId request)
    (allows : Allowed platform request db write) (running : Running appId db) : Running appId (write.apply db) := by
  obtain ⟨app, there, status⟩ := running
  have other : ∀ row : AppRecord, (row.id = appId → row.status = .active) → Running appId ((Write.app row).apply db) := by
    intro row each
    by_cases same : appId = row.id
    · exact ⟨row, same ▸ Table.get_put_self row db.apps, each same.symm⟩
    · exact ⟨app, (Table.get_put_of_ne same).trans there, status⟩
  cases allows with
  | createApp random now free => exact other _ fun _ => rfl
  | @updateApp req ownerId appId' input _ old stored now =>
    apply other
    intro same
    obtain ⟨found, key, _⟩ := appForOwner_some stored
    have place : appId' = appId := key.symm.trans same
    rw [place, there] at found
    cases found
    cases set : input.status with
    | none => simpa [AppRecord.updated, set] using status
    | some next =>
      by_contra inactive
      exact acts ⟨place, next, set, by simpa [AppRecord.updated, set] using inactive⟩
  | disableApp stored now =>
    apply other
    intro same
    obtain ⟨_, key, _⟩ := appForOwner_some stored
    exact absurd (key.symm.trans same) acts
  | createApiKey | revokeApiKey | useApiKey | audit => exact ⟨app, there, status⟩

theorem valid_allowed {appId apiKeyId : String} {request : Request} {db : Db} {write : Write}
    (acts : ¬Withdraws appId apiKeyId request) (allows : Allowed platform request db write) (valid : Valid apiKeyId db) :
    Valid apiKeyId (write.apply db) := by
  obtain ⟨apiKey, there, status⟩ := valid
  have other : ∀ row : ApiKeyRecord, (row.id = apiKeyId → row.status = .active) →
      Valid apiKeyId ((Write.apiKey row).apply db) := by
    intro row each
    by_cases same : apiKeyId = row.id
    · exact ⟨row, same ▸ Table.get_put_self row db.apiKeys, each same.symm⟩
    · exact ⟨apiKey, (Table.get_put_of_ne same).trans there, status⟩
  cases allows with
  | createApiKey stored id random now free => exact other _ fun _ => rfl
  | revokeApiKey stored active now =>
    apply other
    intro same
    obtain ⟨_, key, _⟩ := apiKeyForOwner_some stored
    exact absurd (key.symm.trans same) acts
  | useApiKey stored now =>
    apply other
    intro same
    rw [show _ = apiKeyId from same, there] at stored
    cases stored
    exact status
  | createApp | updateApp | disableApp | audit => exact ⟨apiKey, there, status⟩

/-- Key and app stay in service. -/
def StaysValid (appId apiKeyId : String) (first second : Db) : Prop :=
  ((Kept first second ∧ (UniqueHashes first → UniqueHashes second)) ∧ (Running appId first → Running appId second)) ∧
    (Valid apiKeyId first → Valid apiKeyId second)

theorem valid_respects (appId apiKeyId : String) :
    Respects (fun request => ¬Withdraws appId apiKeyId request) (StaysValid appId apiKeyId) (Allowed platform) := by
  have base : Respects (fun request => ¬Withdraws appId apiKeyId request) Kept (Allowed platform) :=
    ⟨Kept.refl, fun _ _ _ => Kept.trans, fun _ _ _ _ allows => Kept.allowed allows⟩
  have hashes := base.and UniqueHashes fun _ _ _ _ allows unique => uniqueHashes_allowed allows unique
  have running := hashes.and (Running appId) fun request db write acts allows here =>
    running_allowed (fun deactivates => acts (withdraws_of_deactivates deactivates)) allows here
  exact running.and (Valid apiKeyId) fun request db write acts allows here => valid_allowed acts allows here

theorem staysValid_kept {appId apiKeyId : String} {first second : Db} (follows : StaysValid appId apiKeyId first second) :
    Kept first second := follows.1.1.1

/-- The id of a shown record. -/
def Resource.id : Resource → String
  | .app id .. => id
  | .apiKey id .. => id

/-- A key that is issued and not withdrawn is valid from then on. -/
def issuance (platform : Platform) (appId apiKeyId : String) :
    Facts platform (StaysValid appId apiKeyId) fun _ => True where
  __ := silent platform (StaysValid appId apiKeyId) fun _ => True
  issued apiKey db := apiKey.Held db ∧ (apiKey.id = apiKeyId → Valid apiKeyId db)
  lasts_issued apiKey _ _ follows holds :=
    ⟨lasts_apiKey (fun _ _ => staysValid_kept) apiKey _ _ follows holds.1, fun same => follows.2 (holds.2 same)⟩
  issues db ownerId input rawKey app apiKey issues _ _ := by
    have there : (db.apiKeys.put apiKey).get apiKey.id = some apiKey := Table.get_put_self apiKey db.apiKeys
    obtain ⟨id, now, row⟩ := issues.row
    exact ⟨⟨apiKey, there, ApiKeyRecord.Keeps.refl apiKey⟩, fun same => ⟨apiKey, same ▸ there, row ▸ rfl⟩⟩

/-- The lookup of a valid key of a running app. -/
def presentation (platform : Platform) (appId apiKeyId : String) (apiKey : ApiKeyRecord) :
    Facts platform (StaysValid appId apiKeyId) fun db => UniqueHashes db ∧ Running appId db ∧ Valid apiKeyId db ∧
      apiKey.Held db where
  __ := silent platform (StaysValid appId apiKeyId) _
  found rawKey pair db := apiKey.id = apiKeyId → apiKey.appId = appId → hashApiKey platform rawKey = apiKey.keyHash →
    ∃ stored app, pair = some (stored, app) ∧ apiKey.Keeps stored ∧ app.id = appId ∧ app.Held db
  lasts_found rawKey pair _ _ follows holds named place hash := by
    obtain ⟨stored, app, same, keeps, key, held⟩ := holds named place hash
    exact ⟨stored, app, same, keeps, key, lasts_app (fun _ _ => staysValid_kept) app _ _ follows held⟩
  looks db rawKey known named place hash := by
    obtain ⟨unique, ⟨app, there, running⟩, ⟨valid, at', active⟩, ⟨stored, at'', keeps⟩⟩ := known
    rw [named, at'] at at''
    cases at''
    have key : app.id = appId := Table.key_of_get there
    have held : db.apiKeys.get valid.id = some valid := by rw [keeps.id, named, at']
    have found := activeApiKey_unique unique held active (by rw [keeps.appId, place]; exact there) running
    rw [keeps.keyHash, ← hash] at found
    exact ⟨valid, app, found, keeps, key, app, key.symm ▸ there, AppRecord.Keeps.refl app⟩

end Acceptance

section Isolation
variable {platform : Platform}

/-- The owner in whose name a request is made. -/
def Request.ownerId : Request → Option String
  | .createAppForOwner _ ownerId _ | .updateAppForOwner _ ownerId _ _ | .disableAppForOwner _ ownerId _
  | .createApiKeyForOwner _ ownerId _ | .revokeApiKeyForOwner _ ownerId _ => some ownerId
  | .requireApiKey _ _ => none

def ApiKeyRecord.unused (apiKey : ApiKeyRecord) : ApiKeyRecord := { apiKey with lastUsedAt := none }

/-- The owner's apps are as they were, and so are their keys, up to their last use. -/
structure SameOwned (ownerId : String) (first second : Db) : Prop where
  apps : ∀ appId, second.appForOwner ownerId appId = first.appForOwner ownerId appId
  apiKeys : ∀ apiKeyId, (second.apiKeyForOwner ownerId apiKeyId).map ApiKeyRecord.unused =
    (first.apiKeyForOwner ownerId apiKeyId).map ApiKeyRecord.unused

theorem apiKeyForOwner_eq (db : Db) (ownerId apiKeyId : String) : db.apiKeyForOwner ownerId apiKeyId =
    (db.apiKeys.get apiKeyId).filter fun apiKey => (db.appForOwner ownerId apiKey.appId).isSome := by
  unfold Db.apiKeyForOwner Db.appForOwner
  congr 1
  funext apiKey
  cases db.apps.get apiKey.appId with
  | none => rfl
  | some app => by_cases owned : app.ownerId = ownerId <;> simp [owned]

variable {ownerId : String} {db : Db}

theorem SameOwned.refl (db : Db) : SameOwned ownerId db db := ⟨fun _ => rfl, fun _ => rfl⟩

theorem SameOwned.trans {first second third : Db} (earlier : SameOwned ownerId first second)
    (later : SameOwned ownerId second third) : SameOwned ownerId first third :=
  ⟨fun appId => (later.apps appId).trans (earlier.apps appId),
    fun apiKeyId => (later.apiKeys apiKeyId).trans (earlier.apiKeys apiKeyId)⟩

/-- A write of another owner's app is not seen. -/
theorem sameOwned_app {row : AppRecord} (other : row.ownerId ≠ ownerId)
    (before : ∀ old, db.apps.get row.id = some old → old.ownerId ≠ ownerId) :
    SameOwned ownerId db ((Write.app row).apply db) := by
  have apps : ∀ appId, ((Write.app row).apply db).appForOwner ownerId appId = db.appForOwner ownerId appId := by
    intro appId
    by_cases same : appId = row.id
    · have there : (db.apps.put row).get row.id = some row := Table.get_put_self row db.apps
      rw [same, Db.appForOwner, Db.appForOwner, Write.apply, there]
      cases old : db.apps.get row.id with
      | none => simp [other]
      | some stored =>
        have theirs := before stored old
        rw [Option.filter_some, Option.filter_some, if_neg (by simpa using other), if_neg (by simpa using theirs)]
    · rw [Db.appForOwner, Write.apply, Table.get_put_of_ne same]
      rfl
  refine ⟨apps, fun apiKeyId => ?_⟩
  have seen : (fun apiKey : ApiKeyRecord => (((Write.app row).apply db).appForOwner ownerId apiKey.appId).isSome) =
      fun apiKey => (db.appForOwner ownerId apiKey.appId).isSome := by
    funext apiKey
    rw [apps]
  rw [apiKeyForOwner_eq, apiKeyForOwner_eq, seen]
  rfl

/-- Nor is a write of a key, except for the last use. -/
theorem sameOwned_apiKey {row : ApiKeyRecord} (each : ((db.apiKeys.get row.id).filter fun apiKey =>
      (db.appForOwner ownerId apiKey.appId).isSome).map ApiKeyRecord.unused =
        ((some row).filter fun apiKey => (db.appForOwner ownerId apiKey.appId).isSome).map ApiKeyRecord.unused) :
    SameOwned ownerId db ((Write.apiKey row).apply db) := by
  refine ⟨fun _ => rfl, fun apiKeyId => ?_⟩
  rw [apiKeyForOwner_eq, apiKeyForOwner_eq]
  by_cases same : apiKeyId = row.id
  · have there : (db.apiKeys.put row).get row.id = some row := Table.get_put_self row db.apiKeys
    rw [same, each, Write.apply, there]
    rfl
  · rw [Write.apply, Table.get_put_of_ne same]
    rfl

theorem appForOwner_other {appId : String} {app : AppRecord} {other : String}
    (stored : db.appForOwner other appId = some app) (different : other ≠ ownerId) : db.appForOwner ownerId appId = none := by
  obtain ⟨found, _, owned⟩ := appForOwner_some stored
  rw [Db.appForOwner, found]
  simp [owned, different]

/-- Requests of others, and requests by key, leave the owner's records alone. -/
theorem sameOwned_respects (ownerId : String) :
    Respects (fun request => request.ownerId ≠ some ownerId) (SameOwned ownerId) (Allowed platform) where
  refl := SameOwned.refl
  trans _ _ _ := SameOwned.trans
  each request db write acts allows := by
    cases allows with
    | @createApp req other input _ random now free =>
      apply sameOwned_app
      · exact fun same => acts (congrArg some same)
      · intro old there
        exact absurd (Table.key_of_get there) (free old (Table.mem_of_get there)).1
    | @updateApp req other appId input _ old stored now =>
      obtain ⟨found, key, owned⟩ := appForOwner_some stored
      have theirs : old.ownerId ≠ ownerId := fun same => acts (congrArg some (owned.symm.trans same))
      apply sameOwned_app
      · exact theirs
      · intro before there
        cases (key ▸ found : db.apps.get old.id = some old).symm.trans there
        exact theirs
    | @disableApp req other appId _ old stored now =>
      obtain ⟨found, key, owned⟩ := appForOwner_some stored
      have theirs : old.ownerId ≠ ownerId := fun same => acts (congrArg some (owned.symm.trans same))
      apply sameOwned_app
      · exact theirs
      · intro before there
        cases (key ▸ found : db.apps.get old.id = some old).symm.trans there
        exact theirs
    | @createApiKey req other input _ app stored id random now free =>
      apply sameOwned_apiKey
      have absent : db.apiKeys.get id = none := by
        rw [Table.get_eq_none_iff]
        exact fun row member => (free row member).1
      have unseen : db.appForOwner ownerId app.id = none := by
        rw [(appForOwner_some stored).2.1]
        exact appForOwner_other stored fun same => acts (congrArg some same)
      simp only [newApiKey, absent, Option.filter_none, Option.filter_some, unseen]
      rfl
    | @revokeApiKey req other apiKeyId _ old stored active now =>
      apply sameOwned_apiKey
      obtain ⟨found, key, app, place, owned⟩ := apiKeyForOwner_some stored
      have theirs : db.appForOwner other old.appId = some app := by simp [Db.appForOwner, place, owned]
      have unseen := appForOwner_other theirs fun same => acts (congrArg some same)
      rw [← key] at found
      simp only [found, Option.filter_some, unseen]
      rfl
    | @useApiKey headers required _ old stored now =>
      apply sameOwned_apiKey
      simp only [stored, Option.filter_some]
      split <;> rfl
    | audit => exact ⟨fun _ => rfl, fun _ => rfl⟩

/-- Whatever other owners and key holders request, an owner's apps and keys stay as they are,
up to the last use of the keys. -/
theorem owners_apart {first second : List Action} {middle final : State} {ownerId : String}
    (reached : run (step platform) initial first = some middle) (onwards : run (step platform) middle second = some final)
    (left : OnlyActing (fun request => request.ownerId ≠ some ownerId) middle final) :
    SameOwned ownerId middle.db final.db := by
  have both : Respects (fun request => request.ownerId ≠ some ownerId)
      (fun one two => Kept one two ∧ SameOwned ownerId one two) (Allowed platform) :=
    ⟨fun db => ⟨Kept.refl db, SameOwned.refl db⟩,
      fun _ _ _ earlier later => ⟨earlier.1.trans later.1, earlier.2.trans later.2⟩,
      fun request db write acts allows =>
        ⟨Kept.allowed allows, (sameOwned_respects ownerId).each request db write acts allows⟩⟩
  have implies : ∀ one two, (Kept one two ∧ SameOwned ownerId one two) → Kept one two := fun _ _ follows => follows.1
  have starts : ∀ (_ : Nat) (request : Request), (request.program platform).Learns
      (fun one two => Kept one two ∧ SameOwned ownerId one two) (Allowed platform request) ((plain platform).promise request) fun _ => True :=
    fun _ request => ((plain platform).learns (fun _ _ kept => kept) request).strengthen implies
  exact (both.always onwards left ((honest_reached reached).strengthen implies) starts (lasts_const _ True) trivial).2.2

/-- A stranger asks to revoke a key, and the key is used. -/
def strangersActions : List Action :=
  [.arrive 4 (.revokeApiKeyForOwner origin "stranger" (samplePlatform.uuid 2)), .statement 4 0] ++ presents 3 firstKey

theorem stranger_apart : ∃ middle final,
    run (step samplePlatform) initial (createsApp 0 shop ++ issuesKey 2 0 7) = some middle ∧
    run (step samplePlatform) middle strangersActions = some final ∧ SameOwned "owner" middle.db final.db := by
  have observed : trace (step samplePlatform) (fun state => (state.answer 0, state.answer 2)) initial
      [createsApp 0 shop ++ issuesKey 2 0 7, strangersActions] =
      List.replicate 2 (some (.createAppForOwner origin "owner" shop, .resource (serializeApp shopApp)),
        some (.createApiKeyForOwner origin "owner" (readsAgreements shopApp.id),
          .created (serializeApiKey (shopKey 2 firstKey)) firstKey)) := by
    decide +kernel
  obtain ⟨middle, reached, seen, rest⟩ := trace_cons observed
  obtain ⟨final, onwards, _⟩ := trace_cons rest
  simp only [Prod.mk.injEq] at seen
  have left : OnlyActing (fun request => request.ownerId ≠ some "owner") middle final := by
    apply onlyActing_arrivals reached onwards
    · intro arrival member
      rcases List.mem_pair.mp (show arrival ∈ [(0, .createAppForOwner origin "owner" shop),
        (2, .createApiKeyForOwner origin "owner" (readsAgreements shopApp.id))] from member) with rfl | rfl
      · exact .inr (finished_of_answer seen.1)
      · exact .inr (finished_of_answer seen.2)
    · decide +kernel
  exact ⟨middle, final, reached, onwards, owners_apart reached onwards left⟩

end Isolation

end PactAgent.Tenancy.Apps
