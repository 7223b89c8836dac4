import PactAgent.Auth.Session
import PactAgent.Foundation.Base64Url
import PactAgent.Foundation.CodeUnits
import PactAgent.Startup.Config

/-! The keys of a configuration at work: the tokens of sign-ins and the stored secrets of webhooks,
written under one configuration and read under it or under a later one. -/

namespace PactAgent.Startup
open PactAgent.Common PactAgent.Foundation PactAgent.Foundation.CodeUnits
open PactAgent.Auth.Session PactAgent.Auth.ChallengeStore

section Tokens

structure Claims where
  address : String
  iat : Nat
  exp : Nat
  deriving DecidableEq

/-- A token in its parts: the key id of its header, the payload, and the signature over both. -/
structure JsonWebToken where
  kid : String
  claims : Claims
  signature : String
  deriving DecidableEq

/-- HS256, which tells keys apart, and the text of a token, which is read back. -/
structure TokenLibrary where
  hs256 : String → String → Claims → String
  exact : ∀ key other kid claims, hs256 key kid claims = hs256 other kid claims → key = other
  write : JsonWebToken → String
  decode : String → Option JsonWebToken
  decode_write : ∀ token, decode (write token) = some token

variable (library : TokenLibrary) (platform : Platform) (config : Config)

/-- The settings that sign-ins read. -/
def Config.auth : AuthConfig := ⟨config.authChallengeTtlSecs, config.authTokenTtlSecs, config.adminAddresses⟩

def jwtSigningKey : Except Failure Property :=
  requireConfig (activeJwtKey config) ("JWT signing key " ++ config.authJwtActiveKid)

def jwtSign (key : Property) (kid address : String) (iat expiresIn : Nat) : Except Failure String :=
  match key with
  | .text key =>
      let claims : Claims := ⟨address, iat, iat + expiresIn⟩
      .ok (library.write ⟨kid, claims, library.hs256 key kid claims⟩)
  | _ => .error (.other "secretOrPrivateKey is not valid key material")

/-- The token of a sign-in, at a time in milliseconds. -/
def issueToken (normalized : String) (issuedAt : Nat) : Except Failure String := do
  let key ← jwtSigningKey config
  jwtSign library key config.authJwtActiveKid normalized (issuedAt / 1000) config.authTokenTtlSecs

def jwtVerificationKey (token : String) : Except Failure Property :=
  let kid := ((library.decode token).map (·.kid)).getD ""
  match (if kid = "" then none else config.authJwtKeys.property kid) with
  | some key => .ok key
  | none =>
      if kid = "" ∨ kid = "legacy" then
        requireConfig (if config.authJwtSecret = "" then orText (config.authJwtKeys.property "legacy") ""
          else .text config.authJwtSecret) "legacy JWT verification key"
      else .error (.other "Unknown authentication token key ID.")

def jwtVerify (token : String) (key : Property) (now : Nat) : Except Failure Claims :=
  match library.decode token, key with
  | none, _ => .error (.other "jwt malformed")
  | some decoded, .text key =>
      if decoded.signature ≠ library.hs256 key decoded.kid decoded.claims then .error (.other "invalid signature")
      else if decoded.claims.exp ≤ now / 1000 then .error (.other "jwt expired")
      else .ok decoded.claims
  | some _, _ => .error (.other "secret or public key must be provided")

structure Authenticated where
  address : String
  isAdmin : Bool
  issuedAt : Nat
  expiresAt : Nat

def verifyAuthToken (token : String) (now : Nat) : Except Failure Authenticated := do
  let key ← jwtVerificationKey library config token
  let decoded ← jwtVerify library token key now
  if decoded.address = "" then throw (.other "Invalid authentication token.")
  else
    return ⟨normalizeWalletAddress platform decoded.address, isAdminAddress platform config.auth decoded.address,
      decoded.iat, decoded.exp⟩

/-- `verifyChallenge` with the tokens of this configuration. -/
def signIn {Store : Type} (store : AuthChallengeStore Store) (params : VerifyParams) (times : CallTimes) (state : Store) :
    Except Failure IssuedSession × Store :=
  verifyChallenge { platform with jwtSign := issueToken library config } config.auth store params times state

end Tokens

section Secrets

/-- SHA-256, and AES-256-GCM on texts by their scalar values, which UTF-8 encodes one to one: what
one key has produced that key decrypts, and no other one. -/
structure Crypto (Key : Type) where
  sha256 : String → Key
  encrypt : Key → List UInt8 → List Char → List UInt8 × List UInt8
  decrypt : Key → List UInt8 → List UInt8 × List UInt8 → Option (List Char)
  same : ∀ key iv plaintext, decrypt key iv (encrypt key iv plaintext) = some plaintext
  other : ∀ key other iv plaintext, other ≠ key → decrypt other iv (encrypt key iv plaintext) = none
  /-- The ciphertext is as long as the plaintext, and the tag is not empty. -/
  ciphertext : ∀ key iv plaintext, (encrypt key iv plaintext).1 = [] ↔ plaintext = []
  tag : ∀ key iv plaintext, (encrypt key iv plaintext).2 ≠ []

/-- Twelve random bytes. -/
abbrev Iv := { bytes : List UInt8 // bytes.length = 12 }

abbrev Text := List Char

variable {Key : Type} (crypto : Crypto Key) (config : Config)

def encryptionKey (keyId : String) : Except Failure Key := do
  let source ← requireConfig
    (orText (config.webhookEncryptionKeys.property keyId) (if keyId = "legacy" then config.webhookSecretEncryptionKey else ""))
    ("webhook encryption key " ++ keyId)
  match source with
  | .text source => .ok (crypto.sha256 source)
  | _ => .error (.other "The \"data\" argument must be of type string or an instance of Buffer, TypedArray, or DataView.")

def encryptWebhookSecret (secret : Units) (iv : Iv) : Except Failure Text := do
  let keyId := config.webhookActiveKeyId
  let key ← encryptionKey crypto config keyId
  let cipher := crypto.encrypt key iv.val (scalars secret)
  return ['.'].intercalate
    ["v2".toList, keyId.toList, Base64Url.encode iv.val, Base64Url.encode cipher.2, Base64Url.encode cipher.1]

def invalidSecret : Failure := .other "Invalid encrypted webhook secret."

def decryptWebhookSecret (encrypted : Text) : Except Failure Units :=
  let parts := encrypted.splitOn '.'
  let isLegacy := parts[0]? = some "v1".toList
  let fields := if isLegacy then ["legacy".toList, parts[1]?.getD [], parts[2]?.getD [], parts[3]?.getD []]
    else [parts[1]?.getD [], parts[2]?.getD [], parts[3]?.getD [], parts[4]?.getD []]
  match fields with
  | [keyId, iv, authTag, ciphertext] =>
      if (¬isLegacy ∧ parts[0]? ≠ some "v2".toList) ∨ keyId = [] ∨ iv = [] ∨ authTag = [] ∨ ciphertext = [] then
        .error invalidSecret
      else do
        let key ← encryptionKey crypto config (String.ofList keyId)
        match crypto.decrypt key (Base64Url.decode iv) (Base64Url.decode ciphertext, Base64Url.decode authTag) with
        | some plaintext => .ok (ofScalars plaintext)
        | none => .error (.other "Unsupported state or unable to authenticate data")
  | _ => .error invalidSecret

def getWebhookEncryptionKeyId (encrypted : Text) : Except Failure String :=
  let parts := encrypted.splitOn '.'
  let keyId := parts[1]?.getD []
  if parts[0]? = some "v1".toList then .ok "legacy"
  else if parts[0]? = some "v2".toList ∧ keyId ≠ [] then .ok (String.ofList keyId)
  else .error invalidSecret

end Secrets

section Rotation
variable (config later : Config)

/-- A later configuration: more keys, and any active ids. -/
structure Rotated : Prop where
  jwt : ∀ id secret, config.authJwtKeys.own id = some secret → later.authJwtKeys.own id = some secret
  webhook : ∀ id secret, config.webhookEncryptionKeys.own id = some secret →
    later.webhookEncryptionKeys.own id = some secret
  jwtSecret : later.authJwtSecret = config.authJwtSecret
  webhookSecret : later.webhookSecretEncryptionKey = config.webhookSecretEncryptionKey

/-- The active key of tokens is in the ring, or it is the single one and no other comes under its name. -/
def TokenKeyStays : Prop :=
  (∃ secret, config.authJwtKeys.own config.authJwtActiveKid = some secret) ∨
    config.authJwtActiveKid = "legacy" ∧
      ∀ secret, later.authJwtKeys.own "legacy" = some secret → secret = config.authJwtSecret

variable {Key : Type} (crypto : Crypto Key)

/-- The same for the webhook secrets, where keys of one digest are one key. Without the checks of
staging and production the single key may be missing. -/
def WebhookKeyStays : Prop :=
  (∃ secret, config.webhookEncryptionKeys.own config.webhookActiveKeyId = some secret) ∨
    config.webhookActiveKeyId = "legacy" ∧
      (isDeployedEnvironment config = true ∨ config.webhookSecretEncryptionKey ≠ "") ∧
        ∀ secret, later.webhookEncryptionKeys.own "legacy" = some secret →
          crypto.sha256 secret = crypto.sha256 config.webhookSecretEncryptionKey

end Rotation

section TokensRead
variable {library : TokenLibrary} {platform : Platform} {config later : Config} {address token : String} {issuedAt now : Nat}

theorem requireConfig_ok {value found : Property} {name : String} :
    requireConfig value name = .ok found ↔ value ≠ .text "" ∧ value = found := by
  unfold requireConfig
  split
  · next empty => simp [empty]
  · next filled => simp [filled]

/-- A token is issued with the active key, where that is a text. -/
theorem issueToken_ok (issued : issueToken library config address issuedAt = .ok token) :
    ∃ key, activeJwtKey config = .text key ∧ key ≠ "" ∧
      token = library.write ⟨config.authJwtActiveKid, ⟨address, issuedAt / 1000, issuedAt / 1000 + config.authTokenTtlSecs⟩,
        library.hs256 key config.authJwtActiveKid
          ⟨address, issuedAt / 1000, issuedAt / 1000 + config.authTokenTtlSecs⟩⟩ := by
  obtain ⟨key, signing, signed⟩ := Guard.bind_ok_iff.mp issued
  obtain ⟨filled, rfl⟩ := requireConfig_ok.mp signing
  cases active : activeJwtKey config with
  | text key =>
    rw [active] at signed filled
    cases signed
    exact ⟨key, rfl, fun empty => filled (by rw [empty]), rfl⟩
  | function length =>
    rw [active] at signed
    cases signed
  | object =>
    rw [active] at signed
    cases signed

/-- A token that was signed with a key is accepted where that key verifies it, until it expires. -/
theorem verifyAuthToken_iff {kid key : String} {claims : Claims} :
    (∃ who, verifyAuthToken library platform config (library.write ⟨kid, claims, library.hs256 key kid claims⟩) now = .ok who) ↔
      jwtVerificationKey library config (library.write ⟨kid, claims, library.hs256 key kid claims⟩) = .ok (.text key) ∧
        now / 1000 < claims.exp ∧ claims.address ≠ "" := by
  simp only [verifyAuthToken, Guard.bind_ok_iff, Guard.reject_ok_iff, jwtVerify, library.decode_write]
  constructor
  · rintro ⟨who, found, verification, decoded, verified, address, -⟩
    cases found with
    | text found =>
      simp only at verified
      split at verified
      · cases verified
      · next same =>
        split at verified
        · cases verified
        · next live =>
          cases verified
          have key : key = found := library.exact _ _ _ _ (not_not.mp same)
          exact ⟨key ▸ verification, Nat.lt_of_not_le live, address⟩
    | function length => cases verified
    | object => cases verified
  · rintro ⟨verification, live, address⟩
    refine ⟨_, _, verification, claims, ?_, address, rfl⟩
    simp only [ne_eq, not_true_eq_false, if_false, Nat.not_le.mpr live]

/-- The key that verifies a token of this key id. -/
theorem jwtVerificationKey_write {kid : String} {claims : Claims} {signature : String} (named : kid ≠ "") :
    jwtVerificationKey library config (library.write ⟨kid, claims, signature⟩) =
      match config.authJwtKeys.property kid with
      | some key => .ok key
      | none =>
          if kid = "legacy" then
            requireConfig (if config.authJwtSecret = "" then orText (config.authJwtKeys.property "legacy") ""
              else .text config.authJwtSecret) "legacy JWT verification key"
          else .error (.other "Unknown authentication token key ID.") := by
  unfold jwtVerificationKey
  rw [library.decode_write]
  simp only [Option.map_some, Option.getD_some, named, if_false, false_or]

theorem token_kept (rotated : Rotated config later) (issued : issueToken library config address issuedAt = .ok token) :
    (∀ now, now / 1000 < issuedAt / 1000 + config.authTokenTtlSecs →
        (∃ who, verifyAuthToken library platform config token now = .ok who) ∧
          ∃ who, verifyAuthToken library platform later token now = .ok who) ↔
      TokenKeyStays config later ∧ address ≠ "" := by
  obtain ⟨key, active, filled, rfl⟩ := issueToken_ok issued
  have named := config.authJwtActiveKid_ne
  simp only [verifyAuthToken_iff, jwtVerificationKey_write named]
  cases own : config.authJwtKeys.own config.authJwtActiveKid with
  | some secret =>
    have same : key = secret := by
      rw [activeJwtKey, orText_own own] at active
      cases active
      rfl
    have here : config.authJwtKeys.property config.authJwtActiveKid = some (.text secret) := by
      rw [Keyring.property, own]
    have there : later.authJwtKeys.property config.authJwtActiveKid = some (.text secret) := by
      rw [Keyring.property, rotated.jwt _ _ own]
    rw [here, there, same]
    constructor
    · intro kept
      have at' := kept issuedAt (Nat.lt_add_of_pos_right config.authTokenTtlSecs_pos)
      exact ⟨.inl ⟨secret, own⟩, at'.1.2.2⟩
    · rintro ⟨-, address⟩ now live
      exact ⟨⟨rfl, live, address⟩, rfl, live, address⟩
  | none =>
    obtain ⟨unshared, same⟩ := orText_text own active
    have here : config.authJwtKeys.property config.authJwtActiveKid = none := by
      rw [Keyring.property, own]
      exact unshared
    rw [here]
    by_cases single : config.authJwtActiveKid = "legacy"
    · have fallback : config.authJwtSecret ≠ "" := same ▸ filled
      have current : requireConfig (if config.authJwtSecret = "" then orText (config.authJwtKeys.property "legacy") ""
          else .text config.authJwtSecret) "legacy JWT verification key" = .ok (.text key) := by
        rw [if_neg fallback, same]
        exact requireConfig_ok.mpr ⟨by simpa using fallback, rfl⟩
      simp only [single, if_true, current, true_and]
      rw [single] at own
      have stays : TokenKeyStays config later ↔
          ∀ secret, later.authJwtKeys.own "legacy" = some secret → secret = config.authJwtSecret := by
        unfold TokenKeyStays
        simp only [single, own, reduceCtorEq, exists_false, false_or, true_and]
      rw [stays]
      have soon : issuedAt / 1000 < issuedAt / 1000 + config.authTokenTtlSecs :=
        Nat.lt_add_of_pos_right config.authTokenTtlSecs_pos
      cases next : later.authJwtKeys.own "legacy" with
      | none =>
        have there : later.authJwtKeys.property "legacy" = none := by
          rw [Keyring.property, next]
          rfl
        have kept : requireConfig (if later.authJwtSecret = "" then orText none "" else .text later.authJwtSecret)
            "legacy JWT verification key" = .ok (.text key) := by
          rw [rotated.jwtSecret, if_neg fallback, same]
          exact requireConfig_ok.mpr ⟨by simpa using fallback, rfl⟩
        simp only [there, kept, true_and, reduceCtorEq, false_implies, implies_true]
        constructor
        · intro accepted
          exact (accepted issuedAt soon).1.2
        · intro address now live
          exact ⟨⟨live, address⟩, live, address⟩
      | some secret =>
        have there : later.authJwtKeys.property "legacy" = some (.text secret) := by
          rw [Keyring.property, next]
        simp only [there, Except.ok.injEq, Property.text.injEq, Option.some.injEq, forall_eq', same]
        constructor
        · intro accepted
          exact ⟨(accepted issuedAt soon).2.1, (accepted issuedAt soon).1.2⟩
        · rintro ⟨equal, address⟩ now live
          exact ⟨⟨live, address⟩, equal, live, address⟩
    · have unknown : ¬TokenKeyStays config later := by
        rintro (⟨secret, found⟩ | ⟨legacy, -⟩)
        · rw [own] at found
          cases found
        · exact single legacy
      simp only [single, if_false, reduceCtorEq, false_and, unknown, iff_false, not_forall]
      exact ⟨issuedAt, Nat.lt_add_of_pos_right config.authTokenTtlSecs_pos, id⟩

end TokensRead

section SecretsRead
variable {Key : Type} {crypto : Crypto Key} {parseUrl : ParseUrl} {config later : Config} {keyId : String} {key : Key}
variable {secret found : Units} {iv : Iv} {text : Text}

theorem encryptionKey_ok : encryptionKey crypto config keyId = .ok key ↔ ∃ source,
    orText (config.webhookEncryptionKeys.property keyId) (if keyId = "legacy" then config.webhookSecretEncryptionKey else "") =
      .text source ∧ source ≠ "" ∧ crypto.sha256 source = key := by
  simp only [encryptionKey, Guard.bind_ok_iff, requireConfig_ok]
  constructor
  · rintro ⟨source, ⟨filled, rfl⟩, hashed⟩
    split at hashed
    · next source same =>
      cases hashed
      exact ⟨source, same, fun empty => filled (by rw [same, empty]), rfl⟩
    · cases hashed
  · rintro ⟨source, same, filled, rfl⟩
    exact ⟨_, ⟨by rw [same]; simpa using filled, rfl⟩, by rw [same]⟩

/-- The active key is found now, and is the same later. -/
theorem webhookKeyStays_iff (accepted : validateProductionConfig parseUrl config = .ok ()) (rotated : Rotated config later) :
    (∃ key, encryptionKey crypto config config.webhookActiveKeyId = .ok key ∧
        encryptionKey crypto later config.webhookActiveKeyId = .ok key) ↔
      WebhookKeyStays config later crypto := by
  simp only [encryptionKey_ok]
  cases own : config.webhookEncryptionKeys.own config.webhookActiveKeyId with
  | some source =>
    have filled := (Keyring.own_filled own).2
    have stays : WebhookKeyStays config later crypto := .inl ⟨source, own⟩
    simp only [stays, iff_true]
    exact ⟨_, ⟨source, orText_own own, filled, rfl⟩, source, orText_own (rotated.webhook _ _ own), filled, rfl⟩
  | none =>
    constructor
    · rintro ⟨key, ⟨source, same, filled, rfl⟩, later', same', filled', digest⟩
      obtain ⟨-, fallback⟩ := orText_text own same
      split at fallback
      · next legacy =>
        refine .inr ⟨legacy, .inr (fallback ▸ filled), ?_⟩
        intro other next
        rw [legacy, orText_own next] at same'
        cases same'
        rw [digest, fallback]
      · exact absurd fallback filled
    · rintro (⟨source, present⟩ | ⟨legacy, given, digests⟩)
      · rw [own] at present
        cases present
      · have shared : inherited "legacy" = none := rfl
        rw [legacy] at own ⊢
        have missing : config.webhookEncryptionKeys.property "legacy" = none := by
          rw [Keyring.property, own]
          exact shared
        have filled : config.webhookSecretEncryptionKey ≠ "" := by
          rcases given with deployed | filled
          · have strong := accepted_webhookKey accepted deployed
            rw [activeWebhookKey, legacy, missing] at strong
            intro empty
            exact strong (by rw [empty]; rfl)
          · exact filled
        rw [missing]
        refine ⟨_, ⟨_, rfl, filled, rfl⟩, ?_⟩
        cases next : later.webhookEncryptionKeys.own "legacy" with
        | some other =>
          exact ⟨other, orText_own next, (Keyring.own_filled next).2, digests other next⟩
        | none =>
          have missing' : later.webhookEncryptionKeys.property "legacy" = none := by
            rw [Keyring.property, next]
            exact shared
          rw [missing', rotated.webhookSecret]
          exact ⟨_, rfl, filled, rfl⟩

theorem not_mem_splitOn {separator : Char} {field : Text} (member : field ∈ text.splitOn separator) : separator ∉ field := by
  induction text generalizing field with
  | nil =>
    rw [List.splitOn_nil, List.mem_singleton] at member
    rw [member]
    exact List.not_mem_nil
  | cons character rest ih =>
    rw [List.splitOn_cons_eq_if_modifyHead] at member
    split at member
    · rcases List.mem_cons.mp member with rfl | inside
      · exact List.not_mem_nil
      · exact ih inside
    · next other =>
      cases split : rest.splitOn separator with
      | nil => exact absurd split (List.splitOn_ne_nil _ _)
      | cons first others =>
        rw [split, List.modifyHead_cons] at member
        rw [split] at ih
        rcases List.mem_cons.mp member with rfl | inside
        · intro here
          rcases List.mem_cons.mp here with same | later
          · exact other (by rw [same, beq_self_eq_true])
          · exact ih List.mem_cons_self later
        · exact ih (List.mem_cons_of_mem _ inside)

theorem encode_plain (bytes : List UInt8) : '.' ∉ Base64Url.encode bytes := by
  intro dot
  exact absurd (Base64Url.mem_encode dot) (by decide)

/-- The text of a ciphertext. -/
def secretText (keyId : String) (iv : List UInt8) (cipher : List UInt8 × List UInt8) : Text :=
  ['.'].intercalate
    ["v2".toList, keyId.toList, Base64Url.encode iv, Base64Url.encode cipher.2, Base64Url.encode cipher.1]

theorem encryptWebhookSecret_ok : encryptWebhookSecret crypto config secret iv = .ok text ↔ ∃ key,
    encryptionKey crypto config config.webhookActiveKeyId = .ok key ∧
      text = secretText config.webhookActiveKeyId iv.val (crypto.encrypt key iv.val (scalars secret)) := by
  simp only [encryptWebhookSecret, Guard.bind_ok_iff, Guard.pure_ok_iff]
  constructor
  · rintro ⟨key, found, rfl⟩
    exact ⟨key, found, rfl⟩
  · rintro ⟨key, found, rfl⟩
    exact ⟨key, found, rfl⟩

theorem splitOn_secretText {iv : List UInt8} {cipher : List UInt8 × List UInt8} (plain : '.' ∉ keyId.toList) :
    (secretText keyId iv cipher).splitOn '.' =
      ["v2".toList, keyId.toList, Base64Url.encode iv, Base64Url.encode cipher.2, Base64Url.encode cipher.1] := by
  apply List.splitOn_intercalate
  · intro field member
    simp only [List.mem_cons, List.not_mem_nil, or_false] at member
    rcases member with rfl | rfl | rfl | rfl | rfl
    · decide
    · exact plain
    · exact encode_plain _
    · exact encode_plain _
    · exact encode_plain _
  · exact List.cons_ne_nil _ _

/-- The key id is read back exactly when it has no dot. -/
theorem getWebhookEncryptionKeyId_iff {iv : List UInt8} {cipher : List UInt8 × List UInt8} (named : keyId ≠ "") :
    getWebhookEncryptionKeyId (secretText keyId iv cipher) = .ok keyId ↔ '.' ∉ keyId.toList := by
  constructor
  · intro read dot
    unfold getWebhookEncryptionKeyId at read
    simp only at read
    split at read
    · cases read
      exact absurd dot (by decide)
    · split at read
      · rw [← Except.ok.inj read, String.toList_ofList] at dot
        cases second : ((secretText keyId iv cipher).splitOn '.')[1]? with
        | none =>
          rw [second] at dot
          cases dot
        | some field =>
          rw [second] at dot
          exact not_mem_splitOn (List.mem_of_getElem? second) dot
      · cases read
  · intro plain
    have filled : keyId.toList ≠ [] := fun none => named (String.toList_eq_nil_iff.mp none)
    unfold getWebhookEncryptionKeyId
    rw [splitOn_secretText plain]
    have versions : "v2".toList ≠ "v1".toList := by decide
    simp only [List.getElem?_cons_zero, List.getElem?_cons_succ, Option.getD_some, Option.some.injEq, versions, if_false,
      true_and, ne_eq, filled, not_false_eq_true, if_true, String.ofList_toList]

theorem decryptWebhookSecret_iff (plain : '.' ∉ keyId.toList) (named : keyId ≠ "") :
    decryptWebhookSecret crypto config (secretText keyId iv.val (crypto.encrypt key iv.val (scalars secret))) = .ok found ↔
      secret ≠ [] ∧ encryptionKey crypto config keyId = .ok key ∧ ofScalars (scalars secret) = found := by
  have filled : keyId.toList ≠ [] := fun none => named (String.toList_eq_nil_iff.mp none)
  have versions : "v2".toList ≠ "v1".toList := by decide
  have given : Base64Url.encode iv.val ≠ [] := by
    intro none
    have length := iv.property
    rw [Base64Url.encode_eq_nil.mp none] at length
    cases length
  have tagged : Base64Url.encode (crypto.encrypt key iv.val (scalars secret)).2 ≠ [] := fun none =>
    crypto.tag key iv.val (scalars secret) (Base64Url.encode_eq_nil.mp none)
  have cipher : Base64Url.encode (crypto.encrypt key iv.val (scalars secret)).1 = [] ↔ secret = [] := by
    rw [Base64Url.encode_eq_nil, crypto.ciphertext, scalars_eq_nil]
  unfold decryptWebhookSecret
  rw [splitOn_secretText plain]
  simp only [List.getElem?_cons_zero, List.getElem?_cons_succ, Option.getD_some, Option.some.injEq, versions, if_false,
    not_false_eq_true, ne_eq, not_true_eq_false, and_false, filled, given, tagged, cipher,
    false_or, String.ofList_toList, Base64Url.decode_encode]
  by_cases empty : secret = []
  · simp only [empty, if_true, not_true_eq_false, false_and, reduceCtorEq]
  · simp only [empty, if_false, not_false_eq_true, true_and, Guard.bind_ok_iff]
    constructor
    · rintro ⟨other, used, decrypted⟩
      by_cases same : other = key
      · rw [same, crypto.same] at decrypted
        cases decrypted
        exact ⟨same ▸ used, rfl⟩
      · rw [crypto.other _ _ _ _ same] at decrypted
        cases decrypted
    · rintro ⟨used, rfl⟩
      refine ⟨key, used, ?_⟩
      rw [crypto.same]

/-- A secret is stored and read back, now and later. -/
theorem secret_kept (accepted : validateProductionConfig parseUrl config = .ok ()) (rotated : Rotated config later) :
    (∃ text, encryptWebhookSecret crypto config secret iv = .ok text ∧
        decryptWebhookSecret crypto config text = .ok secret ∧
        getWebhookEncryptionKeyId text = .ok config.webhookActiveKeyId ∧
        decryptWebhookSecret crypto later text = .ok secret) ↔
      WebhookKeyStays config later crypto ∧ '.' ∉ config.webhookActiveKeyId.toList ∧ secret ≠ [] ∧
        isWellFormed secret = true := by
  have named : (∃ key, encryptionKey crypto config config.webhookActiveKeyId = .ok key) → config.webhookActiveKeyId ≠ "" := by
    rintro ⟨key, found⟩ empty
    obtain ⟨source, same, filled, -⟩ := encryptionKey_ok.mp found
    cases own : config.webhookEncryptionKeys.own config.webhookActiveKeyId with
    | some other => exact (Keyring.own_filled own).1 empty
    | none =>
      obtain ⟨-, fallback⟩ := orText_text own same
      rw [if_neg (by rw [empty]; decide)] at fallback
      exact filled fallback
  rw [← webhookKeyStays_iff accepted rotated, ← ofScalars_scalars_iff]
  constructor
  · rintro ⟨text, encrypted, decrypted, keyId, decrypted'⟩
    obtain ⟨key, found, rfl⟩ := encryptWebhookSecret_ok.mp encrypted
    have plain := (getWebhookEncryptionKeyId_iff (named ⟨key, found⟩)).mp keyId
    obtain ⟨filled, -, whole⟩ := (decryptWebhookSecret_iff plain (named ⟨key, found⟩)).mp decrypted
    obtain ⟨-, found', -⟩ := (decryptWebhookSecret_iff plain (named ⟨key, found⟩)).mp decrypted'
    exact ⟨⟨key, found, found'⟩, plain, filled, whole⟩
  · rintro ⟨⟨key, found, found'⟩, plain, filled, whole⟩
    have keyId := named ⟨key, found⟩
    refine ⟨_, encryptWebhookSecret_ok.mpr ⟨key, found, rfl⟩, ?_, (getWebhookEncryptionKeyId_iff keyId).mpr plain, ?_⟩
    · exact (decryptWebhookSecret_iff plain keyId).mpr ⟨filled, found, whole⟩
    · exact (decryptWebhookSecret_iff plain keyId).mpr ⟨filled, found', whole⟩

end SecretsRead

section Rereads
variable {library : TokenLibrary} {platform : Platform} {config : Config}

theorem signIn_issued {Store : Type} {store : AuthChallengeStore Store} {params : VerifyParams} {times : CallTimes}
    {state after : Store} {session : IssuedSession}
    (issued : signIn library platform config store params times state = (.ok session, after)) :
    issueToken library config (normalizeWalletAddress platform params.address) times.issuedAt = .ok session.token := by
  unfold signIn at issued
  dsimp only [verifyChallenge] at issued
  split at issued
  · cases issued
  split_ifs at issued with expired mismatch
  · cases issued
  · cases issued
  split at issued
  · cases issued
  · cases issued
  · split at issued
    · cases issued
    · split_ifs at issued
      · cases issued
      split at issued
      · cases issued
      · split at issued
        · cases issued
        · next token signed =>
          cases issued
          exact signed

/-- What a configuration writes it reads back, now and after a rotation, exactly when its active keys
stay what they are and the texts are ones that the formats can hold. -/
theorem accepted_config_rereads (library : TokenLibrary) (platform : Platform) {Key : Type} (crypto : Crypto Key)
    (parseUrl : ParseUrl) (config later : Config) (accepted : validateProductionConfig parseUrl config = .ok ())
    (rotated : Rotated config later) :
    (∀ {Store : Type} (store : AuthChallengeStore Store) (params : VerifyParams) (times : CallTimes) (state after : Store)
        (session : IssuedSession), signIn library platform config store params times state = (.ok session, after) →
      ((∀ now, now / 1000 < times.issuedAt / 1000 + config.authTokenTtlSecs →
          (∃ who, verifyAuthToken library platform config session.token now = .ok who) ∧
            ∃ who, verifyAuthToken library platform later session.token now = .ok who) ↔
        TokenKeyStays config later ∧ normalizeWalletAddress platform params.address ≠ "")) ∧
    ∀ (secret : Units) (iv : Iv),
      (∃ text, encryptWebhookSecret crypto config secret iv = .ok text ∧
          decryptWebhookSecret crypto config text = .ok secret ∧
          getWebhookEncryptionKeyId text = .ok config.webhookActiveKeyId ∧
          decryptWebhookSecret crypto later text = .ok secret) ↔
        WebhookKeyStays config later crypto ∧ '.' ∉ config.webhookActiveKeyId.toList ∧ secret ≠ [] ∧
          isWellFormed secret = true := by
  constructor
  · intro Store store params times state after session issued
    exact token_kept rotated (signIn_issued issued)
  · intro secret iv
    exact secret_kept accepted rotated

/-! A library and a cipher that only keep the keys apart. -/

/-- A text with a sign in front of each character and an end. -/
def frame (text : List Char) : List Char := text.flatMap (fun character => ['+', character]) ++ ['-']

def unframe : List Char → Option (List Char × List Char)
  | '+' :: character :: rest => (unframe rest).map fun parts => (character :: parts.1, parts.2)
  | '-' :: rest => some ([], rest)
  | _ => none

theorem unframe_frame (text rest : List Char) : unframe (frame text ++ rest) = some (text, rest) := by
  induction text with
  | nil => rfl
  | cons character others ih =>
    change (unframe (frame others ++ rest)).map _ = _
    rw [ih]
    rfl

def sampleLibrary : TokenLibrary where
  hs256 key _ _ := key
  exact _ _ _ _ same := same
  write token := String.ofList (frame token.kid.toList ++ (frame token.claims.address.toList ++
    (frame (List.replicate token.claims.iat 'i') ++ (frame (List.replicate token.claims.exp 'e') ++
      token.signature.toList))))
  decode text := do
    let (kid, rest) ← unframe text.toList
    let (address, rest) ← unframe rest
    let (iat, rest) ← unframe rest
    let (exp, rest) ← unframe rest
    return ⟨String.ofList kid, ⟨String.ofList address, iat.length, exp.length⟩, String.ofList rest⟩
  decode_write token := by
    simp only [String.toList_ofList, unframe_frame, Option.bind_eq_bind, Option.bind_some, String.ofList_toList,
      List.length_replicate]
    rfl

/-- Three bytes for each character. -/
def characterBytes (text : List Char) : List UInt8 :=
  text.flatMap fun character => [UInt8.ofNat (character.toNat / 65536), UInt8.ofNat (character.toNat / 256 % 256),
    UInt8.ofNat (character.toNat % 256)]

def bytesCharacters : List UInt8 → List Char
  | first :: second :: third :: rest =>
      Char.ofNat (65536 * first.toNat + 256 * second.toNat + third.toNat) :: bytesCharacters rest
  | _ => []

theorem bytesCharacters_characterBytes (text : List Char) : bytesCharacters (characterBytes text) = text := by
  induction text with
  | nil => rfl
  | cons character rest ih =>
    have valid := character.valid
    have bound : character.toNat < 1114112 := by
      rcases valid with low | ⟨-, high⟩
      · have low : character.toNat < 55296 := low
        omega
      · have high : character.toNat < 1114112 := high
        omega
    change Char.ofNat _ :: bytesCharacters (characterBytes rest) = _
    have code : 65536 * (UInt8.ofNat (character.toNat / 65536)).toNat + 256 * (UInt8.ofNat (character.toNat / 256 % 256)).toNat +
        (UInt8.ofNat (character.toNat % 256)).toNat = character.toNat := by
      simp only [UInt8.toNat_ofNat']
      omega
    rw [code, Char.ofNat_toNat, ih]

def sampleCrypto : Crypto String where
  sha256 := id
  encrypt key _ plaintext := (characterBytes plaintext, 0 :: characterBytes key.toList)
  decrypt key _ sealed := if sealed.2 = 0 :: characterBytes key.toList then some (bytesCharacters sealed.1) else none
  same key iv plaintext := by rw [if_pos rfl, bytesCharacters_characterBytes]
  other key other iv plaintext apart := by
    rw [if_neg]
    intro same
    have texts := congrArg bytesCharacters (List.cons.inj same).2
    rw [bytesCharacters_characterBytes, bytesCharacters_characterBytes] at texts
    exact apart (String.toList_inj.mp texts).symm
  ciphertext key iv plaintext := by
    constructor
    · intro none
      have back := bytesCharacters_characterBytes plaintext
      have empty : characterBytes plaintext = [] := none
      rw [empty] at back
      exact back.symm
    · rintro rfl
      rfl
  tag key iv plaintext := List.cons_ne_nil _ _

def sampleSecret : String := "0123456789abcdef0123456789abcdef"

def sampleKeyring : Keyring := ⟨[("2024", sampleSecret)], by decide, by decide⟩

def largerKeyring : Keyring := ⟨[("2025", sampleSecret ++ "0"), ("2024", sampleSecret)], by decide, by decide⟩

def sampleUrls : ParseUrl
  | "postgres://pool/pact" => some ⟨"postgres:", "pool", "", "/pact"⟩
  | "postgres://direct/pact" => some ⟨"postgres:", "direct", "", "/pact"⟩
  | "http://proxy" => some ⟨"http:", "proxy", "", "/"⟩
  | "https://pact.example" => some ⟨"https:", "pact.example", "", "/"⟩
  | _ => none

/-- An api process in production, with these key rings and active ids. -/
def apiConfig (jwtKeys webhookKeys : Keyring) (kid webhookId : String) (named : kid ≠ "") : Config where
  nodeEnv := .production
  serviceRole := .api
  databaseUrl := "postgres://pool/pact"
  directUrl := "postgres://direct/pact"
  corsOrigin := "https://pact.example"
  corsOrigins := ["https://pact.example"]
  ckbRailEnabled := false
  ckbNetwork := .testnet
  ckbNodeUrl := "https://testnet.ckb.dev/"
  ckbIndexerUrl := ""
  ckbMainnetEnabled := false
  ckbContractCodeHash := ""
  ckbContractHashType := ""
  ckbContractDeploymentTxHash := ""
  ckbContractDepType := "code"
  ckbSignerMode := "disabled"
  ckbSignerPrivateKey := ""
  requireSettlementReady := false
  workerQueues := ["webhook", "settlement"]
  jobLeaseMs := 60000
  jobTimeoutMs := 300000
  redisUrl := "redis://store"
  webhookEgressProxyUrl := "http://proxy"
  metricsBearerToken := sampleSecret
  adminAddresses := ["ckb1"]
  authJwtSecret := sampleSecret
  authJwtActiveKid := kid
  authJwtActiveKid_ne := named
  authJwtKeys := jwtKeys
  authTokenTtlSecs := 3600
  authTokenTtlSecs_pos := by decide
  authChallengeTtlSecs := 600
  webhookSecretEncryptionKey := sampleSecret
  webhookActiveKeyId := webhookId
  webhookEncryptionKeys := webhookKeys

def listed : Config := apiConfig sampleKeyring sampleKeyring "2024" "2024" (by decide)

def listedLater : Config := apiConfig largerKeyring largerKeyring "2025" "2025" (by decide)

/-- The active ids are in no ring. -/
def unlisted : Config := apiConfig sampleKeyring sampleKeyring "2025" "2025" (by decide)

/-- A wallet library that accepts every signature. -/
def anyPlatform : Platform where
  lowerCase := Text.asciiLowerCase
  jsonParse _ := none
  toISOString _ := ""
  verifyMessage _ _ := .ok true
  publicKeySigner _ := .ok ()
  recommendedAddress identity := .ok identity
  jwtSign _ _ := .error (.other "")

def sampleParams : VerifyParams := ⟨"ckb2", "Sign in.", ⟨"0x", "ckb2", "CkbSecp256k1"⟩⟩

def sampleRecords : Memory.Records := fun address =>
  if address = "ckb2" then some ⟨"ckb2", "Sign in.", 600000⟩ else none

def sampleSignIn (config : Config) : Except Failure IssuedSession × Memory.Records :=
  signIn sampleLibrary anyPlatform config memoryAuthChallengeStore sampleParams ⟨0, 0, 0, 0⟩ sampleRecords

theorem issued_of_ok {Store : Type} {result : Except Failure IssuedSession × Store} (ok : result.1.toBool = true) :
    ∃ session after, result = (.ok session, after) := by
  obtain ⟨outcome, after⟩ := result
  cases outcome with
  | error failure => cases ok
  | ok session => exact ⟨session, after, rfl⟩

/-- A rotation to more keys: the token of a sign-in and a stored secret outlive it. -/
theorem listed_rereads :
    (∃ session after, sampleSignIn listed = (.ok session, after) ∧
      ((∀ now, now / 1000 < 0 / 1000 + 3600 →
          (∃ who, verifyAuthToken sampleLibrary anyPlatform listed session.token now = .ok who) ∧
            ∃ who, verifyAuthToken sampleLibrary anyPlatform listedLater session.token now = .ok who) ↔
        TokenKeyStays listed listedLater ∧ normalizeWalletAddress anyPlatform "ckb2" ≠ "")) ∧
    ((∃ text, encryptWebhookSecret sampleCrypto listed (ofText "whsec_1".toList) ⟨List.replicate 12 0, by decide⟩ = .ok text ∧
        decryptWebhookSecret sampleCrypto listed text = .ok (ofText "whsec_1".toList) ∧
        getWebhookEncryptionKeyId text = .ok "2024" ∧
        decryptWebhookSecret sampleCrypto listedLater text = .ok (ofText "whsec_1".toList)) ↔
      WebhookKeyStays listed listedLater sampleCrypto ∧ '.' ∉ "2024".toList ∧ ofText "whsec_1".toList ≠ [] ∧
        isWellFormed (ofText "whsec_1".toList) = true) := by
  have accepted : validateProductionConfig sampleUrls listed = .ok () := by decide +kernel
  have larger : ∀ id secret, sampleKeyring.own id = some secret → largerKeyring.own id = some secret := by
    intro id secret found
    by_cases same : id = "2024"
    · rw [same] at found ⊢
      exact found
    · simp [Keyring.own, sampleKeyring, same] at found
  have rotated : Rotated listed listedLater := ⟨larger, larger, rfl, rfl⟩
  obtain ⟨tokens, secrets⟩ := accepted_config_rereads sampleLibrary anyPlatform sampleCrypto sampleUrls listed listedLater
    accepted rotated
  obtain ⟨session, after, issued⟩ := @issued_of_ok _ (sampleSignIn listed) (by decide +kernel)
  exact ⟨⟨session, after, issued, tokens _ _ _ _ _ _ issued⟩, secrets _ _⟩

/-- An active id outside of the rings passes the checks at startup, which then fall back to the single
key; sign-ins issue tokens that no one accepts, and no webhook secret can be stored. -/
theorem unlisted_keys_fail :
    validateProductionConfig sampleUrls unlisted = .ok () ∧
    (∃ session after, sampleSignIn unlisted = (.ok session, after) ∧
      ∀ now who, verifyAuthToken sampleLibrary anyPlatform unlisted session.token now ≠ .ok who) ∧
    ∀ secret iv, encryptWebhookSecret sampleCrypto unlisted secret iv =
      .error (.other "Missing required configuration: webhook encryption key 2025") := by
  refine ⟨by decide +kernel, ?_, fun secret iv => rfl⟩
  obtain ⟨session, after, issued⟩ := @issued_of_ok _ (sampleSignIn unlisted) (by decide +kernel)
  refine ⟨session, after, issued, ?_⟩
  intro now who accepted
  obtain ⟨key, -, -, token⟩ := issueToken_ok (signIn_issued issued)
  rw [token] at accepted
  have verified := (verifyAuthToken_iff.mp ⟨who, accepted⟩).1
  rw [jwtVerificationKey_write unlisted.authJwtActiveKid_ne] at verified
  cases verified

end Rereads

end PactAgent.Startup
