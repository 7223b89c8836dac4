import PactAgent.Auth.Session
import PactAgent.Foundation.Execution

/-! Which sessions are bound to their signer. A session is bound when the verified
signature alone determines the address that was compared; the branches that echo
the requested address make that comparison vacuous. -/

namespace PactAgent.Auth.Binding
open PactAgent.Common PactAgent.Foundation PactAgent.Foundation.Execution
open PactAgent.Auth.ChallengeStore PactAgent.Auth.Session

/-- A token together with the request it was issued for. -/
structure Issued where
  params : VerifyParams
  session : IssuedSession

structure AuthState (Store : Type) where
  store : Store
  sessions : List Issued

inductive AuthCall where
  | challenge (address nonce : String) (now : Nat)
  | verify (params : VerifyParams) (times : CallTimes)

def challengeSchema (address : String) : Bool := address != ""

def verifySchema (params : VerifyParams) : Bool :=
  params.address != "" && params.message != "" && params.signature.signature != "" &&
    params.signature.identity != "" && params.signature.signType != ""

section System
variable (platform : Platform) (config : AuthConfig) {Store : Type} (store : AuthChallengeStore Store)

def step (state : AuthState Store) : AuthCall → Option (AuthState Store)
  | .challenge address nonce now =>
      if challengeSchema address then
        some { state with store := createChallenge platform config store address nonce now state.store }
      else some state
  | .verify params times =>
      if verifySchema params then
        match verifyChallenge platform config store params times state.store with
        | (.ok session, after) => some ⟨after, state.sessions ++ [⟨params, session⟩]⟩
        | (.error _, after) => some ⟨after, state.sessions⟩
      else some state

/-- The verified signer determines the address: whatever address is requested, the
derivation gives this one. -/
def SignerDetermines (signature : WalletSignature) (address : String) : Prop :=
  ∀ requestedAddress, ∃ derived,
    deriveAddressFromSignatureIdentity platform signature requestedAddress = .ok derived ∧
      normalizeWalletAddress platform derived = address

/-- A JoyID identity that names its own address or a CKB public key: parsed as JSON, a
non-empty `address` text, or no `address` and a 33-byte `publicKey` text that the
library takes. -/
def JoyIdNamesAddress (identity : String) : Prop :=
  ∃ value, platform.jsonParse identity = some value ∧
    ((∃ address, value.field "address" = some (.string address) ∧ address ≠ "") ∨
      (Json.truthy (value.field "address") = false ∧
        ∃ publicKey, value.field "publicKey" = some (.string publicKey) ∧ publicKey ≠ "" ∧
          Text.utf16Length (prefixedKey publicKey) = 68 ∧
          platform.publicKeySigner (prefixedKey publicKey) = .ok ()))

/-- The kinds of signature whose address does not come from the request. -/
def FixesAddress (signature : WalletSignature) : Prop :=
  signature.signType = "CkbSecp256k1" ∨
    (signature.signType = "JoyId" ∧ JoyIdNamesAddress platform signature.identity)

def AuthCall.FixesAddress : AuthCall → Prop
  | .challenge _ _ _ => True
  | .verify params _ => Binding.FixesAddress platform params.signature

theorem joyIdAddress_eq_bind (identity : String) :
    joyIdAddress platform identity = (platform.jsonParse identity).bind (identityAddress platform) := by
  unfold joyIdAddress
  cases platform.jsonParse identity with
  | none => rfl
  | some value => cases value <;> rfl

theorem truthy_string (text : String) : Json.truthy (some (.string text)) = true ↔ text ≠ "" := by
  simp [Json.truthy]

theorem identityAddress_isSome_iff (identity : Json) :
    (identityAddress platform identity).isSome = true ↔
      ((∃ address, identity.field "address" = some (.string address) ∧ address ≠ "") ∨
        (Json.truthy (identity.field "address") = false ∧
          ∃ publicKey, identity.field "publicKey" = some (.string publicKey) ∧ publicKey ≠ "" ∧
            Text.utf16Length (prefixedKey publicKey) = 68 ∧
            platform.publicKeySigner (prefixedKey publicKey) = .ok ())) := by
  unfold identityAddress
  by_cases named : Json.truthy (identity.field "address") = true
  · rw [if_pos named]
    generalize identity.field "address" = address at named ⊢
    match address with
    | some (.string text) => simp [(truthy_string text).mp named]
    | some .null | some (.bool _) | some (.number _) | some (.array _) | some (.object _) | none =>
      simp [named]
  rw [if_neg named]
  have unnamed : ∀ text, identity.field "address" = some (.string text) → ¬text ≠ "" := by
    intro text found present
    exact named (by rw [found]; exact (truthy_string text).mpr present)
  have noAddress : ¬∃ address, identity.field "address" = some (.string address) ∧ address ≠ "" :=
    fun ⟨text, found, present⟩ => unnamed text found present
  rw [Bool.not_eq_true] at named
  simp only [noAddress, named, false_or, true_and]
  generalize identity.field "publicKey" = publicKey
  match publicKey with
  | some (.string text) =>
    by_cases present : text = ""
    · simp [present, Json.truthy]
    rw [if_pos ((truthy_string text).mpr present)]
    by_cases size : Text.utf16Length (prefixedKey text) = 68
    · cases constructed : platform.publicKeySigner (prefixedKey text) with
      | error failure => simp [size, constructed]
      | ok value => simp [size, constructed, present]
    · simp [size]
  | some .null | some (.bool _) | some (.number _) | some (.array _) | some (.object _) | none => simp

theorem joyIdAddress_isSome_iff (identity : String) :
    (joyIdAddress platform identity).isSome = true ↔ JoyIdNamesAddress platform identity := by
  rw [joyIdAddress_eq_bind, JoyIdNamesAddress]
  cases platform.jsonParse identity with
  | none => simp
  | some value => simp [identityAddress_isSome_iff]

/-- A derivation that does not fix the address gives back whatever was requested. -/
theorem derive_echoes {signature : WalletSignature} (free : ¬FixesAddress platform signature)
    {first derived : String}
    (supported : deriveAddressFromSignatureIdentity platform signature first = .ok derived)
    (requestedAddress : String) (present : requestedAddress ≠ "") :
    deriveAddressFromSignatureIdentity platform signature requestedAddress =
      .ok (normalizeWalletAddress platform requestedAddress) := by
  have other : signature.signType ≠ "CkbSecp256k1" := fun same => free (.inl same)
  unfold deriveAddressFromSignatureIdentity at supported ⊢
  rw [if_neg other] at supported ⊢
  have fallThrough :
      (if signature.signType = "JoyId" then joyIdAddress platform signature.identity else none) = none := by
    split_ifs with joyId
    · rw [← Option.not_isSome_iff_eq_none, joyIdAddress_isSome_iff]
      exact fun names => free (.inr ⟨joyId, names⟩)
    · rfl
  rw [fallThrough] at supported ⊢
  simp only [present, ne_eq, not_false_eq_true, and_true] at supported ⊢
  split_ifs at supported ⊢ with evm joyId <;> first | rfl | simp_all

/-- A derivation that fixes the address is the same for every requested one. -/
theorem derive_fixed {signature : WalletSignature} (fixed : FixesAddress platform signature)
    (first second : String) :
    deriveAddressFromSignatureIdentity platform signature first =
      deriveAddressFromSignatureIdentity platform signature second := by
  unfold deriveAddressFromSignatureIdentity
  rcases fixed with secp | ⟨joyId, names⟩
  · rw [if_pos secp, if_pos secp]
  · obtain ⟨returned, found⟩ := Option.isSome_iff_exists.mp ((joyIdAddress_isSome_iff platform _).mpr names)
    rw [if_pos joyId, found]

theorem normalizeWalletAddress_a : normalizeWalletAddress platform "a" = "a" := by
  have trimmed : Text.trim "a" = "a" := by rfl
  have ascii : ∀ character ∈ "a".toList, character.toNat < 128 := by simp
  rw [normalizeWalletAddress, trimmed, platform.lowerCase.ascii "a" ascii]
  decide

theorem normalizeWalletAddress_b : normalizeWalletAddress platform "b" = "b" := by
  have trimmed : Text.trim "b" = "b" := by rfl
  have ascii : ∀ character ∈ "b".toList, character.toNat < 128 := by simp
  rw [normalizeWalletAddress, trimmed, platform.lowerCase.ascii "b" ascii]
  decide

/-- Of the addresses a signature is accepted for, it determines the one it was issued
for exactly when its kind fixes the address. -/
theorem signerDetermines_iff {signature : WalletSignature} {address derived : String}
    (derivation : deriveAddressFromSignatureIdentity platform signature address = .ok derived)
    (same : normalizeWalletAddress platform derived = address) :
    SignerDetermines platform signature address ↔ FixesAddress platform signature := by
  refine ⟨?_, ?_⟩
  · intro determined
    by_contra free
    obtain ⟨first, firstDerived, firstSame⟩ := determined "a"
    obtain ⟨second, secondDerived, secondSame⟩ := determined "b"
    rw [derive_echoes platform free derivation _ (by decide)] at firstDerived secondDerived
    cases firstDerived
    cases secondDerived
    have both := firstSame.trans secondSame.symm
    simp only [normalizeWalletAddress_a, normalizeWalletAddress_b] at both
    exact absurd both (by decide)
  · intro fixed requestedAddress
    exact ⟨derived, (derive_fixed platform fixed requestedAddress address).trans derivation, same⟩

/-- What every issued token carries: a verified signature and a derivation of its address. -/
def Issued.Verified (issued : Issued) : Prop :=
  platform.verifyMessage issued.params.message issued.params.signature = .ok true ∧
    ∃ derived, deriveAddressFromSignatureIdentity platform issued.params.signature
        issued.session.address = .ok derived ∧
      normalizeWalletAddress platform derived = issued.session.address

/-- One call adds at most one token, for its own request and verified. -/
theorem step_sessions {state next : AuthState Store} {call : AuthCall}
    (taken : step platform config store state call = some next) :
    next.sessions = state.sessions ∨
      ∃ params times session, call = .verify params times ∧
        next.sessions = state.sessions ++ [⟨params, session⟩] ∧
        (⟨params, session⟩ : Issued).Verified platform := by
  cases call with
  | challenge address nonce now =>
    dsimp only [step] at taken
    split_ifs at taken <;> cases taken <;> exact .inl rfl
  | verify params times =>
    dsimp only [step] at taken
    split_ifs at taken with accepted
    · split at taken
      next session after issued =>
        cases taken
        exact .inr ⟨params, times, session, rfl, rfl,
          verifyChallenge_issued platform config store issued⟩
      next failure after failed =>
        cases taken
        exact .inl rfl
    · cases taken
      exact .inl rfl

/-- Every token of the state is verified, and its signature meets `condition`. -/
def AllIssued (condition : WalletSignature → Prop) (state : AuthState Store) : Prop :=
  ∀ issued ∈ state.sessions, issued.Verified platform ∧ condition issued.params.signature

theorem step_allIssued (condition : WalletSignature → Prop) {state next : AuthState Store}
    {call : AuthCall} (before : AllIssued platform condition state)
    (met : ∀ params times, call = .verify params times → condition params.signature)
    (taken : step platform config store state call = some next) :
    AllIssued platform condition next := by
  intro issued member
  rcases step_sessions platform config store taken with same | ⟨params, times, session, rfl, added, verified⟩
  · rw [same] at member
    exact before issued member
  · rw [added, List.mem_append, List.mem_singleton] at member
    rcases member with old | rfl
    · exact before issued old
    · exact ⟨verified, met params times rfl⟩

/-- In every run of challenge and verification calls each issued token carries a
verified signature, and its signer determines its address exactly when the signature
is of a kind that fixes the address; where all requests are, all tokens are bound. -/
theorem issued_signerDetermines_iff (initial : Store) (calls : List AuthCall) (final : AuthState Store)
    (reached : run (step platform config store) ⟨initial, []⟩ calls = some final) :
    (∀ issued ∈ final.sessions,
      platform.verifyMessage issued.params.message issued.params.signature = .ok true ∧
        (SignerDetermines platform issued.params.signature issued.session.address ↔
          FixesAddress platform issued.params.signature)) ∧
    ((∀ call ∈ calls, call.FixesAddress platform) →
      ∀ issued ∈ final.sessions,
        SignerDetermines platform issued.params.signature issued.session.address) := by
  refine ⟨?_, ?_⟩
  · have preserved : ∀ (state : AuthState Store) (call : AuthCall) (next : AuthState Store),
        AllIssued platform (fun _ => True) state →
        step platform config store state call = some next →
        AllIssued platform (fun _ => True) next := by
      intro state call next before taken
      exact step_allIssued platform config store _ before (fun _ _ _ => trivial) taken
    have all := invariant_run preserved calls ⟨initial, []⟩ final (by simp [AllIssued]) reached
    intro issued member
    obtain ⟨⟨signed, derived, derivation, same⟩, -⟩ := all issued member
    exact ⟨signed, signerDetermines_iff platform derivation same⟩
  · intro allFix
    have preserved : ∀ (state : AuthState Store) (call : AuthCall) (next : AuthState Store),
        AllIssued platform (FixesAddress platform) state → call.FixesAddress platform →
        step platform config store state call = some next →
        AllIssued platform (FixesAddress platform) next := by
      intro state call next before met taken
      refine step_allIssued platform config store _ before ?_ taken
      intro params times same
      subst same
      exact met
    have all := invariant_along preserved calls ⟨initial, []⟩ final (by simp [AllIssued])
      (alongRun_of_forall calls _ allFix) reached
    intro issued member
    obtain ⟨⟨-, derived, derivation, same⟩, fixed⟩ := all issued member
    exact (signerDetermines_iff platform derivation same).mpr fixed

end System

section Samples

/-- The account of one secp256k1 key on testnet, its public key and its EVM address. -/
def ownAddress : String :=
  "ckt1qzda0cr08m85hc8jlnfp3zer7xulejywt49kt2rr0vthywaa50xwsqt4z78ng4yutl5u6xsv27ht6q08mhujf8s2r0n40"
def ownPublicKey : String := "0x0279be667ef9dcbbac55a06295ce870b07029bfcdb2dce28d959f2815b16f81798"
def ownEvmAddress : String := "0x7E5F4552091A69125d5DfCb7b8C2659029395Bdf"

/-- The account of another key, an administrator's. -/
def adminAddress : String :=
  "ckt1qzda0cr08m85hc8jlnfp3zer7xulejywt49kt2rr0vthywaa50xwsqdrcaufs8qeu8wvvy0myyedek4vqad9qeq3gc4cf"

def sampleNonce : String := "3f2b8c1e-5a6d-4e7f-9b0a-1c2d3e4f5a6b"
def sampleTime : String := "2026-08-27T00:00:00.000Z"

def sampleMessage (address : String) : String :=
  "\n".intercalate
    ["PactAgent Authentication", "", "Address: " ++ address, "Nonce: " ++ sampleNonce,
      "Issued At: " ++ sampleTime, "", "Sign this message to authenticate with PactAgent."]

/-- The key's signature over the challenge for its own address. -/
def ownSignature : WalletSignature :=
  ⟨"0xf973a0b87062c389d125d8199e803b832b6ac6bf7867a4f6cd87506060fc4c58" ++
      "0473c284a706162421547e3a010611e7bbb1645db175aa4fc715fe00040b71af00",
    ownPublicKey, "CkbSecp256k1"⟩

/-- The same key's personal-message signature over the challenge for the administrator. -/
def foreignSignature : WalletSignature :=
  ⟨"0xf973a0b87062c389d125d8199e803b832b6ac6bf7867a4f6cd87506060fc4c58" ++
      "767c415b2043d461dcbc2ac6c3ff00897550c7f7ccd74abaad0273656778d0191b",
    ownEvmAddress, "EvmPersonal"⟩

/-- What the libraries answer about these two signatures and this key. -/
def samplePlatform : Platform where
  lowerCase := Text.asciiLowerCase
  jsonParse _ := none
  toISOString _ := sampleTime
  verifyMessage message signature :=
    if (message = sampleMessage ownAddress ∧ signature = ownSignature) ∨
        (message = sampleMessage adminAddress ∧ signature = foreignSignature) then .ok true
    else .ok false
  publicKeySigner publicKey :=
    if publicKey = ownPublicKey then .ok () else .error (.other "Invalid public key")
  recommendedAddress _ := .ok ownAddress
  jwtSign address _ := .ok ("token:" ++ address)

def sampleConfig : AuthConfig := ⟨300, 3600, [adminAddress]⟩

/-- A challenge for `address` and its verification with `signature` a second later. -/
def signIn (address : String) (signature : WalletSignature) : List AuthCall :=
  [.challenge address sampleNonce 1787788800000,
    .verify ⟨address, sampleMessage address, signature⟩
      ⟨1787788801000, 1787788801000, 1787788801000, 1787788801000⟩]

theorem normalizeWalletAddress_of_plain {address : String}
    (plain : ((address.toList.dropWhile Text.isWhiteSpace).reverse.dropWhile Text.isWhiteSpace).reverse.map
      Char.toLower = address.toList) : normalizeWalletAddress samplePlatform address = address := by
  change String.ofList ((Text.trim address).toList.map Char.toLower) = address
  rw [Text.trim, String.toList_ofList, plain, String.ofList_toList]

theorem normalizeWalletAddress_own :
    normalizeWalletAddress samplePlatform ownAddress = ownAddress := by
  apply normalizeWalletAddress_of_plain
  unfold ownAddress
  simp only [String.reduceToList]
  decide +kernel

theorem normalizeWalletAddress_admin :
    normalizeWalletAddress samplePlatform adminAddress = adminAddress := by
  apply normalizeWalletAddress_of_plain
  unfold adminAddress
  simp only [String.reduceToList]
  decide +kernel

/-- A sign-in whose signature is verified and derived as requested issues one token. -/
theorem signIn_issues {address derived : String} {signature : WalletSignature}
    (normal : normalizeWalletAddress samplePlatform address = address)
    (schema : verifySchema ⟨address, sampleMessage address, signature⟩ = true)
    (signed : samplePlatform.verifyMessage (sampleMessage address) signature = .ok true)
    (derivation : deriveAddressFromSignatureIdentity samplePlatform signature address = .ok derived)
    (same : normalizeWalletAddress samplePlatform derived = address) :
    ∃ final, run (step samplePlatform sampleConfig memoryAuthChallengeStore) ⟨fun _ => none, []⟩
        (signIn address signature) = some final ∧
      final.sessions = [⟨⟨address, sampleMessage address, signature⟩,
        ⟨"token:" ++ address, address, isAdminAddress samplePlatform sampleConfig address, 1787792401000⟩⟩] := by
  have present : challengeSchema address = true := by
    simp only [verifySchema, Bool.and_eq_true] at schema
    exact schema.1.1.1.1
  have message : buildChallengeMessage samplePlatform address sampleNonce 1787788800000 =
      sampleMessage address := rfl
  have token : samplePlatform.jwtSign address 1787788801000 = .ok ("token:" ++ address) := rfl
  simp [signIn, run, step, present, schema, createChallenge, verifyChallenge, normal, signed, derivation,
    same, message, token, memoryAuthChallengeStore, Memory.get, Memory.consume, sampleConfig]

theorem ownSignIn_bound :
    ∃ final, run (step samplePlatform sampleConfig memoryAuthChallengeStore) ⟨fun _ => none, []⟩
        (signIn ownAddress ownSignature) = some final ∧
      final.sessions.map (fun issued => issued.session.address) = [ownAddress] ∧
      ∀ issued ∈ final.sessions,
        SignerDetermines samplePlatform issued.params.signature issued.session.address := by
  have schema : verifySchema ⟨ownAddress, sampleMessage ownAddress, ownSignature⟩ = true := by
    decide +kernel
  have signed : samplePlatform.verifyMessage (sampleMessage ownAddress) ownSignature = .ok true := by
    simp only [samplePlatform, and_self, true_or, if_true]
  have secp : ownSignature.signType = "CkbSecp256k1" := rfl
  have constructed : samplePlatform.publicKeySigner ownSignature.identity = .ok () := by
    change (if ownPublicKey = ownPublicKey then Except.ok ()
      else .error (.other "Invalid public key")) = Except.ok ()
    rw [if_pos rfl]
  have derivation : deriveAddressFromSignatureIdentity samplePlatform ownSignature ownAddress =
      .ok ownAddress := by
    rw [deriveAddressFromSignatureIdentity, if_pos secp, constructed]
    rfl
  obtain ⟨final, reached, sessions⟩ := signIn_issues normalizeWalletAddress_own schema signed derivation
    normalizeWalletAddress_own
  refine ⟨final, reached, by rw [sessions]; rfl, ?_⟩
  refine (issued_signerDetermines_iff samplePlatform sampleConfig memoryAuthChallengeStore _ _ final
    reached).2 ?_
  intro call member
  rcases List.mem_pair.mp member with rfl | rfl
  · trivial
  · exact .inl rfl

/-- The holder of one key signs in as the administrator, whose address its signature
does not determine. -/
theorem foreignSignIn_not_bound :
    ∃ final issued, run (step samplePlatform sampleConfig memoryAuthChallengeStore) ⟨fun _ => none, []⟩
        (signIn adminAddress foreignSignature) = some final ∧
      issued ∈ final.sessions ∧ issued.session.address = adminAddress ∧ issued.session.isAdmin = true ∧
      ¬SignerDetermines samplePlatform issued.params.signature issued.session.address := by
  have schema : verifySchema ⟨adminAddress, sampleMessage adminAddress, foreignSignature⟩ = true := by
    decide +kernel
  have signed : samplePlatform.verifyMessage (sampleMessage adminAddress) foreignSignature = .ok true := by
    simp only [samplePlatform, and_self, or_true, if_true]
  have echoed : deriveAddressFromSignatureIdentity samplePlatform foreignSignature adminAddress =
      .ok adminAddress := by
    have secp : ¬foreignSignature.signType = "CkbSecp256k1" := by decide
    have joyId : ¬foreignSignature.signType = "JoyId" := by decide
    have present : adminAddress ≠ "" := by decide +kernel
    rw [deriveAddressFromSignatureIdentity, if_neg secp, if_neg joyId]
    exact (if_pos ⟨rfl, present⟩).trans (congrArg _ normalizeWalletAddress_admin)
  have free : ¬FixesAddress samplePlatform foreignSignature := by
    intro fixed
    rcases fixed with secp | ⟨joyId, -⟩
    · exact absurd secp (by decide)
    · exact absurd joyId (by decide)
  obtain ⟨final, reached, sessions⟩ := signIn_issues normalizeWalletAddress_admin schema signed echoed
    normalizeWalletAddress_admin
  refine ⟨final, _, reached, by rw [sessions]; exact List.mem_singleton_self _, rfl, ?_, ?_⟩
  · simp only [isAdminAddress, normalizeWalletAddress_admin, sampleConfig, List.contains_cons,
      beq_self_eq_true, Bool.true_or]
  · rw [signerDetermines_iff samplePlatform echoed normalizeWalletAddress_admin]
    exact free

end Samples

end PactAgent.Auth.Binding
