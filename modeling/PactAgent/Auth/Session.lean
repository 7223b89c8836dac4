import PactAgent.Auth.ChallengeStore
import PactAgent.Common.Errors
import PactAgent.Foundation.Json
import PactAgent.Foundation.Text

/-! Wallet sign-in: a challenge is stored for an address, a signature over it is
verified, and the address derived from the signer is compared with the requested
one before a session token is issued. -/

namespace PactAgent.Auth.Session
open PactAgent.Common PactAgent.Foundation PactAgent.Auth.ChallengeStore

structure WalletSignature where
  signature : String
  identity : String
  signType : String
  deriving DecidableEq

/-- What the service calls outside this repository: the runtime, the CKB library and
the token library. A failing call throws. -/
structure Platform where
  lowerCase : Text.LowerCase
  jsonParse : String → Option Json
  toISOString : Nat → String
  verifyMessage : String → WalletSignature → Except Failure Bool
  /-- The constructor of `SignerCkbPublicKey`, which throws at once. -/
  publicKeySigner : String → Except Failure Unit
  /-- The address of a constructed signer, a promise that may be rejected. -/
  recommendedAddress : String → Except Failure String
  jwtSign : String → Nat → Except Failure String

structure AuthConfig where
  authChallengeTtlSecs : Nat
  authTokenTtlSecs : Nat
  adminAddresses : List String

section Service
variable (platform : Platform) (config : AuthConfig)

def normalizeWalletAddress (address : String) : String :=
  platform.lowerCase.lower (Text.trim address)

def isAdminAddress (address : String) : Bool :=
  config.adminAddresses.contains (normalizeWalletAddress platform address)

def buildChallengeMessage (address nonce : String) (now : Nat) : String :=
  "\n".intercalate
    ["PactAgent Authentication",
      "",
      "Address: " ++ address,
      "Nonce: " ++ nonce,
      "Issued At: " ++ platform.toISOString now,
      "",
      "Sign this message to authenticate with PactAgent."]

variable {Store : Type} (store : AuthChallengeStore Store)

def createChallenge (address nonce : String) (now : Nat) (state : Store) : Store :=
  let normalized := normalizeWalletAddress platform address
  store.put
    ⟨normalized, buildChallengeMessage platform normalized nonce now,
      now + config.authChallengeTtlSecs * 1000⟩
    (config.authChallengeTtlSecs * 1000) now state

/-- A public key as the JoyID branch passes it on. -/
def prefixedKey (publicKey : String) : String :=
  if publicKey.startsWith "0x" then publicKey else "0x" ++ publicKey

/-- The address that a parsed JoyID identity gives: `none` where the code throws and
where it gives none, since both go on behind the guarded block. -/
def identityAddress (identity : Json) : Option (Except Failure String) :=
  if Json.truthy (identity.field "address") then
    match identity.field "address" with
    | some (.string address) => some (.ok (normalizeWalletAddress platform address))
    | _ => none
  else if Json.truthy (identity.field "publicKey") then
    match identity.field "publicKey" with
    | some (.string publicKey) =>
        -- (length - 2) / 2 === 33
        if Text.utf16Length (prefixedKey publicKey) = 68 then
          match platform.publicKeySigner (prefixedKey publicKey) with
          | .ok () => some (platform.recommendedAddress (prefixedKey publicKey))
          | .error _ => none
        else none
    | _ => none
  else none

def joyIdAddress (identity : String) : Option (Except Failure String) :=
  match platform.jsonParse identity with
  | none => none
  -- reading a property of null throws
  | some .null => none
  | some value => identityAddress platform value

def deriveAddressFromSignatureIdentity (signature : WalletSignature) (requestedAddress : String) :
    Except Failure String :=
  if signature.signType = "CkbSecp256k1" then do
    platform.publicKeySigner signature.identity
    platform.recommendedAddress signature.identity
  else
    match (if signature.signType = "JoyId" then joyIdAddress platform signature.identity else none) with
    | some returned => returned
    | none =>
        if signature.signType = "EvmPersonal" ∧ requestedAddress ≠ "" then
          .ok (normalizeWalletAddress platform requestedAddress)
        else if signature.signType = "JoyId" ∧ requestedAddress ≠ "" then
          .ok (normalizeWalletAddress platform requestedAddress)
        else
          .error (.other ("Unsupported signer type for authentication: " ++ signature.signType))

structure VerifyParams where
  address : String
  message : String
  signature : WalletSignature

/-- The clock readings of one call, one for each place that asks. -/
structure CallTimes where
  readAt : Nat
  checkedAt : Nat
  consumedAt : Nat
  issuedAt : Nat

structure IssuedSession where
  token : String
  address : String
  isAdmin : Bool
  expiresAt : Nat

def verifyChallenge (params : VerifyParams) (times : CallTimes) (state : Store) :
    Except Failure IssuedSession × Store :=
  let normalized := normalizeWalletAddress platform params.address
  match store.get normalized times.readAt state with
  | (none, state) =>
      (.error (.other "Authentication challenge not found. Please request a new one."), state)
  | (some challenge, state) =>
      if challenge.expiresAt < times.checkedAt then
        (.error (.other "Authentication challenge has expired. Please request a new one."), state)
      else if challenge.address ≠ normalized ∨ challenge.message ≠ params.message then
        (.error (.other "Challenge message mismatch."), state)
      else
        match platform.verifyMessage params.message params.signature with
        | .error failure => (.error failure, state)
        | .ok false => (.error (.other "Wallet signature verification failed."), state)
        | .ok true =>
            match deriveAddressFromSignatureIdentity platform params.signature normalized with
            | .error failure => (.error failure, state)
            | .ok derivedAddress =>
                if normalizeWalletAddress platform derivedAddress ≠ normalized then
                  (.error (.other "Signed wallet address does not match the requested account."), state)
                else
                  match store.consume normalized params.message times.consumedAt state with
                  | (false, state) =>
                      (.error (.other
                        "Authentication challenge was already consumed. Please request a new one."), state)
                  | (true, state) =>
                      match platform.jwtSign normalized times.issuedAt with
                      | .error failure => (.error failure, state)
                      | .ok token =>
                          (.ok ⟨token, normalized, isAdminAddress platform config normalized,
                            times.issuedAt + config.authTokenTtlSecs * 1000⟩, state)

/-- What a token says about the call that issued it. -/
theorem verifyChallenge_issued {params : VerifyParams} {times : CallTimes} {state after : Store}
    {session : IssuedSession}
    (issued : verifyChallenge platform config store params times state = (.ok session, after)) :
    platform.verifyMessage params.message params.signature = .ok true ∧
      ∃ derived, deriveAddressFromSignatureIdentity platform params.signature session.address =
          .ok derived ∧
        normalizeWalletAddress platform derived = session.address := by
  dsimp only [verifyChallenge] at issued
  split at issued
  · cases issued
  split_ifs at issued with expired mismatch
  · cases issued
  · cases issued
  cases signed : platform.verifyMessage params.message params.signature with
  | error failure => simp only [signed] at issued; cases issued
  | ok valid =>
    cases valid with
    | false => simp only [signed] at issued; cases issued
    | true =>
      simp only [signed] at issued
      split at issued
      · cases issued
      next derived derivation =>
        split_ifs at issued with different
        · cases issued
        split at issued
        · cases issued
        · split at issued
          · cases issued
          · cases issued
            exact ⟨rfl, derived, derivation, not_not.mp different⟩

end Service

end PactAgent.Auth.Session
