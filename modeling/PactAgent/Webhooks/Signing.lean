import PactAgent.Common.Errors
import PactAgent.Foundation.CodeUnits
import PactAgent.Foundation.Hex

/-! The signature of a webhook: a keyed digest over the timestamp and the body. -/

namespace PactAgent.Webhooks.Signing
open PactAgent.Foundation PactAgent.Foundation.CodeUnits PactAgent.Common

/-- The 32 bytes of SHA-256. -/
abbrev Digest := { bytes : List UInt8 // bytes.length = 32 }

/-- HMAC-SHA256 by key and message. -/
abbrev Hmac := List UInt8 → List UInt8 → Digest

def dot : UInt16 := 46

def signedText (timestamp rawBody : Units) : Units := timestamp ++ dot :: rawBody

def signWebhookPayload (hmac : Hmac) (secret timestamp rawBody : Units) : Units :=
  ofText "sha256=".toList ++ ofText (Hex.encode (hmac (utf8 secret) (utf8 (signedText timestamp rawBody))).val)

/-- It throws a RangeError on buffers of different length. -/
def timingSafeEqual (first second : List UInt8) : Except Failure Bool :=
  if first.length ≠ second.length then .error (.other "Input buffers must have the same byte length")
  else .ok (first = second)

def verifyWebhookSignature (hmac : Hmac) (secret timestamp rawBody signature : Units) : Except Failure Bool :=
  let expected := signWebhookPayload hmac secret timestamp rawBody
  if expected.length ≠ signature.length then .ok false else timingSafeEqual (utf8 expected) (utf8 signature)

section Format
variable {hmac : Hmac} {secret timestamp rawBody : Units}

theorem ofText_ascii {text : List Char} (ascii : ∀ character ∈ text, character.toNat < 128) :
    ∀ unit ∈ ofText text, unit.toNat < 128 := by
  intro unit member
  obtain ⟨character, inText, same⟩ := List.mem_map.mp member
  have small := ascii character inText
  rw [← same, UInt16.toNat_ofNat']
  exact Nat.lt_of_le_of_lt (Nat.mod_le _ _) small

theorem ofText_inj {first second : List Char} (ascii : ∀ character ∈ first, character.toNat < 128)
    (ascii' : ∀ character ∈ second, character.toNat < 128) (same : ofText first = ofText second) : first = second := by
  have back : ∀ text : List Char, (∀ character ∈ text, character.toNat < 128) →
      (ofText text).map (fun unit => Char.ofNat unit.toNat) = text := by
    intro text small
    rw [ofText, List.map_map]
    conv_rhs => rw [← List.map_id text]
    apply List.map_congr_left
    intro character member
    have bound := small character member
    have code : (UInt16.ofNat character.toNat).toNat = character.toNat := by
      rw [UInt16.toNat_ofNat']
      exact Nat.mod_eq_of_lt (by omega)
    simp [code]
  rw [← back first ascii, same, back second ascii']

theorem encode_ascii (bytes : List UInt8) : ∀ character ∈ Hex.encode bytes, character.toNat < 128 := by
  intro character member
  have lower := (Hex.mem_encode member).1
  simp only [Hex.isLowerDigit, Bool.or_eq_true, Bool.and_eq_true, decide_eq_true_eq] at lower
  have nine : character ≤ '9' → character.toNat ≤ 57 := fun le => le
  have letter : character ≤ 'f' → character.toNat ≤ 102 := fun le => le
  rcases lower with ⟨-, le⟩ | ⟨-, le⟩
  · have bound := nine le
    omega
  · have bound := letter le
    omega

theorem sign_length : (signWebhookPayload hmac secret timestamp rawBody).length = 71 := by
  have digest := (hmac (utf8 secret) (utf8 (signedText timestamp rawBody))).property
  simp [signWebhookPayload, ofText, digest]

theorem sign_ascii : ∀ unit ∈ signWebhookPayload hmac secret timestamp rawBody, unit.toNat < 128 := by
  have checked : "sha256=".toList.all (fun character => character.toNat < 128) = true := by decide +kernel
  have label : ∀ character ∈ "sha256=".toList, character.toNat < 128 := fun character inLabel =>
    of_decide_eq_true (List.all_eq_true.mp checked character inLabel)
  intro unit member
  rcases List.mem_append.mp member with inLabel | inDigits
  · exact ofText_ascii label unit inLabel
  · exact ofText_ascii (encode_ascii _) unit inDigits

/-- Two signatures are one when their digests are. -/
theorem sign_eq_iff {timestamp' rawBody' : Units} :
    signWebhookPayload hmac secret timestamp rawBody = signWebhookPayload hmac secret timestamp' rawBody' ↔
      hmac (utf8 secret) (utf8 (signedText timestamp rawBody)) =
        hmac (utf8 secret) (utf8 (signedText timestamp' rawBody')) := by
  constructor
  · intro same
    have digits := ofText_inj (encode_ascii _) (encode_ascii _) (List.append_cancel_left same)
    have bytes := congrArg Hex.decode digits
    rw [Hex.decode_encode, Hex.decode_encode] at bytes
    exact Subtype.ext bytes
  · intro same
    rw [signWebhookPayload, signWebhookPayload, same]

end Format

section Verify
variable {hmac : Hmac} {secret timestamp rawBody signature : Units}

/-- The buffers differ in length exactly when a text of the right length leaves ASCII. -/
theorem verify_ok_iff {answer : Bool} :
    verifyWebhookSignature hmac secret timestamp rawBody signature = .ok answer ↔
      (signature.length = 71 → ∀ unit ∈ signature, unit.toNat < 128) ∧
        (answer = true ↔ signature = signWebhookPayload hmac secret timestamp rawBody) := by
  have length := @sign_length hmac secret timestamp rawBody
  have ascii := @sign_ascii hmac secret timestamp rawBody
  have expectedBytes := (utf8_length (signWebhookPayload hmac secret timestamp rawBody)).2.mpr ascii
  unfold verifyWebhookSignature
  dsimp only
  by_cases same : signature.length = 71
  · rw [length, if_neg (by omega)]
    unfold timingSafeEqual
    rw [expectedBytes, length]
    have bytes := (utf8_length signature).2
    rw [same] at bytes
    by_cases plain : ∀ unit ∈ signature, unit.toNat < 128
    · rw [if_neg (by rw [bytes.mpr plain]; simp)]
      have equal : utf8 (signWebhookPayload hmac secret timestamp rawBody) = utf8 signature ↔
          signature = signWebhookPayload hmac secret timestamp rawBody := by
        rw [utf8_eq_iff]
        constructor
        · intro scalars
          exact eq_of_scalars_ascii ascii scalars.symm
        · intro text
          rw [text]
      constructor
      · intro answered
        refine ⟨fun _ => plain, ?_⟩
        rw [← Except.ok.inj answered, decide_eq_true_eq]
        exact equal
      · rintro ⟨-, exact'⟩
        rw [Except.ok.injEq, Bool.eq_iff_iff, decide_eq_true_eq, equal, exact']
    · rw [if_pos (by intro lengths; exact plain (bytes.mp lengths.symm))]
      constructor
      · intro impossible
        cases impossible
      · rintro ⟨all, -⟩
        exact absurd (all same) plain
  · have other : signature ≠ signWebhookPayload hmac secret timestamp rawBody := by
      rintro rfl
      exact same length
    rw [length, if_pos (Ne.symm same)]
    constructor
    · intro answered
      rw [← Except.ok.inj answered]
      exact ⟨fun absurd' => absurd absurd' same, by simp [other]⟩
    · rintro ⟨-, exact'⟩
      rw [Except.ok.injEq, eq_comm, ← Bool.not_eq_true, exact']
      exact other

end Verify

section Binding

/-- A part of the signed text, from a separator in it on, has moved from the body to the
timestamp. -/
def Shifted (timestamp rawBody timestamp' rawBody' : Units) : Prop :=
  ∃ moved, scalars timestamp' = scalars timestamp ++ '.' :: moved ∧
    scalars rawBody = moved ++ '.' :: scalars rawBody'

theorem Shifted.ne {timestamp rawBody timestamp' rawBody' : Units}
    (shifted : Shifted timestamp rawBody timestamp' rawBody') : timestamp ≠ timestamp' := by
  obtain ⟨moved, text, -⟩ := shifted
  rintro rfl
  have length := congrArg List.length text
  rw [List.length_append, List.length_cons] at length
  omega

theorem append_dot_eq_iff {first second first' second' : List Char} :
    first ++ '.' :: second = first' ++ '.' :: second' ↔ first = first' ∧ second = second' ∨
      (∃ moved, first' = first ++ '.' :: moved ∧ second = moved ++ '.' :: second') ∨
      ∃ moved, first = first' ++ '.' :: moved ∧ second' = moved ++ '.' :: second := by
  rw [List.append_eq_append_iff]
  constructor
  · rintro (⟨between, text, rest⟩ | ⟨between, text, rest⟩)
    · cases between with
      | nil => exact .inl ⟨by simpa using text.symm, (List.cons.inj rest).2⟩
      | cons head moved =>
        obtain ⟨separator, tail⟩ := List.cons.inj rest
        subst separator
        exact .inr (.inl ⟨moved, text, tail⟩)
    · cases between with
      | nil => exact .inl ⟨by simpa using text, (List.cons.inj rest).2.symm⟩
      | cons head moved =>
        obtain ⟨separator, tail⟩ := List.cons.inj rest
        subst separator
        exact .inr (.inr ⟨moved, text, tail⟩)
  · rintro (⟨rfl, rfl⟩ | ⟨moved, text, rest⟩ | ⟨moved, text, rest⟩)
    · exact .inl ⟨[], by simp, rfl⟩
    · exact .inl ⟨'.' :: moved, text, by rw [rest]; rfl⟩
    · exact .inr ⟨'.' :: moved, text, by rw [rest]; rfl⟩

theorem scalars_signedText (timestamp rawBody : Units) :
    scalars (signedText timestamp rawBody) = scalars timestamp ++ '.' :: scalars rawBody :=
  scalars_append timestamp (by decide) rawBody

/-- Lone surrogates apart, the signed text keeps its timestamp and its body unless a part
between two separators can belong to either. -/
theorem utf8_signedText_iff {timestamp rawBody timestamp' rawBody' : Units} :
    utf8 (signedText timestamp rawBody) = utf8 (signedText timestamp' rawBody') ↔
      scalars timestamp = scalars timestamp' ∧ scalars rawBody = scalars rawBody' ∨
        Shifted timestamp rawBody timestamp' rawBody' ∨ Shifted timestamp' rawBody' timestamp rawBody := by
  rw [utf8_eq_iff, scalars_signedText, scalars_signedText]
  exact append_dot_eq_iff

/-- Verification answers, answers true for the signature alone and binds the timestamp and the
body exactly when the signature it is given stays in ASCII should it have the right length, no
part of the signed text can move across a separator, and the texts do not differ in lone
surrogates only. -/
theorem signature_binds_iff (hmac : Hmac) (secret timestamp rawBody timestamp' rawBody' signature : Units)
    (messages : Set (List UInt8)) (injective : Set.InjOn (hmac (utf8 secret)) messages)
    (member : utf8 (signedText timestamp rawBody) ∈ messages)
    (member' : utf8 (signedText timestamp' rawBody') ∈ messages) :
    (∃ answer, verifyWebhookSignature hmac secret timestamp rawBody signature = .ok answer ∧
        (answer = true ↔ signature = signWebhookPayload hmac secret timestamp rawBody)) ∧
      (verifyWebhookSignature hmac secret timestamp' rawBody' (signWebhookPayload hmac secret timestamp rawBody) =
        .ok true → timestamp = timestamp' ∧ rawBody = rawBody') ↔
    (signature.length = 71 → ∀ unit ∈ signature, unit.toNat < 128) ∧
      ¬Shifted timestamp rawBody timestamp' rawBody' ∧ ¬Shifted timestamp' rawBody' timestamp rawBody ∧
      (scalars timestamp = scalars timestamp' → scalars rawBody = scalars rawBody' →
        timestamp = timestamp' ∧ rawBody = rawBody') := by
  have total : (∃ answer, verifyWebhookSignature hmac secret timestamp rawBody signature = .ok answer ∧
      (answer = true ↔ signature = signWebhookPayload hmac secret timestamp rawBody)) ↔
      (signature.length = 71 → ∀ unit ∈ signature, unit.toNat < 128) := by
    constructor
    · rintro ⟨answer, answered, -⟩
      exact (verify_ok_iff.mp answered).1
    · intro ascii
      by_cases right : signature = signWebhookPayload hmac secret timestamp rawBody
      · have answers : true = true ↔ signature = signWebhookPayload hmac secret timestamp rawBody := iff_of_true rfl right
        exact ⟨true, verify_ok_iff.mpr ⟨ascii, answers⟩, answers⟩
      · have answers : false = true ↔ signature = signWebhookPayload hmac secret timestamp rawBody :=
          iff_of_false Bool.noConfusion right
        exact ⟨false, verify_ok_iff.mpr ⟨ascii, answers⟩, answers⟩
  have accepted : verifyWebhookSignature hmac secret timestamp' rawBody'
      (signWebhookPayload hmac secret timestamp rawBody) = .ok true ↔
      utf8 (signedText timestamp rawBody) = utf8 (signedText timestamp' rawBody') := by
    rw [verify_ok_iff, sign_eq_iff, injective.eq_iff member member']
    constructor
    · rintro ⟨-, same⟩
      exact same.mp rfl
    · intro same
      exact ⟨fun _ => sign_ascii, iff_of_true rfl same⟩
  rw [total, accepted, utf8_signedText_iff]
  apply and_congr Iff.rfl
  constructor
  · intro binds
    refine ⟨fun shifted => ?_, fun shifted => ?_, fun first second => binds (.inl ⟨first, second⟩)⟩
    · exact shifted.ne (binds (.inr (.inl shifted))).1
    · exact shifted.ne (binds (.inr (.inr shifted))).1.symm
  · rintro ⟨notShifted, notShifted', exact'⟩ (⟨first, second⟩ | shifted | shifted)
    · exact exact' first second
    · exact absurd shifted notShifted
    · exact absurd shifted notShifted'

def sampleSecret : Units := ofText "whsec_test_secret".toList

def sampleTimestamp : Units := ofText "1782518400".toList

/-- A body, and the same with a space behind it. -/
def sampleBody : Units := ofText "[]".toList

def changedBody : Units := ofText "[] ".toList

/-- The two digests of the bodies under the secret. -/
def sampleHmac : Hmac := fun _ message =>
  if message = utf8 (signedText sampleTimestamp sampleBody) then
    ⟨[46, 73, 178, 246, 148, 113, 1, 63, 60, 24, 184, 3, 163, 19, 61, 108,
      147, 239, 224, 86, 61, 83, 30, 160, 163, 119, 115, 30, 98, 201, 7, 126], rfl⟩
  else
    ⟨[21, 24, 255, 92, 253, 190, 179, 134, 132, 40, 4, 212, 177, 211, 11, 96,
      32, 124, 237, 218, 172, 11, 16, 141, 189, 243, 84, 151, 115, 15, 245, 128], rfl⟩

theorem sample_bound :
    (∃ answer, verifyWebhookSignature sampleHmac sampleSecret sampleTimestamp sampleBody changedBody = .ok answer ∧
      (answer = true ↔ changedBody = signWebhookPayload sampleHmac sampleSecret sampleTimestamp sampleBody)) ∧
    (verifyWebhookSignature sampleHmac sampleSecret sampleTimestamp changedBody
        (signWebhookPayload sampleHmac sampleSecret sampleTimestamp sampleBody) = .ok true →
      sampleTimestamp = sampleTimestamp ∧ sampleBody = changedBody) := by
  have different : sampleHmac (utf8 sampleSecret) (utf8 (signedText sampleTimestamp sampleBody)) ≠
      sampleHmac (utf8 sampleSecret) (utf8 (signedText sampleTimestamp changedBody)) := by decide +kernel
  have injective : Set.InjOn (sampleHmac (utf8 sampleSecret)) {utf8 (signedText sampleTimestamp sampleBody),
      utf8 (signedText sampleTimestamp changedBody)} := by
    rintro _ (rfl | rfl) _ (rfl | rfl) same
    · rfl
    · exact absurd same different
    · exact absurd same.symm different
    · rfl
  refine (signature_binds_iff sampleHmac sampleSecret sampleTimestamp sampleBody sampleTimestamp changedBody changedBody
    _ injective (.inl rfl) (.inr rfl)).mpr ⟨fun length => ?_, fun shifted => shifted.ne rfl, fun shifted => shifted.ne rfl,
      fun _ bodies => ?_⟩
  · exact absurd length (by decide)
  · exact absurd bodies (by decide +kernel)

/-- A signature of the right length in units, with one letter outside ASCII, has a byte too many. -/
theorem signature_unbound :
    ¬∀ (hmac : Hmac) (secret timestamp rawBody timestamp' rawBody' signature : Units) (messages : Set (List UInt8)),
      Set.InjOn (hmac (utf8 secret)) messages → utf8 (signedText timestamp rawBody) ∈ messages →
      utf8 (signedText timestamp' rawBody') ∈ messages →
      (∃ answer, verifyWebhookSignature hmac secret timestamp rawBody signature = .ok answer ∧
        (answer = true ↔ signature = signWebhookPayload hmac secret timestamp rawBody)) ∧
      (verifyWebhookSignature hmac secret timestamp' rawBody' (signWebhookPayload hmac secret timestamp rawBody) =
        .ok true → timestamp = timestamp' ∧ rawBody = rawBody') := by
  intro bound
  have holds := fun signature => bound sampleHmac sampleSecret [49] [50, dot, 51] [49, dot, 50] [51] signature
    {utf8 (signedText [49] [50, dot, 51])} (Set.injOn_singleton _ _) rfl rfl
  have throws : verifyWebhookSignature sampleHmac sampleSecret [49] [50, dot, 51] (0xe9 :: List.replicate 70 97) =
      .error (.other "Input buffers must have the same byte length") := by rfl
  obtain ⟨answer, answered, -⟩ := (holds (0xe9 :: List.replicate 70 97)).1
  rw [throws] at answered
  cases answered

end Binding

end PactAgent.Webhooks.Signing
