import Mathlib

/-! The base64url alphabet, without padding, as a runtime's buffers write and read it. -/

namespace PactAgent.Foundation.Base64Url

def digit (value : Nat) : Char :=
  if value < 26 then Char.ofNat (65 + value)
  else if value < 52 then Char.ofNat (71 + value)
  else if value < 62 then Char.ofNat (value - 4)
  else if value = 62 then '-'
  else '_'

/-- The value of a digit, in this alphabet or in the one of plain base64. -/
def value (character : Char) : Option Nat :=
  if 'A' ≤ character ∧ character ≤ 'Z' then some (character.toNat - 65)
  else if 'a' ≤ character ∧ character ≤ 'z' then some (character.toNat - 71)
  else if '0' ≤ character ∧ character ≤ '9' then some (character.toNat + 4)
  else if character = '-' ∨ character = '+' then some 62
  else if character = '_' ∨ character = '/' then some 63
  else none

/-- The values of the digits, six bits each. -/
def sextets : List UInt8 → List Nat
  | [] => []
  | [first] => [first.toNat / 4, first.toNat % 4 * 16]
  | [first, second] => [first.toNat / 4, first.toNat % 4 * 16 + second.toNat / 16, second.toNat % 16 * 4]
  | first :: second :: third :: rest =>
      first.toNat / 4 :: (first.toNat % 4 * 16 + second.toNat / 16) :: (second.toNat % 16 * 4 + third.toNat / 64) ::
        third.toNat % 64 :: sextets rest

/-- The bytes of some digits; a digit alone at the end is dropped. -/
def octets : List Nat → List UInt8
  | [] => []
  | [_] => []
  | [first, second] => [UInt8.ofNat (first * 4 + second / 16)]
  | [first, second, third] =>
      [UInt8.ofNat (first * 4 + second / 16), UInt8.ofNat (second % 16 * 16 + third / 4)]
  | first :: second :: third :: fourth :: rest =>
      UInt8.ofNat (first * 4 + second / 16) :: UInt8.ofNat (second % 16 * 16 + third / 4) ::
        UInt8.ofNat (third % 4 * 64 + fourth) :: octets rest

def encode (bytes : List UInt8) : List Char := (sextets bytes).map digit

/-- Characters outside of the alphabets are left out. -/
def decode (text : List Char) : List UInt8 := octets (text.filterMap value)

section RoundTrip
variable {bytes : List UInt8}

theorem value_digit {sextet : Nat} (bound : sextet < 64) : value (digit sextet) = some sextet := by
  have all : ∀ sextet < 64, value (digit sextet) = some sextet := by decide +kernel
  exact all sextet bound

theorem sextets_bound : ∀ sextet ∈ sextets bytes, sextet < 64 := by
  induction bytes using sextets.induct with
  | case1 => exact fun sextet member => by cases member
  | case2 first =>
    have one := first.toNat_lt
    simp only [sextets, List.mem_cons, List.not_mem_nil, or_false, forall_eq_or_imp, forall_eq]
    omega
  | case3 first second =>
    have one := first.toNat_lt
    have two := second.toNat_lt
    simp only [sextets, List.mem_cons, List.not_mem_nil, or_false, forall_eq_or_imp, forall_eq]
    omega
  | case4 first second third rest ih =>
    have one := first.toNat_lt
    have two := second.toNat_lt
    have three := third.toNat_lt
    simp only [sextets, List.mem_cons, forall_eq_or_imp]
    exact ⟨by omega, by omega, by omega, by omega, ih⟩

theorem ofNat_eq {byte : UInt8} {number : Nat} (same : number = byte.toNat) : UInt8.ofNat number = byte := by
  rw [same]
  exact UInt8.ofNat_toNat

theorem octets_sextets : octets (sextets bytes) = bytes := by
  induction bytes using sextets.induct with
  | case1 => rfl
  | case2 first =>
    have one := first.toNat_lt
    simp only [sextets, octets]
    rw [@ofNat_eq first _ (by omega)]
  | case3 first second =>
    have one := first.toNat_lt
    have two := second.toNat_lt
    simp only [sextets, octets]
    rw [@ofNat_eq first _ (by omega), @ofNat_eq second _ (by omega)]
  | case4 first second third rest ih =>
    have one := first.toNat_lt
    have two := second.toNat_lt
    have three := third.toNat_lt
    simp only [sextets, octets]
    rw [@ofNat_eq first _ (by omega), @ofNat_eq second _ (by omega),
      @ofNat_eq third _ (by omega), ih]

theorem decode_encode (bytes : List UInt8) : decode (encode bytes) = bytes := by
  have read : (encode bytes).filterMap value = sextets bytes := by
    rw [encode, List.filterMap_map]
    have all : ∀ values : List Nat, (∀ sextet ∈ values, sextet < 64) → values.filterMap (value ∘ digit) = values := by
      intro values bounds
      induction values with
      | nil => rfl
      | cons sextet rest ih =>
        have first : (value ∘ digit) sextet = some sextet := value_digit (bounds sextet List.mem_cons_self)
        rw [List.filterMap_cons_some first, ih fun other member => bounds other (List.mem_cons_of_mem _ member)]
    exact all _ sextets_bound
  rw [decode, read, octets_sextets]

theorem mem_encode {character : Char} (member : character ∈ encode bytes) : (value character).isSome = true := by
  obtain ⟨sextet, inside, rfl⟩ := List.mem_map.mp member
  rw [value_digit (sextets_bound sextet inside)]
  rfl

theorem encode_eq_nil : encode bytes = [] ↔ bytes = [] := by
  constructor
  · intro none
    rw [← decode_encode bytes, none]
    rfl
  · rintro rfl
    rfl

end RoundTrip

end PactAgent.Foundation.Base64Url
