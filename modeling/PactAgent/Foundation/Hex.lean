import Mathlib

/-! Lower-case hexadecimal text, two digits a byte. -/

namespace PactAgent.Foundation.Hex

/-- The value of a hexadecimal digit in either case. -/
def value (digit : Char) : Option Nat :=
  if '0' ≤ digit ∧ digit ≤ '9' then some (digit.toNat - '0'.toNat)
  else if 'a' ≤ digit ∧ digit ≤ 'f' then some (digit.toNat - 'a'.toNat + 10)
  else if 'A' ≤ digit ∧ digit ≤ 'F' then some (digit.toNat - 'A'.toNat + 10)
  else none

def isLowerDigit (digit : Char) : Bool :=
  ('0' ≤ digit && digit ≤ '9') || ('a' ≤ digit && digit ≤ 'f')

/-- The two digits of each byte, high half first. -/
def encode (bytes : List UInt8) : List Char :=
  bytes.flatMap fun byte => [Nat.digitChar (byte.toNat / 16), Nat.digitChar (byte.toNat % 16)]

/-- Read pairs of digits up to the first character that is none; a single last
digit is dropped. -/
def decode : List Char → List UInt8
  | high :: low :: rest =>
      match value high, value low with
      | some first, some second => UInt8.ofNat (16 * first + second) :: decode rest
      | _, _ => []
  | _ => []

private theorem value_digitChar (digit : Fin 16) : value (Nat.digitChar digit) = some digit.val := by
  revert digit
  decide

private theorem isLowerDigit_digitChar (digit : Fin 16) :
    isLowerDigit (Nat.digitChar digit) = true ∧
      (Nat.digitChar digit).toLower = Nat.digitChar digit := by
  revert digit
  decide

private theorem digits_of_byte (byte : UInt8) : byte.toNat / 16 < 16 ∧ byte.toNat % 16 < 16 := by
  have bound := byte.toNat_lt
  omega

theorem decode_encode_append (bytes : List UInt8) (rest : List Char) :
    decode (encode bytes ++ rest) = bytes ++ decode rest := by
  induction bytes with
  | nil => rfl
  | cons byte bytes ih =>
    obtain ⟨high, low⟩ := digits_of_byte byte
    have first := value_digitChar ⟨byte.toNat / 16, high⟩
    have second := value_digitChar ⟨byte.toNat % 16, low⟩
    have joined : UInt8.ofNat (16 * (byte.toNat / 16) + byte.toNat % 16) = byte := by
      rw [Nat.div_add_mod]
      exact UInt8.ofNat_toNat
    change (match value (Nat.digitChar (byte.toNat / 16)), value (Nat.digitChar (byte.toNat % 16)) with
      | some first, some second => UInt8.ofNat (16 * first + second) :: decode (encode bytes ++ rest)
      | _, _ => []) = _
    rw [first, second]
    simp only [joined, ih, List.cons_append]

theorem decode_encode (bytes : List UInt8) : decode (encode bytes) = bytes := by
  simpa [decode] using decode_encode_append bytes []

@[simp] theorem encode_length (bytes : List UInt8) : (encode bytes).length = bytes.length * 2 := by
  simp [encode]

theorem encode_append (first second : List UInt8) :
    encode (first ++ second) = encode first ++ encode second :=
  List.flatMap_append

theorem mem_encode {bytes : List UInt8} {digit : Char} (member : digit ∈ encode bytes) :
    isLowerDigit digit = true ∧ digit.toLower = digit := by
  obtain ⟨byte, -, digits⟩ := List.mem_flatMap.mp member
  obtain ⟨high, low⟩ := digits_of_byte byte
  rcases List.mem_pair.mp digits with rfl | rfl
  · exact isLowerDigit_digitChar ⟨_, high⟩
  · exact isLowerDigit_digitChar ⟨_, low⟩

theorem encode_toLower (bytes : List UInt8) : (encode bytes).map Char.toLower = encode bytes := by
  conv_rhs => rw [← List.map_id (encode bytes)]
  exact List.map_congr_left fun digit member => (mem_encode member).2

theorem encode_all_lower (bytes : List UInt8) : (encode bytes).all isLowerDigit = true := by
  rw [List.all_eq_true]
  exact fun digit member => (mem_encode member).1

end PactAgent.Foundation.Hex
