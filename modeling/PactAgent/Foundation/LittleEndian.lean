import Mathlib

/-! Little-endian byte strings of a fixed width, over natural numbers. -/

namespace PactAgent.Foundation.LittleEndian

/-- The value of a little-endian byte string. -/
def ofBytes : List UInt8 → Nat
  | [] => 0
  | byte :: rest => byte.toNat + 256 * ofBytes rest

/-- The low `width` bytes of a number, least significant first. -/
def toBytes : Nat → Nat → List UInt8
  | 0, _ => []
  | width + 1, value => UInt8.ofNat (value % 256) :: toBytes width (value / 256)

@[simp] theorem toBytes_length (width value : Nat) : (toBytes width value).length = width := by
  induction width generalizing value with
  | zero => rfl
  | succ width ih => simp [toBytes, ih]

theorem ofBytes_toBytes (width value : Nat) (bound : value < 256 ^ width) :
    ofBytes (toBytes width value) = value := by
  induction width generalizing value with
  | zero => simp only [pow_zero, Nat.lt_one_iff] at bound; simp [toBytes, ofBytes, bound]
  | succ width ih =>
    have tail : value / 256 < 256 ^ width := by
      rw [Nat.div_lt_iff_lt_mul (by decide)]
      simpa only [pow_succ] using bound
    have head : (UInt8.ofNat (value % 256)).toNat = value % 256 := by
      rw [UInt8.toNat_ofNat']
      exact Nat.mod_eq_of_lt (Nat.mod_lt _ (by decide))
    rw [toBytes, ofBytes, ih _ tail, head]
    omega

theorem ofBytes_lt (bytes : List UInt8) : ofBytes bytes < 256 ^ bytes.length := by
  induction bytes with
  | nil => exact Nat.one_pos
  | cons byte bytes ih =>
    have head := byte.toNat_lt
    rw [ofBytes, List.length_cons, pow_succ]
    omega

theorem toBytes_ofBytes (bytes : List UInt8) : toBytes bytes.length (ofBytes bytes) = bytes := by
  induction bytes with
  | nil => rfl
  | cons byte bytes ih =>
    have head := byte.toNat_lt
    have low : (byte.toNat + 256 * ofBytes bytes) % 256 = byte.toNat := by omega
    have rest : (byte.toNat + 256 * ofBytes bytes) / 256 = ofBytes bytes := by omega
    rw [ofBytes, List.length_cons, toBytes, low, rest, ih, UInt8.ofNat_toNat]

/-- The last byte of a number of a known width is zero exactly when the number
fits into one byte less. -/
theorem ofBytes_last (bytes : List UInt8) (last : UInt8) :
    ofBytes (bytes ++ [last]) < 256 ^ bytes.length ↔ last = 0 := by
  have split : ofBytes (bytes ++ [last]) = ofBytes bytes + 256 ^ bytes.length * last.toNat := by
    induction bytes with
    | nil => simp [ofBytes]
    | cons byte bytes ih =>
      rw [List.cons_append, ofBytes, ofBytes, ih, List.length_cons, pow_succ]
      ring
  have bound := ofBytes_lt bytes
  rw [split]
  refine ⟨?_, ?_⟩
  · intro small
    have none : last.toNat = 0 := by
      by_contra some
      have large : 256 ^ bytes.length ≤ 256 ^ bytes.length * last.toNat :=
        Nat.le_mul_of_pos_right _ (by omega)
      omega
    exact UInt8.toNat_inj.mp none
  · rintro rfl
    simpa using bound

end PactAgent.Foundation.LittleEndian
