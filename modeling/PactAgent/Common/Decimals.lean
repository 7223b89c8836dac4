import PactAgent.Common.Amounts

/-! Decimal numerals as texts: their order as texts of one length is the order of the
numbers, and their length bounds the number. -/

namespace PactAgent.Common.Amounts

/-- `<=` on texts. -/
def textLe : List Char → List Char → Bool
  | [], _ => true
  | _ :: _, [] => false
  | first :: rest, other :: others => first < other || first = other && textLe rest others

def digitValue (digit : Char) : Nat := digit.toNat - '0'.toNat

theorem digitValue_le {digit : Char} (isDigit : digit.isDigit = true) : digitValue digit ≤ 9 := by
  simp only [Char.isDigit, Bool.and_eq_true, decide_eq_true_eq] at isDigit
  have bound : digit.toNat ≤ 57 := isDigit.2
  have zero : '0'.toNat = 48 := rfl
  unfold digitValue
  omega

theorem digit_toNat {digit : Char} (isDigit : digit.isDigit = true) : digit.toNat = digitValue digit + 48 := by
  simp only [Char.isDigit, Bool.and_eq_true, decide_eq_true_eq] at isDigit
  have bound : 48 ≤ digit.toNat := isDigit.1
  have zero : '0'.toNat = 48 := rfl
  unfold digitValue
  omega

theorem foldl_decimal (digits : List Char) (start : Nat) :
    digits.foldl (fun value digit => 10 * value + (digit.toNat - '0'.toNat)) start =
      start * 10 ^ digits.length + decimalValue digits := by
  induction digits generalizing start with
  | nil => simp [decimalValue]
  | cons digit digits ih =>
    have tail := ih (10 * start + (digit.toNat - '0'.toNat))
    have own := ih (10 * 0 + (digit.toNat - '0'.toNat))
    rw [decimalValue, List.foldl_cons, List.foldl_cons, tail, own, List.length_cons, pow_succ]
    ring

theorem decimalValue_cons (digit : Char) (digits : List Char) :
    decimalValue (digit :: digits) = digitValue digit * 10 ^ digits.length + decimalValue digits := by
  have folded := foldl_decimal digits (10 * 0 + (digit.toNat - '0'.toNat))
  simpa [decimalValue, digitValue] using folded

theorem decimalValue_lt {digits : List Char} (all : ∀ digit ∈ digits, digit.isDigit = true) :
    decimalValue digits < 10 ^ digits.length := by
  induction digits with
  | nil => decide
  | cons digit digits ih =>
    have first := digitValue_le (all digit List.mem_cons_self)
    have rest := ih fun other member => all other (List.mem_cons_of_mem _ member)
    rw [decimalValue_cons, List.length_cons, pow_succ]
    have scaled := Nat.mul_le_mul_right (10 ^ digits.length) first
    omega

/-- Texts of digits of one length are ordered as the numbers. -/
theorem textLe_iff {first second : List Char} (all : ∀ digit ∈ first, digit.isDigit = true)
    (all' : ∀ digit ∈ second, digit.isDigit = true) (same : first.length = second.length) :
    textLe first second = true ↔ decimalValue first ≤ decimalValue second := by
  induction first generalizing second with
  | nil =>
    cases second with
    | nil => simp [textLe]
    | cons _ _ => cases same
  | cons digit digits ih =>
    cases second with
    | nil => cases same
    | cons digit' digits' =>
      have length : digits.length = digits'.length := Nat.succ.inj same
      have rest : ∀ other ∈ digits, other.isDigit = true := fun other member => all other (List.mem_cons_of_mem _ member)
      have rest' : ∀ other ∈ digits', other.isDigit = true :=
        fun other member => all' other (List.mem_cons_of_mem _ member)
      have tail := ih rest rest' length
      have low := decimalValue_lt rest
      have low' := decimalValue_lt rest'
      have code := digit_toNat (all digit List.mem_cons_self)
      have code' := digit_toNat (all' digit' List.mem_cons_self)
      rw [decimalValue_cons, decimalValue_cons, length]
      rw [length] at low
      have before : digit < digit' ↔ digitValue digit < digitValue digit' := by
        rw [Char.lt_def, UInt32.lt_iff_toNat_lt]
        change digit.toNat < digit'.toNat ↔ _
        omega
      have equal : digit = digit' ↔ digitValue digit = digitValue digit' := by
        constructor
        · rintro rfl
          rfl
        · intro value
          apply Char.ext
          apply UInt32.toNat_inj.mp
          change digit.toNat = digit'.toNat
          omega
      simp only [textLe, Bool.or_eq_true, Bool.and_eq_true, decide_eq_true_eq, before, equal, tail]
      rcases Nat.lt_trichotomy (digitValue digit) (digitValue digit') with less | same | more
      · have scaled := Nat.mul_le_mul_right (10 ^ digits'.length) (Nat.succ_le_of_lt less)
        rw [Nat.succ_mul] at scaled
        constructor
        · intro _
          omega
        · intro _
          exact .inl less
      · rw [same]
        omega
      · have scaled := Nat.mul_le_mul_right (10 ^ digits'.length) (Nat.succ_le_of_lt more)
        rw [Nat.succ_mul] at scaled
        constructor
        · rintro (less | ⟨same, -⟩) <;> omega
        · intro _
          omega

theorem isPositiveIntegerAmount_digits {amount : String} (positive : isPositiveIntegerAmount amount = true) :
    ∃ first rest, amount.toList = first :: rest ∧ 1 ≤ digitValue first ∧
      ∀ digit ∈ amount.toList, digit.isDigit = true := by
  unfold isPositiveIntegerAmount at positive
  split at positive
  · next first rest letters =>
    simp only [Bool.and_eq_true, decide_eq_true_eq, List.all_eq_true] at positive
    obtain ⟨⟨one, nine⟩, digits⟩ := positive
    have low : 49 ≤ first.toNat := one
    have high : first.toNat ≤ 57 := nine
    have zero : '0'.toNat = 48 := rfl
    refine ⟨first, rest, letters, by unfold digitValue; omega, ?_⟩
    intro digit member
    rw [letters] at member
    rcases List.mem_cons.mp member with rfl | member
    · simp only [Char.isDigit, Bool.and_eq_true, decide_eq_true_eq]
      exact ⟨show 48 ≤ digit.toNat by omega, high⟩
    · exact digits digit member
  · cases positive

theorem toString_digits (value : Nat) : ∀ digit ∈ (toString value).toList, digit.isDigit = true := by
  intro digit member
  rw [Nat.toString_eq_ofList_toDigits, String.toList_ofList] at member
  exact Nat.isDigit_of_mem_toDigits (by decide) (by decide) member

/-- A number is read back from its text. -/
theorem amountValue_toString (value : Nat) : amountValue (toString value) = value := by
  unfold amountValue
  rw [Nat.toString_eq_ofList_toDigits, String.toList_ofList]
  exact Nat.ofDigitChars_ten_toDigits

end PactAgent.Common.Amounts
