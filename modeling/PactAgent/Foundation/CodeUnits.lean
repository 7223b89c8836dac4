import Mathlib

/-! Strings as a JavaScript program stores them, in UTF-16 code units, and the bytes of their
UTF-8 form, where a surrogate without its other half becomes the replacement character. -/

namespace PactAgent.Foundation.CodeUnits

abbrev Units := List UInt16

def isLead (unit : UInt16) : Bool := 0xd800 ≤ unit.toNat && unit.toNat ≤ 0xdbff

def isTrail (unit : UInt16) : Bool := 0xdc00 ≤ unit.toNat && unit.toNat ≤ 0xdfff

/-- The scalar value of a unit that stands alone. -/
def single (unit : UInt16) : Char :=
  if isLead unit || isTrail unit then Char.ofNat 0xfffd else Char.ofNat unit.toNat

def pair (lead trail : UInt16) : Char :=
  Char.ofNat (0x10000 + (lead.toNat - 0xd800) * 0x400 + (trail.toNat - 0xdc00))

/-- The scalar values of a string. -/
def scalars : Units → List Char
  | [] => []
  | [unit] => [single unit]
  | unit :: next :: rest =>
      if isLead unit && isTrail next then pair unit next :: scalars rest else single unit :: scalars (next :: rest)

/-- `Buffer.from(text)`. -/
def utf8 (text : Units) : List UInt8 := (scalars text).flatMap String.utf8EncodeChar

/-- A text of characters of the basic plane, such as the literals of a program. -/
def ofText (text : List Char) : Units := text.map fun character => UInt16.ofNat character.toNat

section Scalars

/-- Neither half of a pair. -/
def isPlain (unit : UInt16) : Bool := !isLead unit && !isTrail unit

theorem single_plain {unit : UInt16} (plain : isPlain unit = true) : (single unit).toNat = unit.toNat := by
  simp only [isPlain, isLead, isTrail, Bool.and_eq_true, Bool.not_eq_true', Bool.and_eq_false_iff,
    decide_eq_false_iff_not] at plain
  have valid : unit.toNat.isValidChar := by
    have bound := unit.toNat_lt
    unfold Nat.isValidChar
    omega
  have other : (isLead unit || isTrail unit) = false := by
    simp only [isLead, isTrail, Bool.or_eq_false_iff, Bool.and_eq_false_iff, decide_eq_false_iff_not]
    exact plain
  rw [single, if_neg (by simp [other])]
  rw [Char.ofNat, dif_pos valid]
  rfl

theorem single_half {unit : UInt16} (half : isPlain unit = false) : (single unit).toNat = 0xfffd ∧ 128 ≤ unit.toNat := by
  have either : (isLead unit || isTrail unit) = true := by
    rw [isPlain, ← Bool.not_or, Bool.not_eq_false'] at half
    exact half
  refine ⟨by rw [single, if_pos either]; rfl, ?_⟩
  simp only [isLead, isTrail, Bool.or_eq_true, Bool.and_eq_true, decide_eq_true_eq] at either
  omega

theorem pair_toNat {lead trail : UInt16} (paired : (isLead lead && isTrail trail) = true) :
    0x10000 ≤ (pair lead trail).toNat := by
  simp only [isLead, isTrail, Bool.and_eq_true, decide_eq_true_eq] at paired
  have valid : (0x10000 + (lead.toNat - 0xd800) * 0x400 + (trail.toNat - 0xdc00)).isValidChar := by
    unfold Nat.isValidChar
    omega
  have code : (pair lead trail).toNat = 0x10000 + (lead.toNat - 0xd800) * 0x400 + (trail.toNat - 0xdc00) := by
    rw [pair, Char.ofNat, dif_pos valid]
    rfl
  omega

theorem single_lt_iff {unit : UInt16} : (single unit).toNat < 128 ↔ unit.toNat < 128 := by
  cases plain : isPlain unit with
  | true => rw [single_plain plain]
  | false =>
    obtain ⟨code, large⟩ := single_half plain
    omega

theorem isPlain_of_lt {unit : UInt16} (ascii : unit.toNat < 128) : isPlain unit = true := by
  simp only [isPlain, isLead, isTrail, Bool.and_eq_true, Bool.not_eq_true', Bool.and_eq_false_iff,
    decide_eq_false_iff_not]
  omega

theorem scalars_cons_plain {unit : UInt16} (plain : isPlain unit = true) (rest : Units) :
    scalars (unit :: rest) = single unit :: scalars rest := by
  cases rest with
  | nil => rfl
  | cons next rest =>
    have lead : isLead unit = false := by
      rw [isPlain, Bool.and_eq_true, Bool.not_eq_true', Bool.not_eq_true'] at plain
      exact plain.1
    rw [scalars, lead]
    rfl

/-- A unit that is no half of a pair separates the scalar values on both sides. -/
theorem scalars_append (left : Units) {unit : UInt16} (plain : isPlain unit = true) (right : Units) :
    scalars (left ++ unit :: right) = scalars left ++ single unit :: scalars right := by
  have trail : isTrail unit = false := by
    rw [isPlain, Bool.and_eq_true, Bool.not_eq_true', Bool.not_eq_true'] at plain
    exact plain.2
  induction left using scalars.induct with
  | case1 => exact scalars_cons_plain plain right
  | case2 last =>
    change scalars (last :: unit :: right) = [single last] ++ single unit :: scalars right
    rw [← scalars_cons_plain plain right]
    cases right with
    | nil => simp [scalars, trail]
    | cons next right => simp [scalars, trail]
  | case3 first next rest paired ih =>
    rw [List.cons_append, List.cons_append, scalars, if_pos paired, ih, scalars, if_pos paired]
    rfl
  | case4 first next rest apart ih =>
    rw [List.cons_append] at ih
    rw [List.cons_append, List.cons_append, scalars, if_neg apart, ih, scalars, if_neg apart]
    rfl

theorem scalars_ascii {text : Units} (ascii : ∀ unit ∈ text, unit.toNat < 128) : scalars text = text.map single := by
  induction text with
  | nil => rfl
  | cons unit rest ih =>
    rw [scalars_cons_plain (isPlain_of_lt (ascii unit List.mem_cons_self)), List.map_cons,
      ih fun other member => ascii other (List.mem_cons_of_mem _ member)]

theorem single_inj_ascii {unit other : UInt16} (ascii : other.toNat < 128) (same : single unit = single other) :
    unit = other := by
  have small : (single unit).toNat < 128 := by
    rw [same]
    exact single_lt_iff.mpr ascii
  have code := single_plain (isPlain_of_lt (single_lt_iff.mp small))
  have code' := single_plain (isPlain_of_lt ascii)
  rw [same] at code
  exact UInt16.toNat_inj.mp (code.symm.trans code')

/-- A text of ASCII characters is the only one with its scalar values. -/
theorem eq_of_scalars_ascii {text other : Units} (ascii : ∀ unit ∈ other, unit.toNat < 128)
    (same : scalars text = scalars other) : text = other := by
  rw [scalars_ascii ascii] at same
  induction text using scalars.induct generalizing other with
  | case1 =>
    cases other with
    | nil => rfl
    | cons _ _ => cases same
  | case2 last =>
    cases other with
    | nil => cases same
    | cons unit rest =>
      obtain ⟨head, tail⟩ := List.cons.inj same
      rw [List.map_eq_nil_iff.mp tail.symm, single_inj_ascii (ascii unit List.mem_cons_self) head]
  | case3 first next rest paired ih =>
    rw [scalars, if_pos paired] at same
    cases other with
    | nil => cases same
    | cons unit others =>
      have head := (List.cons.inj same).1
      have large := pair_toNat paired
      have small := single_lt_iff.mpr (ascii unit List.mem_cons_self)
      rw [head] at large
      omega
  | case4 first next rest apart ih =>
    rw [scalars, if_neg apart] at same
    cases other with
    | nil => cases same
    | cons unit others =>
      obtain ⟨head, tail⟩ := List.cons.inj same
      rw [single_inj_ascii (ascii unit List.mem_cons_self) head,
        ih (fun other member => ascii other (List.mem_cons_of_mem _ member)) tail]

end Scalars

section Bytes

theorem flatMap_utf8_injective : Function.Injective fun text : List Char => text.flatMap String.utf8EncodeChar := by
  intro first second same
  have encoded : first.utf8Encode = second.utf8Encode := by
    unfold List.utf8Encode
    dsimp only at same
    rw [same]
  have decoded := congrArg ByteArray.utf8Decode? encoded
  rw [List.utf8Decode?_utf8Encode, List.utf8Decode?_utf8Encode] at decoded
  simpa using decoded

/-- The bytes of a string determine its scalar values. -/
theorem utf8_eq_iff {first second : Units} : utf8 first = utf8 second ↔ scalars first = scalars second :=
  flatMap_utf8_injective.eq_iff

theorem utf8Size_single (unit : UInt16) :
    1 ≤ (single unit).utf8Size ∧ ((single unit).utf8Size = 1 ↔ unit.toNat < 128) := by
  rw [← single_lt_iff]
  have value : (single unit).val.toNat = (single unit).toNat := rfl
  unfold Char.utf8Size
  simp only [UInt32.le_iff_toNat_le, value]
  split
  · refine ⟨Nat.le_refl 1, fun _ => ?_, fun _ => rfl⟩
    have small : (single unit).toNat ≤ 127 := by assumption
    omega
  · have large : ¬(single unit).toNat ≤ 127 := by assumption
    refine ⟨by split <;> (try split) <;> omega, fun one => ?_, fun small => by omega⟩
    split at one
    · omega
    · split at one <;> omega

theorem utf8Size_pair {lead trail : UInt16} (paired : (isLead lead && isTrail trail) = true) :
    (pair lead trail).utf8Size = 4 := by
  have large := pair_toNat paired
  have value : (pair lead trail).val.toNat = (pair lead trail).toNat := rfl
  have one : ¬(pair lead trail).toNat ≤ 127 := by omega
  have two : ¬(pair lead trail).toNat ≤ 2047 := by omega
  have three : ¬(pair lead trail).toNat ≤ 65535 := by omega
  unfold Char.utf8Size
  simp only [UInt32.le_iff_toNat_le, value]
  exact (if_neg one).trans ((if_neg two).trans (if_neg three))

/-- A string has no more units than bytes, and as many exactly when it is in ASCII. -/
theorem utf8_length (text : Units) :
    text.length ≤ (utf8 text).length ∧ ((utf8 text).length = text.length ↔ ∀ unit ∈ text, unit.toNat < 128) := by
  unfold utf8
  induction text using scalars.induct with
  | case1 => simp [scalars]
  | case2 last =>
    have size := utf8Size_single last
    simpa [scalars] using size
  | case3 first next rest paired ih =>
    rw [scalars, if_pos paired]
    have size := utf8Size_pair paired
    simp only [List.flatMap_cons, List.length_append, String.length_utf8EncodeChar, List.length_cons, size]
    refine ⟨by omega, fun same => by omega, fun ascii => ?_⟩
    have lead := isPlain_of_lt (ascii first List.mem_cons_self)
    rw [isPlain, Bool.and_eq_true, Bool.not_eq_true'] at lead
    rw [lead.1] at paired
    cases paired
  | case4 first next rest apart ih =>
    rw [scalars, if_neg apart]
    have size := utf8Size_single first
    simp only [List.flatMap_cons, List.length_append, String.length_utf8EncodeChar, List.length_cons] at ih ⊢
    refine ⟨by omega, fun same => ?_, fun ascii => ?_⟩
    · intro unit member
      rcases List.mem_cons.mp member with rfl | later
      · exact size.2.mp (by omega)
      · exact ih.2.mp (by omega) unit later
    · have head := size.2.mpr (ascii first List.mem_cons_self)
      have tail := ih.2.mpr fun unit member => ascii unit (List.mem_cons_of_mem _ member)
      omega

end Bytes

section Utf16

/-- The units of a scalar value. -/
def units (character : Char) : Units :=
  if character.toNat < 0x10000 then [UInt16.ofNat character.toNat]
  else
    [UInt16.ofNat (0xd800 + (character.toNat - 0x10000) / 0x400),
      UInt16.ofNat (0xdc00 + (character.toNat - 0x10000) % 0x400)]

/-- A string of some scalar values. -/
def ofScalars (text : List Char) : Units := text.flatMap units

/-- Every surrogate has its other half. -/
def isWellFormed : Units → Bool
  | [] => true
  | [unit] => isPlain unit
  | unit :: next :: rest =>
      if isLead unit && isTrail next then isWellFormed rest else isPlain unit && isWellFormed (next :: rest)

theorem units_pair {lead trail : UInt16} (paired : (isLead lead && isTrail trail) = true) :
    units (pair lead trail) = [lead, trail] := by
  have large := pair_toNat paired
  simp only [isLead, isTrail, Bool.and_eq_true, decide_eq_true_eq] at paired
  have valid : (0x10000 + (lead.toNat - 0xd800) * 0x400 + (trail.toNat - 0xdc00)).isValidChar := by
    unfold Nat.isValidChar
    omega
  have code : (pair lead trail).toNat = 0x10000 + (lead.toNat - 0xd800) * 0x400 + (trail.toNat - 0xdc00) := by
    rw [pair, Char.ofNat, dif_pos valid]
    rfl
  have high : 0xd800 + ((pair lead trail).toNat - 0x10000) / 0x400 = lead.toNat := by omega
  have low : 0xdc00 + ((pair lead trail).toNat - 0x10000) % 0x400 = trail.toNat := by omega
  rw [units, if_neg (by omega), high, low, UInt16.ofNat_toNat, UInt16.ofNat_toNat]

/-- A unit that stands alone comes back exactly when it is no half of a pair. -/
theorem units_single (unit : UInt16) : ∃ back, units (single unit) = [back] ∧ (back = unit ↔ isPlain unit = true) := by
  cases plain : isPlain unit with
  | true =>
    have small := unit.toNat_lt
    have code := single_plain plain
    refine ⟨unit, ?_, by simp⟩
    rw [units, if_pos (by omega), code, UInt16.ofNat_toNat]
  | false =>
    obtain ⟨code, -⟩ := single_half plain
    refine ⟨0xfffd, ?_, ?_⟩
    · rw [units, code]
      rfl
    · simp only [Bool.false_eq_true, iff_false]
      rintro rfl
      cases plain

/-- The scalar values of a string give it back exactly when no surrogate is alone. -/
theorem ofScalars_scalars_iff (text : Units) : ofScalars (scalars text) = text ↔ isWellFormed text = true := by
  unfold ofScalars
  induction text using scalars.induct with
  | case1 => simp [scalars, isWellFormed]
  | case2 last =>
    obtain ⟨back, same, whole⟩ := units_single last
    simp [scalars, isWellFormed, same, whole]
  | case3 first next rest paired ih =>
    rw [scalars, if_pos paired, isWellFormed, if_pos paired, List.flatMap_cons, units_pair paired, ← ih]
    simp
  | case4 first next rest apart ih =>
    obtain ⟨back, same, whole⟩ := units_single first
    rw [scalars, if_neg apart, isWellFormed, if_neg apart, List.flatMap_cons, same, Bool.and_eq_true, ← whole, ← ih]
    simp

theorem scalars_eq_nil {text : Units} : scalars text = [] ↔ text = [] := by
  constructor
  · intro none
    unfold scalars at none
    split at none
    · rfl
    · cases none
    · split at none <;> cases none
  · rintro rfl
    rfl

end Utf16

end PactAgent.Foundation.CodeUnits
