import PactAgent.Webhooks.Security

/-! Which addresses the checks of a webhook's host read alike in all their spellings. A
spelling of an IPv6 address starts with the digits of its first group, or with the elision. -/

namespace PactAgent.Webhooks.Security
open PactAgent.Common PactAgent.Foundation PactAgent.Foundation.Address

section Digits

/-- The number of some hexadecimal digits. -/
def hexValue (digits : List Nat) : Nat := digits.foldl (fun value digit => 16 * value + digit) 0

/-- One to four hexadecimal digits. -/
structure IsGroup (digits : List Nat) : Prop where
  nonempty : 1 ≤ digits.length
  length : digits.length ≤ 4
  digits : ∀ digit ∈ digits, digit < 16

theorem hexDigit_lower {character : Char} {digit : Nat} (read : hexDigit character = some digit) :
    digit < 16 ∧ character.toLower = Nat.digitChar digit := by
  have table : ∀ code < 128, ∀ digit, hexDigit (Char.ofNat code) = some digit →
      digit < 16 ∧ (Char.ofNat code).toLower = Nat.digitChar digit := by
    intro code bound digit read
    have all : ∀ code < 128, (hexDigit (Char.ofNat code)).all
        (fun digit => digit < 16 ∧ (Char.ofNat code).toLower = Nat.digitChar digit) = true := by decide +kernel
    have here := all code bound
    rw [read] at here
    exact of_decide_eq_true here
  have bound : character.toNat < 128 := by
    unfold hexDigit at read
    split at read
    · next shape =>
      simp only [isDigit, Bool.and_eq_true, decide_eq_true_eq] at shape
      have high : character.toNat ≤ 57 := shape.2
      omega
    · split at read
      · next shape =>
        have high : character.toNat ≤ 102 := shape.2
        omega
      · split at read
        · next shape =>
          have high : character.toNat ≤ 70 := shape.2
          omega
        · cases read
  have same : Char.ofNat character.toNat = character := Char.ofNat_toNat character
  rw [← same] at read ⊢
  exact table _ bound digit read

theorem mapM_hexDigit {text : Text} {digits : List Nat} (read : text.mapM hexDigit = some digits) :
    toLowerCase text = digits.map Nat.digitChar ∧ ∀ digit ∈ digits, digit < 16 := by
  induction text generalizing digits with
  | nil =>
    cases read
    exact ⟨rfl, fun digit member => by cases member⟩
  | cons character rest ih =>
    rw [List.mapM_cons] at read
    simp only [Option.bind_eq_bind, Option.bind_eq_some_iff, Option.pure_def, Option.some.injEq] at read
    obtain ⟨digit, first, others, later, rfl⟩ := read
    obtain ⟨lower, bounds⟩ := ih later
    obtain ⟨bound, head⟩ := hexDigit_lower first
    constructor
    · rw [toLowerCase, List.map_cons, List.map_cons, head]
      exact congrArg _ lower
    · intro other member
      rcases List.mem_cons.mp member with rfl | inside
      · exact bound
      · exact bounds other inside

/-- What a group's text is in lower case, and the number that it stands for. -/
theorem hexGroup_some {text : Text} {group : Nat} (read : hexGroup text = some group) :
    ∃ digits, IsGroup digits ∧ toLowerCase text = digits.map Nat.digitChar ∧ group = hexValue digits := by
  unfold hexGroup at read
  split at read
  · next shape =>
    obtain ⟨digits, all, rfl⟩ := Option.map_eq_some_iff.mp read
    obtain ⟨lower, bounds⟩ := mapM_hexDigit all
    have length := (mapM_some all).1
    exact ⟨digits, ⟨length ▸ shape.1, length ▸ shape.2, bounds⟩, lower, rfl⟩
  · cases read

theorem hexDigit_digitChar {digit : Nat} (bound : digit < 16) : hexDigit (Nat.digitChar digit) = some digit := by
  have all : ∀ digit < 16, hexDigit (Nat.digitChar digit) = some digit := by decide +kernel
  exact all digit bound

/-- Digits as they are usually written are read back. -/
theorem hexGroup_digits_eq {digits : List Nat} (group : IsGroup digits) :
    hexGroup (digits.map Nat.digitChar) = some (hexValue digits) := by
  have all : ∀ digits : List Nat, (∀ digit ∈ digits, digit < 16) →
      (digits.map Nat.digitChar).mapM hexDigit = some digits := by
    intro digits bounds
    induction digits with
    | nil => rfl
    | cons digit rest ih =>
      have first := hexDigit_digitChar (bounds digit List.mem_cons_self)
      have later := ih fun other member => bounds other (List.mem_cons_of_mem _ member)
      rw [List.map_cons, List.mapM_cons, first, later]
      rfl
  rw [hexGroup, if_pos (by rw [List.length_map]; exact ⟨group.nonempty, group.length⟩), all digits group.digits]
  rfl

theorem IsGroup.cases {digits : List Nat} (group : IsGroup digits) :
    (∃ a, digits = [a] ∧ a < 16) ∨ (∃ a b, digits = [a, b] ∧ a < 16 ∧ b < 16) ∨
      (∃ a b c, digits = [a, b, c] ∧ a < 16 ∧ b < 16 ∧ c < 16) ∨
        ∃ a b c d, digits = [a, b, c, d] ∧ a < 16 ∧ b < 16 ∧ c < 16 ∧ d < 16 := by
  obtain ⟨nonempty, length, bounds⟩ := group
  match digits, nonempty, length with
  | [a], _, _ => exact .inl ⟨a, rfl, by simpa using bounds⟩
  | [a, b], _, _ => exact .inr (.inl ⟨a, b, rfl, by simpa using bounds⟩)
  | [a, b, c], _, _ => exact .inr (.inr (.inl ⟨a, b, c, rfl, by simpa using bounds⟩))
  | [a, b, c, d], _, _ => exact .inr (.inr (.inr ⟨a, b, c, d, rfl, by simpa using bounds⟩))

/-- The prefixes `fc`, `fd`, `fe80` and `ff` on the digits of a first group. -/
def prefixed (digits : List Nat) : Prop :=
  digits.take 2 = [15, 12] ∨ digits.take 2 = [15, 13] ∨ digits.take 2 = [15, 15] ∨ digits = [15, 14, 8, 0]

/-- The first groups of four digits with such a prefix. -/
def firstBlocked (group : Nat) : Prop :=
  0xfc00 ≤ group ∧ group ≤ 0xfdff ∨ group = 0xfe80 ∨ 0xff00 ≤ group

/-- The first groups of fewer digits with such a prefix. -/
def shortBlocked (group : Nat) : Prop :=
  group = 0xfc ∨ group = 0xfd ∨ group = 0xff ∨ 0xfc0 ≤ group ∧ group ≤ 0xfdf ∨ 0xff0 ≤ group ∧ group ≤ 0xfff

theorem prefixed_four {digits : List Nat} (group : IsGroup digits) (four : digits.length = 4) :
    prefixed digits ↔ firstBlocked (hexValue digits) := by
  rcases group.cases with ⟨a, rfl, _⟩ | ⟨a, b, rfl, _⟩ | ⟨a, b, c, rfl, _⟩ | ⟨a, b, c, d, rfl, _, _, _, _⟩
  · cases four
  · cases four
  · cases four
  · simp only [prefixed, firstBlocked, hexValue, List.take_succ_cons, List.take_zero, List.cons.injEq, and_true,
      List.foldl_cons, List.foldl_nil]
    omega

theorem prefixed_iff {digits : List Nat} (group : IsGroup digits) (long : ¬shortBlocked (hexValue digits)) :
    prefixed digits ↔ firstBlocked (hexValue digits) := by
  by_cases four : digits.length = 4
  · exact prefixed_four group four
  · rcases group.cases with ⟨a, rfl, _⟩ | ⟨a, b, rfl, _, _⟩ | ⟨a, b, c, rfl, _, _, _⟩ | ⟨a, b, c, d, rfl, _⟩
    · simp only [prefixed, firstBlocked, hexValue, List.take_succ_cons, List.take_nil, List.cons.injEq,
        List.foldl_cons, List.foldl_nil, reduceCtorEq, and_false, or_false, false_iff]
      omega
    · simp only [prefixed, firstBlocked, shortBlocked, hexValue, List.take_succ_cons, List.take_zero, List.cons.injEq,
        and_true, List.foldl_cons, List.foldl_nil, reduceCtorEq, and_false, or_false] at long ⊢
      omega
    · simp only [prefixed, firstBlocked, shortBlocked, hexValue, List.take_succ_cons, List.take_zero, List.cons.injEq,
        and_true, List.foldl_cons, List.foldl_nil, reduceCtorEq, and_false, or_false] at long ⊢
      omega
    · exact absurd rfl four

/-- A short first group has a spelling with such a prefix. -/
theorem shortBlocked_digits {group : Nat} (short : shortBlocked group) :
    ∃ digits, IsGroup digits ∧ hexValue digits = group ∧ prefixed digits := by
  have make : ∀ digits : List Nat, 1 ≤ digits.length → digits.length ≤ 4 → (∀ digit ∈ digits, digit < 16) →
      hexValue digits = group → prefixed digits → ∃ digits, IsGroup digits ∧ hexValue digits = group ∧ prefixed digits :=
    fun digits nonempty length bounds value blocked => ⟨digits, ⟨nonempty, length, bounds⟩, value, blocked⟩
  rcases short with rfl | rfl | rfl | ⟨low, high⟩ | ⟨low, high⟩
  · exact make [15, 12] (by decide) (by decide) (by decide) rfl (.inl rfl)
  · exact make [15, 13] (by decide) (by decide) (by decide) rfl (.inr (.inl rfl))
  · exact make [15, 15] (by decide) (by decide) (by decide) rfl (.inr (.inr (.inl rfl)))
  · by_cases first : group ≤ 0xfcf
    · refine make [15, 12, group % 16] (by simp) (by simp) ?_ ?_ (.inl rfl)
      · simp only [List.mem_cons, List.not_mem_nil, or_false, forall_eq_or_imp, forall_eq]
        omega
      · simp only [hexValue, List.foldl_cons, List.foldl_nil]
        omega
    · refine make [15, 13, group % 16] (by simp) (by simp) ?_ ?_ (.inr (.inl rfl))
      · simp only [List.mem_cons, List.not_mem_nil, or_false, forall_eq_or_imp, forall_eq]
        omega
      · simp only [hexValue, List.foldl_cons, List.foldl_nil]
        omega
  · refine make [15, 15, group % 16] (by simp) (by simp) ?_ ?_ (.inr (.inr (.inl rfl)))
    · simp only [List.mem_cons, List.not_mem_nil, or_false, forall_eq_or_imp, forall_eq]
      omega
    · simp only [hexValue, List.foldl_cons, List.foldl_nil]
      omega

/-- The four digits of a group. -/
def paddedDigits (group : Nat) : List Nat := [group / 4096, group / 256 % 16, group / 16 % 16, group % 16]

theorem paddedDigits_group {group : Nat} (bound : group < 65536) :
    IsGroup (paddedDigits group) ∧ hexValue (paddedDigits group) = group := by
  refine ⟨⟨by simp [paddedDigits], by simp [paddedDigits], ?_⟩, ?_⟩
  · simp only [paddedDigits, List.mem_cons, List.not_mem_nil, or_false, forall_eq_or_imp, forall_eq]
    omega
  · simp only [paddedDigits, hexValue, List.foldl_cons, List.foldl_nil]
    omega

theorem hexValue_lt {digits : List Nat} (group : IsGroup digits) : hexValue digits < 65536 := by
  rcases group.cases with ⟨a, rfl, _⟩ | ⟨a, b, rfl, _, _⟩ | ⟨a, b, c, rfl, _, _, _⟩ | ⟨a, b, c, d, rfl, _, _, _, _⟩ <;>
    (simp only [hexValue, List.foldl_cons, List.foldl_nil]; omega)

end Digits

section Forms

theorem toLower_cases (character : Char) : character.toLower = character ∨
    65 ≤ character.toNat ∧ character.toNat ≤ 90 ∧ character.toLower.toNat = character.toNat + 32 := by
  unfold Char.toLower
  split
  · next upper =>
    have low : 65 ≤ character.toNat := upper.1
    have high : character.toNat ≤ 90 := upper.2
    refine .inr ⟨low, high, ?_⟩
    change (character.val + 32).toNat = _
    rw [UInt32.toNat_add]
    change (character.toNat + 32) % 2 ^ 32 = _
    omega
  · exact .inl rfl

/-- A character that is no letter is the lower case of itself alone. -/
theorem toLower_eq_iff {character other : Char} (notUpper : other.toNat < 65 ∨ 90 < other.toNat)
    (notLower : other.toNat < 97 ∨ 122 < other.toNat) : character.toLower = other ↔ character = other := by
  rcases toLower_cases character with same | ⟨low, high, code⟩
  · rw [same]
  · constructor
    · rintro rfl
      omega
    · rintro rfl
      omega

theorem toLowerCase_append (first second : Text) :
    toLowerCase (first ++ second) = toLowerCase first ++ toLowerCase second := List.map_append

theorem splitOn_head {text field : Text} {fields : List Text} (split : text.splitOn ':' = field :: fields) :
    fields = [] ∧ text = field ∨ ∃ rest, text = field ++ ':' :: rest := by
  have joined : [':'].intercalate (text.splitOn ':') = text := List.intercalate_splitOn ':'
  rw [split] at joined
  cases fields with
  | nil =>
    rw [List.intercalate_singleton] at joined
    exact .inl ⟨rfl, joined.symm⟩
  | cons next others =>
    rw [List.intercalate_cons_cons, List.append_assoc, List.singleton_append] at joined
    exact .inr ⟨_, joined.symm⟩

/-- A spelling that starts with a group. -/
def StartsWith (text : Text) (groups : List Nat) : Prop :=
  ∃ digits rest others, IsGroup digits ∧ toLowerCase text = digits.map Nat.digitChar ++ ':' :: rest ∧
    groups = hexValue digits :: others

/-- A spelling that starts with the elision. -/
def Elided (text : Text) (groups : List Nat) : Prop :=
  ∃ right zone behind, text = ':' :: ':' :: (right ++ zone) ∧ '%' ∉ right ∧ (zone = [] ∨ zone.head? = some '%') ∧
    groupsOf (fields right) = some behind ∧ behind.length ≤ 7 ∧ groups = List.replicate (8 - behind.length) 0 ++ behind

theorem startsWith_of_field {field rest tail : Text} {group : Nat} {others : List Nat}
    (read : hexGroup field = some group) : StartsWith (field ++ ':' :: rest ++ tail) (group :: others) := by
  obtain ⟨digits, shape, lower, rfl⟩ := hexGroup_some read
  refine ⟨digits, toLowerCase (rest ++ tail), others, shape, ?_, rfl⟩
  have colon : Char.toLower ':' = ':' := by decide
  rw [List.append_assoc, List.cons_append, toLowerCase_append, lower]
  simp only [toLowerCase, List.map_cons, colon]

theorem ipv6Body_forms {body zone : Text} {groups : List Nat} (plain : '%' ∉ body)
    (zoned : zone = [] ∨ zone.head? = some '%') (read : ipv6Body body = some groups) :
    StartsWith (body ++ zone) groups ∨ Elided (body ++ zone) groups := by
  unfold ipv6Body at read
  split at read
  · obtain ⟨whole, eight⟩ := Option.filter_eq_some_iff.mp read
    have count := of_decide_eq_true eight
    cases split : body.splitOn ':' with
    | nil => exact absurd split (List.splitOn_ne_nil _ _)
    | cons field rest =>
      rw [split] at whole
      cases rest with
      | nil =>
        have few := (groupsOf_some whole).1
        rw [List.length_singleton] at few
        omega
      | cons next others =>
        simp only [groupsOf, Option.bind_eq_bind, Option.bind_eq_some_iff, Option.pure_def, Option.some.injEq] at whole
        obtain ⟨group, first, groups', -, rfl⟩ := whole
        rcases splitOn_head split with ⟨impossible, -⟩ | ⟨rest, same⟩
        · cases impossible
        · rw [same]
          exact .inl (startsWith_of_field first)
  · next left right cutting =>
    obtain rfl := cut_some cutting
    simp only [Option.bind_eq_bind, Option.bind_eq_some_iff] at read
    obtain ⟨before, head, behind, tail, joined⟩ := read
    split at joined
    · next within =>
      cases joined
      cases left with
      | nil =>
        have none : before = [] := by
          rw [fields, if_pos rfl] at head
          cases head
          rfl
        subst none
        refine .inr ⟨right, zone, behind, rfl, ?_, zoned, tail, by simpa using within, by simp⟩
        intro inside
        exact plain (List.mem_cons_of_mem _ (List.mem_cons_of_mem _ inside))
      | cons letter letters =>
        left
        rw [fields, if_neg (List.cons_ne_nil _ _)] at head
        cases split : (letter :: letters).splitOn ':' with
        | nil => exact absurd split (List.splitOn_ne_nil _ _)
        | cons field others =>
          rw [split, List.mapM_cons] at head
          simp only [Option.bind_eq_bind, Option.bind_eq_some_iff, Option.pure_def, Option.some.injEq] at head
          obtain ⟨group, first, rest, -, rfl⟩ := head
          rcases splitOn_head split with ⟨-, same⟩ | ⟨rest', same⟩
          · rw [same]
            exact startsWith_of_field first
          · rw [same, List.append_assoc field, List.cons_append]
            exact startsWith_of_field first
    · cases joined

/-- Every spelling starts with a group or with the elision. -/
theorem ipv6_forms {text : Text} {groups : List Nat} (read : ipv6 text = some groups) :
    StartsWith text groups ∨ Elided text groups := by
  unfold ipv6 at read
  split at read
  · have split := @List.takeWhile_append_dropWhile _ (fun character => decide (character ≠ '%')) text
    have forms := @ipv6Body_forms (text.takeWhile (· ≠ '%')) (text.dropWhile (· ≠ '%')) groups ?_ ?_ read
    · rwa [split] at forms
    · intro inside
      simpa using List.mem_takeWhile_imp inside
    · cases rest : text.dropWhile (· ≠ '%') with
      | nil => exact .inl rfl
      | cons first others =>
        right
        have stop := @List.head?_dropWhile_not _ (fun character => decide (character ≠ '%')) text
        rw [rest, List.head?_cons] at stop
        have percent : first = '%' := by simpa using stop
        rw [percent]
        rfl
  · cases read

end Forms

section Dotted
variable {number : Coercion}

theorem octet_bound {text : Text} {value : Nat} (read : octet text = some value) :
    value = decimal text ∧ value ≤ 255 ∧ text.length ≤ 15 := by
  unfold octet at read
  split at read
  · next shape =>
    cases read
    exact ⟨rfl, shape.2.2.2.2, by omega⟩
  · cases read

theorem ipv4_fields {text : Text} {octets : List Nat} (read : ipv4 text = some octets) :
    ∃ first second third fourth a b c d, text.splitOn '.' = [first, second, third, fourth] ∧ octet first = some a ∧
      octet second = some b ∧ octet third = some c ∧ octet fourth = some d ∧ octets = [a, b, c, d] := by
  unfold ipv4 at read
  split at read
  · next first second third fourth split =>
    simp only [Option.bind_eq_bind, Option.bind_eq_some_iff, Option.pure_def, Option.some.injEq] at read
    obtain ⟨a, one, b, two, c, three, d, four, rfl⟩ := read
    exact ⟨first, second, third, fourth, a, b, c, d, split, one, two, three, four, rfl⟩
  · cases read

theorem integer_octet {text : Text} {value : Nat} (read : octet text = some value) :
    (number.integer text).filter (fun octet => !(octet < 0 || octet > 255)) = some (value : Int) := by
  obtain ⟨same, bound, short⟩ := octet_bound read
  obtain ⟨nonempty, digits⟩ := octet_digits read
  have within : (!((value : Int) < 0 || (value : Int) > 255)) = true := by
    simp only [Bool.not_eq_true', Bool.or_eq_false_iff, decide_eq_false_iff_not]
    omega
  rw [number.digits text nonempty (List.all_eq_true.mpr digits) short, ← same]
  exact (Option.filter_some.trans (if_pos within))

/-- The classes of blocked dotted addresses, on their first two numbers. -/
def blockedOctets (first second : Int) : Bool :=
  first = 0 || first = 10 || first = 127 || (first = 100 && second ≥ 64 && second ≤ 127)
    || (first = 169 && second = 254) || (first = 172 && second ≥ 16 && second ≤ 31) || (first = 192 && second = 168)
    || (first = 198 && [18, 19].contains second) || first ≥ 224

/-- The check of a dotted address reads its numbers alone. -/
theorem isBlockedIpv4Address_eq {text : Text} {a b c d : Nat} (read : ipv4 text = some [a, b, c, d]) :
    isBlockedIpv4Address number text = blockedOctets a b := by
  obtain ⟨first, second, third, fourth, a', b', c', d', split, one, two, three, four, same⟩ := ipv4_fields read
  cases same
  have parsed : parseIpv4 number text = some [(a : Int), b, c, d] := by
    unfold parseIpv4
    rw [split, if_neg (by simp)]
    simp only [List.mapM_cons, List.mapM_nil, integer_octet one, integer_octet two, integer_octet three,
      integer_octet four]
    rfl
  unfold isBlockedIpv4Address
  rw [parsed]
  rfl

/-- The usual text of a dotted address. -/
def dotted (octets : List Nat) : Text := ['.'].intercalate (octets.map (Nat.toDigits 10))

theorem octet_toDigits {value : Nat} (bound : value ≤ 255) : octet (Nat.toDigits 10 value) = some value := by
  have all : ∀ value < 256, octet (Nat.toDigits 10 value) = some value := by decide +kernel
  exact all value (by omega)

theorem ipv4_dotted {a b c d : Nat} (one : a ≤ 255) (two : b ≤ 255) (three : c ≤ 255) (four : d ≤ 255) :
    ipv4 (dotted [a, b, c, d]) = some [a, b, c, d] := by
  have split : (dotted [a, b, c, d]).splitOn '.' = [a, b, c, d].map (Nat.toDigits 10) := by
    apply List.splitOn_intercalate
    · intro field member inside
      obtain ⟨value, -, rfl⟩ := List.mem_map.mp member
      cases List.all_eq_true.mp (toDigits_digits value) '.' inside
    · exact List.cons_ne_nil _ _
  unfold ipv4
  rw [split]
  simp only [List.map_cons, List.map_nil, octet_toDigits one, octet_toDigits two, octet_toDigits three,
    octet_toDigits four]
  rfl

/-- The numbers that the last two groups of an address stand for. -/
def lastOctets (third fourth : Nat) : List Nat := [third / 256, third % 256, fourth / 256, fourth % 256]

theorem embedded_blocked {text : Text} {a b c d : Nat} (read : ipv4 text = some [a, b, c, d]) :
    isBlockedIpv4Address number text = isBlockedIpv4Address number (dotted (lastOctets (256 * a + b) (256 * c + d))) := by
  obtain ⟨_, _, _, _, _, _, _, _, -, one, two, three, four, same⟩ := ipv4_fields read
  cases same
  have bounds := And.intro (octet_bound one).2.1 (And.intro (octet_bound two).2.1
    (And.intro (octet_bound three).2.1 (octet_bound four).2.1))
  have last : lastOctets (256 * a + b) (256 * c + d) = [a, b, c, d] := by
    simp only [lastOctets, List.cons.injEq, and_true]
    omega
  rw [last, isBlockedIpv4Address_eq read,
    isBlockedIpv4Address_eq (ipv4_dotted bounds.1 bounds.2.1 bounds.2.2.1 bounds.2.2.2)]

theorem hexGroup_dot {text : Text} (dot : '.' ∈ text) : hexGroup text = none := by
  cases read : hexGroup text with
  | none => rfl
  | some group =>
    have digit := hexGroup_digits (by rw [read]; rfl) '.' dot
    cases digit

/-- A field with a dot is the last one. -/
theorem groupsOf_dotted {field : Text} {fields : List Text} {groups : List Nat} (dot : '.' ∈ field)
    (read : groupsOf (field :: fields) = some groups) :
    fields = [] ∧ ∃ octets, ipv4 field = some octets ∧ groups = embedded octets := by
  cases fields with
  | nil =>
    rw [groupsOf, hexGroup_dot dot] at read
    have pair : (ipv4 field).map embedded = some groups := read
    obtain ⟨octets, parsed, same⟩ := Option.map_eq_some_iff.mp pair
    exact ⟨rfl, octets, parsed, same.symm⟩
  | cons next others =>
    rw [groupsOf, hexGroup_dot dot] at read
    · cases read
    · intro impossible
      cases impossible

end Dotted

section Blocked
variable {number : Coercion} {text right zone : Text} {groups behind : List Nat}

theorem digitChar_inj {first second : Nat} (low : first < 16) (high : second < 16) :
    Nat.digitChar first = Nat.digitChar second ↔ first = second := by
  constructor
  · intro same
    have read := hexDigit_digitChar low
    rw [same, hexDigit_digitChar high] at read
    exact (Option.some.inj read).symm
  · rintro rfl
    rfl

theorem digitChar_ne_colon {digit : Nat} (bound : digit < 16) : Nat.digitChar digit ≠ ':' := by
  intro same
  have read := hexDigit_digitChar bound
  rw [same] at read
  cases read

theorem digits_prefix {pattern digits : List Nat} (low : ∀ digit ∈ pattern, digit < 16) (high : ∀ digit ∈ digits, digit < 16)
    (rest : Text) :
    (pattern.map Nat.digitChar).isPrefixOf (digits.map Nat.digitChar ++ ':' :: rest) = true ↔ pattern <+: digits := by
  induction pattern generalizing digits with
  | nil => simp
  | cons digit others ih =>
    have bound := low digit List.mem_cons_self
    cases digits with
    | nil =>
      have apart := digitChar_ne_colon bound
      simp [apart]
    | cons next later =>
      have same := digitChar_inj bound (high next List.mem_cons_self)
      have rest := ih (fun digit member => low digit (List.mem_cons_of_mem _ member))
        (fun digit member => high digit (List.mem_cons_of_mem _ member))
      simp only [List.map_cons, List.cons_append, List.isPrefixOf_cons_cons, Bool.and_eq_true, beq_iff_eq, same, rest,
        List.cons_prefix_cons]

theorem prefixed_iff_prefix {digits : List Nat} (group : IsGroup digits) : prefixed digits ↔
    [15, 12] <+: digits ∨ [15, 13] <+: digits ∨ [15, 14, 8, 0] <+: digits ∨ [15, 15] <+: digits := by
  have whole : [15, 14, 8, 0] <+: digits ↔ digits = [15, 14, 8, 0] := by
    constructor
    · intro start
      exact (start.eq_of_length_le (by simpa using group.length)).symm
    · rintro rfl
      exact List.prefix_rfl
  simp only [prefixed, whole, List.prefix_iff_eq_take, List.length_cons, List.length_nil, eq_comm]
  tauto

theorem normalizeIpv6_plain (plain : ∀ character ∈ text, isPlain character = true) :
    normalizeIpv6 text = toLowerCase text := by
  have bare : ∀ character ∈ toLowerCase text, character ≠ '[' ∧ character ≠ ']' := by
    intro character member
    obtain ⟨original, inside, rfl⟩ := List.mem_map.mp member
    have apart := plain original inside
    simp only [isPlain, List.mem_cons, List.not_mem_nil, or_false, decide_eq_true_eq, not_or] at apart
    constructor
    · intro same
      exact apart.1 ((toLower_eq_iff (by decide) (by decide)).mp same)
    · intro same
      exact apart.2.1 ((toLower_eq_iff (by decide) (by decide)).mp same)
  have first : (toLowerCase text).head? ≠ some '[' := fun same => (bare _ (List.mem_of_head? same)).1 rfl
  have last : (toLowerCase text).getLast? ≠ some ']' := fun same => (bare _ (List.mem_of_getLast? same)).2 rfl
  rw [normalizeIpv6, stripBrackets, if_neg first, if_neg last]

/-- The prefixes that are behind two colons. -/
def colonPrefixes : List Text :=
  ["::ffff:0:".toList, "::ffff:10.".toList, "::ffff:127.".toList, "::ffff:169.254.".toList, "::ffff:192.168.".toList]

/-- The texts of the check, those with digits in front and those with colons. -/
theorem isBlockedIpv6Address_iff (plain : ∀ character ∈ text, isPlain character = true) :
    isBlockedIpv6Address text = true ↔
      toLowerCase text = "::".toList ∨ toLowerCase text = "::1".toList ∨
        (∃ start ∈ [[15, 12], [15, 13], [15, 14, 8, 0], [15, 15]], start.map Nat.digitChar <+: toLowerCase text) ∨
        ∃ start ∈ colonPrefixes, start <+: toLowerCase text := by
  have fc : "fc".toList = [15, 12].map Nat.digitChar := by decide
  have fd : "fd".toList = [15, 13].map Nat.digitChar := by decide
  have fe80 : "fe80".toList = [15, 14, 8, 0].map Nat.digitChar := by decide
  have ff : "ff".toList = [15, 15].map Nat.digitChar := by decide
  simp only [isBlockedIpv6Address, normalizeIpv6_plain plain, Bool.or_eq_true, decide_eq_true_eq,
    List.isPrefixOf_iff_prefix, fc, fd, fe80, ff, colonPrefixes, List.mem_cons, List.not_mem_nil, or_false,
    exists_eq_or_imp, exists_eq_left, or_assoc]

/-- A spelling that starts with a group is read by its first digits. -/
theorem startsWith_blocked {digits : List Nat} {rest : Text} (plain : ∀ character ∈ text, isPlain character = true)
    (group : IsGroup digits) (lower : toLowerCase text = digits.map Nat.digitChar ++ ':' :: rest) :
    mappedIpv4 text = none ∧ (isBlockedIpv6Address text = true ↔ prefixed digits) := by
  have colon : ∀ start : Text, start.head? = some ':' → ¬start <+: toLowerCase text := by
    intro start first within
    rw [lower] at within
    obtain ⟨behind, rfl⟩ := List.head?_eq_some_iff.mp first
    cases digits with
    | nil => exact absurd group.nonempty (by simp)
    | cons digit later =>
      rw [List.map_cons, List.cons_append, List.cons_prefix_cons] at within
      exact digitChar_ne_colon (group.digits digit List.mem_cons_self) within.1.symm
  have pattern : ∀ start : List Nat, (∀ digit ∈ start, digit < 16) →
      (start.map Nat.digitChar <+: toLowerCase text ↔ start <+: digits) := by
    intro start low
    rw [lower, ← List.isPrefixOf_iff_prefix]
    exact digits_prefix low group.digits rest
  constructor
  · rw [mappedIpv4, if_neg]
    rintro ⟨mapped, -⟩
    have taken : (toLowerCase text).take 7 = "::ffff:".toList := by
      rw [toLowerCase, ← List.map_take]
      exact mapped
    exact colon "::ffff:".toList (by decide) (taken ▸ List.take_prefix 7 _)
  · rw [isBlockedIpv6Address_iff plain, prefixed_iff_prefix group]
    have empty : toLowerCase text ≠ "::".toList := fun same => colon "::".toList (by decide) (same ▸ List.prefix_rfl)
    have loop : toLowerCase text ≠ "::1".toList := fun same => colon "::1".toList (by decide) (same ▸ List.prefix_rfl)
    have mapped : ¬∃ start ∈ colonPrefixes, start <+: toLowerCase text := by
      rintro ⟨start, member, within⟩
      have all : ∀ start ∈ colonPrefixes, start.head? = some ':' := by decide
      exact colon start (all start member) within
    simp only [empty, loop, mapped, false_or, or_false, List.mem_cons, List.not_mem_nil, or_false, exists_eq_or_imp,
      exists_eq_left]
    rw [pattern _ (by decide), pattern _ (by decide), pattern _ (by decide), pattern _ (by decide)]

/-- What a text without letters starts with, it starts with in lower case. -/
theorem prefix_zone {start : Text} (apart : '%' ∉ start) (zoned : zone = [] ∨ zone.head? = some '%')
    (within : start <+: toLowerCase (right ++ zone)) : start <+: toLowerCase right := by
  rw [toLowerCase_append] at within
  rcases zoned with rfl | first
  · simpa [toLowerCase] using within
  · obtain ⟨rest, rfl⟩ := List.head?_eq_some_iff.mp first
    by_cases short : start.length ≤ (toLowerCase right).length
    · exact List.prefix_of_prefix_length_le within (List.prefix_append _ _) short
    · exfalso
      obtain ⟨more, split⟩ := List.prefix_of_prefix_length_le (List.prefix_append (toLowerCase right) _) within
        (by omega)
      have percent : Char.toLower '%' = '%' := by decide
      cases more with
      | nil =>
        rw [List.append_nil] at split
        rw [split] at short
        exact short le_rfl
      | cons next others =>
        rw [← split, List.prefix_append_right_inj] at within
        simp only [toLowerCase, List.map_cons, percent, List.cons_prefix_cons] at within
        rw [within.1] at split
        exact apart (split ▸ List.mem_append_right _ List.mem_cons_self)

/-- The last groups behind `ffff:`. -/
theorem ffff_first (read : groupsOf (fields right) = some behind) (starts : "ffff:".toList <+: toLowerCase right) :
    ∃ more others, right = right.take 5 ++ more ∧ toLowerCase right = "ffff:".toList ++ toLowerCase more ∧
      groupsOf (more.splitOn ':') = some others ∧ behind = 0xffff :: others := by
  have letters : "ffff:".toList = ['f', 'f', 'f', 'f', ':'] := by decide
  rw [letters] at starts ⊢
  match right, starts with
  | [], starts | [_], starts | [_, _], starts | [_, _, _], starts | [_, _, _, _], starts =>
    exact absurd starts.length_le (by simp [toLowerCase])
  | one :: two :: three :: four :: colon :: more, starts =>
    simp only [toLowerCase, List.map_cons, List.cons_prefix_cons] at starts
    obtain ⟨first, second, third, fourth, fifth, -⟩ := starts
    obtain rfl : colon = ':' := (toLower_eq_iff (by decide) (by decide)).mp fifth.symm
    have apart : ':' ∉ [one, two, three, four] := by
      intro member
      have lower : Char.toLower ':' = ':' := by decide
      simp only [List.mem_cons, List.not_mem_nil, or_false] at member
      rcases member with rfl | rfl | rfl | rfl
      · exact absurd (first.trans lower) (by decide)
      · exact absurd (second.trans lower) (by decide)
      · exact absurd (third.trans lower) (by decide)
      · exact absurd (fourth.trans lower) (by decide)
    have split : fields ([one, two, three, four] ++ ':' :: more) = [one, two, three, four] :: more.splitOn ':' := by
      rw [fields, if_neg (by simp), List.splitOn_append_cons_self_of_not_mem apart]
    refine ⟨more, ?_⟩
    change groupsOf (fields ([one, two, three, four] ++ ':' :: more)) = some behind at read
    rw [split] at read
    cases rest : more.splitOn ':' with
    | nil => exact absurd rest (List.splitOn_ne_nil _ _)
    | cons next later =>
      rw [rest] at read
      simp only [groupsOf, Option.bind_eq_bind, Option.bind_eq_some_iff, Option.pure_def, Option.some.injEq] at read
      obtain ⟨group, head, others, tail, rfl⟩ := read
      refine ⟨others, rfl, ?_, tail, ?_⟩
      · simp only [toLowerCase, List.map_cons, ← first, ← second, ← third, ← fourth, ← fifth, List.cons_append,
          List.nil_append]
      · obtain ⟨digits, shape, lower, rfl⟩ := hexGroup_some head
        have same : [15, 15, 15, 15].map Nat.digitChar = digits.map Nat.digitChar := by
          rw [← lower]
          simp only [toLowerCase, List.map_cons, List.map_nil, ← first, ← second, ← third, ← fourth]
          decide
        have digits15 : digits = [15, 15, 15, 15] := by
          have low : ∀ digit ∈ [15, 15, 15, 15], digit < 16 := by decide
          have whole := digits_prefix low shape.digits []
          rw [← same, List.isPrefixOf_iff_prefix] at whole
          exact ((whole.mp (List.prefix_append _ _)).eq_of_length_le shape.length).symm
        rw [digits15]
        rfl

end Blocked

section Elisions
variable {number : Coercion} {text right zone field rest more : Text} {groups behind others octets : List Nat}

/-- An IPv4-mapped address with a blocked address in it. -/
def mappedBlocked (number : Coercion) (groups : List Nat) : Prop :=
  ∃ third fourth, groups = [0, 0, 0, 0, 0, 0xffff, third, fourth] ∧
    isBlockedIpv4Address number (dotted (lastOctets third fourth)) = true

/-- A group `ffff` and a group of zero behind one to five groups of zero. -/
def elidedZero (groups : List Nat) : Prop :=
  ∃ zeros rest, 1 ≤ zeros ∧ zeros ≤ 5 ∧ groups = List.replicate zeros 0 ++ 0xffff :: 0 :: rest

theorem groupsOf_length {fields : List Text} (read : groupsOf fields = some groups) : fields.length ≤ groups.length := by
  induction fields generalizing groups with
  | nil => exact Nat.zero_le _
  | cons first rest ih =>
    cases rest with
    | nil =>
      cases head : hexGroup first with
      | some group =>
        rw [groupsOf, head] at read
        have one : [group] = groups := Option.some.inj read
        rw [← one]
        exact le_rfl
      | none =>
        rw [groupsOf, head] at read
        have pair : (ipv4 first).map embedded = some groups := read
        obtain ⟨octets, dotted, rfl⟩ := Option.map_eq_some_iff.mp pair
        obtain ⟨_, _, _, _, _, _, _, _, -, -, -, -, -, rfl⟩ := ipv4_fields dotted
        exact Nat.le_succ _
    | cons next others =>
      simp only [groupsOf, Option.bind_eq_bind, Option.bind_eq_some_iff, Option.pure_def, Option.some.injEq] at read
      obtain ⟨group, -, groups', tail, rfl⟩ := read
      exact Nat.succ_le_succ (ih tail)

/-- The first field of a text that starts with a piece without colons. -/
theorem splitOn_start (start rest : Text) (apart : ':' ∉ start) :
    ∃ field fields, (start ++ rest).splitOn ':' = (start ++ field) :: fields := by
  induction start with
  | nil =>
    cases split : rest.splitOn ':' with
    | nil => exact absurd split (List.splitOn_ne_nil _ _)
    | cons field fields => exact ⟨field, fields, split⟩
  | cons character others ih =>
    obtain ⟨field, fields, split⟩ := ih fun inside => apart (List.mem_cons_of_mem _ inside)
    refine ⟨field, fields, ?_⟩
    have other : (character == ':') = false := by
      simp only [beq_eq_false_iff_ne]
      rintro rfl
      exact apart List.mem_cons_self
    rw [List.cons_append, List.splitOn_cons_eq_if_modifyHead, other, split]
    rfl

/-- A piece without letters is the same in both cases. -/
theorem prefix_caseless {start : Text}
    (plain : ∀ character ∈ start, character.toNat < 65) (within : start <+: toLowerCase text) : start <+: text := by
  induction start generalizing text with
  | nil => exact List.nil_prefix
  | cons character others ih =>
    cases text with
    | nil => exact absurd within (by simp [toLowerCase])
    | cons first rest =>
      simp only [toLowerCase, List.map_cons, List.cons_prefix_cons] at within
      have small := plain character List.mem_cons_self
      have same : first = character := (toLower_eq_iff (.inl small) (.inl (by omega))).mp within.1.symm
      rw [same, List.cons_prefix_cons]
      exact ⟨rfl, ih (fun other member => plain other (List.mem_cons_of_mem _ member)) within.2⟩

/-- A dotted address behind `::ffff:`. -/
theorem dotted_mapped {fields : List Text} (dot : '.' ∈ field) (read : groupsOf (field :: fields) = some others)
    (blocked : ∀ octets, ipv4 field = some octets → isBlockedIpv4Address number field = true) :
    mappedBlocked number (List.replicate (8 - (0xffff :: others).length) 0 ++ 0xffff :: others) := by
  obtain ⟨-, octets, parsed, rfl⟩ := groupsOf_dotted dot read
  obtain ⟨_, _, _, _, a, b, c, d, -, -, -, -, -, rfl⟩ := ipv4_fields parsed
  refine ⟨256 * a + b, 256 * c + d, rfl, ?_⟩
  rw [← embedded_blocked parsed]
  exact blocked _ parsed

/-- The first number of a dotted address. -/
theorem ipv4_first {start : Text} (apart : '.' ∉ start) (read : ipv4 (start ++ '.' :: rest) = some octets) :
    ∃ a b c d second third fourth, octets = [a, b, c, d] ∧ octet start = some a ∧ octet second = some b ∧
      rest.splitOn '.' = [second, third, fourth] := by
  obtain ⟨first, second, third, fourth, a, b, c, d, split, one, two, -, -, same⟩ := ipv4_fields read
  rw [List.splitOn_append_cons_self_of_not_mem apart] at split
  obtain ⟨rfl, behind⟩ := List.cons.inj split
  exact ⟨a, b, c, d, second, third, fourth, same, one, two, behind⟩

/-- The dotted prefixes of the check are of blocked classes. -/
theorem dotted_blocked {start : Text} (member : start ∈ ["10.".toList, "127.".toList, "169.254.".toList, "192.168.".toList])
    (parsed : ipv4 (start ++ rest) = some octets) : isBlockedIpv4Address number (start ++ rest) = true := by
  have one : ∀ first : Text, '.' ∉ first → (octet first = some 10 ∨ octet first = some 127) →
      ipv4 (first ++ '.' :: rest) = some octets → isBlockedIpv4Address number (first ++ '.' :: rest) = true := by
    intro first apart value parsed
    obtain ⟨a, b, c, d, _, _, _, rfl, head, -, -⟩ := ipv4_first apart parsed
    rw [isBlockedIpv4Address_eq parsed]
    rcases value with ten | loop
    · cases head.symm.trans ten
      simp [blockedOctets]
    · cases head.symm.trans loop
      simp [blockedOctets]
  have two : ∀ first second : Text, '.' ∉ first → '.' ∉ second →
      (octet first = some 169 ∧ octet second = some 254 ∨ octet first = some 192 ∧ octet second = some 168) →
      ipv4 (first ++ '.' :: (second ++ '.' :: rest)) = some octets →
        isBlockedIpv4Address number (first ++ '.' :: (second ++ '.' :: rest)) = true := by
    intro first second apart apart' value parsed
    obtain ⟨a, b, c, d, next, _, _, rfl, head, after, split⟩ := ipv4_first apart parsed
    rw [List.splitOn_append_cons_self_of_not_mem apart'] at split
    obtain ⟨rfl, -⟩ := List.cons.inj split
    rw [isBlockedIpv4Address_eq parsed]
    rcases value with ⟨one, two⟩ | ⟨one, two⟩
    · cases head.symm.trans one
      cases after.symm.trans two
      simp [blockedOctets]
    · cases head.symm.trans one
      cases after.symm.trans two
      simp [blockedOctets]
  simp only [List.mem_cons, List.not_mem_nil, or_false] at member
  rcases member with rfl | rfl | rfl | rfl
  · exact one "10".toList (by decide) (.inl (by decide)) parsed
  · exact one "127".toList (by decide) (.inr (by decide)) parsed
  · exact two "169".toList "254".toList (by decide) (by decide) (.inl (by decide)) parsed
  · exact two "192".toList "168".toList (by decide) (by decide) (.inr (by decide)) parsed

/-- What is behind `::ffff:` in the texts of the check. -/
def mappedStarts : List Text := ["0:".toList, "10.".toList, "127.".toList, "169.254.".toList, "192.168.".toList]

theorem colonPrefixes_eq : colonPrefixes = mappedStarts.map fun start => ':' :: ':' :: ("ffff:".toList ++ start) := by
  decide

theorem elided_mapped {mapped : Text} (zoned : zone = [] ∨ zone.head? = some '%')
    (read : groupsOf (fields right) = some behind) (found : mappedIpv4 (':' :: ':' :: (right ++ zone)) = some mapped)
    (blocked : isBlockedIpv4Address number mapped = true) :
    mappedBlocked number (List.replicate (8 - behind.length) 0 ++ behind) := by
  rw [mappedIpv4] at found
  split at found
  · next shape =>
    obtain ⟨start, four, digits⟩ := shape
    have rest : mapped = (right ++ zone).drop 5 := (Option.some.inj found).symm
    have lower : toLowerCase ((right ++ zone).take 5) = "ffff:".toList := by
      have both : ':' :: ':' :: toLowerCase ((right ++ zone).take 5) = ':' :: ':' :: "ffff:".toList := start
      exact (List.cons.inj (List.cons.inj both).2).2
    have characters : ∀ character ∈ mapped, isDigit character = true ∨ character = '.' := by
      intro character member
      rw [rest] at member
      rcases @mem_splitOn '.' character _ member with same | ⟨field, inside, here⟩
      · exact .inr same
      · have all := List.all_eq_true.mp digits field inside
        exact .inl (List.all_eq_true.mp (Bool.and_eq_true_iff.mp all).2 character here)
    have unzoned : zone = [] := by
      rcases zoned with none | first
      · exact none
      · exfalso
        obtain ⟨others, rfl⟩ := List.head?_eq_some_iff.mp first
        have member : '%' ∈ (right ++ '%' :: others).take 5 ++ (right ++ '%' :: others).drop 5 := by
          rw [List.take_append_drop]
          simp
        rcases List.mem_append.mp member with before | after
        · have percent : '%' ∈ toLowerCase ((right ++ '%' :: others).take 5) :=
            List.mem_map.mpr ⟨'%', before, by decide⟩
          rw [lower] at percent
          exact absurd percent (by decide)
        · rw [← rest] at after
          rcases characters '%' after with digit | same
          · exact absurd digit (by decide)
          · exact absurd same (by decide)
    subst unzoned
    rw [List.append_nil] at rest lower four
    have starts : "ffff:".toList <+: toLowerCase right := by
      rw [← lower, ← List.take_append_drop 5 (toLowerCase right), toLowerCase, toLowerCase, List.map_take]
      exact List.prefix_append _ _
    obtain ⟨more, others, split, -, tail, rfl⟩ := ffff_first read starts
    have same : more = mapped := by
      rw [rest]
      have whole : right.take 5 ++ more = right.take 5 ++ right.drop 5 := by
        rw [← split, List.take_append_drop]
      exact List.append_cancel_left whole
    have dot : '.' ∈ more := by
      have count := length_splitOn '.' (right.drop 5)
      rw [← rest, ← same] at count
      have four' : (more.splitOn '.').length = 4 := by rw [same, rest]; exact four
      exact List.count_pos_iff.mp (by omega)
    have single : more.splitOn ':' = [more] := by
      apply List.splitOn_eq_singleton
      intro colon
      rw [same] at colon
      rcases characters ':' colon with digit | dot
      · exact absurd digit (by decide)
      · exact absurd dot (by decide)
    rw [single] at tail
    exact dotted_mapped dot tail fun _ _ => same ▸ blocked
  · cases found

theorem elided_inside {start : Text} (member : start ∈ mappedStarts) (read : groupsOf (fields right) = some behind)
    (few : behind.length ≤ 7) (within : "ffff:".toList ++ start <+: toLowerCase right) :
    mappedBlocked number (List.replicate (8 - behind.length) 0 ++ behind) ∨
      elidedZero (List.replicate (8 - behind.length) 0 ++ behind) := by
  obtain ⟨more, others, -, lower, tail, rfl⟩ := ffff_first read ((List.prefix_append _ _).trans within)
  rw [lower, List.prefix_append_right_inj] at within
  have caseless : ∀ start ∈ mappedStarts, ∀ character ∈ start, character.toNat < 65 := by
    simp [mappedStarts]
  obtain ⟨rest, rfl⟩ := prefix_caseless (caseless start member) within
  rcases List.mem_cons.mp member with rfl | dotted
  · right
    have digit : ':' ∉ ['0'] := by decide
    have split : ("0:".toList ++ rest).splitOn ':' = ['0'] :: rest.splitOn ':' :=
      List.splitOn_append_cons_self_of_not_mem digit rest
    rw [split] at tail
    cases behind : rest.splitOn ':' with
    | nil => exact absurd behind (List.splitOn_ne_nil _ _)
    | cons next later =>
      rw [behind] at tail
      simp only [groupsOf, Option.bind_eq_bind, Option.bind_eq_some_iff, Option.pure_def, Option.some.injEq] at tail
      obtain ⟨group, head, groups, final, rfl⟩ := tail
      have zero : hexGroup ['0'] = some 0 := by decide
      cases head.symm.trans zero
      have many := groupsOf_length final
      simp only [List.length_cons] at few many
      exact ⟨8 - (groups.length + 1 + 1), groups, by omega, by omega, rfl⟩
  · left
    have shapes : ∀ start ∈ ["10.".toList, "127.".toList, "169.254.".toList, "192.168.".toList],
        ':' ∉ start ∧ '.' ∈ start := by decide
    obtain ⟨apart, dot⟩ := shapes start dotted
    obtain ⟨field, fields, split⟩ := splitOn_start start rest apart
    rw [split] at tail
    exact dotted_mapped (List.mem_append_left _ dot) tail fun octets parsed => dotted_blocked dotted parsed

/-- What a spelling with the elision in front stands for, when it is blocked. -/
theorem elided_blocked (plain : ∀ character ∈ text, isPlain character = true) (elided : Elided text groups)
    (six : isIP text = 6) (blocked : isBlockedIpAddress number text = true) :
    groups = [0, 0, 0, 0, 0, 0, 0, 0] ∨ groups = [0, 0, 0, 0, 0, 0, 0, 1] ∨ mappedBlocked number groups ∨
      elidedZero groups := by
  obtain ⟨right, zone, behind, rfl, apart, zoned, read, few, rfl⟩ := elided
  rw [isBlockedIpAddress, if_neg (by rw [six]; decide), if_pos six] at blocked
  have colon : Char.toLower ':' = ':' := by decide
  have lower : toLowerCase (':' :: ':' :: (right ++ zone)) = ':' :: ':' :: toLowerCase (right ++ zone) := by
    simp only [toLowerCase, List.map_cons, colon]
  split at blocked
  · next mapped found => exact .inr (.inr (.inl (elided_mapped zoned read found blocked)))
  · rw [isBlockedIpv6Address_iff plain, lower] at blocked
    rcases blocked with empty | loop | ⟨start, member, within⟩ | ⟨start, member, within⟩
    · left
      have none : toLowerCase (right ++ zone) = [] := (List.cons.inj (List.cons.inj empty).2).2
      have bare : right = [] := (List.append_eq_nil_iff.mp (List.map_eq_nil_iff.mp none)).1
      rw [bare] at read
      cases read
      rfl
    · right
      left
      have one : toLowerCase (right ++ zone) = ['1'] := (List.cons.inj (List.cons.inj loop).2).2
      have bare : right = ['1'] := by
        have within : ['1'] <+: toLowerCase right := prefix_zone (by decide) zoned (by rw [one])
        obtain ⟨rest, rfl⟩ := prefix_caseless (by simp) within
        rw [toLowerCase_append, toLowerCase_append] at one
        have none : toLowerCase rest = [] := by
          have sizes := congrArg List.length one
          simp only [List.length_append, toLowerCase, List.length_map, List.length_cons, List.length_nil] at sizes
          exact List.length_eq_zero_iff.mp (by simp only [toLowerCase, List.length_map]; omega)
        rw [List.map_eq_nil_iff.mp none]
        rfl
      rw [bare] at read
      have single : groupsOf (fields ['1']) = some [1] := by decide
      cases read.symm.trans single
      rfl
    · exfalso
      have letters : ∀ start ∈ [[15, 12], [15, 13], [15, 14, 8, 0], [15, 15]],
          ((start : List Nat).map Nat.digitChar).head? = some 'f' := by decide
      obtain ⟨others, shape⟩ := List.head?_eq_some_iff.mp (letters start member)
      rw [shape, List.cons_prefix_cons] at within
      exact absurd within.1 (by decide)
    · rw [colonPrefixes_eq] at member
      obtain ⟨last, inside, rfl⟩ := List.mem_map.mp member
      rw [List.cons_prefix_cons, List.cons_prefix_cons] at within
      have unzoned : ∀ last ∈ mappedStarts, '%' ∉ "ffff:".toList ++ last := by simp [mappedStarts]
      have known := prefix_zone (unzoned last inside) zoned within.2.2
      exact .inr (.inr (elided_inside inside read few known))

end Elisions

section Spelled
variable {number : Coercion} {text : Text} {groups : List Nat}

/-- The digits of some groups, with colons between them. -/
def spelled (digits : List (List Nat)) : Text := [':'].intercalate (digits.map (·.map Nat.digitChar))

variable {digits : List (List Nat)}

theorem group_characters {group : List Nat} (shape : IsGroup group) {character : Char}
    (member : character ∈ group.map Nat.digitChar) : (hexDigit character).isSome = true := by
  obtain ⟨digit, inside, rfl⟩ := List.mem_map.mp member
  rw [hexDigit_digitChar (shape.digits digit inside)]
  rfl

theorem spelled_cons (group next : List Nat) (rest : List (List Nat)) :
    spelled (group :: next :: rest) = group.map Nat.digitChar ++ ':' :: spelled (next :: rest) := by
  simp only [spelled, List.map_cons, List.intercalate_cons_cons, List.append_assoc, List.singleton_append]

theorem splitOn_spelled (groups : ∀ group ∈ digits, IsGroup group) (some : digits ≠ []) :
    (spelled digits).splitOn ':' = digits.map (·.map Nat.digitChar) := by
  apply List.splitOn_intercalate
  · intro field member colon
    obtain ⟨group, inside, rfl⟩ := List.mem_map.mp member
    exact absurd (group_characters (groups group inside) colon) (by decide)
  · simpa using some

theorem spelled_plain (groups : ∀ group ∈ digits, IsGroup group) : '%' ∉ spelled digits := by
  intro percent
  rcases mem_intercalate percent with same | ⟨field, member, here⟩
  · cases same
  · obtain ⟨group, inside, rfl⟩ := List.mem_map.mp member
    exact absurd (group_characters (groups group inside) here) (by decide)

theorem groupsOf_spelled (groups : ∀ group ∈ digits, IsGroup group) :
    groupsOf (digits.map (·.map Nat.digitChar)) = some (digits.map hexValue) := by
  induction digits with
  | nil => rfl
  | cons group rest ih =>
    have first := hexGroup_digits_eq (groups group List.mem_cons_self)
    have later := ih fun other member => groups other (List.mem_cons_of_mem _ member)
    cases rest with
    | nil =>
      simp only [List.map_cons, List.map_nil, groupsOf, first]
      rfl
    | cons next others =>
      simp only [List.map_cons, groupsOf, first] at later ⊢
      rw [later]
      rfl

theorem cut_spelled (groups : ∀ group ∈ digits, IsGroup group) (some : digits ≠ []) : cut (spelled digits) = none := by
  cases cutting : cut (spelled digits) with
  | none => rfl
  | some parts =>
    exfalso
    have split := splitOn_spelled groups some
    rw [cut_some cutting, List.splitOn_append_cons_self] at split
    have empty : [] ∈ digits.map (·.map Nat.digitChar) := by
      rw [← split, List.splitOn_cons_eq_if_modifyHead]
      simp
    obtain ⟨group, member, none⟩ := List.mem_map.mp empty
    have shape := groups group member
    rw [List.map_eq_nil_iff.mp none] at shape
    exact absurd shape.nonempty (by decide)

/-- A text with a colon and without a zone denotes what its groups are. -/
theorem denoted_body (colon : ':' ∈ text) (plain : '%' ∉ text) (body : ipv6Body text = some groups) :
    denoted text = some (.ipv6 groups) := by
  have other : ipv4 text = none := by
    cases read : ipv4 text with
    | none => rfl
    | some octets =>
      rcases (ipv4_characters read).2 ':' colon with digit | same
      · exact absurd digit (by decide)
      · exact absurd same (by decide)
  have passes : ∀ character ∈ text, decide (character ≠ '%') = true := by
    intro character member
    apply decide_eq_true
    rintro rfl
    exact plain member
  have taken : text.takeWhile (· ≠ '%') = text := List.takeWhile_eq_self_iff.mpr passes
  have dropped : text.dropWhile (· ≠ '%') = [] := List.dropWhile_eq_nil_iff.mpr passes
  have read : ipv6 text = some groups := by
    rw [ipv6, dropped, taken]
    exact body
  simp only [denoted, other, read, Option.map_some]

theorem spelled_whole (groups : ∀ group ∈ digits, IsGroup group) (eight : digits.length = 8) :
    denoted (spelled digits) = some (.ipv6 (digits.map hexValue)) := by
  have nonempty : digits ≠ [] := by
    rintro rfl
    cases eight
  have split := splitOn_spelled groups nonempty
  apply denoted_body
  · have count := length_splitOn ':' (spelled digits)
    rw [split, List.length_map, eight] at count
    exact List.count_pos_iff.mp (by omega)
  · exact spelled_plain groups
  · rw [ipv6Body, cut_spelled groups nonempty, split, groupsOf_spelled groups]
    exact Option.filter_some.trans (if_pos (by simp [eight]))

theorem spelled_elided (shapes : ∀ group ∈ digits, IsGroup group) (nonempty : digits ≠ []) (few : digits.length ≤ 7) :
    denoted (':' :: ':' :: spelled digits) =
      some (.ipv6 (List.replicate (8 - digits.length) 0 ++ digits.map hexValue)) := by
  apply denoted_body
  · exact List.mem_cons_self
  · intro percent
    simp only [List.mem_cons] at percent
    rcases percent with same | same | inside
    · cases same
    · cases same
    · exact spelled_plain shapes inside
  · have text : spelled digits ≠ [] := by
      intro none
      have split := splitOn_spelled shapes nonempty
      rw [none, List.splitOn_nil] at split
      cases digits with
      | nil => exact nonempty rfl
      | cons group rest =>
        have shape := shapes group List.mem_cons_self
        have first : [] = group.map Nat.digitChar := (List.cons.inj split).1
        rw [List.map_eq_nil_iff.mp first.symm] at shape
        exact absurd shape.nonempty (by decide)
    have behind : groupsOf (fields (spelled digits)) = some (digits.map hexValue) := by
      rw [fields, if_neg text, splitOn_spelled shapes nonempty, groupsOf_spelled shapes]
    have before : (fields []).mapM hexGroup = some [] := rfl
    simp only [ipv6Body, cut, before, behind, Option.bind_eq_bind, Option.bind_some, List.length_nil, List.length_map,
      Nat.zero_add, if_pos few, Nat.sub_zero, List.nil_append]

theorem ipv6_plain {address : Host} {groups : List Nat} (read : denoted text = some address) (kind : address = .ipv6 groups) :
    ipv6 text = some groups ∧ isIP text = 6 ∧ ∀ character ∈ text, isPlain character = true := by
  subst kind
  unfold denoted at read
  split at read
  · cases read
  · next other =>
    obtain ⟨found, parsed, same⟩ := Option.map_eq_some_iff.mp read
    cases same
    refine ⟨parsed, ?_, (ipv6_shape (by rw [parsed]; rfl)).2⟩
    rw [isIP, other, parsed]
    rfl

/-- The check of a spelling that starts with digits. -/
theorem spelled_blocked {group : List Nat} {rest : List (List Nat)} (shapes : ∀ other ∈ group :: rest, IsGroup other)
    (more : rest ≠ []) (read : denoted (spelled (group :: rest)) = some (.ipv6 groups)) :
    isBlockedIpAddress number (spelled (group :: rest)) = true ↔ prefixed group := by
  obtain ⟨parsed, six, plain⟩ := ipv6_plain read rfl
  have shape := shapes group List.mem_cons_self
  have lower : toLowerCase (group.map Nat.digitChar) = group.map Nat.digitChar := by
    have table : ∀ digit < 16, (Nat.digitChar digit).toLower = Nat.digitChar digit := by decide
    rw [toLowerCase, List.map_map]
    apply List.map_congr_left
    intro digit member
    exact table digit (shape.digits digit member)
  have text : ∃ behind, spelled (group :: rest) = group.map Nat.digitChar ++ ':' :: behind := by
    cases rest with
    | nil => exact absurd rfl more
    | cons next others => exact ⟨spelled (next :: others), spelled_cons group next others⟩
  obtain ⟨behind, text⟩ := text
  have colon : Char.toLower ':' = ':' := by decide
  have starts : toLowerCase (spelled (group :: rest)) = group.map Nat.digitChar ++ ':' :: toLowerCase behind := by
    rw [text, toLowerCase_append, lower]
    simp only [toLowerCase, List.map_cons, colon]
  obtain ⟨unmapped, blocked⟩ := startsWith_blocked plain shape starts
  rw [isBlockedIpAddress, if_neg (by rw [six]; decide), if_pos six, unmapped]
  exact blocked

end Spelled

section Reading
variable (number : Coercion)

/-- The reserved IPv6 addresses: unspecified, loopback, unique local, link local, multicast, and
those with a blocked IPv4 address in them. -/
def reserved : Host → Prop
  | .ipv6 groups =>
      groups = [0, 0, 0, 0, 0, 0, 0, 0] ∨ groups = [0, 0, 0, 0, 0, 0, 0, 1] ∨ mappedBlocked number groups ∨
        ∃ first rest, groups = first :: rest ∧
          (0xfc00 ≤ first ∧ first ≤ 0xfdff ∨ 0xfe80 ≤ first ∧ first ≤ 0xfebf ∨ 0xff00 ≤ first)
  | _ => False

/-- The addresses with a spelling that is misread. -/
def Misread : Host → Prop
  | .ipv6 groups =>
      groups = [0, 0, 0, 0, 0, 0, 0, 0] ∨ groups = [0, 0, 0, 0, 0, 0, 0, 1] ∨ mappedBlocked number groups ∨
        elidedZero groups ∨
          ∃ first rest, groups = first :: rest ∧ (0xfe81 ≤ first ∧ first ≤ 0xfebf ∨ shortBlocked first)
  | _ => False

/-- All spellings of an address are read alike, a reserved address is blocked in all of them, and
no URL with such a host, which its parser writes in lower case, is accepted. -/
structure ReadAlike (address : Host) : Prop where
  alike : ∀ text other, denoted text = some address → denoted other = some address →
    isBlockedIpAddress number text = isBlockedIpAddress number other
  blocked : reserved number address → ∀ text, denoted text = some address → isBlockedIpAddress number text = true
  refused : reserved number address → ∀ api rawUrl environment normalizedUrl url text,
    assertWebhookUrlShapeAllowed number api rawUrl environment = .ok normalizedUrl → api.parse rawUrl = some url →
    denoted text = some address → toLowerCase text = text → url.hostname ≠ '[' :: text ++ [']']

variable {number} {text : Text} {groups : List Nat}

/-- The check of an address that is not misread. -/
theorem blocked_iff_reserved (read : denoted text = some (.ipv6 groups)) (sound : ¬Misread number (.ipv6 groups)) :
    isBlockedIpAddress number text = true ↔ reserved number (.ipv6 groups) := by
  obtain ⟨parsed, six, plain⟩ := ipv6_plain read rfl
  simp only [Misread, not_or] at sound
  obtain ⟨unspecified, loopback, unmapped, apart, first⟩ := sound
  have classes : reserved number (.ipv6 groups) ↔ ∃ group rest, groups = group :: rest ∧
      (0xfc00 ≤ group ∧ group ≤ 0xfdff ∨ 0xfe80 ≤ group ∧ group ≤ 0xfebf ∨ 0xff00 ≤ group) := by
    simp only [reserved, unspecified, loopback, unmapped, false_or]
  rw [classes]
  rcases ipv6_forms parsed with ⟨digits, rest, others, group, lower, rfl⟩ | elided
  · obtain ⟨other, blocked⟩ := startsWith_blocked plain group lower
    have long : ¬shortBlocked (hexValue digits) := fun short => first ⟨_, _, rfl, .inr short⟩
    have linkLocal : ¬(0xfe81 ≤ hexValue digits ∧ hexValue digits ≤ 0xfebf) := fun within =>
      first ⟨_, _, rfl, .inl within⟩
    rw [isBlockedIpAddress, if_neg (by rw [six]; decide), if_pos six, other]
    change isBlockedIpv6Address text = true ↔ _
    rw [blocked, prefixed_iff group long, firstBlocked]
    constructor
    · intro inside
      exact ⟨_, _, rfl, by omega⟩
    · rintro ⟨_, _, same, inside⟩
      cases same
      omega
  · constructor
    · intro blocked
      rcases elided_blocked plain elided six blocked with none | one | mapped | zero
      · exact absurd none unspecified
      · exact absurd one loopback
      · exact absurd mapped unmapped
      · exact absurd zero apart
    · rintro ⟨group, rest, same, inside⟩
      exfalso
      obtain ⟨_, _, behind, -, -, -, -, few, joined⟩ := elided
      rw [joined] at same
      obtain ⟨more, count⟩ : ∃ more, 8 - behind.length = more + 1 := ⟨7 - behind.length, by omega⟩
      rw [count, List.replicate_succ, List.cons_append] at same
      obtain ⟨rfl, -⟩ := List.cons.inj same
      omega

theorem groupsOf_bounded {fields : List Text} (read : groupsOf fields = some groups) : ∀ group ∈ groups, group < 65536 := by
  induction fields generalizing groups with
  | nil =>
    cases read
    exact fun group member => by cases member
  | cons first rest ih =>
    cases rest with
    | nil =>
      cases head : hexGroup first with
      | some group =>
        rw [groupsOf, head] at read
        have one : [group] = groups := Option.some.inj read
        obtain ⟨digits, shape, -, rfl⟩ := hexGroup_some head
        rw [← one]
        simpa using hexValue_lt shape
      | none =>
        rw [groupsOf, head] at read
        have pair : (ipv4 first).map embedded = some groups := read
        obtain ⟨octets, dotted, rfl⟩ := Option.map_eq_some_iff.mp pair
        obtain ⟨_, _, _, _, a, b, c, d, -, one, two, three, four, rfl⟩ := ipv4_fields dotted
        have bounds := And.intro (octet_bound one).2.1 (And.intro (octet_bound two).2.1
          (And.intro (octet_bound three).2.1 (octet_bound four).2.1))
        simp only [embedded, List.mem_cons, List.not_mem_nil, or_false, forall_eq_or_imp, forall_eq]
        omega
    | cons next others =>
      simp only [groupsOf, Option.bind_eq_bind, Option.bind_eq_some_iff, Option.pure_def, Option.some.injEq] at read
      obtain ⟨group, head, groups', tail, rfl⟩ := read
      obtain ⟨digits, shape, -, rfl⟩ := hexGroup_some head
      intro other member
      rcases List.mem_cons.mp member with rfl | later
      · exact hexValue_lt shape
      · exact ih tail other later

theorem mapM_bounded {fields : List Text} (read : fields.mapM hexGroup = some groups) : ∀ group ∈ groups, group < 65536 := by
  induction fields generalizing groups with
  | nil =>
    cases read
    exact fun group member => by cases member
  | cons first rest ih =>
    rw [List.mapM_cons] at read
    simp only [Option.bind_eq_bind, Option.bind_eq_some_iff, Option.pure_def, Option.some.injEq] at read
    obtain ⟨group, head, groups', tail, rfl⟩ := read
    obtain ⟨digits, shape, -, rfl⟩ := hexGroup_some head
    intro other member
    rcases List.mem_cons.mp member with rfl | later
    · exact hexValue_lt shape
    · exact ih tail other later

/-- The eight groups of an address. -/
theorem ipv6_groups (read : ipv6 text = some groups) : groups.length = 8 ∧ ∀ group ∈ groups, group < 65536 := by
  have body : ipv6Body (text.takeWhile (· ≠ '%')) = some groups := by
    unfold ipv6 at read
    split at read
    · exact read
    · cases read
  unfold ipv6Body at body
  split at body
  · obtain ⟨whole, eight⟩ := Option.filter_eq_some_iff.mp body
    exact ⟨of_decide_eq_true eight, groupsOf_bounded whole⟩
  · simp only [Option.bind_eq_bind, Option.bind_eq_some_iff] at body
    obtain ⟨before, head, behind, tail, joined⟩ := body
    split at joined
    · next few =>
      cases joined
      constructor
      · simp only [List.length_append, List.length_replicate]
        omega
      · intro group member
        simp only [List.mem_append, List.mem_replicate] at member
        rcases member with (first | ⟨-, rfl⟩) | last
        · exact mapM_bounded head group first
        · decide
        · exact groupsOf_bounded tail group last
    · cases joined

theorem ipv4_alike {other : Text} {octets : List Nat} (read : denoted text = some (.ipv4 octets))
    (read' : denoted other = some (.ipv4 octets)) :
    isBlockedIpAddress number text = isBlockedIpAddress number other := by
  have ipv4s : ∀ text, denoted text = some (.ipv4 octets) → ipv4 text = some octets := by
    intro text read
    unfold denoted at read
    split at read
    · next parsed =>
      cases read
      exact parsed
    · obtain ⟨_, _, same⟩ := Option.map_eq_some_iff.mp read
      cases same
  have first := ipv4s text read
  have second := ipv4s other read'
  obtain ⟨_, _, _, _, a, b, c, d, -, -, -, -, -, rfl⟩ := ipv4_fields first
  have four : ∀ text, ipv4 text = some [a, b, c, d] → isBlockedIpAddress number text = blockedOctets a b := by
    intro text parsed
    rw [isBlockedIpAddress, if_pos (by rw [isIP, parsed]; rfl), isBlockedIpv4Address_eq parsed]
  rw [four text first, four other second]

/-- The host of a URL is checked as the address between its brackets. -/
theorem bracketed_blocked (six : isIP text ≠ 0) (lower : toLowerCase text = text)
    (blocked : isBlockedIpAddress number text = true) : isBlockedHostname number ('[' :: text ++ [']']) = true := by
  have brackets : Char.toLower '[' = '[' ∧ Char.toLower ']' = ']' := by decide
  have same : toLowerCase ('[' :: text ++ [']']) = '[' :: text ++ [']'] := by
    rw [List.cons_append, toLowerCase, List.map_cons, List.map_append, ← toLowerCase, lower]
    simp only [List.map_cons, List.map_nil, brackets]
  have last : ('[' :: text ++ [']']).getLast? = some ']' := List.getLast?_concat
  have undotted : stripDot ('[' :: text ++ [']']) = '[' :: text ++ [']'] := by
    rw [stripDot, last, if_neg (by decide)]
  have bare : stripBrackets ('[' :: text ++ [']']) = text := by
    rw [stripBrackets, List.cons_append, List.head?_cons, if_pos rfl, List.tail_cons, List.getLast?_concat, if_pos rfl,
      List.dropLast_concat]
  rw [isBlockedHostname, same, undotted, bare]
  simp only [six, ne_eq, not_false_eq_true, if_true, blocked, ite_self]

theorem padded_groups (bounds : ∀ group ∈ groups, group < 65536) :
    (groups.map paddedDigits).map hexValue = groups ∧ ∀ digits ∈ groups.map paddedDigits, IsGroup digits := by
  constructor
  · rw [List.map_map]
    refine (List.map_congr_left ?_).trans (List.map_id groups)
    intro group member
    exact (paddedDigits_group (bounds group member)).2
  · intro digits member
    obtain ⟨group, inside, rfl⟩ := List.mem_map.mp member
    exact (paddedDigits_group (bounds group inside)).1

/-- An elision in front of `ffff:0:` is blocked. -/
theorem elidedZero_blocked {zeros : Nat} {rest : List Nat} (some : 1 ≤ zeros) (few : zeros ≤ 5)
    (eight : (List.replicate zeros 0 ++ 0xffff :: 0 :: rest).length = 8) (bounds : ∀ group ∈ rest, group < 65536) :
    ∃ text, denoted text = Option.some (.ipv6 (List.replicate zeros 0 ++ 0xffff :: 0 :: rest)) ∧
      isBlockedIpAddress number text = true := by
  simp only [List.length_append, List.length_replicate, List.length_cons] at eight
  obtain ⟨same, padded⟩ := padded_groups bounds
  have shapes : ∀ digits ∈ [15, 15, 15, 15] :: [0] :: rest.map paddedDigits, IsGroup digits := by
    intro digits member
    rcases List.mem_cons.mp member with rfl | member
    · exact ⟨by decide, by decide, by decide⟩
    · rcases List.mem_cons.mp member with rfl | member
      · exact ⟨by decide, by decide, by decide⟩
      · exact padded digits member
  have read := spelled_elided shapes (List.cons_ne_nil _ _)
    (by simp only [List.length_cons, List.length_map]; omega)
  have count : 8 - ([15, 15, 15, 15] :: [0] :: rest.map paddedDigits).length = zeros := by
    simp only [List.length_cons, List.length_map]
    omega
  rw [count, List.map_cons, List.map_cons, same] at read
  refine ⟨_, read, ?_⟩
  obtain ⟨-, six, plain⟩ := ipv6_plain read rfl
  obtain ⟨behind, start⟩ : ∃ behind, spelled ([15, 15, 15, 15] :: [0] :: rest.map paddedDigits) =
      "ffff:0:".toList ++ behind := by
    cases rest with
    | nil =>
      simp only [List.length_nil] at eight
      omega
    | cons next others =>
      refine ⟨spelled (paddedDigits next :: others.map paddedDigits), ?_⟩
      have letters : "ffff:0:".toList = ['f', 'f', 'f', 'f', ':', '0', ':'] := by decide
      have digits : [15, 15, 15, 15].map Nat.digitChar = ['f', 'f', 'f', 'f'] ∧ [0].map Nat.digitChar = ['0'] := by decide
      rw [List.map_cons, spelled_cons, spelled_cons, digits.1, digits.2, letters]
      rfl
  have dotless : '.' ∉ ':' :: ':' :: spelled ([15, 15, 15, 15] :: [0] :: rest.map paddedDigits) := by
    intro dot
    simp only [List.mem_cons] at dot
    rcases dot with same | same | inside
    · cases same
    · cases same
    · rcases mem_intercalate inside with same | ⟨field, member, here⟩
      · cases same
      · obtain ⟨group, within, rfl⟩ := List.mem_map.mp member
        exact absurd (group_characters (shapes group within) here) (by decide)
  have unmapped : mappedIpv4 (':' :: ':' :: spelled ([15, 15, 15, 15] :: [0] :: rest.map paddedDigits)) = none := by
    rw [mappedIpv4, if_neg]
    rintro ⟨-, four, -⟩
    rw [length_splitOn] at four
    have dot : '.' ∈ List.drop 7 (':' :: ':' :: spelled ([15, 15, 15, 15] :: [0] :: rest.map paddedDigits)) :=
      List.count_pos_iff.mp (by omega)
    exact dotless (List.mem_of_mem_drop dot)
  rw [isBlockedIpAddress, if_neg (by rw [six]; decide), if_pos six, unmapped]
  change isBlockedIpv6Address _ = true
  rw [isBlockedIpv6Address_iff plain]
  refine .inr (.inr (.inr ⟨"::ffff:0:".toList, by decide, ?_⟩))
  have lower : toLowerCase ("::ffff:0:".toList ++ behind) = "::ffff:0:".toList ++ toLowerCase behind := by
    rw [toLowerCase_append]
    congr 1
  have text : ':' :: ':' :: ("ffff:0:".toList ++ behind) = "::ffff:0:".toList ++ behind := by
    have letters : "::ffff:0:".toList = ':' :: ':' :: "ffff:0:".toList := by decide
    rw [letters]
    rfl
  rw [start, text, lower]
  exact List.prefix_append _ _

/-- All spellings of an address are read alike, and a reserved one is blocked in all of them, exactly
when the address is none of those that the check misreads in some spelling. -/
theorem blocked_spellings (number : Coercion) (address : Host) (read : ∃ text, denoted text = some address) :
    ReadAlike number address ↔ ¬Misread number address := by
  obtain ⟨text, read⟩ := read
  cases address with
  | name host =>
    unfold denoted at read
    split at read
    · cases read
    · obtain ⟨_, _, same⟩ := Option.map_eq_some_iff.mp read
      cases same
  | ipv4 octets =>
    refine ⟨fun _ => id, fun _ => ⟨?_, fun impossible => impossible.elim, fun impossible => impossible.elim⟩⟩
    exact fun text other read read' => ipv4_alike read read'
  | ipv6 groups =>
    constructor
    · rintro ⟨alike, blocked, -⟩ misread
      obtain ⟨eight, bounds⟩ := ipv6_groups (ipv6_plain read rfl).1
      cases groups with
      | nil => cases eight
      | cons first rest =>
        obtain ⟨same, shapes⟩ := padded_groups bounds
        have padded := spelled_whole shapes ((List.length_map _).trans eight)
        rw [same] at padded
        rw [List.map_cons] at shapes padded
        have more : rest.map paddedDigits ≠ [] := by
          intro none
          rw [List.map_eq_nil_iff.mp none] at eight
          cases eight
        obtain ⟨group, value⟩ := paddedDigits_group (bounds first List.mem_cons_self)
        have unblocked : ¬firstBlocked first → isBlockedIpAddress number (spelled (paddedDigits first :: rest.map paddedDigits)) ≠ true := by
          intro high test
          have start := (spelled_blocked shapes more padded).mp test
          rw [prefixed_four group rfl, value] at start
          exact high start
        have low : ¬firstBlocked 0 := by
          unfold firstBlocked
          omega
        rcases misread with none | one | mapped | zero | ⟨_, _, split, high | short⟩
        · obtain ⟨rfl, -⟩ := List.cons.inj none
          exact unblocked low (blocked (.inl none) _ padded)
        · obtain ⟨rfl, -⟩ := List.cons.inj one
          exact unblocked low (blocked (.inr (.inl one)) _ padded)
        · obtain ⟨third, fourth, shape, -⟩ := id mapped
          obtain ⟨rfl, -⟩ := List.cons.inj shape
          exact unblocked low (blocked (.inr (.inr (.inl mapped))) _ padded)
        · obtain ⟨zeros, others, some, few, shape⟩ := zero
          have zeroFirst : first = 0 := by
            obtain ⟨count, rfl⟩ : ∃ count, zeros = count + 1 := ⟨zeros - 1, by omega⟩
            rw [List.replicate_succ, List.cons_append] at shape
            exact (List.cons.inj shape).1
          rw [shape] at eight bounds padded alike
          obtain ⟨other, spelling, test⟩ := @elidedZero_blocked number _ _ some few eight
            (fun group member => bounds group (by simp [member]))
          have plain := alike _ _ padded spelling
          rw [test] at plain
          exact unblocked (zeroFirst ▸ low) plain
        · obtain ⟨rfl, rfl⟩ := List.cons.inj split
          have linkLocal : reserved number (.ipv6 (first :: rest)) :=
            .inr (.inr (.inr ⟨first, rest, rfl, .inr (.inl ⟨by omega, high.2⟩)⟩))
          refine unblocked ?_ (blocked linkLocal _ padded)
          unfold firstBlocked
          omega
        · obtain ⟨rfl, rfl⟩ := List.cons.inj split
          obtain ⟨digits, shape, value', start⟩ := shortBlocked_digits short
          have shapes' : ∀ other ∈ digits :: rest.map paddedDigits, IsGroup other := by
            intro other member
            rcases List.mem_cons.mp member with rfl | later
            · exact shape
            · exact shapes other (List.mem_cons_of_mem _ later)
          have short' := spelled_whole shapes' (by simpa using eight)
          rw [List.map_cons] at same
          rw [List.map_cons, value', (List.cons.inj same).2] at short'
          have test := (@spelled_blocked number _ _ _ shapes' more short').mpr start
          rw [alike _ _ short' padded] at test
          refine unblocked ?_ test
          unfold firstBlocked
          unfold shortBlocked at short
          omega
    · intro sound
      have blocked : reserved number (.ipv6 groups) → ∀ text, denoted text = some (.ipv6 groups) →
          isBlockedIpAddress number text = true := fun inside text read => (blocked_iff_reserved read sound).mpr inside
      refine ⟨?_, blocked, ?_⟩
      · intro text other read read'
        rw [Bool.eq_iff_iff, blocked_iff_reserved read sound, blocked_iff_reserved read' sound]
      · intro inside api rawUrl environment normalizedUrl url text accepted parsed read lower host
        obtain ⟨found, parsed', approved, -⟩ := assertWebhookUrlShapeAllowed_ok_iff.mp accepted
        cases parsed.symm.trans parsed'
        have six : isIP text ≠ 0 := by
          rw [(ipv6_plain read rfl).2.1]
          decide
        have test := bracketed_blocked six lower (blocked inside text read)
        rw [← host, approved.hostname] at test
        cases test

theorem blocked_spellings_uniqueLocal : ReadAlike plainNumbers (.ipv6 [0xfd00, 0, 0, 0, 0, 0, 0, 1]) ↔
    ¬Misread plainNumbers (.ipv6 [0xfd00, 0, 0, 0, 0, 0, 0, 1]) :=
  blocked_spellings plainNumbers _ ⟨"fd00::1".toList, by decide⟩

/-- The loopback address of IPv4 in hexadecimal groups, as the URL parser writes it. -/
theorem mapped_loopback_accepted :
    ¬ReadAlike plainNumbers (.ipv6 [0, 0, 0, 0, 0, 0xffff, 0x7f00, 1]) ∧
      isBlockedIpAddress plainNumbers "::ffff:127.0.0.1".toList = true ∧
      isBlockedIpAddress plainNumbers "::ffff:7f00:1".toList = false ∧
      assertWebhookUrlShapeAllowed plainNumbers (listedApi [siteUrl "[::ffff:7f00:1]" "/"])
        "https://[::ffff:7f00:1]/".toList "production" = .ok "https://[::ffff:7f00:1]/".toList := by
  refine ⟨?_, by decide, by decide, by decide⟩
  intro alike
  have blocked := alike.blocked (.inr (.inr (.inl ⟨0x7f00, 1, rfl, by decide⟩))) "::ffff:7f00:1".toList (by decide)
  exact absurd blocked (by decide)

end Reading

end PactAgent.Webhooks.Security
