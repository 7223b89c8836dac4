import Mathlib

/-! Texts of network addresses: dotted IPv4, IPv6 with one elision, an embedded IPv4 address and
a zone, and the authority of a request target. -/

namespace PactAgent.Foundation.Address

abbrev Text := List Char

section Syntax

def isDigit (character : Char) : Bool := '0' ≤ character && character ≤ '9'

def decimal (digits : Text) : Nat := digits.foldl (fun value digit => 10 * value + (digit.toNat - 48)) 0

/-- A number up to 255, without leading zeros. -/
def octet (text : Text) : Option Nat :=
  if text ≠ [] ∧ text.all isDigit ∧ text.length ≤ 3 ∧ (text.head? = some '0' → text.length = 1) ∧ decimal text ≤ 255 then
    some (decimal text)
  else none

/-- The four numbers of a dotted address. -/
def ipv4 (text : Text) : Option (List Nat) :=
  match text.splitOn '.' with
  | [first, second, third, fourth] => do
      return [← octet first, ← octet second, ← octet third, ← octet fourth]
  | _ => none

def hexDigit (character : Char) : Option Nat :=
  if isDigit character then some (character.toNat - 48)
  else if 'a' ≤ character ∧ character ≤ 'f' then some (character.toNat - 87)
  else if 'A' ≤ character ∧ character ≤ 'F' then some (character.toNat - 55)
  else none

/-- One to four hexadecimal digits in any case. -/
def hexGroup (text : Text) : Option Nat :=
  if 1 ≤ text.length ∧ text.length ≤ 4 then
    (text.mapM hexDigit).map fun digits => digits.foldl (fun value digit => 16 * value + digit) 0
  else none

/-- A dotted address as two groups. -/
def embedded (octets : List Nat) : List Nat :=
  match octets with
  | [first, second, third, fourth] => [256 * first + second, 256 * third + fourth]
  | _ => []

/-- The groups of an address; the last of them may be a dotted address. -/
def groupsOf : List Text → Option (List Nat)
  | [] => some []
  | [last] => (hexGroup last).map (fun group => [group]) <|> (ipv4 last).map embedded
  | group :: rest => do return (← hexGroup group) :: (← groupsOf rest)

/-- What stands before and behind the first double colon. -/
def cut : Text → Option (Text × Text)
  | ':' :: ':' :: rest => some ([], rest)
  | character :: rest => (cut rest).map fun parts => (character :: parts.1, parts.2)
  | [] => none

def fields (text : Text) : List Text := if text = [] then [] else text.splitOn ':'

/-- The eight groups of an address without a zone. -/
def ipv6Body (text : Text) : Option (List Nat) :=
  match cut text with
  | none => (groupsOf (text.splitOn ':')).filter fun groups => groups.length = 8
  | some (left, right) => do
      let before ← (fields left).mapM hexGroup
      let behind ← groupsOf (fields right)
      if before.length + behind.length ≤ 7 then
        some (before ++ List.replicate (8 - before.length - behind.length) 0 ++ behind)
      else none

def isZone (text : Text) : Bool :=
  match text with
  | [] => true
  | '%' :: zone => zone ≠ [] && zone.all fun character => character.isAlphanum || character = '-' || character = '.' || character = ':'
  | _ => false

def ipv6 (text : Text) : Option (List Nat) :=
  if isZone (text.dropWhile (· ≠ '%')) then ipv6Body (text.takeWhile (· ≠ '%')) else none

/-- `net.isIP`. -/
def isIP (text : Text) : Nat :=
  if (ipv4 text).isSome then 4 else if (ipv6 text).isSome then 6 else 0

end Syntax

section Authority

/-- What stands in the place of a host. -/
inductive Host
  | ipv4 (octets : List Nat)
  | ipv6 (groups : List Nat)
  | name (text : Text)
  deriving DecidableEq

def hostOf (text : Text) : Host :=
  match ipv4 text with
  | some octets => .ipv4 octets
  | none => .name text

/-- Nothing, or a colon and a number. -/
def portOf (text : Text) : Option (Option Nat) :=
  match text with
  | [] => some none
  | ':' :: digits => if digits.all isDigit then some (if digits = [] then none else some (decimal digits)) else none
  | _ => none

def portText : Option Nat → Text
  | none => []
  | some port => ':' :: Nat.toDigits 10 port

/-- `host [ ":" port ]`, with IPv6 in brackets. -/
def parseAuthority (text : Text) : Option (Host × Option Nat) :=
  match text with
  | '[' :: rest =>
      match rest.dropWhile (· ≠ ']') with
      | _ :: behind => do return (.ipv6 (← ipv6 (rest.takeWhile (· ≠ ']'))), ← portOf behind)
      | [] => none
  | _ =>
      if text.takeWhile (· ≠ ':') = [] then none
      else (portOf (text.dropWhile (· ≠ ':'))).map fun port => (hostOf (text.takeWhile (· ≠ ':')), port)

/-- The host that the text of an address denotes. -/
def denoted (address : Text) : Option Host :=
  match ipv4 address with
  | some octets => some (.ipv4 octets)
  | none => (ipv6 address).map .ipv6

end Authority

section Characters

theorem octet_digits {text : Text} {value : Nat} (read : octet text = some value) :
    text ≠ [] ∧ ∀ character ∈ text, isDigit character = true := by
  unfold octet at read
  split at read
  · next shape => exact ⟨shape.1, List.all_eq_true.mp shape.2.1⟩
  · cases read

theorem mem_intercalate {separator character : Char} {fields : List Text}
    (member : character ∈ [separator].intercalate fields) :
    character = separator ∨ ∃ field ∈ fields, character ∈ field := by
  induction fields with
  | nil => cases member
  | cons field rest ih =>
    cases rest with
    | nil =>
      rw [List.intercalate_singleton] at member
      exact .inr ⟨field, List.mem_cons_self, member⟩
    | cons next others =>
      rw [List.intercalate_cons_cons, List.mem_append, List.mem_append, List.mem_singleton] at member
      rcases member with (here | same) | later
      · exact .inr ⟨field, List.mem_cons_self, here⟩
      · exact .inl same
      · rcases ih later with same | ⟨other, inside, here⟩
        · exact .inl same
        · exact .inr ⟨other, List.mem_cons_of_mem _ inside, here⟩

theorem mem_splitOn {separator character : Char} {text : Text} (member : character ∈ text) :
    character = separator ∨ ∃ field ∈ text.splitOn separator, character ∈ field := by
  rw [← @List.intercalate_splitOn _ text _ _ separator] at member
  exact mem_intercalate member

theorem length_splitOn (separator : Char) (text : Text) :
    (text.splitOn separator).length = text.count separator + 1 := by
  induction text with
  | nil => rw [List.splitOn_nil, List.count_nil, List.length_singleton]
  | cons character rest ih =>
    rw [List.splitOn_cons_eq_if_modifyHead, List.count_cons]
    split
    · rw [List.length_cons, ih]
    · rw [List.length_modifyHead, ih, Nat.add_zero]

theorem decimal_toDigits (value : Nat) : decimal (Nat.toDigits 10 value) = value :=
  Nat.ofDigitChars_ten_toDigits

theorem isDigit_eq (character : Char) : isDigit character = character.isDigit := by
  rw [isDigit, Char.isDigit]
  rfl

theorem toDigits_digits (value : Nat) : (Nat.toDigits 10 value).all isDigit = true := by
  rw [List.all_eq_true]
  intro digit member
  rw [isDigit_eq]
  exact Nat.isDigit_of_mem_toDigits (by decide) (by decide) member

/-- A dotted address has digits and dots only. -/
theorem ipv4_characters {text : Text} {octets : List Nat} (read : ipv4 text = some octets) :
    text ≠ [] ∧ ∀ character ∈ text, isDigit character = true ∨ character = '.' := by
  have fields : ∀ field ∈ text.splitOn '.', ∃ value, octet field = some value := by
    unfold ipv4 at read
    split at read
    · next first second third fourth split =>
      rw [split]
      simp only [Option.bind_eq_bind, Option.bind_eq_some_iff] at read
      obtain ⟨_, one, _, two, _, three, _, four, -⟩ := read
      simp only [List.mem_cons, List.not_mem_nil, or_false]
      rintro field (rfl | rfl | rfl | rfl) <;> exact ⟨_, ‹_›⟩
    · cases read
  constructor
  · rintro rfl
    cases read
  · intro character member
    rcases @mem_splitOn '.' character text member with same | ⟨field, inside, here⟩
    · exact .inr same
    · obtain ⟨value, digits⟩ := fields field inside
      exact .inl ((octet_digits digits).2 character here)

theorem mapM_some {α β : Type} {read : α → Option β} {list : List α} {values : List β}
    (all : list.mapM read = some values) :
    values.length = list.length ∧ ∀ item ∈ list, (read item).isSome = true := by
  induction list generalizing values with
  | nil =>
    cases all
    exact ⟨rfl, fun item member => by cases member⟩
  | cons head tail ih =>
    rw [List.mapM_cons] at all
    simp only [Option.bind_eq_bind, Option.bind_eq_some_iff, Option.pure_def, Option.some.injEq] at all
    obtain ⟨value, first, rest, others, rfl⟩ := all
    obtain ⟨length, some⟩ := ih others
    refine ⟨congrArg (· + 1) length, ?_⟩
    rintro item member
    rcases List.mem_cons.mp member with rfl | later
    · rw [first]
      rfl
    · exact some item later

theorem hexGroup_digits {text : Text} (read : (hexGroup text).isSome = true) :
    ∀ character ∈ text, (hexDigit character).isSome = true := by
  unfold hexGroup at read
  split at read
  · rw [Option.isSome_map] at read
    obtain ⟨digits, all⟩ := Option.isSome_iff_exists.mp read
    exact (mapM_some all).2
  · cases read

/-- No delimiter of a URL or of an authority, apart from the colon. -/
def isPlain (character : Char) : Bool := character ∉ ['[', ']', '/', '?', '#']

theorem hexGroup_plain {text : Text} (read : (hexGroup text).isSome = true) :
    ∀ character ∈ text, isPlain character = true := by
  intro character member
  have digit := hexGroup_digits read character member
  by_contra bracket
  simp only [isPlain, decide_eq_true_eq, not_not, List.mem_cons, List.not_mem_nil, or_false] at bracket
  rcases bracket with rfl | rfl | rfl | rfl | rfl <;> cases digit

theorem length_embedded (octets : List Nat) : (embedded octets).length ≤ 2 := by
  unfold embedded
  split
  · exact le_rfl
  · exact Nat.zero_le _

theorem groupsOf_some {fields : List Text} {groups : List Nat} (read : groupsOf fields = some groups) :
    groups.length ≤ fields.length + 1 ∧
      ∀ field ∈ fields, (hexGroup field).isSome = true ∨ (ipv4 field).isSome = true := by
  induction fields generalizing groups with
  | nil =>
    cases read
    exact ⟨Nat.zero_le _, fun field member => by cases member⟩
  | cons first rest ih =>
    cases rest with
    | nil =>
      simp only [List.mem_singleton, forall_eq]
      cases head : hexGroup first with
      | some group =>
        rw [groupsOf, head] at read
        have one : [group] = groups := Option.some.inj read
        subst one
        exact ⟨by simp, .inl rfl⟩
      | none =>
        rw [groupsOf, head] at read
        have pair : (ipv4 first).map embedded = some groups := read
        obtain ⟨octets, dotted, rfl⟩ := Option.map_eq_some_iff.mp pair
        exact ⟨length_embedded octets, .inr (by rw [dotted]; rfl)⟩
    | cons next others =>
      simp only [groupsOf, Option.bind_eq_bind, Option.bind_eq_some_iff, Option.pure_def, Option.some.injEq] at read
      obtain ⟨group, head, groups', tail, rfl⟩ := read
      obtain ⟨length, all⟩ := ih tail
      refine ⟨by simpa using length, ?_⟩
      rintro field member
      rcases List.mem_cons.mp member with rfl | later
      · exact .inl (by rw [head]; rfl)
      · exact all field later

theorem groupsOf_plain {fields : List Text} {groups : List Nat} (read : groupsOf fields = some groups) :
    ∀ field ∈ fields, ∀ character ∈ field, isPlain character = true := by
  intro field inside character member
  rcases (groupsOf_some read).2 field inside with hex | dotted
  · exact hexGroup_plain hex character member
  · obtain ⟨octets, dotted⟩ := Option.isSome_iff_exists.mp dotted
    by_contra bracket
    simp only [isPlain, decide_eq_true_eq, not_not, List.mem_cons, List.not_mem_nil, or_false] at bracket
    rcases (ipv4_characters dotted).2 character member with digit | rfl
    · rcases bracket with rfl | rfl | rfl | rfl | rfl <;> cases digit
    · exact absurd bracket (by decide)

theorem cut_some {text left right : Text} (cutting : cut text = some (left, right)) : text = left ++ ':' :: ':' :: right := by
  induction text using cut.induct generalizing left with
  | case1 rest =>
    cases cutting
    rfl
  | case2 character rest apart ih =>
    rw [cut] at cutting
    · obtain ⟨⟨before, behind⟩, inner, same⟩ := Option.map_eq_some_iff.mp cutting
      cases same
      rw [ih inner]
      rfl
    · exact apart
  | case3 => cases cutting

theorem fields_plain {text : Text} (plain : ∀ field ∈ fields text, ∀ character ∈ field, isPlain character = true) :
    ∀ character ∈ text, isPlain character = true := by
  intro character member
  have nonempty : text ≠ [] := List.ne_nil_of_mem member
  rcases @mem_splitOn ':' character text member with rfl | ⟨field, inside, here⟩
  · decide
  · apply plain field _ character here
    rwa [fields, if_neg nonempty]

theorem isZone_plain {text : Text} (zone : isZone text = true) : ∀ character ∈ text, isPlain character = true := by
  unfold isZone at zone
  split at zone
  · exact fun character member => by cases member
  · intro character member
    rcases List.mem_cons.mp member with rfl | inside
    · decide
    · have sign := List.all_eq_true.mp (Bool.and_eq_true_iff.mp zone).2 character inside
      by_contra bracket
      simp only [isPlain, decide_eq_true_eq, not_not, List.mem_cons, List.not_mem_nil, or_false] at bracket
      rcases bracket with rfl | rfl | rfl | rfl | rfl <;> cases sign
  · cases zone

theorem ipv6Body_shape {text : Text} (read : (ipv6Body text).isSome = true) :
    2 ≤ text.count ':' ∧ ∀ character ∈ text, isPlain character = true := by
  obtain ⟨groups, parsed⟩ := Option.isSome_iff_exists.mp read
  clear read
  unfold ipv6Body at parsed
  split at parsed
  · obtain ⟨whole, eight⟩ := Option.filter_eq_some_iff.mp parsed
    have many := (groupsOf_some whole).1
    rw [length_splitOn] at many
    have eight := of_decide_eq_true eight
    refine ⟨by omega, fun character member => ?_⟩
    rcases @mem_splitOn ':' character text member with rfl | ⟨field, inside, here⟩
    · decide
    · exact groupsOf_plain whole field inside character here
  · next left right cutting =>
    obtain rfl := cut_some cutting
    simp only [Option.bind_eq_bind, Option.bind_eq_some_iff] at parsed
    obtain ⟨before, head, behind, tail, -⟩ := parsed
    have first := fields_plain fun field inside => hexGroup_plain ((mapM_some head).2 field inside)
    have last := fields_plain (groupsOf_plain tail)
    constructor
    · rw [List.count_append, List.count_cons_self, List.count_cons_self]
      omega
    · intro character member
      simp only [List.mem_append, List.mem_cons] at member
      rcases member with here | rfl | rfl | here
      · exact first character here
      · decide
      · decide
      · exact last character here

/-- An IPv6 address has two colons at least, and no brackets. -/
theorem ipv6_shape {text : Text} (read : (ipv6 text).isSome = true) :
    2 ≤ text.count ':' ∧ ∀ character ∈ text, isPlain character = true := by
  unfold ipv6 at read
  split at read
  · next zone =>
    obtain ⟨colons, plain⟩ := ipv6Body_shape read
    have split := @List.takeWhile_append_dropWhile _ (fun character => decide (character ≠ '%')) text
    rw [← split, List.count_append]
    refine ⟨by omega, fun character member => ?_⟩
    rcases List.mem_append.mp member with here | here
    · exact plain character here
    · exact isZone_plain zone character here
  · cases read

end Characters

section Parsing

theorem portOf_portText (port : Option Nat) : portOf (portText port) = some port := by
  cases port with
  | none => rfl
  | some port =>
    rw [portText, portOf, if_pos (toDigits_digits port), if_neg Nat.toDigits_ne_nil, decimal_toDigits]

theorem takeWhile_host {host rest : Text} {stop : Char} (inside : ∀ character ∈ host, character ≠ stop)
    (behind : rest = [] ∨ ∃ tail, rest = stop :: tail) :
    (host ++ rest).takeWhile (· ≠ stop) = host ∧ (host ++ rest).dropWhile (· ≠ stop) = rest := by
  have passes : ∀ character ∈ host, decide (character ≠ stop) = true :=
    fun character member => decide_eq_true (inside character member)
  rw [List.takeWhile_append_of_pos passes, List.dropWhile_append_of_pos passes]
  rcases behind with rfl | ⟨tail, rfl⟩
  · exact ⟨List.append_nil _, rfl⟩
  · rw [List.takeWhile_cons_of_neg (by simp), List.dropWhile_cons_of_neg (by simp)]
    exact ⟨List.append_nil _, rfl⟩

/-- A host without brackets and colons, with or without a port. -/
theorem parseAuthority_host {host rest : Text} (nonempty : host ≠ [])
    (plain : ∀ character ∈ host, character ≠ ':' ∧ character ≠ '[') (behind : rest = [] ∨ ∃ tail, rest = ':' :: tail) :
    parseAuthority (host ++ rest) = (portOf rest).map fun port => (hostOf host, port) := by
  obtain ⟨taken, dropped⟩ := takeWhile_host (fun character member => (plain character member).1) behind
  cases host with
  | nil => exact absurd rfl nonempty
  | cons first others =>
    have open' := (plain first List.mem_cons_self).2
    rw [List.cons_append] at taken dropped ⊢
    rw [parseAuthority]
    · rw [taken, dropped, if_neg nonempty]
    · intro _ same
      exact open' (List.cons.inj same).1

theorem parseAuthority_brackets {inner : Text} {groups : List Nat} (rest : Text)
    (inside : ∀ character ∈ inner, character ≠ ']') (read : ipv6 inner = some groups) :
    parseAuthority ('[' :: inner ++ ']' :: rest) = (portOf rest).map fun port => (.ipv6 groups, port) := by
  obtain ⟨taken, dropped⟩ := takeWhile_host inside (.inr ⟨rest, rfl⟩)
  rw [List.cons_append, parseAuthority, dropped]
  simp only [taken, read, Option.bind_eq_bind, Option.bind_some]
  cases portOf rest <;> rfl

/-- A text with two colons and no bracket is no authority. -/
theorem parseAuthority_colons {text : Text} (colons : 2 ≤ text.count ':') (opening : text.head? ≠ some '[') :
    parseAuthority text = none := by
  have split := @List.takeWhile_append_dropWhile _ (fun character => decide (character ≠ ':')) text
  have none : (text.takeWhile (· ≠ ':')).count ':' = 0 := by
    rw [List.count_eq_zero]
    intro member
    simpa using List.mem_takeWhile_imp member
  have port : portOf (text.dropWhile (· ≠ ':')) = Option.none := by
    have many : 2 ≤ (text.dropWhile (· ≠ ':')).count ':' := by
      rw [← split, List.count_append, none] at colons
      omega
    cases dropped : text.dropWhile (· ≠ ':') with
    | nil =>
      rw [dropped] at many
      cases many
    | cons first digits =>
      rw [dropped, List.count_cons] at many
      have inside : ':' ∈ digits := by
        apply List.count_pos_iff.mp
        split at many <;> omega
      by_cases colon : first = ':'
      · subst colon
        rw [portOf, if_neg]
        intro all
        cases List.all_eq_true.mp all ':' inside
      · rw [portOf]
        · intro same
          cases same
        · intro _ same
          exact colon (List.cons.inj same).1
  cases text with
  | nil => cases colons
  | cons first others =>
    rw [parseAuthority]
    · rw [port, Option.map_none, ite_self]
    · intro _ same
      exact opening (congrArg some (List.cons.inj same).1)

end Parsing

end PactAgent.Foundation.Address
