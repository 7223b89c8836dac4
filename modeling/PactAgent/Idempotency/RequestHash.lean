import PactAgent.Foundation.CodeUnits
import PactAgent.Foundation.StableSort

/-! The hash of a request: its method, its path and its body with the keys of every object
sorted. -/

namespace PactAgent.Idempotency.RequestHash
open PactAgent.Foundation PactAgent.Foundation.CodeUnits PactAgent.Foundation.StableSort

/-- A parsed JSON value; an object lists its own properties as the engine does. -/
inductive Value (Number : Type)
  | null
  | bool (value : Bool)
  | number (value : Number)
  | text (value : Units)
  | array (items : List (Value Number))
  | object (fields : List (Units × Value Number))

/-- `localeCompare(left, right) <= 0`. -/
structure Collation where
  le : Units → Units → Bool
  trans : ∀ first second third, le first second = true → le second third = true → le first third = true
  total : ∀ first second, (le first second || le second first) = true

variable {Number : Type} (collation : Collation)

section Enumeration

/-- The number of a key that the engine takes for an array index: the text of that number. -/
def arrayIndex (key : Units) : Option Nat :=
  let value := key.foldl (fun value unit => 10 * value + (unit.toNat - 48)) 0
  if key = ofText (Nat.toDigits 10 value) ∧ value < 2 ^ 32 - 1 then some value else none

def isIndex (key : Units) : Bool := (arrayIndex key).isSome

/-- Array indices come first, in ascending order, and the other keys in the order of their insertion. -/
def enumerate {α : Type} (entries : List (Units × α)) : List (Units × α) :=
  (entries.filter fun entry => isIndex entry.1).mergeSort
      (fun first second => (arrayIndex first.1).getD 0 ≤ (arrayIndex second.1).getD 0) ++
    entries.filter fun entry => !isIndex entry.1

/-- The entries of an object behind the sort and `Object.fromEntries`. -/
def sortEntries {α : Type} (entries : List (Units × α)) : List (Units × α) :=
  enumerate (entries.mergeSort fun left right => collation.le left.1 right.1)

end Enumeration

section Hash

mutual

def sortObject : Value Number → Value Number
  | .array items => .array (sortItems items)
  | .object fields => .object (sortEntries collation (sortFields fields))
  | .null => .null
  | .bool value => .bool value
  | .number value => .number value
  | .text value => .text value

def sortItems : List (Value Number) → List (Value Number)
  | [] => []
  | item :: items => sortObject item :: sortItems items

/-- The sort reads the keys only, and the values may be sorted before it. -/
def sortFields : List (Units × Value Number) → List (Units × Value Number)
  | [] => []
  | (key, value) :: fields => (key, sortObject value) :: sortFields fields

end

/-- The runtime's functions on strings, and the hexadecimal digest. -/
structure Functions (Number : Type) where
  toUpperCase : Units → Units
  stringify : Value Number → Units
  sha256Hex : Units → Units

/-- `body ?? {}`. -/
def bodyOf : Value Number → Value Number
  | .null => .object []
  | body => body

/-- The value whose text is hashed. -/
def hashedValue (functions : Functions Number) (method path : Units) (body : Value Number) : Value Number :=
  .object [(ofText "method".toList, .text (functions.toUpperCase method)), (ofText "path".toList, .text path),
    (ofText "body".toList, sortObject collation (bodyOf body))]

def createRequestHash (functions : Functions Number) (method path : Units) (body : Value Number) : Units :=
  functions.sha256Hex (functions.stringify (hashedValue collation functions method path body))

end Hash

section Equality

mutual

/-- Equality of JSON values, objects as maps without order. -/
def Same : Value Number → Value Number → Prop
  | .null, .null => True
  | .bool first, .bool second => first = second
  | .number first, .number second => first = second
  | .text first, .text second => first = second
  | .array first, .array second => SameItems first second
  | .object first, .object second => first.length = second.length ∧ SameFields first second
  | _, _ => False

def SameItems : List (Value Number) → List (Value Number) → Prop
  | [], [] => True
  | first :: rest, second :: others => Same first second ∧ SameItems rest others
  | _, _ => False

/-- Every key has its value among the other fields. -/
def SameFields : List (Units × Value Number) → List (Units × Value Number) → Prop
  | [], _ => True
  | (key, value) :: fields, others =>
      (∃ other, others.lookup key = some other ∧ Same value other) ∧ SameFields fields others

end

mutual

/-- An object has each key once. -/
def Proper : Value Number → Prop
  | .array items => ProperItems items
  | .object fields => (fields.map Prod.fst).Nodup ∧ ProperFields fields
  | _ => True

def ProperItems : List (Value Number) → Prop
  | [] => True
  | item :: items => Proper item ∧ ProperItems items

def ProperFields : List (Units × Value Number) → Prop
  | [] => True
  | (_, value) :: fields => Proper value ∧ ProperFields fields

end

/-- The keys, array indices apart, that compare equal to one key. -/
def tiedKeys {α : Type} (key : Units) (fields : List (Units × α)) : List Units :=
  ((fields.map Prod.fst).filter fun other => !isIndex other).filter (ties collation.le key)

mutual

/-- Keys that compare equal come in the same order, in every object. -/
def Aligned : Value Number → Value Number → Prop
  | .array first, .array second => AlignedItems first second
  | .object first, .object second =>
      (∀ key, tiedKeys collation key first = tiedKeys collation key second) ∧ AlignedFields first second
  | _, _ => True

def AlignedItems : List (Value Number) → List (Value Number) → Prop
  | first :: rest, second :: others => Aligned first second ∧ AlignedItems rest others
  | _, _ => True

def AlignedFields : List (Units × Value Number) → List (Units × Value Number) → Prop
  | [], _ => True
  | (key, value) :: fields, others =>
      (∀ other, others.lookup key = some other → Aligned value other) ∧ AlignedFields fields others

end

end Equality

section Entries
variable {α : Type} {collation : Collation}

theorem arrayIndex_text {key : Units} {index : Nat} (read : arrayIndex key = some index) :
    key = ofText (Nat.toDigits 10 index) := by
  unfold arrayIndex at read
  dsimp only at read
  split at read
  · next canonical =>
    cases read
    exact canonical.1
  · cases read

theorem enumerate_perm (entries : List (Units × α)) : (enumerate entries).Perm entries := by
  unfold enumerate
  refine List.Perm.trans (List.Perm.append_right _ (List.mergeSort_perm _ _)) ?_
  exact List.filter_append_perm (fun entry => isIndex entry.1) entries

theorem sortEntries_perm (entries : List (Units × α)) : (sortEntries collation entries).Perm entries :=
  (enumerate_perm _).trans (List.mergeSort_perm _ _)

/-- The keys that are no array indices keep the order that they have. -/
theorem filter_enumerate (entries : List (Units × α)) :
    (enumerate entries).filter (fun entry => !isIndex entry.1) = entries.filter fun entry => !isIndex entry.1 := by
  unfold enumerate
  rw [List.filter_append, List.filter_filter]
  simp only [Bool.and_self]
  have indices : ((entries.filter fun entry => isIndex entry.1).mergeSort fun first second =>
      (arrayIndex first.1).getD 0 ≤ (arrayIndex second.1).getD 0).filter (fun entry => !isIndex entry.1) = [] := by
    rw [List.filter_eq_nil_iff]
    intro entry member
    have index := (List.mem_filter.mp ((List.mergeSort_perm _ _).mem_iff.mp member)).2
    simp [index]
  rw [indices, List.nil_append]

theorem tiedKeys_eq (key : Units) (entries : List (Units × α)) :
    tiedKeys collation key entries = ((entries.filter fun entry => !isIndex entry.1).filter
      fun entry => ties collation.le key entry.1).map Prod.fst := by
  unfold tiedKeys
  rw [List.filter_map, List.filter_map]
  rfl

theorem tiedKeys_mergeSort (key : Units) (entries : List (Units × α)) :
    tiedKeys collation key (entries.mergeSort fun left right => collation.le left.1 right.1) =
      tiedKeys collation key entries := by
  have stable := @filter_mergeSort _ (fun left right : Units × α => collation.le left.1 right.1)
    (fun first second third => collation.trans first.1 second.1 third.1)
    (fun first second => collation.total first.1 second.1)
    (fun entry => ties collation.le key entry.1 && !isIndex entry.1) entries ?_
  · rw [tiedKeys_eq, tiedKeys_eq, List.filter_filter, List.filter_filter, stable]
  · intro first second head tail
    rw [Bool.and_eq_true] at head tail
    exact ties_alike collation.trans key first.1 second.1 head.1 tail.1

theorem tiedKeys_sortEntries (key : Units) (entries : List (Units × α)) :
    tiedKeys collation key (sortEntries collation entries) = tiedKeys collation key entries := by
  rw [← tiedKeys_mergeSort key entries, tiedKeys_eq, tiedKeys_eq, sortEntries, filter_enumerate]

theorem sorted_indices (entries : List (Units × α)) :
    (entries.mergeSort fun first second => (arrayIndex first.1).getD 0 ≤ (arrayIndex second.1).getD 0).Pairwise
      fun first second => (arrayIndex first.1).getD 0 ≤ (arrayIndex second.1).getD 0 := by
  have sorted := @List.pairwise_mergeSort _
    (fun first second : Units × α => decide ((arrayIndex first.1).getD 0 ≤ (arrayIndex second.1).getD 0))
    (fun first second third head tail => decide_eq_true (Nat.le_trans (of_decide_eq_true head) (of_decide_eq_true tail)))
    (fun first second => by simpa using Nat.le_total _ _) entries
  exact sorted.imp fun le => of_decide_eq_true le

theorem sorted_keys (entries : List (Units × α)) :
    (entries.mergeSort fun left right => collation.le left.1 right.1).Pairwise
      fun left right => collation.le left.1 right.1 = true :=
  List.pairwise_mergeSort (fun first second third => collation.trans first.1 second.1 third.1)
    (fun first second => collation.total first.1 second.1) entries

/-- Entries of one object are told apart by their keys. -/
theorem eq_of_keys {entries first second : List (Units × α)} (distinct : (entries.map Prod.fst).Nodup)
    (inside : ∀ entry ∈ first, entry ∈ entries) (inside' : ∀ entry ∈ second, entry ∈ entries)
    (keys : first.map Prod.fst = second.map Prod.fst) : first = second := by
  induction first generalizing second with
  | nil => exact (List.map_eq_nil_iff.mp keys.symm).symm
  | cons head tail ih =>
    cases second with
    | nil => cases keys
    | cons other rest =>
      obtain ⟨key, keys⟩ := List.cons.inj keys
      have same := List.inj_on_of_nodup_map distinct (inside head List.mem_cons_self)
        (inside' other List.mem_cons_self) key
      rw [same, ih (fun entry member => inside entry (List.mem_cons_of_mem _ member))
        (fun entry member => inside' entry (List.mem_cons_of_mem _ member)) keys]

/-- Two objects are listed alike exactly when they have the same entries, and the keys of each
class in one order. -/
theorem sortEntries_eq_iff {first second : List (Units × α)} (distinct : (first.map Prod.fst).Nodup) :
    sortEntries collation first = sortEntries collation second ↔
      first.Perm second ∧ ∀ key, tiedKeys collation key first = tiedKeys collation key second := by
  constructor
  · intro same
    refine ⟨?_, fun key => ?_⟩
    · have perm := (@sortEntries_perm _ collation first).symm
      rw [same] at perm
      exact perm.trans (sortEntries_perm second)
    · rw [← tiedKeys_sortEntries key first, same, tiedKeys_sortEntries]
  · rintro ⟨perm, classes⟩
    have sorted := ((List.mergeSort_perm first fun left right => collation.le left.1 right.1).trans perm).trans
      (List.mergeSort_perm second fun left right => collation.le left.1 right.1).symm
    have inside : ∀ entry ∈ first.mergeSort (fun left right => collation.le left.1 right.1), entry ∈ first :=
      fun entry member => (List.mergeSort_perm _ _).mem_iff.mp member
    have inside' : ∀ entry ∈ second.mergeSort (fun left right => collation.le left.1 right.1), entry ∈ first :=
      fun entry member => perm.mem_iff.mpr ((List.mergeSort_perm _ _).mem_iff.mp member)
    unfold sortEntries enumerate
    congr 1
    · refine @List.Perm.eq_of_pairwise _ (fun first second => (arrayIndex first.1).getD 0 ≤ (arrayIndex second.1).getD 0)
        _ _ ?_ ?_ ?_ ?_
      · intro entry other member member' le le'
        have here := List.mem_filter.mp ((List.mergeSort_perm _ _).mem_iff.mp member)
        have there := List.mem_filter.mp ((List.mergeSort_perm _ _).mem_iff.mp member')
        obtain ⟨index, read⟩ := Option.isSome_iff_exists.mp here.2
        obtain ⟨index', read'⟩ := Option.isSome_iff_exists.mp there.2
        rw [read, read', Option.getD_some, Option.getD_some] at le le'
        have keys : entry.1 = other.1 := by
          rw [arrayIndex_text read, arrayIndex_text read', Nat.le_antisymm le le']
        exact List.inj_on_of_nodup_map distinct (inside entry here.1) (inside' other there.1) keys
      · exact sorted_indices _
      · exact sorted_indices _
      · exact ((List.mergeSort_perm _ _).trans (sorted.filter _)).trans (List.mergeSort_perm _ _).symm
    · apply eq_of_sorted (fun first second third => collation.trans first.1 second.1 third.1)
        (fun first second => collation.total first.1 second.1) (sorted.filter _) ((sorted_keys _).filter _)
        ((sorted_keys _).filter _)
      intro element
      apply eq_of_keys distinct
      · exact fun entry member => inside entry (List.mem_of_mem_filter (List.mem_of_mem_filter member))
      · exact fun entry member => inside' entry (List.mem_of_mem_filter (List.mem_of_mem_filter member))
      · have keys := classes element.1
        rw [← tiedKeys_mergeSort element.1 first, ← tiedKeys_mergeSort element.1 second, tiedKeys_eq, tiedKeys_eq] at keys
        exact keys

theorem lookup_mem {entries : List (Units × α)} {key : Units} {value : α} (found : entries.lookup key = some value) :
    (key, value) ∈ entries := by
  obtain ⟨before, after, rfl, -⟩ := List.lookup_eq_some_iff.mp found
  simp

theorem lookup_of_mem {entries : List (Units × α)} (distinct : (entries.map Prod.fst).Nodup) {entry : Units × α}
    (member : entry ∈ entries) : entries.lookup entry.1 = some entry.2 := by
  induction entries with
  | nil => cases member
  | cons head tail ih =>
    rw [List.map_cons, List.nodup_cons] at distinct
    rcases List.mem_cons.mp member with rfl | later
    · simp [List.lookup]
    · have other : (entry.1 == head.1) = false := by
        rw [beq_eq_false_iff_ne]
        intro same
        exact distinct.1 (same ▸ List.mem_map_of_mem later)
      rw [List.lookup, other]
      exact ih distinct.2 later

/-- Objects with distinct keys have the same entries when each entry of one is found in the other. -/
theorem perm_iff_lookup {first second : List (Units × α)} (distinct : (first.map Prod.fst).Nodup)
    (distinct' : (second.map Prod.fst).Nodup) :
    first.Perm second ↔ first.length = second.length ∧ ∀ entry ∈ first, second.lookup entry.1 = some entry.2 := by
  constructor
  · intro perm
    exact ⟨perm.length_eq, fun entry member => lookup_of_mem distinct' (perm.mem_iff.mp member)⟩
  · rintro ⟨length, found⟩
    have inside : first ⊆ second := fun entry member => lookup_mem (found entry member)
    exact (List.subperm_of_subset (List.Nodup.of_map _ distinct) inside).perm_of_length_le length.ge

end Entries

section Canonical
variable {collation : Collation}

theorem sortFields_map (fields : List (Units × Value Number)) :
    sortFields collation fields = fields.map fun field => (field.1, sortObject collation field.2) := by
  induction fields with
  | nil => rw [sortFields, List.map_nil]
  | cons field fields ih => rw [sortFields, List.map_cons, ih]

theorem keys_sortFields (fields : List (Units × Value Number)) :
    (sortFields collation fields).map Prod.fst = fields.map Prod.fst := by
  rw [sortFields_map, List.map_map]
  rfl

theorem lookup_sortFields (key : Units) (fields : List (Units × Value Number)) :
    (sortFields collation fields).lookup key = (fields.lookup key).map (sortObject collation) := by
  induction fields with
  | nil =>
    rw [sortFields]
    rfl
  | cons field fields ih =>
    rw [sortFields, List.lookup, List.lookup]
    cases key == field.1 with
    | true => rfl
    | false => exact ih

theorem tiedKeys_sortFields (key : Units) (fields : List (Units × Value Number)) :
    tiedKeys collation key (sortFields collation fields) = tiedKeys collation key fields := by
  unfold tiedKeys
  rw [keys_sortFields]

theorem ProperFields.lookup {fields : List (Units × Value Number)} (proper : ProperFields fields) {key : Units}
    {value : Value Number} (found : fields.lookup key = some value) : Proper value := by
  induction fields with
  | nil => cases found
  | cons field fields ih =>
    rw [ProperFields] at proper
    rw [List.lookup] at found
    cases same : key == field.1 with
    | true =>
      rw [same] at found
      cases found
      exact proper.1
    | false =>
      rw [same] at found
      exact ih proper.2 found

mutual

/-- Sorting is a canonical form of the values whose tied keys come in one order. -/
theorem sortObject_eq_iff : ∀ first second : Value Number, Proper first → Proper second →
    (sortObject collation first = sortObject collation second ↔ Same first second ∧ Aligned collation first second)
  | .array items, second, proper, proper' => by
    cases second with
    | array others =>
      simp only [sortObject, Value.array.injEq, Same, Aligned]
      rw [Proper] at proper proper'
      exact sortItems_eq_iff items others proper proper'
    | _ => simp [sortObject, Same]
  | .object fields, second, proper, proper' => by
    cases second with
    | object others =>
      rw [Proper] at proper proper'
      have found := sortFields_found_iff fields others proper.2 proper'.2
      have distinct : ((sortFields collation fields).map Prod.fst).Nodup := by
        rw [keys_sortFields]
        exact proper.1
      have distinct' : ((sortFields collation others).map Prod.fst).Nodup := by
        rw [keys_sortFields]
        exact proper'.1
      have length : ∀ fields : List (Units × Value Number), (sortFields collation fields).length = fields.length := by
        intro fields
        rw [sortFields_map, List.length_map]
      simp only [sortObject, Value.object.injEq, Same, Aligned]
      rw [sortEntries_eq_iff distinct, perm_iff_lookup distinct distinct', found, length, length]
      simp only [tiedKeys_sortFields]
      tauto
    | _ => simp [sortObject, Same]
  | .null, second, _, _ => by cases second <;> simp [sortObject, Same, Aligned]
  | .bool value, second, _, _ => by cases second <;> simp [sortObject, Same, Aligned]
  | .number value, second, _, _ => by cases second <;> simp [sortObject, Same, Aligned]
  | .text value, second, _, _ => by cases second <;> simp [sortObject, Same, Aligned]

theorem sortItems_eq_iff : ∀ first second : List (Value Number), ProperItems first → ProperItems second →
    (sortItems collation first = sortItems collation second ↔
      SameItems first second ∧ AlignedItems collation first second)
  | [], second, _, _ => by cases second <;> simp [sortItems, SameItems, AlignedItems]
  | item :: items, second, proper, proper' => by
    cases second with
    | nil => simp [sortItems, SameItems]
    | cons other others =>
      rw [ProperItems] at proper proper'
      have head := sortObject_eq_iff item other proper.1 proper'.1
      have tail := sortItems_eq_iff items others proper.2 proper'.2
      simp only [sortItems, List.cons.injEq, SameItems, AlignedItems, head, tail]
      tauto

theorem sortFields_found_iff : ∀ fields others : List (Units × Value Number), ProperFields fields →
    ProperFields others →
    ((∀ entry ∈ sortFields collation fields, (sortFields collation others).lookup entry.1 = some entry.2) ↔
      SameFields fields others ∧ AlignedFields collation fields others)
  | [], others, _, _ => by simp [sortFields, SameFields, AlignedFields]
  | (key, value) :: fields, others, proper, proper' => by
    rw [ProperFields] at proper
    have rest := sortFields_found_iff fields others proper.2 proper'
    simp only [lookup_sortFields] at rest
    simp only [sortFields, List.mem_cons, forall_eq_or_imp, SameFields, AlignedFields, lookup_sortFields, rest]
    cases found : others.lookup key with
    | none => simp
    | some other =>
      have own := sortObject_eq_iff value other proper.1 (proper'.lookup found)
      simp only [Option.map_some, Option.some.injEq, exists_eq_left', forall_eq']
      rw [eq_comm, own]
      tauto

end

end Canonical

section Main

theorem bodyOf_proper {body : Value Number} (proper : Proper body) : Proper (bodyOf body) := by
  cases body <;> first | exact proper | exact ⟨List.nodup_nil, trivial⟩

/-- Two requests with proper bodies hash alike exactly when they are one request up to the order
of keys that compare different. -/
theorem createRequestHash_eq_iff (functions : Functions Number) (method path method' path' : Units)
    {body body' : Value Number} (proper : Proper body) (proper' : Proper body')
    {values : Set (Value Number)} (injective : Set.InjOn functions.stringify values)
    (member : hashedValue collation functions method path body ∈ values)
    (member' : hashedValue collation functions method' path' body' ∈ values)
    {texts : Set Units} (collisionFree : Set.InjOn functions.sha256Hex texts)
    (text : functions.stringify (hashedValue collation functions method path body) ∈ texts)
    (text' : functions.stringify (hashedValue collation functions method' path' body') ∈ texts) :
    createRequestHash collation functions method path body = createRequestHash collation functions method' path' body' ↔
      functions.toUpperCase method = functions.toUpperCase method' ∧ path = path' ∧
        Same (bodyOf body) (bodyOf body') ∧ Aligned collation (bodyOf body) (bodyOf body') := by
  unfold createRequestHash
  rw [collisionFree.eq_iff text text', injective.eq_iff member member',
    ← sortObject_eq_iff _ _ (bodyOf_proper proper) (bodyOf_proper proper')]
  simp [hashedValue]

/-- The hash identifies the request up to the order of keys exactly when keys that compare equal
come in one order in equal bodies. -/
theorem createRequestHash_identifies_iff (collation : Collation) (functions : Functions Number)
    (method path method' path' : Units) (body body' : Value Number) (proper : Proper body) (proper' : Proper body')
    (values : Set (Value Number)) (injective : Set.InjOn functions.stringify values)
    (member : hashedValue collation functions method path body ∈ values)
    (member' : hashedValue collation functions method' path' body' ∈ values)
    (texts : Set Units) (collisionFree : Set.InjOn functions.sha256Hex texts)
    (text : functions.stringify (hashedValue collation functions method path body) ∈ texts)
    (text' : functions.stringify (hashedValue collation functions method' path' body') ∈ texts) :
    (createRequestHash collation functions method path body = createRequestHash collation functions method' path' body' ↔
      functions.toUpperCase method = functions.toUpperCase method' ∧ path = path' ∧ Same (bodyOf body) (bodyOf body')) ↔
    (functions.toUpperCase method = functions.toUpperCase method' → path = path' → Same (bodyOf body) (bodyOf body') →
      Aligned collation (bodyOf body) (bodyOf body')) := by
  rw [createRequestHash_eq_iff collation functions method path method' path' proper proper' injective member member'
    collisionFree text text']
  tauto

/-- The canonical decomposition of `é`; other units stand for themselves here. -/
def decomposed (text : Units) : List Nat :=
  text.flatMap fun unit => if unit = 0xe9 then [0x65, 0x301] else [unit.toNat]

/-- A comparison that takes canonically equivalent strings for equal. -/
def canonicalOrder : Collation where
  le first second := decide (decomposed first ≤ decomposed second)
  trans _ _ _ head tail := decide_eq_true (le_trans (of_decide_eq_true head) (of_decide_eq_true tail))
  total _ _ := by simpa using le_total _ _

def quoted (text : Units) : Units := 34 :: text ++ [34]

mutual

/-- `JSON.stringify`, for texts without characters to escape. -/
def plainText : Value Nat → Units
  | .null => ofText "null".toList
  | .bool true => ofText "true".toList
  | .bool false => ofText "false".toList
  | .number value => ofText (Nat.toDigits 10 value)
  | .text value => quoted value
  | .array items => 91 :: plainItems items ++ [93]
  | .object fields => 123 :: plainFields fields ++ [125]

def plainItems : List (Value Nat) → Units
  | [] => []
  | [item] => plainText item
  | item :: items => plainText item ++ 44 :: plainItems items

def plainFields : List (Units × Value Nat) → Units
  | [] => []
  | [(key, value)] => quoted key ++ 58 :: plainText value
  | (key, value) :: fields => quoted key ++ 58 :: plainText value ++ 44 :: plainFields fields

end

/-- Two bodies with the same two keys, which compare equal, in the two orders. -/
def composedFirst : Value Nat := .object [([0xe9], .number 1), ([0x65, 0x301], .number 2)]

def decomposedFirst : Value Nat := .object [([0x65, 0x301], .number 2), ([0xe9], .number 1)]

def composedText : Units :=
  ofText "\x7b\"method\":\"POST\",\"path\":\"/escrows\",\"body\":\x7b\"\u00e9\":1,\"e\u0301\":2\x7d\x7d".toList

def decomposedText : Units :=
  ofText "\x7b\"method\":\"POST\",\"path\":\"/escrows\",\"body\":\x7b\"e\u0301\":2,\"\u00e9\":1\x7d\x7d".toList

/-- The digests of the texts of the two bodies, and of the body with `a` and `b`. -/
def sampleFunctions : Functions Nat where
  toUpperCase text := text.map fun unit => if 97 ≤ unit ∧ unit ≤ 122 then unit - 32 else unit
  stringify := plainText
  sha256Hex text :=
    if text = composedText then
      ofText "bbc901443d206d3c7ac5ba82c8a36829f7adaf71e223d6d27d307ce9cdef0472".toList
    else if text = decomposedText then
      ofText "52cf0d7df9dfc9a19e6d971cb7dc75887cf93581dd8e6516825088a6637d5f95".toList
    else ofText "ca342e851a72448c0862bf36c9de5e30655c785be0245b0d9f57dbf26b3f12ec".toList

def samplePath : Units := ofText "/escrows".toList

def samplePost : Units := ofText "post".toList

theorem canonicalOrder_ties (key other : Units) :
    ties canonicalOrder.le key other = decide (decomposed key = decomposed other) := by
  simp only [ties, canonicalOrder, ← Bool.decide_and, decide_eq_decide]
  exact le_antisymm_iff.symm

/-- Two bodies with one pair of fields in the two orders. -/
def lettersFalling : Value Nat := .object [([98], .number 2), ([97], .number 1)]

def lettersRising : Value Nat := .object [([97], .number 1), ([98], .number 2)]

theorem letters_same : Same lettersFalling lettersRising :=
  ⟨rfl, ⟨.number 2, rfl, rfl⟩, ⟨.number 1, rfl, rfl⟩, trivial⟩

theorem letters_proper : Proper lettersFalling ∧ Proper lettersRising := by
  simp [lettersFalling, lettersRising, Proper, ProperFields]

theorem letters_aligned : Aligned canonicalOrder lettersFalling lettersRising := by
  refine ⟨fun key => ?_, by simp [AlignedFields, Aligned, List.lookup]⟩
  have keys : ∀ key ∈ ([[98], [97]] : List Units), isIndex key = false := by decide
  have first := keys [98] (by simp)
  have second := keys [97] (by simp)
  cases tied : ties canonicalOrder.le key [98] with
  | false => cases tied' : ties canonicalOrder.le key [97] <;> simp [tiedKeys, first, second, tied, tied']
  | true =>
    have apart : ties canonicalOrder.le key [97] = false := by
      rw [canonicalOrder_ties] at tied ⊢
      rw [of_decide_eq_true tied]
      decide
    simp [tiedKeys, first, second, tied, apart]

theorem letters_hash :
    createRequestHash canonicalOrder sampleFunctions samplePost samplePath lettersFalling =
      createRequestHash canonicalOrder sampleFunctions (ofText "POST".toList) samplePath lettersRising ↔
    sampleFunctions.toUpperCase samplePost = sampleFunctions.toUpperCase (ofText "POST".toList) ∧
      samplePath = samplePath ∧ Same (bodyOf lettersFalling) (bodyOf lettersRising) := by
  have values : hashedValue canonicalOrder sampleFunctions samplePost samplePath lettersFalling =
      hashedValue canonicalOrder sampleFunctions (ofText "POST".toList) samplePath lettersRising := by
    have bodies := (@sortObject_eq_iff _ canonicalOrder _ _ letters_proper.1 letters_proper.2).mpr
      ⟨letters_same, letters_aligned⟩
    have upper : sampleFunctions.toUpperCase samplePost = sampleFunctions.toUpperCase (ofText "POST".toList) := by
      decide
    exact congrArg₂ (fun method body => Value.object [(ofText "method".toList, .text method),
      (ofText "path".toList, .text samplePath), (ofText "body".toList, body)]) upper bodies
  exact (createRequestHash_identifies_iff canonicalOrder sampleFunctions samplePost samplePath
    (ofText "POST".toList) samplePath _ _ letters_proper.1 letters_proper.2 _ (Set.injOn_singleton _ _) values rfl _
    (Set.injOn_singleton _ _) (congrArg _ values) rfl).mpr fun _ _ _ => letters_aligned

theorem sortEntries_of_sorted {α : Type} {entries : List (Units × α)}
    (sorted : entries.Pairwise fun left right => collation.le left.1 right.1 = true)
    (names : ∀ entry ∈ entries, isIndex entry.1 = false) : sortEntries collation entries = entries := by
  have none : entries.filter (fun entry => isIndex entry.1) = [] :=
    List.filter_eq_nil_iff.mpr fun entry member => by simp [names entry member]
  have all : entries.filter (fun entry => !isIndex entry.1) = entries :=
    List.filter_eq_self.mpr fun entry member => by simp [names entry member]
  rw [sortEntries, List.mergeSort_of_pairwise sorted, enumerate, none, all, List.mergeSort_nil, List.nil_append]

/-- Keys that compare equal stay as they come. -/
theorem values_tied {body : Value Nat} (either : body = composedFirst ∨ body = decomposedFirst) :
    hashedValue canonicalOrder sampleFunctions samplePost samplePath body = .object
      [(ofText "method".toList, .text (ofText "POST".toList)), (ofText "path".toList, .text samplePath),
        (ofText "body".toList, body)] := by
  have names : isIndex [0xe9] = false ∧ isIndex [0x65, 0x301] = false := ⟨rfl, rfl⟩
  have kept : sortObject canonicalOrder (bodyOf body) = body := by
    obtain rfl | rfl := either
    · exact congrArg Value.object (sortEntries_of_sorted canonicalOrder (by decide) (by simp [sortFields, names]))
    · exact congrArg Value.object (sortEntries_of_sorted canonicalOrder (by decide) (by simp [sortFields, names]))
  have upper : sampleFunctions.toUpperCase samplePost = ofText "POST".toList := by decide
  rw [hashedValue, kept, upper]

/-- The two orders of two keys that compare equal hash apart. -/
theorem composed_hash_differs :
    ¬∀ (collation : Collation) (functions : Functions Nat) (method path method' path' : Units)
      (body body' : Value Nat) (values : Set (Value Nat)) (texts : Set Units),
      Proper body → Proper body' → Set.InjOn functions.stringify values →
      hashedValue collation functions method path body ∈ values →
      hashedValue collation functions method' path' body' ∈ values → Set.InjOn functions.sha256Hex texts →
      functions.stringify (hashedValue collation functions method path body) ∈ texts →
      functions.stringify (hashedValue collation functions method' path' body') ∈ texts →
      (createRequestHash collation functions method path body = createRequestHash collation functions method' path' body' ↔
        functions.toUpperCase method = functions.toUpperCase method' ∧ path = path' ∧
          Same (bodyOf body) (bodyOf body')) := by
  intro identifies
  have apart : sampleFunctions.stringify (hashedValue canonicalOrder sampleFunctions samplePost samplePath composedFirst) ≠
      sampleFunctions.stringify (hashedValue canonicalOrder sampleFunctions samplePost samplePath decomposedFirst) := by
    rw [values_tied (.inl rfl), values_tied (.inr rfl)]
    decide +kernel
  have apart' : createRequestHash canonicalOrder sampleFunctions samplePost samplePath composedFirst ≠
      createRequestHash canonicalOrder sampleFunctions samplePost samplePath decomposedFirst := by
    rw [createRequestHash, createRequestHash, values_tied (.inl rfl), values_tied (.inr rfl)]
    decide +kernel
  have proper : Proper composedFirst ∧ Proper decomposedFirst := by
    simp [composedFirst, decomposedFirst, Proper, ProperFields]
  have same : Same composedFirst decomposedFirst :=
    ⟨rfl, ⟨.number 1, rfl, rfl⟩, ⟨.number 2, rfl, rfl⟩, trivial⟩
  have hashes := (identifies canonicalOrder sampleFunctions samplePost samplePath samplePost samplePath
    composedFirst decomposedFirst _ _ proper.1 proper.2 (Set.injOn_pair.mpr fun equal => absurd equal apart)
    (.inl rfl) (.inr rfl) (Set.injOn_pair.mpr fun equal => absurd equal apart') (.inl rfl) (.inr rfl)).mpr
    ⟨rfl, rfl, same⟩
  exact apart' hashes

end Main

end PactAgent.Idempotency.RequestHash
