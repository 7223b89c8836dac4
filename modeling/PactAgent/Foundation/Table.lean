import Mathlib

/-! Tables of rows under a primary key. The key is unique by the type of a table,
rows keep the order in which they were inserted, and an update leaves a row where
it stands. -/

namespace PactAgent.Foundation

class Keyed (Row : Type) (Key : outParam Type) where
  key : Row → Key

structure Table (Row : Type) {Key : Type} [Keyed Row Key] where
  rows : List Row
  keys_nodup : (rows.map Keyed.key).Nodup

namespace Table
variable {Row Key : Type} [Keyed Row Key]

def empty : Table Row := ⟨[], List.nodup_nil⟩

instance : Membership Row (Table Row) := ⟨fun table row => row ∈ table.rows⟩

theorem mem_def {row : Row} {table : Table Row} : row ∈ table ↔ row ∈ table.rows := Iff.rfl

@[simp] theorem not_mem_empty (row : Row) : row ∉ (empty : Table Row) := List.not_mem_nil

/-- Two rows under one key are one row. -/
theorem eq_of_key_eq {table : Table Row} {first second : Row} (firstIn : first ∈ table)
    (secondIn : second ∈ table) (same : Keyed.key first = Keyed.key second) : first = second :=
  List.inj_on_of_nodup_map table.keys_nodup firstIn secondIn same

/-- The earliest row that passes a test. -/
def first (test : Row → Bool) (table : Table Row) : Option Row := table.rows.find? test

/-- The latest row that passes a test. -/
def last (test : Row → Bool) (table : Table Row) : Option Row := table.rows.reverse.find? test

theorem first_some {test : Row → Bool} {table : Table Row} {row : Row}
    (found : table.first test = some row) : row ∈ table ∧ test row = true :=
  ⟨List.mem_of_find?_eq_some found, List.find?_some found⟩

theorem first_none {test : Row → Bool} {table : Table Row} (absent : table.first test = none)
    {row : Row} (member : row ∈ table) : test row = false := by
  have fails := List.find?_eq_none.mp absent row member
  simpa using fails

theorem last_some {test : Row → Bool} {table : Table Row} {row : Row}
    (found : table.last test = some row) : row ∈ table ∧ test row = true :=
  ⟨List.mem_reverse.mp (List.mem_of_find?_eq_some found), List.find?_some found⟩

theorem last_none {test : Row → Bool} {table : Table Row} (absent : table.last test = none)
    {row : Row} (member : row ∈ table) : test row = false := by
  have fails := List.find?_eq_none.mp absent row (List.mem_reverse.mpr member)
  simpa using fails

variable [DecidableEq Key]

def get (table : Table Row) (key : Key) : Option Row :=
  table.rows.find? fun row => decide (Keyed.key row = key)

theorem key_of_get {table : Table Row} {key : Key} {row : Row} (found : table.get key = some row) :
    Keyed.key row = key := by
  have passed := List.find?_some found
  simpa using passed

theorem mem_of_get {table : Table Row} {key : Key} {row : Row} (found : table.get key = some row) :
    row ∈ table :=
  List.mem_of_find?_eq_some found

theorem get_of_mem {table : Table Row} {row : Row} (member : row ∈ table) :
    table.get (Keyed.key row) = some row := by
  cases found : table.get (Keyed.key row) with
  | none =>
    have absent := List.find?_eq_none.mp found row member
    simp at absent
  | some other =>
    rw [eq_of_key_eq (mem_of_get found) member (key_of_get found)]

theorem mem_iff_get {table : Table Row} {row : Row} :
    row ∈ table ↔ table.get (Keyed.key row) = some row :=
  ⟨get_of_mem, mem_of_get⟩

theorem get_eq_none_iff {table : Table Row} {key : Key} :
    table.get key = none ↔ ∀ row ∈ table, Keyed.key row ≠ key := by
  unfold get
  rw [List.find?_eq_none]
  simp [mem_def]

private def replaced (row : Row) (rows : List Row) : List Row :=
  rows.map fun stored => if Keyed.key stored = Keyed.key row then row else stored

private theorem keys_replaced (row : Row) (rows : List Row) :
    (replaced row rows).map Keyed.key = rows.map Keyed.key := by
  unfold replaced
  rw [List.map_map]
  apply List.map_congr_left
  intro stored _
  simp only [Function.comp_apply]
  split
  next same => exact same.symm
  next => rfl

/-- Write a row: over the one with its key, or behind all rows. -/
def put (row : Row) (table : Table Row) : Table Row :=
  if present : Keyed.key row ∈ table.rows.map Keyed.key then
    ⟨replaced row table.rows, by rw [keys_replaced]; exact table.keys_nodup⟩
  else
    ⟨table.rows ++ [row], by
      rw [List.map_append]
      exact List.Nodup.append table.keys_nodup (List.nodup_singleton _)
        (by simpa [List.disjoint_singleton] using present)⟩

def remove (key : Key) (table : Table Row) : Table Row :=
  ⟨table.rows.filter fun row => decide (Keyed.key row ≠ key),
    table.keys_nodup.sublist ((List.filter_sublist).map Keyed.key)⟩

theorem mem_put {row stored : Row} {table : Table Row} :
    stored ∈ table.put row ↔ stored = row ∨ stored ∈ table ∧ Keyed.key stored ≠ Keyed.key row := by
  unfold put
  split
  next present =>
    obtain ⟨old, oldIn, same⟩ := List.mem_map.mp present
    simp only [mem_def, replaced, List.mem_map]
    constructor
    · intro member
      obtain ⟨before, beforeIn, equal⟩ := member
      split at equal
      next => exact .inl equal.symm
      next other => exact .inr ⟨equal ▸ beforeIn, equal ▸ other⟩
    · intro member
      cases member with
      | inl equal => exact ⟨old, oldIn, by rw [if_pos same, equal]⟩
      | inr kept => exact ⟨stored, kept.1, if_neg kept.2⟩
  next absent =>
    simp only [mem_def, List.mem_append, List.mem_singleton]
    constructor
    · intro member
      cases member with
      | inl old => exact .inr ⟨old, fun same => absent (same ▸ List.mem_map_of_mem old)⟩
      | inr equal => exact .inl equal
    · intro member
      cases member with
      | inl equal => exact .inr equal
      | inr kept => exact .inl kept.1

/-- A row under a new key comes behind all rows. -/
theorem rows_put {row : Row} {table : Table Row} (absent : table.get (Keyed.key row) = none) :
    (table.put row).rows = table.rows ++ [row] := by
  have free : Keyed.key row ∉ table.rows.map Keyed.key := by
    intro present
    obtain ⟨old, oldIn, same⟩ := List.mem_map.mp present
    exact get_eq_none_iff.mp absent old oldIn same
  rw [put, dif_neg free]

/-- Writing over a row changes nothing that is the same in both. -/
theorem map_put {α : Type} {row old : Row} {table : Table Row} {aspect : Row → α}
    (stored : table.get (Keyed.key row) = some old) (same : aspect row = aspect old) :
    (table.put row).rows.map aspect = table.rows.map aspect := by
  have oldIn := mem_of_get stored
  have key := key_of_get stored
  rw [put, dif_pos (List.mem_map.mpr ⟨old, oldIn, key⟩)]
  unfold replaced
  rw [List.map_map]
  apply List.map_congr_left
  intro other member
  simp only [Function.comp_apply]
  split
  next equal => rw [same, eq_of_key_eq member oldIn (equal.trans key.symm)]
  next => rfl

theorem mem_remove {key : Key} {stored : Row} {table : Table Row} :
    stored ∈ table.remove key ↔ stored ∈ table ∧ Keyed.key stored ≠ key := by
  simp [remove, mem_def]

/-- Tables with the same rows answer alike under every key. -/
theorem get_congr {first second : Table Row} {key : Key}
    (same : ∀ row, Keyed.key row = key → (row ∈ first ↔ row ∈ second)) :
    first.get key = second.get key := by
  cases found : first.get key with
  | some row =>
    have keyed := key_of_get found
    have member := (same row keyed).mp (mem_of_get found)
    rw [← keyed, get_of_mem member]
  | none =>
    symm
    rw [get_eq_none_iff]
    intro row member keyed
    exact get_eq_none_iff.mp found row ((same row keyed).mpr member) keyed

@[simp] theorem get_put_self (row : Row) (table : Table Row) :
    (table.put row).get (Keyed.key row) = some row :=
  get_of_mem (mem_put.mpr (.inl rfl))

theorem get_put_of_ne {row : Row} {table : Table Row} {key : Key} (other : key ≠ Keyed.key row) :
    (table.put row).get key = table.get key := by
  apply get_congr
  intro stored keyed
  rw [mem_put]
  constructor
  · intro member
    cases member with
    | inl equal => exact absurd (equal ▸ keyed.symm) other
    | inr kept => exact kept.1
  · intro member
    exact .inr ⟨member, keyed ▸ other⟩

theorem get_remove_of_ne {key other : Key} {table : Table Row} (different : other ≠ key) :
    (table.remove key).get other = table.get other := by
  apply get_congr
  intro stored keyed
  rw [mem_remove]
  exact ⟨fun member => member.1, fun member => ⟨member, keyed ▸ different⟩⟩

@[simp] theorem get_remove_self (key : Key) (table : Table Row) : (table.remove key).get key = none := by
  rw [get_eq_none_iff]
  intro row member
  exact (mem_remove.mp member).2

theorem get_put_congr {first second : Table Row} {key : Key} (same : first.get key = second.get key)
    (row : Row) : (first.put row).get key = (second.put row).get key := by
  by_cases keyed : key = Keyed.key row
  · rw [keyed, get_put_self, get_put_self]
  · rw [get_put_of_ne keyed, get_put_of_ne keyed, same]

theorem get_remove_congr {first second : Table Row} {key : Key} (same : first.get key = second.get key)
    (other : Key) : (first.remove other).get key = (second.remove other).get key := by
  by_cases keyed : key = other
  · rw [keyed, get_remove_self, get_remove_self]
  · rw [get_remove_of_ne keyed, get_remove_of_ne keyed, same]

/-- The rows that stay are there later under their keys, each followed by its successor. -/
def Kept (stays : Row → Prop) (follows : Row → Row → Prop) (before after : Table Row) : Prop :=
  ∀ key old, before.get key = some old → stays old → ∃ new, after.get key = some new ∧ follows old new

section Kept
variable {stays : Row → Prop} {follows : Row → Row → Prop} {table : Table Row}

theorem Kept.refl (reflexive : ∀ row, follows row row) (table : Table Row) : Kept stays follows table table :=
  fun _ old found _ => ⟨old, found, reflexive old⟩

theorem Kept.trans (transitive : ∀ first second third, follows first second → follows second third →
      follows first third) (further : ∀ old new, stays old → follows old new → stays new)
    {first second third : Table Row} (earlier : Kept stays follows first second)
    (later : Kept stays follows second third) : Kept stays follows first third := by
  intro key old found stay
  obtain ⟨middle, there, step⟩ := earlier key old found stay
  obtain ⟨new, last, next⟩ := later key middle there (further old middle stay step)
  exact ⟨new, last, transitive old middle new step next⟩

theorem Kept.put {row : Row} (reflexive : ∀ row, follows row row)
    (each : ∀ old, table.get (Keyed.key row) = some old → stays old → follows old row) :
    Kept stays follows table (table.put row) := by
  intro key old found stay
  by_cases same : key = Keyed.key row
  · rw [same] at found ⊢
    exact ⟨row, get_put_self row table, each old found stay⟩
  · exact ⟨old, (get_put_of_ne same).trans found, reflexive old⟩

theorem Kept.remove {key : Key} (reflexive : ∀ row, follows row row)
    (leaves : ∀ old, table.get key = some old → ¬stays old) : Kept stays follows table (table.remove key) := by
  intro other old found stay
  by_cases same : other = key
  · exact absurd stay (leaves old (same ▸ found))
  · exact ⟨old, (get_remove_of_ne same).trans found, reflexive old⟩

end Kept

end Table

end PactAgent.Foundation
