import PactAgent.Foundation.Table

/-! The rows of a table that wait, in the order of their positions, and what still waits when
the first of them have been taken. -/

namespace PactAgent.Foundation

namespace Table
variable {Row Key : Type} [Keyed Row Key] [DecidableEq Key]

/-- The table without some rows, by their keys. -/
def without (taken : List Row) (table : Table Row) : Table Row :=
  ⟨table.rows.filter fun row => Keyed.key row ∉ taken.map Keyed.key,
    table.keys_nodup.sublist ((List.filter_sublist).map Keyed.key)⟩

theorem without_nil (table : Table Row) : table.without [] = table := by
  cases table
  simp [without]

/-- Rows can be taken in parts. -/
theorem without_append (first second : List Row) (table : Table Row) :
    table.without (first ++ second) = (table.without first).without second := by
  simp only [without, List.filter_filter, Table.mk.injEq]
  apply List.filter_congr
  intro row _
  rw [List.map_append, ← Bool.decide_and]
  apply decide_eq_decide.mpr
  rw [List.mem_append, not_or]
  exact And.comm

end Table

namespace Queues
variable {Row Key Position : Type} [Keyed Row Key] [LinearOrder Position]

/-- The rows that wait, from the first position to the last. -/
def queue (position : Row → Position) (waits : Row → Bool) (table : Table Row) : List Row :=
  (table.rows.filter waits).mergeSort fun first second => position first ≤ position second

variable {position : Row → Position} {waits later : Row → Bool} {table : Table Row}

theorem mem_queue {row : Row} : row ∈ queue position waits table ↔ row ∈ table ∧ waits row = true := by
  rw [queue, (List.mergeSort_perm _ _).mem_iff, List.mem_filter]
  rfl

theorem length_queue : (queue position waits table).length = table.rows.countP waits := by
  rw [queue, List.length_mergeSort, List.countP_eq_length_filter]

theorem queue_pairwise : (queue position waits table).Pairwise fun first second => position first ≤ position second := by
  have sorted := @List.pairwise_mergeSort Row (fun first second => decide (position first ≤ position second))
    (fun first second third => by simpa using fun one two => le_trans one two)
    (fun first second => by simpa using le_total (position first) (position second)) (table.rows.filter waits)
  exact sorted.imp fun le => by simpa using le

theorem queue_nodup : (queue position waits table).Nodup :=
  (List.mergeSort_perm _ _).nodup_iff.mpr ((table.keys_nodup.of_map _).filter _)

/-- Rows in different positions have one order. -/
theorem queue_unique (apart : ∀ one other : Row, position one = position other → Keyed.key one = Keyed.key other)
    {rows : List Row} (nodup : rows.Nodup) (sorted : rows.Pairwise fun first second => position first ≤ position second)
    (same : ∀ row, row ∈ rows ↔ row ∈ table ∧ waits row = true) : queue position waits table = rows := by
  have perm : (queue position waits table).Perm rows :=
    (List.perm_ext_iff_of_nodup queue_nodup nodup).mpr fun row => mem_queue.trans (same row).symm
  refine List.Perm.eq_of_pairwise ?_ queue_pairwise sorted perm
  intro one other member member' before after
  exact Table.eq_of_key_eq (mem_queue.mp member).1 ((same other).mp member').1 (apart _ _ (le_antisymm before after))

/-- What waits when the first rows no longer do. -/
theorem queue_narrowed (apart : ∀ one other : Row, position one = position other → Keyed.key one = Keyed.key other)
    (count : Nat) (narrows : ∀ row ∈ table, later row = true ↔ waits row = true ∧
      Keyed.key row ∉ ((queue position waits table).take count).map Keyed.key) :
    queue position later table = (queue position waits table).drop count := by
  have split := List.take_append_drop count (queue position waits table)
  have distinct : ((queue position waits table).take count ++ (queue position waits table).drop count).Nodup := by
    rw [split]
    exact queue_nodup
  apply queue_unique apart
  · exact queue_nodup.sublist (List.drop_sublist _ _)
  · exact queue_pairwise.sublist (List.drop_sublist _ _)
  · intro row
    constructor
    · intro member
      obtain ⟨inTable, waiting⟩ := mem_queue.mp (List.mem_of_mem_drop member)
      refine ⟨inTable, (narrows row inTable).mpr ⟨waiting, ?_⟩⟩
      intro taken
      obtain ⟨other, otherTaken, key⟩ := List.mem_map.mp taken
      have equal := Table.eq_of_key_eq (mem_queue.mp (List.mem_of_mem_take otherTaken)).1 inTable key
      exact List.disjoint_of_nodup_append distinct (equal ▸ otherTaken) member
    · rintro ⟨inTable, still⟩
      obtain ⟨waiting, left⟩ := (narrows row inTable).mp still
      have member : row ∈ queue position waits table := mem_queue.mpr ⟨inTable, waiting⟩
      rw [← split, List.mem_append] at member
      exact member.resolve_left fun taken => left (List.mem_map_of_mem taken)

variable [DecidableEq Key]

/-- What waits when the first rows are gone. -/
theorem queue_without (apart : ∀ one other : Row, position one = position other → Keyed.key one = Keyed.key other)
    (count : Nat) : queue position waits (table.without ((queue position waits table).take count)) =
      (queue position waits table).drop count := by
  have narrowed : queue position (fun row => waits row &&
      decide (Keyed.key row ∉ ((queue position waits table).take count).map Keyed.key)) table =
      (queue position waits table).drop count := by
    apply queue_narrowed apart
    intro row _
    rw [Bool.and_eq_true, decide_eq_true_iff]
  rw [← narrowed]
  generalize (queue position waits table).take count = taken
  rw [queue, queue, Table.without, List.filter_filter]

end Queues

end PactAgent.Foundation
