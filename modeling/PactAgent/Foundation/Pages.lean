import PactAgent.Foundation.Table

/-! Pages of a table: the rows that pass a filter, from the last position to the first,
behind a cursor that is looked up in the whole table. -/

namespace PactAgent.Foundation.Pages
variable {Row Key Position : Type} [Keyed Row Key] [LinearOrder Position]

section Query
variable (position : Row → Position)

/-- The rows from the last position to the first. -/
def ordered (rows : List Row) : List Row :=
  rows.mergeSort fun first second => position second ≤ position first

/-- The rows behind the position of a row. -/
def behind (row : Row) (rows : List Row) : List Row := rows.filter fun other => position other < position row

def findMany [DecidableEq Key] (passes : Row → Bool) (cursor : Option Key) (take : Nat) (table : Table Row) : List Row :=
  match cursor with
  | none => (ordered position (table.rows.filter passes)).take take
  | some key =>
      match table.get key with
      | none => []
      | some row => (behind position row (ordered position (table.rows.filter passes))).take take

end Query

/-- Tables with the same rows of one owner. -/
def Agree (own : Row → Prop) (table other : Table Row) : Prop := ∀ row, own row → (row ∈ table ↔ row ∈ other)

/-- The cursor of the query, if it has one, is a row of the owner, or no row passes. -/
def Anchored (own : Row → Prop) (passes : Row → Bool) (cursor : Option Key) (table : Table Row) : Prop :=
  cursor = none ∨ (∃ row ∈ table, own row ∧ cursor = some (Keyed.key row)) ∨ ∀ row ∈ table, passes row = false

section Order
variable {position : Row → Position}

theorem mem_ordered {row : Row} {rows : List Row} : row ∈ ordered position rows ↔ row ∈ rows :=
  (List.mergeSort_perm rows _).mem_iff

theorem ordered_pairwise (rows : List Row) :
    (ordered position rows).Pairwise fun first second => position second ≤ position first := by
  have sorted := @List.pairwise_mergeSort Row (fun first second => decide (position second ≤ position first))
    (fun first second third => by simpa using fun one two => le_trans two one)
    (fun first second => by simpa using le_total (position second) (position first)) rows
  exact sorted.imp fun le => by simpa using le

/-- The order of rows with different positions is a function of the set of rows. -/
theorem ordered_congr {first second : List Row} (nodup : first.Nodup) (nodup' : second.Nodup)
    (same : ∀ row, row ∈ first ↔ row ∈ second)
    (apart : ∀ one ∈ first, ∀ other ∈ first, position one = position other → one = other) :
    ordered position first = ordered position second := by
  have perm : (ordered position first).Perm (ordered position second) :=
    (List.mergeSort_perm _ _).trans (((List.perm_ext_iff_of_nodup nodup nodup').mpr same).trans
      (List.mergeSort_perm _ _).symm)
  refine List.Perm.eq_of_pairwise ?_ (ordered_pairwise first) (ordered_pairwise second) perm
  intro one other member member' before after
  have member := mem_ordered.mp member
  have member' := (same other).mpr (mem_ordered.mp member')
  exact apart one member other member' (le_antisymm after before)

end Order

section Owners
variable [DecidableEq Key] {position : Row → Position} {own : Row → Prop} {passes : Row → Bool} {cursor : Option Key}
  {take : Nat} {table other : Table Row}

theorem passes_of_mem {row : Row} (member : row ∈ findMany position passes cursor take table) : passes row = true := by
  have ofOrdered : row ∈ ordered position (table.rows.filter passes) → passes row = true :=
    fun found => (List.mem_filter.mp (mem_ordered.mp found)).2
  unfold findMany at member
  split at member
  · exact ofOrdered (List.mem_of_mem_take member)
  · split at member
    · cases member
    · exact ofOrdered (List.mem_filter.mp (List.mem_of_mem_take member)).1

theorem rows_nodup (table : Table Row) : table.rows.Nodup := List.Nodup.of_map Keyed.key table.keys_nodup

theorem Agree.passing (agree : Agree own table other) (within : ∀ row, passes row = true → own row)
    (separates : ∀ one other : Row, position one = position other → Keyed.key one = Keyed.key other) :
    ordered position (table.rows.filter passes) = ordered position (other.rows.filter passes) := by
  apply ordered_congr ((rows_nodup table).filter passes) ((rows_nodup other).filter passes)
  · intro row
    rw [List.mem_filter, List.mem_filter]
    constructor
    · rintro ⟨member, passed⟩
      exact ⟨(agree row (within row passed)).mp member, passed⟩
    · rintro ⟨member, passed⟩
      exact ⟨(agree row (within row passed)).mpr member, passed⟩
  · intro one member another member' same
    exact Table.eq_of_key_eq (List.mem_filter.mp member).1 (List.mem_filter.mp member').1 (separates one another same)

/-- An anchored query reads nothing but the rows of the owner. -/
theorem Anchored.agree (anchored : Anchored own passes cursor table) (agree : Agree own table other)
    (within : ∀ row, passes row = true → own row)
    (separates : ∀ one other : Row, position one = position other → Keyed.key one = Keyed.key other) :
    findMany position passes cursor take other = findMany position passes cursor take table := by
  have same := agree.passing within separates
  unfold findMany
  rw [← same]
  rcases anchored with rfl | ⟨row, member, owned, rfl⟩ | nothing
  · rfl
  · have found : table.get (Keyed.key row) = some row := Table.get_of_mem member
    have found' : other.get (Keyed.key row) = some row := Table.get_of_mem ((agree row owned).mp member)
    simp only [found, found']
  · have empty : table.rows.filter passes = [] :=
      List.filter_eq_nil_iff.mpr fun row member => by rw [nothing row member]; exact Bool.false_ne_true
    rw [empty]
    have none' : ∀ row : Row, (behind position row (ordered position [])).take take = [] := by
      intro row
      simp [behind, ordered]
    cases cursor with
    | none => rfl
    | some key =>
      dsimp only
      split <;> split <;> simp only [none']

/-- A row of another owner can be written under a key that is not the owner's. -/
theorem agree_put {row : Row} (foreign : ¬own row) (free : ∀ stored, table.get (Keyed.key row) = some stored → ¬own stored) :
    Agree own table (table.put row) := by
  intro stored owned
  rw [Table.mem_put]
  constructor
  · intro member
    refine .inr ⟨member, ?_⟩
    intro same
    exact free stored (same ▸ Table.get_of_mem member) owned
  · rintro (rfl | ⟨member, -⟩)
    · exact absurd owned foreign
    · exact member

theorem filter_put {row : Row} (foreign : passes row = false)
    (free : ∀ stored, table.get (Keyed.key row) = some stored → passes stored = false) {stored : Row} :
    stored ∈ (table.put row).rows.filter passes ↔ stored ∈ table.rows.filter passes := by
  rw [List.mem_filter, List.mem_filter, ← Table.mem_def, ← Table.mem_def, Table.mem_put]
  constructor
  · rintro ⟨rfl | ⟨member, -⟩, passed⟩
    · rw [foreign] at passed
      cases passed
    · exact ⟨member, passed⟩
  · rintro ⟨member, passed⟩
    refine ⟨.inr ⟨member, ?_⟩, passed⟩
    intro same
    rw [free stored (same ▸ Table.get_of_mem member)] at passed
    cases passed

/-- A query is answered alike over all tables with the same rows of the owner exactly when it
is anchored, where another owner's row can stand at either end of the order. -/
theorem agree_iff (within : ∀ row, passes row = true → own row)
    (separates : ∀ one other : Row, position one = position other → Keyed.key one = Keyed.key other)
    (ends : ∀ (key : Key) (rows : List Row), ∃ early late : Row, Keyed.key early = key ∧ Keyed.key late = key ∧
      ¬own early ∧ ¬own late ∧ ∀ row ∈ rows, position early < position row ∧ position row < position late)
    (some' : 0 < take) :
    (∀ other, Agree own table other →
      findMany position passes cursor take other = findMany position passes cursor take table) ↔
      Anchored own passes cursor table := by
  constructor
  · intro same
    by_contra loose
    unfold Anchored at loose
    push Not at loose
    obtain ⟨given, foreign, witness, member, passed⟩ := loose
    obtain ⟨key, rfl⟩ := Option.ne_none_iff_exists'.mp given
    obtain ⟨early, late, keyed, keyed', notOwn, notOwn', between⟩ := ends key table.rows
    have free : ∀ stored, table.get key = some stored → ¬own stored := by
      intro stored found owned
      exact foreign stored (Table.mem_of_get found) owned (by rw [Table.key_of_get found])
    have unpassed : ∀ row, ¬own row → passes row = false :=
      fun row none' => Bool.eq_false_iff.mpr fun passed => none' (within row passed)
    have atEnd : ∀ row : Row, Keyed.key row = key → ¬own row →
        findMany position passes (some key) take table =
            (behind position row (ordered position ((table.put row).rows.filter passes))).take take ∧
          ∀ stored, stored ∈ (table.put row).rows.filter passes ↔ stored ∈ table.rows.filter passes := by
      intro row rowKey rowForeign
      subst rowKey
      constructor
      · rw [← same (table.put row) (agree_put rowForeign free)]
        simp only [findMany, Table.get_put_self]
      · intro stored
        exact filter_put (unpassed row rowForeign) fun stored found => unpassed stored (free stored found)
    obtain ⟨first, members⟩ := atEnd early keyed notOwn
    obtain ⟨last, members'⟩ := atEnd late keyed' notOwn'
    have nothing : behind position early (ordered position ((table.put early).rows.filter passes)) = [] := by
      apply List.filter_eq_nil_iff.mpr
      intro row found
      have stored := (List.mem_filter.mp ((members row).mp (mem_ordered.mp found))).1
      simpa using (between row stored).1.le
    have something : witness ∈ behind position late (ordered position ((table.put late).rows.filter passes)) := by
      refine List.mem_filter.mpr ⟨mem_ordered.mpr ((members' witness).mpr (List.mem_filter.mpr ⟨member, ?_⟩)), ?_⟩
      · simpa using passed
      · simpa using (between witness member).2
    rw [nothing, List.take_nil] at first
    rw [first] at last
    have empty := List.take_eq_nil_iff.mp last.symm
    rcases empty with zero | empty
    · omega
    · rw [empty] at something
      cases something
  · intro anchored other agree
    exact anchored.agree agree within separates

end Owners

end PactAgent.Foundation.Pages
