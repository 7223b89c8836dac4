import Mathlib

/-! A stable sort by a total preorder as a canonical form: two lists are sorted alike exactly
when they are permutations of each other and list the elements of each class in one order. -/

namespace PactAgent.Foundation.StableSort
variable {α β : Type} {le : α → α → Bool}

/-- Neither element is before the other. -/
def ties (le : α → α → Bool) (first second : α) : Bool := le first second && le second first

section Classes
variable (trans : ∀ first second third, le first second = true → le second third = true → le first third = true)
  (total : ∀ first second, (le first second || le second first) = true)
include trans total

theorem ties_self (element : α) : ties le element element = true := by
  have either := total element element
  rw [Bool.or_self] at either
  rw [ties, either, Bool.and_self]

/-- Elements that are all before each other stay in the order of the list. -/
theorem filter_mergeSort {test : α → Bool} (list : List α)
    (alike : ∀ first second, test first = true → test second = true → le first second = true) :
    (list.mergeSort le).filter test = list.filter test := by
  have pairwise : (list.filter test).Pairwise fun first second => le first second = true := by
    apply List.pairwise_of_forall_mem_list
    intro first member second member'
    exact alike first second (List.mem_filter.mp member).2 (List.mem_filter.mp member').2
  have kept : (list.filter test).Sublist (list.mergeSort le) :=
    List.sublist_mergeSort trans total pairwise List.filter_sublist
  have inside := kept.filter test
  rw [List.filter_filter] at inside
  simp only [Bool.and_self] at inside
  have length := ((List.mergeSort_perm list le).filter test).length_eq
  exact (inside.eq_of_length length.symm).symm

omit total in
theorem ties_alike (element first second : α) (head : ties le element first = true)
    (tail : ties le element second = true) : le first second = true := by
  simp only [ties, Bool.and_eq_true] at head tail
  exact trans first element second head.2 tail.1

/-- Sorted permutations of each other with the same classes are equal. -/
theorem eq_of_sorted {first second : List α} (perm : first.Perm second)
    (sorted : first.Pairwise fun a b => le a b = true) (sorted' : second.Pairwise fun a b => le a b = true)
    (classes : ∀ element, first.filter (ties le element) = second.filter (ties le element)) : first = second := by
  induction first generalizing second with
  | nil => exact perm.nil_eq
  | cons head tail ih =>
    cases second with
    | nil => exact perm.eq_nil
    | cons other rest =>
      obtain ⟨least, tailSorted⟩ := List.pairwise_cons.mp sorted
      obtain ⟨least', restSorted⟩ := List.pairwise_cons.mp sorted'
      have here := ties_self trans total head
      have own : ties le head other = true := by
        by_cases same : head = other
        · rw [same]
          exact ties_self trans total other
        · have inTail : other ∈ tail := by
            rcases List.mem_cons.mp (perm.mem_iff.mpr List.mem_cons_self) with equal | inside
            · exact absurd equal.symm same
            · exact inside
          have inRest : head ∈ rest := by
            rcases List.mem_cons.mp (perm.mem_iff.mp List.mem_cons_self) with equal | inside
            · exact absurd equal same
            · exact inside
          rw [ties, least other inTail, least' head inRest, Bool.and_self]
      have class' := classes head
      rw [List.filter_cons_of_pos here, List.filter_cons_of_pos own] at class'
      obtain rfl := (List.cons.inj class').1
      rw [ih (List.Perm.cons_inv perm) tailSorted restSorted fun element => ?_]
      have equal := classes element
      rw [List.filter_cons, List.filter_cons] at equal
      split at equal
      · exact (List.cons.inj equal).2
      · exact equal

end Classes

end PactAgent.Foundation.StableSort
