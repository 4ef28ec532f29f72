import IssuePlanner.Text.Lines

/-! Texts in the order of their characters' numbers. `sort` keeps every copy of a text, `sortedSet` one. -/

namespace IssuePlanner.Text

def atMost (s t : String) : Bool := !decide (t < s)

def sort (xs : List String) : List String := xs.mergeSort atMost

def dropRepeats : List String → List String
  | [] => []
  | [x] => [x]
  | x :: y :: r => if x = y then dropRepeats (y :: r) else x :: dropRepeats (y :: r)

def sortedSet (xs : List String) : List String := dropRepeats (sort xs)

theorem sort_perm (xs : List String) : (sort xs).Perm xs := List.mergeSort_perm xs atMost

theorem mem_dropRepeats {x : String} {xs : List String} : x ∈ dropRepeats xs ↔ x ∈ xs := by
  fun_induction dropRepeats xs with
  | case1 => simp
  | case2 => simp
  | case3 y r ih => rw [ih]; simp
  | case4 y z r _ ih => simp [ih]

theorem mem_sortedSet {x : String} {xs : List String} : x ∈ sortedSet xs ↔ x ∈ xs := by
  rw [sortedSet, mem_dropRepeats, (sort_perm xs).mem_iff]

end IssuePlanner.Text
