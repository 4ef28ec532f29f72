import IssuePlanner.Text.Order
import Mathlib.Data.List.Sort
import Mathlib.Data.String.Basic

/-! Sorting texts. A sorted set is strictly increasing (`sortedSet_pairwise`), so it depends only on which texts
are in it (`sortedSet_congr`). A sorted list depends only on how often each text is in it (`sort_eq_of_perm`). -/

namespace IssuePlanner.Text

theorem atMost_iff {s t : String} : atMost s t = true ↔ s ≤ t := by
  rw [atMost, Bool.not_eq_true', decide_eq_false_iff_not, not_lt]

theorem sort_pairwise (xs : List String) : (sort xs).Pairwise (· ≤ ·) := by
  have h : (xs.mergeSort atMost).Pairwise fun a b => atMost a b = true := by
    apply List.pairwise_mergeSort
    · intro a b c hab hbc
      exact atMost_iff.2 ((atMost_iff.1 hab).trans (atMost_iff.1 hbc))
    · intro a b
      rw [Bool.or_eq_true, atMost_iff, atMost_iff]
      exact le_total a b
  exact h.imp atMost_iff.1

theorem dropRepeats_pairwise {xs : List String} (h : xs.Pairwise (· ≤ ·)) :
    (dropRepeats xs).Pairwise (· < ·) := by
  fun_induction dropRepeats xs with
  | case1 => exact .nil
  | case2 x => exact List.pairwise_singleton _ x
  | case3 y r ih => exact ih h.of_cons
  | case4 x y r hne ih =>
    obtain ⟨hx, hr⟩ := List.pairwise_cons.1 h
    have hxy : x < y := lt_of_le_of_ne (hx y (by simp)) hne
    refine List.pairwise_cons.2 ⟨fun z hz => ?_, ih hr⟩
    rcases List.mem_cons.1 (mem_dropRepeats.1 hz) with rfl | hz
    · exact hxy
    · exact hxy.trans_le ((List.pairwise_cons.1 hr).1 z hz)

theorem sortedSet_pairwise (xs : List String) : (sortedSet xs).Pairwise (· < ·) :=
  dropRepeats_pairwise (sort_pairwise xs)

theorem sort_eq_of_perm {xs ys : List String} (h : xs.Perm ys) : sort xs = sort ys :=
  ((sort_perm xs).trans (h.trans (sort_perm ys).symm)).eq_of_pairwise (fun _ _ _ _ => le_antisymm)
    (sort_pairwise xs) (sort_pairwise ys)

theorem sortedSet_congr {xs ys : List String} (h : ∀ x, x ∈ xs ↔ x ∈ ys) : sortedSet xs = sortedSet ys := by
  apply (sortedSet_pairwise xs).eq_of_mem_iff (sortedSet_pairwise ys)
  intro x
  rw [mem_sortedSet, mem_sortedSet, h]

theorem exists_append_of_between {cs ds es : List Char} (h : cs < ds) (h' : ds < cs ++ es) :
    ∃ rest, ds = cs ++ rest ∧ rest ≠ [] ∧ rest < es := by
  induction cs generalizing ds with
  | nil => exact ⟨ds, rfl, by rintro rfl; exact List.not_lt_nil _ h, h'⟩
  | cons c cs ih =>
    cases ds with
    | nil => exact absurd h (List.not_lt_nil _)
    | cons d ds =>
      rw [List.cons_append, List.cons_lt_cons_iff] at h'
      rcases List.cons_lt_cons_iff.1 h with hcd | ⟨rfl, htail⟩
      · rcases h' with hdc | ⟨rfl, -⟩
        · exact absurd hcd hdc.asymm
        · exact absurd hcd (lt_irrefl _)
      · rcases h' with hdc | ⟨-, htail'⟩
        · exact absurd hdc (lt_irrefl _)
        · obtain ⟨rest, rfl, hrest⟩ := ih htail htail'
          exact ⟨rest, rfl, hrest⟩

theorem lt_append_cons (cs : List Char) (c : Char) (rest : List Char) : cs < cs ++ c :: rest := by
  have hlt : cs ++ [] < cs ++ c :: rest := List.append_left_lt (List.nil_lt_cons c rest)
  rwa [List.append_nil] at hlt

theorem not_lt_empty (s : String) : ¬ s < "" := by
  rw [String.lt_iff]
  exact List.not_lt_nil _

end IssuePlanner.Text
