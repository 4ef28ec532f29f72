import IssuePlanner.Data.Arithmetic
import IssuePlanner.Proofs.Number.Range

/-! The sign of a product. A float that is not below zero has a sign only if it is a zero, so the whole part of its
product with a number that is not negative is not negative either (`Numeric.timesCutOff_nonneg`). -/

namespace IssuePlanner

namespace Number

theorem shifted_fst_eq_zero_iff {num den : Nat} (e : Int) : (shifted num den e).1 = 0 ↔ num = 0 := by
  cases e with
  | ofNat k => simp [shifted, Nat.shiftLeft_eq]
  | negSucc k => simp [shifted]

/-- A float that is not below zero has a sign only if it is zero. -/
theorem eq_zero_of_compareWhole? {x : Float} (h : compareWhole? 0 x = some .lt ∨ compareWhole? 0 x = some .eq) {m : Nat}
    {q : Int} (hx : view x = .finite true m q) : m = 0 := by
  have hcompare : compareWhole? 0 x = some (compare 0 (-((shifted m 1 q).1 : Int))) := by
    simp [compareWhole?, hx, withSign]
  rw [hcompare, Option.some.injEq, Option.some.injEq, compare_lt_iff_lt, compare_eq_iff_eq] at h
  refine (@shifted_fst_eq_zero_iff m 1 q).1 ?_
  omega

theorem scaledWhole?_zero (n : Nat) (q : Int) : scaledWhole? n 0 q = some 0 := by
  have hnum : (shifted (n * 0) 1 q).1 = 0 := (shifted_fst_eq_zero_iff q).2 (Nat.mul_zero n)
  unfold scaledWhole?
  dsimp only
  rw [hnum, quotientBits, if_pos rfl]
  decide +kernel

end Number

namespace Datum.Numeric

/-- The whole part of a product of numbers that are not negative is not negative. -/
theorem timesCutOff_nonneg {i k : Int} {a : Numeric} (hi : 0 ≤ i) (ha : 0 ≤ a) (h : a.timesCutOff i = .ok k) :
    0 ≤ k := by
  cases a with
  | whole j =>
    have hj : compare 0 j = .lt ∨ compare 0 j = .eq := ha.imp Option.some.inj Option.some.inj
    rw [compare_lt_iff_lt, compare_eq_iff_eq] at hj
    cases h
    exact mul_nonneg hi (by omega)
  | real x =>
    replace h : Number.timesCutOff i x = .ok k := h
    unfold Number.timesCutOff at h
    rw [decide_eq_false (not_lt.2 hi)] at h
    split at h
    · cases h
    · split at h
      · cases h
      · cases h
      · next negative m q hview =>
        split at h
        · next w hscaled =>
          cases h
          cases negative with
          | false => exact Int.natCast_nonneg w
          | true =>
            rw [Number.eq_zero_of_compareWhole? ha hview, Number.scaledWhole?_zero] at hscaled
            cases hscaled
            decide
        · cases h

end Datum.Numeric

end IssuePlanner
