import IssuePlanner.Number.Scaled
import Mathlib.Algebra.Order.Field.Power
import Mathlib.Data.Nat.Cast.Order.Field
import Mathlib.Tactic.Linarith
import Mathlib.Tactic.Positivity
import Mathlib.Tactic.NormNum
import Mathlib.Tactic.Ring
import Mathlib.Tactic.FieldSimp

/-! Which numbers are in the range of floats. A quotient has a nearest float exactly if it is below `2 ^ 1024 - 2 ^ 970`
(`quotientBits_isSome_iff`), the middle between the largest float and the next power of two. -/

namespace IssuePlanner.Number

/-- From here on a number is out of the range of floats. -/
def rangeEnd : Nat := 2 ^ 1024 - 2 ^ 970

theorem rangeEnd_eq : (rangeEnd : ℚ) = (2 ^ 54 - 1) * 2 ^ (970 : Int) := by
  have h : rangeEnd = (2 ^ 54 - 1) * 2 ^ 970 := by
    unfold rangeEnd
    rw [Nat.sub_mul, ← Nat.pow_add, Nat.one_mul]
  rw [h, Nat.cast_mul, Nat.cast_pow, ← zpow_natCast]
  norm_num1
  rfl

/-! ### Rounding a quotient -/

theorem roundQuotient_le {n d k : Nat} (hd : 0 < d) (h : n ≤ k * d) : roundQuotient n d ≤ k := by
  have hdiv := Nat.div_add_mod n d
  have hq : n / d ≤ k := Nat.div_le_of_le_mul (by rwa [Nat.mul_comm])
  unfold roundQuotient
  dsimp only
  rcases hq.lt_or_eq with hq | hq
  · split_ifs <;> omega
  · have hr : n % d = 0 := by
      rw [hq, Nat.mul_comm] at hdiv
      omega
    rw [if_pos (by omega)]
    omega

/-- A tie above an odd number goes up. -/
theorem roundQuotient_le_iff {n d k : Nat} (hd : 0 < d) (hk : k % 2 = 1) :
    roundQuotient n d ≤ k ↔ 2 * n < (2 * k + 1) * d := by
  have hdiv := Nat.div_add_mod n d
  have hmod := Nat.mod_lt n hd
  have hexpand : (2 * k + 1) * d = 2 * (d * k) + d := by ring
  unfold roundQuotient
  dsimp only
  rw [hexpand]
  rcases Nat.lt_trichotomy (n / d) k with hq | hq | hq
  · have hle : d * (n / d + 1) ≤ d * k := Nat.mul_le_mul_left d hq
    rw [Nat.mul_add, Nat.mul_one] at hle
    split_ifs <;> omega
  · rw [hq] at hdiv ⊢
    split_ifs <;> omega
  · have hle : d * (k + 1) ≤ d * (n / d) := Nat.mul_le_mul_left d hq
    rw [Nat.mul_add, Nat.mul_one] at hle
    split_ifs <;> omega

/-! ### The exponent of a quotient -/

variable {num den : Nat}

theorem shifted_snd_pos (hden : 0 < den) (e : Int) : 0 < (shifted num den e).2 := by
  cases e with
  | ofNat k => exact hden
  | negSucc k =>
    show 0 < den <<< (k + 1)
    rw [Nat.shiftLeft_eq]
    positivity

theorem shifted_div (hden : 0 < den) (e : Int) :
    ((shifted num den e).1 : ℚ) / (shifted num den e).2 = num / den * 2 ^ e := by
  have hden' : (den : ℚ) ≠ 0 := by exact_mod_cast hden.ne'
  cases e with
  | ofNat k =>
    show ((num <<< k : Nat) : ℚ) / den = num / den * 2 ^ (k : Int)
    rw [Nat.shiftLeft_eq, zpow_natCast]
    push_cast
    field_simp
  | negSucc k =>
    show (num : ℚ) / ((den <<< (k + 1) : Nat) : ℚ) = num / den * 2 ^ (Int.negSucc k)
    rw [Nat.shiftLeft_eq, zpow_negSucc]
    push_cast
    field_simp

theorem two_zpow_add (e : Int) (k : Nat) : (2 : ℚ) ^ (e + k) = 2 ^ k * 2 ^ e := by
  rw [zpow_add₀ two_ne_zero, zpow_natCast, mul_comm]

theorem shifted_lt_iff (hden : 0 < den) (e : Int) (c : ℚ) :
    ((shifted num den (-e)).1 : ℚ) < c * (shifted num den (-e)).2 ↔ (num / den : ℚ) < c * 2 ^ e := by
  have hpos : (0 : ℚ) < (shifted num den (-e)).2 := by exact_mod_cast shifted_snd_pos hden (-e)
  have htwo : (0 : ℚ) < 2 ^ e := by positivity
  rw [← div_lt_iff₀ hpos, shifted_div hden, zpow_neg, ← div_eq_mul_inv, div_lt_iff₀ htwo]

theorem log2_spec {n : Nat} (hn : n ≠ 0) : (2 : ℚ) ^ (n.log2 : Int) ≤ n ∧ (n : ℚ) < 2 ^ ((n.log2 : Int) + 1) := by
  have hlow := Nat.log2_self_le hn
  have hhigh := Nat.lt_log2_self (n := n)
  constructor
  · rw [zpow_natCast]
    exact_mod_cast hlow
  · rw [← Nat.cast_succ, zpow_natCast]
    exact_mod_cast hhigh

theorem exponent_spec (hnum : num ≠ 0) (hden : 0 < den) :
    (2 : ℚ) ^ (exponent num den + 52) ≤ num / den ∧ (num / den : ℚ) < 2 ^ (exponent num den + 53) := by
  have hden' : (0 : ℚ) < den := by exact_mod_cast hden
  obtain ⟨hnum1, hnum2⟩ := log2_spec hnum
  obtain ⟨hden1, hden2⟩ := log2_spec hden.ne'
  set e : Int := (num.log2 : Int) - den.log2 - 53 with he
  have hlow : (2 : ℚ) ^ (e + 52) ≤ num / den := by
    rw [le_div_iff₀ hden']
    calc (2 : ℚ) ^ (e + 52) * den ≤ 2 ^ (e + 52) * 2 ^ ((den.log2 : Int) + 1) := by gcongr
      _ = 2 ^ (num.log2 : Int) := by rw [← zpow_add₀ two_ne_zero]; congr 1; omega
      _ ≤ num := hnum1
  have hhigh : (num / den : ℚ) < 2 ^ (e + 54) := by
    rw [div_lt_iff₀ hden']
    calc (num : ℚ) < 2 ^ ((num.log2 : Int) + 1) := hnum2
      _ = 2 ^ (e + 54) * 2 ^ (den.log2 : Int) := by rw [← zpow_add₀ two_ne_zero]; congr 1; omega
      _ ≤ 2 ^ (e + 54) * den := by gcongr
  have hsplit : (shifted num den (-e)).1 / (shifted num den (-e)).2 < 1 <<< 53 ↔ (num / den : ℚ) < 2 ^ (e + 53) := by
    have hpow : (2 : ℚ) ^ (e + 53) = 2 ^ 53 * 2 ^ e := two_zpow_add e 53
    rw [Nat.div_lt_iff_lt_mul (shifted_snd_pos hden (-e)), hpow, ← shifted_lt_iff hden e]
    norm_cast
  unfold exponent
  simp only [← he]
  split_ifs with h
  · exact ⟨hlow, hsplit.1 h⟩
  · have hmid := not_lt.1 (mt hsplit.2 h)
    rw [show e + 1 + 52 = e + 53 by omega, show e + 1 + 53 = e + 54 by omega]
    exact ⟨hmid, hhigh⟩

/-- The quotient in units of `2 ^ e`, rounded. -/
def significand (num den : Nat) (e : Int) : Nat :=
  roundQuotient (shifted num den (-e)).1 (shifted num den (-e)).2

theorem significand_le (hden : 0 < den) {e : Int} (h : (num / den : ℚ) < 2 ^ (e + 53)) :
    significand num den e ≤ 2 ^ 53 := by
  have hpow : (2 : ℚ) ^ (e + 53) = 2 ^ 53 * 2 ^ e := two_zpow_add e 53
  rw [hpow, ← shifted_lt_iff hden e] at h
  apply roundQuotient_le (shifted_snd_pos hden (-e))
  exact_mod_cast h.le

theorem le_significand (hden : 0 < den) {e : Int} (h : (2 : ℚ) ^ (e + 52) ≤ num / den) :
    2 ^ 52 ≤ significand num den e := by
  have hpow : (2 : ℚ) ^ (e + 52) = 2 ^ 52 * 2 ^ e := two_zpow_add e 52
  rw [hpow, ← not_lt, ← shifted_lt_iff hden e, not_lt] at h
  have hle : 2 ^ 52 * (shifted num den (-e)).2 ≤ (shifted num den (-e)).1 := by exact_mod_cast h
  by_contra hlt
  have hround := (roundQuotient_le_iff (k := 2 ^ 52 - 1) (shifted_snd_pos hden (-e)) (by decide)).1
    (Nat.le_sub_one_of_lt (not_le.1 hlt))
  omega

theorem significand_lt_iff (hden : 0 < den) (e : Int) :
    significand num den (e + 1) < 2 ^ 53 ↔ (num / den : ℚ) < (2 ^ 54 - 1) * 2 ^ e := by
  have hpow : (2 ^ 54 - 1 : ℚ) * 2 ^ e = (2 ^ 54 - 1) / 2 * 2 ^ (e + 1) := by
    rw [zpow_add_one₀ two_ne_zero]
    ring
  rw [hpow, ← shifted_lt_iff hden, Nat.lt_iff_le_pred (by decide), significand,
    roundQuotient_le_iff (shifted_snd_pos hden _) (by decide), ← @Nat.cast_lt ℚ]
  push_cast
  constructor
  · intro h
    linarith
  · intro h
    linarith

/-- The bits for a significand and an exponent stay in range up to the largest exponent, where the significand must not
be rounded up to the next power of two. -/
theorem bits_lt_iff {e : Int} {m : Nat} (hm : m ≤ 2 ^ 53) :
    (if m < 1 <<< 52 then m else (((e + 1074).toNat + 1) <<< 52) + (m - (1 <<< 52))) < 0x7ff <<< 52 ↔
      m < 2 ^ 52 ∨ e ≤ 970 ∨ e = 971 ∧ m < 2 ^ 53 := by
  simp only [Nat.shiftLeft_eq]
  split_ifs <;> omega

/-- A quotient has a nearest float exactly if it is below the end of the range. -/
theorem quotientBits_isSome_iff (num : Nat) (hden : 0 < den) :
    (quotientBits num den).isSome ↔ (num / den : ℚ) < rangeEnd := by
  rw [rangeEnd_eq]
  unfold quotientBits
  split_ifs with hnum
  · rw [hnum, Nat.cast_zero, zero_div]
    exact iff_of_true rfl (by positivity)
  obtain ⟨hlow, hhigh⟩ := exponent_spec hnum hden
  generalize exponent num den = e₀ at hlow hhigh
  set e := max e₀ (-1074) with he
  have hbelow : (num / den : ℚ) < 2 ^ (e + 53) := hhigh.trans_le (zpow_le_zpow_right₀ one_le_two (by omega))
  have hbits := bits_lt_iff (e := e) (significand_le hden hbelow)
  refine Option.isSome_ite.trans (hbits.trans ?_)
  rcases lt_trichotomy e 971 with hlt | heq | hgt
  · have hend : (2 : ℚ) ^ (e + 53) ≤ (2 ^ 54 - 1) * 2 ^ (970 : Int) := by
      calc (2 : ℚ) ^ (e + 53) ≤ 2 ^ ((970 : Int) + 53) := zpow_le_zpow_right₀ one_le_two (by omega)
        _ = 2 ^ 53 * 2 ^ (970 : Int) := two_zpow_add 970 53
        _ ≤ (2 ^ 54 - 1) * 2 ^ (970 : Int) := by gcongr; norm_num1
    exact iff_of_true (.inr (.inl (by omega))) (hbelow.trans_le hend)
  · have hnormal := le_significand hden (e := e) (by rwa [show e = e₀ by omega])
    rw [← significand_lt_iff hden, show (970 : Int) + 1 = e by omega]
    omega
  · have hlow' : (2 : ℚ) ^ (e + 52) ≤ num / den := by rwa [show e = e₀ by omega]
    have hnormal := le_significand hden hlow'
    have hend : (2 ^ 54 - 1 : ℚ) * 2 ^ (970 : Int) ≤ 2 ^ (e + 52) := by
      calc (2 ^ 54 - 1 : ℚ) * 2 ^ (970 : Int) ≤ 2 ^ 54 * 2 ^ (970 : Int) := by gcongr; norm_num1
        _ = 2 ^ ((970 : Int) + 54) := (two_zpow_add 970 54).symm
        _ ≤ 2 ^ (e + 52) := zpow_le_zpow_right₀ one_le_two (by omega)
    exact iff_of_false (by omega) (not_lt.2 (hend.trans hlow'))

/-! ### Products -/

theorem quotientBits_lt {bits : Nat} (h : quotientBits num den = some bits) : bits < 0x7ff <<< 52 := by
  unfold quotientBits at h
  split_ifs at h with hnum
  · cases h
    decide
  · obtain ⟨hlt, heq⟩ := Option.ite_none_right_eq_some.1 h
    cases heq
    exact hlt

theorem wholePart_lt {bits : Nat} (h : bits < 0x7ff <<< 52) : (wholePart bits : ℚ) < rangeEnd := by
  have hcut (m : Nat) (q : Int) (hm : m < 2 ^ 53) (hq : q ≤ 971) :
      (((shifted m 1 q).1 / (shifted m 1 q).2 : Nat) : ℚ) < rangeEnd := by
    have hm' : (m : ℚ) ≤ 2 ^ 53 - 1 := by
      have : m + 1 ≤ 2 ^ 53 := hm
      have : (m : ℚ) + 1 ≤ 2 ^ 53 := by exact_mod_cast this
      linarith
    calc (((shifted m 1 q).1 / (shifted m 1 q).2 : Nat) : ℚ)
        ≤ (shifted m 1 q).1 / (shifted m 1 q).2 := Nat.cast_div_le
      _ = m * 2 ^ q := by rw [shifted_div Nat.one_pos, Nat.cast_one, div_one]
      _ ≤ (2 ^ 53 - 1) * 2 ^ (971 : Int) := by
        gcongr
        exact one_le_two
      _ = (2 ^ 54 - 2) * 2 ^ (970 : Int) := by
        rw [show (971 : Int) = 970 + 1 by rfl, zpow_add_one₀ two_ne_zero]
        ring
      _ < (2 ^ 54 - 1) * 2 ^ (970 : Int) := by
        gcongr
        exact one_lt_two
      _ = rangeEnd := rangeEnd_eq.symm
  have hexponent : (bits >>> 52) % 2048 ≤ 2046 := by
    rw [Nat.shiftRight_eq_div_pow]
    omega
  have hfraction : bits % (1 <<< 52) < 2 ^ 52 := Nat.mod_lt bits (by decide)
  have hone : 1 <<< 52 = 2 ^ 52 := rfl
  unfold wholePart
  dsimp only
  split_ifs with he
  · exact hcut _ _ (by omega) (by decide)
  · exact hcut _ _ (by omega) (by omega)

theorem nearestWhole?_isSome_iff (n : Nat) : (nearestWhole? n).isSome ↔ n < rangeEnd := by
  rw [nearestWhole?, Option.isSome_map, quotientBits_isSome_iff n Nat.one_pos, Nat.cast_one, div_one]
  norm_cast

theorem scaledWhole?_isSome_iff (n m : Nat) (q : Int) :
    (scaledWhole? n m q).isSome ↔ (n * m * 2 ^ q : ℚ) < rangeEnd := by
  unfold scaledWhole?
  dsimp only
  rw [Option.isSome_map, quotientBits_isSome_iff _ (shifted_snd_pos Nat.one_pos q), shifted_div Nat.one_pos]
  rw [Nat.cast_mul, Nat.cast_one, div_one]

/-- The product of a whole number and `m * 2 ^ q` is in the range of floats. The whole number is itself made a float
first. -/
def InRange (i : Int) (m : Nat) (q : Int) : Prop :=
  ∃ n, nearestWhole? i.natAbs = some n ∧ (n * m * 2 ^ q : ℚ) < rangeEnd

theorem inRange_iff_of_le_one {i : Int} {m : Nat} {q : Int} (h : (m * 2 ^ q : ℚ) ≤ 1) :
    InRange i m q ↔ i.natAbs < rangeEnd := by
  rw [← nearestWhole?_isSome_iff, Option.isSome_iff_exists]
  refine exists_congr fun n => and_iff_left_of_imp ?_
  intro hn
  obtain ⟨bits, hbits, rfl⟩ := Option.map_eq_some_iff.1 hn
  have hlt := wholePart_lt (quotientBits_lt hbits)
  calc (wholePart bits * m * 2 ^ q : ℚ) = wholePart bits * (m * 2 ^ q) := mul_assoc _ _ _
    _ ≤ wholePart bits * 1 := mul_le_mul_of_nonneg_left h (Nat.cast_nonneg _)
    _ < rangeEnd := (mul_one _).trans_lt hlt

theorem timesCutOff_of_inRange {i : Int} {x : Float} {negative : Bool} {m : Nat} {q : Int}
    (hx : view x = .finite negative m q) (h : InRange i m q) : ∃ k, timesCutOff i x = .ok k := by
  obtain ⟨n, hn, hlt⟩ := h
  obtain ⟨k, hk⟩ := Option.isSome_iff_exists.1 ((scaledWhole?_isSome_iff n m q).2 hlt)
  refine ⟨withSign (decide (i < 0) != negative) k, ?_⟩
  simp only [timesCutOff, hn, hx, hk]

theorem timesCutOff_of_not_inRange {i : Int} {x : Float} {negative : Bool} {m : Nat} {q : Int}
    (hx : view x = .finite negative m q) (h : ¬ InRange i m q) :
    timesCutOff i x = .error (if i.natAbs < rangeEnd then .infinite else .factorTooLarge) := by
  unfold timesCutOff
  cases hn : nearestWhole? i.natAbs with
  | none =>
    have hlarge : ¬ i.natAbs < rangeEnd := by
      rw [← nearestWhole?_isSome_iff, hn]
      decide
    rw [if_neg hlarge]
  | some n =>
    have hsmall : i.natAbs < rangeEnd := by
      rw [← nearestWhole?_isSome_iff, hn]
      rfl
    have hnone : scaledWhole? n m q = none := by
      rw [← Option.not_isSome_iff_eq_none, scaledWhole?_isSome_iff]
      exact fun hlt => h ⟨n, hn, hlt⟩
    simp only [hx, hnone, if_pos hsmall]

end IssuePlanner.Number
