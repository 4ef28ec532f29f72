import IssuePlanner.Chunk.Sentences
import IssuePlanner.Proofs.Text.Solid
import IssuePlanner.Proofs.Tokens.Count

/-! Where the first chunk of a text ends. A text that fits, and any text under a negative target, is not cut.
Otherwise the cut is at most one character behind the longest prefix that fits, and it is behind the first
character as soon as that one fits. -/

namespace IssuePlanner.Text

theorem findAt_isInfix {pat cs : List Char} {k n : Nat} (h : findAt pat k cs = some n) : pat <:+: cs := by
  induction cs generalizing k with
  | nil =>
    simp only [findAt, Option.ite_none_right_eq_some] at h
    exact h.1 ▸ List.infix_rfl
  | cons c cs ih =>
    simp only [findAt] at h
    split_ifs at h with hp
    · exact (List.isPrefixOf_iff_prefix.1 hp).isInfix
    · exact List.infix_cons (ih h)

theorem isSome_findAt {pat cs : List Char} (h : pat <:+: cs) (k : Nat) : (findAt pat k cs).isSome = true := by
  induction cs generalizing k with
  | nil => simp [findAt, List.infix_nil.1 h]
  | cons c cs ih =>
    rw [findAt]
    split_ifs with hp
    · rfl
    · rcases List.infix_cons_iff.1 h with hprefix | hinfix
      · exact absurd (List.isPrefixOf_iff_prefix.2 hprefix) hp
      · exact ih hinfix (k + 1)

theorem occurs_iff_isInfix {pat cs : List Char} : occurs pat cs = true ↔ pat <:+: cs := by
  constructor
  · intro h
    obtain ⟨n, hn⟩ := Option.isSome_iff_exists.1 h
    exact findAt_isInfix hn
  · exact fun h => isSome_findAt h 0

theorem findAt_some {pat cs : List Char} {k n : Nat} (h : findAt pat k cs = some n) :
    k ≤ n ∧ n + pat.length ≤ k + cs.length := by
  induction cs generalizing k with
  | nil =>
    simp only [findAt, Option.ite_none_right_eq_some, Option.some.injEq] at h
    obtain ⟨rfl, rfl⟩ := h
    simp
  | cons c cs ih =>
    simp only [findAt] at h
    split_ifs at h with hp
    · cases h
      have := (List.isPrefixOf_iff_prefix.1 hp).length_le
      exact ⟨le_rfl, by omega⟩
    · obtain ⟨h1, h2⟩ := ih h
      rw [List.length_cons]
      exact ⟨by omega, by omega⟩

theorem findLast_some {cs pat : List Char} {n : Nat} (h : findLast cs pat = some n) :
    n + pat.length ≤ cs.length := by
  obtain ⟨k, hk, rfl⟩ := Option.map_eq_some_iff.1 h
  have := (findAt_some hk).2
  simp only [List.length_reverse] at this
  omega

theorem findAt_singleton_eq_none {c : Char} {cs : List Char} (h : c ∉ cs) (k : Nat) : findAt [c] k cs = none := by
  induction cs generalizing k with
  | nil => rfl
  | cons d cs ih =>
    obtain ⟨hd, hr⟩ := List.ne_and_not_mem_of_not_mem_cons h
    rw [findAt, if_neg (by simpa using hd), ih hr]

theorem findLast_singleton_eq_none {c : Char} {cs : List Char} (h : c ∉ cs) : findLast cs [c] = none := by
  rw [findLast, List.reverse_singleton, findAt_singleton_eq_none (by simpa using h), Option.map_none]

end IssuePlanner.Text

namespace IssuePlanner.Chunk

open Tokens

/-! ### Split points -/

theorem lastPlace?_some {cs pat : List Char} {n : Nat} (h : lastPlace? cs pat = some n) :
    0 < n ∧ n + pat.length ≤ cs.length := by
  obtain ⟨hf, hn⟩ := Option.filter_eq_some_iff.1 h
  exact ⟨by simpa using hn, Text.findLast_some hf⟩

theorem sentenceEnd?_some {cs : List Char} {n : Nat} (h : sentenceEnd? cs = some n) :
    0 < n ∧ n + 2 ≤ cs.length := by
  have hm := List.max?_mem h
  obtain ⟨pat, hpat, hp⟩ := List.mem_filterMap.1 hm
  have hlen : pat.length = 2 := by
    simp only [List.mem_cons, List.not_mem_nil, or_false] at hpat
    rcases hpat with rfl | rfl | rfl <;> rfl
  rw [← hlen]
  exact lastPlace?_some hp

theorem window_length (cs : List Char) : window cs cs.length = cs := by
  rw [window, if_neg (by omega), Int.toNat_natCast, List.take_length]

/-- The cut in a text is at most one character behind its end, and only a line feed takes it there. It is at
the very start only of an empty text. -/
theorem splitPoint_bounds (cs : List Char) :
    0 ≤ splitPoint cs cs.length ∧ splitPoint cs cs.length ≤ cs.length + 1 ∧
      ('\n' ∉ cs → splitPoint cs cs.length ≤ cs.length) ∧ (cs ≠ [] → 0 < splitPoint cs cs.length) := by
  have hne : cs ≠ [] → 0 < cs.length := List.length_pos_iff.2
  unfold splitPoint
  simp only [window_length]
  cases hn : lastPlace? cs ['\n'] with
  | some n =>
    obtain ⟨_, hlen⟩ := lastPlace?_some hn
    simp only [List.length_singleton] at hlen ⊢
    refine ⟨by omega, by omega, fun hmem => ?_, fun _ => by omega⟩
    rw [lastPlace?, Text.findLast_singleton_eq_none hmem] at hn
    cases hn
  | none =>
    cases hs : sentenceEnd? cs with
    | some n =>
      obtain ⟨_, hlen⟩ := sentenceEnd?_some hs
      dsimp only
      exact ⟨by omega, by omega, fun _ => by omega, fun _ => by omega⟩
    | none =>
      cases hb : lastPlace? cs [' '] with
      | some n =>
        obtain ⟨_, hlen⟩ := lastPlace?_some hb
        simp only [List.length_singleton] at hlen ⊢
        exact ⟨by omega, by omega, fun _ => by omega, fun _ => by omega⟩
      | none =>
        dsimp only
        exact ⟨by omega, by omega, fun _ => by omega, fun h => by have := hne h; omega⟩

/-! ### The longest prefix that fits -/

theorem prefixWithin_of_neg (e : Encoding) {target : Int} (ht : target < 0) (cs : List Char) :
    prefixWithin e target cs = cs.length := by
  rcases lastAccepted_isGreatest (accepts_mono e target cs) 0 (cs.length + 1) cs.length with
    ⟨he, _⟩ | ⟨_, _, ha, _⟩
  · exact he
  · simp only [decide_eq_true_eq] at ha
    omega

theorem prefixWithin_of_nonneg (e : Encoding) {target : Int} (ht : 0 ≤ target) (cs : List Char) :
    prefixWithin e target cs ≤ cs.length ∧ (e.count (cs.take (prefixWithin e target cs)) : Int) ≤ target ∧
      ∀ n, n ≤ cs.length → (e.count (cs.take n) : Int) ≤ target → n ≤ prefixWithin e target cs :=
  lastAccepted_fits e ht cs rfl

/-! ### The first cut -/

theorem firstCut_of_fits {e : Encoding} {target : Int} {cs : List Char} (h : (e.count cs : Int) ≤ target) :
    firstCut e target cs = cs.length := by
  rw [firstCut, if_pos h]

theorem firstCut_of_neg (e : Encoding) {target : Int} (ht : target < 0) (cs : List Char) :
    firstCut e target cs = cs.length := by
  unfold firstCut
  simp only [prefixWithin_of_neg e ht, lt_irrefl, if_false, ite_self]

theorem prefixWithin_lt_length {e : Encoding} {target : Int} {cs : List Char} (ht : 0 ≤ target)
    (h : target < e.count cs) : prefixWithin e target cs < cs.length := by
  obtain ⟨hle, hfit, -⟩ := prefixWithin_of_nonneg e ht cs
  refine lt_of_le_of_ne hle fun heq => ?_
  rw [heq, List.take_length] at hfit
  omega

/-- A text that does not fit is cut in the longest prefix that does. -/
theorem firstCut_eq_of_exceeds {e : Encoding} {target : Int} {cs : List Char} (ht : 0 ≤ target)
    (h : target < e.count cs) : firstCut e target cs =
      if (splitPoint (cs.take (prefixWithin e target cs)) (prefixWithin e target cs)).toNat = 0 then
        prefixWithin e target cs
      else (splitPoint (cs.take (prefixWithin e target cs)) (prefixWithin e target cs)).toNat := by
  unfold firstCut
  simp only [if_neg (not_le.2 h), if_pos (prefixWithin_lt_length ht h)]

theorem firstCut_of_exceeds {e : Encoding} {target : Int} {cs : List Char} (ht : 0 ≤ target)
    (h : target < e.count cs) :
    ∃ best, best < cs.length ∧ (e.count (cs.take best) : Int) ≤ target ∧
      (∀ n, n ≤ cs.length → (e.count (cs.take n) : Int) ≤ target → n ≤ best) ∧
      firstCut e target cs ≤ best + 1 ∧ ('\n' ∉ cs.take best → firstCut e target cs ≤ best) ∧
      (0 < best → 0 < firstCut e target cs) := by
  have hlt := prefixWithin_lt_length ht h
  have hcut := firstCut_eq_of_exceeds ht h
  obtain ⟨-, hfit, hmax⟩ := prefixWithin_of_nonneg e ht cs
  generalize prefixWithin e target cs = best at hlt hcut hfit hmax
  have hlen : (cs.take best).length = best := by rw [List.length_take]; omega
  obtain ⟨h0, h1, hnl, hpos⟩ := splitPoint_bounds (cs.take best)
  rw [hlen] at h0 h1 hnl hpos
  refine ⟨best, hlt, hfit, hmax, ?_, ?_, ?_⟩
  · rw [hcut]
    split_ifs <;> omega
  · intro hmem
    have := hnl hmem
    rw [hcut]
    split_ifs <;> omega
  · intro hb
    have := hpos (by rw [← List.length_pos_iff, hlen]; exact hb)
    rw [hcut]
    split_ifs <;> omega

/-- What stands before the first cut has at most two tokens more than the target. -/
theorem count_take_firstCut_le (e : Encoding) {target : Int} (ht : 0 ≤ target) (cs : List Char) :
    (e.count (cs.take (firstCut e target cs)) : Int) ≤ target + 2 := by
  rcases le_or_gt (e.count cs : Int) target with h | h
  · rw [firstCut_of_fits h, List.take_length]
    omega
  · obtain ⟨best, hlt, hfit, -, hcut, -⟩ := firstCut_of_exceeds ht h
    have hmono := e.count_take_mono cs hcut
    have hone := e.count_append_le (cs.take best) [cs[best]]
    have hc := e.count_singleton_le cs[best]
    rw [List.take_append_getElem hlt] at hone
    omega

/-- A text is cut behind its first character if that character fits. -/
theorem firstCut_pos {e : Encoding} {target : Int} {c : Char} {r : List Char}
    (h : (e.count [c] : Int) ≤ target) : 0 < firstCut e target (c :: r) := by
  rcases le_or_gt (e.count (c :: r) : Int) target with hf | hf
  · rw [firstCut_of_fits hf]
    exact Nat.succ_pos _
  · have ht : 0 ≤ target := le_trans (Int.natCast_nonneg _) h
    obtain ⟨best, -, -, hmax, -, -, hpos⟩ := firstCut_of_exceeds ht hf
    exact hpos (hmax 1 (by simp) (by simpa using h))

/-- Under a target of zero only blanks stand before the first cut. -/
theorem solid_take_firstCut_zero (e : Encoding) {cs : List Char} (hs : Text.solid cs ≠ []) :
    Text.solid (cs.take (firstCut e 0 cs)) = [] := by
  have hfree : ∀ as : List Char, e.count as = 0 → ∀ c ∈ as, c = ' ' := by
    intro as h0 c hc
    by_contra hne
    have := e.count_pos_of_mem hc hne
    omega
  have hex : (0 : Int) < e.count cs := by
    obtain ⟨c, hc⟩ := List.exists_mem_of_ne_nil _ hs
    obtain ⟨hmem, hb⟩ := List.mem_filter.1 hc
    have := e.count_pos_of_mem hmem (by rintro rfl; revert hb; decide)
    omega
  obtain ⟨best, -, hfit, -, -, hnl, -⟩ := firstCut_of_exceeds le_rfl hex
  have hsp : ∀ c ∈ cs.take best, c = ' ' := hfree _ (by omega)
  have hcut := hnl fun hmem => absurd (hsp _ hmem) (by decide)
  refine Text.solid_eq_nil_iff.2 fun c hc => ?_
  rw [hsp c ((List.take_sublist_take_left hcut).subset hc)]
  decide

end IssuePlanner.Chunk
