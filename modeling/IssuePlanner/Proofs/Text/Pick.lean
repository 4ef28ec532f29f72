import IssuePlanner.Text.Pick
import Mathlib.Data.List.TakeWhile
import Mathlib.Tactic.Common

/-! What is picked out of a text behind a marker. If the marker is followed by characters of the class in one place only,
and there up to the end, they are picked (`runAfter?_eq_some`). What a reader finds it finds in some place of the text
(`exists_of_mem_findFrom`), and it finds what it can read in a place that no earlier reading goes beyond
(`mem_findFrom`). -/

namespace IssuePlanner.Text

theorem after?_eq_some {pat cs rest : List Char} : after? pat cs = some rest ↔ cs = pat ++ rest := by
  induction pat generalizing cs with
  | nil => simp [after?]
  | cons p ps ih =>
    cases cs with
    | nil => simp [after?]
    | cons c cs =>
      by_cases h : p = c
      · simp [after?, h, ih]
      · simp [after?, h, Ne.symm h]

theorem after?_append (pat cs : List Char) : after? pat (pat ++ cs) = some cs := after?_eq_some.2 rfl

/-- A marker is followed by characters of a class in one place only, and there up to the end: that is what is picked. -/
theorem runAfter?_eq_some {marker front rest : List Char} {p : Char → Bool} (hne : rest ≠ [])
    (hrest : ∀ c ∈ rest, p c = true)
    (honly : ∀ front' c back, front ++ (marker ++ rest) = front' ++ (marker ++ c :: back) → p c = true →
      c :: back = rest) :
    runAfter? marker p (front ++ (marker ++ rest)) = some rest := by
  induction front with
  | nil =>
    have hafter := after?_append marker rest
    have hrun : rest.takeWhile p = rest := List.takeWhile_eq_self_iff.2 hrest
    rw [List.nil_append]
    cases hcs : marker ++ rest with
    | nil => simp [hne] at hcs
    | cons c cs =>
      rw [hcs] at hafter
      rw [runAfter?, hafter]
      dsimp only
      rw [hrun]
      cases rest with
      | nil => exact absurd rfl hne
      | cons d rest => rfl
  | cons c front ih =>
    have hnext : runAfter? marker p (front ++ (marker ++ rest)) = some rest :=
      ih fun front' d back heq hd => honly (c :: front') d back (by rw [List.cons_append, List.cons_append, heq]) hd
    rw [List.cons_append, runAfter?]
    split
    · next rest' hafter =>
      split
      · exact hnext
      · next run hrun =>
        -- the marker stands here with something behind it, so this is the end
        cases rest' with
        | nil => exact absurd rfl hrun
        | cons d back =>
          by_cases hd : p d = true
          · have hback := honly [] d back (by rw [List.cons_append, after?_eq_some.1 hafter]; rfl) hd
            rw [hback, List.takeWhile_eq_self_iff.2 hrest]
          · simp [hd] at hrun
    · exact hnext

/-! ### Places in a text -/

theorem findAt_eq_some {pat cs : List Char} {k n : Nat} (h : findAt pat k cs = some n) :
    k ≤ n ∧ pat <+: cs.drop (n - k) := by
  induction cs generalizing k with
  | nil =>
    simp only [findAt, Option.ite_none_right_eq_some, Option.some.injEq] at h
    obtain ⟨rfl, rfl⟩ := h
    simp
  | cons c cs ih =>
    rw [findAt] at h
    split_ifs at h with hp
    · cases h
      simpa using List.isPrefixOf_iff_prefix.1 hp
    · obtain ⟨hle, hpat⟩ := ih h
      have hdrop : n - k = n - (k + 1) + 1 := by omega
      exact ⟨by omega, by rwa [hdrop, List.drop_succ_cons]⟩

theorem eq_append_of_find {pat cs : List Char} {n : Nat} (h : find cs pat = some n) :
    cs = cs.take n ++ (pat ++ cs.drop (n + pat.length)) := by
  obtain ⟨rest, hrest⟩ := (findAt_eq_some h).2
  rw [Nat.sub_zero] at hrest
  rw [← List.drop_drop, ← hrest, List.drop_left, hrest, List.take_append_drop]

section FindFrom

variable {α : Type} {read : Bool → List Char → Option (α × List Char)}

theorem exists_of_mem_findFrom (hread : ∀ b cs a rest, read b cs = some (a, rest) → rest <:+ cs) {n : Nat} {b : Bool}
    {cs : List Char} {a : α} (h : a ∈ findFrom read n b cs) : ∃ b' cs' rest, cs' <:+ cs ∧ read b' cs' = some (a, rest) := by
  induction n generalizing b cs with
  | zero => cases h
  | succ n ih =>
    cases cs with
    | nil => cases h
    | cons c cs =>
      rw [findFrom] at h
      split at h
      · next a' rest hsome =>
        rcases List.mem_cons.1 h with rfl | h
        · exact ⟨b, c :: cs, rest, List.suffix_rfl, hsome⟩
        · obtain ⟨b', cs', rest', hsuffix, hcs'⟩ := ih h
          exact ⟨b', cs', rest', hsuffix.trans (hread _ _ _ _ hsome), hcs'⟩
      · obtain ⟨b', cs', rest', hsuffix, hcs'⟩ := ih h
        exact ⟨b', cs', rest', hsuffix.trans (List.suffix_cons c cs), hcs'⟩

/-- What can be read in a place is found if no reading that starts before this place ends behind it. -/
theorem mem_findFrom {place rest : List Char} {a : α} (hplace : ∀ b, read b place = some (a, rest)) (hne : place ≠ [])
    {before : List Char}
    (hbefore : ∀ b front a' rest', front ≠ [] → front <:+ before → read b (front ++ place) = some (a', rest') →
      ∃ front', front' <:+ front ∧ front'.length < front.length ∧ rest' = front' ++ place)
    {n : Nat} (hn : (before ++ place).length ≤ n) (b : Bool) : a ∈ findFrom read n b (before ++ place) := by
  induction n generalizing before b with
  | zero => simp [hne] at hn
  | succ n ih =>
    cases before with
    | nil =>
      obtain ⟨c, cs, rfl⟩ := List.exists_cons_of_ne_nil hne
      rw [List.nil_append, findFrom, hplace]
      exact List.mem_cons_self
    | cons c before =>
      have hlength : (before ++ place).length ≤ n := by simpa [Nat.add_right_comm] using hn
      rw [List.cons_append, findFrom]
      split
      · next a' rest' hread =>
        obtain ⟨front', hsuffix, hlt, rfl⟩ := hbefore b (c :: before) a' rest' (by simp) List.suffix_rfl hread
        refine List.mem_cons_of_mem _ (ih (fun b front a' rest' hfront hs => ?_) ?_ false)
        · exact hbefore b front a' rest' hfront (hs.trans hsuffix)
        · simp only [List.length_cons, List.length_append] at hlt hlength ⊢
          omega
      · exact ih (fun b front a' rest' hfront hs => hbefore b front a' rest' hfront (hs.trans (List.suffix_cons c before)))
          hlength _

end FindFrom

end IssuePlanner.Text
