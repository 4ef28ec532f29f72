import IssuePlanner.Outline.Script.Lexer
import IssuePlanner.Text.NormalForm
import Mathlib.Tactic.Common

/-! What the tables of expansions and of composites name. Characters of words are letters, digits, underscores and
everything beyond ASCII, and the tables name no others (`Expansion.rowNamesLetters_of_mem`,
`Composite.rowNamesLetters_of_mem`). That is checked block by block. -/

namespace IssuePlanner.Text

open Outline.Script.Lexer (isLetterLike)

variable {cs : List Char}

/-! ### Code points -/

/-- Whether a code point is that of a character of words. -/
def isLetterCode (n : Nat) : Bool := isLetterLike (Char.ofNat n)

theorem isLetterCode_of_le {n : Nat} (h : 128 ≤ n) (hvalid : n.isValidChar) : isLetterCode n = true := by
  have hn : (Char.ofNat n).toNat = n := by
    rw [Char.ofNat, dif_pos hvalid]
    rfl
  simp [isLetterCode, isLetterLike, hn, h]

/-- Whether two code points bound characters of words of one kind. -/
def isLetterRange (a b : Nat) : Bool :=
  a ≤ b && (48 ≤ a && b ≤ 57 || 65 ≤ a && b ≤ 90 || 97 ≤ a && b ≤ 122 || 128 ≤ a && b < 0xd800)

theorem isLetterCode_of_ascii :
    ∀ n < 128, (48 ≤ n ∧ n ≤ 57 ∨ 65 ≤ n ∧ n ≤ 90 ∨ 97 ≤ n ∧ n ≤ 122) → isLetterCode n = true := by
  decide

theorem le_of_isLetterRange {a b : Nat} (h : isLetterRange a b = true) : a ≤ b := by
  simp only [isLetterRange, Bool.and_eq_true, decide_eq_true_eq] at h
  exact h.1

theorem isLetterCode_of_range {a b n : Nat} (h : isLetterRange a b = true) (ha : a ≤ n) (hb : n ≤ b) :
    isLetterCode n = true := by
  simp only [isLetterRange, Bool.and_eq_true, Bool.or_eq_true, decide_eq_true_eq] at h
  by_cases hn : n < 128
  · exact isLetterCode_of_ascii n hn (by omega)
  · exact isLetterCode_of_le (by omega) (.inl (by omega))

/-- `isLetterCode`, by comparing numbers only. -/
def isLetterNumber (n : Nat) : Bool := isLetterRange n n || n == 95 || (0xe000 ≤ n && n < 0x110000)

theorem isLetterCode_of_number {n : Nat} (h : isLetterNumber n = true) : isLetterCode n = true := by
  simp only [isLetterNumber, Bool.or_eq_true, Bool.and_eq_true, beq_iff_eq, decide_eq_true_eq] at h
  rcases h with (h | rfl) | h
  · exact isLetterCode_of_range h (Nat.le_refl n) (Nat.le_refl n)
  · decide
  · exact isLetterCode_of_le (by omega) (.inr ⟨by omega, h.2⟩)

/-! ### Tables -/

/-- Whether an entry of a table names characters of words only: the ends of a range, or one character or more. -/
def entryNamesLetters (e : List Char) : Bool :=
  match splitOn '-' e with
  | [first, last] =>
    (splitOn '+' e).length == 1 && isLetterRange (Ranges.hexValue first) (Ranges.hexValue last)
  | _ => e == ['.'] || (splitOn '+' e).all fun piece => isLetterNumber (Ranges.hexValue piece)

theorem isLetterRange_of_entry {e first last : List Char} (he : entryNamesLetters e = true)
    (hsplit : splitOn '-' e = [first, last]) :
    (splitOn '+' e).length = 1 ∧ isLetterRange (Ranges.hexValue first) (Ranges.hexValue last) = true := by
  simpa [entryNamesLetters, hsplit] using he

theorem isLetterCode_of_entry {e piece : List Char} (he : entryNamesLetters e = true)
    (hsplit : ∀ first last, splitOn '-' e ≠ [first, last]) (hdot : e ≠ ['.']) (hpiece : piece ∈ splitOn '+' e) :
    isLetterCode (Ranges.hexValue piece) = true := by
  unfold entryNamesLetters at he
  split at he
  · rename_i first last hrange
    exact absurd hrange (hsplit first last)
  · simp only [Bool.or_eq_true, beq_iff_eq, hdot, false_or, List.all_eq_true] at he
    exact isLetterCode_of_number (he piece hpiece)

/-- Whether the entries of a row name characters of words only. -/
def rowNamesLetters (row : List Char) : Bool := (words row).all entryNamesLetters

theorem entryNamesLetters_of_mem_words {e : List Char} (h : rowNamesLetters cs = true) (he : e ∈ words cs) :
    entryNamesLetters e = true := List.all_eq_true.1 h e he

/-- Rows are checked by the lists of their characters: nothing has to be decoded. -/
theorem rowNamesLetters_of_map {rows : List String} {css : List (List Char)} (hrows : rows.map String.toList = css)
    (h : css.all rowNamesLetters = true) : ∀ row ∈ rows, rowNamesLetters row.toList = true := by
  subst hrows
  simpa using h

theorem map_toList_cons {row : String} {rows : List String} {css : List (List Char)} (hrow : row.toList = cs)
    (hrows : rows.map String.toList = css) : (row :: rows).map String.toList = cs :: css := by
  rw [List.map_cons, hrow, hrows]

theorem Expansion.rowNamesLetters_of_mem : ∀ b ∈ blocks, ∀ row ∈ b.rows, rowNamesLetters row.toList = true := by
  unfold blocks
  repeat
    refine List.forall_mem_cons.2 ⟨?_, ?_⟩
    · apply rowNamesLetters_of_map
      · repeat apply map_toList_cons String.toList_ofList
        exact List.map_nil
      · decide +kernel
  exact List.forall_mem_nil _

theorem Composite.rowNamesLetters_of_mem : ∀ f ∈ families, ∀ row ∈ f.rows, rowNamesLetters row.toList = true := by
  unfold families
  repeat
    refine List.forall_mem_cons.2 ⟨?_, ?_⟩
    · apply rowNamesLetters_of_map
      · repeat apply map_toList_cons String.toList_ofList
        exact List.map_nil
      · decide +kernel
  exact List.forall_mem_nil _

end IssuePlanner.Text
