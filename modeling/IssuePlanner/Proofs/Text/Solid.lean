import IssuePlanner.Text.Lines
import Mathlib.Data.List.DropRight

/-! The characters of a text that are not blank. Trimming a text, cutting it into lines and joining lines
all keep them in their order, so two texts that differ only in layout have the same solid characters. -/

namespace IssuePlanner.Text

/-- The characters of a text that are not blank, in order. -/
def solid (cs : List Char) : List Char := cs.filter (!isBlank ·)

@[simp] theorem solid_nil : solid [] = [] := rfl

@[simp] theorem solid_append (as bs : List Char) : solid (as ++ bs) = solid as ++ solid bs :=
  List.filter_append as bs

theorem solid_eq_nil_iff {cs : List Char} : solid cs = [] ↔ ∀ c ∈ cs, isBlank c = true := by
  simp [solid]

theorem solid_cons_of_not_blank {c : Char} (h : isBlank c = false) (cs : List Char) :
    solid (c :: cs) = c :: solid cs := by
  simp [solid, h]

theorem isBlankText_iff (s : String) : isBlankText s = true ↔ solid s.toList = [] := by
  simp [isBlankText, solid_eq_nil_iff]

@[simp] theorem solid_stripLeft (cs : List Char) : solid (stripLeft cs) = solid cs := by
  have hb : solid (cs.takeWhile isBlank) = [] :=
    solid_eq_nil_iff.2 fun c hc => List.mem_takeWhile_imp hc
  calc solid (stripLeft cs) = solid (cs.takeWhile isBlank) ++ solid (stripLeft cs) := by rw [hb]; rfl
    _ = solid cs := by rw [← solid_append, stripLeft_eq_append]

theorem solid_reverse (cs : List Char) : solid cs.reverse = (solid cs).reverse :=
  List.filter_reverse

@[simp] theorem solid_stripRight (cs : List Char) : solid (stripRight cs) = solid cs := by
  have h := solid_stripLeft cs.reverse
  rw [stripRight, solid_reverse, ← stripLeft, h, solid_reverse, List.reverse_reverse]

@[simp] theorem solid_strip (cs : List Char) : solid (strip cs) = solid cs := by
  rw [strip, solid_stripRight, solid_stripLeft]

/-- Nothing is left of a trimmed text exactly if all of it was blank. -/
theorem strip_eq_nil_iff {cs : List Char} : strip cs = [] ↔ solid cs = [] := by
  constructor
  · intro h
    rw [← solid_strip, h, solid_nil]
  · intro h
    have hl : stripLeft cs = [] := List.dropWhile_eq_nil_iff.2 (solid_eq_nil_iff.1 h)
    rw [strip, hl]
    rfl

theorem stripRight_isPrefix (cs : List Char) : stripRight cs <+: cs :=
  List.rdropWhile_prefix isBlank cs

theorem strip_isInfix (cs : List Char) : strip cs <:+: cs :=
  (stripRight_isPrefix _).isInfix.trans (List.dropWhile_suffix _).isInfix

theorem not_blank_of_strip_eq_cons {cs r : List Char} {c : Char} (h : strip cs = c :: r) :
    isBlank c = false := by
  have hp : c :: r <+: stripLeft cs := h ▸ stripRight_isPrefix (stripLeft cs)
  obtain ⟨t, ht⟩ := hp
  have hh := List.head?_dropWhile_not isBlank cs
  rw [← stripLeft, ← ht] at hh
  simpa using hh

theorem solid_joinWith {sep : List Char} (h : solid sep = []) (parts : List (List Char)) :
    solid (joinWith sep parts) = solid parts.flatten := by
  induction parts with
  | nil => rfl
  | cons p ps ih =>
    cases ps with
    | nil => simp [joinWith, List.intercalate]
    | cons q qs =>
      simp only [joinWith, List.intercalate, List.intersperse_cons_cons, List.flatten_cons, solid_append, h,
        List.nil_append] at ih ⊢
      rw [ih]

theorem solid_splitOn_newline (cs : List Char) : solid (splitOn '\n' cs).flatten = solid cs := by
  rw [← solid_joinWith (by decide : solid ['\n'] = []), joinWith_splitOn]

end IssuePlanner.Text
