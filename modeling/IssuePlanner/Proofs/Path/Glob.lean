import IssuePlanner.Path.Glob
import Mathlib.Data.List.TakeWhile
import Mathlib.Tactic.Common

/-! A wildcard pattern and a text that is put in front of a name. What decides is the opening of the pattern, the
pieces before its first star: a pattern that fits a name fits the longer text exactly if it has a star and its
opening fits the start of that text (`matches_append_iff_of_matches`). A pattern without wildcards fits nothing but
itself (`matches_literals_iff`). -/

namespace IssuePlanner.Path

namespace Glob

/-- The pieces of a pattern before its first star. -/
def opening (ps : List Piece) : List Piece := ps.takeWhile (· ≠ .star)

variable {ps qs : List Piece} {cs : List Char}

theorem matches_append_iff :
    Matches (ps ++ qs) cs ↔ ∃ as bs, cs = as ++ bs ∧ Matches ps as ∧ Matches qs bs := by
  constructor
  · intro h
    generalize hall : ps ++ qs = all at h
    induction h generalizing ps with
    | nil =>
      obtain ⟨rfl, rfl⟩ := List.append_eq_nil_iff.1 hall
      exact ⟨[], [], rfl, .nil, .nil⟩
    | @starNone rest cs h ih =>
      cases ps with
      | nil =>
        subst hall
        exact ⟨[], cs, rfl, .nil, .starNone h⟩
      | cons p ps =>
        obtain ⟨rfl, hrest⟩ := List.cons.inj hall
        obtain ⟨as, bs, rfl, has, hbs⟩ := ih hrest
        exact ⟨as, bs, rfl, .starNone has, hbs⟩
    | @starMore rest c cs h ih =>
      cases ps with
      | nil =>
        subst hall
        exact ⟨[], c :: cs, rfl, .nil, .starMore h⟩
      | cons p ps =>
        obtain ⟨as, bs, rfl, has, hbs⟩ := ih hall
        obtain ⟨rfl, -⟩ := List.cons.inj hall
        exact ⟨c :: as, bs, rfl, .starMore has, hbs⟩
    | @one p rest c cs hp h ih =>
      cases ps with
      | nil =>
        subst hall
        exact ⟨[], c :: cs, rfl, .nil, .one hp h⟩
      | cons p' ps =>
        obtain ⟨rfl, hrest⟩ := List.cons.inj hall
        obtain ⟨as, bs, rfl, has, hbs⟩ := ih hrest
        exact ⟨c :: as, bs, rfl, .one hp has, hbs⟩
  · rintro ⟨as, bs, rfl, has, hbs⟩
    induction has with
    | nil => exact hbs
    | starNone _ ih => exact .starNone ih
    | starMore _ ih => exact .starMore ih
    | one hp _ ih => exact .one hp ih

theorem Matches.star_append (h : Matches (.star :: ps) cs) (front : List Char) :
    Matches (.star :: ps) (front ++ cs) := by
  induction front with
  | nil => exact h
  | cons c front ih => exact .starMore ih

theorem Matches.length_eq (h : Matches ps cs) (hstar : .star ∉ ps) : cs.length = ps.length := by
  induction h with
  | nil => rfl
  | starNone => simp at hstar
  | starMore => simp at hstar
  | one _ _ ih =>
    rw [List.length_cons, List.length_cons, ih fun hmem => hstar (List.mem_cons_of_mem _ hmem)]

theorem star_not_mem_opening (ps : List Piece) : .star ∉ opening ps := by
  intro hmem
  simpa using List.mem_takeWhile_imp hmem

theorem exists_eq_opening_append (h : .star ∈ ps) : ∃ rest, ps = opening ps ++ .star :: rest := by
  induction ps with
  | nil => cases h
  | cons p ps ih =>
    by_cases hp : p = .star
    · exact ⟨ps, by simp [opening, hp]⟩
    · obtain ⟨rest, hrest⟩ := ih ((List.mem_cons.1 h).resolve_left (Ne.symm hp))
      refine ⟨rest, ?_⟩
      rw [opening, List.takeWhile_cons_of_pos (by simpa using hp), List.cons_append]
      exact congrArg _ hrest

theorem Matches.opening_take (h : Matches ps cs) (hstar : .star ∈ ps) :
    Matches (opening ps) (cs.take (opening ps).length) := by
  obtain ⟨rest, hrest⟩ := exists_eq_opening_append hstar
  rw [hrest] at h
  obtain ⟨as, bs, rfl, has, -⟩ := matches_append_iff.1 h
  rw [← has.length_eq (star_not_mem_opening ps), List.take_left]
  exact has

/-- A pattern that fits a name fits what ends in that name exactly if nothing was put in front, or the pattern has
a star and its opening fits the new start. -/
theorem matches_append_iff_of_matches {front : List Char} (h : Matches ps cs) :
    Matches ps (front ++ cs) ↔
      front = [] ∨ .star ∈ ps ∧ Matches (opening ps) ((front ++ cs).take (opening ps).length) := by
  by_cases hstar : .star ∈ ps
  · refine ⟨fun hall => .inr ⟨hstar, hall.opening_take hstar⟩, ?_⟩
    rintro (rfl | ⟨-, hopen⟩)
    · exact h
    · obtain ⟨rest, hrest⟩ := exists_eq_opening_append hstar
      rw [hrest] at h
      obtain ⟨as, bs, rfl, has, hbs⟩ := matches_append_iff.1 h
      -- the opening takes as many characters of the longer text as of the name, so the name's end is left over
      have hlength : (opening ps).length = as.length := (has.length_eq (star_not_mem_opening ps)).symm
      have hdrop : (front ++ (as ++ bs)).drop (opening ps).length = (front ++ as).drop as.length ++ bs := by
        rw [hlength, ← List.append_assoc, List.drop_append_of_le_length]
        rw [List.length_append]
        exact Nat.le_add_left _ _
      rw [hrest, ← List.take_append_drop (opening ps).length (front ++ (as ++ bs)), hdrop]
      exact matches_append_iff.2 ⟨_, _, rfl, hopen, hbs.star_append _⟩
  · refine ⟨fun hall => .inl ?_, ?_⟩
    · have hlength := (hall.length_eq hstar).trans (h.length_eq hstar).symm
      rw [List.length_append] at hlength
      exact List.eq_nil_of_length_eq_zero (by omega)
    · rintro (rfl | ⟨hmem, -⟩)
      · exact h
      · exact absurd hmem hstar

/-! ### Patterns that are plain texts -/

/-- No character of the text is a wildcard or opens a set. -/
def IsPlain (cs : List Char) : Prop := ∀ c ∈ cs, c ≠ '*' ∧ c ≠ '?' ∧ c ≠ '['

theorem pieces_of_isPlain (h : IsPlain cs) : pieces cs = cs.map .literal := by
  unfold pieces
  induction cs with
  | nil => rfl
  | cons c cs ih =>
    obtain ⟨hstar, hany, hset⟩ := h c (by simp)
    rw [List.length_cons, piecesFrom, if_neg hstar, if_neg hany, if_neg hset, ih fun d hd => h d (by simp [hd])]
    rfl

theorem matches_literals_iff {ds : List Char} : Matches (cs.map .literal) ds ↔ ds = cs := by
  induction cs generalizing ds with
  | nil =>
    constructor
    · rintro ⟨⟩
      rfl
    · rintro rfl
      exact .nil
  | cons c cs ih =>
    constructor
    · intro h
      cases h with
      | one hfits hrest => rw [ih.1 hrest, beq_iff_eq.1 hfits]
    · rintro rfl
      exact .one (beq_iff_eq.2 rfl) (ih.2 rfl)

theorem matches_stars_iff {ds : List Char} : Matches (cs.map .literal ++ [.star, .star]) ds ↔ cs <+: ds := by
  rw [matches_append_iff]
  constructor
  · rintro ⟨as, bs, rfl, has, -⟩
    rw [matches_literals_iff.1 has]
    exact List.prefix_append _ _
  · rintro ⟨rest, rfl⟩
    have hstars : Matches [.star, .star] (rest ++ []) := (Matches.starNone (.starNone .nil)).star_append rest
    exact ⟨cs, rest, rfl, matches_literals_iff.2 rfl, List.append_nil rest ▸ hstars⟩

end Glob

theorem globMatches_iff {name pattern : String} :
    globMatches name pattern = true ↔ Glob.Matches (Glob.pieces pattern.toList) name.toList := by
  rw [globMatches, Glob.acceptsByRows_eq, Glob.accepts_iff]

end IssuePlanner.Path
