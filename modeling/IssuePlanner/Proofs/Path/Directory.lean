import IssuePlanner.Proofs.Path.Glob
import IssuePlanner.Snapshot.AlwaysIgnored
import Mathlib.Data.List.DropRight

/-! Patterns of directories, and the paths inside the directories that they fit. Such a pattern is tried as the literal
start of a path and as a wildcard pattern for the whole path, never for a directory above it. So a path inside is covered
if the pattern itself stands before it, or if what follows the last star of the pattern fits the end of the path
(`fits_inside_iff`). A pattern covers everything inside exactly if it fits no directory but the one it spells, or puts
no condition on the end of a path. -/

namespace IssuePlanner.Path

namespace Glob

variable {ps qs : List Piece} {cs : List Char}

/-! ### A pattern from its end -/

theorem matches_star (cs : List Char) : Matches [.star] cs := by
  have h := (Matches.starNone .nil).star_append cs
  rwa [List.append_nil] at h

theorem Matches.reverse (h : Matches ps cs) : Matches ps.reverse cs.reverse := by
  induction h with
  | nil => exact .nil
  | @starNone ps cs _ ih =>
    rw [List.reverse_cons]
    exact matches_append_iff.2 ⟨cs.reverse, [], by simp, ih, matches_star []⟩
  | @starMore ps c cs _ ih =>
    rw [List.reverse_cons] at ih ⊢
    obtain ⟨as, bs, happend, has, -⟩ := matches_append_iff.1 ih
    rw [List.reverse_cons, happend, List.append_assoc]
    exact matches_append_iff.2 ⟨as, bs ++ [c], rfl, has, matches_star _⟩
  | @one p ps c cs hp _ ih =>
    rw [List.reverse_cons, List.reverse_cons]
    exact matches_append_iff.2 ⟨cs.reverse, [c], rfl, ih, .one hp .nil⟩

theorem matches_reverse_iff : Matches ps.reverse cs.reverse ↔ Matches ps cs :=
  ⟨fun h => by simpa using h.reverse, Matches.reverse⟩

/-- The pieces of a pattern behind its last star. -/
def closing (ps : List Piece) : List Piece := (opening ps.reverse).reverse

/-- A pattern that fits a name fits what starts with that name exactly if nothing was added, or the pattern has a star
and its closing fits the new end. -/
theorem append_matches_iff_of_matches {back : List Char} (h : Matches ps cs) :
    Matches ps (cs ++ back) ↔
      back = [] ∨ .star ∈ ps ∧ Matches (closing ps) ((cs ++ back).rtake (closing ps).length) := by
  have hclosing : Matches (closing ps) ((cs ++ back).rtake (closing ps).length) ↔
      Matches (opening ps.reverse) ((cs ++ back).reverse.take (opening ps.reverse).length) := by
    rw [← matches_reverse_iff, closing, List.reverse_reverse, List.length_reverse, List.rtake_eq_reverse_take_reverse,
      List.reverse_reverse]
  rw [hclosing, ← matches_reverse_iff, List.reverse_append, matches_append_iff_of_matches h.reverse,
    List.reverse_eq_nil_iff, List.mem_reverse]

theorem matches_concat_literal_iff {c : Char} :
    Matches (ps ++ [.literal c]) (cs ++ [c]) ↔ Matches ps cs := by
  have hliteral (ds : List Char) : Matches ([c].map .literal) ds ↔ ds = [c] := matches_literals_iff
  constructor
  · intro h
    obtain ⟨as, bs, happend, has, hbs⟩ := matches_append_iff.1 h
    obtain rfl := (hliteral bs).1 hbs
    rwa [List.append_cancel_right happend]
  · intro h
    exact matches_append_iff.2 ⟨cs, [c], rfl, h, (hliteral [c]).2 rfl⟩

/-! ### The slash behind a pattern -/

/-- How many characters of a bracket's text stand before the first one that may end it. -/
def lead (cs : List Char) : Nat :=
  let mark := if cs.head? = some '!' then 1 else 0
  if (cs.drop mark).head? = some ']' then mark + 1 else mark

/-- The text of a bracket whose first `n` characters cannot end it, and the text behind it. -/
def bracketFrom? (n : Nat) (cs : List Char) : Option (List Char × List Char) :=
  let inside := cs.take n ++ (cs.drop n).takeWhile (· ≠ ']')
  if inside.length < cs.length then some (inside, cs.drop (inside.length + 1)) else none

theorem bracket?_eq (cs : List Char) : bracket? cs = bracketFrom? (lead cs) cs := rfl

theorem length_rest_lt {n : Nat} {inside rest : List Char} (h : bracketFrom? n cs = some (inside, rest)) :
    rest.length < cs.length := by
  unfold bracketFrom? at h
  dsimp only at h
  split_ifs at h with hlt
  simp only [Option.some.injEq, Prod.mk.injEq] at h
  rw [← h.2, List.length_drop]
  omega

theorem lead_le_length (cs : List Char) : lead cs ≤ cs.length := by
  unfold lead
  rcases cs with _ | ⟨c, _ | ⟨d, r⟩⟩
  · simp
  · by_cases hc : c = '!' <;> simp [hc]
    split <;> simp
  · by_cases hc : c = '!' <;> simp [hc] <;> split <;> simp

theorem lead_concat {c : Char} (hmark : c ≠ '!') (hend : c ≠ ']') (cs : List Char) : lead (cs ++ [c]) = lead cs := by
  unfold lead
  rcases cs with _ | ⟨d, _ | ⟨e, r⟩⟩
  · simp [hmark, hend]
  · by_cases hd : d = '!' <;> simp [hd, hend]
  · by_cases hd : d = '!' <;> simp [hd]

theorem bracketFrom?_concat {c : Char} {n : Nat} (hend : c ≠ ']') (hn : n ≤ cs.length) :
    bracketFrom? n (cs ++ [c]) = (bracketFrom? n cs).map fun p => (p.1, p.2 ++ [c]) := by
  have hinside : (cs.take n).length + (cs.drop n).length = cs.length := by
    rw [← List.length_append, List.take_append_drop]
  have hshort := (List.takeWhile_prefix (l := cs.drop n) (· ≠ ']')).length_le
  unfold bracketFrom?
  rw [List.take_append_of_le_length hn, List.drop_append_of_le_length hn, List.takeWhile_append]
  split_ifs with hopen
  · -- nothing closes the bracket, and the character does not either
    have hall : (cs.drop n).takeWhile (· ≠ ']') = cs.drop n := (List.takeWhile_prefix _).eq_of_length hopen
    have hc : [c].takeWhile (· ≠ ']') = [c] := by simp [hend]
    rw [hall, hc, ← List.append_assoc, List.take_append_drop]
    dsimp only
    rw [if_neg (Nat.lt_irrefl _), if_neg (Nat.lt_irrefl _)]
    rfl
  · have hlt : (cs.take n ++ (cs.drop n).takeWhile (· ≠ ']')).length < cs.length := by
      rw [List.length_append]
      omega
    dsimp only
    have hlt' : (cs.take n ++ (cs.drop n).takeWhile (· ≠ ']')).length < (cs ++ [c]).length :=
      hlt.trans (by rw [List.length_append, List.length_singleton]; omega)
    rw [if_pos hlt, if_pos hlt', Option.map_some,
      List.drop_append_of_le_length hlt]

/-- The first piece of a pattern that starts with a character, and the text behind that piece. -/
def firstPiece (c : Char) (r : List Char) : Piece × List Char :=
  if c = '*' then (.star, r)
  else if c = '?' then (.any, r)
  else if c = '[' then
    match bracket? r with
    | some (inside, rest) => (setOf inside, rest)
    | none => (.literal c, r)
  else (.literal c, r)

theorem piecesFrom_succ_cons (n : Nat) (c : Char) (r : List Char) :
    piecesFrom (n + 1) (c :: r) = (firstPiece c r).1 :: piecesFrom n (firstPiece c r).2 := by
  rw [piecesFrom, firstPiece]
  split_ifs
  · rfl
  · rfl
  · cases bracket? r <;> rfl
  · rfl

theorem length_firstPiece_le (c : Char) (r : List Char) : (firstPiece c r).2.length ≤ r.length := by
  unfold firstPiece
  split_ifs
  · exact Nat.le_refl _
  · exact Nat.le_refl _
  · cases h : bracket? r with
    | none => exact Nat.le_refl _
    | some p => exact (length_rest_lt (bracket?_eq r ▸ h)).le
  · exact Nat.le_refl _

theorem firstPiece_concat {c : Char} (hmark : c ≠ '!') (hend : c ≠ ']') (d : Char) (r : List Char) :
    firstPiece d (r ++ [c]) = ((firstPiece d r).1, (firstPiece d r).2 ++ [c]) := by
  unfold firstPiece
  rw [bracket?_eq, lead_concat hmark hend, bracketFrom?_concat hend (lead_le_length r), ← bracket?_eq]
  split_ifs
  · rfl
  · rfl
  · cases bracket? r <;> rfl
  · rfl

theorem piecesFrom_eq_pieces {n : Nat} (hn : cs.length ≤ n) : piecesFrom n cs = pieces cs := by
  suffices h : ∀ m, cs.length ≤ m → piecesFrom n cs = piecesFrom m cs from h _ (Nat.le_refl _)
  induction n generalizing cs with
  | zero =>
    obtain rfl := List.length_eq_zero_iff.1 (Nat.le_zero.1 hn)
    intro m _
    cases m <;> rfl
  | succ n ih =>
    intro m hm
    cases cs with
    | nil => cases m <;> rfl
    | cons c r =>
      have hfirst := length_firstPiece_le c r
      rw [List.length_cons] at hn hm
      obtain ⟨m, rfl⟩ : ∃ k, m = k + 1 := ⟨m - 1, by omega⟩
      rw [piecesFrom_succ_cons, piecesFrom_succ_cons, ih (by omega) m (by omega)]

theorem pieces_cons (c : Char) (r : List Char) : pieces (c :: r) = (firstPiece c r).1 :: pieces (firstPiece c r).2 := by
  rw [pieces, List.length_cons, piecesFrom_succ_cons, piecesFrom_eq_pieces (length_firstPiece_le c r)]

@[elab_as_elim]
theorem pieceInduction {motive : List Char → Prop} (nil : motive [])
    (cons : ∀ c r, motive (firstPiece c r).2 → motive (c :: r)) (cs : List Char) : motive cs := by
  generalize hn : cs.length = n
  induction n using Nat.strongRecOn generalizing cs with
  | ind n ih =>
    cases cs with
    | nil => exact nil
    | cons c r =>
      have hfirst := length_firstPiece_le c r
      rw [List.length_cons] at hn
      exact cons c r (ih _ (by omega) _ rfl)

theorem pieces_concat {c : Char} (hmark : c ≠ '!') (hend : c ≠ ']') (cs : List Char) :
    pieces (cs ++ [c]) = pieces cs ++ pieces [c] := by
  induction cs using pieceInduction with
  | nil => rfl
  | cons d r ih => rw [List.cons_append, pieces_cons, pieces_cons d r, firstPiece_concat hmark hend, ih, List.cons_append]

theorem length_pieces_le (cs : List Char) : (pieces cs).length ≤ cs.length := by
  induction cs using pieceInduction with
  | nil => exact Nat.le_refl _
  | cons c r ih =>
    rw [pieces_cons, List.length_cons, List.length_cons]
    exact Nat.succ_le_succ (ih.trans (length_firstPiece_le c r))

theorem pieces_concat_slash (cs : List Char) : pieces (cs ++ ['/']) = pieces cs ++ [.literal '/'] :=
  pieces_concat (by decide) (by decide) cs

/-! ### Ends without a condition -/

/-- Pieces that stand for every character fit every text of their length. -/
theorem matches_of_forall_fits (h : ∀ p ∈ ps, ∀ c, p.fits c = true) (hlength : cs.length = ps.length) :
    Matches ps cs := by
  induction ps generalizing cs with
  | nil =>
    rw [List.length_eq_zero_iff.1 hlength]
    exact .nil
  | cons p ps ih =>
    obtain ⟨c, cs, rfl⟩ := List.exists_cons_of_length_eq_add_one hlength
    exact .one (h p (by simp) c) (ih (fun q hq => h q (by simp [hq])) (by simpa using hlength))

/-- A piece that does not stand for a character cannot fit a text of such characters. -/
theorem not_matches_replicate {p : Piece} {c : Char} {n : Nat} (hstar : .star ∉ ps) (hp : p ∈ ps)
    (hfits : p.fits c = false) : ¬ Matches ps (List.replicate n c) := by
  generalize hcs : List.replicate n c = cs
  intro h
  induction h generalizing n with
  | nil => cases hp
  | starNone => simp at hstar
  | starMore => simp at hstar
  | one hq _ ih =>
    cases n with
    | zero => cases hcs
    | succ n =>
      obtain ⟨rfl, htail⟩ := List.cons.inj hcs
      rcases List.mem_cons.1 hp with rfl | hp
      · rw [hfits] at hq
        cases hq
      · exact ih (fun hmem => hstar (List.mem_cons_of_mem _ hmem)) hp htail

theorem star_not_mem_closing (ps : List Piece) : .star ∉ closing ps := by
  rw [closing, List.mem_reverse]
  exact star_not_mem_opening _

theorem Matches.length_closing_le (h : Matches ps cs) (hstar : .star ∈ ps) : (closing ps).length ≤ cs.length := by
  have hopen := h.reverse.opening_take (List.mem_reverse.2 hstar)
  have hlength := hopen.length_eq (star_not_mem_opening _)
  rw [List.length_take, List.length_reverse] at hlength
  rw [closing, List.length_reverse]
  omega

end Glob

open Glob

variable {d a rest : String}

theorem toList_slash (name : String) : (name ++ "/").toList = name.toList ++ ['/'] := by
  rw [String.toList_append]
  rfl

theorem globMatches_slash_iff :
    globMatches (a ++ "/") (d ++ "/") = true ↔ Matches (pieces d.toList) a.toList := by
  rw [globMatches_iff, toList_slash, toList_slash, pieces_concat_slash, matches_concat_literal_iff]

theorem fits_slash_iff {path : String} :
    fits path (d ++ "/") = true ↔
      Text.begins path (d ++ "/") = true ∨ Matches (pieces (d ++ "/").toList) (path ++ "/").toList := by
  have hends : Text.ends (d ++ "/") "/" = true := by
    rw [Text.ends, Text.endsWith, List.isSuffixOf_iff_suffix, String.toList_append]
    exact List.suffix_append _ _
  rw [fits, if_pos hends, Bool.or_eq_true, globMatches_iff]

/-- The pattern has a star, and what follows the last one fits the end of the path. -/
def FitsEnd (pattern path : String) : Prop :=
  let ps := pieces pattern.toList
  .star ∈ ps ∧ Matches (closing ps) (path.toList.rtake (closing ps).length)

theorem fits_inside_iff (h : globMatches (a ++ "/") (d ++ "/") = true) :
    fits (a ++ "/" ++ rest) (d ++ "/") = true ↔
      Text.begins (a ++ "/" ++ rest) (d ++ "/") = true ∨ FitsEnd d (a ++ "/" ++ rest) := by
  rw [fits_slash_iff, toList_slash, toList_slash, pieces_concat_slash, matches_concat_literal_iff]
  refine or_congr_right ?_
  have hpath : (a ++ "/" ++ rest).toList = a.toList ++ ('/' :: rest.toList) := by
    rw [String.toList_append, toList_slash, List.append_assoc]
    rfl
  rw [FitsEnd, hpath, append_matches_iff_of_matches (globMatches_slash_iff.1 h)]
  simp

/-! ### Patterns that cover whole directories -/

/-- The pattern covers every path inside the directories that it fits. -/
def Covers (d : String) : Prop :=
  ∀ a rest, rest ≠ "" → globMatches (a ++ "/") (d ++ "/") = true → fits (a ++ "/" ++ rest) (d ++ "/") = true

/-- The pattern fits no directory but the one that it spells. -/
def FitsOnlyItself (d : String) : Prop := ∀ a, globMatches (a ++ "/") (d ++ "/") = true → a = d

/-- The pattern has a star, and every piece behind the last one stands for every character. -/
def EndsFreely (d : String) : Prop :=
  let ps := pieces d.toList
  .star ∈ ps ∧ ∀ p ∈ closing ps, ∀ c, p.fits c = true

theorem begins_slash_iff {path : String} :
    Text.begins path (d ++ "/") = true ↔ d.toList ++ ['/'] <+: path.toList := by
  rw [Text.begins, Text.startsWith, List.isPrefixOf_iff_prefix, toList_slash]

/-- A text with a long run of another character where the slash should be does not start with a directory. -/
theorem not_prefix_of_run {cs front back : List Char} {c : Char} {n : Nat} (hc : c ≠ '/')
    (hfront : front.length ≤ cs.length) (hrun : cs.length < front.length + n) :
    ¬ cs ++ ['/'] <+: front ++ (List.replicate n c ++ back) := by
  intro h
  have hlt : cs.length < (cs ++ ['/']).length := by simp
  have hslash := h.getElem hlt
  rw [List.getElem_concat_length rfl, List.getElem_append_right hfront,
    List.getElem_append_left (by rw [List.length_replicate]; omega), List.getElem_replicate] at hslash
  exact hc hslash.symm

/-- A pattern with a star that fits some directory fits one whose paths it does not stand before. -/
theorem exists_fits_not_begins (hstar : .star ∈ pieces d.toList) (h : globMatches (a ++ "/") (d ++ "/") = true) :
    ∃ b, globMatches (b ++ "/") (d ++ "/") = true ∧ ∀ rest, Text.begins (b ++ "/" ++ rest) (d ++ "/") ≠ true := by
  obtain ⟨more, hmore⟩ := exists_eq_opening_append hstar
  rw [globMatches_slash_iff, hmore] at h
  obtain ⟨as, bs, -, has, hbs⟩ := matches_append_iff.1 h
  -- the star takes up a run of letters that reaches beyond the slash of the pattern
  let b := String.ofList (as ++ (List.replicate (d.toList.length + 1) 'x' ++ bs))
  have hb : Matches (pieces d.toList) b.toList := by
    rw [String.toList_ofList, hmore]
    exact matches_append_iff.2 ⟨_, _, rfl, has, hbs.star_append _⟩
  refine ⟨b, globMatches_slash_iff.2 hb, fun rest hbegins => ?_⟩
  have hlength : as.length ≤ d.toList.length := by
    rw [has.length_eq (star_not_mem_opening _)]
    exact (List.takeWhile_prefix _).length_le.trans (length_pieces_le _)
  rw [begins_slash_iff, String.toList_append, toList_slash, String.toList_ofList, List.append_assoc, List.append_assoc,
    List.append_assoc] at hbegins
  exact not_prefix_of_run (by decide) hlength (by omega) hbegins

/-- A directory that a pattern without stars fits is no longer than the pattern. -/
theorem eq_of_begins_run (hstar : .star ∉ pieces d.toList) (h : globMatches (a ++ "/") (d ++ "/") = true)
    (hbegins : Text.begins (a ++ "/" ++ String.ofList (List.replicate (d.toList.length + 1) 'x')) (d ++ "/") = true) :
    a = d := by
  have hle : a.toList.length ≤ d.toList.length := by
    rw [(globMatches_slash_iff.1 h).length_eq hstar]
    exact length_pieces_le _
  rw [begins_slash_iff, String.toList_append, String.toList_ofList, toList_slash] at hbegins
  rcases hle.lt_or_eq with hlt | heq
  · rw [← List.append_nil (List.replicate _ _)] at hbegins
    exact absurd hbegins (not_prefix_of_run (by decide) (by rw [List.length_append]; exact hlt) (by omega))
  · have hslash := (List.prefix_of_prefix_length_le hbegins (List.prefix_append _ _) (by simp [heq])).eq_of_length
      (by simp [heq])
    exact String.toList_injective (List.append_cancel_right hslash).symm

theorem ofList_replicate_ne_empty {n : Nat} (hn : 0 < n) (c : Char) : String.ofList (List.replicate n c) ≠ "" := by
  intro hempty
  have hlength := congrArg (List.length ∘ String.toList) hempty
  rw [Function.comp_apply, String.toList_ofList, List.length_replicate] at hlength
  exact hn.ne' hlength

theorem Covers.fitsOnlyItself (h : Covers d) (hstar : .star ∉ pieces d.toList) : FitsOnlyItself d := by
  intro a ha
  have hrest := ofList_replicate_ne_empty (Nat.succ_pos d.toList.length) 'x'
  rcases (fits_inside_iff ha).1 (h a _ hrest ha) with hbegins | ⟨hmem, -⟩
  · exact eq_of_begins_run hstar ha hbegins
  · exact absurd hmem hstar

theorem Covers.endsFreely (h : Covers d) (hstar : .star ∈ pieces d.toList)
    (ha : globMatches (a ++ "/") (d ++ "/") = true) : EndsFreely d := by
  refine ⟨hstar, fun p hp c => ?_⟩
  obtain ⟨b, hb, hbegins⟩ := exists_fits_not_begins hstar ha
  by_contra hfits
  rw [Bool.not_eq_true] at hfits
  -- a path that ends in the character which the piece does not stand for
  have hrest := ofList_replicate_ne_empty (List.length_pos_of_mem hp) c
  rcases (fits_inside_iff hb).1 (h b _ hrest hb) with hprefix | ⟨-, hend⟩
  · exact hbegins _ hprefix
  · rw [String.toList_append, String.toList_ofList, List.rtake_eq_reverse_take_reverse, List.reverse_append,
      List.reverse_replicate, List.take_left' (by simp), List.reverse_replicate] at hend
    exact not_matches_replicate (star_not_mem_closing _) hp hfits hend

theorem covers_iff : Covers d ↔ FitsOnlyItself d ∨ EndsFreely d := by
  constructor
  · intro h
    by_cases hstar : .star ∈ pieces d.toList
    · by_cases hsome : ∃ a, globMatches (a ++ "/") (d ++ "/") = true
      · obtain ⟨a, ha⟩ := hsome
        exact .inr (h.endsFreely hstar ha)
      · exact .inl fun a ha => absurd ⟨a, ha⟩ hsome
    · exact .inl (h.fitsOnlyItself hstar)
  · rintro (h | ⟨hstar, hfree⟩) a rest _ ha
    · obtain rfl := h a ha
      exact (fits_inside_iff ha).2 (.inl (begins_slash_iff.2 (by simp [String.toList_append])))
    · refine (fits_inside_iff ha).2 (.inr ⟨hstar, matches_of_forall_fits hfree ?_⟩)
      have hle := (globMatches_slash_iff.1 ha).length_closing_le hstar
      rw [List.rtake_eq_reverse_take_reverse, List.length_reverse, List.length_take, List.length_reverse,
        String.toList_append, toList_slash, List.length_append, List.length_append]
      omega

/-- A path inside a directory that a pattern fits is covered exactly if the pattern stands before the path or what
follows its last star fits the end of the path. So a pattern covers all such paths exactly if it fits no directory but
the one that it spells, or its end is free. -/
theorem directory_pattern_covers_iff (d : String) :
    (∀ a rest, globMatches (a ++ "/") (d ++ "/") = true →
      (fits (a ++ "/" ++ rest) (d ++ "/") = true ↔
        Text.begins (a ++ "/" ++ rest) (d ++ "/") = true ∨ FitsEnd d (a ++ "/" ++ rest))) ∧
      (Covers d ↔ FitsOnlyItself d ∨ EndsFreely d) :=
  ⟨fun _ _ => fits_inside_iff, covers_iff⟩

/-- The standing pattern of packaged information fits its directories and covers nothing inside them. -/
theorem packaged_files_are_not_covered :
    "*.egg-info/" ∈ Snapshot.alwaysIgnoredPatterns ∧ globMatches "pkg.egg-info/" "*.egg-info/" = true ∧
      fits "pkg.egg-info/PKG-INFO" "*.egg-info/" = false ∧ ¬ Covers "*.egg-info" := by
  have hmem : "*.egg-info/" ∈ Snapshot.alwaysIgnoredPatterns := by decide +kernel
  have hglob : globMatches ("pkg.egg-info" ++ "/") ("*.egg-info" ++ "/") = true := by decide +kernel
  have hbegins : Text.begins "pkg.egg-info/PKG-INFO" "*.egg-info/" ≠ true := by decide +kernel
  have hend : ¬ FitsEnd "*.egg-info" "pkg.egg-info/PKG-INFO" := by
    rintro ⟨-, h⟩
    revert h
    rw [← accepts_iff]
    decide +kernel
  have hfits : ¬ fits "pkg.egg-info/PKG-INFO" "*.egg-info/" = true := fun h =>
    (((directory_pattern_covers_iff "*.egg-info").1 "pkg.egg-info" "PKG-INFO" hglob).1 h).elim hbegins hend
  exact ⟨hmem, hglob, Bool.not_eq_true _ ▸ hfits, fun h => hfits (h "pkg.egg-info" "PKG-INFO" (by decide) hglob)⟩

end IssuePlanner.Path
