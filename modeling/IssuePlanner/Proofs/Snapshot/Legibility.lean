import IssuePlanner.Proofs.Snapshot.ReadingBack
import Mathlib.Data.Finset.Max

/-! Which drawings can be read back. A directory is read as itself only if its parent has a line and no directory of the
parent's level sorts between the two (`forall_readAs_self_iff`). If some directory is read as another one, then of the
first such directory of the lowest such level nothing is found (`readAs_self_of_surjective`), so the paths come back exactly
if each directory is read as itself. -/

namespace IssuePlanner.Snapshot.Tree

variable {paths dirs : List String} {d e p x : String}

/-! ### Directories that stand between -/

/-- The name of one directory goes on behind that of the other with a character that sorts before the slash, and no
directory of its own: it sorts between the other one and all that lies in that. -/
def Separates (e p : String) : Prop := ∃ c rest, e.toList = p.toList ++ c :: rest ∧ c < '/' ∧ '/' ∉ rest

theorem lt_append_slash (p x : String) : p < p ++ "/" ++ x := by
  rw [String.lt_iff, String.toList_append, String.toList_append, List.append_assoc]
  exact Text.lt_append_cons p.toList '/' x.toList

theorem separates_iff (x : String) : Separates e p ↔ level e = level p ∧ p < e ∧ e < p ++ "/" ++ x := by
  have htext : (p ++ "/" ++ x).toList = p.toList ++ '/' :: x.toList := by simp
  rw [String.lt_iff, String.lt_iff, htext, level, level]
  constructor
  · rintro ⟨c, rest, he, hc, hrest⟩
    have hslash : '/' ∉ c :: rest := by simp [hc.ne', hrest]
    rw [he, List.count_append, List.count_eq_zero_of_not_mem hslash]
    exact ⟨rfl, Text.lt_append_cons _ c rest, List.append_left_lt (List.cons_lt_cons_iff.2 (.inl hc))⟩
  · rintro ⟨hlevel, hpe, hex⟩
    obtain ⟨rest, he, hne, hlt⟩ := Text.exists_append_of_between hpe hex
    obtain ⟨c, rest, rfl⟩ := List.exists_cons_of_ne_nil hne
    rw [he, List.count_append, Nat.add_eq_left, List.count_eq_zero, List.mem_cons, not_or] at hlevel
    refine ⟨c, rest, he, ?_, hlevel.2⟩
    exact (List.cons_lt_cons_iff.1 hlt).resolve_right fun h => hlevel.1 h.1.symm

/-- The parent is the nearest directory exactly if it has a line and no other one stands between. -/
theorem nearest_append_iff (hx : '/' ∉ x.toList) :
    Nearest dirs p (p ++ "/" ++ x) ↔ p ∈ dirs ∧ ∀ e ∈ dirs, ¬ Separates e p := by
  constructor
  · intro h
    refine ⟨h.mem, fun e he hsep => ?_⟩
    obtain ⟨hlevel, hpe, hex⟩ := (separates_iff x).1 hsep
    exact absurd hpe (not_lt_of_ge (h.last e he hlevel hex))
  · rintro ⟨hp, hsep⟩
    refine ⟨hp, (level_append hx p).symm, lt_append_slash p x, fun e he hlevel hex => ?_⟩
    by_contra hle
    exact hsep e he ((separates_iff x).2 ⟨hlevel, lt_of_not_ge hle, hex⟩)

/-! ### Directories that are read as themselves -/

/-- A directory whose nearest one is its parent is read as itself if the parent is. -/
theorem readAs_self_of_nearest (hd : '/' ∈ d.toList) (hnear : Nearest dirs (parent d) d)
    (hread : ReadAs dirs (parent d) (parent d)) : ReadAs dirs d d := by
  have hself := ReadAs.inside hnear hread
  rwa [← eq_parent_append_name hd] at hself

theorem nearest_of_readAs {y : String} (hread : ReadAs dirs d y) (hlevel : level d ≠ 0)
    (hself : ∀ e ∈ dirs, level e + 1 = level d → ReadAs dirs e e) :
    ∃ e, Nearest dirs e d ∧ y = e ++ "/" ++ name d := by
  rcases readAs_iff.1 hread with ⟨hzero, -⟩ | ⟨e, x, hnear, hx, rfl⟩
  · exact absurd hzero hlevel
  · exact ⟨e, hnear, by rw [hx.unique (hself e hnear.mem hnear.level_eq)]⟩

theorem forall_readAs_self_iff : (∀ d ∈ dirs, ReadAs dirs d d) ↔
    ∀ d ∈ dirs, '/' ∈ d.toList → parent d ∈ dirs ∧ ∀ e ∈ dirs, ¬ Separates e (parent d) := by
  constructor
  · intro h d hd hslash
    have hlevel : level d ≠ 0 := fun hzero => level_eq_zero_iff.1 hzero hslash
    obtain ⟨e, hnear, heq⟩ := nearest_of_readAs (h d hd) hlevel fun e he _ => h e he
    have hname := slash_not_mem_name d
    have hparent : parent d = e := by
      rw [heq, parent_append hname]
    rw [hparent]
    rw [heq] at hnear
    exact (nearest_append_iff hname).1 hnear
  · intro h d hd
    induction hn : level d generalizing d with
    | zero => exact .top hn
    | succ n ih =>
      have hslash : '/' ∈ d.toList := by
        by_contra hnot
        rw [level_eq_zero_iff.2 hnot] at hn
        cases hn
      have hnear : Nearest dirs (parent d) d := by
        have hnear' := (nearest_append_iff (slash_not_mem_name d)).2 (h d hd hslash)
        rwa [← eq_parent_append_name hslash] at hnear'
      have hlevel := hnear.level_eq
      exact readAs_self_of_nearest hslash hnear (ih _ (h d hd hslash).1 (by omega))

/-! ### Paths that come back -/

theorem mem_paths_iff (h : ∀ p ∈ paths, p.toList.head? ≠ some '/') : p ∈ paths ↔ p ∈ filesIn paths "" ∨
    ∃ d ∈ drawnDirs paths, ∃ f ∈ filesIn paths d, p = d ++ "/" ++ f := by
  have hparent (q : String) (hq : q ∈ paths) : parent q = "" ↔ '/' ∉ q.toList := by
    constructor
    · intro hroot hslash
      apply h q hq
      rw [eq_parent_append_name hslash, hroot]
      simp
    · intro hslash
      rw [parent, place_of_not_mem hslash]
  constructor
  · intro hp
    by_cases hslash : '/' ∈ p.toList
    · refine .inr ⟨parent p, mem_drawnDirs.2 ⟨fun hroot => (hparent p hp).1 hroot hslash, p, hp, rfl⟩, name p, ?_,
        eq_parent_append_name hslash⟩
      exact mem_filesIn.2 ⟨p, hp, rfl, rfl⟩
    · refine .inl (mem_filesIn.2 ⟨p, hp, (hparent p hp).2 hslash, ?_⟩)
      rw [name, place_of_not_mem hslash]
  · rintro (hroot | ⟨d, hd, f, hf, rfl⟩)
    · obtain ⟨q, hq, hempty, rfl⟩ := mem_filesIn.1 hroot
      rwa [name, place_of_not_mem ((hparent q hq).1 hempty)]
    · obtain ⟨q, hq, rfl, rfl⟩ := mem_filesIn.1 hf
      have hslash : '/' ∈ q.toList := by
        by_contra hnot
        exact (mem_drawnDirs.1 hd).1 ((hparent q hq).2 hnot)
      rwa [← eq_parent_append_name hslash]

def Recovers (paths : List String) : Prop := ∀ p, p ∈ readBack (text paths) ↔ p ∈ paths

theorem Recovers.exists_readAs (h : Recovers paths) (hlines : ∀ p ∈ paths, '\n' ∉ p.toList)
    (hrelative : ∀ p ∈ paths, p.toList.head? ≠ some '/') (hd : d ∈ drawnDirs paths) :
    ∃ e ∈ drawnDirs paths, ReadAs (drawnDirs paths) e d := by
  obtain ⟨f, hf⟩ := List.exists_mem_of_ne_nil _ (filesIn_ne_nil (mem_drawnDirs.1 hd))
  have hpath := (h _).2 ((mem_paths_iff hrelative).2 (.inr ⟨d, hd, f, hf, rfl⟩))
  rcases (mem_readBack hlines).1 hpath with hroot | ⟨e, he, x, hx, g, hg, heq⟩
  · exact absurd (by simp) (slash_not_mem_of_mem_filesIn hroot)
  · have hdx := append_inj_of_not_mem (slash_not_mem_of_mem_filesIn hf) (slash_not_mem_of_mem_filesIn hg) heq
    exact ⟨e, he, hdx ▸ hx⟩

theorem readAs_self_of_surjective (h : ∀ d ∈ dirs, ∃ e ∈ dirs, ReadAs dirs e d) : ∀ d ∈ dirs, ReadAs dirs d d := by
  classical
  intro d hd
  induction hn : level d generalizing d with
  | zero => exact .top hn
  | succ n ih =>
    by_contra hwrong
    -- the first one of this level that is read as another one
    obtain ⟨m, hm, hfirst⟩ := Finset.exists_min_image
      (dirs.toFinset.filter fun e => level e = n + 1 ∧ ¬ ReadAs dirs e e) id ⟨d, by simp [hd, hn, hwrong]⟩
    simp only [Finset.mem_filter, List.mem_toFinset, id_eq] at hm hfirst
    obtain ⟨hmem, hlevel, hnot⟩ := hm
    obtain ⟨e, he, hread⟩ := h m hmem
    have helevel : level e = n + 1 := hread.level_eq.symm.trans hlevel
    have hne : e ≠ m := by
      rintro rfl
      exact hnot hread
    -- what is read as it comes later, and so does all that could stand between it and its parent
    have hme : m < e := by
      refine lt_of_le_of_ne (hfirst e ⟨he, helevel, fun hself => hne (hself.unique hread)⟩) hne.symm
    obtain ⟨q, hnear, heq⟩ := nearest_of_readAs hread (by omega) fun q hq hql => ih q hq (by omega)
    have hnear' : Nearest dirs q m := by
      refine ⟨hnear.mem, by have := hnear.level_eq; omega, ?_, fun q' hq' hql hlt => hnear.last q' hq' hql (hlt.trans hme)⟩
      rw [heq]
      exact lt_append_slash q (name e)
    have hparent : parent m = q := by rw [heq, parent_append (slash_not_mem_name e)]
    have hslash : '/' ∈ m.toList := by simp [heq]
    have hqlevel := hnear'.level_eq
    exact hnot (readAs_self_of_nearest hslash (hparent ▸ hnear') (hparent ▸ ih q hnear.mem (by omega)))

theorem recovers_iff_forall_readAs_self (hlines : ∀ p ∈ paths, '\n' ∉ p.toList)
    (hrelative : ∀ p ∈ paths, p.toList.head? ≠ some '/') :
    Recovers paths ↔ ∀ d ∈ drawnDirs paths, ReadAs (drawnDirs paths) d d := by
  constructor
  · intro h
    exact readAs_self_of_surjective fun d hd => h.exists_readAs hlines hrelative hd
  · intro h p
    rw [mem_readBack hlines, mem_paths_iff hrelative]
    refine or_congr_right (exists_congr fun d => and_congr_right fun hd => ?_)
    constructor
    · rintro ⟨x, hx, hp⟩
      rwa [hx.unique (h d hd)] at hp
    · intro hp
      exact ⟨d, h d hd, hp⟩

/-- Relative paths without line feeds come back from their drawing exactly if, for each directory that a path lies
directly in and that is not at the top, some path lies directly in its parent, and none lies directly in a directory that
separates the two. -/
theorem drawing_reads_back_iff (hlines : ∀ p ∈ paths, '\n' ∉ p.toList)
    (hrelative : ∀ p ∈ paths, p.toList.head? ≠ some '/') :
    (∀ p, p ∈ readBack (text paths) ↔ p ∈ paths) ↔ ∀ d, IsDrawn paths d → '/' ∈ d.toList →
      IsDrawn paths (parent d) ∧ ∀ e, IsDrawn paths e → ¬ Separates e (parent d) := by
  simp only [← mem_drawnDirs]
  exact (recovers_iff_forall_readAs_self hlines hrelative).trans forall_readAs_self_iff

/-- Three directories with a line each, of which the second one separates the first from the third. -/
def separatedPaths : List String := ["a/x", "a-b/y", "a/c/z"]

/-- The third directory is drawn below the second one. Where a parent has no line, two different paths have the same
drawing. -/
theorem separatedPaths_misread :
    (∀ p ∈ separatedPaths, '\n' ∉ p.toList) ∧ (∀ p ∈ separatedPaths, p.toList.head? ≠ some '/') ∧
      ¬ (∀ p, p ∈ readBack (text separatedPaths) ↔ p ∈ separatedPaths) ∧ text ["a/b/f"] = text ["c/b/f"] := by
  have hlines : ∀ p ∈ separatedPaths, '\n' ∉ p.toList := by decide
  have hrelative : ∀ p ∈ separatedPaths, p.toList.head? ≠ some '/' := by decide
  refine ⟨hlines, hrelative, fun hback => ?_, by decide +kernel⟩
  have hthird : IsDrawn separatedPaths "a/c" := ⟨by decide, "a/c/z", by decide, by decide⟩
  have hsecond : IsDrawn separatedPaths "a-b" := ⟨by decide, "a-b/y", by decide, by decide⟩
  have hseparates : Separates "a-b" (parent "a/c") := ⟨'-', ['b'], by decide, by decide, by decide⟩
  exact ((drawing_reads_back_iff hlines hrelative).1 hback "a/c" hthird (by decide)).2 "a-b" hsecond hseparates

end IssuePlanner.Snapshot.Tree
