import IssuePlanner.Curation.ContextFile
import IssuePlanner.Proofs.Snapshot.Selection
import IssuePlanner.Proofs.Text.Lines
import Mathlib.Data.List.Dedup

/-! What a reader of rule files makes of the file that curation writes. Its rules are the patterns of the directories
exactly if no line of the task but the first is read as another rule, and no name of a directory spoils its own line
(`rules_fileText_iff`). -/

namespace IssuePlanner.Curation

open IssuePlanner.Snapshot

/-! ### Lines that are rules -/

theorem mayRepeat_eq_false {l : String} :
    mayRepeat l = false ↔ Text.strip l.toList ≠ [] ∧ (Text.strip l.toList).head? ≠ some '#' := by
  rw [mayRepeat, Bool.or_eq_false_iff, Text.trim, begins_hash, ← Bool.not_eq_true, Text.isBlankText_iff,
    ← Text.strip_eq_nil_iff]

theorem filter_keepLast (ls : List String) :
    (keepLast ls).filter (!mayRepeat ·) = (ls.filter (!mayRepeat ·)).dedup := by
  induction ls with
  | nil => rfl
  | cons l ls ih =>
    rw [keepLast]
    cases hl : mayRepeat l with
    | true =>
      rw [List.filter_cons_of_neg (by simp [hl]), ← ih]
      simp [hl]
    | false =>
      rw [List.filter_cons_of_pos (by simp [hl])]
      by_cases hmem : l ∈ ls
      · rw [List.dedup_cons_of_mem (by simp [hmem, hl]), ← ih]
        simp [hmem]
      · rw [List.dedup_cons_of_notMem (by simp [hmem]), ← ih]
        simp [hmem, hl]

theorem ruleLines_unlines {ls : List String} (h : ∀ l ∈ ls, '\n' ∉ l.toList) :
    ruleLines (Text.unlines ls) = (ls.filter (!mayRepeat ·)).map Text.trim := by
  by_cases hne : ls = []
  · subst hne
    rfl
  · have hsplit : Text.splitOn '\n' (Text.unlines ls).toList = ls.map String.toList := by
      rw [Text.unlines, Text.toList_join]
      exact Text.splitOn_joinWith (by simpa using hne) (by simpa using h)
    rw [ruleLines_eq, hsplit, List.filter_filter, List.map_map, List.filter_map, List.map_map]
    refine congrArg (List.map _) (List.filter_congr fun l _ => ?_)
    rw [Bool.eq_iff_iff, Bool.not_eq_true', mayRepeat_eq_false]
    simp [and_comm]

/-! ### The lines of the file -/

def shownTask (task : String) : String := String.ofList (task.toList.take shownTaskLength)

def rulesAmong (text : String) : List String := (Text.linesOf text).filter (!mayRepeat ·)

theorem rulesAmong_eq (text : String) :
    rulesAmong text = ((Text.lines text.toList).filter fun l => !mayRepeat (String.ofList l)).map String.ofList := by
  rw [rulesAmong, Text.linesOf, List.filter_map]
  rfl

theorem rulesAmong_append (s t : String) : rulesAmong (s ++ "\n" ++ t) = rulesAmong s ++ rulesAmong t := by
  have hlist : (s ++ "\n" ++ t).toList = s.toList ++ '\n' :: t.toList := by simp
  rw [rulesAmong_eq, hlist, Text.filter_lines_append rfl, List.map_append, ← rulesAmong_eq, ← rulesAmong_eq]

theorem rulesAmong_unlines (parts : List String) : rulesAmong (Text.unlines parts) = parts.flatMap rulesAmong := by
  rw [rulesAmong_eq, Text.unlines, Text.toList_join]
  have hjoin := Text.filter_lines_joinWith (p := fun l => !mayRepeat (String.ofList l)) rfl (parts.map String.toList)
  rw [show "\n".toList = ['\n'] from rfl, hjoin, List.flatMap_map, List.map_flatMap]
  exact List.flatMap_congr fun t _ => (rulesAmong_eq t).symm

theorem mayRepeat_hash (cs : List Char) : mayRepeat (String.ofList ('#' :: cs)) = true := by
  rw [← Bool.not_eq_false, mayRepeat_eq_false, String.toList_ofList, Text.head?_strip_cons (by decide)]
  simp

theorem rulesAmong_comment {mark : String} (hmark : mark.toList.head? = some '#')
    (hline : ∀ c ∈ mark.toList, Text.isLineEnd c = false) (text : String) :
    rulesAmong (mark ++ text) = (Text.linesOf text).tail.filter (!mayRepeat ·) := by
  obtain ⟨rest, hrest⟩ := List.head?_eq_some_iff.1 hmark
  rw [rulesAmong, Text.linesOf, String.toList_append,
    Text.lines_append_of_forall hline (by simp [hrest]), hrest, List.map_cons, List.cons_append,
    List.filter_cons_of_neg (by rw [mayRepeat_hash]; decide), List.map_tail]
  rfl

theorem rulesAmong_rawText (task : String) (paths dirs : List String) :
    rulesAmong (rawText task paths dirs) = (Text.linesOf (shownTask task)).tail.filter (!mayRepeat ·) ++
      dirs.flatMap fun d => rulesAmong (patternOf paths d) := by
  have hheading : Text.unlines (heading task) = Text.unlines ((heading task).take 4) ++ "\n" := by
    simp [heading, Text.unlines, Text.join]
  have hfirst : rulesAmong "# Yellhorn Context File - AI context optimization" = [] := by decide +kernel
  have hsecond : rulesAmong "# Generated by yellhorn-mcp curate_context tool" = [] := by decide +kernel
  have htask : rulesAmong ("# Based on task: " ++ shownTask task) = _ :=
    rulesAmong_comment (by decide) (Text.isLineEnd_of_all (by decide)) (shownTask task)
  have hempty : rulesAmong "" = [] := rfl
  -- the heading ends with a line feed, so the directories start on a line of their own
  rw [rawText, hheading, rulesAmong_append, rulesAmong_unlines, rulesAmong_unlines]
  refine congrArg₂ (· ++ ·) ?_ ?_
  · simp only [heading, List.take, List.flatMap_cons, List.flatMap_nil, hfirst, hsecond, hempty, List.nil_append,
      List.append_nil]
    exact htask
  · cases dirs with
    | nil => rfl
    | cons d dirs =>
      have hmark : rulesAmong "# Important directories to specifically include" = [] := by decide +kernel
      simp [directoryPart, hmark, hempty, List.flatMap_map]

theorem mem_of_mem_keepLast {l : String} {ls : List String} (h : l ∈ keepLast ls) : l ∈ ls := by
  induction ls with
  | nil => cases h
  | cons m ls ih =>
    rw [keepLast] at h
    split_ifs at h
    · exact List.mem_cons_of_mem _ (ih h)
    · rcases List.mem_cons.1 h with rfl | h
      · simp
      · exact List.mem_cons_of_mem _ (ih h)

theorem isLineEnd_of_mem_linesOf {l text : String} (h : l ∈ Text.linesOf text) :
    ∀ c ∈ l.toList, Text.isLineEnd c = false := by
  obtain ⟨cs, hcs, rfl⟩ := List.mem_map.1 h
  rw [String.toList_ofList]
  exact Text.isLineEnd_of_mem_lines hcs

theorem ruleLines_fileText (task : String) (paths dirs : List String) :
    ruleLines (fileText task paths dirs) = (rulesAmong (rawText task paths dirs)).dedup.map Text.trim := by
  have hlines : ∀ l ∈ keepLast (Text.linesOf (rawText task paths dirs)), '\n' ∉ l.toList := by
    intro l hl hmem
    have hend := isLineEnd_of_mem_linesOf (mem_of_mem_keepLast hl) _ hmem
    exact absurd hend (by decide)
  rw [fileText, ruleLines_unlines hlines, filter_keepLast]
  rfl

theorem return_not_mem_fileText (task : String) (paths dirs : List String) :
    '\r' ∉ (fileText task paths dirs).toList := by
  intro hmem
  rw [fileText, Text.unlines, Text.toList_join] at hmem
  obtain hsep | ⟨cs, hcs, hc⟩ := Text.mem_joinWith hmem
  · exact absurd hsep (by decide)
  · obtain ⟨l, hl, rfl⟩ := List.mem_map.1 hcs
    have hend := isLineEnd_of_mem_linesOf (mem_of_mem_keepLast hl) _ hc
    exact absurd hend (by decide)

/-! ### The patterns of directories -/

variable {task d : String} {paths picked : List String}

/-- The name of a directory can stand on a line of its own. -/
structure Writable (d : String) : Prop where
  /-- It is one line. -/
  line : ∀ c ∈ d.toList, Text.isLineEnd c = false
  /-- It does not start with a blank or with a mark of comments or of excluded paths. -/
  head : ∀ c ∈ d.toList.head?, Text.isBlank c = false ∧ c ≠ '#' ∧ c ≠ '!'

theorem toList_patternOf (paths : List String) (d : String) :
    ∃ stars, (stars = [] ∨ stars = ['*', '*']) ∧ (patternOf paths d).toList = d.toList ++ '/' :: stars := by
  rw [patternOf, String.toList_append]
  cases holdsFile paths d with
  | true => exact ⟨[], .inl rfl, rfl⟩
  | false => exact ⟨['*', '*'], .inr rfl, rfl⟩

theorem patternOf_injective (paths : List String) : Function.Injective (patternOf paths) := by
  intro d e h
  obtain ⟨stars, hstars, hd⟩ := toList_patternOf paths d
  obtain ⟨stars', hstars', he⟩ := toList_patternOf paths e
  rw [h, he] at hd
  rcases hstars with rfl | rfl <;> rcases hstars' with rfl | rfl
  · exact String.toList_inj.1 (List.append_cancel_right hd).symm
  · simpa using congrArg List.getLast? hd
  · simpa using congrArg List.getLast? hd
  · exact String.toList_inj.1 (List.append_cancel_right hd).symm

namespace Writable

theorem pattern_line (h : Writable d) : ∀ c ∈ (patternOf paths d).toList, Text.isLineEnd c = false := by
  obtain ⟨stars, hstars, hpattern⟩ := toList_patternOf paths d
  intro c hc
  rw [hpattern, List.mem_append] at hc
  rcases hc with hc | hc
  · exact h.line c hc
  · rcases hstars with rfl | rfl
    · exact Text.isLineEnd_of_all (by decide) c hc
    · exact Text.isLineEnd_of_all (by decide) c hc

theorem pattern_head (h : Writable d) (paths : List String) :
    ∃ c cs, (patternOf paths d).toList = c :: cs ∧ Text.isBlank c = false ∧ c ≠ '#' ∧ c ≠ '!' := by
  obtain ⟨stars, -, hpattern⟩ := toList_patternOf paths d
  cases hd : d.toList with
  | nil =>
    rw [hd] at hpattern
    exact ⟨_, _, hpattern, by decide⟩
  | cons c cs =>
    rw [hd] at hpattern
    exact ⟨c, _, hpattern, h.head c (by simp [hd])⟩

theorem trim_pattern (h : Writable d) : Text.trim (patternOf paths d) = patternOf paths d := by
  obtain ⟨c, cs, hhead, hblank, -⟩ := h.pattern_head paths
  have hlast : ∃ e, (patternOf paths d).toList.getLast? = some e ∧ Text.isBlank e = false := by
    obtain ⟨stars, rfl | rfl, hpattern⟩ := toList_patternOf paths d
    · exact ⟨'/', by simp [hpattern], by decide⟩
    · exact ⟨'*', by simp [hpattern], by decide⟩
  obtain ⟨e, hlast, he⟩ := hlast
  rw [Text.trim, Text.strip_eq_self (by simp [hhead, hblank]) hlast he, String.ofList_toList]

theorem rulesAmong_pattern (h : Writable d) : rulesAmong (patternOf paths d) = [patternOf paths d] := by
  obtain ⟨c, cs, hhead, hblank, hhash, -⟩ := h.pattern_head paths
  have hlines : Text.linesOf (patternOf paths d) = [patternOf paths d] := by
    rw [Text.linesOf, Text.lines_of_forall h.pattern_line (by simp [hhead]), List.map_singleton, String.ofList_toList]
  have hrule : mayRepeat (patternOf paths d) = false := by
    rw [mayRepeat_eq_false, hhead, Text.head?_strip_cons hblank]
    refine ⟨fun hnil => ?_, by simpa using hhash⟩
    have hfirst := Text.head?_strip_cons hblank cs
    rw [hnil] at hfirst
    cases hfirst
  rw [rulesAmong, hlines]
  simp [hrule]

theorem marked?_pattern (h : Writable d) : marked? (patternOf paths d) = none := by
  obtain ⟨c, cs, hhead, -, -, hmark⟩ := h.pattern_head paths
  rw [marked?_eq_none_iff_head?, hhead]
  simpa using hmark

end Writable

theorem writable_of_mem (h : patternOf paths d ∈ ruleLines (fileText task paths picked))
    (hmarked : marked? (patternOf paths d) = none) : Writable d := by
  obtain ⟨stars, -, hpattern⟩ := toList_patternOf paths d
  rw [ruleLines_fileText] at h
  obtain ⟨l, hl, htrim⟩ := List.mem_map.1 h
  obtain ⟨hline, hrule⟩ := List.mem_filter.1 (List.mem_dedup.1 hl)
  have hstrip : Text.strip l.toList = d.toList ++ '/' :: stars := by
    rw [← hpattern, ← htrim, Text.trim, String.toList_ofList]
  refine ⟨fun c hc => ?_, fun c hc => ?_⟩
  · refine isLineEnd_of_mem_linesOf hline c ((Text.strip_isInfix _).subset ?_)
    rw [hstrip]
    exact List.mem_append_left _ hc
  · obtain ⟨cs, hcs⟩ := List.head?_eq_some_iff.1 hc
    rw [hcs] at hstrip hpattern
    rw [Bool.not_eq_true', mayRepeat_eq_false, hstrip] at hrule
    rw [marked?_eq_none_iff_head?, hpattern] at hmarked
    exact ⟨Text.not_blank_of_strip_eq_cons hstrip, by simpa using hrule.2, by simpa using hmarked⟩

/-! ### What is read back -/

theorem ofLines_eq_plain {ls ps : List String} :
    RuleFile.ofLines ls = ⟨ps, []⟩ ↔ ls = ps ∧ ∀ l ∈ ls, marked? l = none := by
  rw [RuleFile.ofLines, RuleFile.mk.injEq, List.filterMap_eq_nil_iff]
  refine and_congr_left fun hnone => ?_
  rw [List.filter_eq_self.2 fun l hl => by simp [hnone l hl]]

/-- Rules in front of distinct ones are among them if as many are left once the repeated ones are dropped. -/
theorem subset_of_length_dedup {ts ps : List String} (hps : ps.Nodup) (h : (ts ++ ps).dedup.length = ps.length) :
    ts ⊆ ps := by
  have hsub : ps.Subperm (ts ++ ps).dedup := List.subperm_of_subset hps fun p hp => by simp [hp]
  have hperm := hsub.perm_of_length_le h.le
  intro t ht
  exact hperm.mem_iff.2 (by simp [ht])

theorem ruleLines_fileText_of_writable (h : ∀ d ∈ picked, Writable d) (task : String) (paths : List String) :
    ruleLines (fileText task paths picked) =
      ((Text.linesOf (shownTask task)).tail.filter (!mayRepeat ·) ++ picked.map (patternOf paths)).dedup.map
        Text.trim := by
  have hpatterns : picked.flatMap (fun d => rulesAmong (patternOf paths d)) = picked.map (patternOf paths) := by
    rw [List.flatMap_congr fun d hd => (h d hd).rulesAmong_pattern]
    exact List.map_eq_flatMap.symm
  rw [ruleLines_fileText, rulesAmong_rawText, hpatterns]

/-- The file is read back as the patterns of its directories exactly if each line of the task behind the first is
blank, a comment or one of the patterns, and each name can stand on a line. -/
theorem rules_fileText_iff (hpicked : picked.Nodup) :
    RuleFile.ofLines (ruleLines (fileText task paths picked)) = ⟨picked.map (patternOf paths), []⟩ ↔
      (∀ l ∈ (Text.linesOf (shownTask task)).tail, mayRepeat l = true ∨ l ∈ picked.map (patternOf paths)) ∧
        ∀ d ∈ picked, Writable d := by
  have hnodup : (picked.map (patternOf paths)).Nodup := hpicked.map (patternOf_injective paths)
  rw [ofLines_eq_plain]
  constructor
  · rintro ⟨hrules, hmarked⟩
    rw [hrules] at hmarked
    have hwritable : ∀ d ∈ picked, Writable d := by
      intro d hd
      have hmem : patternOf paths d ∈ picked.map (patternOf paths) := List.mem_map_of_mem hd
      exact writable_of_mem (hrules.symm ▸ hmem) (hmarked _ hmem)
    refine ⟨fun l hl => ?_, hwritable⟩
    -- no more rules are read than there are patterns, so there is no room for another one of the task
    have hlength := congrArg List.length (ruleLines_fileText_of_writable hwritable task paths)
    rw [hrules, List.length_map (f := Text.trim)] at hlength
    by_cases hrule : mayRepeat l = true
    · exact .inl hrule
    · exact .inr (subset_of_length_dedup hnodup hlength.symm (by simp [hl, hrule]))
  · rintro ⟨htask, hwritable⟩
    have hsubset : (Text.linesOf (shownTask task)).tail.filter (!mayRepeat ·) ⊆ picked.map (patternOf paths) := by
      intro l hl
      obtain ⟨hmem, hrule⟩ := List.mem_filter.1 hl
      exact (htask l hmem).resolve_left (by simpa using hrule)
    have hrules : ruleLines (fileText task paths picked) = picked.map (patternOf paths) := by
      rw [ruleLines_fileText_of_writable hwritable, List.Subset.dedup_append_right hsubset, hnodup.dedup, List.map_map]
      exact List.map_congr_left fun d hd => (hwritable d hd).trim_pattern
    refine ⟨hrules, fun l hl => ?_⟩
    rw [hrules] at hl
    obtain ⟨d, hd, rfl⟩ := List.mem_map.1 hl
    exact (hwritable d hd).marked?_pattern

end IssuePlanner.Curation
