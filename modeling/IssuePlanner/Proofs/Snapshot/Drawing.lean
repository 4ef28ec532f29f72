import IssuePlanner.Proofs.Data.Entries
import IssuePlanner.Proofs.Text.Lines
import IssuePlanner.Proofs.Text.Order
import IssuePlanner.Snapshot.Basic

/-! The drawing of a tree and the prompt that shows it. The drawing sorts the directories of the paths and the names in
each of them, so all that counts is how often each path is there (`drawing_eq_of_perm`). The lines are those of the names
at the root, and then for each directory its own line and those of its names (`drawing_eq`). -/

namespace IssuePlanner.Snapshot

namespace Tree

/-! ### Lines -/

/-- The line of a name that is not marked as the last one. -/
def branchLine (level : Nat) (text : String) : String := indent level ++ "├── " ++ text

def lastLine (level : Nat) (text : String) : String := indent level ++ "└── " ++ text

/-- How many directories lie around a directory. -/
def level (dir : String) : Nat := dir.toList.count '/'

theorem fileLines_eq (level : Nat) (files : List String) :
    fileLines level files = files.dropLast.map (branchLine level) ++ files.getLast?.toList.map (lastLine level) := by
  induction files with
  | nil => rfl
  | cons f files ih =>
    cases files with
    | nil => rfl
    | cons g files =>
      rw [fileLines, ih, List.dropLast_cons_cons, List.map_cons, List.getLast?_cons_cons]
      · rfl
      · simp

/-! ### Names in directories -/

/-- The names of the paths in a directory, each as often as a path has it, in order. -/
structure FilesIn (paths : List String) (dir : String) (files : List String) : Prop where
  sorted : files.Pairwise (· ≤ ·)
  perm : files.Perm ((paths.filter fun p => parent p = dir).map name)

/-- The directories that have a line: those that a path lies directly in, the root apart. -/
def IsDrawn (paths : List String) (dir : String) : Prop := dir ≠ "" ∧ ∃ p ∈ paths, parent p = dir

def filesIn (paths : List String) (dir : String) : List String :=
  Text.sort ((paths.filter fun p => parent p = dir).map name)

theorem filesIn_spec (paths : List String) (dir : String) : FilesIn paths dir (filesIn paths dir) :=
  ⟨Text.sort_pairwise _, Text.sort_perm _⟩

def drawnDirs (paths : List String) : List String := (Text.sortedSet (paths.map parent)).filter (· ≠ "")

variable {paths : List String} {dir : String}

theorem mem_drawnDirs : dir ∈ drawnDirs paths ↔ IsDrawn paths dir := by
  simp [drawnDirs, IsDrawn, Text.mem_sortedSet, and_comm]

theorem pairwise_drawnDirs (paths : List String) : (drawnDirs paths).Pairwise (· < ·) :=
  (Text.sortedSet_pairwise _).filter _

theorem filesIn_ne_nil (h : IsDrawn paths dir) : filesIn paths dir ≠ [] := by
  obtain ⟨-, p, hp, hparent⟩ := h
  have hmem : name p ∈ filesIn paths dir :=
    (filesIn_spec paths dir).perm.mem_iff.2 (List.mem_map_of_mem (List.mem_filter.2 ⟨hp, by simpa using hparent⟩))
  exact List.ne_nil_of_mem hmem

/-- The line of a directory, and behind it those of its names. -/
def dirBlock (dir : String) (files : List String) : List String :=
  branchLine (level dir) (name dir ++ "/") ::
    (files.dropLast.map (branchLine (level dir + 1)) ++ files.getLast?.toList.map (lastLine (level dir + 1)))

theorem dirLines_root (paths : List String) : dirLines paths "" = (filesIn paths "").map (branchLine 0) := rfl

theorem dirLines_of_ne (paths : List String) (h : dir ≠ "") :
    dirLines paths dir = dirBlock dir (filesIn paths dir) := by
  rw [dirLines, if_neg h, dirBlock, ← fileLines_eq, branchLine, ← String.append_assoc]
  rfl

/-- The root comes first if it has names, and has no lines otherwise. -/
theorem flatMap_sortedSet (f : String → List String) {names : List String} (h : "" ∉ names → f "" = []) :
    (Text.sortedSet names).flatMap f = f "" ++ ((Text.sortedSet names).filter (· ≠ "")).flatMap f := by
  have hroot : "" ∉ Text.sortedSet names → f "" = [] := by rwa [Text.mem_sortedSet]
  have hsorted := Text.sortedSet_pairwise names
  cases hset : Text.sortedSet names with
  | nil =>
    rw [hset] at hroot
    simpa using hroot
  | cons d ds =>
    rw [hset] at hroot hsorted
    obtain ⟨hless, -⟩ := List.pairwise_cons.1 hsorted
    have hds : "" ∉ ds := fun hmem => Text.not_lt_empty d (hless "" hmem)
    have hfilter : ds.filter (· ≠ "") = ds := by
      rw [List.filter_eq_self]
      intro e he
      simpa using fun hempty : e = "" => hds (hempty ▸ he)
    by_cases hd : d = ""
    · rw [hd, List.filter_cons_of_neg (by simp), hfilter, List.flatMap_cons]
    · rw [List.filter_cons_of_pos (by simpa using hd), hfilter, hroot (by simp [Ne.symm hd, hds]), List.nil_append]

theorem drawing_eq (paths : List String) :
    drawing paths = ["<codebase_tree>", "."] ++ (filesIn paths "").map (branchLine 0) ++
      (drawnDirs paths).flatMap (fun d => dirBlock d (filesIn paths d)) ++ ["</codebase_tree>"] := by
  have hroot : "" ∉ paths.map parent → dirLines paths "" = [] := by
    intro hnone
    have hfilter : paths.filter (fun p => parent p = "") = [] := by
      rw [List.filter_eq_nil_iff]
      intro p hp hparent
      exact hnone (List.mem_map.2 ⟨p, hp, by simpa using hparent⟩)
    rw [dirLines_root, filesIn, hfilter]
    simp [Text.sort]
  have hdirs : (drawnDirs paths).flatMap (dirLines paths) =
      (drawnDirs paths).flatMap fun d => dirBlock d (filesIn paths d) :=
    List.flatMap_congr fun d hd => dirLines_of_ne paths (mem_drawnDirs.1 hd).1
  rw [drawing, flatMap_sortedSet _ hroot, ← drawnDirs, hdirs, dirLines_root]
  simp only [List.append_assoc]

/-! ### The order of the paths -/

theorem filesIn_eq_of_perm {paths' : List String} (h : paths.Perm paths') (dir : String) :
    filesIn paths dir = filesIn paths' dir :=
  Text.sort_eq_of_perm ((h.filter _).map _)

theorem drawing_eq_of_perm {paths' : List String} (h : paths.Perm paths') : drawing paths = drawing paths' := by
  have hdirs : drawnDirs paths = drawnDirs paths' := by
    rw [drawnDirs, drawnDirs, Text.sortedSet_congr fun d => (h.map parent).mem_iff]
  rw [drawing_eq, drawing_eq, filesIn_eq_of_perm h, hdirs]
  simp only [filesIn_eq_of_perm h]

end Tree

/-! ### The order of the contents -/

theorem sorted_contents_eq_of_perm {contents contents' : List (String × String)} (h : contents.Perm contents')
    (hkeys : (Entries.keys contents).Nodup) :
    (contents.mergeSort fun a b => Text.atMost a.1 b.1) = contents'.mergeSort fun a b => Text.atMost a.1 b.1 := by
  have hsorted (cs : List (String × String)) :
      (cs.mergeSort fun a b => Text.atMost a.1 b.1).Pairwise fun a b => a.1 ≤ b.1 := by
    refine (List.pairwise_mergeSort (fun a b c hab hbc => ?_) (fun a b => ?_) cs).imp Text.atMost_iff.1
    · exact Text.atMost_iff.2 ((Text.atMost_iff.1 hab).trans (Text.atMost_iff.1 hbc))
    · rw [Bool.or_eq_true, Text.atMost_iff, Text.atMost_iff]
      exact le_total a.1 b.1
  have hperm := (List.mergeSort_perm contents fun a b => Text.atMost a.1 b.1).trans
    (h.trans (List.mergeSort_perm contents' fun a b => Text.atMost a.1 b.1).symm)
  refine hperm.eq_of_pairwise (fun a b ha hb hab hba => ?_) (hsorted contents) (hsorted contents')
  have ha' : a ∈ contents := List.mem_mergeSort.1 ha
  have hb' : b ∈ contents := h.mem_iff.2 (List.mem_mergeSort.1 hb)
  exact List.inj_on_of_nodup_map hkeys ha' hb' (le_antisymm hab hba)

theorem prompt_eq_of_perm {s s' : Snapshot} (hpaths : s.paths.Perm s'.paths) (hcontents : s.contents.Perm s'.contents)
    (hkeys : (Entries.keys s.contents).Nodup) : s.prompt = s'.prompt := by
  have hempty : s.contents.isEmpty = s'.contents.isEmpty := by
    rw [Bool.eq_iff_iff, List.isEmpty_iff, List.isEmpty_iff]
    exact ⟨fun h => List.nil_perm.1 (h ▸ hcontents), fun h => List.perm_nil.1 (h ▸ hcontents)⟩
  rw [prompt, prompt, Tree.text, Tree.text, Tree.drawing_eq_of_perm hpaths, hempty,
    sorted_contents_eq_of_perm hcontents hkeys]

/-- Only an empty snapshot has nothing behind its tree. -/
theorem exists_prompt_eq (paths : List String) (contents : List (String × String)) :
    ∃ rest, (Snapshot.mk paths contents).prompt = Text.unlines (Tree.drawing paths) ++ rest := by
  unfold prompt
  split
  · exact ⟨"", String.append_empty.symm⟩
  · dsimp only
    simp only [String.append_assoc]
    exact ⟨_, rfl⟩

open IssuePlanner.Snapshot.Tree in
/-- A prompt does not depend on the order of its paths and contents. It begins with the lines of a tree. Of these, those of
the names at the root come first, one for each path there. Then each directory that a path lies directly in has one line, in order, and
behind it come the lines of its names, one for each path in it, in order and with the last one marked. -/
theorem prompt_of_path_set (paths : List String) (contents : List (String × String))
    (hkeys : (Entries.keys contents).Nodup) :
    (∀ paths' contents', paths.Perm paths' → contents.Perm contents' →
      (Snapshot.mk paths' contents').prompt = (Snapshot.mk paths contents).prompt) ∧
    (∃ rest, (Snapshot.mk paths contents).prompt = Text.unlines (drawing paths) ++ rest) ∧
    ∃ (rootFiles dirs : List String) (filesOf : String → List String),
      drawing paths = ["<codebase_tree>", "."] ++ rootFiles.map (branchLine 0) ++
        dirs.flatMap (fun d => branchLine (level d) (name d ++ "/") ::
          ((filesOf d).dropLast.map (branchLine (level d + 1)) ++
            (filesOf d).getLast?.toList.map (lastLine (level d + 1)))) ++ ["</codebase_tree>"] ∧
      FilesIn paths "" rootFiles ∧ dirs.Pairwise (· < ·) ∧ (∀ d, d ∈ dirs ↔ IsDrawn paths d) ∧
      ∀ d ∈ dirs, filesOf d ≠ [] ∧ FilesIn paths d (filesOf d) := by
  refine ⟨fun paths' contents' hpaths hcontents => (prompt_eq_of_perm hpaths hcontents hkeys).symm,
    exists_prompt_eq paths contents, filesIn paths "", drawnDirs paths, filesIn paths, drawing_eq paths, filesIn_spec paths "", pairwise_drawnDirs paths,
    fun d => mem_drawnDirs, fun d hd => ⟨filesIn_ne_nil (mem_drawnDirs.1 hd), filesIn_spec paths d⟩⟩

/-- Two files of one directory and a path that is given twice. -/
theorem prompt_of_reordered_paths :
    (Entries.keys [("a/x", "1"), ("y", "2")]).Nodup ∧
      (Snapshot.mk ["y", "a/x", "y", "a/b"] [("y", "2"), ("a/x", "1")]).prompt =
        (Snapshot.mk ["a/b", "y", "a/x", "y"] [("a/x", "1"), ("y", "2")]).prompt :=
  ⟨by decide, (prompt_of_path_set _ _ (by decide)).1 _ _ (by decide) (by decide)⟩

end IssuePlanner.Snapshot
