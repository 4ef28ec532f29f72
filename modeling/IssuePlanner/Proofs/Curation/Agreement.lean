import IssuePlanner.Proofs.Curation.Writing
import IssuePlanner.Proofs.Path.Directory
import IssuePlanner.Proofs.Snapshot.Hiding

/-! Curating a repository and then taking a snapshot of it. The file names directories by patterns, and a snapshot reads a
pattern of a directory in two ways: as the start of a path, and as a wildcard pattern for the path itself. So the paths
below the picked directories are shown, and those that a picked name happens to fit. The root is picked by a name that no
listed path starts with, and the paths at the root are lost. -/

namespace IssuePlanner.Curation

open IssuePlanner.Action IssuePlanner.Snapshot IssuePlanner.Path

variable {o : Order} {s s' : Session} {message d f : String} {paths picked : List String}

/-! ### Directories and their patterns -/

/-- The directory holds the path: the path lies below it, or the directory is the root and the path has no other. -/
def Holds (d f : String) : Prop :=
  d ≠ rootName ∧ Text.begins f (d ++ "/") = true ∨ d = rootName ∧ '/' ∉ f.toList

/-- The name of the directory, read as a wildcard pattern, fits the path. -/
def FitsAsPattern (d f : String) : Prop := Glob.Matches (Glob.pieces (d ++ "/").toList) (f ++ "/").toList

def Reached (paths : List String) (d f : String) : Prop :=
  Text.begins f (d ++ "/") = true ∨ holdsFile paths d = true ∧ FitsAsPattern d f

theorem fits_directory_iff : fits f (d ++ "/") = true ↔ Text.begins f (d ++ "/") = true ∨ FitsAsPattern d f :=
  fits_slash_iff

theorem fits_below_root_iff : fits f "./**" = true ↔ Text.begins f "./" = true := by
  have hends : ¬ Text.ends "./**" "/" = true := by decide
  have hpieces : Glob.pieces "./**".toList = "./".toList.map .literal ++ [.star, .star] := by decide
  rw [fits, if_neg hends, globMatches_iff, hpieces, Glob.matches_stars_iff]
  exact List.isPrefixOf_iff_prefix.symm

theorem fits_patternOf_iff (h : d = rootName ∨ holdsFile paths d = true) :
    fits f (patternOf paths d) = true ↔ Reached paths d f := by
  unfold patternOf Reached
  cases hfile : holdsFile paths d with
  | true => simpa using fits_directory_iff
  | false =>
    obtain rfl := h.resolve_right (by simp [hfile])
    have hroot : rootName ++ "/**" = "./**" ∧ rootName ++ "/" = "./" := by decide
    simpa [hroot] using fits_below_root_iff

theorem begins_of_mem_directoriesAround {path : String} (h : d ∈ directoriesAround path) :
    Text.begins path (d ++ "/") = true := by
  unfold directoriesAround at h
  obtain ⟨i, hi, rfl⟩ := List.mem_map.1 (List.mem_filter.1 h).1
  have hlength : i + 1 < (Text.splitOn '/' path.toList).length := by
    rw [List.mem_range, Text.pieces, List.length_map] at hi
    omega
  -- the names up to the directory, and the other ones behind a slash
  have hcut : path.toList = Text.joinWith ['/'] ((Text.splitOn '/' path.toList).take (i + 1)) ++
      (['/'] ++ Text.joinWith ['/'] ((Text.splitOn '/' path.toList).drop (i + 1))) := by
    rw [← Text.joinWith_append (by simp [Text.splitOn_ne_nil]) (by simpa using hlength), List.take_append_drop,
      Text.joinWith_splitOn]
  have hdir : (Text.join "/" ((Text.pieces '/' path).take (i + 1))).toList =
      Text.joinWith ['/'] ((Text.splitOn '/' path.toList).take (i + 1)) := by
    rw [Text.toList_join, Text.pieces, ← List.map_take, List.map_map]
    simp [Function.comp_def]
  rw [Text.begins, Text.startsWith, List.isPrefixOf_iff_prefix, String.toList_append, hdir]
  exact ⟨_, (List.append_assoc _ _ _).trans hcut.symm⟩

/-- A directory other than the root is there because of a file below it. -/
theorem holdsFile_of_mem_directoriesOf (h : d ∈ directoriesOf paths) (hd : d ≠ rootName) : holdsFile paths d = true := by
  rw [directoriesOf, Text.mem_sortedSet, List.mem_append] at h
  rcases h with h | h
  · obtain ⟨p, hp, hmem⟩ := List.mem_flatMap.1 h
    rw [holdsFile, if_neg (by simpa using hd)]
    exact List.any_eq_true.2 ⟨p, hp, begins_of_mem_directoriesAround hmem⟩
  · split_ifs at h
    · exact absurd (List.mem_singleton.1 h) hd
    · cases h

theorem fitsAsPattern_iff_of_isPlain (h : Glob.IsPlain d.toList) : FitsAsPattern d f ↔ f = d := by
  have hplain : Glob.IsPlain (d ++ "/").toList := by
    intro c hc
    rw [String.toList_append, List.mem_append] at hc
    rcases hc with hc | hc
    · exact h c hc
    · rw [List.mem_singleton.1 hc]
      decide
  rw [FitsAsPattern, Glob.pieces_of_isPlain hplain, Glob.matches_literals_iff, String.toList_inj, String.append_left_inj]

/-! ### The rules of a curated repository -/

section Rules

variable {text : String} {patterns : List String}

theorem plainFits_iff (h : RuleFile.ofLines (ruleLines text) = ⟨patterns, []⟩) :
    PlainFits text f ↔ ∃ p ∈ patterns, fits f p = true := by
  rw [← fitsAny_plain, h, fitsAny, List.any_eq_true]

theorem not_markedFits (h : RuleFile.ofLines (ruleLines text) = ⟨patterns, []⟩) : ¬ MarkedFits text f := by
  rw [← fitsAny_marked, h]
  exact Bool.false_ne_true

end Rules

theorem tail_linesOf_shownTask {task : String} (h : ∀ c ∈ task.toList, Text.isLineEnd c = false) :
    (Text.linesOf (shownTask task)).tail = [] := by
  rw [Text.linesOf, shownTask, String.toList_ofList]
  by_cases hnil : task.toList.take shownTaskLength = []
  · rw [hnil]
    rfl
  · rw [Text.lines_of_forall (fun c hc => h c (List.mem_of_mem_take hc)) hnil]
    rfl

theorem writable_rootName : Writable rootName := by
  refine ⟨Text.isLineEnd_of_all (by decide), fun c hc => ?_⟩
  obtain rfl : '.' = c := Option.some.inj hc
  decide

/-- A task on one line and names that can stand on a line give a file of patterns only. -/
theorem rules_of_single_line (htask : ∀ c ∈ o.task.toList, Text.isLineEnd c = false)
    (hnames : ∀ d ∈ directoriesOf (surveyed o s), Writable d) :
    RuleFile.ofLines (ruleLines (fileText o.task (surveyed o s) (pickedBy o s))) =
      ⟨(pickedBy o s).map (patternOf (surveyed o s)), []⟩ := by
  refine (rules_fileText_iff (nodup_pickedBy o s)).2 ⟨by simp [tail_linesOf_shownTask htask], fun d hd => ?_⟩
  rcases mem_pickedBy hd with rfl | hmem
  · exact writable_rootName
  · exact hnames d hmem

namespace Filed

variable {path content name : String}

theorem lists {tracked untracked : String} (h : Filed s path content s') (hlists : Snapshot.Lists s tracked untracked) :
    Snapshot.Lists s' tracked untracked := by
  obtain ⟨files, -, hsite⟩ := h
  have hgit : s'.git = s.git := congrArg (fun view => view.2.1) hsite
  unfold Snapshot.Lists
  rwa [hgit]

theorem hasRules {text : Option String} (h : Filed s path content s')
    (hne : s.files.resolve name ≠ s.files.resolve path) (hrules : HasRules s name text) : HasRules s' name text := by
  obtain ⟨files, hwrite, hsite⟩ := h
  have hroot : s'.root = s.root := congrArg Prod.fst hsite
  have hfiles : s'.files = files := congrArg (fun view => view.2.2) hsite
  obtain ⟨p, hp, hwrites⟩ := FileTree.writes_of_write hwrite
  have hfind : files.find? name = s.files.find? name := hwrites.find?_eq (hp ▸ hne)
  cases text with
  | none =>
    have hnone : s.files.doesExist name = false := hrules
    rw [HasRules, hfiles, FileTree.doesExist, hfind]
    exact hnone
  | some text =>
    rw [HasRules, hfiles, hroot]
    exact FileTree.text_of_find?_eq hfind hrules

end Filed

/-! ### Snapshots of a curated repository -/

/-- The path is listed, and no standing pattern hides it. -/
def Visible (tracked untracked f : String) : Prop :=
  f ≠ "" ∧ f ∈ listedNames tracked untracked ∧ ∀ p ∈ alwaysIgnoredPatterns, fits f p = false

/-- The root is picked and holds the path, but no pattern reaches it. -/
def Lost (paths picked : List String) (f : String) : Prop :=
  rootName ∈ picked ∧ '/' ∉ f.toList ∧ ∀ d ∈ picked, ¬ Reached paths d f

/-- A pattern reaches the path, but no picked directory holds it. -/
def Stray (paths picked : List String) (f : String) : Prop :=
  (∃ d ∈ picked, Reached paths d f) ∧ ∀ d ∈ picked, ¬ Holds d f

/-- What patterns reach is what their directories hold, unless a path is lost or stray. -/
theorem exists_reached_iff_exists_holds : ((∃ d ∈ picked, Reached paths d f) ↔ ∃ d ∈ picked, Holds d f) ↔
    ¬ Lost paths picked f ∧ ¬ Stray paths picked f := by
  constructor
  · intro hagree
    refine ⟨?_, ?_⟩
    · rintro ⟨hroot, hslash, hunreached⟩
      obtain ⟨d, hd, hreached⟩ := hagree.2 ⟨rootName, hroot, .inr ⟨rfl, hslash⟩⟩
      exact hunreached d hd hreached
    · rintro ⟨hreached, hunheld⟩
      obtain ⟨d, hd, hholds⟩ := hagree.1 hreached
      exact hunheld d hd hholds
  · rintro ⟨hlost, hstray⟩
    constructor
    · intro hreached
      by_contra hunheld
      exact hstray ⟨hreached, fun d hd hholds => hunheld ⟨d, hd, hholds⟩⟩
    · rintro ⟨d, hd, ⟨-, hbelow⟩ | ⟨rfl, hslash⟩⟩
      · exact ⟨d, hd, .inl hbelow⟩
      · by_contra hunreached
        exact hlost ⟨hd, hslash, fun d hd hreached => hunreached ⟨d, hd, hreached⟩⟩

section Snapshot

variable {report : String → Action Unit} {tracked untracked : String}

theorem rootName_or_holdsFile (h : d ∈ pickedBy o s) : d = rootName ∨ holdsFile (surveyed o s) d = true := by
  by_cases hroot : d = rootName
  · exact .inl hroot
  · exact .inr (holdsFile_of_mem_directoriesOf ((mem_pickedBy h).resolve_left hroot) hroot)

theorem exists_fits_iff_exists_reached :
    (∃ p ∈ (pickedBy o s).map (patternOf (surveyed o s)), fits f p = true) ↔
      ∃ d ∈ pickedBy o s, Reached (surveyed o s) d f := by
  constructor
  · rintro ⟨p, hp, hfits⟩
    obtain ⟨d, hd, rfl⟩ := List.mem_map.1 hp
    exact ⟨d, hd, (fits_patternOf_iff (rootName_or_holdsFile hd)).1 hfits⟩
  · rintro ⟨d, hd, hreached⟩
    exact ⟨_, List.mem_map_of_mem hd, (fits_patternOf_iff (rootName_or_holdsFile hd)).2 hreached⟩

/-- What the rules of a curated repository select. -/
theorem mem_select_curated (htask : ∀ c ∈ o.task.toList, Text.isLineEnd c = false)
    (hnames : ∀ d ∈ directoriesOf (surveyed o s), Writable d) (ignore : Option String) (f : String) :
    f ∈ (Rules.ofTexts (some (fileText o.task (surveyed o s) (pickedBy o s))) ignore).select
        (listedNames tracked untracked) ↔
      Visible tracked untracked f ∧ ∃ d ∈ pickedBy o s, Reached (surveyed o s) d f := by
  have hrules := rules_of_single_line htask hnames
  rw [(select_selects _ ignore _).mem_iff f, Chosen, plainFits_iff hrules, exists_fits_iff_exists_reached]
  constructor
  · rintro ⟨hne, hlisted, hshown, hreached, -⟩
    exact ⟨⟨hne, hlisted, hshown⟩, hreached⟩
  · rintro ⟨⟨hne, hlisted, hshown⟩, hreached⟩
    exact ⟨hne, hlisted, hshown, hreached, not_markedFits hrules⟩

theorem take_curated (hrun : perform (curate o) s = (.ok message, s')) (houtput : o.output = ".yellhorncontext")
    (htask : ∀ c ∈ o.task.toList, Text.isLineEnd c = false)
    (hnames : ∀ d ∈ directoriesOf (surveyed o s), Writable d) (hreport : ∀ m, Passive (report m))
    (hlists : Snapshot.Lists s tracked untracked) (hgit : ∃ text, HasRules s ".gitignore" text)
    (hignore : ∃ text, HasRules s ".yellhornignore" text) (justPaths : Bool) :
    ∃ snapshot t, perform (take report justPaths) s' = (.ok snapshot, t) ∧
      ∀ f, f ∈ snapshot.paths ↔ Visible tracked untracked f ∧ ∃ d ∈ pickedBy o s, Reached (surveyed o s) d f := by
  have hfiled := filed_of_perform_curate hrun
  have htext := text_of_perform_curate hrun (s'.root ++ "/" ++ ".yellhorncontext")
  rw [houtput] at hfiled htext
  obtain ⟨gitText, hgit⟩ := hgit
  obtain ⟨ignore, hignore⟩ := hignore
  have hcontextName : FileTree.isName ".yellhorncontext" = true := by decide +kernel
  have hgit' := hfiled.hasRules (FileTree.resolve_ne_of_isName (by decide +kernel) hcontextName (by decide) _) hgit
  have hignore' := hfiled.hasRules (FileTree.resolve_ne_of_isName (by decide +kernel) hcontextName (by decide) _) hignore
  have hcontext : HasRules s' ".yellhorncontext" (some (fileText o.task (surveyed o s) (pickedBy o s))) := htext
  obtain ⟨t, ht, -⟩ := perform_take hreport (hfiled.lists hlists) justPaths
  rw [rulesOf_of_hasRules ⟨gitText, hgit'⟩ hignore' hcontext] at ht
  exact ⟨_, t, ht, mem_select_curated htask hnames ignore⟩

/-- The snapshot of a repository that was curated for a task on one line shows the visible paths that the pattern of a
picked directory reaches. They are those that a picked directory holds exactly if no visible path is lost or stray. If no
picked name has a wildcard, they are the paths below the picked directories, and the directories themselves where they
are listed: the root shows nothing of what lies in it. -/
theorem curated_snapshot_paths (hrun : perform (curate o) s = (.ok message, s')) (houtput : o.output = ".yellhorncontext")
    (htask : ∀ c ∈ o.task.toList, Text.isLineEnd c = false)
    (hnames : ∀ d ∈ directoriesOf (surveyed o s), Writable d) (hreport : ∀ m, Passive (report m))
    (hlists : Snapshot.Lists s tracked untracked) (hgit : ∃ text, HasRules s ".gitignore" text)
    (hignore : ∃ text, HasRules s ".yellhornignore" text) (justPaths : Bool) :
    ∃ snapshot t, perform (take report justPaths) s' = (.ok snapshot, t) ∧
      (∀ f, f ∈ snapshot.paths ↔
        Visible tracked untracked f ∧ ∃ d ∈ pickedBy o s, Reached (surveyed o s) d f) ∧
      ((∀ f, f ∈ snapshot.paths ↔ Visible tracked untracked f ∧ ∃ d ∈ pickedBy o s, Holds d f) ↔
        ∀ f, Visible tracked untracked f →
          ¬ Lost (surveyed o s) (pickedBy o s) f ∧ ¬ Stray (surveyed o s) (pickedBy o s) f) ∧
      ((∀ d ∈ pickedBy o s, Glob.IsPlain d.toList) → ∀ f, f ∈ snapshot.paths ↔
        Visible tracked untracked f ∧ ∃ d ∈ pickedBy o s,
          Text.begins f (d ++ "/") = true ∨ holdsFile (surveyed o s) d = true ∧ f = d) := by
  obtain ⟨snapshot, t, ht, hmem⟩ := take_curated hrun houtput htask hnames hreport hlists hgit hignore justPaths
  refine ⟨snapshot, t, ht, hmem, ?_, fun hplain f => ?_⟩
  · simp only [hmem, and_congr_right_iff, exists_reached_iff_exists_holds]
  · rw [hmem]
    refine and_congr_right fun _ => exists_congr fun d => and_congr_right fun hd => ?_
    rw [Reached, fitsAsPattern_iff_of_isPlain (hplain d hd)]

end Snapshot

/-- A repository with one file, at the root, and a model that nobody knows. -/
def rootFileSession : Session :=
  { files := { nodes := [(["a"], .file "".toUTF8)] }
    git := [{ args := ["ls-files", "--others"] }, { args := ["ls-files"], stdout := "a\n".toUTF8 }]
    manager := some {} }

def plainTask : Order := { model := "m", task := "fix" }

/-- The root is picked, and the snapshot does not show the file in it. -/
theorem root_file_is_lost :
    ∃ message s' snapshot t, perform (curate plainTask) rootFileSession = (.ok message, s') ∧
      perform (take print true) s' = (.ok snapshot, t) ∧ pickedBy plainTask rootFileSession = [rootName] ∧
      Visible "a\n" "" "a" ∧ Holds rootName "a" ∧ "a" ∉ snapshot.paths := by
  have hpicked : pickedBy plainTask rootFileSession = [rootName] := by decide +kernel
  have hsucceeds : (perform (curate plainTask) rootFileSession).1.toBool = true := by decide +kernel
  have hdirs : directoriesOf (surveyed plainTask rootFileSession) = [rootName] := by decide +kernel
  have hnames : ∀ d ∈ directoriesOf (surveyed plainTask rootFileSession), Writable d := by
    intro d hd
    rw [hdirs] at hd
    rw [List.mem_singleton.1 hd]
    exact writable_rootName
  have hlists : Snapshot.Lists rootFileSession "a\n" "" :=
    ⟨_, _, ⟨_, rfl, rfl, rfl, by decide +kernel⟩, ⟨_, rfl, rfl, rfl, by decide +kernel⟩⟩
  have hvisible : Visible "a\n" "" "a" :=
    ⟨by decide, by decide +kernel, isAlwaysIgnored_eq_false.1 (by decide +kernel)⟩
  rcases hrun : perform (curate plainTask) rootFileSession with ⟨e | message, s'⟩
  · rw [hrun] at hsucceeds
    cases hsucceeds
  · obtain ⟨snapshot, t, ht, -, -, hplain⟩ := curated_snapshot_paths hrun rfl
      (Text.isLineEnd_of_all (by decide)) hnames passive_print hlists ⟨none, rfl⟩ ⟨none, rfl⟩ true
    refine ⟨message, s', snapshot, t, rfl, ht, hpicked, hvisible, .inr ⟨rfl, by decide⟩, fun hmem => ?_⟩
    rw [hpicked] at hplain
    obtain ⟨-, d, hd, hreached⟩ := (hplain (by simp [Glob.IsPlain, rootName]) _).1 hmem
    rw [List.mem_singleton.1 hd] at hreached
    rcases hreached with hbelow | ⟨-, hname⟩
    · exact absurd hbelow (by decide)
    · exact absurd hname (by decide)

end IssuePlanner.Curation
