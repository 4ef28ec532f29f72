import IssuePlanner.Proofs.Curation.ContextFile
import IssuePlanner.Proofs.FileTree
import IssuePlanner.Proofs.Server.Frame
import IssuePlanner.Proofs.Snapshot.Taking

/-! What curation leaves in the repository. A run that succeeds writes one file, for the directories that the answer of
the model selects (`filed_of_perform_curate`). The text of the file is read back as it was written, but not always as the
rules that were meant (`context_file_reads_back_iff`). -/

namespace IssuePlanner.Curation

open IssuePlanner.Action IssuePlanner.Snapshot

variable {o : Order} {s s' : Session} {message : String}

/-! ### Stages -/

def surveyed (o : Order) (s : Session) : List String := withinDepth o.depthLimit (filePaths s.files)

structure Inquiry where
  paths : List String
  dirs : List String
  shown : String

def prepare (o : Order) : Action Inquiry := do
  if o.disableSearch && (← get).attended then setSearch false
  let found ← survey o
  let shown ← overview (← reasoningOf o) found.1
  info ("Directory context:\n" ++ peek shown)
  if (← get).manager.isNone then throw .managerMissing
  info ("Analyzing directory structure with " ++ o.model)
  return ⟨found.1, found.2, shown⟩

def conclude (o : Order) (off saved : Bool) (paths picked : List String) : Action String := do
  let count := Number.natText picked.length
  info ("Processing complete, identified " ++ count ++ " important directories")
  writeFile o.output (fileText o.task paths picked)
  let place := shownPath (← get).root o.output
  info ("Successfully wrote .yellhorncontext file to " ++ place)
  info ("Generated .yellhorncontext file at " ++ place ++ " with " ++ count
    ++ " important directories, blacklist and whitelist patterns")
  if off then setSearch saved
  return "Successfully created .yellhorncontext file at " ++ place ++ " with " ++ count
    ++ " important directories and recommended blacklist patterns."

theorem perform_curateOrFail (o : Order) (s : Session) :
    ∃ off saved, perform (curateOrFail o) s = perform (do
      let q ← prepare o
      let picked ← chooseOrAll o q.shown q.dirs
      conclude o off saved q.paths picked) s := by
  refine ⟨o.disableSearch && s.attended, s.settings.searchGrounding.getD true, ?_⟩
  rw [curateOrFail, prepare, bind_assoc, perform_bind, perform_bind, perform_get, andThen_ok, andThen_ok,
    searchSetting, bind_assoc, perform_bind, perform_get, andThen_ok, pure_bind]
  refine congrArg (perform · s) (ite_bind_congr fun _ => ?_)
  rw [bind_assoc]
  refine bind_congr fun found => ?_
  rw [bind_assoc]
  refine bind_congr fun mode => ?_
  rw [bind_assoc]
  refine bind_congr fun shown => ?_
  rw [bind_assoc]
  refine bind_congr fun _ => ?_
  rw [bind_assoc]
  refine bind_congr fun t => ite_bind_congr fun _ => ?_
  rw [bind_assoc]
  refine bind_congr fun _ => ?_
  rw [pure_bind]
  rfl

/-! ### What each stage gives -/

/-- The repository and what `git` will answer. -/
def site (s : Session) : String × List Rule × FileTree := (s.root, s.git, s.files)

theorem preserves_site {α : Type} {act : Action α} (h : Mute act) : Preserves site act :=
  h.comp fun view => (view.1.standing.root, view.2, view.1.standing.files)

theorem preserves_setSearch (on : Bool) : Preserves site (setSearch on) := .modify fun _ => rfl

theorem preserves_throw (e : Failure) : Preserves site (throw e : Action Unit) := .throw e

theorem surveyed_congr {t : Session} (o : Order) (h : site t = site s) : surveyed o t = surveyed o s :=
  congrArg (fun view : String × List Rule × FileTree => withinDepth o.depthLimit (filePaths view.2.2)) h

theorem perform_survey (o : Order) (s : Session) :
    ∃ t, perform (survey o) s = (.ok (surveyed o s, directoriesOf (surveyed o s)), t) := by
  obtain ⟨s₁, hs₁, hw₁⟩ := passive_info "Starting context curation process" s
  simp only [survey, perform_bind, hs₁, andThen_ok, perform_get, hw₁.files]
  rw [← perform_bind]
  refine Returns.exists_perform ((passive_info _).bind ((passive_info _).bind ?_)) s₁
  split
  · exact (passive_info _).bind ((passive_info _).bind (returns_pure _))
  · exact (passive_info _).bind (returns_pure _)

theorem gives_prepare (o : Order) (s : Session) :
    Gives (prepare o) s
      (fun q t => q.paths = surveyed o s ∧ q.dirs = directoriesOf (surveyed o s) ∧ site t = site s) fun _ _ => True := by
  refine .bind_of_ok (perform_get s) (.ite_bind_preserves (preserves_setSearch false) (fun _ _ _ => trivial) ?_)
  intro _ s₁ hs₁
  obtain ⟨s₂, hsurvey⟩ := perform_survey o s₁
  have hs₂ := preserves_site (mute_survey o) s₁
  rw [hsurvey] at hs₂
  rw [surveyed_congr o hs₁] at hsurvey
  have hmode : Mute (reasoningOf o) := .bind .get fun _ => .pure _
  refine .bind_of_ok hsurvey (.bind_preserves (preserves_site hmode) (fun _ _ _ => trivial) ?_)
  intro mode s₃ hs₃
  refine .bind_preserves (preserves_site (mute_overview mode _)) (fun _ _ _ => trivial) fun shown s₄ hs₄ => ?_
  refine .bind_preserves (preserves_site (mute_info _)) (fun _ _ _ => trivial) fun _ s₅ hs₅ => ?_
  refine .bind_of_ok (perform_get s₅) (.ite_bind_preserves (preserves_throw _) (fun _ _ _ => trivial) ?_)
  intro _ s₆ hs₆
  refine .bind_preserves (preserves_site (mute_info _)) (fun _ _ _ => trivial) fun _ s₇ hs₇ => ?_
  refine ⟨rfl, rfl, ?_⟩
  rw [hs₇, hs₆, hs₅, hs₄, hs₃, hs₂, hs₁]

theorem of_perform_prepare {q : Inquiry} {t : Session} (h : perform (prepare o) s = (.ok q, t)) :
    q.paths = surveyed o s ∧ q.dirs = directoriesOf (surveyed o s) ∧ site t = site s :=
  (Gives.iff_forall.1 (gives_prepare o s)).1 q t h

def request (o : Order) (shown : String) : Model.Request :=
  { prompt := shown, model := o.model, system := some systemMessage, temperature := 0.0 }

/-- The directories that an answer selects: those that it chooses, and all if it chooses none or there is no answer. -/
def selected (dirs : List String) : Except Failure Datum → List String
  | .error _ => dirs
  | .ok answer => if chosen dirs answer.display = [] then dirs else chosen dirs answer.display

theorem perform_choose (o : Order) (shown : String) (dirs : List String) (s : Session) :
    ∃ found t, perform (choose o shown dirs) s = (.ok found, t) ∧
      selected dirs (perform (Model.call (request o shown)) s).1 = if found = [] then dirs else found := by
  unfold choose
  rw [perform_tryCatch, perform_bind]
  rcases hcall : perform (Model.call (request o shown)) s with ⟨e | answer, s₁⟩
  · obtain ⟨s₂, hs₂, -⟩ :=
      passive_log "error" ("Error during LLM analysis: " ++ e.message ++ " (" ++ e.kind ++ ")") s₁
    refine ⟨dirs, s₂, ?_, by simp [selected]⟩
    unfold request at hcall
    rw [hcall, andThen_error, orElse_error, perform_bind, hs₂]
    rfl
  · obtain ⟨s₂, hs₂, -⟩ := passive_info ("Analysis complete, found " ++ Number.natText
      (chosen dirs answer.display).length ++ " important directories: " ++ sample (chosen dirs answer.display)) s₁
    refine ⟨chosen dirs answer.display, s₂, ?_, rfl⟩
    unfold request at hcall
    rw [hcall, andThen_ok, perform_bind, hs₂]
    rfl

/-- Choosing never fails, and what it gives is what the answer selects. -/
theorem perform_chooseOrAll (o : Order) (shown : String) (dirs : List String) (s : Session) :
    ∃ t, perform (chooseOrAll o shown dirs) s = (.ok (selected dirs (perform (Model.call (request o shown)) s).1), t) ∧
      site t = site s := by
  have hsite := preserves_site (mute_chooseOrAll o shown dirs) s
  obtain ⟨found, s₁, hchoose, hselected⟩ := perform_choose o shown dirs s
  have hrun : ∃ t, perform (chooseOrAll o shown dirs) s = (.ok (if found = [] then dirs else found), t) := by
    rw [chooseOrAll, perform_bind, hchoose, andThen_ok]
    cases found with
    | nil =>
      obtain ⟨s₂, hs₂, -⟩ :=
        passive_log "warning" "No important directories identified, including all directories" s₁
      refine ⟨s₂, ?_⟩
      dsimp only
      rw [perform_bind, hs₂]
      rfl
    | cons d found => exact ⟨s₁, rfl⟩
  obtain ⟨t, ht⟩ := hrun
  rw [ht] at hsite
  exact ⟨t, by rw [ht, hselected], hsite⟩

/-- A file of the repository was written, and all else of it is as before. -/
def Filed (s : Session) (path content : String) (t : Session) : Prop :=
  ∃ files, s.files.write path content.toUTF8 = .ok files ∧ site t = (s.root, s.git, files)

theorem Filed.congr {path content : String} {s₀ t t' : Session} (h : Filed s path content t) (hs : site s = site s₀)
    (ht : site t' = site t) : Filed s₀ path content t' := by
  obtain ⟨files, hwrite, hsite⟩ := h
  simp only [site, Prod.mk.injEq] at hs
  obtain ⟨hroot, hgit, hfiles⟩ := hs
  exact ⟨files, hfiles ▸ hwrite, by rw [ht, hsite, hroot, hgit]⟩

theorem logless_site : Logless site := fun _ _ _ => rfl

def Refused (s : Session) (path content : String) : Prop := ∃ fault, s.files.write path content.toUTF8 = .error fault

theorem Refused.congr {path content : String} {s₀ : Session} (h : Refused s path content) (hs : site s = site s₀) :
    Refused s₀ path content := by
  have hfiles : s.files = s₀.files := congrArg (fun view : String × List Rule × FileTree => view.2.2) hs
  rwa [Refused, ← hfiles]

theorem gives_writeFile (path content : String) (s : Session) :
    Gives (writeFile path content) s (fun _ => Filed s path content) fun _ _ => Refused s path content := by
  unfold Gives
  simp only [writeFile, perform_bind, perform_get, andThen_ok]
  cases hwrite : s.files.write path content.toUTF8 with
  | error f => exact ⟨f, hwrite⟩
  | ok files => exact ⟨files, hwrite, rfl⟩

theorem gives_conclude (o : Order) (off saved : Bool) (paths picked : List String) (s : Session) :
    Gives (conclude o off saved paths picked) s (fun _ => Filed s o.output (fileText o.task paths picked))
      fun _ _ => Refused s o.output (fileText o.task paths picked) := by
  refine .bind_sets (logless_site.sets_info _) fun _ s₁ hs₁ => ?_
  refine ((gives_writeFile _ _ s₁).mono (fun _ _ h => h) fun _ _ h => h.congr hs₁).bind fun _ s₂ hs₂ => ?_
  refine .bind_of_ok (perform_get s₂) (.bind_sets (logless_site.sets_info _) fun _ s₃ hs₃ => ?_)
  refine .bind_sets (logless_site.sets_info _) fun _ s₄ hs₄ => ?_
  have hend (s₅ : Session) (hs₅ : site s₅ = site s₄) : Filed s o.output (fileText o.task paths picked) s₅ :=
    hs₂.congr hs₁ (hs₅.trans (hs₄.trans hs₃))
  split
  · exact hend _ rfl
  · exact hend _ rfl

def pickedBy (o : Order) (s : Session) : List String :=
  match perform (prepare o) s with
  | (.error _, _) => []
  | (.ok q, t) => selected q.dirs (perform (Model.call (request o q.shown)) t).1

theorem filed_of_perform_curate (h : perform (curate o) s = (.ok message, s')) :
    Filed s o.output (fileText o.task (surveyed o s) (pickedBy o s)) s' := by
  have hrun : perform (curateOrFail o) s = (.ok message, s') := by
    rw [curate, perform_tryCatch] at h
    rcases hfails : perform (curateOrFail o) s with ⟨e | m, t⟩
    · rw [hfails, orElse_error] at h
      obtain ⟨_, _, -, hthrow⟩ := exists_of_perform_bind h
      cases hthrow
    · rw [hfails, orElse_ok] at h
      exact h
  obtain ⟨off, saved, hstages⟩ := perform_curateOrFail o s
  rw [hrun] at hstages
  obtain ⟨q, s₁, hprepare, hrest⟩ := exists_of_perform_bind hstages.symm
  obtain ⟨s₂, hpicked, hs₂⟩ := perform_chooseOrAll o q.shown q.dirs s₁
  rw [perform_bind, hpicked, andThen_ok] at hrest
  obtain ⟨hpaths, -, hs₁⟩ := of_perform_prepare hprepare
  have hfiled := (Gives.iff_forall.1 (gives_conclude o off saved q.paths _ s₂)).1 message s' hrest
  rw [hpaths] at hfiled
  rw [pickedBy, hprepare]
  exact hfiled.congr (hs₂.trans hs₁) rfl

theorem text_of_perform_curate (h : perform (curate o) s = (.ok message, s')) (shown : String) :
    s'.files.text shown o.output = .ok (fileText o.task (surveyed o s) (pickedBy o s)) := by
  obtain ⟨files, hwrite, hsite⟩ := filed_of_perform_curate h
  have hfiles : s'.files = files := congrArg (fun view => view.2.2) hsite
  rw [hfiles]
  exact FileTree.text_write hwrite (return_not_mem_fileText _ _ _) shown

/-! ### The directories that are picked -/

theorem pairwise_selected {dirs : List String} (h : dirs.Pairwise (· < ·)) (outcome : Except Failure Datum) :
    (selected dirs outcome).Pairwise (· < ·) := by
  cases outcome with
  | error e => exact h
  | ok answer =>
    rw [selected]
    split_ifs
    · exact h
    · unfold chosen
      split
      · exact Text.sortedSet_pairwise _
      · exact Text.sortedSet_pairwise _

theorem pickedBy_of_prepare {q : Inquiry} {t : Session} (h : perform (prepare o) s = (.ok q, t)) :
    pickedBy o s = selected (directoriesOf (surveyed o s)) (perform (Model.call (request o q.shown)) t).1 := by
  obtain ⟨-, hdirs, -⟩ := of_perform_prepare h
  rw [pickedBy, h, ← hdirs]

theorem pairwise_pickedBy (o : Order) (s : Session) : (pickedBy o s).Pairwise (· < ·) := by
  rcases hprepare : perform (prepare o) s with ⟨e | q, t⟩
  · rw [pickedBy, hprepare]
    exact .nil
  · rw [pickedBy_of_prepare hprepare]
    exact pairwise_selected (Text.sortedSet_pairwise _) _

theorem nodup_pickedBy (o : Order) (s : Session) : (pickedBy o s).Nodup := (pairwise_pickedBy o s).imp ne_of_lt

theorem mem_selected {dirs : List String} {outcome : Except Failure Datum} {d : String}
    (h : d ∈ selected dirs outcome) : d = rootName ∨ d ∈ dirs := by
  cases outcome with
  | error e => exact .inr h
  | ok answer =>
    rw [selected] at h
    split_ifs at h
    · exact .inr h
    · have hknown := isKnown_of_mem_chosen h
      rw [isKnown, Bool.or_eq_true, beq_iff_eq, List.contains_iff_mem] at hknown
      exact hknown.symm

theorem mem_pickedBy {d : String} (h : d ∈ pickedBy o s) : d = rootName ∨ d ∈ directoriesOf (surveyed o s) := by
  rcases hprepare : perform (prepare o) s with ⟨e | q, t⟩
  · rw [pickedBy, hprepare] at h
    cases h
  · rw [pickedBy_of_prepare hprepare] at h
    exact mem_selected h

/-! ### Reading the file back -/

/-- Curation that succeeds leaves a file whose rules are those among the lines of the task behind the first and among the
lines of the patterns, each once. They are the patterns of the picked directories, in order and with nothing excluded,
exactly if every such line of the task is blank, a comment or one of the patterns and every picked name can stand on a
line. -/
theorem context_file_reads_back_iff (h : perform (curate o) s = (.ok message, s')) :
    ∃ rules, perform (readRules o.output) s' = (.ok (some rules), s') ∧
      rules = ((Text.linesOf (shownTask o.task)).tail.filter (!mayRepeat ·) ++
        (pickedBy o s).flatMap fun d => rulesAmong (patternOf (surveyed o s) d)).dedup.map Text.trim ∧
      (RuleFile.ofLines rules = ⟨(pickedBy o s).map (patternOf (surveyed o s)), []⟩ ↔
        (∀ l ∈ (Text.linesOf (shownTask o.task)).tail,
          mayRepeat l = true ∨ l ∈ (pickedBy o s).map (patternOf (surveyed o s))) ∧
        ∀ d ∈ pickedBy o s, Writable d) := by
  refine ⟨_, ?_, ?_, rules_fileText_iff (nodup_pickedBy o s)⟩
  · have hrules : HasRules s' o.output (some _) := text_of_perform_curate h _
    rw [perform_readRules, rulesIn_of_hasRules hrules]
    rfl
  · rw [ruleLines_fileText, rulesAmong_rawText]

/-- A repository with one directory, and a model that nobody knows. -/
def oneDirectorySession : Session :=
  { files := { nodes := [(["src", "a.py"], .file "".toUTF8)] }, manager := some {} }

def markedTask : Order := { model := "m", task := "fix\n!src/" }

/-- The second line of the task excludes the one directory that was picked. -/
theorem marked_task_line_is_a_rule :
    ∃ message s' rules, perform (curate markedTask) oneDirectorySession = (.ok message, s') ∧
      perform (readRules ".yellhorncontext") s' = (.ok (some rules), s') ∧ pickedBy markedTask oneDirectorySession = ["src"] ∧
      RuleFile.ofLines rules = ⟨["src/"], ["src/"]⟩ := by
  have hpicked : pickedBy markedTask oneDirectorySession = ["src"] := by decide +kernel
  have hsucceeds : (perform (curate markedTask) oneDirectorySession).1.toBool = true := by decide +kernel
  rcases hrun : perform (curate markedTask) oneDirectorySession with ⟨e | message, s'⟩
  · rw [hrun] at hsucceeds
    cases hsucceeds
  · obtain ⟨rules, hread, hrules, -⟩ := context_file_reads_back_iff hrun
    refine ⟨message, s', rules, rfl, hread, hpicked, ?_⟩
    rw [hrules, hpicked]
    decide +kernel

end IssuePlanner.Curation
