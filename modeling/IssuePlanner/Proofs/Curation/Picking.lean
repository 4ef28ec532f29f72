import IssuePlanner.Proofs.Curation.Agreement
import IssuePlanner.Proofs.Text.Pick

/-! The directories that curation picks are there, whatever the model answers. A directory is there because a file that was
found lies below it (`mem_directoriesOf`). An answer can only choose among the directories, by lines that name them
(`chosen_eq_nil`), and where it chooses none, or there is no answer, all are picked (`curation_picks_directories_of_files`). -/

namespace IssuePlanner.Curation

open IssuePlanner.Action IssuePlanner.Snapshot

variable {o : Order} {s t : Session} {d f : String} {paths dirs : List String}

/-! ### Directories around files -/

/-- The path leads through the directory. -/
def LiesBelow (f d : String) : Prop := d ≠ "" ∧ ∃ rest, f = d ++ "/" ++ rest

theorem mem_directoriesAround : d ∈ directoriesAround f ↔ LiesBelow f d := by
  constructor
  · intro h
    have hprefix := begins_of_mem_directoriesAround h
    rw [Text.begins, Text.startsWith, List.isPrefixOf_iff_prefix] at hprefix
    obtain ⟨rest, hrest⟩ := hprefix
    refine ⟨by simpa using (List.mem_filter.1 h).2, String.ofList rest, ?_⟩
    rw [← String.toList_inj, ← hrest]
    simp
  · rintro ⟨hne, rest, rfl⟩
    have hlength (x : String) : 0 < (Text.pieces '/' x).length := by
      rw [Text.pieces, List.length_map]
      exact List.length_pos_iff.2 (Text.splitOn_ne_nil '/' x.toList)
    have hd := hlength d
    have hrest := hlength rest
    unfold directoriesAround
    rw [List.mem_filter, Text.pieces_append_slash]
    refine ⟨List.mem_map.2 ⟨(Text.pieces '/' d).length - 1, ?_, ?_⟩, by simpa using hne⟩
    · rw [List.mem_range, List.length_append]
      omega
    · rw [Nat.sub_add_cancel hd, List.take_left, Text.join_pieces]

theorem any_isAtRoot_iff : paths.any isAtRoot = true ↔ ∃ f ∈ paths, '/' ∉ f.toList := by
  simp [isAtRoot]

/-- A directory is there if a file lies below it. The root is there if a file lies in it. -/
theorem mem_directoriesOf : d ∈ directoriesOf paths ↔
    (∃ f ∈ paths, LiesBelow f d) ∨ d = rootName ∧ ∃ f ∈ paths, '/' ∉ f.toList := by
  rw [directoriesOf, Text.mem_sortedSet, List.mem_append, List.mem_flatMap, ← any_isAtRoot_iff]
  simp only [mem_directoriesAround]
  refine or_congr_right ?_
  split_ifs with hroot
  · simp [hroot]
  · simp [hroot]

/-- The files that curation looks at are those found that are not too deep. -/
theorem mem_surveyed :
    f ∈ surveyed o s ↔ f ∈ filePaths s.files ∧ (0 < o.depthLimit → (depth f : Int) < o.depthLimit) := by
  rw [surveyed, withinDepth]
  split_ifs with hlimit
  · simp [hlimit]
  · simp [hlimit]

/-! ### Lines of an answer -/

theorem eq_append_of_block? {b : Bool} {cs block rest : List Char} (h : block? b cs = some (block, rest)) :
    cs = blockOpening ++ (block ++ (blockClosing ++ rest)) := by
  obtain ⟨inner, hinner, h⟩ := Option.bind_eq_some_iff.1 h
  obtain ⟨n, hn, h⟩ := Option.bind_eq_some_iff.1 h
  cases h
  rw [Text.after?_eq_some.1 hinner, ← Text.eq_append_of_find hn]

theorem trimmedLines_subset {answer : String} {block : List Char} (h : block ∈ blocks answer) :
    trimmedLines block ⊆ trimmedLines answer.toList := by
  have hsuffix (b : Bool) (cs block rest : List Char) (hread : block? b cs = some (block, rest)) : rest <:+ cs := by
    rw [eq_append_of_block? hread]
    exact ⟨blockOpening ++ (block ++ blockClosing), by simp only [List.append_assoc]⟩
  obtain ⟨b, cs, rest, ⟨front, hfront⟩, hread⟩ := Text.exists_of_mem_findFrom hsuffix h
  -- the line feeds of the opening and of the closing line set the block apart
  have hanswer : answer.toList =
      (front ++ "```context".toList) ++ '\n' :: (block ++ '\n' :: ("```".toList ++ rest)) := by
    rw [← hfront, eq_append_of_block? hread, List.append_assoc]
    rfl
  intro l hl
  obtain ⟨piece, hpiece, rfl⟩ := List.mem_map.1 hl
  refine List.mem_map_of_mem ?_
  rw [hanswer, Text.splitOn_append_cons, Text.splitOn_append_cons]
  exact List.mem_append_right _ (List.mem_append_left _ hpiece)

/-- An answer without a line that names a directory chooses none. -/
theorem chosen_eq_nil {answer : String} (h : ∀ l ∈ trimmedLines answer.toList, isKnown dirs l = false) :
    chosen dirs answer = [] := by
  have hblocks : inBlocks dirs answer = [] := by
    rw [inBlocks, List.filter_eq_nil_iff]
    intro l hl
    obtain ⟨block, hblock, hl⟩ := List.mem_flatMap.1 hl
    simp [h l (trimmedLines_subset hblock hl)]
  have hlines : onLines dirs answer = [] := by
    rw [onLines, List.filter_eq_nil_iff]
    intro l hl
    simp [h l hl]
  rw [chosen, hblocks, hlines]
  simp [Text.sortedSet, Text.sort, Text.dropRepeats]

/-! ### What is picked -/

/-- No line of an answer names the root or a directory. Where there is no answer, there is no such line. -/
def NamesNone (paths : List String) (outcome : Except Failure Datum) : Prop :=
  ∀ answer, outcome = .ok answer → ∀ l ∈ trimmedLines answer.display.toList,
    l ≠ rootName ∧ ∀ f ∈ paths, ¬ LiesBelow f l

theorem selected_eq_of_namesNone {outcome : Except Failure Datum} (h : NamesNone paths outcome) :
    selected (directoriesOf paths) outcome = directoriesOf paths := by
  cases outcome with
  | error e => rfl
  | ok answer =>
    refine if_pos (chosen_eq_nil fun l hl => ?_)
    obtain ⟨hroot, hnone⟩ := h answer rfl l hl
    rw [← Bool.not_eq_true, isKnown, Bool.or_eq_true, beq_iff_eq, List.contains_iff_mem, mem_directoriesOf]
    rintro ((⟨f, hf, hbelow⟩ | ⟨rfl, -⟩) | rfl)
    · exact hnone f hf hbelow
    · exact hroot rfl
    · exact hroot rfl

theorem patternOf_rootName (paths : List String) :
    patternOf paths rootName = "./" ∧ (∃ f ∈ paths, '/' ∉ f.toList) ∨
      patternOf paths rootName = "./**" ∧ ∀ f ∈ paths, '/' ∈ f.toList := by
  have hroot : holdsFile paths rootName = paths.any isAtRoot := rfl
  rw [patternOf, hroot]
  cases hany : paths.any isAtRoot with
  | true => exact .inl ⟨by decide, any_isAtRoot_iff.1 hany⟩
  | false =>
    refine .inr ⟨by decide, fun f hf => ?_⟩
    by_contra hslash
    rw [any_isAtRoot_iff.2 ⟨f, hf, hslash⟩] at hany
    cases hany

theorem patternOf_of_mem_pickedBy (h : d ∈ pickedBy o s) (hd : d ≠ rootName) :
    patternOf (surveyed o s) d = d ++ "/" ∧ ∃ f ∈ surveyed o s, LiesBelow f d := by
  have hmem := (mem_pickedBy h).resolve_left hd
  refine ⟨?_, (mem_directoriesOf.1 hmem).resolve_right fun hroot => hd hroot.1⟩
  rw [patternOf, holdsFile_of_mem_directoriesOf hmem hd]
  rfl

/-- Once the model is asked, the file is written with what its answer selects, unless the place refuses it. -/
theorem gives_curate_filed {q : Inquiry} (h : perform (prepare o) s = (.ok q, t)) :
    Gives (curate o) s (fun _ => Filed s o.output (fileText o.task (surveyed o s) (pickedBy o s)))
      fun _ _ => Refused s o.output (fileText o.task (surveyed o s) (pickedBy o s)) := by
  refine Gives.tryCatch (Q := fun _ _ => Refused s o.output (fileText o.task (surveyed o s) (pickedBy o s))) ?_
    fun e t' hrefused => .bind_sets (succeeds_log _ _) fun _ _ _ => hrefused
  obtain ⟨off, saved, hstages⟩ := perform_curateOrFail o s
  unfold Gives
  rw [hstages]
  obtain ⟨hpaths, hdirs, hsite⟩ := of_perform_prepare h
  obtain ⟨t', hpicked, hsite'⟩ := perform_chooseOrAll o q.shown q.dirs t
  rw [hdirs, ← pickedBy_of_prepare h] at hpicked
  refine Gives.bind_of_ok h (.bind_of_ok (hdirs ▸ hpicked) ?_)
  rw [hpaths]
  exact (gives_conclude o off saved (surveyed o s) (pickedBy o s) t').mono
    (fun _ _ hfiled => hfiled.congr (hsite'.trans hsite) rfl) fun _ _ hrefused => hrefused.congr (hsite'.trans hsite)

/-- The lines that curation generates are of directories that files lie below, or of the root, and no answer of the model
changes that. The files are those found that are not too deep. The directories are in order and without repeats, and only
the root may be searched to every depth. Once the model is asked, the lines are written unless the place refuses the file;
and if the call fails, or no line of its answer names the root or a directory, the lines are those of all directories, with
the root if a file lies there. -/
theorem curation_picks_directories_of_files (o : Order) (s : Session) :
    (∀ f, f ∈ surveyed o s ↔ f ∈ filePaths s.files ∧ (0 < o.depthLimit → (depth f : Int) < o.depthLimit)) ∧
    (pickedBy o s).Pairwise (· < ·) ∧
    (∀ line ∈ (pickedBy o s).map (patternOf (surveyed o s)),
      (∃ d, line = d ++ "/" ∧ ∃ f ∈ surveyed o s, LiesBelow f d) ∨
      line = "./" ∧ (∃ f ∈ surveyed o s, '/' ∉ f.toList) ∨ line = "./**" ∧ ∀ f ∈ surveyed o s, '/' ∈ f.toList) ∧
    (∀ d ∈ pickedBy o s, d ≠ rootName → patternOf (surveyed o s) d = d ++ "/") ∧
    ∀ q t, perform (prepare o) s = (.ok q, t) →
      Gives (curate o) s (fun _ => Filed s o.output (fileText o.task (surveyed o s) (pickedBy o s)))
        (fun _ _ => Refused s o.output (fileText o.task (surveyed o s) (pickedBy o s))) ∧
      (NamesNone (surveyed o s) (perform (Model.call (request o q.shown)) t).1 →
        ∀ d, d ∈ pickedBy o s ↔
          (∃ f ∈ surveyed o s, LiesBelow f d) ∨ d = rootName ∧ ∃ f ∈ surveyed o s, '/' ∉ f.toList) := by
  refine ⟨fun f => mem_surveyed, pairwise_pickedBy o s, fun line hline => ?_,
    fun d hd hroot => (patternOf_of_mem_pickedBy hd hroot).1, fun q t hprepare => ⟨gives_curate_filed hprepare, fun hnone d => ?_⟩⟩
  · obtain ⟨d, hd, rfl⟩ := List.mem_map.1 hline
    by_cases hroot : d = rootName
    · rw [hroot]
      exact .inr (patternOf_rootName _)
    · obtain ⟨hpattern, hfile⟩ := patternOf_of_mem_pickedBy hd hroot
      exact .inl ⟨d, hpattern, hfile⟩
  · rw [pickedBy_of_prepare hprepare, selected_eq_of_namesNone hnone, mem_directoriesOf]

/-- A repository with two files, and a model whose answer names directories that are not there. -/
def strangeAnswerSession : Session :=
  { files := { nodes := [(["src", "app", "a.py"], .file "".toUTF8), (["src", "app", "in", "b.py"], .file "".toUTF8)] }
    manager := some { hasOpenai := true }
    replies := [.answer (.record [("output_text", .text "Read these:\n```context\nlib\nsrc/in\n```\nand /src")])] }

def shallowTask : Order := { model := "gpt-4o", task := "fix", depthLimit := 3 }

/-- All directories around the file that is not too deep are picked, and no other. -/
theorem strange_directories_are_not_picked :
    ∃ q t, perform (prepare shallowTask) strangeAnswerSession = (.ok q, t) ∧
      NamesNone (surveyed shallowTask strangeAnswerSession) (perform (Model.call (request shallowTask q.shown)) t).1 ∧
      ∀ d, d ∈ pickedBy shallowTask strangeAnswerSession ↔ d = "src" ∨ d = "src/app" := by
  have hsurveyed : surveyed shallowTask strangeAnswerSession = ["src/app/a.py"] := by decide +kernel
  have hcall : (perform (prepare shallowTask >>= fun q => Model.call (request shallowTask q.shown))
      strangeAnswerSession).1.toOption.map (fun answer => trimmedLines answer.display.toList) =
      some ["Read these:", "```context", "lib", "src/in", "```", "and /src"] := by decide +kernel
  have haround : directoriesAround "src/app/a.py" = ["src", "src/app"] := by decide +kernel
  rcases hprepare : perform (prepare shallowTask) strangeAnswerSession with ⟨e | q, t⟩
  · rw [perform_bind, hprepare, andThen_error] at hcall
    cases hcall
  rw [perform_bind, hprepare, andThen_ok] at hcall
  have hnone : NamesNone (surveyed shallowTask strangeAnswerSession)
      (perform (Model.call (request shallowTask q.shown)) t).1 := by
    intro answer hanswer l hl
    rw [hanswer] at hcall
    have hlines : trimmedLines answer.display.toList = _ := Option.some.inj hcall
    rw [hlines] at hl
    simp only [hsurveyed, List.forall_mem_singleton, ← mem_directoriesAround, haround]
    revert l
    decide
  obtain ⟨-, -, -, -, hasked⟩ := curation_picks_directories_of_files shallowTask strangeAnswerSession
  refine ⟨q, t, rfl, hnone, fun d => ?_⟩
  rw [(hasked q t hprepare).2 hnone d, hsurveyed]
  simp [← mem_directoriesAround, haround]

end IssuePlanner.Curation
