import IssuePlanner.Proofs.Snapshot.Drawing

/-! Reading a drawing back. A reader takes each line to belong to the nearest directory before it that stands one level
higher. What a directory is then taken for depends on the directories with a line and on how their names sort
(`mem_readBack`). -/

namespace IssuePlanner.Snapshot.Tree

/-! ### Paths -/

variable {d e f p x y : String}

theorem place_append (hf : '/' ∉ f.toList) (d : String) : place (d ++ "/" ++ f) = (d, f) := by
  have hpieces : Text.pieces '/' (d ++ "/" ++ f) = Text.pieces '/' d ++ [f] := by
    rw [Text.pieces_append_slash, Text.pieces, Text.pieces, Text.splitOn_of_not_mem hf]
    simp
  rw [place, hpieces, List.reverse_append]
  simp [Text.join_pieces]

theorem place_of_not_mem (h : '/' ∉ p.toList) : place p = ("", p) := by
  rw [place, Text.pieces, Text.splitOn_of_not_mem h]
  simp [Text.join]

theorem parent_append (hf : '/' ∉ f.toList) (d : String) : parent (d ++ "/" ++ f) = d := by
  rw [parent, place_append hf]

theorem name_append (hf : '/' ∉ f.toList) (d : String) : name (d ++ "/" ++ f) = f := by
  rw [name, place_append hf]

theorem exists_eq_append (h : '/' ∈ p.toList) : ∃ d f, p = d ++ "/" ++ f ∧ '/' ∉ f.toList := by
  obtain ⟨bs, as, hsplit, hbs⟩ := List.eq_append_cons_of_mem (List.mem_reverse.2 h)
  refine ⟨String.ofList as.reverse, String.ofList bs.reverse, ?_, by simpa using hbs⟩
  rw [← String.toList_inj, ← List.reverse_inj, hsplit]
  simp

theorem eq_parent_append_name (h : '/' ∈ p.toList) : p = parent p ++ "/" ++ name p := by
  obtain ⟨d, f, rfl, hf⟩ := exists_eq_append h
  rw [parent_append hf, name_append hf]

theorem slash_not_mem_name (p : String) : '/' ∉ (name p).toList := by
  by_cases h : '/' ∈ p.toList
  · obtain ⟨d, f, rfl, hf⟩ := exists_eq_append h
    rwa [name_append hf]
  · rwa [name, place_of_not_mem h]

theorem append_inj_of_not_mem (hf : '/' ∉ f.toList) (he : '/' ∉ e.toList) (h : d ++ "/" ++ f = x ++ "/" ++ e) : d = x := by
  rw [← parent_append hf d, h, parent_append he]

theorem level_eq_zero_iff : level d = 0 ↔ '/' ∉ d.toList := List.count_eq_zero

theorem level_append (hf : '/' ∉ f.toList) (d : String) : level (d ++ "/" ++ f) = level d + 1 := by
  simp [level, List.count_eq_zero_of_not_mem hf]

theorem name_eq_self (h : level d = 0) : name d = d := by
  rw [name, place_of_not_mem (level_eq_zero_iff.1 h)]

/-! ### A reader of drawings -/

/-- A line behind its indentation: how deep it stands, and its text. -/
def branch? : List Char → Option (Nat × List Char)
  | '│' :: ' ' :: ' ' :: ' ' :: rest => (branch? rest).map fun b => (b.1 + 1, b.2)
  | '├' :: '─' :: '─' :: ' ' :: text => some (0, text)
  | '└' :: '─' :: '─' :: ' ' :: text => some (0, text)
  | _ => none

structure Item where
  level : Nat
  name : String
  isDirectory : Bool

/-- What a line shows. A directory is known by the slash at its end. -/
def item? (line : String) : Option Item :=
  (branch? line.toList).map fun b =>
    if b.2.getLast? = some '/' then ⟨b.1, String.ofList b.2.dropLast, true⟩ else ⟨b.1, String.ofList b.2, false⟩

/-- The path of an item: its name, behind that of the nearest directory one level higher. The directories before it
come with their levels, the nearest one first. -/
def itemPath (before : List (Nat × Option String)) : Nat → String → Option String
  | 0, name => some name
  | n + 1, name => (before.find? (·.1 = n)).bind fun e => e.2.map (· ++ "/" ++ name)

/-- The paths of the items that are no directories. One that belongs to no directory has no path. -/
def readItems : (before : List (Nat × Option String)) → List Item → List String
  | _, [] => []
  | before, i :: rest =>
    if i.isDirectory then readItems ((i.level, itemPath before i.level i.name) :: before) rest
    else (itemPath before i.level i.name).toList ++ readItems before rest

def readBack (drawing : String) : List String := readItems [] ((Text.pieces '\n' drawing).filterMap item?)

/-! ### Lines and what they show -/

theorem toList_indent_succ (n : Nat) : (indent (n + 1)).toList = '│' :: ' ' :: ' ' :: ' ' :: (indent n).toList := by
  rw [indent, indent, Text.toList_join, Text.toList_join, List.map_replicate, List.map_replicate, List.replicate_succ]
  cases n with
  | zero => rfl
  | succ n =>
    rw [List.replicate_succ, Text.joinWith_cons_cons]
    rfl

theorem branch?_indent (n : Nat) (cs : List Char) :
    branch? ((indent n).toList ++ cs) = (branch? cs).map fun b => (b.1 + n, b.2) := by
  induction n with
  | zero => simp [indent, Text.join]
  | succ n ih =>
    rw [toList_indent_succ, List.cons_append, List.cons_append, List.cons_append, List.cons_append, branch?, ih,
      Option.map_map]
    rfl

theorem branch?_line {mark text : String} (h : branch? (mark.toList ++ text.toList) = some (0, text.toList)) (n : Nat) :
    branch? (indent n ++ mark ++ text).toList = some (n, text.toList) := by
  rw [String.toList_append, String.toList_append, List.append_assoc, branch?_indent, h, Option.map_some, Nat.zero_add]

theorem branch?_branchLine (n : Nat) (text : String) : branch? (branchLine n text).toList = some (n, text.toList) :=
  branch?_line rfl n

theorem branch?_lastLine (n : Nat) (text : String) : branch? (lastLine n text).toList = some (n, text.toList) :=
  branch?_line rfl n

theorem item?_file {line : String} {n : Nat} (hline : branch? line.toList = some (n, f.toList)) (hf : '/' ∉ f.toList) :
    item? line = some ⟨n, f, false⟩ := by
  have hlast : f.toList.getLast? ≠ some '/' := fun h => hf (List.mem_of_getLast? h)
  rw [item?, hline, Option.map_some, if_neg hlast, String.ofList_toList]

theorem item?_directory (n : Nat) (x : String) : item? (branchLine n (x ++ "/")) = some ⟨n, x, true⟩ := by
  have htext : (x ++ "/").toList = x.toList ++ ['/'] := by simp
  rw [item?, branch?_branchLine, Option.map_some, htext, if_pos (by simp), List.dropLast_concat, String.ofList_toList]

theorem filterMap_fileLines {line : String → String} {n : Nat} (hline : ∀ f, branch? (line f).toList = some (n, f.toList))
    {files : List String} (h : ∀ f ∈ files, '/' ∉ f.toList) :
    (files.map line).filterMap item? = files.map (⟨n, ·, false⟩) := by
  rw [List.filterMap_map, ← List.filterMap_eq_map]
  exact List.filterMap_congr fun f hf => item?_file (hline f) (h f hf)

def dirItems (dir : String) (files : List String) : List Item :=
  ⟨level dir, name dir, true⟩ :: files.map (⟨level dir + 1, ·, false⟩)

theorem filterMap_dirBlock (d : String) {files : List String} (h : ∀ f ∈ files, '/' ∉ f.toList) :
    (dirBlock d files).filterMap item? = dirItems d files := by
  have hfiles : files.dropLast ++ files.getLast?.toList = files := by
    rcases List.eq_nil_or_concat files with rfl | ⟨init, last, rfl⟩
    · rfl
    · simp
  have hdrop : ∀ f ∈ files.dropLast, '/' ∉ f.toList := fun f hf => h f ((List.dropLast_sublist _).subset hf)
  have hlast : ∀ f ∈ files.getLast?.toList, '/' ∉ f.toList := by
    intro f hf
    exact h f (List.mem_of_getLast? (Option.mem_toList.1 hf))
  rw [dirBlock, List.filterMap_cons_some (item?_directory _ _), List.filterMap_append,
    filterMap_fileLines (branch?_branchLine _) hdrop, filterMap_fileLines (branch?_lastLine _) hlast, ← List.map_append,
    hfiles, dirItems]

variable {paths : List String}

theorem mem_filesIn : f ∈ filesIn paths d ↔ ∃ p ∈ paths, parent p = d ∧ name p = f := by
  rw [(filesIn_spec paths d).perm.mem_iff]
  simp [and_assoc]

theorem slash_not_mem_of_mem_filesIn (h : f ∈ filesIn paths d) : '/' ∉ f.toList := by
  obtain ⟨p, -, -, rfl⟩ := mem_filesIn.1 h
  exact slash_not_mem_name p

theorem filterMap_drawing (paths : List String) :
    (drawing paths).filterMap item? = (filesIn paths "").map (⟨0, ·, false⟩) ++
      (drawnDirs paths).flatMap fun d => dirItems d (filesIn paths d) := by
  have hopening : ["<codebase_tree>", "."].filterMap item? = [] := rfl
  have hclosing : ["</codebase_tree>"].filterMap item? = [] := rfl
  have hroot := filterMap_fileLines (branch?_branchLine 0) fun f (hf : f ∈ filesIn paths "") =>
    slash_not_mem_of_mem_filesIn hf
  rw [drawing_eq, List.filterMap_append, List.filterMap_append, List.filterMap_append, hopening, hclosing, hroot,
    List.filterMap_flatMap, List.nil_append, List.append_nil]
  exact congrArg _ (List.flatMap_congr fun d _ => filterMap_dirBlock d fun f hf => slash_not_mem_of_mem_filesIn hf)

/-! ### Line feeds -/

theorem newline_not_mem_indent (n : Nat) : '\n' ∉ (indent n).toList := by
  induction n with
  | zero => simp [indent, Text.join]
  | succ n ih => simp [toList_indent_succ, ih]

theorem newline_not_mem_branchLine (n : Nat) (h : '\n' ∉ f.toList) : '\n' ∉ (branchLine n f).toList := by
  simp [branchLine, newline_not_mem_indent, h]

theorem newline_not_mem_lastLine (n : Nat) (h : '\n' ∉ f.toList) : '\n' ∉ (lastLine n f).toList := by
  simp [lastLine, newline_not_mem_indent, h]

theorem newline_not_mem_place (h : '\n' ∉ p.toList) : '\n' ∉ (parent p).toList ∧ '\n' ∉ (name p).toList := by
  by_cases hp : '/' ∈ p.toList
  · obtain ⟨d, f, rfl, hf⟩ := exists_eq_append hp
    rw [parent_append hf, name_append hf]
    simpa using h
  · rw [parent, name, place_of_not_mem hp]
    exact ⟨by simp, h⟩

theorem newline_not_mem_drawing (h : ∀ p ∈ paths, '\n' ∉ p.toList) : ∀ l ∈ drawing paths, '\n' ∉ l.toList := by
  have hfiles (d f : String) (hf : f ∈ filesIn paths d) : '\n' ∉ f.toList := by
    obtain ⟨p, hp, -, rfl⟩ := mem_filesIn.1 hf
    exact (newline_not_mem_place (h p hp)).2
  have hdirs (d : String) (hd : d ∈ drawnDirs paths) : '\n' ∉ (name d).toList := by
    obtain ⟨-, p, hp, rfl⟩ := mem_drawnDirs.1 hd
    exact (newline_not_mem_place (newline_not_mem_place (h p hp)).1).2
  intro l hl
  rw [drawing_eq, List.mem_append, List.mem_append, List.mem_append] at hl
  rcases hl with ((hl | hl) | hl) | hl
  · rcases List.mem_cons.1 hl with rfl | hl
    · decide
    · rw [List.mem_singleton.1 hl]
      decide
  · obtain ⟨f, hf, rfl⟩ := List.mem_map.1 hl
    exact newline_not_mem_branchLine 0 (hfiles "" f hf)
  · obtain ⟨d, hd, hl⟩ := List.mem_flatMap.1 hl
    rw [dirBlock, List.mem_cons, List.mem_append] at hl
    rcases hl with rfl | hl | hl
    · exact newline_not_mem_branchLine _ (by simpa using hdirs d hd)
    · obtain ⟨f, hf, rfl⟩ := List.mem_map.1 hl
      exact newline_not_mem_branchLine _ (hfiles d f ((List.dropLast_sublist _).subset hf))
    · obtain ⟨f, hf, rfl⟩ := List.mem_map.1 hl
      exact newline_not_mem_lastLine _ (hfiles d f (List.mem_of_getLast? (Option.mem_toList.1 hf)))
  · rw [List.mem_singleton.1 hl]
    decide

theorem readBack_text (h : ∀ p ∈ paths, '\n' ∉ p.toList) :
    readBack (text paths) = readItems [] ((filesIn paths "").map (⟨0, ·, false⟩) ++
      (drawnDirs paths).flatMap fun d => dirItems d (filesIn paths d)) := by
  rw [readBack, text, Text.pieces_unlines (by simp [drawing]) (newline_not_mem_drawing h), filterMap_drawing]

/-! ### What directories are read as -/

/-- The nearest directory before `d` that stands one level higher. -/
structure Nearest (dirs : List String) (e d : String) : Prop where
  mem : e ∈ dirs
  level_eq : level e + 1 = level d
  before : e < d
  last : ∀ e' ∈ dirs, level e' = level e → e' < d → e' ≤ e

/-- A directory with a line is read as a path: by its name, behind what the nearest one is read as. -/
inductive ReadAs (dirs : List String) : String → String → Prop
  | top {d : String} : level d = 0 → ReadAs dirs d d
  | inside {d e x : String} : Nearest dirs e d → ReadAs dirs e x → ReadAs dirs d (x ++ "/" ++ name d)

variable {dirs : List String}

theorem Nearest.unique {e' : String} (h : Nearest dirs e d) (h' : Nearest dirs e' d) : e = e' := by
  have hlevel : level e = level e' := Nat.succ_injective (h.level_eq.trans h'.level_eq.symm)
  exact le_antisymm (h'.last e h.mem hlevel h.before) (h.last e' h'.mem hlevel.symm h'.before)

theorem readAs_iff : ReadAs dirs d y ↔
    level d = 0 ∧ y = d ∨ ∃ e x, Nearest dirs e d ∧ ReadAs dirs e x ∧ y = x ++ "/" ++ name d := by
  constructor
  · intro h
    cases h with
    | top h => exact .inl ⟨h, rfl⟩
    | inside hnear h => exact .inr ⟨_, _, hnear, h, rfl⟩
  · rintro (⟨h, rfl⟩ | ⟨e, x, hnear, h, rfl⟩)
    · exact .top h
    · exact .inside hnear h

theorem ReadAs.unique (h : ReadAs dirs d x) (h' : ReadAs dirs d y) : x = y := by
  induction h generalizing y with
  | top h =>
    rcases readAs_iff.1 h' with ⟨-, rfl⟩ | ⟨e, x, hnear, -, -⟩
    · rfl
    · have := hnear.level_eq
      omega
  | inside hnear _ ih =>
    rcases readAs_iff.1 h' with ⟨hzero, -⟩ | ⟨e, x, hnear', hread, rfl⟩
    · have := hnear.level_eq
      omega
    · obtain rfl := hnear.unique hnear'
      rw [ih hread]

theorem ReadAs.level_eq (h : ReadAs dirs d x) : level x = level d := by
  induction h with
  | top => rfl
  | inside hnear _ ih => rw [level_append (slash_not_mem_name _), ih, hnear.level_eq]

/-- What is known of the directories before some line: of each level the last one, and what it is read as. -/
def Tracks (dirs done : List String) (before : List (Nat × Option String)) : Prop :=
  ∀ n, (before.find? (·.1 = n) = none ∧ ∀ e ∈ done, level e ≠ n) ∨
    ∃ e ∈ done, ∃ r, before.find? (·.1 = n) = some (n, r) ∧ level e = n ∧ (∀ e' ∈ done, level e' = n → e' ≤ e) ∧
      ∀ x, r = some x ↔ ReadAs dirs e x

variable {done rest : List String} {before : List (Nat × Option String)}

theorem mem_done_iff (hsorted : (done ++ d :: rest).Pairwise (· < ·)) : e ∈ done ↔ e ∈ done ++ d :: rest ∧ e < d := by
  obtain ⟨-, hrest, hless⟩ := List.pairwise_append.1 hsorted
  constructor
  · intro he
    exact ⟨List.mem_append_left _ he, hless e he d (by simp)⟩
  · rintro ⟨he, hed⟩
    rcases List.mem_append.1 he with he | he
    · exact he
    · rcases List.mem_cons.1 he with rfl | he
      · exact absurd hed (lt_irrefl e)
      · exact absurd hed ((List.pairwise_cons.1 hrest).1 e he).asymm

theorem Tracks.itemPath_eq_some (h : Tracks (done ++ d :: rest) done before)
    (hsorted : (done ++ d :: rest).Pairwise (· < ·)) :
    itemPath before (level d) (name d) = some x ↔ ReadAs (done ++ d :: rest) d x := by
  rw [readAs_iff]
  cases hlevel : level d with
  | zero =>
    rw [itemPath, name_eq_self hlevel, Option.some.injEq]
    constructor
    · rintro rfl
      exact .inl ⟨rfl, rfl⟩
    · rintro (⟨-, rfl⟩ | ⟨e, x, hnear, -⟩)
      · rfl
      · have := hnear.level_eq
        omega
  | succ n =>
    rw [itemPath]
    rcases h n with ⟨hnone, hlevels⟩ | ⟨e, he, r, hsome, hn, hlast, hread⟩
    · rw [hnone]
      constructor
      · intro hx
        cases hx
      · rintro (⟨hzero, -⟩ | ⟨e, x, hnear, -⟩)
        · cases hzero
        · have hlevel' := hnear.level_eq
          exact absurd (by omega) (hlevels e ((mem_done_iff hsorted).2 ⟨hnear.mem, hnear.before⟩))
    · have hnear : Nearest (done ++ d :: rest) e d := by
        obtain ⟨hmem, hed⟩ := (mem_done_iff hsorted).1 he
        refine ⟨hmem, by omega, hed, fun e' he' hlevel' hed' => ?_⟩
        exact hlast e' ((mem_done_iff hsorted).2 ⟨he', hed'⟩) (hlevel'.trans hn)
      rw [hsome, Option.bind_some, Option.map_eq_some_iff]
      constructor
      · rintro ⟨y, hy, rfl⟩
        exact .inr ⟨e, y, hnear, (hread y).1 hy, rfl⟩
      · rintro (⟨hzero, -⟩ | ⟨e', y, hnear', hy, rfl⟩)
        · cases hzero
        · obtain rfl := hnear.unique hnear'
          exact ⟨y, (hread y).2 hy, rfl⟩

theorem Tracks.concat (h : Tracks (done ++ d :: rest) done before) (hsorted : (done ++ d :: rest).Pairwise (· < ·)) :
    Tracks (done ++ d :: rest) (done ++ [d]) ((level d, itemPath before (level d) (name d)) :: before) := by
  intro n
  by_cases hn : level d = n
  · refine .inr ⟨d, by simp, itemPath before (level d) (name d), by simp [hn], hn, fun e' he' _ => ?_,
      fun x => h.itemPath_eq_some hsorted⟩
    rcases List.mem_append.1 he' with he' | he'
    · exact ((mem_done_iff hsorted).1 he').2.le
    · exact (List.mem_singleton.1 he').le
  · have hfind : ((level d, itemPath before (level d) (name d)) :: before).find? (·.1 = n) = before.find? (·.1 = n) :=
      List.find?_cons_of_neg (by simpa using hn)
    rw [hfind]
    rcases h n with ⟨hnone, hlevels⟩ | ⟨e, he, r, hsome, hlevel, hlast, hread⟩
    · refine .inl ⟨hnone, fun e he => ?_⟩
      rcases List.mem_append.1 he with he | he
      · exact hlevels e he
      · rwa [List.mem_singleton.1 he]
    · refine .inr ⟨e, List.mem_append_left _ he, r, hsome, hlevel, fun e' he' hlevel' => ?_, hread⟩
      rcases List.mem_append.1 he' with he' | he'
      · exact hlast e' he' hlevel'
      · rw [List.mem_singleton.1 he'] at hlevel'
        exact absurd hlevel' hn

theorem readItems_files (before : List (Nat × Option String)) (n : Nat) (files : List String) (items : List Item) :
    readItems before (files.map (⟨n, ·, false⟩) ++ items) = files.filterMap (itemPath before n) ++ readItems before items := by
  induction files with
  | nil => rfl
  | cons f files ih =>
    rw [List.map_cons, List.cons_append, readItems, if_neg (by simp), ih]
    cases hf : itemPath before n f with
    | none => rw [List.filterMap_cons_none hf]; rfl
    | some x => rw [List.filterMap_cons_some hf]; rfl

theorem readItems_dirItems (before : List (Nat × Option String)) (d : String) (files : List String) (items : List Item) :
    readItems before (dirItems d files ++ items) =
      (files.filterMap fun f => (itemPath before (level d) (name d)).map (· ++ "/" ++ f)) ++
        readItems ((level d, itemPath before (level d) (name d)) :: before) items := by
  rw [dirItems, List.cons_append, readItems, if_pos rfl, readItems_files]
  refine congrArg (· ++ _) (List.filterMap_congr fun f _ => ?_)
  simp [itemPath]

theorem mem_readItems_dirs {filesOf : String → List String} (h : Tracks (done ++ rest) done before)
    (hsorted : (done ++ rest).Pairwise (· < ·)) :
    p ∈ readItems before (rest.flatMap fun d => dirItems d (filesOf d)) ↔
      ∃ d ∈ rest, ∃ x, ReadAs (done ++ rest) d x ∧ ∃ f ∈ filesOf d, p = x ++ "/" ++ f := by
  induction rest generalizing done before with
  | nil => simp [readItems]
  | cons d rest ih =>
    have hsplit : done ++ d :: rest = done ++ [d] ++ rest := by simp
    have hrest := ih (hsplit ▸ h.concat hsorted) (hsplit ▸ hsorted)
    rw [List.flatMap_cons, readItems_dirItems, List.mem_append, hrest, ← hsplit]
    simp only [List.mem_filterMap, Option.map_eq_some_iff, h.itemPath_eq_some hsorted, List.exists_mem_cons_iff]
    refine or_congr_left ?_
    constructor
    · rintro ⟨f, hf, x, hx, rfl⟩
      exact ⟨x, hx, f, hf, rfl⟩
    · rintro ⟨x, hx, f, hf, rfl⟩
      exact ⟨f, hf, x, hx, rfl⟩

/-- The paths that a drawing shows: the names at the root, and the names in directories behind what these are read as. -/
theorem mem_readBack (h : ∀ p ∈ paths, '\n' ∉ p.toList) : p ∈ readBack (text paths) ↔ p ∈ filesIn paths "" ∨
    ∃ d ∈ drawnDirs paths, ∃ x, ReadAs (drawnDirs paths) d x ∧ ∃ f ∈ filesIn paths d, p = x ++ "/" ++ f := by
  have htracks : Tracks ([] ++ drawnDirs paths) [] [] := fun n => .inl ⟨rfl, by simp⟩
  have hdirs : p ∈ readItems [] ((drawnDirs paths).flatMap fun d => dirItems d (filesIn paths d)) ↔ _ :=
    mem_readItems_dirs htracks (pairwise_drawnDirs paths)
  have hroot : (filesIn paths "").filterMap (itemPath [] 0) = filesIn paths "" := List.filterMap_some
  rw [readBack_text h, readItems_files, hroot, List.mem_append, hdirs]
  rfl

end IssuePlanner.Snapshot.Tree
