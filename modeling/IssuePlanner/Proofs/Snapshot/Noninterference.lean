import IssuePlanner.Proofs.Outline.Isolation
import IssuePlanner.Proofs.Snapshot.Taking
import IssuePlanner.Snapshot.Context

/-! Which files the shown code depends on. Every step after the selection reads the included paths only, and the
selection sorts what it includes. So two repositories with the same rule files show the same code if they include the
same paths and have the same bytes there, as long as the system tells the same of every included source
(`context_of_sameIncluded`). What it tells of an overlong name depends on the directory around it, and a file that is
never shown may be what makes that directory (`hidden_file_ends_outlines`). -/

namespace IssuePlanner.Snapshot

open IssuePlanner.Action

variable {s s₁ s₂ : Session} {report : String → Action Unit} {tracked untracked : String}

/-! ### Reading included files -/

/-- The same bytes stand at a path, or no file in either session. -/
def SameBytes (s₁ s₂ : Session) (path : String) : Prop :=
  (s₁.files.bytes path).toOption = (s₂.files.bytes path).toOption

theorem SameBytes.cases {path : String} (h : SameBytes s₁ s₂ path) :
    (∃ b, s₁.files.bytes path = .ok b ∧ s₂.files.bytes path = .ok b) ∨
      ∃ f₁ f₂, s₁.files.bytes path = .error f₁ ∧ s₂.files.bytes path = .error f₂ := by
  unfold SameBytes at h
  cases h₁ : s₁.files.bytes path with
  | error f₁ =>
    cases h₂ : s₂.files.bytes path with
    | error f₂ => exact .inr ⟨f₁, f₂, rfl, rfl⟩
    | ok b =>
      rw [h₁, h₂] at h
      cases h
  | ok b =>
    cases h₂ : s₂.files.bytes path with
    | error f₂ =>
      rw [h₁, h₂] at h
      cases h
    | ok b' =>
      rw [h₁, h₂] at h
      cases h
      exact .inl ⟨b, rfl, rfl⟩

theorem readContent_congr {path : String} (h : SameBytes s₁ s₂ path) :
    readContent s₁.files path = readContent s₂.files path := by
  unfold readContent
  rcases h.cases with ⟨b, h₁, h₂⟩ | ⟨f₁, f₂, h₁, h₂⟩
  · rw [h₁, h₂]
  · rw [h₁, h₂]

theorem ofPaths_congr {paths : List String} (h : ∀ p ∈ paths, SameBytes s₁ s₂ p) (justPaths : Bool) :
    ofPaths s₁.files justPaths paths = ofPaths s₂.files justPaths paths := by
  have hfound : paths.map (fun p => (p, readContent s₁.files p)) =
      paths.map fun p => (p, readContent s₂.files p) := by
    refine List.map_congr_left fun p hp => ?_
    rw [readContent_congr (h p hp)]
  simp only [ofPaths, readContents, hfound]

def SameTools (s₁ s₂ : Session) : Prop := Outline.Tools.of s₁ = Outline.Tools.of s₂

theorem entryAt_congr {path : String} (ht : SameTools s₁ s₂) (hbytes : SameBytes s₁ s₂ path)
    (hfile : Outline.language? path ≠ none → s₁.isFile path = s₂.isFile path) :
    Outline.entryAt s₁ path = Outline.entryAt s₂ path := by
  unfold SameTools at ht
  unfold SameBytes at hbytes
  unfold Outline.entryAt
  split_ifs with hsource
  · rfl
  · rw [hfile hsource, hbytes, ht]

/-- What is made of outlines of the same bytes differs only in how the outlines end. -/
theorem map_outlined_eq_iff {α : Type} {paths : List String} (ht : SameTools s₁ s₂)
    (h : ∀ p ∈ paths, SameBytes s₁ s₂ p) (f : Snapshot → α) :
    (Outline.outlined s₁ paths).map f = (Outline.outlined s₂ paths).map f ↔
      Outline.ending? s₁ paths = Outline.ending? s₂ paths := by
  constructor
  · intro hmap
    refine Option.ext fun e => ?_
    have herror (s : Session) :
        Outline.ending? s paths = some e ↔ (Outline.outlined s paths).map f = .error e := by
      rw [← Outline.outlined_eq_error_iff]
      cases Outline.outlined s paths <;> simp [Except.map]
    rw [herror, herror, hmap]
  · intro hending
    refine congrArg (Except.map f) (Outline.outlined_eq hending fun hnone p hp => ?_)
    have hspoils₁ := Outline.ending?_eq_none_iff.1 hnone p hp
    have hspoils₂ := Outline.ending?_eq_none_iff.1 (hending ▸ hnone) p hp
    have hbytes : (s₁.files.bytes p).toOption = (s₂.files.bytes p).toOption := h p hp
    have htools : Outline.Tools.of s₁ = Outline.Tools.of s₂ := ht
    rw [Outline.entryAt_of_not_spoils hspoils₁, Outline.entryAt_of_not_spoils hspoils₂, hbytes, htools]

/-! ### The shown code as a function -/

def detailed (s : Session) (mode : String) (snapshot : Snapshot) : Except Failure String :=
  match mode with
  | "lsp" => (Outline.outlined s snapshot.paths).map prompt
  | "file_structure" => .ok (Tree.text snapshot.paths)
  | "full" => .ok snapshot.prompt
  | _ => .ok ""

/-- A text after it was cut, if it was to be cut. -/
def cutTo (limit : Option Int) (model : Option String) (content : String) : String :=
  match limit, model with
  | some n, some m => if n ≠ 0 && m ≠ "" then (Tokens.limited content n m).1 else content
  | _, _ => content

theorem detailed_eq_of_ne {mode : String} (h : mode ≠ "lsp") (s₁ s₂ : Session) (snapshot : Snapshot) :
    detailed s₁ mode snapshot = detailed s₂ mode snapshot := by
  unfold detailed
  split
  · exact absurd rfl h
  · rfl
  · rfl
  · rfl

theorem map_detailed_lsp {α : Type} (f : String → α) (s : Session) (snapshot : Snapshot) :
    (detailed s "lsp" snapshot).map f = (Outline.outlined s snapshot.paths).map (f ∘ prompt) := by
  show ((Outline.outlined s snapshot.paths).map prompt).map f = _
  cases Outline.outlined s snapshot.paths <;> rfl

theorem perform_detail (hreport : ∀ m, Passive (report m)) (hlists : Lists s tracked untracked) (mode : String) :
    ∃ s', perform (detail report mode) s = ((rulesOf s).bind fun rules =>
        detailed s mode (ofPaths s.files (mode ≠ "full") (rules.select (listedNames tracked untracked))), s') := by
  obtain ⟨s₁, hs₁, hf₁⟩ := perform_take hreport hlists (mode ≠ "full")
  have hentry (p : String) : Outline.entryAt s p = Outline.entryAt s₁ p := by
    simp only [Outline.entryAt, Session.isFile, Outline.Tools.of, hf₁.root, hf₁.files, hf₁.statusFault,
      hf₁.symbolServer, hf₁.symbolIndex, hf₁.interpreter]
  have houtlined (paths : List String) : Outline.outlined s paths = Outline.outlined s₁ paths :=
    Outline.outlined_eq (Outline.ending?_congr fun p _ => hentry p) fun _ p _ => by rw [hentry p]
  simp only [detail, perform_bind, hs₁]
  cases rulesOf s with
  | error f => exact ⟨s₁, rfl⟩
  | ok rules =>
    refine ⟨s₁, ?_⟩
    simp only [Except.map, Except.bind, andThen_ok]
    unfold detailed
    split
    · simp only [perform_bind, Outline.perform_snapshot, houtlined]
      cases Outline.outlined s₁ _ <;> rfl
    · rfl
    · rfl
    · simp

theorem perform_applyLimit (hreport : ∀ m, Passive (report m)) (s : Session) (content : String) (limit : Int)
    (model : String) : (perform (applyLimit report content limit model) s).1 =
      .ok (Tokens.limited content limit model).1 := by
  obtain ⟨s₁, hs₁, -⟩ := passive_forM hreport (Tokens.limited content limit model).2 s
  simp only [applyLimit, perform_bind, hs₁, andThen_ok]
  rfl

theorem perform_context (hreport : ∀ m, Passive (report m)) (hlists : Lists s tracked untracked) (mode : String)
    (limit : Option Int) (model : Option String) :
    (perform (context report mode limit model) s).1 = ((rulesOf s).bind fun rules => detailed s mode
      (ofPaths s.files (mode ≠ "full") (rules.select (listedNames tracked untracked)))).map
        (cutTo limit model) := by
  obtain ⟨s₁, hs₁⟩ := perform_detail hreport hlists mode
  simp only [context, perform_bind, hs₁]
  cases (rulesOf s).bind fun rules => detailed s mode
      (ofPaths s.files (mode ≠ "full") (rules.select (listedNames tracked untracked))) with
  | error f => rfl
  | ok content =>
    cases limit with
    | none => rfl
    | some n =>
      cases model with
      | none => rfl
      | some m =>
        simp only [andThen_ok, Except.map, cutTo]
        split
        · exact perform_applyLimit hreport s₁ content n m
        · rfl

/-! ### Two repositories -/

def ruleFiles : List String := [".gitignore", ".yellhornignore", ".yellhorncontext"]

theorem rulesIn_eq_of_find? {name : String} (h : s₁.files.find? name = s₂.files.find? name)
    (hshown : s₁.root = s₂.root ∨ s₁.files.find? name = none ∨ ∃ b, s₁.files.find? name = some (.file b)) :
    rulesIn s₁ name = rulesIn s₂ name := by
  unfold rulesIn FileTree.doesExist FileTree.text FileTree.bytes
  rw [← h]
  rcases hshown with hroot | hnone | ⟨b, hb⟩
  · rw [hroot]
    rcases s₁.files.find? name with _ | _ | _ | _ <;> rfl
  · rw [hnone]
    rfl
  · rw [hb]

theorem rulesOf_eq_of_find? (h : ∀ name ∈ ruleFiles, s₁.files.find? name = s₂.files.find? name)
    (hshown : s₁.root = s₂.root ∨ ∀ name ∈ ruleFiles,
      s₁.files.find? name = none ∨ ∃ b, s₁.files.find? name = some (.file b)) :
    rulesOf s₁ = rulesOf s₂ := by
  have hrules (name : String) (hname : name ∈ ruleFiles) : rulesIn s₁ name = rulesIn s₂ name :=
    rulesIn_eq_of_find? (h name hname) (hshown.imp_right fun hs => hs name hname)
  unfold rulesOf
  rw [hrules ".gitignore" (by simp [ruleFiles]), hrules ".yellhornignore" (by simp [ruleFiles]),
    hrules ".yellhorncontext" (by simp [ruleFiles])]

def Included (report : String → Action Unit) (s : Session) (path : String) : Prop :=
  ∃ snapshot s', perform (take report true) s = (.ok snapshot, s') ∧ path ∈ snapshot.paths

theorem included_iff (hreport : ∀ m, Passive (report m)) (hlists : Lists s tracked untracked) {rules : Rules}
    (hrules : rulesOf s = .ok rules) (path : String) :
    Included report s path ↔ path ∈ rules.select (listedNames tracked untracked) := by
  obtain ⟨s', hs', -⟩ := perform_take hreport hlists true
  rw [hrules] at hs'
  constructor
  · rintro ⟨snapshot, s'', h, hmem⟩
    rw [hs'] at h
    cases h
    exact hmem
  · intro hmem
    exact ⟨_, s', hs', hmem⟩

/-- The files of a category depend only on which of them are listed. -/
theorem of_eq_of_mem_iff {rules : Rules} {listed₁ listed₂ : List String} {c : Category}
    (h : ∀ f, rules.categorize f = c → (f ≠ "" ∧ f ∈ listed₁ ↔ f ≠ "" ∧ f ∈ listed₂)) :
    (Sorted.ofListing rules listed₁).of c = (Sorted.ofListing rules listed₂).of c := by
  refine (pairwise_of_ofListing rules listed₁ c).eq_of_mem_iff (pairwise_of_ofListing rules listed₂ c) fun f => ?_
  rw [mem_of_ofListing, mem_of_ofListing, ← and_assoc, ← and_assoc]
  exact and_congr_left (h f)

theorem select_eq_of_mem_iff {rules : Rules} {listed₁ listed₂ : List String}
    (h : ∀ f, f ∈ rules.select listed₁ ↔ f ∈ rules.select listed₂) :
    rules.select listed₁ = rules.select listed₂ := by
  by_cases hcontext : rules.context.isSome = true
  · have hselect (listed : List String) :
        rules.select listed = (Sorted.ofListing rules listed).of .contextIncluded := if_pos hcontext
    rw [hselect, hselect] at h ⊢
    refine of_eq_of_mem_iff fun f hf => ?_
    simpa only [mem_of_ofListing, hf, and_true] using h f
  · have hselect (listed : List String) : rules.select listed =
        (Sorted.ofListing rules listed).of .ignoreIncluded ++ (Sorted.ofListing rules listed).of .other :=
      if_neg hcontext
    rw [hselect, hselect] at h ⊢
    have hpart (c : Category) (hc : c = .ignoreIncluded ∨ c = .other) :
        (Sorted.ofListing rules listed₁).of c = (Sorted.ofListing rules listed₂).of c := by
      refine of_eq_of_mem_iff fun f hf => ?_
      have hmem := h f
      simp only [List.mem_append, mem_of_ofListing, hf] at hmem
      rcases hc with rfl | rfl
      · simpa using hmem
      · simpa using hmem
    rw [hpart .ignoreIncluded (.inl rfl), hpart .other (.inr rfl)]

/-- Excluded files hardly influence the shown code. Let two sessions include the same paths and have the same bytes
there, the same rule files and the same tools. Then they show the same code, or fail in the same way, unless they show
outlines and the system does not tell the same of an included source: which names are too long for it to look them up
depends on the directories that are there. The outlines are the same exactly if they end alike. -/
theorem context_of_sameIncluded {tracked₁ untracked₁ tracked₂ untracked₂ : String}
    (hreport : ∀ m, Passive (report m)) (hlists₁ : Lists s₁ tracked₁ untracked₁)
    (hlists₂ : Lists s₂ tracked₂ untracked₂)
    (hrules : ∀ name ∈ ruleFiles, s₁.files.find? name = s₂.files.find? name)
    (hshown : s₁.root = s₂.root ∨ ∀ name ∈ ruleFiles,
      s₁.files.find? name = none ∨ ∃ b, s₁.files.find? name = some (.file b))
    (hincluded : ∀ f, Included report s₁ f ↔ Included report s₂ f)
    (hbytes : ∀ f, Included report s₁ f → SameBytes s₁ s₂ f) (htools : SameTools s₁ s₂)
    (mode : String) (limit : Option Int) (model : Option String) :
    (mode ≠ "lsp" → (perform (context report mode limit model) s₁).1 =
      (perform (context report mode limit model) s₂).1) ∧
    ((∀ f, Included report s₁ f → Outline.language? f ≠ none → s₁.isFile f = s₂.isFile f) →
      (perform (context report mode limit model) s₁).1 = (perform (context report mode limit model) s₂).1) ∧
    (∀ snapshot s', perform (take report true) s₁ = (.ok snapshot, s') → mode = "lsp" →
      ((perform (context report mode limit model) s₁).1 = (perform (context report mode limit model) s₂).1 ↔
        Outline.ending? s₁ snapshot.paths = Outline.ending? s₂ snapshot.paths)) := by
  rw [perform_context hreport hlists₁, perform_context hreport hlists₂, ← rulesOf_eq_of_find? hrules hshown]
  obtain ⟨s₁', htake, -⟩ := perform_take hreport hlists₁ true
  cases hr : rulesOf s₁ with
  | error f =>
    simp only [Except.bind, Except.map, implies_true, true_and]
    intro snapshot s' h
    rw [htake, hr] at h
    cases h
  | ok rules =>
    have hr₂ : rulesOf s₂ = .ok rules := (rulesOf_eq_of_find? hrules hshown).symm.trans hr
    have hmem₁ := included_iff hreport hlists₁ hr
    have hmem₂ := included_iff hreport hlists₂ hr₂
    have hpaths : rules.select (listedNames tracked₂ untracked₂) =
        rules.select (listedNames tracked₁ untracked₁) :=
      select_eq_of_mem_iff fun f => by rw [← hmem₁, ← hmem₂, hincluded]
    set paths := rules.select (listedNames tracked₁ untracked₁)
    have hsame : ∀ p ∈ paths, SameBytes s₁ s₂ p := fun p hp => hbytes p ((hmem₁ p).2 hp)
    simp only [Except.bind]
    rw [hpaths, ← ofPaths_congr hsame]
    have houtlines (hmode : mode = "lsp") (snapshot : Snapshot) (hsnapshot : snapshot.paths = paths) :
        (detailed s₁ mode snapshot).map (cutTo limit model) = (detailed s₂ mode snapshot).map (cutTo limit model) ↔
          Outline.ending? s₁ paths = Outline.ending? s₂ paths := by
      rw [hmode, map_detailed_lsp, map_detailed_lsp, hsnapshot, map_outlined_eq_iff htools hsame]
    refine ⟨fun hmode => by rw [detailed_eq_of_ne hmode s₁ s₂], fun hfile => ?_, fun snapshot s' h hmode => ?_⟩
    · by_cases hmode : mode = "lsp"
      · refine (houtlines hmode _ rfl).2 (Outline.ending?_congr fun p hp => ?_)
        have hp := (Outline.mem_visited.1 hp).1
        exact entryAt_congr htools (hsame p hp) (hfile p ((hmem₁ p).2 hp))
      · rw [detailed_eq_of_ne hmode s₁ s₂]
    · rw [htake, hr] at h
      cases h
      exact houtlines hmode _ rfl

def overlongPath : String := "d/" ++ Outline.overlongName

/-- A repository that lists a source with an overlong name in a directory, and holds some files. -/
def overlongRepository (files : FileTree) : Session :=
  { files, git := [{ args := ["ls-files", "--others"] }, { args := ["ls-files"], stdout := overlongPath.toUTF8 }] }

/-- A file that no rule can show, in the same directory. -/
def secretFile : FileTree := ⟨[(["d", ".env"], .file "x".toUTF8)]⟩

theorem toList_overlongPath : overlongPath.toList = 'd' :: '/' :: Outline.overlongChars := by
  rw [overlongPath, Outline.overlongName, String.toList_append, String.toList_ofList, String.toList_ofList,
    List.cons_append, List.singleton_append]

theorem listedNames_overlongPath : listedNames overlongPath "" = [overlongPath] := by
  have hstrip : Text.strip overlongPath.toList = overlongPath.toList := by
    rw [toList_overlongPath]
    decide +kernel
  have hsplit : Text.splitOn '\n' overlongPath.toList = [overlongPath.toList] := by
    rw [toList_overlongPath]
    decide +kernel
  have hempty : listing (Text.trim "") = [] := by decide +kernel
  have hne : (overlongPath == "") = false := by
    rw [beq_eq_false_iff_ne, ← String.toList_inj.ne, toList_overlongPath]
    decide
  rw [listedNames, Text.trim, hstrip, String.ofList_toList, listing, hne, Text.pieces, hsplit, hempty]
  simp

theorem chosen_overlongPath : Chosen none none overlongPath := by
  have hignored : alwaysIgnoredPatterns.any (Path.fits overlongPath) = false := by
    unfold Path.fits Path.globMatches Text.begins
    simp only [String.toList_append, toList_overlongPath]
    decide +kernel
  refine ⟨isAlwaysIgnored_eq_false.1 hignored, .inr ?_⟩
  rintro ⟨l, ⟨⟨line, hline, rfl⟩, hne, -⟩, -⟩
  rw [show Text.pieces '\n' ((none : Option String).getD "") = [""] from rfl, List.mem_singleton] at hline
  rw [hline] at hne
  exact hne rfl

theorem lists_overlongRepository (files : FileTree) : Lists (overlongRepository files) overlongPath "" :=
  ⟨_, _, ⟨_, rfl, rfl, rfl, Text.Utf8.decode?_eq_ok_iff.2 rfl⟩, ⟨_, rfl, rfl, rfl, Text.Utf8.decode?_eq_ok_iff.2 rfl⟩⟩

theorem included_overlongRepository (files : FileTree)
    (hrules : rulesOf (overlongRepository files) = .ok (Rules.ofTexts none none)) (f : String) :
    Included print (overlongRepository files) f ↔ f = overlongPath := by
  rw [included_iff passive_print (lists_overlongRepository files) hrules, (select_selects none none _).mem_iff,
    listedNames_overlongPath, List.mem_singleton]
  constructor
  · rintro ⟨-, hf, -⟩
    exact hf
  · rintro rfl
    exact ⟨by rw [← String.toList_inj.ne, toList_overlongPath]; simp, rfl, chosen_overlongPath⟩

theorem names_overlongPath : FileTree.names overlongPath = ["d", Outline.overlongName] := by
  have hsplit : Text.splitOn '/' overlongPath.toList = [['d'], Outline.overlongChars] := by
    rw [toList_overlongPath]
    decide +kernel
  rw [FileTree.names, Text.pieces, hsplit]
  decide +kernel

theorem begins_overlongPath : Text.begins overlongPath "/" = false := by
  rw [Text.begins, toList_overlongPath]
  decide +kernel

theorem find?_overlongPath (t : FileTree) : t.find? overlongPath = none := by
  rw [FileTree.find?, FileTree.resolve, begins_overlongPath, names_overlongPath]
  simp [FileTree.resolveFrom, Outline.fits_overlongName]

/-- A file that is never shown decides whether outlines are shown at all: it makes the directory in which the system
looks for an overlong name. The contents of files are shown alike. -/
theorem hidden_file_ends_outlines :
    (perform (context print "lsp" none none) (overlongRepository {})).1 ≠
      (perform (context print "lsp" none none) (overlongRepository secretFile)).1 ∧
    (perform (context print "full" none none) (overlongRepository {})).1 =
      (perform (context print "full" none none) (overlongRepository secretFile)).1 := by
  have hincluded₁ := included_overlongRepository {} rfl
  have hincluded₂ := included_overlongRepository secretFile rfl
  have hrules : ∀ name ∈ ruleFiles, (overlongRepository {}).files.find? name =
      (overlongRepository secretFile).files.find? name := by
    simp only [ruleFiles, List.forall_mem_cons]
    exact ⟨rfl, rfl, rfl, by simp⟩
  have hnone (files : FileTree) : (files.bytes overlongPath).toOption = none := by
    rw [FileTree.bytes, find?_overlongPath]
    rfl
  have hbytes (f : String) (hf : Included print (overlongRepository {}) f) :
      SameBytes (overlongRepository {}) (overlongRepository secretFile) f := by
    rw [(hincluded₁ f).1 hf]
    exact (hnone _).trans (hnone _).symm
  have hcontext (mode : String) := context_of_sameIncluded passive_print (lists_overlongRepository {})
    (lists_overlongRepository secretFile) hrules (.inl rfl) (fun f => by rw [hincluded₁, hincluded₂]) hbytes rfl
    mode none none
  refine ⟨fun heq => ?_, (hcontext "full").1 (by decide)⟩
  obtain ⟨snapshot, s', htake, hmem⟩ := (hincluded₁ overlongPath).2 rfl
  have hending := ((hcontext "lsp").2.2 snapshot s' htake rfl).1 heq
  have hsource : Outline.language? overlongPath ≠ none := by
    rw [Outline.language?, Text.ends, toList_overlongPath]
    decide +kernel
  have hfault (files : FileTree) : files.faultAt overlongPath = files.obstacle [] ["d", Outline.overlongName] := by
    rw [FileTree.faultAt, begins_overlongPath, names_overlongPath]
    rfl
  have hended : ¬∀ p ∈ snapshot.paths, ∀ e, ¬Outline.Spoils (overlongRepository secretFile) p e := by
    have hfile := Outline.isFile_of_find?_eq_none (s := overlongRepository secretFile) rfl (find?_overlongPath _)
    rw [hfault, if_pos (by decide +kernel)] at hfile
    exact fun h => h overlongPath hmem _ (.untold hsource hfile)
  have hmade : ∀ p ∈ snapshot.paths, ∀ e, ¬Outline.Spoils (overlongRepository {}) p e := by
    intro p hp e hspoils
    have hfile := Outline.isFile_of_find?_eq_none (s := overlongRepository {}) rfl (find?_overlongPath _)
    rw [hfault, if_neg (by decide +kernel)] at hfile
    rw [(hincluded₁ p).1 ⟨snapshot, s', htake, hp⟩, Outline.spoils_iff, Outline.entryAt, if_neg hsource, hfile,
      hnone] at hspoils
    cases hspoils
  rw [Outline.ending?_eq_none_iff.2 hmade, eq_comm, Outline.ending?_eq_none_iff] at hending
  exact hended hending

end IssuePlanner.Snapshot
