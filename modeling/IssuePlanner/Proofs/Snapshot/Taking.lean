import IssuePlanner.Proofs.Session.World
import IssuePlanner.Proofs.Snapshot.Selection
import IssuePlanner.Snapshot.Basic

/-! Taking a snapshot. If `git` lists the files and reports are passive, the outcome is a function of the rule files,
the listings and the files that were chosen (`perform_take`). -/

namespace IssuePlanner.Snapshot

open IssuePlanner.Action

variable {s s' : Session} {report : String → Action Unit} {tracked untracked : String}

/-- The lines of a rule file, if it is there, or why it cannot be read. -/
def rulesIn (s : Session) (name : String) : Except Failure (Option (List String)) :=
  if s.files.doesExist name then
    (s.files.text (s.root ++ "/" ++ name) name).map fun text => some (ruleLines text)
  else .ok none

theorem rulesIn_congr (h : SameFiles s s') (name : String) : rulesIn s' name = rulesIn s name := by
  rw [rulesIn, h.files, h.root, rulesIn]

theorem perform_readRules (s : Session) (name : String) :
    perform (readRules name) s = (rulesIn s name, s) := by
  simp only [readRules, rulesIn, perform_bind, perform_get, andThen_ok]
  split
  · simp only [perform_map, perform_ofExcept]
    cases s.files.text (s.root ++ "/" ++ name) name <;> rfl
  · rfl

theorem perform_consult (hreport : ∀ m, Passive (report m)) (s : Session) (name : String)
    (note : List String → String) :
    ∃ s', perform (consult report name note) s = (rulesIn s name, s') ∧ SameWorld s s' := by
  simp only [consult, perform_bind, perform_readRules]
  cases rulesIn s name with
  | error f => exact ⟨s, rfl, .refl s⟩
  | ok lines =>
    rw [andThen_ok]
    cases lines with
    | none => exact ⟨s, rfl, .refl s⟩
    | some lines =>
      obtain ⟨s₁, hs₁, hw⟩ := hreport (note lines) s
      refine ⟨s₁, ?_, hw⟩
      simp only [perform_bind, hs₁, andThen_ok]
      rfl

/-- The rules of a session, or why they cannot be read. -/
def rulesOf (s : Session) : Except Failure Rules := do
  let _ ← rulesIn s ".gitignore"
  let ignore ← rulesIn s ".yellhornignore"
  let context ← rulesIn s ".yellhorncontext"
  return ⟨context.map .ofLines, .ofLines (ignore.getD [])⟩

def listedNames (tracked untracked : String) : List String :=
  listing (Text.trim tracked) ++ listing (Text.trim untracked)

/-- `git` lists the tracked and the untracked files of a session. -/
def Lists (s : Session) (tracked untracked : String) : Prop :=
  ∃ rules₁ rules₂, GitAnswers s.git ["ls-files"] tracked rules₁ ∧
    GitAnswers rules₁ ["ls-files", "--others", "--exclude-standard"] untracked rules₂

theorem perform_listings (hlists : Lists s tracked untracked) :
    ∃ s₁ s₂, perform (git ["ls-files"]) s = (.ok (Text.trim tracked), s₁) ∧
      perform (git ["ls-files", "--others", "--exclude-standard"]) s₁ = (.ok (Text.trim untracked), s₂) ∧
      SameFiles s s₂ := by
  obtain ⟨rules₁, rules₂, htracked, huntracked⟩ := hlists
  exact ⟨_, _, perform_git htracked, perform_git huntracked, ⟨rfl, rfl, rfl, rfl, rfl, rfl⟩⟩

theorem Lists.congr (h : SameWorld s s') (hlists : Lists s tracked untracked) : Lists s' tracked untracked := by
  unfold Lists
  rwa [h.git]

theorem perform_choose (hreport : ∀ m, Passive (report m)) (hlists : Lists s tracked untracked) :
    ∃ s', perform (choose report) s =
        ((rulesOf s).map fun rules => rules.select (listedNames tracked untracked), s') ∧ SameFiles s s' := by
  obtain ⟨s₁, hs₁, hw₁⟩ := perform_consult hreport s ".gitignore" (patternsNote ".gitignore")
  simp only [choose, perform_bind, hs₁, rulesOf]
  cases rulesIn s ".gitignore" with
  | error f => exact ⟨s₁, rfl, hw₁.toSameFiles⟩
  | ok _ =>
    obtain ⟨s₂, s₃, hs₂, hs₃, hf₃⟩ := perform_listings (hlists.congr hw₁)
    have hf₃ := hw₁.toSameFiles.trans hf₃
    obtain ⟨s₄, hs₄, hw₄⟩ := perform_consult hreport s₃ ".yellhornignore" (patternsNote ".yellhornignore")
    have hf₄ := hf₃.trans hw₄.toSameFiles
    simp only [andThen_ok, perform_bind, hs₂, hs₃, hs₄, rulesIn_congr hf₃]
    cases rulesIn s ".yellhornignore" with
    | error f => exact ⟨s₄, rfl, hf₄⟩
    | ok ignore =>
      obtain ⟨s₅, hs₅, hw₅⟩ := perform_consult hreport s₄ ".yellhorncontext" fun lines =>
        contextNote (.ofLines lines)
      have hf₅ := hf₄.trans hw₅.toSameFiles
      simp only [andThen_ok, perform_bind, hs₅, rulesIn_congr hf₄]
      cases rulesIn s ".yellhorncontext" with
      | error f => exact ⟨s₅, rfl, hf₅⟩
      | ok context =>
        obtain ⟨s₆, hs₆, hw₆⟩ := passive_forM hreport (Sorted.ofListing
          ⟨context.map .ofLines, .ofLines (ignore.getD [])⟩ (listedNames tracked untracked)).report s₅
        refine ⟨s₆, ?_, hf₅.trans hw₆.toSameFiles⟩
        unfold listedNames at hs₆
        simp only [andThen_ok, perform_bind, hs₆]
        rfl

/-- The snapshot of chosen paths, of the paths alone or with contents. -/
def ofPaths (files : FileTree) (justPaths : Bool) (paths : List String) : Snapshot :=
  ⟨paths, if justPaths then [] else (readContents files paths).1⟩

theorem perform_take (hreport : ∀ m, Passive (report m)) (hlists : Lists s tracked untracked)
    (justPaths : Bool) :
    ∃ s', perform (take report justPaths) s = ((rulesOf s).map fun rules =>
        ofPaths s.files justPaths (rules.select (listedNames tracked untracked)), s') ∧ SameFiles s s' := by
  obtain ⟨s₁, hs₁, hw₁⟩ := hreport
    ("Getting codebase snapshot in mode: " ++ if justPaths then "paths" else "full") s
  obtain ⟨s₂, hs₂, hf₂⟩ := perform_choose hreport (hlists.congr hw₁)
  have hf₂ := hw₁.toSameFiles.trans hf₂
  have hrules : rulesOf s₁ = rulesOf s := by
    simp only [rulesOf, rulesIn_congr hw₁.toSameFiles]
  simp only [take, perform_bind, hs₁, andThen_ok, hs₂, hrules]
  cases rulesOf s with
  | error f => exact ⟨s₂, rfl, hf₂⟩
  | ok rules =>
    cases justPaths with
    | true => exact ⟨s₂, rfl, hf₂⟩
    | false =>
      simp only [Except.map, andThen_ok, Bool.false_eq_true, if_false, perform_bind, perform_get, hf₂.files]
      split
      · refine Returns.after ?_ hf₂
        exact (hreport _).bind ((hreport _).bind (returns_pure _))
      · refine Returns.after ?_ hf₂
        exact (hreport _).bind (returns_pure _)

/-! ### The paths of a snapshot -/

/-- What a session has of a rule file: nothing, or a text. -/
def HasRules (s : Session) (name : String) : Option String → Prop
  | none => s.files.doesExist name = false
  | some text => s.files.text (s.root ++ "/" ++ name) name = .ok text

theorem doesExist_of_text {files : FileTree} {shown path text : String} (h : files.text shown path = .ok text) :
    files.doesExist path = true := by
  unfold FileTree.text FileTree.bytes at h
  cases hf : files.find? path with
  | none => simp [hf] at h
  | some node => simp [FileTree.doesExist, hf]

theorem rulesIn_of_hasRules {name : String} {text : Option String} (h : HasRules s name text) :
    rulesIn s name = .ok (text.map ruleLines) := by
  unfold rulesIn
  cases text with
  | none =>
    have hnone : s.files.doesExist name = false := h
    rw [hnone]
    rfl
  | some text =>
    have htext : s.files.text (s.root ++ "/" ++ name) name = .ok text := h
    rw [doesExist_of_text htext, htext]
    rfl

theorem rulesOf_of_hasRules {context ignore : Option String} (hgit : ∃ text, HasRules s ".gitignore" text)
    (hignore : HasRules s ".yellhornignore" ignore) (hcontext : HasRules s ".yellhorncontext" context) :
    rulesOf s = .ok (Rules.ofTexts context ignore) := by
  obtain ⟨text, hgit⟩ := hgit
  rw [rulesOf, rulesIn_of_hasRules hgit, rulesIn_of_hasRules hignore, rulesIn_of_hasRules hcontext]
  cases context <;> cases ignore <;> rfl

theorem Selects.congr {context ignore : Option String} {listed listed' paths : List String}
    (h : Selects context ignore listed paths) (hlisted : ∀ f, f ≠ "" → (f ∈ listed ↔ f ∈ listed')) :
    Selects context ignore listed' paths := by
  refine ⟨fun f => ?_, h.nodup, h.order⟩
  rw [h.mem_iff]
  exact and_congr_right fun hf => by rw [hlisted f hf]

theorem mem_listing {output f : String} (hf : f ≠ "") : f ∈ listing output ↔ f ∈ Text.pieces '\n' output := by
  unfold listing
  split
  · next h =>
    rw [beq_iff_eq.1 h]
    simp [Text.pieces, Text.splitOn, hf]
  · rfl

/-- The names of a listing are its lines if trimming the listing removes nothing but line feeds. -/
theorem mem_pieces_trim {output f : String} (h : Text.TrimsLineFeeds output.toList) (hf : f ≠ "") :
    f ∈ Text.pieces '\n' (Text.trim output) ↔ f ∈ Text.pieces '\n' output := by
  have hmem (cs : List Char) : f ∈ (Text.splitOn '\n' cs).map String.ofList ↔
      f.toList ∈ (Text.splitOn '\n' cs).filter (· ≠ []) := by
    rw [List.mem_filter, List.mem_map]
    constructor
    · rintro ⟨p, hp, rfl⟩
      rw [String.toList_ofList]
      exact ⟨hp, by simpa using hf⟩
    · rintro ⟨hp, -⟩
      exact ⟨f.toList, hp, String.ofList_toList⟩
  rw [Text.pieces, Text.pieces, Text.trim, String.toList_ofList, hmem, hmem, (Text.filledLines_strip_iff _).2 h]

/-- A snapshot selects what the rules choose among the lines of the listings. The listings are trimmed as a whole
first, so a blank at the start of the first name or at the end of the last one is lost; where there is none, the
snapshot selects among all listed names. -/
theorem take_selects {context ignore : Option String} (hreport : ∀ m, Passive (report m))
    (hlists : Lists s tracked untracked) (hgit : ∃ text, HasRules s ".gitignore" text)
    (hignore : HasRules s ".yellhornignore" ignore) (hcontext : HasRules s ".yellhorncontext" context)
    (justPaths : Bool) :
    ∃ snapshot s', perform (take report justPaths) s = (.ok snapshot, s') ∧
      Selects context ignore
        (Text.pieces '\n' (Text.trim tracked) ++ Text.pieces '\n' (Text.trim untracked)) snapshot.paths ∧
      (Text.TrimsLineFeeds tracked.toList → Text.TrimsLineFeeds untracked.toList →
        Selects context ignore (Text.pieces '\n' tracked ++ Text.pieces '\n' untracked) snapshot.paths) := by
  obtain ⟨s', hs', -⟩ := perform_take hreport hlists justPaths
  rw [rulesOf_of_hasRules hgit hignore hcontext] at hs'
  have hselects := select_selects context ignore (listedNames tracked untracked)
  refine ⟨_, s', hs', hselects.congr fun f hf => ?_, fun htracked huntracked => hselects.congr fun f hf => ?_⟩
  · rw [listedNames, List.mem_append, List.mem_append, mem_listing hf, mem_listing hf]
  · rw [listedNames, List.mem_append, List.mem_append, mem_listing hf, mem_listing hf,
      mem_pieces_trim htracked hf, mem_pieces_trim huntracked hf]

/-- A session with a file whose name starts with a blank. -/
def blankStartSession : Session :=
  { git := [{ args := ["ls-files", "--others"] }, { args := ["ls-files"], stdout := " a.py\nb.py\n".toUTF8 }] }

/-- The name is listed, and the snapshot does not have it. -/
theorem take_loses_blank_start :
    ∃ snapshot s', perform (take print true) blankStartSession = (.ok snapshot, s') ∧
      " a.py" ∈ Text.pieces '\n' " a.py\nb.py\n" ∧ " a.py" ∉ snapshot.paths := by
  have hlists : Lists blankStartSession " a.py\nb.py\n" "" :=
    ⟨_, _, ⟨_, rfl, rfl, rfl, by decide +kernel⟩, ⟨_, rfl, rfl, rfl, by decide +kernel⟩⟩
  obtain ⟨snapshot, s', hs', hselects, -⟩ := take_selects passive_print hlists ⟨none, rfl⟩
    (show HasRules _ _ none from rfl) (show HasRules _ _ none from rfl) true
  refine ⟨snapshot, s', hs', by decide +kernel, fun hmem => ?_⟩
  have hlisted := ((hselects.mem_iff _).1 hmem).2.1
  exact absurd hlisted (by decide +kernel)

end IssuePlanner.Snapshot
