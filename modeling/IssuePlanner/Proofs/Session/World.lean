import IssuePlanner.Proofs.Session.Run
import IssuePlanner.Session.Command

/-! What actions leave alone. Messages change nothing but the trace and what is to be sent later, so a report that is
`Passive` may be made at any point. A command that `git` answers changes only what `git` will answer next, and one that is
`Repeatable` not even that, so it always has the same outcome (`Repeatable.exists_perform_git`). -/

namespace IssuePlanner.Action

/-- The repository and the tools that read its files are the same. -/
structure SameFiles (s s' : Session) : Prop where
  root : s'.root = s.root
  files : s'.files = s.files
  statusFault : s'.statusFault = s.statusFault
  symbolServer : s'.symbolServer = s.symbolServer
  symbolIndex : s'.symbolIndex = s.symbolIndex
  interpreter : s'.interpreter = s.interpreter

/-- The repository, the tools and the answers of `git` are the same. -/
structure SameWorld (s s' : Session) : Prop extends SameFiles s s' where
  git : s'.git = s.git

theorem SameFiles.refl (s : Session) : SameFiles s s := ⟨rfl, rfl, rfl, rfl, rfl, rfl⟩

theorem SameFiles.trans {a b c : Session} (h : SameFiles a b) (h' : SameFiles b c) : SameFiles a c :=
  ⟨h'.root.trans h.root, h'.files.trans h.files, h'.statusFault.trans h.statusFault,
    h'.symbolServer.trans h.symbolServer, h'.symbolIndex.trans h.symbolIndex, h'.interpreter.trans h.interpreter⟩

theorem SameWorld.refl (s : Session) : SameWorld s s := ⟨.refl s, rfl⟩

theorem SameWorld.trans {a b c : Session} (h : SameWorld a b) (h' : SameWorld b c) : SameWorld a c :=
  ⟨h.toSameFiles.trans h'.toSameFiles, h'.git.trans h.git⟩

/-- The action gives a result and leaves the world alone. -/
def Returns {α : Type} (act : Action α) (a : α) : Prop :=
  ∀ s, ∃ s', perform act s = (.ok a, s') ∧ SameWorld s s'

abbrev Passive (act : Action Unit) : Prop := Returns act ()

section

variable {α β : Type}

theorem returns_pure (a : α) : Returns (pure a) a := fun s => ⟨s, rfl, .refl s⟩

theorem Returns.bind {act : Action α} {f : α → Action β} {a : α} {b : β} (h : Returns act a)
    (hf : Returns (f a) b) : Returns (act >>= f) b := by
  intro s
  obtain ⟨s₁, hs₁, hw₁⟩ := h s
  obtain ⟨s₂, hs₂, hw₂⟩ := hf s₁
  refine ⟨s₂, ?_, hw₁.trans hw₂⟩
  rw [perform_bind, hs₁, andThen_ok, hs₂]

theorem Returns.after {act : Action α} {a : α} (h : Returns act a) {s s₁ : Session} (hs : SameFiles s s₁) :
    ∃ s', perform act s₁ = (.ok a, s') ∧ SameFiles s s' := by
  obtain ⟨s₂, hs₂, hw₂⟩ := h s₁
  exact ⟨s₂, hs₂, hs.trans hw₂.toSameFiles⟩

theorem Returns.exists_perform {act : Action α} {a : α} (h : Returns act a) (s : Session) :
    ∃ s', perform act s = (.ok a, s') := (h s).imp fun _ hs' => hs'.1

theorem passive_print (line : String) : Passive (print line) := fun _ => ⟨_, rfl, ⟨⟨rfl, rfl, rfl, rfl, rfl, rfl⟩, rfl⟩⟩

theorem passive_log (level message : String) : Passive (log level message) := by
  intro s
  simp only [log, perform_bind, perform_get, andThen_ok]
  split
  · exact ⟨_, rfl, ⟨⟨rfl, rfl, rfl, rfl, rfl, rfl⟩, rfl⟩⟩
  · exact returns_pure () s

theorem passive_info (message : String) : Passive (info message) := passive_log _ _

theorem passive_forM {report : String → Action Unit} (h : ∀ m, Passive (report m)) (ms : List String) :
    Passive (ms.forM report) := by
  induction ms with
  | nil => exact returns_pure ()
  | cons m ms ih => exact (h m).bind ih

end

/-! ### Commands for `git` -/

/-- `git` answers a command with an output, and goes on by other rules. -/
def GitAnswers (rules : List Rule) (args : List String) (output : String) (rules' : List Rule) : Prop :=
  ∃ r, Rule.take? (args.map .text) rules = some (r, rules') ∧ r.missing = false ∧ r.code = 0 ∧
    Text.Utf8.decode? r.stdout = .ok output

theorem perform_git {s : Session} {args : List String} {output : String} {rules' : List Rule}
    (h : GitAnswers s.git args output rules') :
    perform (git args) s = (.ok (Text.trim output),
      { s with git := rules', trace := .command .git (args.map .text) :: s.trace }) := by
  obtain ⟨r, htake, hmissing, hcode, hout⟩ := h
  have hanswer : perform (answerGit (args.map .text)) s = (.ok r,
      { s with git := rules', trace := .command .git (args.map .text) :: s.trace }) := by
    simp only [answerGit, perform_bind, perform_record, andThen_ok, perform_get, htake]
    rfl
  simp only [git, perform_bind, hanswer, andThen_ok, hmissing, hcode, decode, hout]
  rfl

/-- A command for `git` succeeds only with the trimmed output of an answer. -/
theorem exists_gitAnswers {s s' : Session} {args : List String} {text : String}
    (h : perform (git args) s = (.ok text, s')) :
    ∃ output rules', GitAnswers s.git args output rules' ∧ text = Text.trim output := by
  obtain ⟨r, s₁, hanswer, h⟩ := exists_of_perform_bind h
  simp only [answerGit, perform_bind, perform_record, andThen_ok, perform_get] at hanswer
  have hmissing : r.missing = false := by
    by_contra hm
    rw [Bool.not_eq_false] at hm
    simp only [hm, if_true, perform_throw] at h
    cases h
  have hcode : r.code = 0 := by
    by_contra hc
    rw [hmissing, if_neg Bool.false_ne_true, if_pos hc] at h
    obtain ⟨_, _, -, h⟩ := exists_of_perform_bind h
    cases h
  rw [hmissing, if_neg Bool.false_ne_true, if_neg (not_not_intro hcode)] at h
  obtain ⟨output, s₂, hdecode, hpure⟩ := exists_of_perform_bind h
  cases hout : Text.Utf8.decode? r.stdout with
  | error f =>
    rw [decode, hout] at hdecode
    cases hdecode
  | ok printed =>
    rw [decode, hout] at hdecode
    cases hdecode
    cases htake : Rule.take? (args.map .text) s.git with
    | none =>
      rw [htake] at hanswer
      cases hanswer
      cases hcode
    | some taken =>
      rw [htake] at hanswer
      cases hanswer
      cases hpure
      exact ⟨_, taken.2, ⟨taken.1, htake, hmissing, hcode, hout⟩, rfl⟩

/-! ### Commands that can be given again -/

def gitOutcome (r : Rule) : Action String :=
  if r.missing then throw .gitMissing
  else if r.code ≠ 0 then do throw (.gitFailed (Text.trim (← decode r.stderr)))
  else do return Text.trim (← decode r.stdout)

theorem exists_perform_gitOutcome (r : Rule) : ∃ out, ∀ s, perform (gitOutcome r) s = (out, s) := by
  unfold gitOutcome decode
  split_ifs
  · exact ⟨_, fun _ => rfl⟩
  · cases Text.Utf8.decode? r.stderr <;> exact ⟨_, fun _ => rfl⟩
  · cases Text.Utf8.decode? r.stdout <;> exact ⟨_, fun _ => rfl⟩

/-- An answer to this command leaves what `git` will answer as it is. -/
def Repeatable (s : Session) (args : List String) : Prop :=
  ∀ r rules, Rule.take? (args.map .text) s.git = some (r, rules) → rules = s.git

theorem Repeatable.exists_perform_git {s : Session} {args : List String} (h : Repeatable s args) :
    ∃ out, ∀ s₁, SameWorld s s₁ → ∃ s₂, perform (git args) s₁ = (out, s₂) ∧ SameWorld s s₂ := by
  have hgit : git args = answerGit (args.map .text) >>= gitOutcome := rfl
  have hanswer : ∃ r, ∀ s₁, SameWorld s s₁ →
      ∃ s₂, perform (answerGit (args.map .text)) s₁ = (.ok r, s₂) ∧ SameWorld s s₂ := by
    cases htake : Rule.take? (args.map .text) s.git with
    | none =>
      refine ⟨Rule.unscripted, fun s₁ hs₁ => ?_⟩
      simp only [answerGit, perform_bind, perform_record, andThen_ok, perform_get, hs₁.git, htake]
      exact ⟨_, rfl, hs₁.trans ⟨⟨rfl, rfl, rfl, rfl, rfl, rfl⟩, hs₁.git.symm⟩⟩
    | some found =>
      obtain ⟨r, rules⟩ := found
      obtain rfl := h r rules htake
      refine ⟨r, fun s₁ hs₁ => ?_⟩
      simp only [answerGit, perform_bind, perform_record, andThen_ok, perform_get, hs₁.git, htake]
      exact ⟨_, rfl, hs₁.trans ⟨⟨rfl, rfl, rfl, rfl, rfl, rfl⟩, hs₁.git.symm⟩⟩
  obtain ⟨r, hr⟩ := hanswer
  obtain ⟨out, hout⟩ := exists_perform_gitOutcome r
  refine ⟨out, fun s₁ hs₁ => ?_⟩
  obtain ⟨s₂, hrun, hs₂⟩ := hr s₁ hs₁
  exact ⟨s₂, by rw [hgit, perform_bind, hrun, andThen_ok, hout], hs₂⟩

end IssuePlanner.Action
