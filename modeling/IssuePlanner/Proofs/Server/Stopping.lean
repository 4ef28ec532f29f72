import IssuePlanner.Proofs.Server.Placeholder
import IssuePlanner.Proofs.Session.World
import IssuePlanner.Proofs.Text.Lines

/-! When a judgement stops. The change that is judged is drawn from one command, `diffArgs`. Some degrees of detail put a
heading before what the command prints, and the heading is taken off again to see whether something is left. What is left
is nothing exactly if the command printed nothing but blanks (`perform_diff`). So a request that comes as far as the
command answers that nothing changed, and posts nothing, exactly if the command printed nothing
(`judgement_stops_iff_unchanged`). -/

namespace IssuePlanner

open IssuePlanner.Action

namespace Outline

/-- Reports can always be made: a file that cannot be read at a commit is empty there. -/
theorem exists_textAt (commit path : String) (s : Session) : ∃ text s', perform (textAt commit path) s = (.ok text, s') := by
  rw [textAt, perform_tryCatch]
  rcases perform (git _) s with ⟨e | text, s'⟩
  · exact ⟨"", s', rfl⟩
  · exact ⟨text, s', rfl⟩

theorem exists_fileReports (base head : String) (paths : List String) (s : Session) :
    ∃ reports s', perform (fileReports base head paths) s = (.ok reports, s') := by
  induction paths generalizing s with
  | nil => exact ⟨[], s, rfl⟩
  | cons p ps ih =>
    rw [fileReports]
    cases language? p with
    | none => exact ih s
    | some language =>
      obtain ⟨before, s₁, hbefore⟩ := exists_textAt base p s
      obtain ⟨after, s₂, hafter⟩ := exists_textAt head p s₁
      obtain ⟨reports, s₃, hreports⟩ := ih s₂
      simp only [perform_bind, hbefore, hafter, hreports, andThen_ok, perform_get, perform_pure]
      exact ⟨_, s₃, rfl⟩

/-- The difference of outlines is never blank: its title is there even if no outline differs. -/
theorem exists_diff (base head : String) (changed : List String) (s : Session) :
    ∃ text s', perform (diff base head changed) s = (.ok text, s') ∧ Text.isBlankText text = false := by
  obtain ⟨reports, s', hreports⟩ := exists_fileReports base head changed s
  rw [diff, perform_bind, hreports, andThen_ok]
  refine ⟨_, s', rfl, ?_⟩
  rw [Text.isBlankText, List.all_eq_false]
  refine ⟨'#', ?_, by decide⟩
  rw [Text.unlines, Text.toList_join]
  simp [Text.joinWith_cons_cons]

end Outline

namespace Judgement

variable {base head mode output : String} {rules : List Rule} {s : Session}

def diffArgs (base head mode : String) : List String :=
  ["diff", if namesOnly mode || mode == "lsp" then "--name-only" else "--patch", base ++ "..." ++ head]

/-- A change as it is shown, given what the command printed. -/
def shown (base head mode printed : String) : Action String :=
  if namesOnly mode then return changedHeading base head ++ if printed == "" then "" else "\n" ++ printed
  else if mode == "lsp" then
    if printed == "" then return "" else Outline.diff base head (Text.pieces '\n' printed)
  else return printed

theorem diff_eq (base head mode : String) :
    diff base head mode = during .generateDiff (git (diffArgs base head mode) >>= shown base head mode) := by
  unfold diff shown diffArgs
  split
  · simp [*, changedNames]
  · split
    · simp [*, changedNames]
    · simp [*]

theorem exists_toList_changedHeading (base head : String) :
    ∃ inner, (changedHeading base head).toList = 'C' :: inner ++ [':'] := by
  have hfront : "Changed files between ".toList = 'C' :: "hanged files between ".toList := by simp
  have hback : ":".toList = [':'] := by simp
  generalize "hanged files between ".toList = front at hfront
  have hheading : changedHeading base head = "Changed files between " ++ base ++ " and " ++ head ++ ":" := rfl
  refine ⟨front ++ base.toList ++ " and ".toList ++ head.toList, ?_⟩
  simp only [hheading, String.toList_append, hfront, hback, List.cons_append]

theorem isBlankText_changedHeading_append (base head text : String) :
    Text.isBlankText (changedHeading base head ++ text) = false := by
  obtain ⟨inner, hheading⟩ := exists_toList_changedHeading base head
  rw [Text.isBlankText, String.toList_append, hheading, List.all_eq_false]
  exact ⟨'C', by simp, by decide⟩

theorem trim_changedHeading (base head : String) : Text.trim (changedHeading base head) = changedHeading base head := by
  obtain ⟨inner, hheading⟩ := exists_toList_changedHeading base head
  have hhead : ∀ c ∈ ('C' :: inner ++ [':']).head?, Text.isBlank c = false := by
    rintro c ⟨⟩
    decide
  have hstrip := Text.strip_eq_self hhead List.getLast?_concat (by decide)
  rw [Text.trim, hheading, hstrip, ← hheading, String.ofList_toList]

/-- What stands on a line of its own behind the heading is not trimmed away. -/
theorem trim_changedHeading_append_ne {printed : String} (h : Text.trim printed ≠ "") (base head : String) :
    Text.trim (changedHeading base head ++ ("\n" ++ Text.trim printed)) ≠ changedHeading base head := by
  obtain ⟨inner, hheading⟩ := exists_toList_changedHeading base head
  have hne : Text.strip printed.toList ≠ [] := fun hnil => h (by rw [Text.trim, hnil, String.ofList_nil])
  have hlast := List.getLast?_eq_some_getLast hne
  generalize (Text.strip printed.toList).getLast hne = c at hlast
  obtain ⟨front, hfront⟩ := List.getLast?_eq_some_iff.1 hlast
  have htext : (changedHeading base head ++ ("\n" ++ Text.trim printed)).toList =
      (changedHeading base head).toList ++ ('\n' :: front) ++ [c] := by
    rw [String.toList_append, String.toList_append, Text.trim, hfront, String.toList_ofList, String.toList_ofList,
      List.append_assoc]
    rfl
  have hhead : ∀ d ∈ ((changedHeading base head).toList ++ ('\n' :: front) ++ [c]).head?, Text.isBlank d = false := by
    rw [hheading]
    rintro d ⟨⟩
    decide
  intro htrim
  rw [Text.trim, htext, Text.strip_eq_self hhead List.getLast?_concat (Text.not_blank_of_getLast?_strip hlast)] at htrim
  have hlength := congrArg (List.length ∘ String.toList) htrim
  simp at hlength

/-- The change can be shown, whatever the command printed. Nothing is left of it exactly if the command printed nothing
but blanks, and then no other command is run. -/
theorem perform_shown (base head mode printed : String) (s : Session) :
    ∃ text s', perform (shown base head mode (Text.trim printed)) s = (.ok text, s') ∧
      (isEmptyDiff base head mode text = true ↔ Text.trim printed = "") ∧ (Text.trim printed = "" → s' = s) := by
  unfold shown isEmptyDiff
  by_cases hnames : namesOnly mode = true
  · rw [if_pos hnames]
    refine ⟨_, s, rfl, ?_, fun _ => rfl⟩
    rw [hnames, isBlankText_changedHeading_append, Bool.false_or, Bool.true_and, beq_iff_eq]
    by_cases hprinted : Text.trim printed = ""
    · simp [hprinted, trim_changedHeading]
    · simp [hprinted, trim_changedHeading_append_ne hprinted]
  · rw [if_neg hnames]
    simp only [hnames, Bool.false_and, Bool.or_false]
    split
    · split
      · rename_i hprinted
        exact ⟨"", s, rfl, iff_of_true rfl (by simpa using hprinted), fun _ => rfl⟩
      · rename_i hprinted
        obtain ⟨text, s', hrun, hblank⟩ := Outline.exists_diff base head (Text.pieces '\n' (Text.trim printed)) s
        have hne : Text.trim printed ≠ "" := by simpa using hprinted
        exact ⟨text, s', hrun, by simp [hblank, hne], fun h => absurd h hne⟩
    · refine ⟨_, s, rfl, ?_, fun _ => rfl⟩
      rw [Text.isBlankText_iff, Text.trim, String.toList_ofList, Text.solid_strip, ← Text.strip_eq_nil_iff,
        String.ofList_eq_empty_iff]

theorem perform_diff (h : GitAnswers s.git (diffArgs base head mode) output rules) :
    ∃ text s', perform (diff base head mode) s = (.ok text, s') ∧
      (isEmptyDiff base head mode text = true ↔ Text.trim output = "") ∧
      (Text.trim output = "" → s' = { s with
        git := rules, trace := .command .git ((diffArgs base head mode).map .text) :: s.trace }) := by
  rw [diff_eq, during, perform_tryCatch, perform_bind, perform_git h, andThen_ok]
  obtain ⟨text, s', hrun, hempty, hsame⟩ := perform_shown base head mode output
    { s with git := rules, trace := .command .git ((diffArgs base head mode).map .text) :: s.trace }
  exact ⟨text, s', by rw [hrun, orElse_ok], hempty, hsame⟩

theorem exists_answers_of_diff {text : String} {s' : Session} (h : perform (diff base head mode) s = (.ok text, s')) :
    ∃ output rules, GitAnswers s.git (diffArgs base head mode) output rules := by
  rw [diff_eq, during, perform_tryCatch] at h
  rcases hgit : perform (git (diffArgs base head mode)) s with ⟨e | printed, s₁⟩
  · rw [perform_bind, hgit] at h
    cases h
  · obtain ⟨output, rules, hanswers, -⟩ := exists_gitAnswers hgit
    exact ⟨output, rules, hanswers⟩

end Judgement

namespace Server

variable {r : JudgeRequest} {s s₁ : Session} {model : String}

/-! ### The way to the command -/

/-- What is known before the change is drawn: the branch to compare with, the workplan and the two commits. -/
structure Approach where
  base : String
  workplan : Datum
  baseCommit : String
  headCommit : String

/-- All that is done before the change between two branches is drawn. -/
def approach (r : JudgeRequest) : Action Approach := do
  let _ ← suspendSearch r.disableSearch
  let base ← baseOf r
  refusePull r
  let workplan ← Issue.body .program r.issue
  let baseCommit ← git ["rev-parse", base]
  let headCommit ← git ["rev-parse", r.head]
  return { base, workplan, baseCommit, headCommit }

/-- The answer that nothing has changed. -/
def Approach.unchanged (a : Approach) (head : String) : Datum :=
  .dict [("error", .text ("No changes found between " ++ a.base ++ " and " ++ head)),
    ("base_commit", .text a.baseCommit), ("head_commit", .text a.headCommit)]

/-- Whether there is something to judge in the change. -/
def Approach.weigh (a : Approach) (r : JudgeRequest) (diff : String) : Action (Except Datum Case) := do
  if Judgement.isEmptyDiff a.base r.head r.reasoning diff then return .error (a.unchanged r.head)
  return .ok ⟨a.base, ← ofExcept (textOf a.workplan), ⟨a.baseCommit, a.headCommit, diff⟩⟩

theorem examine_eq (hpull : Issue.nonEmpty r.pullUrl = none) :
    examine r = approach r >>= fun a => Judgement.diff a.base r.head r.reasoning >>= a.weigh r := by
  simp only [examine, approach, changeOf, hpull, bind_assoc, pure_bind]
  rfl

/-- There is a model, and the request comes as far as the command that the change is drawn from. -/
def Approaches (r : JudgeRequest) (s : Session) (model : String) (a : Approach) (s₁ : Session) : Prop :=
  s.settings.model = some model ∧ perform (approach r) s = (.ok a, s₁)

/-- The request answers that nothing has changed, and posts nothing. -/
def Stops (r : JudgeRequest) (s : Session) : Prop :=
  (∃ a : Approach, (perform (judgeWorkplan r) s).1 = .ok (.text (a.unchanged r.head).json)) ∧
    posted (perform (judgeWorkplan r) s).2 = posted s

/-! ### The request -/

/-- A request that finds nothing to judge gives the answer that it has found. -/
theorem perform_judgeWorkplan_of_nothing {answer : Datum} (hmodel : s.settings.model = some model)
    (h : perform (examine r) s = (.ok (.error answer), s₁)) :
    perform (judgeWorkplan r) s = (.ok (.text answer.json), s₁) := by
  have hready : perform theModel s = (.ok model, s) := by
    simp only [theModel, perform_bind, perform_get, andThen_ok, hmodel, perform_pure]
  have hsuspended (saved : Bool) : perform (judgeSuspended r model saved) s = (.ok answer, s₁) := by
    rw [judgeSuspended_eq, perform_bind, h, andThen_ok, takeUp, perform_pure]
  rw [judgeWorkplan, during, perform_tryCatch, perform_bind, perform_guardingSearch_ok _ _ hready, andThen_ok,
    searchSetting, bind_assoc, perform_bind, perform_get, andThen_ok, pure_bind, perform_bind,
    perform_guardingSearch_ok _ _ (hsuspended _), andThen_ok, perform_pure, orElse_ok]

/-- Where each failure leads to another one, what succeeds has not failed. -/
theorem perform_of_tryCatch {α : Type} {act : Action α} {f : Failure → Action α} {a : α}
    (hf : ∀ e t, ∃ e' t', perform (f e) t = (.error e', t')) (h : perform (tryCatch act f) s = (.ok a, s₁)) :
    perform act s = (.ok a, s₁) := by
  rw [perform_tryCatch] at h
  rcases hact : perform act s with ⟨e | b, s₂⟩
  · obtain ⟨e', t', hfails⟩ := hf e s₂
    rw [hact, orElse_error, hfails] at h
    cases h
  · rwa [hact] at h

theorem perform_of_guardingSearch {α : Type} {act : Action α} {a : α} {disable saved : Bool}
    (h : perform (guardingSearch disable saved act) s = (.ok a, s₁)) : perform act s = (.ok a, s₁) := by
  refine perform_of_tryCatch (fun e t => ?_) h
  rw [perform_bind]
  rcases perform (restoreSearch disable saved) t with ⟨e' | ⟨⟩, t'⟩
  · exact ⟨e', t', rfl⟩
  · exact ⟨e, t', rfl⟩

theorem exists_of_judgeWorkplan {answer : Datum} (h : perform (judgeWorkplan r) s = (.ok answer, s₁)) :
    ∃ model found s₂, s.settings.model = some model ∧ perform (examine r) s = (.ok found, s₂) := by
  have hrun := perform_of_tryCatch (fun _ _ => ⟨_, _, rfl⟩) h
  obtain ⟨model, s₂, hguard, hrest⟩ := exists_of_perform_bind hrun
  have hready := perform_of_guardingSearch hguard
  rcases perform_theModel s with ⟨model', hmodel, hrun'⟩ | ⟨-, e, hfails⟩
  · rw [hrun'] at hready
    cases hready
    obtain ⟨saved, s₃, hsaved, hjudge⟩ := exists_of_perform_bind hrest
    cases hsaved
    obtain ⟨answer', s₄, hsuspended, -⟩ := exists_of_perform_bind hjudge
    have hexamine := perform_of_guardingSearch hsuspended
    rw [judgeSuspended_eq] at hexamine
    obtain ⟨found, s₅, hfound, -⟩ := exists_of_perform_bind hexamine
    exact ⟨model, found, s₅, hmodel, hfound⟩
  · rw [hfails] at hready
    cases hready

/-- A request stops only if its examination finds nothing to judge. -/
theorem Stops.exists_examine (h : Stops r s) :
    ∃ model answer s₁, s.settings.model = some model ∧ perform (examine r) s = (.ok (.error answer), s₁) := by
  obtain ⟨⟨a, hanswer⟩, hposted⟩ := h
  obtain ⟨model, found, s₁, hmodel, hexamine⟩ := exists_of_judgeWorkplan (Prod.ext hanswer rfl)
  cases found with
  | error answer => exact ⟨model, answer, s₁, hmodel, hexamine⟩
  | ok c =>
    -- what has something to judge announces it
    rw [posted_of_findsCase ⟨hmodel, hexamine⟩] at hposted
    simp at hposted

/-- An examination whose command prints nothing finds nothing to judge, and does nothing more. -/
theorem perform_examine_of_silent {a : Approach} {output : String} {rules : List Rule}
    (hpull : Issue.nonEmpty r.pullUrl = none) (happroach : perform (approach r) s = (.ok a, s₁))
    (hanswers : GitAnswers s₁.git (Judgement.diffArgs a.base r.head r.reasoning) output rules)
    (hsilent : Text.trim output = "") :
    perform (examine r) s = (.ok (.error (a.unchanged r.head)), { s₁ with
      git := rules
      trace := .command .git ((Judgement.diffArgs a.base r.head r.reasoning).map .text) :: s₁.trace }) := by
  obtain ⟨text, s₂, hdiff, hempty, hsame⟩ := Judgement.perform_diff hanswers
  rw [examine_eq hpull, perform_bind, happroach, andThen_ok, perform_bind, hdiff, andThen_ok, Approach.weigh,
    if_pos (hempty.2 hsilent), perform_pure, hsame hsilent]

/-- An examination finds nothing to judge only if its command prints nothing. -/
theorem exists_of_examine_nothing {answer : Datum} {s' : Session} (hpull : Issue.nonEmpty r.pullUrl = none)
    (h : perform (examine r) s = (.ok (.error answer), s')) :
    ∃ a s₁ output rules, perform (approach r) s = (.ok a, s₁) ∧
      GitAnswers s₁.git (Judgement.diffArgs a.base r.head r.reasoning) output rules ∧ Text.trim output = "" := by
  rw [examine_eq hpull] at h
  obtain ⟨a, s₁, happroach, hrest⟩ := exists_of_perform_bind h
  obtain ⟨text, s₂, hdiff, hweigh⟩ := exists_of_perform_bind hrest
  obtain ⟨output, rules, hanswers⟩ := Judgement.exists_answers_of_diff hdiff
  refine ⟨a, s₁, output, rules, happroach, hanswers, ?_⟩
  obtain ⟨_, _, hdiff', hempty, -⟩ := Judgement.perform_diff hanswers
  rw [hdiff, Prod.mk.injEq, Except.ok.injEq] at hdiff'
  obtain ⟨rfl, rfl⟩ := hdiff'
  rw [Approach.weigh] at hweigh
  split at hweigh
  · rename_i hnothing
    exact hempty.1 hnothing
  · -- with something to judge, the result is a case
    obtain ⟨_, _, -, hcase⟩ := exists_of_perform_bind hweigh
    cases hcase

/-- Only a request that comes as far as the command that the change is drawn from can stop. It stops exactly if the
command succeeds and prints nothing but blanks. Then the command is the last thing that is done, and the answer names the
branches that were compared. -/
theorem judgement_stops_iff_unchanged (r : JudgeRequest) (s : Session) (hpull : Issue.nonEmpty r.pullUrl = none) :
    (Stops r s → ∃ model a s₁, Approaches r s model a s₁) ∧
    ∀ model a s₁, Approaches r s model a s₁ →
      let args := Judgement.diffArgs a.base r.head r.reasoning
      (Stops r s ↔ ∃ output rules, GitAnswers s₁.git args output rules ∧ Text.trim output = "") ∧
      ∀ output rules, GitAnswers s₁.git args output rules → Text.trim output = "" →
        perform (judgeWorkplan r) s = (.ok (.text (a.unchanged r.head).json),
          { s₁ with git := rules, trace := .command .git (args.map .text) :: s₁.trace }) := by
  refine ⟨fun hstops => ?_, fun model a s₁ ⟨hmodel, happroach⟩ => ?_⟩
  · obtain ⟨model, answer, s', hmodel, hexamine⟩ := hstops.exists_examine
    obtain ⟨a, s₁, _, _, happroach, -⟩ := exists_of_examine_nothing hpull hexamine
    exact ⟨model, a, s₁, hmodel, happroach⟩
  · have hsilence := fun output rules (hanswers : GitAnswers s₁.git _ output rules) hsilent =>
      perform_examine_of_silent hpull happroach hanswers hsilent
    refine ⟨⟨fun hstops => ?_, ?_⟩, fun output rules hanswers hsilent =>
      perform_judgeWorkplan_of_nothing hmodel (hsilence output rules hanswers hsilent)⟩
    · obtain ⟨_, answer, s', -, hexamine⟩ := hstops.exists_examine
      obtain ⟨_, _, output, rules, happroach', hanswers, hsilent⟩ := exists_of_examine_nothing hpull hexamine
      rw [happroach, Prod.mk.injEq, Except.ok.injEq] at happroach'
      obtain ⟨rfl, rfl⟩ := happroach'
      exact ⟨output, rules, hanswers, hsilent⟩
    · rintro ⟨output, rules, hanswers, hsilent⟩
      have hexamine := hsilence output rules hanswers hsilent
      refine ⟨⟨a, by rw [perform_judgeWorkplan_of_nothing hmodel hexamine]⟩, posted_of_not_findsCase ?_⟩
      rintro ⟨_, c, _, -, hcase⟩
      rw [hexamine] at hcase
      cases hcase

/-- A session in which the default branch has a name of its own and the branches hold the same. -/
def unchangedSession : Session :=
  { settings := { model := some "gemini-2.5-pro" }
    git := [{ args := ["remote"], stdout := "  HEAD branch: trunk\n".toUTF8 },
      { args := ["rev-parse"], stdout := "c0ffee\n".toUTF8 }, { args := ["diff"], stdout := " \n".toUTF8 }]
    gh := [{ args := ["issue", "view"], stdout := "\x7b\"body\": \"Plan\"\x7d".toUTF8 }] }

def listedJudgement : JudgeRequest := { issue := "1", head := "topic", reasoning := "file_structure" }

/-- The answer names the default branch, and the heading of the list of files is no change. -/
theorem default_branch_unchanged :
    Stops listedJudgement unchangedSession ∧ ∃ a : Approach, a.base = "trunk" ∧
      (perform (judgeWorkplan listedJudgement) unchangedSession).1 = .ok (.text (a.unchanged "topic").json) := by
  have hbase : (perform (approach listedJudgement) unchangedSession).1.toOption.map (·.base) = some "trunk" := by
    decide +kernel
  have hprinted : ((Rule.take? ((Judgement.diffArgs "trunk" "topic" "file_structure").map .text)
      (perform (approach listedJudgement) unchangedSession).2.git).map fun x =>
        (x.1.missing, x.1.code, (Text.Utf8.decode? x.1.stdout).toOption)) = some (false, 0, some " \n") := by
    decide +kernel
  have hstops := (judgement_stops_iff_unchanged listedJudgement unchangedSession rfl).2
  rcases happroach : perform (approach listedJudgement) unchangedSession with ⟨e | a, s₁⟩
  · rw [happroach] at hbase
    cases hbase
  · rw [happroach] at hbase hprinted
    have htrunk : a.base = "trunk" := Option.some.inj hbase
    obtain ⟨⟨rule, rules⟩, htake, hrule⟩ := Option.map_eq_some_iff.1 hprinted
    simp only [Prod.mk.injEq] at hrule
    obtain ⟨hmissing, hcode, hdecode⟩ := hrule
    cases hout : Text.Utf8.decode? rule.stdout with
    | error f =>
      rw [hout] at hdecode
      cases hdecode
    | ok output =>
      rw [hout] at hdecode
      obtain rfl : output = " \n" := Option.some.inj hdecode
      have hanswers : GitAnswers s₁.git (Judgement.diffArgs a.base "topic" "file_structure") " \n" rules :=
        ⟨rule, by rw [htrunk, htake], hmissing, hcode, hout⟩
      obtain ⟨hiff, hrun⟩ := hstops _ a s₁ ⟨rfl, happroach⟩
      have hsilent : Text.trim " \n" = "" := by decide
      exact ⟨hiff.2 ⟨_, rules, hanswers, hsilent⟩, a, htrunk, by rw [hrun _ rules hanswers hsilent]; rfl⟩

end Server

end IssuePlanner
