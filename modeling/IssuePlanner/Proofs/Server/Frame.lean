import IssuePlanner.Proofs.Session.Filing
import IssuePlanner.Server.Tool

/-! What lies below the tools does nothing but talk: commands about issues, calls of models, snapshots and jobs leave
the settings, the jobs and the files of a session as they are. Calls of models and snapshots are quiet: they do not
concern issues at all. Only curation writes, and only a file (`preserves_curate`). -/

namespace IssuePlanner

open IssuePlanner.Action

/-! ### Issues -/

namespace Issue

theorem quiet_parseJson (text : String) : Quiet (parseJson text) := by
  unfold parseJson
  split
  · exact .pure _
  · exact .throw _

theorem spares_ensureLabel (label description : String) : Spares (ensureLabel label description) := by
  refine .tryCatch ?_ fun _ => (quiet_print _).spares
  refine (spares_gh ?_).bind fun _ => (quiet_parseJson _).spares.bind fun _ => .ite ((spares_gh ?_).bind fun _ => .pure _) (.pure _)
  · simp [IsSparing, issueCommand?]
  · simp [IsSparing, issueCommand?]

theorem snd_comment (channel : Channel) (issue body : String) (s : Session) :
    (perform (comment channel issue body) s).2 = (perform (answerGh channel.runner
      [.text "issue", .text "comment", .text issue, .text "--body", .text body]) s).2 := by
  cases channel with
  | program =>
    rw [comment, commentWithProgram, perform_bind, Channel.runner, ← snd_gh]
    rcases perform (gh _) s with ⟨e | a, s'⟩
    · rfl
    · rfl
  | function =>
    rw [comment, perform_bind, Channel.runner, ← snd_standIn]
    rcases perform (standIn _) s with ⟨e | a, s'⟩
    · rfl
    · rfl

def commentCommand (issue body : String) : IssueCommand := ("comment", [.text issue, .text "--body", .text body])

theorem issueCommands_comment (channel : Channel) (issue body : String) (s : Session) :
    issueCommands (perform (comment channel issue body) s).2 = issueCommands s ++ [commentCommand issue body] := by
  rw [snd_comment]
  exact issueCommands_answerGh channel.runner_ne_git rfl s

theorem comments_comment (channel : Channel) (issue body : String) : Comments (comment channel issue body) :=
  fun s => ⟨_, issueCommands_comment channel issue body s, by simp [commentCommand]⟩

theorem spares_comment (channel : Channel) (issue body : String) : Spares (comment channel issue body) := by
  intro s
  rw [snd_comment]
  exact spares_answerGh channel.runner_ne_git (by simp [IsSparing, issueCommand?]) s

theorem spares_commentWithProgram (issue body : String) : Spares (commentWithProgram issue body) :=
  spares_comment .program issue body

theorem nonEmpty_of_ne {text : String} (h : text ≠ "") : nonEmpty (some text) = some text := by
  unfold nonEmpty
  split
  · next hempty => exact absurd (Option.some.inj hempty) h
  · rfl

theorem snd_update (channel : Channel) (issue : String) {title body : Option String}
    (h : nonEmpty title ≠ none ∨ nonEmpty body ≠ none) (s : Session) :
    (perform (update channel issue title body) s).2 = (perform (answerGh channel.runner
      ([Arg.text "issue", .text "edit", .text issue]
        ++ ((nonEmpty title).map fun t => [Arg.text "--title", .text t]).getD []
        ++ ((nonEmpty body).map fun b => [Arg.text "--body-file", .file b]).getD [])) s).2 := by
  unfold update
  split
  · next htitle hbody => exact absurd h (by simp [htitle, hbody])
  · rw [← snd_issueCommand, during, perform_tryCatch, perform_bind]
    rcases perform (issueCommand channel _) s with ⟨e | a, s'⟩
    · rfl
    · rfl

theorem steady_update (channel : Channel) (issue : String) (title body : Option String) :
    Steady (update channel issue title body) := by
  unfold update
  split
  · exact .throw _
  · exact .during ((steady_issueCommand _ _).bind fun _ => .pure _) _

theorem quiet_identify (identifier : String) : Quiet (identify identifier) := by
  unfold identify
  refine .ite ?_ (.pure _)
  split
  · exact .pure _
  · exact .throw _

theorem spares_bodyFromProgram (identifier : String) : Spares (bodyFromProgram identifier) := by
  refine (quiet_identify _).spares.bind fun _ => (spares_gh (by simp [IsSparing, issueCommand?])).bind fun _ => ?_
  split
  · exact .ite (.throw _) (.throw _)
  · split
    · exact .pure _
    · exact .throw _
    · exact .throw _

theorem spares_body (channel : Channel) (identifier : String) : Spares (body channel identifier) := by
  cases channel with
  | program => exact spares_bodyFromProgram identifier
  | function => exact .map _ (spares_standIn (by simp [IsSparing, issueCommand?]))

theorem spares_pullDiff (url : String) : Spares (pullDiff url) := by
  refine .during ?_ _
  split
  · exact .throw _
  · exact spares_gh (by simp [IsSparing, issueCommand?])

theorem spares_ensureLabels (labels : List String) :
    Spares (forIn labels PUnit.unit fun l _ => do
      ensureLabel l labelDescription
      pure (ForInStep.yield PUnit.unit)) :=
  .forIn (fun _ _ => (spares_ensureLabel _ _).bind fun _ => .pure _) _ _

theorem steady_createSubissue (parent title body : String) (labels : List String) :
    Steady (createSubissue parent title body labels) := by
  refine .during ((spares_ensureLabels _).steady.bind fun _ => (steady_gh _).bind fun _ => ?_) _
  split
  · exact .throw _
  · exact (spares_commentWithProgram _ _).steady.bind fun _ => .pure _

theorem steady_create (channel : Channel) (title body : String) (labels : List String) :
    Steady (create channel title body labels) := by
  cases channel with
  | program =>
    refine (spares_ensureLabels _).steady.bind fun _ => (steady_gh _).bind fun _ => .ofExcept _
  | function =>
    refine (steady_standIn _).bind fun _ => .ofExcept _

def editCommand (channel : Channel) (issue body : String) : IssueCommand :=
  match channel with
  | .program => ("edit", [.text issue, .text "--body-file", .file body])
  | .function => ("edit", [.text issue, .text "--body", .text body])

theorem issueCommands_setWorkplan (channel : Channel) (issue : String) {workplan : String} (h : workplan ≠ "")
    (s : Session) :
    issueCommands (perform (setWorkplan channel issue workplan) s).2 =
      issueCommands s ++ [editCommand channel issue workplan] := by
  cases channel with
  | program =>
    have hbody := nonEmpty_of_ne h
    rw [setWorkplan, snd_update _ _ (.inr (by simp [hbody])), hbody]
    exact issueCommands_answerGh (by decide) rfl s
  | function =>
    rw [setWorkplan, perform_bind]
    have hcommand := issueCommands_answerGh (show Runner.function ≠ .git by decide)
      (show issueCommand? [.text "issue", .text "edit", .text issue, .text "--body", .text workplan] =
        some (editCommand .function issue workplan) from rfl) s
    rw [← snd_standIn] at hcommand
    rcases hrun : perform (standIn [.text "issue", .text "edit", .text issue, .text "--body", .text workplan]) s with
      ⟨e | a, s'⟩
    · rw [hrun] at hcommand
      exact hcommand
    · rw [hrun] at hcommand
      exact hcommand

theorem steady_setWorkplan (channel : Channel) (issue workplan : String) :
    Steady (setWorkplan channel issue workplan) := by
  cases channel with
  | program => exact steady_update _ _ _ _
  | function => exact (steady_standIn _).bind fun _ => .pure _

theorem steady_createJudgement (channel : Channel) (parent title content : String) :
    Steady (createJudgement channel parent title content) := by
  cases channel with
  | program => exact steady_createSubissue _ _ _ _
  | function => exact (steady_create _ _ _ _).bind fun _ => .pure _

theorem quiet_firstExisting (branches : List String) : Quiet (firstExisting branches) := by
  induction branches with
  | nil => exact .pure _
  | cons b bs ih =>
    refine .bind (.tryCatch ((quiet_git _).bind fun _ => .pure _) fun _ => .pure _) fun _ => ?_
    exact .ite (.pure _) ih

theorem quiet_defaultBranch : Quiet defaultBranch := by
  refine .bind (.tryCatch ((quiet_git _).bind fun _ => .pure _) fun _ => .pure _) fun _ => ?_
  split
  · exact .pure _
  · exact (quiet_firstExisting _).bind fun _ => .pure _

end Issue

/-! ### Models -/

namespace Model

variable {α : Type}

theorem mute_theManager : Mute theManager := .bind .get fun _ => .pure _

/-- A new manager with the same provision changes nothing that stands. -/
theorem mute_setManager {s : Session} {m : Manager} (h : m.provision = (s.manager.getD {}).provision) :
    (bearing { s with manager := some m }, s.git) = (bearing s, s.git) := by
  have hstanding : standing { s with manager := some m } = standing s := by
    simp only [standing, Option.getD_some, h]
  rw [bearing, hstanding]
  rfl

theorem mute_changeManager {f : Manager → Manager} (h : ∀ m, (f m).provision = m.provision) : Mute (changeManager f) :=
  fun _ => mute_setManager (h _)

theorem mute_setUsage (u : Option Usage) : Mute (setUsage u) := mute_changeManager fun _ => rfl

theorem mute_counting {f : Tokens.Counter → Except Failure (α × Tokens.Counter)} (h : Tokens.Counter.OnlyCounts f) :
    Mute (counting f) := by
  intro s
  simp only [counting, theManager, perform_bind, perform_get, andThen_ok, perform_pure, perform_ofExcept]
  cases hf : f (s.manager.getD {}).counter with
  | error e => rfl
  | ok p => exact mute_setManager (Tokens.Counter.OnlyCounts.provision h hf)

theorem mute_send (provider : Provider) (params : List (String × Datum)) : Mute (send provider params) := by
  refine (mute_record rfl).bind fun _ s => ?_
  rw [perform_bind, perform_get, andThen_ok]
  cases s.replies with
  | nil => rfl
  | cons reply rest => cases reply <;> rfl

theorem mute_reportingFailure {act : Action α} (h : Mute act) (provider : Provider) :
    Mute (reportingFailure provider act) :=
  h.tryCatch fun _ => (mute_record rfl).bind fun _ => .throw _

theorem mute_exchangeOpenai (r : Request) : Mute (exchangeOpenai r) := by
  refine (mute_send _ _).bind fun _ => .bind (.ofExcept _) fun _ => ?_
  dsimp only
  split
  · exact (mute_setUsage _).bind fun _ => .ite (.ofExcept _) (.pure _)
  · exact .ite (.ofExcept _) (.pure _)

theorem mute_exchangeGemini (r : Request) : Mute (exchangeGemini r) := by
  refine (mute_send _ _).bind fun _ => ?_
  dsimp only
  split
  · refine (mute_setUsage _).bind fun _ => .bind (mute_changeManager fun _ => rfl) fun _ => ?_
    exact .ite (.ofExcept _) (.pure _)
  · exact .bind (mute_changeManager fun _ => rfl) fun _ => .ite (.ofExcept _) (.pure _)

theorem mute_attemptOpenai (r : Request) : Mute (attemptOpenai r) := by
  refine mute_theManager.bind fun _ => .ite (.throw_bind _ _) (.ite_bind (mute_record rfl) fun _ => ?_)
  exact mute_reportingFailure (mute_exchangeOpenai r) .openai

theorem mute_attemptGemini (r : Request) : Mute (attemptGemini r) := by
  refine mute_theManager.bind fun _ => .ite (.throw_bind _ _) (.bind .get fun _ => ?_)
  exact .ite (.throw_bind _ _) (mute_reportingFailure (mute_exchangeGemini r) .gemini)

theorem mute_attempts {act : Action α} (h : Mute act) (name : String) (left attempt : Nat) :
    Mute (Retry.attempts name act attempt left) := by
  induction left generalizing attempt with
  | zero => exact h
  | succ left ih =>
    refine h.tryCatch fun _ => .ite ?_ (.throw _)
    exact (mute_record rfl).bind fun _ => (mute_record rfl).bind fun _ => ih _

theorem mute_callOnce (r : Request) : Mute (callOnce r) :=
  .ite (mute_attempts (mute_attemptOpenai r) _ _ _)
    (.ite (mute_attempts (mute_attemptGemini r) _ _ _) (.throw _))

theorem mute_callChunks (r : Request) (n : Nat) (chunks : List String) (i : Nat) (sum : Usage) :
    Mute (callChunks r n i sum chunks) := by
  induction chunks generalizing i sum with
  | nil => exact .pure _
  | cons chunk rest ih =>
    have hrest (sum : Usage) (answer : Datum) : Mute (do
        let p ← callChunks r n (i + 1) sum rest
        return (answer :: p.1, p.2)) := (ih _ _).bind fun _ => .pure _
    refine (mute_callOnce _).bind fun _ => mute_theManager.bind fun _ => ?_
    dsimp only
    split
    · exact .ite (.bind (.ofExcept _) fun _ => hrest _ _) (hrest _ _)
    · exact hrest _ _

theorem mute_sendChunks (r : Request) (chunks : List String) : Mute (sendChunks r chunks) :=
  (mute_record rfl).bind fun _ => (mute_callChunks _ _ _ _ _).bind fun _ => (mute_setUsage _).bind fun _ => .pure _

theorem mute_callInChunks (r : Request) : Mute (callInChunks r) :=
  mute_theManager.bind fun _ => (mute_counting (Tokens.Library.onlyCounts_tokens _ _ _)).bind fun _ =>
    mute_theManager.bind fun _ => .bind
      (mute_theManager.bind fun _ => mute_counting (Tokens.Counter.onlyCounts_split _ _ _ _)) fun _ => mute_sendChunks _ _

theorem mute_call (r : Request) : Mute (call r) :=
  mute_theManager.bind fun _ => (mute_counting (Tokens.Library.onlyCounts_fits _ _ _ _)).bind fun _ =>
    .ite (mute_callOnce r) (mute_callInChunks r)

theorem mute_reportedUsage : Mute reportedUsage := by
  refine mute_theManager.bind fun _ => ?_
  split
  · exact .pure _
  · exact .pure _

theorem mute_callWithUsage (r : Request) : Mute (callWithUsage r) :=
  (mute_setUsage _).bind fun _ => (mute_call r).bind fun _ => mute_reportedUsage.bind fun _ => .pure _

theorem mute_callWithCitations (r : Request) : Mute (callWithCitations r) := by
  refine .bind (mute_changeManager fun _ => rfl) fun _ => (mute_call r).bind fun _ => mute_reportedUsage.bind fun _ => ?_
  refine mute_theManager.bind fun _ => ?_
  dsimp only
  split
  · exact .bind (.ofExcept _) fun _ => .pure _
  · exact .pure _

end Model

/-! ### Snapshots and changes -/

namespace Snapshot

variable {report : String → Action Unit}

theorem quiet_readRules (name : String) : Quiet (readRules name) :=
  .bind .get fun _ => .ite (.map _ (.map _ (.ofExcept _))) (.pure _)

theorem quiet_consult (h : ∀ m, Quiet (report m)) (name : String) (note : List String → String) :
    Quiet (consult report name note) := by
  refine (quiet_readRules _).bind fun _ => ?_
  dsimp only
  split
  · exact (h _).bind fun _ => .pure _
  · exact .pure _

theorem quiet_choose (h : ∀ m, Quiet (report m)) : Quiet (choose report) :=
  (quiet_consult h _ _).bind fun _ => (quiet_git _).bind fun _ => (quiet_git _).bind fun _ =>
    (quiet_consult h _ _).bind fun _ => (quiet_consult h _ _).bind fun _ => .bind (.forM fun m _ => h m) fun _ => .pure _

theorem quiet_take (h : ∀ m, Quiet (report m)) (justPaths : Bool) : Quiet (take report justPaths) := by
  refine (h _).bind fun _ => (quiet_choose h).bind fun _ => .ite (.pure _) (.bind .get fun _ => ?_)
  exact .ite_bind (h _) fun _ => (h _).bind fun _ => .pure _

theorem quiet_detail (h : ∀ m, Quiet (report m)) (mode : String) : Quiet (detail report mode) := by
  refine (quiet_take h _).bind fun _ => ?_
  split
  · exact .bind (.bind .get fun _ => .bind (.ofExcept _) fun _ => .bind (.ofExcept _) fun _ => .pure _) fun _ => .pure _
  · exact .pure _
  · exact .pure _
  · exact .pure _

theorem quiet_context (h : ∀ m, Quiet (report m)) (mode : String) (limit : Option Int) (model : Option String) :
    Quiet (context report mode limit model) := by
  refine (quiet_detail h mode).bind fun _ => ?_
  split
  · exact .ite (.bind (.forM fun m _ => h m) fun _ => .pure _) (.pure _)
  · exact .pure _

end Snapshot

namespace Outline

theorem quiet_textAt (commit path : String) : Quiet (textAt commit path) :=
  (quiet_git _).tryCatch fun _ => .pure _

theorem quiet_fileReports (base head : String) (paths : List String) : Quiet (fileReports base head paths) := by
  induction paths with
  | nil => exact .pure _
  | cons p ps ih =>
    unfold fileReports
    split
    · exact ih
    · exact (quiet_textAt _ _).bind fun _ => (quiet_textAt _ _).bind fun _ => .bind .get fun _ =>
        ih.bind fun _ => .pure _

end Outline

theorem Judgement.quiet_diff (base head mode : String) : Quiet (Judgement.diff base head mode) := by
  refine .during (.ite ((quiet_git _).bind fun _ => .pure _) (.ite ((quiet_git _).bind fun _ => ?_) (quiet_git _))) _
  exact .ite (.pure _) ((Outline.quiet_fileReports _ _ _).bind fun _ => .pure _)

/-! ### Jobs -/

theorem Action.Preserves.outcome {α γ : Type} {view : Session → γ} {act : Action α} (h : Preserves view act) :
    Preserves view (Generation.outcome act) :=
  .tryCatch (.map _ h) fun _ => .pure _

namespace Generation

theorem perform_outcome {α : Type} (act : Action α) (s : Session) :
    perform (outcome act) s = (.ok (perform act s).1, (perform act s).2) := by
  rw [outcome, perform_tryCatch, perform_map]
  rcases perform act s with ⟨e | a, s'⟩
  · rfl
  · rfl

theorem quiet_code (mode model : String) (setAside : Int) : Quiet (code mode model setAside) :=
  Snapshot.quiet_context quiet_later _ _ _

theorem quiet_ask (status : String) (r : Model.Request) : Quiet (ask status r) := by
  have hrecord (content : Datum) (a : Model.Answer) : Quiet (do
      return (content, ← ofExcept (completionOf (← get).validator r.model status a))) :=
    .bind .get fun _ => .bind (.ofExcept _) fun _ => .pure _
  refine .ite ((Model.mute_callWithUsage r).quiet.bind fun a => hrecord _ a) ?_
  exact (Model.mute_callWithCitations r).quiet.bind fun a => .bind (.ofExcept _) fun content => hrecord content a

theorem quiet_timed (origin : Option Origin) (c : Metadata.Completion) : Quiet (timed origin c) := by
  unfold timed
  split
  · exact .pure _
  · exact quiet_now.bind fun _ => .ite (.throw_bind _ _) (quiet_now.bind fun _ => .pure _)

theorem quiet_finished (origin : Option Origin) (prompt : String) (c : Metadata.Completion) :
    Quiet (finished origin prompt c) :=
  (quiet_timed _ _).bind fun _ => .bind (.ofExcept _) fun _ => .pure _

theorem sets_reportFailure (channel : Channel) (issue what mark : String) (e : Failure) :
    Sets issueCommands (· ++ [Issue.commentCommand issue (mark ++ ("\n\n" ++ e.message))])
      (reportFailure channel issue what mark e) := by
  intro s
  obtain ⟨u, s₁, hlog, hbearing⟩ := logless_bearing.sets_log "error" (what ++ ": " ++ e.message) s
  have hcommands : issueCommands s₁ = issueCommands s := congrArg Bearing.commands hbearing
  have hcomment := Issue.issueCommands_comment channel issue (mark ++ ("\n\n" ++ e.message)) s₁
  rw [hcommands] at hcomment
  rw [reportFailure, perform_bind, hlog, andThen_ok, perform_tryCatch, String.append_assoc]
  rcases hrun : perform (Issue.comment channel issue (mark ++ ("\n\n" ++ e.message))) s₁ with ⟨f | v, s₂⟩
  · rw [hrun] at hcomment
    obtain ⟨w, s₃, hlog', hbearing'⟩ := logless_bearing.sets_log "error" ("Failed to add error comment to issue: " ++ e.message) s₂
    exact ⟨w, s₃, hlog', (congrArg Bearing.commands hbearing').trans hcomment⟩
  · rw [hrun] at hcomment
    exact ⟨v, s₂, rfl, hcomment⟩

theorem spares_reportFailure (channel : Channel) (issue what comment : String) (e : Failure) :
    Spares (reportFailure channel issue what comment e) :=
  (quiet_log _ _).spares.bind fun _ => (Issue.spares_comment _ _ _).tryCatch fun _ => (quiet_log _ _).spares

theorem quiet_flush : Quiet flush :=
  .bind .get fun _ => .bind (.modify fun _ => rfl) fun _ => .forM fun _ _ => quiet_record rfl

end Generation

namespace Workplan

open Generation

theorem quiet_searchTools (t : Task) : Quiet (searchTools t) := by
  refine .ite (.pure _) ((quiet_info _).bind fun _ => .bind .get fun _ => ?_)
  exact .ite_bind (quiet_info _) fun _ => .pure _

theorem steady_store (channel : Channel) (t : Task) (content : Datum) (c : Metadata.Completion) :
    Steady (store channel t content c) :=
  (quiet_finished _ _ _).steady.bind fun _ => (Issue.steady_setWorkplan _ _ _).bind fun _ =>
    (quiet_info _).steady.bind fun _ => .ite (Issue.spares_comment _ _ _).steady (.pure _)

theorem spares_logged (level message : String) (channel : Channel) (issue body : String) :
    Spares (do log level message; Issue.comment channel issue body) :=
  (quiet_log _ _).spares.bind fun _ => Issue.spares_comment _ _ _

theorem steady_publish (channel : Channel) (t : Task) : Steady (publish channel t) := by
  refine .bind .get fun _ => .ite (spares_logged _ _ _ _ _).steady ?_
  refine .ite_bind (Issue.spares_comment _ _ _).steady fun _ => ?_
  dsimp only
  refine (quiet_searchTools t).steady.bind fun _ => (quiet_ask _ _).steady.outcome.bind fun _ => ?_
  split
  · exact (spares_logged _ _ _ _ _).steady
  · exact .ite (steady_store _ _ _ _) (spares_logged _ _ _ _ _).steady

theorem steady_draft (channel : Channel) (o : DraftOrder) : Steady (draft channel o) :=
  .tryCatch ((quiet_code _ _ _).steady.bind fun _ => steady_publish _ _) fun _ => (spares_reportFailure _ _ _ _ _).steady

theorem steady_revise (channel : Channel) (o : RevisionOrder) : Steady (revise channel o) :=
  .tryCatch ((quiet_code _ _ _).steady.bind fun _ => .bind (.ofExcept _) fun _ => steady_publish _ _)
    fun _ => (spares_reportFailure _ _ _ _ _).steady

end Workplan

namespace Judgement

open Generation

theorem quiet_shownCode (o : JudgementOrder) : Quiet (shownCode o) := .ite (quiet_code _ _ _) (.pure _)

theorem quiet_searchSettings (o : JudgementOrder) : Quiet (searchSettings o) := by
  refine .ite (.pure _) ((quiet_info _).bind fun _ => .bind .get fun _ => ?_)
  refine .ite ((quiet_log _ _).bind fun _ => .pure _) ?_
  split
  · exact .pure _
  · exact (quiet_info _).bind fun _ => .pure _

theorem steady_store (channel : Channel) (o : JudgementOrder) (content : Datum) : Steady (store channel o content) := by
  unfold store
  dsimp only
  split
  · exact (Issue.steady_update _ _ _ _).bind fun _ => (quiet_git _).steady.bind fun _ => .pure _
  · exact Issue.steady_createJudgement _ _ _ _

theorem spares_comment (channel : Channel) (o : JudgementOrder) (prompt url : String) (c : Metadata.Completion) :
    Spares (comment channel o prompt url c) := by
  have hcompletion : Spares (if o.origin.isSome then do
      let _ ← now
      let issue := (JudgementOrder.target o).getD ((Issue.numberIn? url).getD o.parent)
      Issue.comment channel issue (Comment.completion c)
    else pure ()) := .ite (quiet_now.spares.bind fun _ => Issue.spares_comment _ _ _) (.pure _)
  refine .ite ?_ hcompletion
  split
  · exact (Issue.spares_comment _ _ _).bind fun _ => hcompletion
  · exact hcompletion

theorem steady_judge (channel : Channel) (o : JudgementOrder) : Steady (judge channel o) := by
  refine .tryCatch ?_ fun _ => (spares_reportFailure _ _ _ _ _).steady.bind fun _ => .throw _
  refine (quiet_shownCode o).steady.bind fun _ => .bind .get fun _ => .ite (.throw_bind _ _) ?_
  refine (quiet_searchSettings o).steady.bind fun _ => (quiet_ask _ _).steady.bind fun _ => .ite (.throw_bind _ _) ?_
  exact (quiet_finished _ _ _).steady.bind fun _ => (steady_store _ _ _).bind fun _ => (quiet_info _).steady.bind
    fun _ => (spares_comment _ _ _ _ _).steady

end Judgement

theorem Job.steady_run (job : Job) : Steady job.run := by
  cases job with
  | draft o channel => exact Workplan.steady_draft channel o
  | revise o channel => exact Workplan.steady_revise channel o
  | judge o channel => exact Judgement.steady_judge channel o

/-! ### Curation -/

namespace Curation

theorem mute_overview (mode : String) (paths : List String) : Mute (overview mode paths) := by
  unfold overview
  split
  · exact (mute_info _).bind fun _ => .throw _
  · exact (mute_info _).bind fun _ => .bind .get fun _ => .bind (.ofExcept _) fun _ => .pure _
  · exact (mute_info _).bind fun _ => .pure _

theorem mute_chooseOrAll (o : Order) (shown : String) (dirs : List String) :
    Mute (chooseOrAll o shown dirs) := by
  have hchoose : Mute (choose o shown dirs) := by
    refine .tryCatch ?_ fun _ => (mute_log _ _).bind fun _ => .pure _
    exact (Model.mute_call _).bind fun _ => (mute_info _).bind fun _ => .pure _
  refine hchoose.bind fun _ => ?_
  split
  · exact (mute_log _ _).bind fun _ => .pure _
  · exact .pure _

theorem sets_survey {γ : Type} {view : Session → γ} (h : Logless view) (o : Order) : Sets view id (survey o) := by
  have hlast (message : String) (p : List String × List String) :
      Sets view id (info message >>= fun _ => (pure p : Action (List String × List String))) := (h.sets_info _).bind_pure _
  refine (h.sets_info _).bind fun _ => Sets.get.bind fun _ => (h.sets_info _).bind fun _ => ?_
  exact (h.sets_info _).bind fun _ => .ite ((h.sets_info _).bind fun _ => hlast _ _) (hlast _ _)

theorem mute_survey (o : Order) : Mute (survey o) :=
  (sets_survey (fun s _ _ => mute_record rfl s) o).preserves

/-- What stands in a session apart from its files. -/
def estate (s : Session) : Standing := { standing s with files := {} }

theorem preserves_estate {α : Type} {act : Action α} (h : Mute act) : Preserves estate act :=
  h.steady.comp fun st => { st with files := {} }

theorem preserves_writeFile (path content : String) : Preserves estate (writeFile path content) := by
  intro s
  simp only [writeFile, perform_bind, perform_get, andThen_ok]
  split <;> rfl

/-- Curation that does not touch the search switch itself changes files at most. -/
theorem estate_curate {o : Order} (h : o.disableSearch = false) : Preserves estate (curate o) := by
  refine .tryCatch ?_ fun _ => (preserves_estate (mute_log _ _)).bind fun _ => .throw _
  refine .bind .get fun _ => .bind (.bind .get fun _ => .pure _) fun _ => ?_
  rw [h, Bool.false_and]
  refine (preserves_estate (mute_survey o)).bind fun _ => .bind (.bind .get fun _ => .pure _) fun _ => ?_
  refine (preserves_estate (mute_overview _ _)).bind fun _ => (preserves_estate (mute_info _)).bind fun _ => ?_
  refine .bind .get fun _ => .ite (.throw_bind _ _) ((preserves_estate (mute_info _)).bind fun _ => ?_)
  refine (preserves_estate (mute_chooseOrAll _ _ _)).bind fun _ => (preserves_estate (mute_info _)).bind fun _ => ?_
  refine (preserves_writeFile _ _).bind fun _ => .bind .get fun _ => (preserves_estate (mute_info _)).bind fun _ => ?_
  exact (preserves_estate (mute_info _)).bind fun _ => .pure _

theorem preserves_curate {o : Order} (h : o.disableSearch = false) : Preserves desk (curate o) :=
  (estate_curate h).comp fun st => (st.settings, st.jobs)

end Curation

/-! ### Parts of the tools -/

namespace Server

/-- A view does not show the search switch. -/
def Switchless {γ : Type} (view : Session → γ) : Prop :=
  ∀ s on, view { s with settings := { s.settings with searchGrounding := some on } } = view s

namespace Switchless

variable {α γ : Type} {view : Session → γ}

theorem preserves_suspendSearch (h : Switchless view) (hinfo : ∀ message, Preserves view (info message))
    (disable : Bool) : Preserves view (suspendSearch disable) := by
  have hset : Preserves view (setSearch false) := .modify fun s => h s false
  exact .bind (.bind .get fun _ => .pure _) fun _ => .ite_bind (hset.bind fun _ => hinfo _) fun _ => .pure _

theorem sets_suspendSearch (h : Switchless view) (hlog : Logless view) (disable : Bool) :
    Sets view id (suspendSearch disable) := by
  have hset : Sets view id (setSearch false) := fun s => ⟨(), _, rfl, h s false⟩
  exact (Sets.get.bind_pure _).bind fun _ => .ite (hset.bind fun _ => (hlog.sets_info _).bind_pure _) (.pure _)

theorem sets_restoreSearch (h : Switchless view) (disable saved : Bool) : Sets view id (restoreSearch disable saved) := by
  intro s
  cases disable with
  | false => exact ⟨(), s, rfl, rfl⟩
  | true => exact ⟨(), _, rfl, h s saved⟩

theorem view_guardingSearch (h : Switchless view) (disable saved : Bool) (act : Action α) (s : Session) :
    view (perform (guardingSearch disable saved act) s).2 = view (perform act s).2 :=
  Preserves.view_tryCatch (fun _ => (h.sets_restoreSearch disable saved).preserves.bind fun _ => .throw _) act s

theorem preserves_guardingSearch (h : Switchless view) (disable saved : Bool) {act : Action α}
    (hact : Preserves view act) : Preserves view (guardingSearch disable saved act) :=
  fun s => (h.view_guardingSearch disable saved act s).trans (hact s)

end Switchless

theorem quiet_theModel : Quiet theModel := by
  refine .bind .get fun _ => ?_
  split
  · exact .pure _
  · exact .throw _

/-- What stands in a session apart from its files and the search switch. -/
def ground (s : Session) : Standing :=
  { Curation.estate s with settings := { s.settings with searchGrounding := none } }

theorem switchless_ground : Switchless ground := fun _ _ => rfl

theorem preserves_curateContext (r : CurateRequest) : Preserves ground (curateContext r) := by
  have hestate {α : Type} {act : Action α} (h : Preserves Curation.estate act) : Preserves ground act :=
    h.comp fun st => { st with settings := { st.settings with searchGrounding := none } }
  have hsteady {α : Type} {act : Action α} (h : Steady act) : Preserves ground act :=
    hestate (h.comp fun st => { st with files := {} })
  have hready : Preserves ground readyModel :=
    (hsteady quiet_theModel.steady).bind fun _ => .bind .get fun _ => .ite (.throw_bind _ _) (.pure _)
  have hsuspend := switchless_ground.preserves_suspendSearch (fun _ => hsteady (quiet_info _).steady) r.disableSearch
  refine .during ((switchless_ground.preserves_guardingSearch _ _ hready).bind fun _ => ?_) _
  refine .bind (.bind .get fun _ => .pure _) fun saved => ?_
  refine .bind (switchless_ground.preserves_guardingSearch _ _ (hsuspend.bind fun _ => ?_)) fun _ => .pure _
  refine (hestate (Curation.estate_curate rfl)).bind fun _ => ?_
  exact (switchless_ground.sets_restoreSearch _ _).preserves.bind fun _ => .pure _

theorem quiet_submissionComment (status reasoning : String) (urls : List String) :
    Quiet (submissionComment status reasoning urls) :=
  quiet_theModel.bind fun _ => .bind .get fun _ => quiet_now.bind fun _ => .pure _

theorem quiet_originOf (searchGrounding : Bool) (urls : List String) : Quiet (originOf searchGrounding urls) :=
  quiet_now.bind fun _ => .pure _

theorem quiet_baseOf (r : JudgeRequest) : Quiet (baseOf r) := by
  refine .ite (.pure _) (Issue.quiet_defaultBranch.bind fun _ => ?_)
  exact .ite_bind (quiet_info _) fun _ => .pure _

theorem spares_refusePull (r : JudgeRequest) : Spares (refusePull r) :=
  .ite ((Issue.spares_pullDiff _).bind fun _ => .throw _) (.pure _)

theorem spares_changeOf (r : JudgeRequest) (base : String) : Spares (changeOf r base) := by
  unfold changeOf
  split
  · exact (Issue.spares_pullDiff _).bind fun _ => .pure _
  · refine (quiet_git _).spares.bind fun _ => (quiet_git _).spares.bind fun _ => ?_
    exact (Judgement.quiet_diff _ _ _).spares.bind fun _ => .pure _

end Server

end IssuePlanner
