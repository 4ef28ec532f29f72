import IssuePlanner.Proofs.Generation.Asking

/-! What the judgement of a change files, once there is an issue for it. The job creates no issue. It edits that one issue
once, with what the model wrote, or it edits nothing, tells the issue of the workplan and fails. It edits exactly if the
model gave a text and what is recorded of the answer could be completed (`gives_judge`). -/

namespace IssuePlanner.Judgement

open IssuePlanner.Action Generation

variable {channel : Channel} {o : JudgementOrder} {n : String} {s s₀ : Session} {cs : List IssueCommand}

/-! ### Stages -/

/-- What is recorded of a judgement that was written. -/
def successStatus : String := "✅ Judgement generated successfully"

def requestOf (o : JudgementOrder) : Action Model.Request := do
  let prompt := prompt o.workplan o.diff (← shownCode o) o.baseRef o.headRef
  if (← get).manager.isNone then
    throw (.shape (.missingAttribute "NoneType" "_is_openai_model"))
  return { prompt, model := o.model, temperature := 0.0, generation := ← searchSettings o }

def conclude (channel : Channel) (o : JudgementOrder) (prompt : String) (content : Datum) (c : Metadata.Completion) :
    Action Unit := do
  if !content.holds then throw (.emptyJudgement (providerOf o.model))
  let c ← finished o.origin prompt c
  let url ← store channel o content
  info ("Successfully created judgement sub-issue: " ++ url)
  comment channel o prompt url c

theorem judgeOrFail_eq (channel : Channel) (o : JudgementOrder) :
    judgeOrFail channel o = (do
      let r ← requestOf o
      let answer ← ask successStatus r
      conclude channel o r.prompt answer.1 answer.2) := by
  rw [judgeOrFail, requestOf, bind_assoc]
  refine bind_congr fun shown => ?_
  rw [bind_assoc]
  refine bind_congr fun t => ?_
  split
  · rfl
  · rw [bind_assoc]
    refine bind_congr fun generation => ?_
    rw [pure_bind]
    rfl

theorem quiet_requestOf (o : JudgementOrder) : Quiet (requestOf o) :=
  (quiet_shownCode o).bind fun _ => .bind .get fun _ => .ite (.throw_bind _ _)
    ((quiet_searchSettings o).bind fun _ => .pure _)

theorem model_of_perform_requestOf {r : Model.Request} {s' : Session} (h : perform (requestOf o) s = (.ok r, s')) :
    r.model = o.model := by
  obtain ⟨shown, s₁, -, h⟩ := exists_of_perform_bind h
  obtain ⟨t, s₂, -, h⟩ := exists_of_perform_bind h
  split at h
  · cases h
  · obtain ⟨generation, s₃, -, h⟩ := exists_of_perform_bind h
    rw [perform_pure, Prod.mk.injEq, Except.ok.injEq] at h
    rw [← h.1]

/-- The model gave an answer to the request of an order, and left a session. -/
def Answers (o : JudgementOrder) (s : Session) (r : Model.Request) (a : Model.Answer) (s' : Session) : Prop :=
  ∃ s₁, perform (requestOf o) s = (.ok r, s₁) ∧ perform (answerOf r) s₁ = (.ok a, s')

/-- The answer is not empty, and this is its content with links to its sources. -/
def Obtains (o : JudgementOrder) (s : Session) (r : Model.Request) (a : Model.Answer) (content : Datum) (s' : Session) :
    Prop :=
  Answers o s r a s' ∧ a.content.holds = true ∧ cited a = .ok content

/-- A text was obtained, and what is recorded of the answer was accepted and could be completed. -/
def Completes (o : JudgementOrder) (s : Session) : Prop :=
  ∃ r a content s', Obtains o s r a content s' ∧ ∃ c, completionOf s.validator o.model successStatus a = .ok c ∧
    ∃ c', (perform (finished o.origin r.prompt c) s').1 = .ok c'

/-- The counts that came with the answer are refused. -/
def Refused (o : JudgementOrder) (s : Session) : Prop := ∃ r a s', Answers o s r a s' ∧ ¬ Acceptable s.validator a

theorem Answers.unique {r r' : Model.Request} {a a' : Model.Answer} {s₁ s₁' : Session} (h : Answers o s r a s₁)
    (h' : Answers o s r' a' s₁') : a = a' := by
  obtain ⟨s₂, hrequest, hanswer⟩ := h
  obtain ⟨s₂', hrequest', hanswer'⟩ := h'
  rw [hrequest] at hrequest'
  cases hrequest'
  rw [hanswer] at hanswer'
  cases hanswer'
  rfl

theorem Refused.not_completes (h : Refused o s) : ¬ Completes o s := by
  obtain ⟨r, a, s', hanswers, hrefused⟩ := h
  rintro ⟨r', a', content, s₁, ⟨hanswers', -, -⟩, c, hc, -⟩
  rw [hanswers.unique hanswers'] at hrefused
  exact hrefused (exists_completionOf_iff.1 ⟨c, hc⟩)

/-! ### Commands of a job -/

def editCommand (o : JudgementOrder) (n : String) (content : Datum) : IssueCommand :=
  ("edit", [.text n, .text "--title", .text (title o.parent o.baseRef o.headRef), .text "--body-file",
    .file (issueBody o content)])

/-- The commands put what the model wrote into an issue. What follows are comments. -/
def Stores (o : JudgementOrder) (n : String) (s : Session) (cs : List IssueCommand) : Prop :=
  ∃ r a content s' after, Obtains o s r a content s' ∧ cs = editCommand o n content :: after ∧
    ∀ c ∈ after, c.1 = "comment"

/-- The only command tells an issue of a failure. -/
def Reports (issue : String) (cs : List IssueCommand) : Prop :=
  ∃ detail, cs = [Issue.commentCommand issue ("❌ **Error generating judgement**" ++ detail)]

theorem Stores.append {new : List IssueCommand} (h : Stores o n s cs) (hnew : ∀ c ∈ new, c.1 = "comment") :
    Stores o n s (cs ++ new) := by
  obtain ⟨r, a, content, s', after, hobtains, rfl, hafter⟩ := h
  refine ⟨r, a, content, s', after ++ new, hobtains, rfl, fun c hc => ?_⟩
  exact (List.mem_append.1 hc).elim (hafter c) (hnew c)

theorem title_ne_empty (issue base head : String) : title issue base head ≠ "" := by
  unfold title
  intro h
  simp only [String.append_eq_empty_iff] at h
  exact absurd h.1.1.1.1.1 (by decide)

theorem issueBody_ne_empty (o : JudgementOrder) (content : Datum) : issueBody o content ≠ "" := by
  unfold issueBody parentLine
  intro h
  simp only [String.append_eq_empty_iff] at h
  exact absurd h.1.1.1.1 (by decide)

theorem issueCommands_store (htarget : JudgementOrder.target o = some n) (channel : Channel) (content : Datum)
    (s : Session) :
    issueCommands (perform (store channel o content) s).2 = issueCommands s ++ [editCommand o n content] := by
  have htitle := Issue.nonEmpty_of_ne (title_ne_empty o.parent o.baseRef o.headRef)
  have hbody := Issue.nonEmpty_of_ne (issueBody_ne_empty o content)
  have hupdate : issueCommands (perform (Issue.update channel n (some (title o.parent o.baseRef o.headRef))
      (some (issueBody o content))) s).2 = issueCommands s ++ [editCommand o n content] := by
    rw [Issue.snd_update _ _ (.inl (by simp [htitle])), htitle, hbody]
    exact issueCommands_answerGh channel.runner_ne_git rfl s
  unfold store
  rw [htarget]
  refine Ends.snd (P := fun t => issueCommands t = issueCommands s ++ [editCommand o n content]) ?_
  refine (Ends.of_snd hupdate).bind fun _ t ht => ?_
  exact .bind_preserves (quiet_git _).commands (fun _ ht' => ht'.trans ht) fun _ _ ht' => ht'.trans ht

theorem comments_comment (channel : Channel) (o : JudgementOrder) (prompt url : String) (c : Metadata.Completion) :
    Comments (comment channel o prompt url c) := by
  have hcompletion : Comments (if o.origin.isSome then do
      let _ ← now
      let issue := (JudgementOrder.target o).getD ((Issue.numberIn? url).getD o.parent)
      Issue.comment channel issue (Comment.completion c)
    else pure ()) := .ite (quiet_now.comments.bind fun _ => Issue.comments_comment _ _ _) (.pure _)
  refine .ite ?_ hcompletion
  split
  · exact (Issue.comments_comment _ _ _).bind fun _ => hcompletion
  · exact hcompletion

/-! ### The job -/

def Stored (o : JudgementOrder) (n : String) (s : Session) (cs : List IssueCommand) : Prop :=
  Stores o n s cs ∧ Completes o s

/-- What is left of a job that failed before it could report: the judgement is stored, or nothing was done. -/
def Unreported (o : JudgementOrder) (n : String) (s : Session) (cs : List IssueCommand) : Prop :=
  Stored o n s cs ∨ cs = [] ∧ ¬ Completes o s

theorem ends_conclude (htarget : JudgementOrder.target o = some n) {prompt : String} {content : Datum}
    {c : Metadata.Completion} (hs : issueCommands s = issueCommands s₀)
    (hobtained : content.holds = true → ∃ r a s', Obtains o s₀ r a content s')
    (hcompleted : Completes o s₀ ↔ content.holds = true ∧ ∃ c', (perform (finished o.origin prompt c) s).1 = .ok c') :
    Ends (conclude channel o prompt content c) s (Since s₀ (Stored o n s₀)) (Since s₀ (Unreported o n s₀)) := by
  unfold conclude
  by_cases hholds : content.holds = true
  · rw [hholds]
    have hquiet := ((quiet_finished o.origin prompt c).commands s).trans hs
    rcases hrun : perform (finished o.origin prompt c) s with ⟨e | c', s₁⟩
    · rw [hrun] at hquiet hcompleted
      refine .bind_of_error hrun (.of_eq hquiet (.inr ⟨rfl, fun h => ?_⟩))
      obtain ⟨-, c', hok⟩ := hcompleted.1 h
      cases hok
    · rw [hrun] at hquiet hcompleted
      obtain ⟨r, a, s', hobtains⟩ := hobtained hholds
      have hstored : Since s₀ (Stored o n s₀) (perform (store channel o content) s₁).2 :=
        ⟨[editCommand o n content], by rw [issueCommands_store htarget, hquiet],
          ⟨r, a, content, s', [], hobtains, rfl, by simp⟩, hcompleted.2 ⟨hholds, c', rfl⟩⟩
      have hfailed (t : Session) (ht : Since s₀ (Stored o n s₀) t) : Since s₀ (Unreported o n s₀) t :=
        ht.mono fun _ => .inl
      refine .bind_of_ok hrun (((Ends.of_snd hstored).mono (fun _ ht => ht) hfailed).bind fun url s₂ hs₂ => ?_)
      refine .bind_preserves (quiet_info _).commands (fun _ ht => hfailed _ (hs₂.congr ht)) fun _ s₃ hs₃ => ?_
      obtain ⟨new, hnew, hcomments⟩ := comments_comment channel o prompt url c' s₃
      exact (Ends.of_snd ((hs₂.congr hs₃).append hnew fun _ hcs => ⟨hcs.1.append hcomments, hcs.2⟩)).mono
        (fun _ ht => ht) hfailed
  · rw [Bool.not_eq_true] at hholds
    rw [hholds]
    exact .of_eq hs (.inr ⟨rfl, fun h => Bool.false_ne_true (hholds ▸ (hcompleted.1 h).1)⟩)

theorem ends_judgeOrFail (htarget : JudgementOrder.target o = some n) (channel : Channel) (s : Session) :
    Ends (judgeOrFail channel o) s (Since s (Stored o n s)) (Since s (Unreported o n s)) := by
  rw [judgeOrFail_eq]
  have hquiet := (quiet_requestOf o).commands s
  have hsteady := congrArg Standing.validator ((quiet_requestOf o).steady s)
  rcases hrequest : perform (requestOf o) s with ⟨e | r, s₁⟩
  · rw [hrequest] at hquiet
    refine .bind_of_error hrequest (.of_eq hquiet (.inr ⟨rfl, ?_⟩))
    rintro ⟨r, a, content, s', ⟨⟨s₁, hok, -⟩, -⟩, -⟩
    rw [hrequest] at hok
    cases hok
  rw [hrequest] at hquiet hsteady
  have hvalidator : s₁.validator = s.validator := hsteady
  have hmodel := model_of_perform_requestOf hrequest
  refine .bind_of_ok hrequest ?_
  have hask := ((quiet_ask successStatus r).commands s₁).trans hquiet
  -- what was completed is what the request was answered with
  have hcompletes (h : Completes o s) : ∃ content c, content.holds = true ∧
      (perform (ask successStatus r) s₁).1 = .ok (content, c) ∧
      ∃ c', (perform (finished o.origin r.prompt c) (perform (ask successStatus r) s₁).2).1 = .ok c' := by
    obtain ⟨r', a, content, s', ⟨⟨s₁', hok, hcall⟩, hholds, hcited⟩, c, hc, hfinished⟩ := h
    rw [hrequest] at hok
    cases hok
    rw [← hvalidator, ← hmodel] at hc
    rw [perform_ask, hcall, andThen_ok, perform_ofExcept]
    exact ⟨content, c, by rw [holds_cited hcited, hholds], recorded_eq_ok_iff.2 ⟨hcited, hc⟩, hfinished⟩
  rcases hanswer : perform (ask successStatus r) s₁ with ⟨e | ⟨content, c⟩, s₂⟩
  · rw [hanswer] at hask hcompletes
    refine .bind_of_error hanswer (.of_eq hask (.inr ⟨rfl, fun h => ?_⟩))
    obtain ⟨content, c, -, hok, -⟩ := hcompletes h
    cases hok
  rw [hanswer] at hask hcompletes
  obtain ⟨a, hcall, hcited, hc⟩ := exists_of_perform_ask hanswer
  rw [hvalidator, hmodel] at hc
  have hobtains (hholds : content.holds = true) : Obtains o s r a content s₂ :=
    ⟨⟨s₁, hrequest, hcall⟩, by rw [← holds_cited hcited, hholds], hcited⟩
  refine .bind_of_ok hanswer (ends_conclude htarget hask (fun hholds => ⟨r, a, s₂, hobtains hholds⟩) ⟨fun h => ?_, ?_⟩)
  · obtain ⟨content', c', hholds, hok, hfinished⟩ := hcompletes h
    cases hok
    exact ⟨hholds, hfinished⟩
  · rintro ⟨hholds, hfinished⟩
    exact ⟨r, a, content, s₂, hobtains hholds, c, hc, hfinished⟩

/-- A job that succeeds has put what the model wrote into its issue. One that fails has done so too, or the model gave
nothing complete and only the issue of the workplan was told. -/
theorem gives_judge (htarget : JudgementOrder.target o = some n) (channel : Channel) (s : Session) :
    Gives (judge channel o) s (fun _ => Since s (Stored o n s)) fun e s' =>
      (∃ cause, e = .during .judge cause) ∧
        Since s (fun cs => Stored o n s cs ∨ Reports o.parent cs ∧ ¬ Completes o s) s' := by
  refine Gives.tryCatch (ends_judgeOrFail htarget channel s) fun e t ht => ?_
  obtain ⟨u, t', hreport, hcommands⟩ :=
    sets_reportFailure channel o.parent "Error processing judgement" "❌ **Error generating judgement**" e t
  refine .bind_of_ok hreport ⟨⟨e, rfl⟩, ?_⟩
  refine Since.append ht hcommands fun cs hcs => ?_
  rcases hcs with ⟨hstores, hcompletes⟩ | ⟨rfl, hfailed⟩
  · exact .inl ⟨hstores.append (by simp [Issue.commentCommand]), hcompletes⟩
  · exact .inr ⟨⟨_, rfl⟩, hfailed⟩

/-- A job leaves every issue as it is, tells the issue of the workplan of the failure and fails. -/
def Fails (channel : Channel) (o : JudgementOrder) (s : Session) (cs : List IssueCommand) : Prop :=
  given "edit" cs = [] ∧ (∃ detail, Issue.commentCommand o.parent ("❌ **Error generating judgement**" ++ detail) ∈ cs) ∧
    ∃ e, (perform (judge channel o) s).1 = .error e ∧ e.kind = "YellhornMCPError"

/-- What a job files that was run from a session, `n` being its issue. -/
structure Settles (channel : Channel) (o : JudgementOrder) (n : String) (s : Session) (cs : List IssueCommand) : Prop where
  creations : given "create" cs = []
  edits : ∀ args ∈ given "edit" cs, args.head? = some (.text n)
  /-- What the model wrote goes into the issue, if the record of it is accepted and can be completed. -/
  stores : Completes o s → ∃ r a content s', Obtains o s r a content s' ∧ given "edit" cs = [(editCommand o n content).2]
  reports : ¬ Completes o s → Fails channel o s cs
  /-- So it goes without anything from the model, -/
  nothing : (¬ ∃ r a content s', Obtains o s r a content s') → Fails channel o s cs
  /-- and with an answer whose counts are refused. -/
  refusals : Refused o s → Fails channel o s cs

/-- What holds of a job without a complete judgement holds without any, and of one whose counts are refused. -/
theorem Settles.of_completes (hcreate : given "create" cs = [])
    (hedits : ∀ args ∈ given "edit" cs, args.head? = some (.text n))
    (hstores : Completes o s → ∃ r a content s', Obtains o s r a content s' ∧
      given "edit" cs = [(editCommand o n content).2])
    (hreports : ¬ Completes o s → Fails channel o s cs) : Settles channel o n s cs := by
  refine ⟨hcreate, hedits, hstores, hreports, fun hnone => hreports ?_, fun hrefused => hreports hrefused.not_completes⟩
  rintro ⟨r, a, content, s', hobtains, -⟩
  exact hnone ⟨r, a, content, s', hobtains⟩

theorem Stored.settles (h : Stored o n s cs) : Settles channel o n s cs := by
  obtain ⟨⟨r, a, content, s', after, hobtains, rfl, hafter⟩, hcompletes⟩ := h
  have hcreate : given "create" (editCommand o n content :: after) = [] :=
    given_of_forall_comment hafter (by decide)
  have hedit : given "edit" (editCommand o n content :: after) = [(editCommand o n content).2] :=
    congrArg (_ :: ·) (given_of_forall_comment hafter (by decide))
  refine .of_completes hcreate (fun args hargs => ?_) (fun _ => ⟨r, a, content, s', hobtains, hedit⟩)
    fun hnot => absurd hcompletes hnot
  rw [hedit, List.mem_singleton] at hargs
  rw [hargs]
  rfl

/-- Whatever the programs and models answer, a job settles its issue. -/
theorem since_judge (htarget : JudgementOrder.target o = some n) (channel : Channel) (s : Session) :
    Since s (Settles channel o n s) (perform (judge channel o) s).2 := by
  have h := gives_judge htarget channel s
  unfold Gives at h
  rcases hrun : perform (judge channel o) s with ⟨e | u, s'⟩
  · rw [hrun] at h
    obtain ⟨⟨cause, rfl⟩, hcs⟩ := h
    refine Since.mono hcs fun cs hcs => ?_
    rcases hcs with hstored | ⟨⟨detail, rfl⟩, hfailed⟩
    · exact hstored.settles
    · exact .of_completes rfl (by simp [given, Issue.commentCommand]) (fun hc => absurd hc hfailed)
        fun _ => ⟨rfl, ⟨detail, by simp⟩, .during .judge cause, by rw [hrun], rfl⟩
  · rw [hrun] at h
    exact Since.mono h fun _ hstored => hstored.settles

end IssuePlanner.Judgement
