import IssuePlanner.Proofs.Generation.Asking

/-! What the generation of a workplan files. Whatever the programs and models answer, a job comes to its end. It has
edited its issue once, with what the model wrote, or it has edited nothing and told the issue that it failed. It edits
exactly if the model gave a text and what is recorded of the answer could be completed; so an answer whose counts the
checker refuses is reported and not stored (`generation_stores_or_reports`). -/

namespace IssuePlanner.Workplan

open IssuePlanner.Action Generation

variable {channel : Channel} {t : Task} {issue : String} {s s₀ : Session} {cs : List IssueCommand}

/-! ### Commands of a job -/

/-- How the comments begin that tell an issue of a failure. -/
def failureMarks : List String :=
  ["❌ **Error generating workplan**", "❌ **Error revising workplan**", "⚠️ AI workplan enhancement failed: "]

/-- The commands edit no issue, and tell an issue of a failure. -/
def Reports (issue : String) (cs : List IssueCommand) : Prop :=
  given "edit" cs = [] ∧ ∃ mark ∈ failureMarks, ∃ detail, Issue.commentCommand issue (mark ++ detail) ∈ cs

/-- The commands edit an issue once. The new body is a title and a content, both obtained before the edit. -/
def Stores (channel : Channel) (issue : String) (Obtained : String → Datum → List IssueCommand → Prop)
    (cs : List IssueCommand) : Prop :=
  ∃ title content before after, cs = before ++ Issue.editCommand channel issue (issueBody title content) :: after ∧
    given "edit" before = [] ∧ given "edit" after = [] ∧ Obtained title content before

theorem given_edit_comment (issue body : String) : given "edit" [Issue.commentCommand issue body] = [] := rfl

theorem Reports.of_comment {mark detail : String} (hcs : given "edit" cs = []) (hmark : mark ∈ failureMarks) :
    Reports issue (cs ++ [Issue.commentCommand issue (mark ++ detail)]) :=
  ⟨by simp [hcs, given_edit_comment], mark, hmark, detail, by simp⟩

theorem Stores.append_comment {Obtained : String → Datum → List IssueCommand → Prop}
    (h : Stores channel issue Obtained cs) (body : String) :
    Stores channel issue Obtained (cs ++ [Issue.commentCommand issue body]) := by
  obtain ⟨title, content, before, after, rfl, hbefore, hafter, hobtained⟩ := h
  exact ⟨title, content, before, after ++ [Issue.commentCommand issue body], by simp, hbefore,
    by simp [hafter, given_edit_comment], hobtained⟩

theorem Stores.mono {Obtained Obtained' : String → Datum → List IssueCommand → Prop}
    (h : Stores channel issue Obtained cs) (himp : ∀ title content before, Obtained title content before →
      Obtained' title content before) : Stores channel issue Obtained' cs := by
  obtain ⟨title, content, before, after, hcs, hbefore, hafter, hobtained⟩ := h
  exact ⟨title, content, before, after, hcs, hbefore, hafter, himp _ _ _ hobtained⟩

/-! ### The stages of a publication -/

/-- What comes before the model is asked: the prompt is shown if the task wants that, and tools are looked for. -/
def prepare (channel : Channel) (t : Task) : Action (Option Datum) := do
  if t.debug then Issue.comment channel t.issue (debugComment t.prompt)
  searchTools t

/-- What is done with what the model wrote, or with the failure to get it. -/
def conclude (channel : Channel) (t : Task) : Except Failure (Datum × Metadata.Completion) → Action Unit
  | .error e => do
    log "error" ("Failed to generate workplan: " ++ e.message)
    Issue.comment channel t.issue ("❌ **Error generating workplan** – " ++ e.message)
  | .ok (content, c) =>
    if content.holds then store channel t content c
    else do
      let missing := "Received an empty response from " ++ (providerOf t.model).name ++ " API."
      log "error" ("Failed to generate workplan: " ++ missing)
      Issue.comment channel t.issue ("⚠️ AI workplan enhancement failed: " ++ missing)

def successStatus : String := "✅ Workplan generated successfully"

theorem publish_eq (channel : Channel) (t : Task) :
    publish channel t = (do
      if (← get).manager.isNone then
        log "error" "LLM Manager not initialized"
        Issue.comment channel t.issue "❌ **Error generating workplan** – LLM Manager not initialized"
      else
        let tools ← prepare channel t
        conclude channel t (← outcome (ask successStatus (request t tools)))) := by
  refine bind_congr fun s => if_congr Iff.rfl rfl ?_
  unfold prepare
  cases t.debug with
  | false => rfl
  | true => exact (bind_assoc _ _ _).symm

/-- The model gave an answer to a task, and left a session. -/
def Answers (channel : Channel) (t : Task) (s : Session) (a : Model.Answer) (s' : Session) : Prop :=
  s.manager.isSome = true ∧ ∃ tools s₁, perform (prepare channel t) s = (.ok tools, s₁) ∧
    perform (answerOf (request t tools)) s₁ = (.ok a, s')

/-- The answer is not empty, and this is its content with links to its sources. -/
def Obtains (channel : Channel) (t : Task) (s : Session) (a : Model.Answer) (content : Datum) (s' : Session) : Prop :=
  Answers channel t s a s' ∧ a.content.holds = true ∧ cited a = .ok content

/-- A text was obtained, and what is recorded of the answer was accepted and could be completed. -/
def Completes (channel : Channel) (t : Task) (s : Session) : Prop :=
  ∃ a content s', Obtains channel t s a content s' ∧ ∃ c, completionOf s.validator t.model successStatus a = .ok c ∧
    ∃ c', (perform (finished t.origin t.prompt c) s').1 = .ok c'

theorem Answers.unique {a a' : Model.Answer} {s₁ s₁' : Session} (h : Answers channel t s a s₁)
    (h' : Answers channel t s a' s₁') : a = a' := by
  obtain ⟨-, tools, s₂, htools, hanswer⟩ := h
  obtain ⟨-, tools', s₂', htools', hanswer'⟩ := h'
  rw [htools] at htools'
  cases htools'
  rw [hanswer] at hanswer'
  cases hanswer'
  rfl

/-- Nothing is completed if the counts that came with the answer are refused. -/
theorem not_completes_of_refused {a : Model.Answer} {s' : Session} (h : Answers channel t s a s')
    (hrefused : ¬ Acceptable s.validator a) : ¬ Completes channel t s := by
  rintro ⟨a', content, s₁, ⟨hanswers, -, -⟩, c, hc, -⟩
  rw [h.unique hanswers] at hrefused
  exact hrefused (exists_completionOf_iff.1 ⟨c, hc⟩)

theorem issueCommands_logged (level message : String) (channel : Channel) (issue body : String) (s : Session) :
    issueCommands (perform (do log level message; Issue.comment channel issue body) s).2 =
      issueCommands s ++ [Issue.commentCommand issue body] := by
  obtain ⟨u, s', hlog, hbearing⟩ := logless_bearing.sets_log level message s
  rw [perform_bind, hlog, andThen_ok, Issue.issueCommands_comment, show issueCommands s' = issueCommands s from
    congrArg Bearing.commands hbearing]

section Stages

variable {Obtained : String → Datum → List IssueCommand → Prop} {Completed : Prop}

/-- How a part of a job ends well: it has stored what was completed, or has reported that there was nothing. -/
def Settled (channel : Channel) (issue : String) (Obtained : String → Datum → List IssueCommand → Prop)
    (Completed : Prop) (cs : List IssueCommand) : Prop :=
  Stores channel issue Obtained cs ∧ Completed ∨ Reports issue cs ∧ ¬ Completed

/-- How a part of a job fails: what was completed is stored, or that there was nothing is still to be reported. -/
def Unsettled (channel : Channel) (issue : String) (Obtained : String → Datum → List IssueCommand → Prop)
    (Completed : Prop) (cs : List IssueCommand) : Prop :=
  Stores channel issue Obtained cs ∧ Completed ∨ given "edit" cs = [] ∧ ¬ Completed

theorem ends_logged {level message mark detail : String} (hmark : mark ∈ failureMarks) (hfailed : ¬ Completed)
    (h : Since s₀ (given "edit" · = []) s) :
    Ends (do log level message; Issue.comment channel issue (mark ++ detail)) s
      (Since s₀ (Settled channel issue Obtained Completed)) (Since s₀ (Unsettled channel issue Obtained Completed)) := by
  have hreports : Since s₀ (Reports issue) _ :=
    h.append (issueCommands_logged level message channel issue (mark ++ detail) s) fun _ hcs => .of_comment hcs hmark
  exact (Ends.of_snd hreports).mono (fun _ ht => ht.mono fun _ hcs => .inr ⟨hcs, hfailed⟩)
    fun _ ht => ht.mono fun _ hcs => .inr ⟨hcs.1, hfailed⟩

theorem issueBody_ne_empty (title : String) (content : Datum) : issueBody title content ≠ "" := by
  simp [issueBody]

/-- Storing edits the issue once, unless the record of the answer cannot be completed. -/
theorem ends_store {content : Datum} {c : Metadata.Completion}
    (h : Since s₀ (fun cs => given "edit" cs = [] ∧ Obtained t.title content cs) s)
    (hcompleted : Completed ↔ ∃ c', (perform (finished t.origin t.prompt c) s).1 = .ok c') :
    Ends (store channel t content c) s (Since s₀ (Settled channel t.issue Obtained Completed))
      (Since s₀ (Unsettled channel t.issue Obtained Completed)) := by
  have hquiet := (quiet_finished t.origin t.prompt c).commands s
  rcases hrun : perform (finished t.origin t.prompt c) s with ⟨e | c', s₁⟩
  · rw [hrun] at hquiet hcompleted
    refine .bind_of_error hrun ((h.congr hquiet).mono fun _ hcs => .inr ⟨hcs.1, fun hc => ?_⟩)
    obtain ⟨c', hok⟩ := hcompleted.1 hc
    cases hok
  · rw [hrun] at hquiet hcompleted
    have hc : Completed := hcompleted.2 ⟨c', rfl⟩
    refine .bind_of_ok hrun ?_
    have hedit : Since s₀ (Stores channel t.issue Obtained) _ :=
      (h.congr hquiet).append (Issue.issueCommands_setWorkplan channel t.issue (issueBody_ne_empty t.title content) s₁)
        fun cs hcs => ⟨t.title, content, cs, [], rfl, hcs.1, rfl, hcs.2⟩
    have hfailed (t' : Session) (ht : Since s₀ (Stores channel t.issue Obtained) t') :
        Since s₀ (Unsettled channel t.issue Obtained Completed) t' := ht.mono fun _ hcs => .inl ⟨hcs, hc⟩
    have hsettled (t' : Session) (ht : Since s₀ (Stores channel t.issue Obtained) t') :
        Since s₀ (Settled channel t.issue Obtained Completed) t' := ht.mono fun _ hcs => .inl ⟨hcs, hc⟩
    refine ((Ends.of_snd hedit).mono (fun _ ht => ht) hfailed).bind fun _ s₂ hs₂ => ?_
    refine .bind_preserves (quiet_info _).commands (fun _ ht => hfailed _ (hs₂.congr ht)) fun _ s₃ hs₃ => ?_
    split
    · have hcomment : Since s₀ (Stores channel t.issue Obtained) _ := (hs₂.congr hs₃).append
        (Issue.issueCommands_comment channel t.issue (Comment.completion c') s₃) fun _ hcs => hcs.append_comment _
      exact (Ends.of_snd hcomment).mono hsettled hfailed
    · exact hsettled _ (hs₂.congr hs₃)

theorem ends_conclude {x : Except Failure (Datum × Metadata.Completion)}
    (h : Since s₀ (fun cs => given "edit" cs = [] ∧
      ∀ content c, x = .ok (content, c) → content.holds = true → Obtained t.title content cs) s)
    (hcompleted : Completed ↔ ∃ content c, x = .ok (content, c) ∧ content.holds = true ∧
      ∃ c', (perform (finished t.origin t.prompt c) s).1 = .ok c') :
    Ends (conclude channel t x) s (Since s₀ (Settled channel t.issue Obtained Completed))
      (Since s₀ (Unsettled channel t.issue Obtained Completed)) := by
  have hnone : Since s₀ (given "edit" · = []) s := h.mono fun _ hcs => hcs.1
  cases x with
  | error e =>
    have hmark : "❌ **Error generating workplan** – " ++ e.message =
        "❌ **Error generating workplan**" ++ (" – " ++ e.message) := by
      rw [← String.append_assoc]
      rfl
    rw [conclude, hmark]
    refine ends_logged (by simp [failureMarks]) (fun hc => ?_) hnone
    obtain ⟨_, _, hok, -⟩ := hcompleted.1 hc
    cases hok
  | ok p =>
    obtain ⟨content, c⟩ := p
    rw [conclude]
    split
    · next hholds =>
      refine ends_store (h.mono fun _ hcs => ⟨hcs.1, hcs.2 content c rfl hholds⟩) (hcompleted.trans ⟨?_, ?_⟩)
      · rintro ⟨_, _, hok, -, hfinished⟩
        cases hok
        exact hfinished
      · intro hfinished
        exact ⟨content, c, rfl, hholds, hfinished⟩
    · next hholds =>
      refine ends_logged (by simp [failureMarks]) (fun hc => ?_) hnone
      obtain ⟨_, _, hok, hcontent, -⟩ := hcompleted.1 hc
      cases hok
      exact hholds hcontent

end Stages

theorem since_prepare (channel : Channel) (t : Task) (s : Session) :
    Since s (given "edit" · = []) (perform (prepare channel t) s).2 := by
  have hquiet := (quiet_searchTools t).commands
  unfold prepare
  cases t.debug with
  | false => exact .of_eq (hquiet s) rfl
  | true =>
    have hshown : Since s (given "edit" · = []) (perform (Issue.comment channel t.issue (debugComment t.prompt)) s).2 :=
      ⟨_, Issue.issueCommands_comment channel t.issue (debugComment t.prompt) s, rfl⟩
    refine Ends.snd (P := Since s (given "edit" · = [])) ((Ends.of_snd hshown).bind fun _ s₁ hs₁ => .of_snd ?_)
    exact hs₁.congr (hquiet s₁)

theorem steady_prepare (channel : Channel) (t : Task) : Steady (prepare channel t) := by
  unfold prepare
  cases t.debug with
  | false => exact (quiet_searchTools t).steady
  | true => exact (Issue.spares_comment _ _ _).steady.bind fun _ => (quiet_searchTools t).steady

/-- What a model wrote for a task, obtained after some commands. -/
def ObtainedAfter (channel : Channel) (t : Task) (s : Session) (title : String) (content : Datum)
    (before : List IssueCommand) : Prop :=
  title = t.title ∧ ∃ a s', Obtains channel t s a content s' ∧ issueCommands s' = issueCommands s ++ before

theorem ends_publish (channel : Channel) (t : Task) (s : Session) :
    Ends (publish channel t) s
      (Since s (Settled channel t.issue (ObtainedAfter channel t s) (Completes channel t s)))
      (Since s (Unsettled channel t.issue (ObtainedAfter channel t s) (Completes channel t s))) := by
  rw [publish_eq]
  refine .bind_of_ok (perform_get s) ?_
  split
  · next hmanager =>
    have hmark : "❌ **Error generating workplan** – LLM Manager not initialized" =
        "❌ **Error generating workplan**" ++ " – LLM Manager not initialized" := rfl
    rw [hmark]
    refine ends_logged (by simp [failureMarks]) ?_ (.of_eq rfl rfl)
    rintro ⟨a, content, s', ⟨⟨hsome, -⟩, -⟩, -⟩
    rw [Option.isNone_iff_eq_none.1 hmanager] at hsome
    cases hsome
  · next hmanager =>
    have hprepare := since_prepare channel t s
    rcases htools : perform (prepare channel t) s with ⟨e | tools, s₁⟩
    · rw [htools] at hprepare
      refine .bind_of_error htools (hprepare.mono fun _ hcs => .inr ⟨hcs, ?_⟩)
      rintro ⟨a, content, s', ⟨⟨-, tools, s₁, hrun, -⟩, -⟩, -⟩
      rw [htools] at hrun
      cases hrun
    · rw [htools] at hprepare
      obtain ⟨before, hbefore, hnone⟩ := hprepare
      have hask := (quiet_ask successStatus (request t tools)).commands s₁
      have hsome : s.manager.isSome = true := by simpa [Option.isSome_iff_ne_none] using hmanager
      have hvalidator : s₁.validator = s.validator := by
        have hsteady := congrArg Standing.validator (steady_prepare channel t s)
        rwa [htools] at hsteady
      have hobtains {content : Datum} {c : Metadata.Completion}
          (hok : (perform (ask successStatus (request t tools)) s₁).1 = .ok (content, c)) (hholds : content.holds = true) :
          ∃ a, Obtains channel t s a content (perform (ask successStatus (request t tools)) s₁).2 ∧
            completionOf s.validator t.model successStatus a = .ok c := by
        obtain ⟨a, hanswer, hcited, hc⟩ := exists_of_perform_ask (Prod.ext hok rfl)
        rw [hvalidator] at hc
        exact ⟨a, ⟨⟨hsome, tools, s₁, htools, hanswer⟩, by rw [← holds_cited hcited, hholds], hcited⟩, hc⟩
      refine .bind_of_ok htools (.bind_of_ok (perform_outcome _ _) (ends_conclude ?_ ⟨?_, ?_⟩))
      · refine ⟨before, hask.trans hbefore, hnone, fun content c hok hholds => ⟨rfl, ?_⟩⟩
        obtain ⟨a, hobtained, -⟩ := hobtains hok hholds
        exact ⟨a, _, hobtained, hask.trans hbefore⟩
      · rintro ⟨a, content, s₂, ⟨⟨-, tools', s₁', htools', hanswer⟩, hholds, hcited⟩, c, hc, hfinished⟩
        rw [htools] at htools'
        cases htools'
        rw [← hvalidator] at hc
        rw [perform_ask, hanswer, andThen_ok, perform_ofExcept]
        exact ⟨content, c, recorded_eq_ok_iff.2 ⟨hcited, hc⟩, by rw [holds_cited hcited, hholds], hfinished⟩
      · rintro ⟨content, c, hok, hholds, hfinished⟩
        obtain ⟨a, hobtained, hc⟩ := hobtains hok hholds
        exact ⟨a, content, _, hobtained, c, hc, hfinished⟩

/-! ### Jobs -/

def draftTaskOf (o : DraftOrder) : Action Task := do return draftTask o (← code o.reasoning o.model setAside)

/-- The task of a revision: the prompt shows the code, and the title is the one that the workplan has. -/
def revisionTaskOf (o : RevisionOrder) : Action Task := do
  let shown ← code o.reasoning o.model setAside
  let title ← ofExcept (titleOfBody o.workplan)
  return revisionTask o title shown

/-- What a model wrote for the task of a job that starts with a session, obtained after some commands. -/
def ObtainedFor (channel : Channel) (task : Action Task) (s : Session) (content : Datum) (before : List IssueCommand) :
    Prop :=
  ∃ t s₁ a s₂, perform task s = (.ok t, s₁) ∧ Obtains channel t s₁ a content s₂ ∧
    issueCommands s₂ = issueCommands s ++ before

/-- The model gave a text for the task of a job, and what is recorded of the answer was accepted and could be
completed. -/
def CompletesFor (channel : Channel) (task : Action Task) (s : Session) : Prop :=
  ∃ t s₁, perform task s = (.ok t, s₁) ∧ Completes channel t s₁

/-- The counts that came with the answer to the task of a job are refused. -/
def RefusedFor (channel : Channel) (task : Action Task) (s : Session) : Prop :=
  ∃ t s₁ a s₂, perform task s = (.ok t, s₁) ∧ Answers channel t s₁ a s₂ ∧ ¬ Acceptable s₁.validator a

theorem RefusedFor.not_completes {task : Action Task} (h : RefusedFor channel task s) :
    ¬ CompletesFor channel task s := by
  obtain ⟨t, s₁, a, s₂, hrun, hanswers, hrefused⟩ := h
  rintro ⟨t', s₁', hrun', hcompletes⟩
  rw [hrun] at hrun'
  cases hrun'
  exact not_completes_of_refused hanswers hrefused hcompletes

/-- A job succeeds. If there was something complete, it has edited its issue once, with a title and with what the model
had written for its task by then. Otherwise, and so if the counts of the answer are refused, it has edited nothing and
told the issue of a failure. -/
def Settles (channel : Channel) (issue : String) (IsTitle : String → Prop) (task : Action Task) (job : Action Unit)
    (s : Session) : Prop :=
  ∃ s', perform job s = (.ok (), s') ∧ Since s (Settled channel issue
      (fun title content before => IsTitle title ∧ ObtainedFor channel task s content before)
      (CompletesFor channel task s)) s' ∧
    (RefusedFor channel task s → Since s (Reports issue) s')

/-- An action that is followed by the report of its failures succeeds and settles the issue. -/
theorem perform_reporting {act : Action Unit} {Obtained : String → Datum → List IssueCommand → Prop} {Completed : Prop}
    {what mark : String} (hmark : mark ∈ failureMarks)
    (h : Ends act s (Since s₀ (Settled channel issue Obtained Completed))
      (Since s₀ (Unsettled channel issue Obtained Completed))) :
    ∃ s', perform (tryCatch act (reportFailure channel issue what mark)) s = (.ok (), s') ∧
      Since s₀ (Settled channel issue Obtained Completed) s' := by
  rw [perform_tryCatch]
  unfold Ends at h
  rcases hact : perform act s with ⟨e | u, s₁⟩
  · rw [hact] at h
    obtain ⟨u, s₂, hreport, hcommands⟩ := sets_reportFailure channel issue what mark e s₁
    refine ⟨s₂, hreport, Since.append h hcommands fun cs hcs => ?_⟩
    rcases hcs with hstores | ⟨hnone, hfailed⟩
    · exact .inl ⟨hstores.1.append_comment _, hstores.2⟩
    · exact .inr ⟨.of_comment hnone hmark, hfailed⟩
  · rw [hact] at h
    exact ⟨s₁, rfl, h⟩

theorem settles_of_quiet {IsTitle : String → Prop} {task : Action Task} {what mark : String} (hquiet : Quiet task)
    (htask : ∀ s t s', perform task s = (.ok t, s') → t.issue = issue ∧ IsTitle t.title) (hmark : mark ∈ failureMarks)
    (s : Session) :
    Settles channel issue IsTitle task (tryCatch (task >>= publish channel) (reportFailure channel issue what mark)) s := by
  suffices hends : Ends (task >>= publish channel) s
      (Since s (Settled channel issue
        (fun title content before => IsTitle title ∧ ObtainedFor channel task s content before)
        (CompletesFor channel task s)))
      (Since s (Unsettled channel issue
        (fun title content before => IsTitle title ∧ ObtainedFor channel task s content before)
        (CompletesFor channel task s))) by
    obtain ⟨s', hrun, hsettled⟩ := perform_reporting hmark hends
    refine ⟨s', hrun, hsettled, fun hrefused => hsettled.mono fun cs hcs => ?_⟩
    rcases hcs with ⟨-, hcompletes⟩ | ⟨hreports, -⟩
    · exact absurd hcompletes hrefused.not_completes
    · exact hreports
  have hcommands := hquiet.commands s
  rcases hrun : perform task s with ⟨e | t, s₁⟩
  · rw [hrun] at hcommands
    refine .bind_of_error hrun (.of_eq hcommands (.inr ⟨rfl, ?_⟩))
    rintro ⟨t, s₁, hok, -⟩
    rw [hrun] at hok
    cases hok
  · rw [hrun] at hcommands
    obtain ⟨rfl, htitle⟩ := htask s t s₁ hrun
    have hstores (cs : List IssueCommand) (h : Stores channel t.issue (ObtainedAfter channel t s₁) cs) :
        Stores channel t.issue (fun title content before =>
          IsTitle title ∧ ObtainedFor channel task s content before) cs := by
      refine h.mono fun title content before hobtained => ?_
      obtain ⟨rfl, a, s₂, hobtains, hbefore⟩ := hobtained
      exact ⟨htitle, t, s₁, a, s₂, hrun, hobtains, by rw [hbefore, hcommands]⟩
    have hcompletes : Completes channel t s₁ ↔ CompletesFor channel task s := by
      refine ⟨fun h => ⟨t, s₁, hrun, h⟩, ?_⟩
      rintro ⟨t', s₁', hok, h⟩
      rw [hrun] at hok
      cases hok
      exact h
    refine .bind_of_ok hrun ((ends_publish channel t s₁).mono (fun _ ht => ?_) fun _ ht => ?_)
    · exact (ht.rebase hcommands).mono fun cs hcs =>
        hcs.imp (And.imp (hstores cs) hcompletes.1) (And.imp_right (mt hcompletes.2))
    · exact (ht.rebase hcommands).mono fun cs hcs =>
        hcs.imp (And.imp (hstores cs) hcompletes.1) (And.imp_right (mt hcompletes.2))

theorem settles_draft (channel : Channel) (o : DraftOrder) (s : Session) :
    Settles channel o.issue (· = o.title) (draftTaskOf o) (draft channel o) s := by
  have hdraft : draft channel o = tryCatch (draftTaskOf o >>= publish channel)
      (reportFailure channel o.issue "Error processing workplan" "❌ **Error generating workplan**") := by
    simp only [draft, draftTaskOf, bind_assoc, pure_bind]
  rw [hdraft]
  refine settles_of_quiet ((quiet_code _ _ _).bind fun _ => .pure _) (fun s t s' h => ?_) (by simp [failureMarks]) s
  obtain ⟨shown, s₁, -, h⟩ := exists_of_perform_bind h
  cases h
  exact ⟨rfl, rfl⟩

theorem settles_revise (channel : Channel) (o : RevisionOrder) (s : Session) :
    Settles channel o.issue (titleOfBody o.workplan = .ok ·) (revisionTaskOf o) (revise channel o) s := by
  have hrevise : revise channel o = tryCatch (revisionTaskOf o >>= publish channel)
      (reportFailure channel o.issue "Error processing revision" "❌ **Error revising workplan**") := by
    simp only [revise, revisionTaskOf, bind_assoc, pure_bind]
  rw [hrevise]
  refine settles_of_quiet ((quiet_code _ _ _).bind fun _ => .bind (.ofExcept _) fun _ => .pure _)
    (fun s t s' h => ?_) (by simp [failureMarks]) s
  obtain ⟨shown, s₁, -, h⟩ := exists_of_perform_bind h
  obtain ⟨title, s₂, htitle, h⟩ := exists_of_perform_bind h
  rw [perform_ofExcept] at htitle
  cases h
  exact ⟨rfl, congrArg Prod.fst htitle⟩

/-- Drafts and revisions settle their issues, whatever the programs and models answer. -/
theorem generation_stores_or_reports (channel : Channel) (s : Session) :
    (∀ o : DraftOrder, Settles channel o.issue (· = o.title) (draftTaskOf o) (draft channel o) s) ∧
      ∀ o : RevisionOrder,
        Settles channel o.issue (titleOfBody o.workplan = .ok ·) (revisionTaskOf o) (revise channel o) s :=
  ⟨fun o => settles_draft channel o s, fun o => settles_revise channel o s⟩

end IssuePlanner.Workplan
