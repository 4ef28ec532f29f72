import IssuePlanner.Proofs.Server.Switch
import IssuePlanner.Proofs.Workplan.Filing

/-! Jobs of requests that fail. A request starts its job as the last thing that can fail, so that a failure leaves the
jobs as they were. Revision is the exception: it starts its job and asks for the address of its issue afterwards. If
nobody tells the address, the request fails but the job is done (`failed_request_starts_no_job_iff`). -/

namespace IssuePlanner.Server

open IssuePlanner.Action Generation

variable {s s' : Session} {e : Failure}

/-! ### Requests that start their job last -/

theorem preserves_jobs {α : Type} {act : Action α} (h : Steady act) : Preserves Session.jobs act :=
  h.comp Standing.jobs

/-- Jobs stay as they are, or gain one of which `P` holds. -/
def MayGain (P : Job → Prop) (js ks : List Job) : Prop := ks = js ∨ ∃ job, P job ∧ ks = js ++ [job]

theorem commits_mayGain {α : Type} {act : Action α} {P : Job → Prop} (h : Commits bench (Gains P) act) :
    Commits Session.jobs (MayGain P) act := by
  refine fun s => (h s).mono ?_ fun t ht => congrArg Prod.snd ht
  rintro t ⟨job, hP, ht⟩
  exact .inr ⟨job, hP, congrArg Prod.snd ht⟩

theorem switchless_jobs : Switchless Session.jobs := fun _ _ => rfl

theorem jobs_suspendSearch (disable : Bool) : Preserves Session.jobs (suspendSearch disable) :=
  switchless_jobs.preserves_suspendSearch (fun _ => preserves_jobs (quiet_info _).steady) disable

theorem commits_guardingSearch {α : Type} {act : Action α} {G : List Job → List Job → Prop} (disable saved : Bool)
    (h : Commits Session.jobs G act) : Commits Session.jobs G (guardingSearch disable saved act) := by
  intro s
  refine (h s).tryCatch fun e t ht => ?_
  obtain ⟨⟨⟩, t', hrestore, ht'⟩ := switchless_jobs.sets_restoreSearch disable saved t
  exact .bind_of_ok hrestore (ht'.trans ht)

theorem commits_createWorkplan (r : CreateRequest) :
    Commits Session.jobs (MayGain fun job => ∃ o channel, job = .draft o channel) (createWorkplan r) := by
  refine .during ((jobs_suspendSearch _).bind_commits fun saved => ?_) _
  refine (preserves_jobs (Issue.steady_create _ _ _ _)).bind_commits fun issue => ?_
  refine (preserves_jobs (quiet_info _).steady).bind_commits fun _ => ?_
  refine (preserves_jobs (quiet_submissionComment _ _ _).steady).bind_commits fun _ => ?_
  refine (preserves_jobs (Issue.spares_comment _ _ _).steady).bind_commits fun _ => ?_
  have hrestore (a : Datum) := (switchless_jobs.sets_restoreSearch r.disableSearch saved).bind_pure fun _ => a
  dsimp only
  split
  · refine (preserves_jobs (quiet_info _).steady).bind_commits fun _ => (hrestore _).commits.mono ?_
    exact fun _ _ h => .inl h
  · exact (commits_mayGain (commits_startDraft _ _ _ _)).bind_sets (fun _ => hrestore _) fun _ _ h => h

theorem commits_judgeWorkplan (r : JudgeRequest) :
    Commits Session.jobs (MayGain fun job => ∃ o channel, job = .judge o channel) (judgeWorkplan r) := by
  have hmodel := switchless_jobs.preserves_guardingSearch r.disableSearch true (preserves_jobs quiet_theModel.steady)
  refine .during (hmodel.bind_commits fun model => ?_) _
  refine Preserves.bind_commits (.bind .get fun _ => .pure _) fun saved => ?_
  have hjudge : Commits Session.jobs (MayGain fun job => ∃ o channel, job = .judge o channel)
      (judgeSuspended r model saved) := by
    refine (jobs_suspendSearch _).bind_commits fun _ => ?_
    refine (preserves_jobs (quiet_baseOf r).steady).bind_commits fun base => ?_
    refine (preserves_jobs (spares_refusePull r).steady).bind_commits fun _ => ?_
    refine (preserves_jobs (Issue.spares_body _ _).steady).bind_commits fun workplan => ?_
    refine (preserves_jobs (spares_changeOf r base).steady).bind_commits fun change => ?_
    dsimp only
    split
    · exact fun t => .inl rfl
    · refine Preserves.bind_commits (.ofExcept _) fun _ => ?_
      refine (commits_mayGain (commits_startJudgement _ _ _ _ _ _)).bind_sets
        (fun _ => (switchless_jobs.sets_restoreSearch r.disableSearch saved).bind_pure _) fun _ _ h => h
  refine (commits_guardingSearch r.disableSearch saved hjudge).bind_sets (g := id) (fun _ => ?_) fun _ _ h => h
  exact fun t => ⟨_, t, rfl, rfl⟩

theorem jobs_getWorkplan (issue : String) : Preserves Session.jobs (getWorkplan issue) :=
  preserves_jobs (.during (Issue.spares_body _ _).steady _)

theorem jobs_curateContext (r : CurateRequest) : Preserves Session.jobs (curateContext r) :=
  (preserves_curateContext r).comp Standing.jobs

/-! ### Revision -/

/-- A revision up to the point where its job is started and the switch is back. -/
def launchRevision (r : ReviseRequest) : Action Unit := do
  let workplan ← Issue.body .program r.issue
  if !workplan.holds then throw (.noWorkplan r.issue)
  let saved ← suspendSearch r.disableSearch
  let urls := Comment.urls r.instructions
  Issue.comment .program r.issue (← submissionComment "Revising workplan..." r.reasoning urls)
  startRevision r workplan saved urls
  restoreSearch r.disableSearch saved

theorem reviseWorkplan_eq (r : ReviseRequest) :
    reviseWorkplan r = during .reviseWorkplanTool (do
      launchRevision r
      let url ← addressOf r.issue
      return .text (Datum.json (.dict [("issue_url", url), ("issue_number", .text r.issue)]))) := by
  rw [reviseWorkplan, launchRevision, bind_assoc]
  refine congrArg (during _) (bind_congr fun workplan => ite_bind_congr fun _ => ?_)
  simp only [bind_assoc]

theorem commits_launchRevision (r : ReviseRequest) :
    Commits Session.jobs (fun js ks => ∃ o channel, o.issue = r.issue ∧ ks = js ++ [.revise o channel])
      (launchRevision r) := by
  refine (preserves_jobs (Issue.spares_body _ _).steady).bind_commits fun workplan => ?_
  dsimp only
  split
  · exact fun t => rfl
  · refine (jobs_suspendSearch _).bind_commits fun saved => ?_
    refine (preserves_jobs (quiet_submissionComment _ _ _).steady).bind_commits fun _ => ?_
    refine (preserves_jobs (Issue.spares_comment _ _ _).steady).bind_commits fun _ => ?_
    refine Commits.bind_sets (G := fun js ks => ∃ o channel, o.issue = r.issue ∧ ks = js ++ [.revise o channel]) ?_
      (fun _ => switchless_jobs.sets_restoreSearch r.disableSearch saved) fun _ _ h => h
    refine fun t => (commits_startRevision r workplan saved _ t).mono ?_ fun t' ht' => congrArg Prod.snd ht'
    rintro t' ⟨_, ⟨o, channel, rfl, ho⟩, ht'⟩
    exact ⟨o, channel, ho, congrArg Prod.snd ht'⟩

/-- A request is a revision whose job has been started when the address of its issue cannot be told. -/
def LosesAddress (s : Session) : Request → Prop
  | .reviseWorkplan r => ∃ t f, perform (launchRevision r) s = (.ok (), t) ∧ (perform (addressOf r.issue) t).1 = .error f
  | _ => False

theorem jobs_reviseWorkplan_of_error {r : ReviseRequest} (h : perform (reviseWorkplan r) s = (.error e, s')) :
    ¬ LosesAddress s (.reviseWorkplan r) ∧ s'.jobs = s.jobs ∨ LosesAddress s (.reviseWorkplan r) ∧
      ∃ o channel, o.issue = r.issue ∧ s'.jobs = s.jobs ++ [.revise o channel] := by
  have hcommits := commits_launchRevision r s
  rw [reviseWorkplan_eq, during, perform_tryCatch, perform_bind] at h
  unfold Ends at hcommits
  rcases hlaunch : perform (launchRevision r) s with ⟨f | ⟨⟩, t⟩
  · rw [hlaunch] at h hcommits
    refine .inl ⟨?_, ?_⟩
    · rintro ⟨t', f', hok, -⟩
      rw [hlaunch] at hok
      cases hok
    · rw [andThen_error, orElse_error, perform_throw, Prod.mk.injEq] at h
      rw [← h.2]
      exact hcommits
  · rw [hlaunch, andThen_ok, perform_bind] at h
    rw [hlaunch] at hcommits
    obtain ⟨o, channel, ho, hjobs⟩ := hcommits
    have hsteady := preserves_jobs (steady_addressOf r.issue) t
    rcases haddress : perform (addressOf r.issue) t with ⟨f | url, t'⟩
    · rw [haddress] at h hsteady
      refine .inr ⟨⟨t, f, hlaunch, by rw [haddress]⟩, o, channel, ho, ?_⟩
      rw [andThen_error, orElse_error, perform_throw, Prod.mk.injEq] at h
      rw [← h.2, hsteady, hjobs]
    · rw [haddress, andThen_ok, perform_pure, orElse_ok] at h
      cases h

/-! ### All requests -/

theorem jobs_of_commits {α : Type} {act : Action α} {G : List Job → List Job → Prop} (hact : Commits Session.jobs G act)
    (h : perform act s = (.error e, s')) : s'.jobs = s.jobs := by
  have hend := hact s
  rw [Ends, h] at hend
  exact hend

theorem jobs_of_preserves {α : Type} {act : Action α} (hact : Preserves Session.jobs act)
    (h : perform act s = (.error e, s')) : s'.jobs = s.jobs := by
  have hsame := hact s
  rwa [h] at hsame

theorem jobs_of_error {r : Request} (h : perform r.answer s = (.error e, s')) :
    ¬ LosesAddress s r ∧ s'.jobs = s.jobs ∨ LosesAddress s r ∧
      ∃ o channel, s'.jobs = s.jobs ++ [.revise o channel] ∧ ∀ q, r = .reviseWorkplan q → o.issue = q.issue := by
  cases r with
  | createWorkplan q => exact .inl ⟨id, jobs_of_commits (commits_createWorkplan q) h⟩
  | getWorkplan issue => exact .inl ⟨id, jobs_of_preserves (jobs_getWorkplan issue) h⟩
  | reviseWorkplan q =>
    refine (jobs_reviseWorkplan_of_error h).imp_right ?_
    rintro ⟨hloses, o, channel, ho, hjobs⟩
    exact ⟨hloses, o, channel, hjobs, fun _ hq => by cases hq; exact ho⟩
  | curateContext q => exact .inl ⟨id, jobs_of_preserves (jobs_curateContext q) h⟩
  | judgeWorkplan q => exact .inl ⟨id, jobs_of_commits (commits_judgeWorkplan q) h⟩

/-! ### What is done later -/

theorem issueCommands_serve {r : Request} {t : Session} {jobs : List Job} (h : (perform r.answer s).2 = t)
    (hjobs : t.jobs = jobs) :
    issueCommands (perform (serve r) s).2 = issueCommands (perform (jobs.forM runJob) { t with jobs := [] }).2 := by
  have hrest : Preserves issueCommands (do flush; ofExcept (perform r.answer s).1) :=
    quiet_flush.commands.bind fun _ => .ofExcept _
  rw [serve, settled, perform_bind, perform_outcome, andThen_ok, h, workOff, bind_assoc, perform_bind, perform_get,
    andThen_ok, hjobs, bind_assoc, perform_bind, perform_modify, andThen_ok, bind_assoc, perform_bind]
  rcases hrun : perform (jobs.forM runJob) { t with jobs := [] } with ⟨f | u, t'⟩
  · rfl
  · exact hrest t'

def Touches (issue : String) (cs : List IssueCommand) : Prop :=
  (∃ channel body, Issue.editCommand channel issue body ∈ cs) ∨ Workplan.Reports issue cs

theorem since_runJob_revise (o : RevisionOrder) (channel : Channel) (s : Session) :
    Since s (Touches o.issue) (perform ([Job.revise o channel].forM runJob) s).2 := by
  obtain ⟨s', hrun, hsince, -⟩ := Workplan.settles_revise channel o s
  have hjob : perform ([Job.revise o channel].forM runJob) s = (.ok (), s') := by
    change perform (runJob (.revise o channel) >>= fun _ => pure ()) s = _
    rw [perform_bind, runJob, perform_tryCatch, Job.run, hrun, orElse_ok, andThen_ok, perform_pure]
  rw [hjob]
  refine hsince.mono fun cs hcs => ?_
  rcases hcs with ⟨⟨title, content, before, after, rfl, -⟩, -⟩ | ⟨hreports, -⟩
  · exact .inl ⟨channel, Workplan.issueBody title content, by simp⟩
  · exact .inr hreports

/-- A request that fails has started a job exactly if it is a revision that loses the address of its issue. In all other
cases the jobs are those from before, and if there were none, nothing is done about any issue after the failure. But the
revision goes on to touch its issue. -/
theorem failed_request_starts_no_job_iff {r : Request} (h : perform r.answer s = (.error e, s')) :
    (s'.jobs = s.jobs ↔ ¬ LosesAddress s r) ∧
      (¬ LosesAddress s r → s.jobs = [] → issueCommands (perform (serve r) s).2 = issueCommands s') ∧
      ∀ q, r = .reviseWorkplan q → LosesAddress s r → ∃ o channel, o.issue = q.issue ∧
        s'.jobs = s.jobs ++ [.revise o channel] ∧
        (s.jobs = [] → Since s' (Touches q.issue) (perform (serve r) s).2) := by
  have hlater {jobs : List Job} (hjobs : s'.jobs = jobs) :=
    issueCommands_serve (congrArg Prod.snd h) hjobs
  rcases jobs_of_error h with ⟨hnot, hjobs⟩ | ⟨hloses, o, channel, hjobs, ho⟩
  · exact ⟨iff_of_true hjobs hnot, fun _ hidle => hlater (hjobs.trans hidle), fun _ _ hloses => absurd hloses hnot⟩
  · refine ⟨iff_of_false (fun hsame => ?_) (not_not_intro hloses), fun hnot => absurd hloses hnot, fun q hq _ => ?_⟩
    · rw [hsame] at hjobs
      simp at hjobs
    · refine ⟨o, channel, ho q hq, hjobs, fun hidle => ?_⟩
      rw [hidle, List.nil_append] at hjobs
      rw [← ho q hq]
      exact ((since_runJob_revise o channel _).congr (hlater hjobs)).rebase rfl

/-- A session whose issue program tells the text of an issue but not its address. -/
def addresslessSession : Session :=
  { settings := { model := some "gpt-4o" }
    gh := [{ args := ["issue", "view", "7", "--json", "body"], stdout := "\x7b\"body\": \"# Plan\"\x7d".toUTF8 },
      { args := ["issue", "comment"] }] }

def plainRevision : ReviseRequest := { issue := "7", instructions := "Shorten it" }

/-- A revision fails for want of an address, and its issue is touched all the same. -/
theorem failed_revision_touches_issue :
    ∃ e s', perform (reviseWorkplan plainRevision) addresslessSession = (.error e, s') ∧
      (∃ o channel, s'.jobs = [.revise o channel] ∧ o.issue = "7") ∧
      Since s' (Touches "7") (perform (serve (.reviseWorkplan plainRevision)) addresslessSession).2 := by
  have hfails : (perform (reviseWorkplan plainRevision) addresslessSession).1.toOption.isNone = true := by decide +kernel
  have hleft : (perform (reviseWorkplan plainRevision) addresslessSession).2.jobs.isEmpty = false := by decide +kernel
  rcases hrun : perform (reviseWorkplan plainRevision) addresslessSession with ⟨e | a, s'⟩
  · rw [hrun] at hleft
    obtain ⟨hiff, -, hjob⟩ := failed_request_starts_no_job_iff (r := .reviseWorkplan plainRevision) hrun
    have hloses : LosesAddress addresslessSession (.reviseWorkplan plainRevision) := by
      by_contra hnot
      have hempty : s'.jobs.isEmpty = false := hleft
      rw [hiff.2 hnot] at hempty
      cases hempty
    obtain ⟨o, channel, ho, hjobs, htouches⟩ := hjob plainRevision rfl hloses
    exact ⟨e, s', rfl, ⟨o, channel, hjobs, ho⟩, htouches rfl⟩
  · rw [hrun] at hfails
    cases hfails

end IssuePlanner.Server
