import IssuePlanner.Proofs.Issue.Creation
import IssuePlanner.Proofs.Judgement.Filing

/-! One judgement, one issue. A request for a judgement creates at most one issue, and none if it names one. The number of
that issue is handed to the job, which creates nothing and edits no other issue (`judgement_opens_one_issue`). -/

namespace IssuePlanner.Server

open IssuePlanner.Action Generation Issue

variable {r : JudgeRequest} {s : Session}

/-! ### The issue of a judgement -/

/-- The issues that a request for a judgement may create: at most one, and none if it names an issue. -/
def MayCreate (r : JudgeRequest) (new : List (List Arg)) : Prop :=
  new.length ≤ 1 ∧ (nonEmpty r.subissue ≠ none → new = [])

/-- The issue of a judgement: the one that the request names, or else one that was created, with the number that stands
in its address. -/
def IsSubissue (r : JudgeRequest) (s : Session) (new : List (List Arg)) (url n : String) : Prop :=
  nonEmpty r.subissue = some n ∧ new = [] ∨
    nonEmpty r.subissue = none ∧ new.length = 1 ∧ Prints s url ∧ IsAddress url n

theorem IsSubissue.mayCreate {new : List (List Arg)} {url n : String} (h : IsSubissue r s new url n) :
    MayCreate r new := by
  rcases h with ⟨-, rfl⟩ | ⟨hnone, hlength, -⟩
  · exact ⟨by simp, fun _ => rfl⟩
  · exact ⟨hlength.le, fun h => absurd hnone h⟩

theorem mayCreate_nil (r : JudgeRequest) : MayCreate r [] := ⟨by simp, fun _ => rfl⟩

/-- A request has not left anything behind, but may have created an issue. -/
def LeavesNothing (r : JudgeRequest) (s s' : Session) : Prop :=
  ∃ new, MayCreate r new ∧ docket s' = (docket s).create new

theorem leavesNothing_of_eq {s' : Session} (h : docket s' = docket s) : LeavesNothing r s s' :=
  ⟨[], mayCreate_nil r, by simp [h]⟩

theorem LeavesNothing.rebase {t s' : Session} (h : LeavesNothing r s s') (ht : docket s = docket t) :
    LeavesNothing r t s' := by
  obtain ⟨new, hnew, hdocket⟩ := h
  exact ⟨new, hnew, ht ▸ hdocket⟩

theorem nonEmpty_ne_empty {text : Option String} {n : String} (h : nonEmpty text = some n) : n ≠ "" := by
  rintro rfl
  unfold nonEmpty at h
  split at h
  · cases h
  · next hne => exact hne h

theorem IsSubissue.congr {t : Session} {new : List (List Arg)} {url n : String} (h : IsSubissue r s new url n)
    (hrules : s.gh.map Rule.unspent = t.gh.map Rule.unspent) : IsSubissue r t new url n := by
  rcases h with hgiven | ⟨hnone, hlength, hprints, haddress⟩
  · exact .inl hgiven
  · exact .inr ⟨hnone, hlength, hprints.congr hrules, haddress⟩

theorem IsSubissue.target {new : List (List Arg)} {url n : String} (h : IsSubissue r s new url n) :
    nonEmpty (some n) = some n := by
  rcases h with ⟨hgiven, -⟩ | ⟨-, -, -, haddress⟩
  · exact nonEmpty_of_ne (nonEmpty_ne_empty hgiven)
  · exact nonEmpty_of_ne haddress.nonempty

theorem preserves_update (channel : Channel) (issue : String) (title body : Option String) :
    Preserves docket (update channel issue title body) := by
  intro s
  by_cases h : nonEmpty title ≠ none ∨ nonEmpty body ≠ none
  · rw [snd_update channel issue h, List.cons_append, List.cons_append]
    exact (docket_answerGh channel.runner_ne_git rfl s).trans (Docket.create_nil _)
  · rw [not_or, not_not, not_not] at h
    unfold update
    rw [h.1, h.2]
    rfl

theorem gives_openSubissue (h : nonEmpty r.subissue = none → PrintsAddresses s) (base comment : String) :
    Gives (openSubissue r base comment) s
      (fun p s' => ∃ new n, p.2 = some n ∧ IsSubissue r s new p.1 n ∧ docket s' = (docket s).create new)
      fun _ s' => LeavesNothing r s s' := by
  unfold openSubissue
  split
  · next n hgiven =>
    refine .bind_preserves (preserves_update _ _ _ _) (fun _ _ => leavesNothing_of_eq) fun _ t ht => ?_
    exact ⟨[], n, rfl, .inl ⟨hgiven, rfl⟩, by simp [ht]⟩
  · next hnone =>
    refine Gives.bind ((gives_createSubissue _ _ _ _ s).mono (fun _ _ hu => hu) ?_) fun url t ht => ?_
    · rintro _ t ⟨new, hlength, ht⟩
      exact ⟨new, ⟨hlength, fun h => absurd hnone h⟩, ht⟩
    · obtain ⟨hprints, args, hargs⟩ := ht
      obtain ⟨n, hn⟩ := h hnone url hprints
      exact ⟨[args], n, numberIn?_of_isAddress hn, .inr ⟨hnone, rfl, hprints, hn⟩, hargs⟩

/-! ### The request -/

/-- A request has left a judgement behind, with the issue that it goes into. -/
def Leaves (r : JudgeRequest) (s : Session) (url n : String) (s' : Session) : Prop :=
  ∃ new o channel, IsSubissue r s new url n ∧ o.parent = r.issue ∧ o.subissue = some n ∧
    docket s' = { (docket s).create new with jobs := s.jobs ++ [.judge o channel] }

theorem Leaves.rebase {t s' : Session} {url n : String} (h : Leaves r s url n s') (ht : docket s = docket t) :
    Leaves r t url n s' := by
  obtain ⟨new, o, channel, hsubissue, hparent, hnumber, hdocket⟩ := h
  refine ⟨new, o, channel, hsubissue.congr (congrArg Docket.rules ht), hparent, hnumber, ?_⟩
  rw [hdocket, ht, show s.jobs = t.jobs from congrArg Docket.jobs ht]

theorem gives_startJudgement (h : nonEmpty r.subissue = none → PrintsAddresses s) (model base workplan : String)
    (change : Change) (searchGrounding : Bool) :
    Gives (startJudgement r model base workplan change searchGrounding) s
      (fun p s' => ∃ n, p.2 = some n ∧ Leaves r s p.1 n s') fun _ s' => LeavesNothing r s s' := by
  unfold startJudgement
  refine .bind_preserves (preserves_docket (quiet_submissionComment _ _ _).spares) (fun _ _ => leavesNothing_of_eq)
    fun comment s₁ hs₁ => ?_
  refine Gives.bind ((gives_openSubissue (fun hnone => (h hnone).congr (congrArg Docket.rules hs₁).symm) base comment).mono
    (fun _ _ hp => hp) fun _ _ ht => LeavesNothing.rebase ht hs₁) fun p s₂ hs₂ => ?_
  obtain ⟨url, number⟩ := p
  obtain ⟨new, n, hnumber, hsubissue, hdocket⟩ := hs₂
  rw [hs₁] at hdocket
  have hfailed (_ : Failure) (t : Session) (ht : docket t = docket s₂) : LeavesNothing r s t :=
    ⟨new, hsubissue.mayCreate, ht.trans hdocket⟩
  refine .bind_preserves (preserves_docket (quiet_info _).spares) hfailed fun _ s₃ hs₃ => ?_
  refine .bind_preserves (preserves_docket (quiet_info _).spares) (fun e t ht => hfailed e t (ht.trans hs₃))
    fun _ s₄ hs₄ => ?_
  refine .bind_preserves (preserves_docket (quiet_originOf _ _).spares)
    (fun e t ht => hfailed e t (ht.trans (hs₄.trans hs₃))) fun origin s₅ hs₅ => ?_
  have hdocket₅ : docket s₅ = (docket s).create new := hs₅.trans (hs₄.trans (hs₃.trans hdocket))
  have hjobs : s₅.jobs = s.jobs := congrArg Docket.jobs hdocket₅
  let order : JudgementOrder :=
    { model, workplan, diff := change.diff, baseRef := base, headRef := r.head, baseCommit := change.baseCommit
      headCommit := change.headCommit, parent := r.issue, subissue := number, debug := r.debug
      reasoning := r.reasoning, disableSearch := r.disableSearch, origin := some origin }
  refine ⟨n, hnumber, new, order, s₅.channel, hsubissue.congr (congrArg Docket.rules hs₁), rfl, hnumber, ?_⟩
  rw [← hdocket₅, ← hjobs]
  rfl

theorem preserves_searchSetting : Preserves docket searchSetting := .bind .get fun _ => .pure _

theorem switchless_docket : Switchless docket := fun _ _ => rfl

/-- What a request for a judgement answers if it leaves a job behind. -/
def judgementAnswer (url n : String) : Datum := .dict [("subissue_url", .text url), ("subissue_number", .text n)]

theorem gives_judgeSuspended (h : nonEmpty r.subissue = none → PrintsAddresses s) (model : String) (saved : Bool) :
    Gives (judgeSuspended r model saved) s
      (fun d s' => docket s' = docket s ∨ ∃ url n, d = judgementAnswer url n ∧ Leaves r s url n s')
      fun _ s' => LeavesNothing r s s' := by
  unfold judgeSuspended
  have hsuspend := switchless_docket.preserves_suspendSearch fun _ => preserves_docket (quiet_info _).spares
  refine .bind_preserves (hsuspend _) (fun _ _ => leavesNothing_of_eq) fun _ s₁ hs₁ => ?_
  refine .bind_preserves (preserves_docket (quiet_baseOf r).spares)
    (fun _ _ ht => leavesNothing_of_eq (ht.trans hs₁)) fun base s₂ hs₂ => ?_
  rw [hs₁] at hs₂
  refine .bind_preserves (preserves_docket (spares_refusePull r))
    (fun _ _ ht => leavesNothing_of_eq (ht.trans hs₂)) fun _ s₃ hs₃ => ?_
  rw [hs₂] at hs₃
  refine .bind_preserves (preserves_docket (spares_body _ _))
    (fun _ _ ht => leavesNothing_of_eq (ht.trans hs₃)) fun workplan s₄ hs₄ => ?_
  rw [hs₃] at hs₄
  refine .bind_preserves (preserves_docket (spares_changeOf r base))
    (fun _ _ ht => leavesNothing_of_eq (ht.trans hs₄)) fun change s₅ hs₅ => ?_
  rw [hs₄] at hs₅
  dsimp only
  split
  · exact .inl hs₅
  · refine .bind_preserves (.ofExcept (textOf workplan)) (fun _ _ ht => leavesNothing_of_eq (ht.trans hs₅))
      fun text s₆ hs₆ => ?_
    rw [hs₅] at hs₆
    refine Gives.bind ((gives_startJudgement (fun hnone => (h hnone).congr (congrArg Docket.rules hs₆).symm) model base
      text change saved).mono (fun _ _ hp => hp) fun _ _ ht => ht.rebase hs₆) fun p s₇ hs₇ => ?_
    obtain ⟨url, number⟩ := p
    obtain ⟨n, rfl, hleaves⟩ := hs₇
    obtain ⟨u, s₈, hrestore, hs₈⟩ := switchless_docket.sets_restoreSearch r.disableSearch saved s₇
    refine .bind_of_ok hrestore (.inr ⟨url, n, rfl, ?_⟩)
    obtain ⟨new, o, channel, hsubissue, hparent, hnumber, hdocket⟩ := hleaves.rebase hs₆
    exact ⟨new, o, channel, hsubissue, hparent, hnumber, hs₈.trans hdocket⟩

theorem gives_guardingSearch {α : Type} {act : Action α} {P : α → Session → Prop} (disable saved : Bool)
    (h : Gives act s P fun _ s' => LeavesNothing r s s') :
    Gives (guardingSearch disable saved act) s P fun _ s' => LeavesNothing r s s' := by
  refine Gives.tryCatch h fun e t ht => ?_
  obtain ⟨u, t', hrestore, ht'⟩ := switchless_docket.sets_restoreSearch disable saved t
  obtain ⟨new, hnew, hdocket⟩ := ht
  exact .bind_of_ok hrestore ⟨new, hnew, ht'.trans hdocket⟩

theorem gives_judgeWorkplan (h : nonEmpty r.subissue = none → PrintsAddresses s) :
    Gives (judgeWorkplan r) s
      (fun d s' => docket s' = docket s ∨ ∃ url n, d = .text (judgementAnswer url n).json ∧ Leaves r s url n s')
      fun _ s' => LeavesNothing r s s' := by
  refine Gives.during (Q := fun _ s' => LeavesNothing r s s') ?_ fun _ _ ht => ht
  have hmodel : Gives theModel s (fun _ s' => docket s' = docket s) fun _ s' => LeavesNothing r s s' :=
    (Gives.of_snd (preserves_docket quiet_theModel.spares s)).mono (fun _ _ ht => ht) fun _ _ => leavesNothing_of_eq
  refine (gives_guardingSearch r.disableSearch true hmodel).bind fun model s₁ hs₁ => ?_
  refine .bind_preserves preserves_searchSetting (fun _ _ ht => leavesNothing_of_eq (ht.trans hs₁)) fun saved s₂ hs₂ => ?_
  rw [hs₁] at hs₂
  have hjudge := gives_judgeSuspended (fun hnone => (h hnone).congr (congrArg Docket.rules hs₂).symm) model saved
  refine ((gives_guardingSearch r.disableSearch saved hjudge).mono (fun _ _ hd => hd) fun _ _ ht => ht.rebase hs₂).bind
    fun d s₃ hs₃ => ?_
  rcases hs₃ with hs₃ | ⟨url, n, rfl, hleaves⟩
  · exact .inl (hs₃.trans hs₂)
  · exact .inr ⟨url, n, rfl, hleaves.rebase hs₂⟩

/-! ### The request and its job -/

theorem preserves_runJob {o : JudgementOrder} {n : String} (htarget : Judgement.JudgementOrder.target o = some n)
    (channel : Channel) : Preserves creations (runJob (.judge o channel)) := by
  have hjudge : Preserves creations (Judgement.judge channel o) := by
    intro t
    obtain ⟨cs, hcs, hsettles⟩ := Judgement.since_judge htarget channel t
    rw [creations, hcs, given_append, hsettles.creations, List.append_nil]
    rfl
  exact hjudge.tryCatch fun _ => (quiet_record rfl).comp fun b => given "create" b.commands

theorem creations_workOff (h : ∀ job ∈ s.jobs, Preserves creations (runJob job)) :
    Ends workOff s (fun t => creations t = creations s) fun t => creations t = creations s := by
  have hflush : Preserves creations flush := quiet_flush.comp fun b => given "create" b.commands
  refine .bind_of_ok (perform_get s) (.bind_of_ok (perform_modify _ s) ?_)
  exact ((Preserves.forM h).bind fun _ => hflush).ends { s with jobs := [] }

/-- Jobs that create no issue add none to those that the request has created that left them behind. -/
theorem creations_serve {q : Request} {started : List Job} (hidle : s.jobs = [])
    (hjobs : (perform q.answer s).2.jobs = s.jobs ++ started) (h : ∀ job ∈ started, Preserves creations (runJob job)) :
    creations (perform (serve q) s).2 = creations (perform q.answer s).2 := by
  rw [hidle, List.nil_append] at hjobs
  refine Ends.snd (P := fun t => creations t = creations (perform q.answer s).2) ?_
  refine .bind_of_ok (perform_outcome _ _) ((creations_workOff (hjobs ▸ h)).bind fun _ t ht => .of_snd ?_)
  rwa [perform_ofExcept]

theorem leaves_or_leavesNothing (h : nonEmpty r.subissue = none → PrintsAddresses s) :
    LeavesNothing r s (perform (judgeWorkplan r) s).2 ∨ ∃ url n,
      (perform (judgeWorkplan r) s).1 = .ok (.text (judgementAnswer url n).json) ∧
        Leaves r s url n (perform (judgeWorkplan r) s).2 := by
  have hgives := gives_judgeWorkplan h
  unfold Gives at hgives
  rcases hrun : perform (judgeWorkplan r) s with ⟨e | d, s'⟩
  · rw [hrun] at hgives
    exact .inl hgives
  · rw [hrun] at hgives
    rcases hgives with hsame | ⟨url, n, rfl, hleaves⟩
    · exact .inl (leavesNothing_of_eq hsame)
    · exact .inr ⟨url, n, rfl, hleaves⟩

/-- A request for a judgement creates at most one issue, and none if it names one. If it leaves a job behind, it tells the
number of the issue that it created or that it was given. The job settles that issue whenever it is run, so request and
job together create no more. -/
theorem judgement_opens_one_issue (h : nonEmpty r.subissue = none → PrintsAddresses s) :
    ∃ new started, creations (perform (judgeWorkplan r) s).2 = creations s ++ new ∧
      (perform (judgeWorkplan r) s).2.jobs = s.jobs ++ started ∧ MayCreate r new ∧
      (started = [] ∨ ∃ o channel url n, started = [.judge o channel] ∧
        (perform (judgeWorkplan r) s).1 = .ok (.text (judgementAnswer url n).json) ∧ IsSubissue r s new url n ∧
        o.parent = r.issue ∧ ∀ t, Since t (Judgement.Settles channel o n t) (perform (Judgement.judge channel o) t).2) ∧
      (s.jobs = [] → creations (perform (serve (.judgeWorkplan r)) s).2 = creations s ++ new) := by
  rcases leaves_or_leavesNothing h with ⟨new, hnew, hdocket⟩ | ⟨url, n, hanswer, new, o, channel, hsubissue, hparent,
    hnumber, hdocket⟩
  · have hcreations : creations (perform (judgeWorkplan r) s).2 = creations s ++ new :=
      congrArg Docket.creations hdocket
    have hjobs : (perform (judgeWorkplan r) s).2.jobs = s.jobs ++ [] :=
      (congrArg Docket.jobs hdocket).trans (List.append_nil _).symm
    refine ⟨new, [], hcreations, hjobs, hnew, .inl rfl, fun hidle => ?_⟩
    rw [← hcreations]
    exact creations_serve hidle hjobs (by simp)
  · have hcreations : creations (perform (judgeWorkplan r) s).2 = creations s ++ new :=
      congrArg Docket.creations hdocket
    have hjobs : (perform (judgeWorkplan r) s).2.jobs = s.jobs ++ [.judge o channel] := congrArg Docket.jobs hdocket
    have htarget : Judgement.JudgementOrder.target o = some n := by
      rw [Judgement.JudgementOrder.target, hnumber]
      exact hsubissue.target
    refine ⟨new, [.judge o channel], hcreations, hjobs, hsubissue.mayCreate, .inr ⟨o, channel, url, n, rfl, hanswer,
      hsubissue, hparent, Judgement.since_judge htarget channel⟩, fun hidle => ?_⟩
    rw [← hcreations]
    refine creations_serve hidle hjobs fun job hjob => ?_
    rw [List.mem_singleton.1 hjob]
    exact preserves_runJob htarget channel

def printingSession : Session :=
  { settings := { model := some "gemini-2.5-pro" }
    git := [{ args := ["rev-parse"], stdout := "c0ffee\n".toUTF8 }, { args := ["diff"], stdout := "+x\n".toUTF8 }]
    gh := [{ args := ["issue", "view"], stdout := "\x7b\"body\": \"Plan\"\x7d".toUTF8 },
      { args := ["issue", "create"], stdout := "https://github.com/o/r/issues/7\n".toUTF8 },
      { args := ["issue", "comment"] }] }

def plainJudgement : JudgeRequest := { issue := "1", base := "dev", head := "topic" }

theorem printed_eq {url : String} (h : Prints printingSession url) : url = "https://github.com/o/r/issues/7" := by
  obtain ⟨r, hr, ⟨args, hargs⟩, -, -, out, rest, hout, hrest, rfl⟩ := h
  simp only [printingSession, List.mem_cons, List.not_mem_nil, or_false] at hr
  rcases hr with rfl | rfl | rfl
  · simp at hargs
  · have hdecode : Text.Utf8.decode? "https://github.com/o/r/issues/7\n".toUTF8 = .ok "https://github.com/o/r/issues/7\n" := by
      decide +kernel
    rw [hdecode] at hout
    cases hout
    have hword : Text.wordAfter? "https://github.com/" (Text.trim "https://github.com/o/r/issues/7\n") = some "o/r/issues/7" := by
      decide +kernel
    rw [hword] at hrest
    cases hrest
    rfl
  · simp at hargs

theorem isAddress_printed : IsAddress "https://github.com/o/r/issues/7" "7" := by
  have hdigits : "7".toList.all Text.isDecimal = true := by decide +kernel
  refine ⟨⟨"o", "r", rfl⟩, by decide, List.all_eq_true.1 hdigits, fun front d back hurl hd => ?_⟩
  have hcheck : (List.range 32).all (fun i =>
      (Text.after? "/issues/".toList ("https://github.com/o/r/issues/7".toList.drop i)).all fun rest =>
        !(rest.head?.any Text.isDecimal) || rest == "7".toList) = true := by decide +kernel
  have hafter : Text.after? "/issues/".toList ("https://github.com/o/r/issues/7".toList.drop front.length) =
      some (d :: back) := by
    rw [hurl, List.drop_left, Text.after?_append]
  have hlt : front.length < 32 := by
    have hlength : "https://github.com/o/r/issues/7".toList.length = 31 := by decide +kernel
    rw [hurl, List.length_append] at hlength
    omega
  have hrest := List.all_eq_true.1 hcheck front.length (List.mem_range.2 hlt)
  rw [hafter] at hrest
  simpa [hd] using hrest

/-- The number that was printed reaches the job. -/
theorem printed_number_reaches_job :
    PrintsAddresses printingSession ∧ ∃ args o channel,
      creations (perform (serve (.judgeWorkplan plainJudgement)) printingSession).2 = [args] ∧
      (perform (judgeWorkplan plainJudgement) printingSession).2.jobs = [.judge o channel] ∧
      ∀ t, Since t (Judgement.Settles channel o "7" t) (perform (Judgement.judge channel o) t).2 := by
  have hprints : PrintsAddresses printingSession := fun url hurl => ⟨"7", printed_eq hurl ▸ isAddress_printed⟩
  obtain ⟨new, started, hnew, hjobs, -, hstarted, hserve⟩ :=
    judgement_opens_one_issue (r := plainJudgement) fun _ => hprints
  have hone : (creations (perform (judgeWorkplan plainJudgement) printingSession).2).length = 1 := by decide +kernel
  have hleft : (perform (judgeWorkplan plainJudgement) printingSession).2.jobs.length = 1 := by decide +kernel
  rcases hstarted with rfl | ⟨o, channel, url, n, rfl, -, hsubissue, -, hsettles⟩
  · rw [hjobs] at hleft
    cases hleft
  · obtain ⟨args, hargs⟩ := List.length_eq_one_iff.1 hone
    have hn : n = "7" := by
      rcases hsubissue with ⟨hgiven, -⟩ | ⟨-, -, hurl, haddress⟩
      · cases hgiven
      · have hnumber := numberIn?_of_isAddress haddress
        rw [printed_eq hurl, numberIn?_of_isAddress isAddress_printed] at hnumber
        cases hnumber
        rfl
    exact ⟨hprints, args, o, channel, (hserve rfl).trans (hnew.symm.trans hargs), hjobs, hn ▸ hsettles⟩

end IssuePlanner.Server
