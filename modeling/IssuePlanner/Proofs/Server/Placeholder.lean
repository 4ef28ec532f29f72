import IssuePlanner.Proofs.Server.Switch

/-! The placeholder of a judgement. A request that finds something to judge posts one command, which carries the
placeholder until there is a judgement. For a new issue the placeholder is the body, under the title of the judgement.
But where the request names an issue, that issue gets the placeholder as its title, and no body
(`placeholder_is_body_iff_created`). -/

namespace IssuePlanner.Server

open IssuePlanner.Action Generation

variable {r : JudgeRequest} {s s₁ : Session} {model : String}

/-! ### What a command sets -/

def argText : Arg → String
  | .text text => text
  | .file content => content

def valueOf (flag : String) : List Arg → Option String
  | .text name :: value :: options => if name = flag then some (argText value) else valueOf flag options
  | _ => none

structure Content where
  title : Option String
  body : Option String
  deriving DecidableEq

/-- What a command sets. A command that edits names the issue before its options. -/
def contentOf (c : IssueCommand) : Content :=
  let options := if c.1 = "edit" then c.2.tail else c.2
  ⟨valueOf "--title" options, (valueOf "--body-file" options).or (valueOf "--body" options)⟩

/-- A text is set as the body, and no other title than a given one is set. -/
def Content.IsAnnouncement (content : Content) (title body : String) : Prop :=
  content.body = some body ∧ ∀ t, content.title = some t → t = title

/-! ### Posting -/

/-- The commands of a session that have created issues and edited them. -/
def posted (s : Session) : List IssueCommand := posts (issueCommands s)

theorem preserves_posted {α : Type} {act : Action α} (h : Spares act) : Preserves posted act := h.comp Filing.posts

theorem posted_bind {α β : Type} {f : α → Action β} (hf : ∀ a, Preserves posted (f a)) (act : Action α) (s : Session) :
    posted (perform (act >>= f) s).2 = posted (perform act s).2 :=
  Preserves.view_bind hf act s

theorem posted_during {α : Type} (stage : Stage) (act : Action α) (s : Session) :
    posted (perform (during stage act) s).2 = posted (perform act s).2 :=
  Preserves.view_tryCatch (fun _ => .throw _) act s

theorem posted_gh {args : List Arg} {c : IssueCommand} (hc : issueCommand? args = some c) (s : Session) :
    posted (perform (gh args) s).2 = posted s ++ posts [c] := by
  rw [snd_gh, posted, issueCommands_answerGh (by decide) hc, posts_append]
  rfl

theorem sets_ensureLabel (label description : String) : Sets posted id (Issue.ensureLabel label description) := by
  intro s
  have hspares := preserves_posted (Issue.spares_ensureLabel label description) s
  have hok : ∃ s', perform (Issue.ensureLabel label description) s = (.ok (), s') := by
    rw [Issue.ensureLabel, perform_tryCatch]
    rcases perform _ s with ⟨e | ⟨⟩, s'⟩
    · exact ⟨_, rfl⟩
    · exact ⟨s', rfl⟩
  obtain ⟨s', hrun⟩ := hok
  rw [hrun] at hspares
  exact ⟨(), s', hrun, hspares⟩

theorem sets_ensureLabels (labels : List String) :
    Sets posted id (forIn labels PUnit.unit fun l _ => do
      Issue.ensureLabel l Issue.labelDescription
      pure (ForInStep.yield PUnit.unit)) := by
  induction labels with
  | nil => exact fun s => ⟨_, s, rfl, rfl⟩
  | cons l labels ih =>
    intro s
    obtain ⟨⟨⟩, s₁, hrun₁, hposted₁⟩ := sets_ensureLabel l Issue.labelDescription s
    obtain ⟨⟨⟩, s₂, hrun₂, hposted₂⟩ := ih s₁
    refine ⟨PUnit.unit, s₂, ?_, hposted₂.trans hposted₁⟩
    rw [List.forIn_cons, perform_bind, perform_bind, hrun₁, andThen_ok, perform_pure, andThen_ok, hrun₂]

/-- The options of the command that creates an issue. -/
def creationArgs (title body : String) (labels : List String) : List Arg :=
  [.text "--title", .text title, .text "--body-file", .file body] ++ Issue.labelArgs labels

theorem posted_createSubissue (parent title body : String) (labels : List String) (s : Session) :
    posted (perform (Issue.createSubissue parent title body labels) s).2 =
      posted s ++ [("create", creationArgs title body labels)] := by
  obtain ⟨⟨⟩, s₁, hlabels, hposted⟩ := sets_ensureLabels labels s
  have hcommand : issueCommand? (.text "issue" :: .text "create" :: creationArgs title body labels) =
      some ("create", creationArgs title body labels) := rfl
  rw [Issue.createSubissue, posted_during, perform_bind, hlabels, andThen_ok,
    posted_bind, ← show posted s₁ = posted s from hposted]
  · exact posted_gh hcommand s₁
  · intro answer
    split
    · exact .throw _
    · exact (preserves_posted (Issue.spares_commentWithProgram _ _)).bind fun _ => .pure _

theorem posted_update {title : String} (h : title ≠ "") (n : String) (s : Session) :
    posted (perform (Issue.update .program n (some title) none) s).2 =
      posted s ++ [("edit", [.text n, .text "--title", .text title])] := by
  have htitle := Issue.nonEmpty_of_ne h
  rw [Issue.snd_update .program n (.inl (by simp [htitle])), htitle, posted]
  refine (congrArg posts (issueCommands_answerGh (by decide) rfl s)).trans ?_
  rw [posts_append]
  rfl

/-! ### The issue of a judgement -/

theorem placeholder_ne_empty (issue comment : String) : placeholder issue comment ≠ "" := by
  unfold placeholder Judgement.parentLine
  intro h
  simp only [String.append_eq_empty_iff] at h
  exact absurd h.1.1.1.1 (by decide)

def announcement (r : JudgeRequest) (base comment : String) : IssueCommand :=
  match Issue.nonEmpty r.subissue with
  | some n => ("edit", [.text n, .text "--title", .text (placeholder r.issue comment)])
  | none => ("create", creationArgs (Judgement.title r.issue base r.head) (placeholder r.issue comment)
      Issue.judgementLabels)

theorem posted_openSubissue (r : JudgeRequest) (base comment : String) (s : Session) :
    posted (perform (openSubissue r base comment) s).2 = posted s ++ [announcement r base comment] := by
  unfold openSubissue announcement
  cases Issue.nonEmpty r.subissue with
  | some n =>
    refine (posted_bind (fun _ => .bind .get fun _ => .pure _) _ s).trans ?_
    exact posted_update (placeholder_ne_empty _ _) n s
  | none => exact (posted_bind (fun _ => .pure _) _ s).trans (posted_createSubissue _ _ _ _ s)

/-! ### The request -/

/-- Something to judge: the branch to compare with, the workplan and the change. -/
structure Case where
  base : String
  workplan : String
  change : Change

/-- Looks for something to judge. Where there is nothing, it is known what to answer. -/
def examine (r : JudgeRequest) : Action (Except Datum Case) := do
  let _ ← suspendSearch r.disableSearch
  let base ← baseOf r
  refusePull r
  let workplan ← Issue.body .program r.issue
  let change ← changeOf r base
  if Judgement.isEmptyDiff base r.head r.reasoning change.diff then
    return .error (.dict [("error", .text ("No changes found between " ++ base ++ " and " ++ r.head)),
      ("base_commit", .text change.baseCommit), ("head_commit", .text change.headCommit)])
  return .ok ⟨base, ← ofExcept (textOf workplan), change⟩

def takeUp (r : JudgeRequest) (model : String) (saved : Bool) : Except Datum Case → Action Datum
  | .error answer => pure answer
  | .ok c => do
    let (url, number) ← startJudgement r model c.base c.workplan c.change saved
    restoreSearch r.disableSearch saved
    return .dict [("subissue_url", .text url), ("subissue_number", Datum.ofOption (number.map .text))]

theorem judgeSuspended_eq (r : JudgeRequest) (model : String) (saved : Bool) :
    judgeSuspended r model saved = examine r >>= takeUp r model saved := by
  simp only [judgeSuspended, examine, bind_assoc]
  refine bind_congr fun _ => bind_congr fun base => bind_congr fun _ => bind_congr fun workplan =>
    bind_congr fun change => ?_
  split
  · rfl
  · rw [bind_assoc]
    rfl

/-- The commands that have created issues and edited them, and the model. -/
def lookout (s : Session) : List IssueCommand × Option String := (posted s, s.settings.model)

theorem preserves_lookout {α : Type} {act : Action α} (h : Spares act) : Preserves lookout act :=
  h.comp fun f => (f.posts, f.standing.settings.model)

theorem lookout_examine (r : JudgeRequest) : Preserves lookout (examine r) := by
  have hswitchless : Switchless lookout := fun _ _ => rfl
  refine (hswitchless.preserves_suspendSearch (fun _ => preserves_lookout (quiet_info _).spares) _).bind fun _ => ?_
  refine (preserves_lookout (quiet_baseOf r).spares).bind fun base => ?_
  refine (preserves_lookout (spares_refusePull r)).bind fun _ => ?_
  refine (preserves_lookout (Issue.spares_body _ _)).bind fun _ => ?_
  refine (preserves_lookout (spares_changeOf r base)).bind fun _ => ?_
  exact .ite (.pure _) (.bind (.ofExcept _) fun _ => .pure _)

def submission (r : JudgeRequest) (model workplan : String) (s : Session) : String :=
  Comment.submission
    { status := "Generating judgement...", model, searchGrounding := s.settings.searchGrounding.getD false, version
      urls := some (Comment.urls workplan), reasoning := r.reasoning, timestamp := s.clock }

theorem perform_submissionComment (hmodel : s.settings.model = some model) (workplan : String) :
    perform (submissionComment "Generating judgement..." r.reasoning (Comment.urls workplan)) s =
      (.ok (submission r model workplan s), { s with clock := s.clock.add s.clockStep }) := by
  simp only [submissionComment, theModel, now, perform_bind, perform_get, andThen_ok, hmodel, perform_pure, perform_set]
  rfl

theorem posted_startJudgement (hmodel : s.settings.model = some model) (base workplan : String) (change : Change)
    (saved : Bool) :
    posted (perform (startJudgement r model base workplan change saved) s).2 =
      posted s ++ [announcement r base (submission r model workplan s)] := by
  rw [startJudgement, perform_bind, perform_submissionComment hmodel, andThen_ok, posted_bind]
  · exact posted_openSubissue _ _ _ _
  · intro p
    refine (preserves_posted (quiet_info _).spares).bind fun _ => (preserves_posted (quiet_info _).spares).bind fun _ => ?_
    refine (preserves_posted (quiet_originOf _ _).spares).bind fun _ => .bind .get fun _ => ?_
    exact .bind (.modify fun _ => rfl) fun _ => .pure _

theorem switchless_posted : Switchless posted := fun _ _ => rfl

/-- With a model, a request posts what it posts when it takes up what it has found. -/
theorem posted_judgeWorkplan (hmodel : s.settings.model = some model) :
    posted (perform (judgeWorkplan r) s).2 =
      posted (perform (examine r >>= takeUp r model (s.settings.searchGrounding.getD true)) s).2 := by
  have hready : perform theModel s = (.ok model, s) := by
    simp only [theModel, perform_bind, perform_get, andThen_ok, hmodel, perform_pure]
  rw [judgeWorkplan, posted_during, perform_bind,
    perform_guardingSearch_ok _ _ hready, andThen_ok, searchSetting, bind_assoc, perform_bind, perform_get, andThen_ok,
    pure_bind, posted_bind fun _ => .pure _, switchless_posted.view_guardingSearch, judgeSuspended_eq]

/-- A request finds something to judge, and a model to judge it. -/
def FindsCase (r : JudgeRequest) (s : Session) (model : String) (c : Case) (s₁ : Session) : Prop :=
  s.settings.model = some model ∧ perform (examine r) s = (.ok (.ok c), s₁)

theorem posted_of_findsCase {c : Case} (h : FindsCase r s model c s₁) :
    posted (perform (judgeWorkplan r) s).2 = posted s ++ [announcement r c.base (submission r model c.workplan s₁)] := by
  obtain ⟨hmodel, hexamine⟩ := h
  have hlookout := lookout_examine r s
  rw [hexamine, lookout, lookout, Prod.mk.injEq] at hlookout
  rw [posted_judgeWorkplan hmodel, perform_bind, hexamine, andThen_ok, takeUp, posted_bind, ← hlookout.1]
  · exact posted_startJudgement (hlookout.2.trans hmodel) _ _ _ _
  · exact fun _ => (switchless_posted.sets_restoreSearch _ _).preserves.bind fun _ => .pure _

theorem posted_of_not_findsCase (h : ¬ ∃ model c s₁, FindsCase r s model c s₁) :
    posted (perform (judgeWorkplan r) s).2 = posted s := by
  rcases perform_theModel s with ⟨model, hmodel, -⟩ | ⟨hmodel, e, hrun⟩
  · have hposted := (lookout_examine r).comp Prod.fst s
    rw [posted_judgeWorkplan hmodel, perform_bind]
    rcases hexamine : perform (examine r) s with ⟨e | ⟨answer | c⟩, s₁⟩
    · rw [hexamine] at hposted
      exact hposted
    · rw [hexamine] at hposted
      exact hposted
    · exact absurd ⟨model, c, s₁, hmodel, hexamine⟩ h
  · have hfails : Ends theModel s (fun _ => False) fun t => posted t = posted s := by rw [Ends, hrun]
    have hguard : Ends (guardingSearch r.disableSearch true theModel) s (fun _ => False) fun t => posted t = posted s := by
      refine hfails.tryCatch fun _ t ht => ?_
      obtain ⟨⟨⟩, t', hrestore, ht'⟩ := switchless_posted.sets_restoreSearch r.disableSearch true t
      exact .bind_of_ok hrestore (ht'.trans ht)
    exact Ends.snd (P := fun t => posted t = posted s) (.during (hguard.bind fun _ _ h => h.elim) _)

theorem content_of_creation (h : Issue.nonEmpty r.subissue = none) (base comment : String) :
    (announcement r base comment).1 = "create" ∧ contentOf (announcement r base comment) =
      ⟨some (Judgement.title r.issue base r.head), some (placeholder r.issue comment)⟩ := by
  rw [announcement, h]
  exact ⟨rfl, by simp [contentOf, creationArgs, valueOf, argText]⟩

theorem content_of_edit {n : String} (h : Issue.nonEmpty r.subissue = some n) (base comment : String) :
    (announcement r base comment).1 = "edit" ∧ (announcement r base comment).2.head? = some (.text n) ∧
      contentOf (announcement r base comment) = ⟨some (placeholder r.issue comment), none⟩ := by
  rw [announcement, h]
  exact ⟨rfl, rfl, by simp [contentOf, valueOf, argText]⟩

/-- A request that finds something to judge posts one command. A new issue gets the title of the judgement and the
placeholder as its body. An issue that the request names gets the placeholder as its title and no body. So the
placeholder is announced as it should be exactly if the issue is new. A request that finds nothing posts nothing. -/
theorem placeholder_is_body_iff_created (r : JudgeRequest) (s : Session) :
    (∀ model c s₁, FindsCase r s model c s₁ → ∃ p, posted (perform (judgeWorkplan r) s).2 = posted s ++ [p] ∧
      let title := Judgement.title r.issue c.base r.head
      let body := placeholder r.issue (submission r model c.workplan s₁)
      (Issue.nonEmpty r.subissue = none → p.1 = "create" ∧ contentOf p = ⟨some title, some body⟩) ∧
      (∀ n, Issue.nonEmpty r.subissue = some n →
        p.1 = "edit" ∧ p.2.head? = some (.text n) ∧ contentOf p = ⟨some body, none⟩) ∧
      ((contentOf p).IsAnnouncement title body ↔ Issue.nonEmpty r.subissue = none)) ∧
    ((¬ ∃ model c s₁, FindsCase r s model c s₁) → posted (perform (judgeWorkplan r) s).2 = posted s) := by
  refine ⟨fun model c s₁ h => ?_, posted_of_not_findsCase⟩
  refine ⟨_, posted_of_findsCase h, fun hnone => content_of_creation hnone _ _, fun n hn => content_of_edit hn _ _, ?_⟩
  cases hsubissue : Issue.nonEmpty r.subissue with
  | none =>
    rw [(content_of_creation hsubissue _ _).2]
    exact iff_of_true ⟨rfl, fun t ht => (Option.some.inj ht).symm⟩ rfl
  | some n =>
    rw [(content_of_edit hsubissue _ _).2.2]
    exact iff_of_false (fun h => nomatch h.1) (by simp)

def changedSession : Session :=
  { settings := { model := some "gemini-2.5-pro" }
    git := [{ args := ["rev-parse"], stdout := "c0ffee\n".toUTF8 }, { args := ["diff"], stdout := "+x\n".toUTF8 }]
    gh := [{ args := ["issue", "view"], stdout := "\x7b\"body\": \"Plan\"\x7d".toUTF8 }, { args := ["issue", "edit"] }] }

def repeatedJudgement : JudgeRequest := { issue := "1", base := "dev", head := "topic", subissue := some "9" }

/-- An issue that is named loses its title to the placeholder. -/
theorem named_issue_gets_placeholder_as_title :
    ∃ model c s₁ p, FindsCase repeatedJudgement changedSession model c s₁ ∧
      posted (perform (judgeWorkplan repeatedJudgement) changedSession).2 = [p] ∧ p.2.head? = some (.text "9") ∧
      contentOf p = ⟨some (placeholder "1" (submission repeatedJudgement model c.workplan s₁)), none⟩ := by
  have hfinds : ((perform (examine repeatedJudgement) changedSession).1.toOption.bind Except.toOption).isSome = true := by
    decide +kernel
  rcases hexamine : perform (examine repeatedJudgement) changedSession with ⟨e | ⟨answer | c⟩, s₁⟩
  · rw [hexamine] at hfinds
    cases hfinds
  · rw [hexamine] at hfinds
    cases hfinds
  · have hcase : FindsCase repeatedJudgement changedSession "gemini-2.5-pro" c s₁ := ⟨rfl, hexamine⟩
    obtain ⟨p, hposted, -, hedit, -⟩ := (placeholder_is_body_iff_created repeatedJudgement changedSession).1 _ c s₁ hcase
    obtain ⟨-, hissue, hcontent⟩ := hedit "9" rfl
    exact ⟨_, c, s₁, p, hcase, hposted, hissue, hcontent⟩

end IssuePlanner.Server
