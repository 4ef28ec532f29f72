import IssuePlanner.Proofs.Server.Frame

/-! The search switch across requests. A request that turns the switch off saves it and puts it back by hand. Creation
puts it back only if all goes well, revision only once its job is started, and judgement not where it finds nothing to
judge. Where there is no model to ask, curation and judgement put the switch on. In all other cases a request leaves
the switch as it was (`switch_answer_iff`). -/

namespace IssuePlanner

namespace Action

variable {α : Type} {s : Session}

/-! ### The switch -/

/-- The search switch of a session, if it has one. -/
def switch (s : Session) : Option Bool := s.settings.searchGrounding

def post (s : Session) : Option Bool × Nat := (switch s, s.jobs.length)

theorem Preserves.post {act : Action α} (h : Preserves desk act) : Preserves post act :=
  h.comp fun d => (d.1.searchGrounding, d.2.length)

theorem Steady.post {act : Action α} (h : Steady act) : Preserves post act := h.desk.post

theorem Steady.switch {act : Action α} (h : Steady act) : Preserves switch act := h.post.comp Prod.fst

/-- The switch after a request has put it to a value, which it does only if it asks for the switch to be off. -/
def turned (disable value : Bool) (x : Option Bool) : Option Bool := if disable then some value else x

theorem turned_turned (disable value value' : Bool) (x : Option Bool) :
    turned disable value (turned disable value' x) = turned disable value x := by
  cases disable <;> rfl

theorem turned_eq_some_iff (disable value v : Bool) :
    turned disable value (some v) = some v ↔ (disable = true → v = value) := by
  cases disable <;> simp [turned, eq_comm]

theorem sets_restoreSearch (disable saved : Bool) :
    Sets post (fun p => (turned disable saved p.1, p.2)) (restoreSearch disable saved) := by
  intro s
  cases disable with
  | false => exact ⟨(), s, rfl, rfl⟩
  | true => exact ⟨(), _, rfl, rfl⟩

theorem logless_post : Logless post := fun _ _ _ => rfl

theorem perform_searchSetting {v : Bool} (hv : switch s = some v) : perform searchSetting s = (.ok v, s) := by
  have hsaved : s.settings.searchGrounding.getD true = v := by
    rw [show s.settings.searchGrounding = some v from hv]
    rfl
  simp only [searchSetting, perform_bind, perform_get, andThen_ok, perform_pure, hsaved]

/-- A request goes on with the switch turned off if it asks for that, and knows what it was before. -/
theorem perform_suspendSearch {v : Bool} (disable : Bool) (hv : switch s = some v) :
    ∃ s', perform (suspendSearch disable) s = (.ok v, s') ∧
      post s' = (turned disable false (some v), s.jobs.length) := by
  rw [suspendSearch, perform_bind, perform_searchSetting hv, andThen_ok]
  cases disable with
  | false => exact ⟨s, rfl, by rw [post, hv]; rfl⟩
  | true =>
    obtain ⟨⟨⟩, s₁, hset, hpost₁⟩ := sets_restoreSearch true false s
    obtain ⟨⟨⟩, s₂, hinfo, hpost₂⟩ := logless_post.sets_info "Search grounding temporarily disabled for this request" s₁
    refine ⟨s₂, ?_, hpost₂.trans hpost₁⟩
    simp only [restoreSearch, if_true, perform_bind] at hset ⊢
    rw [hset, andThen_ok, perform_bind, hinfo, andThen_ok, perform_pure]

theorem ends_suspendSearch {v disable : Bool} {k : Bool → Action α} {G : Option Bool × Nat → Option Bool × Nat → Prop}
    (hv : switch s = some v) (hk : Commits post G (k v)) :
    Ends (suspendSearch disable >>= k) s (fun s' => G (turned disable false (some v), s.jobs.length) (post s'))
      fun s' => post s' = (turned disable false (some v), s.jobs.length) := by
  obtain ⟨s₁, hrun, hpost⟩ := perform_suspendSearch disable hv
  refine .bind_of_ok hrun ?_
  have hend := hk s₁
  rwa [hpost] at hend

end Action

namespace Server

open IssuePlanner.Action Generation

variable {s : Session} {v : Bool}

/-! ### Leaving jobs behind -/

def bench (s : Session) : Option Bool × List Job := (switch s, s.jobs)

theorem preserves_bench {α : Type} {act : Action α} (h : Steady act) : Preserves bench act :=
  h.comp fun st => (st.settings.searchGrounding, st.jobs)

theorem sets_start (job : Job) : Sets bench (fun b => (b.1, b.2 ++ [job])) (start job) :=
  fun _ => ⟨(), _, rfl, rfl⟩

/-- One more job is left behind, of which `P` holds. -/
def Gains (P : Job → Prop) (b c : Option Bool × List Job) : Prop := ∃ job, P job ∧ c = (b.1, b.2 ++ [job])

def OneMore (p q : Option Bool × Nat) : Prop := q = (p.1, p.2 + 1)

theorem commits_post {α : Type} {act : Action α} {P : Job → Prop} (h : Commits bench (Gains P) act) :
    Commits post OneMore act := by
  refine fun s => (h s).mono ?_ fun t ht => congrArg (fun b : Option Bool × List Job => (b.1, b.2.length)) ht
  rintro t ⟨job, -, ht⟩
  have hlength := congrArg (fun b : Option Bool × List Job => (b.1, b.2.length)) ht
  rwa [List.length_append] at hlength

theorem commits_startDraft (r : CreateRequest) (issue : String) (searchGrounding : Bool) (urls : List String) :
    Commits bench (Gains fun job => ∃ o channel, job = .draft o channel) (startDraft r issue searchGrounding urls) := by
  refine (preserves_bench quiet_theModel.steady).bind_commits fun _ => ?_
  have hreasoning : Preserves bench (modify fun s =>
      { s with settings := { s.settings with reasoning := some r.reasoning } } : Action Unit) := .modify fun _ => rfl
  refine hreasoning.bind_commits fun _ => (preserves_bench (quiet_info _).steady).bind_commits fun _ => ?_
  refine (preserves_bench (quiet_originOf _ _).steady).bind_commits fun _ => Preserves.get.bind_commits fun _ => ?_
  exact (sets_start _).commits.mono fun _ _ hb => ⟨_, ⟨_, _, rfl⟩, hb⟩

theorem commits_startRevision (r : ReviseRequest) (workplan : Datum) (searchGrounding : Bool) (urls : List String) :
    Commits bench (Gains fun job => ∃ o channel, job = .revise o channel ∧ o.issue = r.issue)
      (startRevision r workplan searchGrounding urls) := by
  refine (preserves_bench quiet_theModel.steady).bind_commits fun _ => ?_
  refine (preserves_bench (quiet_info _).steady).bind_commits fun _ => ?_
  refine (preserves_bench (quiet_originOf _ _).steady).bind_commits fun _ => Preserves.get.bind_commits fun _ => ?_
  exact (sets_start _).commits.mono fun _ _ hb => ⟨_, ⟨_, _, rfl, rfl⟩, hb⟩

theorem steady_openSubissue (r : JudgeRequest) (base comment : String) : Steady (openSubissue r base comment) := by
  unfold openSubissue
  split
  · exact (Issue.steady_update _ _ _ _).bind fun _ => .bind .get fun _ => .pure _
  · exact (Issue.steady_createJudgement _ _ _ _).bind fun _ => .pure _

theorem commits_startJudgement (r : JudgeRequest) (model base workplan : String) (change : Change)
    (searchGrounding : Bool) : Commits bench (Gains fun job => ∃ o channel, job = .judge o channel)
      (startJudgement r model base workplan change searchGrounding) := by
  refine (preserves_bench (quiet_submissionComment _ _ _).steady).bind_commits fun _ => ?_
  refine (preserves_bench (steady_openSubissue _ _ _)).bind_commits fun _ => ?_
  refine (preserves_bench (quiet_info _).steady).bind_commits fun _ => ?_
  refine (preserves_bench (quiet_info _).steady).bind_commits fun _ => ?_
  refine (preserves_bench (quiet_originOf _ _).steady).bind_commits fun _ => Preserves.get.bind_commits fun _ => ?_
  exact ((sets_start _).bind_pure _).commits.mono fun _ _ hb => ⟨_, ⟨_, _, rfl⟩, hb⟩

/-! ### The tools -/

theorem ends_guardingSearch {α : Type} {act : Action α} {P : Session → Prop} {p : Option Bool × Nat}
    (disable saved : Bool) (h : Ends act s P fun t => post t = p) :
    Ends (guardingSearch disable saved act) s P fun t => post t = (turned disable saved p.1, p.2) := by
  refine h.tryCatch fun e t ht => ?_
  refine ((sets_restoreSearch disable saved).ends t _).bind fun _ t' ht' => ?_
  rw [ht] at ht'
  exact ht'

theorem turned_self (disable v : Bool) : turned disable v (some v) = some v :=
  (turned_eq_some_iff disable v v).2 fun _ => rfl

theorem ends_createWorkplan (r : CreateRequest) (hv : switch s = some v) :
    Ends (createWorkplan r) s (fun s' => switch s' = some v)
      fun s' => switch s' = turned r.disableSearch false (some v) := by
  refine .during (.mono (ends_suspendSearch (G := fun p q => q.1 = turned r.disableSearch v p.1) hv ?_) ?_ ?_) _
  · refine (Issue.steady_create _ _ _ _).post.bind_commits fun _ => (quiet_info _).steady.post.bind_commits fun _ => ?_
    refine (quiet_submissionComment _ _ _).steady.post.bind_commits fun _ => ?_
    refine (Issue.spares_comment _ _ _).steady.post.bind_commits fun _ => ?_
    have hrestore (a : Datum) := (sets_restoreSearch r.disableSearch v).bind_pure fun _ => a
    dsimp only
    split
    · refine (quiet_info _).steady.post.bind_commits fun _ => (hrestore _).commits.mono fun p q hq => ?_
      rw [hq]
    · refine (commits_post (commits_startDraft _ _ _ _)).bind_sets (fun _ => hrestore _) fun p q hq => ?_
      rw [hq]
  · intro t ht
    rwa [turned_turned, turned_self] at ht
  · exact fun t ht => congrArg Prod.fst ht

/-- The workplan that a request is to revise is there. -/
def Finds (s : Session) (issue : String) : Prop :=
  ∃ workplan, (perform (Issue.body .program issue) s).1 = .ok workplan ∧ workplan.holds = true

theorem steady_addressOf (issue : String) : Steady (addressOf issue) :=
  (steady_gh _).bind fun _ => (Issue.quiet_parseJson _).steady.bind fun _ => .ofExcept _

/-- A revision that does not find its workplan leaves the switch alone. -/
theorem post_reviseWorkplan_of_not_finds {r : ReviseRequest} (h : ¬ Finds s r.issue) :
    post (perform (reviseWorkplan r) s).2 = post s := by
  have hpost := (Issue.spares_body .program r.issue).steady.post s
  refine Ends.snd (P := fun t => post t = post s) (.during ?_ _)
  rcases hbody : perform (Issue.body .program r.issue) s with ⟨e | workplan, s₁⟩
  · rw [hbody] at hpost
    unfold Ends
    rw [perform_bind, hbody]
    exact hpost
  · rw [hbody] at hpost
    refine .bind_of_ok hbody ?_
    have hholds : workplan.holds = false := by
      cases hw : workplan.holds with
      | false => rfl
      | true => exact absurd ⟨workplan, by rw [hbody], hw⟩ h
    rw [hholds]
    exact hpost

/-- Revision turns the switch off once it has found the workplan, and puts it back when it leaves a job behind. -/
theorem post_reviseWorkplan {r : ReviseRequest} (hv : switch s = some v) (h : Finds s r.issue) :
    post (perform (reviseWorkplan r) s).2 = (turned r.disableSearch false (some v), s.jobs.length) ∨
      post (perform (reviseWorkplan r) s).2 = (some v, s.jobs.length + 1) := by
  obtain ⟨workplan, hok, hholds⟩ := h
  have hpost := (Issue.spares_body .program r.issue).steady.post s
  rcases hbody : perform (Issue.body .program r.issue) s with ⟨e | w, s₁⟩
  · rw [hbody] at hok
    cases hok
  rw [hbody] at hok hpost
  cases hok
  obtain ⟨hswitch, hjobs⟩ := Prod.ext_iff.1 hpost
  obtain ⟨s₂, hsuspend, hpost₂⟩ := perform_suspendSearch r.disableSearch (hswitch.trans hv)
  rw [show s₁.jobs.length = s.jobs.length from hjobs] at hpost₂
  refine Ends.snd (P := fun t => post t = (turned r.disableSearch false (some v), s.jobs.length) ∨
    post t = (some v, s.jobs.length + 1)) (.during (.bind_of_ok hbody ?_) _)
  rw [hholds]
  refine .bind_of_ok hsuspend ?_
  refine .bind_preserves (quiet_submissionComment _ _ _).steady.post (fun t ht => .inl (ht.trans hpost₂)) fun _ t₁ ht₁ => ?_
  rw [hpost₂] at ht₁
  refine .bind_preserves (Issue.spares_comment _ _ _).steady.post (fun t ht => .inl (ht.trans ht₁)) fun _ t₂ ht₂ => ?_
  rw [ht₁] at ht₂
  refine .bind ((commits_post (commits_startRevision _ _ _ _) t₂).mono (fun _ ht => ht) fun _ ht => .inl (ht.trans ht₂))
    fun _ t₃ ht₃ => ?_
  rw [ht₂] at ht₃
  refine ((sets_restoreSearch r.disableSearch v).ends t₃ _).bind fun _ t₄ ht₄ => ?_
  rw [ht₃, turned_turned, turned_self] at ht₄
  -- the address may be missing, but the job is started and the switch is back by then
  refine .bind_preserves (steady_addressOf _).post (fun t ht => .inr (ht.trans ht₄)) fun _ t₅ ht₅ => ?_
  exact .inr (ht₅.trans ht₄)

/-! ### Requests that need a model -/

def Ready (s : Session) : Prop := s.settings.model.isSome ∧ s.manager.isSome

theorem perform_theModel (s : Session) :
    (∃ model, s.settings.model = some model ∧ perform theModel s = (.ok model, s)) ∨
      s.settings.model = none ∧ ∃ e, perform theModel s = (.error e, s) := by
  cases hmodel : s.settings.model with
  | none => exact .inr ⟨rfl, _, by simp only [theModel, perform_bind, perform_get, andThen_ok, hmodel]; rfl⟩
  | some model => exact .inl ⟨model, rfl, by simp only [theModel, perform_bind, perform_get, andThen_ok, hmodel]; rfl⟩

theorem perform_readyModel (s : Session) :
    Ready s ∧ (∃ model, perform readyModel s = (.ok model, s)) ∨
      ¬ Ready s ∧ ∃ e, perform readyModel s = (.error e, s) := by
  unfold readyModel Ready
  rw [perform_bind]
  rcases perform_theModel s with ⟨model, hmodel, hrun⟩ | ⟨hmodel, e, hrun⟩
  · rw [hrun, andThen_ok]
    cases hmanager : s.manager with
    | none =>
      refine .inr ⟨by simp, .managerMissing, ?_⟩
      simp only [perform_bind, perform_get, andThen_ok, hmanager]
      rfl
    | some m =>
      refine .inl ⟨by simp [hmodel], model, ?_⟩
      simp only [perform_bind, perform_get, andThen_ok, hmanager]
      rfl
  · rw [hrun]
    exact .inr ⟨by simp [hmodel], e, rfl⟩

theorem perform_guardingSearch_ok {α : Type} {act : Action α} {a : α} {s' : Session} (disable saved : Bool)
    (h : perform act s = (.ok a, s')) : perform (guardingSearch disable saved act) s = (.ok a, s') := by
  rw [guardingSearch, perform_tryCatch, h, orElse_ok]

theorem ends_guardingSearch_of_error {α : Type} {act : Action α} {e : Failure} (disable : Bool) (hv : switch s = some v)
    (h : perform act s = (.error e, s)) :
    Ends (guardingSearch disable true act) s (fun _ => False) fun t => switch t = turned disable true (some v) := by
  have hfails : Ends act s (fun _ => False) fun t => post t = post s := by
    rw [Ends, h]
  refine (ends_guardingSearch disable true hfails).mono (fun _ ht => ht) fun t ht => ?_
  rw [← hv]
  exact congrArg Prod.fst ht

theorem switch_curateContext {r : CurateRequest} (hv : switch s = some v) (h : Ready s) :
    switch (perform (curateContext r) s).2 = some v := by
  rcases perform_readyModel s with ⟨-, model, hrun⟩ | ⟨hnot, -⟩
  · refine Ends.snd (P := fun t => switch t = some v) (.during ?_ _)
    refine .bind_of_ok (perform_guardingSearch_ok _ _ hrun) (.bind_of_ok (perform_searchSetting hv) ?_)
    have hcurate : Ends (curateSuspended r model v) s (fun t => switch t = some v)
        fun t => post t = (turned r.disableSearch false (some v), s.jobs.length) := by
      refine .mono (ends_suspendSearch (G := fun p q => q.1 = turned r.disableSearch v p.1) hv ?_) ?_ fun _ ht => ht
      · refine (Curation.preserves_curate rfl).post.bind_commits fun message => ?_
        refine ((sets_restoreSearch r.disableSearch v).bind_pure fun _ => message).commits.mono fun p q hq => ?_
        rw [hq]
      · intro t ht
        rwa [turned_turned, turned_self] at ht
    refine ((ends_guardingSearch r.disableSearch v hcurate).mono (fun _ ht => ht) fun t ht => ?_).bind fun _ t ht => ht
    rw [turned_turned, turned_self] at ht
    exact congrArg Prod.fst ht
  · exact absurd h hnot

theorem switch_curateContext_of_not_ready {r : CurateRequest} (hv : switch s = some v) (h : ¬ Ready s) :
    switch (perform (curateContext r) s).2 = turned r.disableSearch true (some v) := by
  rcases perform_readyModel s with ⟨hready, -⟩ | ⟨-, e, hrun⟩
  · exact absurd hready h
  · refine Ends.snd (P := fun t => switch t = turned r.disableSearch true (some v)) (.during ?_ _)
    exact (ends_guardingSearch_of_error _ hv hrun).bind fun _ _ ht => ht.elim

/-- Judgement puts the switch back if it fails or leaves a job behind. Where there is nothing to judge it does not. -/
theorem ends_judgeWorkplan {r : JudgeRequest} (hv : switch s = some v) (h : s.settings.model.isSome) :
    Ends (judgeWorkplan r) s
      (fun t => post t = (turned r.disableSearch false (some v), s.jobs.length) ∨ post t = (some v, s.jobs.length + 1))
      fun t => post t = (some v, s.jobs.length) := by
  rcases perform_theModel s with ⟨model, -, hrun⟩ | ⟨hnone, -⟩
  · refine .during (.bind_of_ok (perform_guardingSearch_ok _ _ hrun) (.bind_of_ok (perform_searchSetting hv) ?_)) _
    have hjudge : Ends (judgeSuspended r model v) s
        (fun t => post t = (turned r.disableSearch false (some v), s.jobs.length) ∨
          post t = (some v, s.jobs.length + 1))
        fun t => post t = (turned r.disableSearch false (some v), s.jobs.length) := by
      refine .mono (ends_suspendSearch
        (G := fun p q => q = p ∨ q = (turned r.disableSearch v p.1, p.2 + 1)) hv ?_) ?_ fun _ ht => ht
      · refine (quiet_baseOf r).steady.post.bind_commits fun base => (spares_refusePull r).steady.post.bind_commits fun _ => ?_
        refine (Issue.spares_body _ _).steady.post.bind_commits fun _ => (spares_changeOf r base).steady.post.bind_commits fun _ => ?_
        dsimp only
        split
        -- nothing to judge: the answer is given with the switch still off
        · exact fun t => .inl rfl
        · refine Preserves.bind_commits (.ofExcept _) fun _ => ?_
          refine (commits_post (commits_startJudgement _ _ _ _ _ _)).bind_sets
            (fun _ => (sets_restoreSearch r.disableSearch v).bind_pure _) fun p q hq => .inr ?_
          rw [hq]
      · intro t ht
        rwa [turned_turned, turned_self] at ht
    refine ((ends_guardingSearch r.disableSearch v hjudge).mono (fun _ ht => ht) fun t ht => ?_).bind fun _ t ht => ht
    rwa [turned_turned, turned_self] at ht
  · rw [hnone] at h
    cases h

theorem switch_judgeWorkplan_of_none {r : JudgeRequest} (hv : switch s = some v) (h : ¬ s.settings.model.isSome) :
    switch (perform (judgeWorkplan r) s).2 = turned r.disableSearch true (some v) := by
  rcases perform_theModel s with ⟨model, hmodel, -⟩ | ⟨-, e, hrun⟩
  · rw [hmodel] at h
    exact absurd rfl h
  · refine Ends.snd (P := fun t => switch t = turned r.disableSearch true (some v)) (.during ?_ _)
    exact (ends_guardingSearch_of_error _ hv hrun).bind fun _ _ ht => ht.elim

/-! ### Requests in a row -/

/-- A request asks for the switch to be off while it is answered. -/
def Request.disablesSearch : Request → Bool
  | .createWorkplan r => r.disableSearch
  | .getWorkplan _ => false
  | .reviseWorkplan r => r.disableSearch
  | .curateContext r => r.disableSearch
  | .judgeWorkplan r => r.disableSearch

def Starts (r : Request) (s : Session) : Prop := s.jobs.length < (perform r.answer s).2.jobs.length

/-- When a request that turns the switch off leaves it as it was, which is `v`. A creation has to succeed, and a
revision that finds its workplan has to start a job, unless they find the switch off. A curation has to find the switch
on or be ready. A judgement without a model has to find the switch on, and one with a model has to find it off, to fail
or to start a job. -/
def PutsBack (v : Bool) (s : Session) (r : Request) : Prop :=
  match r with
  | .createWorkplan _ => v = true → ∃ a, (perform r.answer s).1 = .ok a
  | .getWorkplan _ => True
  | .reviseWorkplan q => v = true → Finds s q.issue → Starts r s
  | .curateContext _ => v = false → Ready s
  | .judgeWorkplan _ =>
    if s.settings.model.isSome then v = true → (∃ e, (perform r.answer s).1 = .error e) ∨ Starts r s else v = true

theorem switch_createWorkplan_iff (hv : switch s = some v) (q : CreateRequest) :
    switch (perform (createWorkplan q) s).2 = some v ↔
      (q.disableSearch = true → v = true → ∃ a, (perform (createWorkplan q) s).1 = .ok a) := by
  have h := ends_createWorkplan q hv
  unfold Ends at h
  rcases hrun : perform (createWorkplan q) s with ⟨e | a, s'⟩
  · rw [hrun] at h
    have hswitch : switch s' = turned q.disableSearch false (some v) := h
    rw [hswitch, turned_eq_some_iff]
    simp
  · rw [hrun] at h
    exact iff_of_true h fun _ _ => ⟨a, rfl⟩

theorem switch_reviseWorkplan_iff (hv : switch s = some v) (q : ReviseRequest) :
    switch (perform (reviseWorkplan q) s).2 = some v ↔
      (q.disableSearch = true → v = true → Finds s q.issue → Starts (.reviseWorkplan q) s) := by
  have hstarts : Starts (.reviseWorkplan q) s ↔ s.jobs.length < (post (perform (reviseWorkplan q) s).2).2 := Iff.rfl
  have hswitch : switch (perform (reviseWorkplan q) s).2 = (post (perform (reviseWorkplan q) s).2).1 := rfl
  rw [hstarts, hswitch]
  by_cases hfinds : Finds s q.issue
  · rcases post_reviseWorkplan hv hfinds with h | h
    · rw [h, turned_eq_some_iff]
      simp [hfinds]
    · rw [h]
      simp
  · rw [post_reviseWorkplan_of_not_finds hfinds]
    exact iff_of_true hv fun _ _ hf => absurd hf hfinds

theorem switch_curateContext_iff (hv : switch s = some v) (q : CurateRequest) :
    switch (perform (curateContext q) s).2 = some v ↔ (q.disableSearch = true → v = false → Ready s) := by
  by_cases hready : Ready s
  · exact iff_of_true (switch_curateContext hv hready) fun _ _ => hready
  · rw [switch_curateContext_of_not_ready hv hready, turned_eq_some_iff]
    simp [hready]

theorem switch_judgeWorkplan_iff (hv : switch s = some v) (q : JudgeRequest) :
    switch (perform (judgeWorkplan q) s).2 = some v ↔ (q.disableSearch = true → if s.settings.model.isSome then
      v = true → (∃ e, (perform (judgeWorkplan q) s).1 = .error e) ∨ Starts (.judgeWorkplan q) s else v = true) := by
  by_cases hmodel : s.settings.model.isSome = true
  · rw [if_pos hmodel]
    have hstarts : Starts (.judgeWorkplan q) s ↔ s.jobs.length < (post (perform (judgeWorkplan q) s).2).2 := Iff.rfl
    have h := ends_judgeWorkplan (r := q) hv hmodel
    rw [hstarts]
    unfold Ends at h
    rcases hrun : perform (judgeWorkplan q) s with ⟨e | a, s'⟩
    · rw [hrun] at h
      exact iff_of_true (congrArg Prod.fst h) fun _ _ => .inl ⟨e, rfl⟩
    · rw [hrun] at h
      have hswitch : switch s' = (post s').1 := rfl
      rw [hswitch]
      rcases h with h | h
      · rw [h, turned_eq_some_iff]
        simp
      · rw [h]
        simp
  · rw [if_neg hmodel, switch_judgeWorkplan_of_none hv hmodel, turned_eq_some_iff]

theorem switch_answer_iff (hv : switch s = some v) (r : Request) :
    switch (perform r.answer s).2 = some v ↔ (r.disablesSearch = true → PutsBack v s r) := by
  cases r with
  | createWorkplan q => exact switch_createWorkplan_iff hv q
  | getWorkplan issue =>
    have hsteady : Steady (getWorkplan issue) := .during (Issue.spares_body _ _).steady _
    exact iff_of_true ((hsteady.switch s).trans hv) fun _ => trivial
  | reviseWorkplan q => exact switch_reviseWorkplan_iff hv q
  | curateContext q => exact switch_curateContext_iff hv q
  | judgeWorkplan q => exact switch_judgeWorkplan_iff hv q

def afterAll (rs : List Request) (s : Session) : Session := rs.foldl (fun s r => (perform (serve r) s).2) s

/-- Each request in its turn puts the switch back or does not touch it. -/
def AllPutBack (v : Bool) : List Request → Session → Prop
  | [], _ => True
  | r :: rs, s => (r.disablesSearch = true → PutsBack v s r) ∧ AllPutBack v rs (perform (serve r) s).2

theorem preserves_workOff {γ : Type} (f : Standing → γ) (h : ∀ st, f { st with jobs := [] } = f st) :
    Preserves (fun s => f (standing s)) workOff := by
  refine .bind .get fun _ => .bind (.modify fun s => h (standing s)) fun _ => .bind (.forM fun job _ => ?_) fun _ => ?_
  · have hjob : Steady (runJob job) := job.steady_run.tryCatch fun _ => (quiet_record rfl).steady
    exact hjob.comp f
  · exact quiet_flush.steady.comp f

/-- Jobs do not touch the switch. -/
theorem switch_serve (r : Request) (s : Session) :
    switch (perform (serve r) s).2 = switch (perform r.answer s).2 := by
  rw [serve, settled, perform_bind, perform_outcome, andThen_ok]
  have hrest : Preserves switch (workOff >>= fun _ => (ofExcept (perform r.answer s).1 : Action Datum)) :=
    (preserves_workOff (fun st => st.settings.searchGrounding) fun _ => rfl).bind fun _ => .ofExcept _
  exact hrest _

theorem switch_afterAll {rs : List Request} (hv : switch s = some v) (h : AllPutBack v rs s) :
    switch (afterAll rs s) = some v := by
  induction rs generalizing s with
  | nil => exact hv
  | cons r rs ih =>
    have hr : switch (perform (serve r) s).2 = some v := by
      rw [switch_serve]
      exact (switch_answer_iff hv r).2 h.1
    exact ih hr h.2

theorem allPutBack_of_forall {rs : List Request} (h : ∀ r ∈ rs, r.disablesSearch = false) (v : Bool) (s : Session) :
    AllPutBack v rs s := by
  induction rs generalizing s with
  | nil => trivial
  | cons r rs ih =>
    refine ⟨fun hr => ?_, ih (fun q hq => h q (by simp [hq])) _⟩
    rw [h r (by simp)] at hr
    cases hr

/-- A request leaves the switch as it was exactly if it does not turn it off or puts it back, and that depends on how
far it gets. So a row of requests, with their jobs, leaves the switch as it was if each of them does, and in particular
if none of them turns it off. -/
theorem switch_kept_iff (hv : switch s = some v) :
    (∀ r : Request, switch (perform r.answer s).2 = some v ↔ (r.disablesSearch = true → PutsBack v s r)) ∧
      (∀ rs, AllPutBack v rs s → switch (afterAll rs s) = some v) ∧
      ∀ rs, (∀ r ∈ rs, r.disablesSearch = false) → switch (afterAll rs s) = some v :=
  ⟨switch_answer_iff hv, fun _ h => switch_afterAll hv h, fun _ h => switch_afterAll hv (allPutBack_of_forall h v s)⟩

/-- A session with the switch on and no issue program that would answer. -/
def offlineSession : Session := { settings := { model := some "gemini-2.5-pro", searchGrounding := some true } }

def offlineRequest : CreateRequest := { title := "Plan", description := "Do it", disableSearch := true }

/-- A creation that fails leaves the switch off. -/
theorem createWorkplan_leaves_switch_off :
    switch offlineSession = some true ∧
      switch (perform (createWorkplan offlineRequest) offlineSession).2 ≠ some true := by
  have hv : switch offlineSession = some true := rfl
  refine ⟨hv, fun h => ?_⟩
  obtain ⟨a, ha⟩ := ((switch_kept_iff hv).1 (.createWorkplan offlineRequest)).1 h rfl rfl
  have hfails : (perform (createWorkplan offlineRequest) offlineSession).1.toOption.isNone = true := by decide +kernel
  rw [show (perform (createWorkplan offlineRequest) offlineSession).1 = .ok a from ha] at hfails
  cases hfails

end Server

end IssuePlanner
