import IssuePlanner.Proofs.Curation.Independence
import IssuePlanner.Proofs.Server.Dispatch
import IssuePlanner.Proofs.Server.Switch

/-! Curation after other requests. A server remembers little from request to request, but a creation that starts a draft
leaves its mode behind, and later curations go by that mode and not by their own. So a curation does what it would do on
a fresh server with the mode of the last draft (`curation_follows_last_draft`). -/

namespace IssuePlanner.Server

open IssuePlanner.Action Model Generation Curation

variable {α : Type} {x y : Option String} {c c' : Bool} {s b : Session} {place : Place} {env : Environment} {st : Started}

/-! ### Two curations side by side -/

theorem switchless_ledger : Switchless ledger := fun _ _ => rfl

theorem agree_readyModel : Agree x y c c readyModel readyModel := by
  have hmodel : Agree x y c c theModel theModel := by
    refine .get_bind fun s t h => ?_
    rw [h.read (fun s => s.settings.model) fun _ => rfl]
    split
    · exact .pure _
    · exact .throw _
  refine hmodel.bind fun model => .get_bind fun s t h => ?_
  rw [h.isNone_manager]
  exact .ite (.throw_bind _ _ _) (.pure _)

theorem agree_guardingSearch {act act' : Action α} (disable saved saved' : Bool) (h : Agree x y c c' act act') :
    Agree x y c c' (guardingSearch disable saved act) (guardingSearch disable saved' act') :=
  h.tryCatch fun _ => (agree_restoreSearch _ _ _).bind fun _ => .throw _

def CurateRequest.order (r : CurateRequest) (model : String) : Order :=
  { model, task := r.task, output := r.output, reasoning := r.reasoning, depthLimit := r.depthLimit }

/-- What a curation does before it tells its detail. The model does not matter yet. -/
def opening (r : CurateRequest) : Action (List String × List String) := do
  let _ ← suspendSearch r.disableSearch
  survey (r.order "")

theorem agree_opening (r : CurateRequest) : Agree x y true false (opening r) (opening r) :=
  agree_suspendSearch_bind _ fun _ _ => (agree_survey _).weaken fun hc => by cases hc

theorem tells_detail_curateContext (hready : Ready s) (hs : s.attended = true) (r : CurateRequest) :
    .log "info" (detailOf (s.settings.reasoning.getD r.reasoning)).message :: (perform (opening r) s).2.trace <:+
      (perform (curateContext r) s).2.trace := by
  have hrestore (disable saved : Bool) : Grows (restoreSearch disable saved) :=
    .ite (.of_preserves (.modify fun _ => rfl)) (.pure _)
  obtain ⟨saved, t, hsuspend, ht⟩ := switchless_ledger.sets_suspendSearch logless_ledger r.disableSearch s
  have hattended : t.attended = true := (congrArg Prod.fst ht).trans hs
  have hmode : t.settings.reasoning = s.settings.reasoning := congrArg (fun l => l.2.1) ht
  rcases perform_readyModel s with ⟨-, model, hrun⟩ | ⟨hnot, -⟩
  · have htold := tells_detail (o := r.order model) rfl hattended
    rw [Order.modeOn, hmode, CurateRequest.order] at htold
    rw [opening, perform_bind, hsuspend, andThen_ok]
    have hsetting : perform searchSetting s = (.ok (s.settings.searchGrounding.getD true), s) := rfl
    refine Ends.snd (P := fun u => _ <:+ u.trace)
      (.during (.bind_of_ok (perform_guardingSearch_ok _ _ hrun) (.bind_of_ok hsetting ?_)) _)
    refine Ends.bind (.tryCatch (.bind_of_ok hsuspend ?_) fun _ _ hu => Grows.ends ?_ hu) fun _ _ hu => (Grows.pure _).ends hu
    · exact (Ends.of_snd htold).bind fun _ _ hu => Grows.ends ((hrestore _ _).bind fun _ => .pure _) hu
    · exact (hrestore _ _).bind fun _ => .throw _
  · exact absurd hready hnot

theorem agree_curateContext {r : CurateRequest} {mode : String}
    (h : detailOf (x.getD r.reasoning) = detailOf (y.getD mode)) :
    Agree x y true false (curateContext r) (curateContext { r with reasoning := mode }) := by
  refine .during ((agree_guardingSearch _ _ _ agree_readyModel).bind_loose fun model => ?_) _
  refine agree_searchSetting_bind fun saved saved' => .bind (agree_guardingSearch _ _ _ ?_) fun _ => .pure _
  refine agree_suspendSearch_bind _ fun _ _ => (agree_curate rfl h).bind fun _ => ?_
  exact (agree_restoreSearch _ _ _).bind fun _ => .pure _

/-! ### What a server remembers -/

/-- What a session remembers from request to request, as far as curation is concerned. -/
structure Memory where
  attended : Bool
  provision : Provision
  model : Option String
  mode : Option String

def memoryOf (st : Standing) : Memory := ⟨st.attended, st.provision, st.settings.model, st.settings.reasoning⟩

def memory (s : Session) : Memory := memoryOf (standing s)

def Memory.note (m : Memory) (mode : Option String) : Memory := { m with mode := mode.or m.mode }

theorem Memory.note_note (m : Memory) (mode mode' : Option String) : (m.note mode).note mode' = m.note (mode'.or mode) := by
  simp only [note, Option.or_assoc]

theorem preserves_memory {act : Action α} (h : Steady act) : Preserves memory act := h.comp memoryOf

theorem switchless_memory : Switchless memory := fun _ _ => rfl

theorem memory_suspendSearch (disable : Bool) : Preserves memory (suspendSearch disable) :=
  switchless_memory.preserves_suspendSearch (fun _ => preserves_memory (quiet_info _).steady) disable

theorem memory_restoreSearch (disable saved : Bool) : Preserves memory (restoreSearch disable saved) :=
  (switchless_memory.sets_restoreSearch disable saved).preserves

theorem memory_start (job : Job) : Preserves memory (start job) := .modify fun _ => rfl

theorem memory_reviseWorkplan (r : ReviseRequest) : Preserves memory (reviseWorkplan r) := by
  have hstart (workplan : Datum) (saved : Bool) (urls : List String) :
      Preserves memory (startRevision r workplan saved urls) := by
    refine (preserves_memory quiet_theModel.steady).bind fun _ => (preserves_memory (quiet_info _).steady).bind fun _ => ?_
    exact (preserves_memory (quiet_originOf _ _).steady).bind fun _ => .bind .get fun _ => memory_start _
  refine .during ((preserves_memory (Issue.spares_body _ _).steady).bind fun _ => .ite (.throw_bind _ _) ?_) _
  refine (memory_suspendSearch _).bind fun _ => (preserves_memory (quiet_submissionComment _ _ _).steady).bind fun _ => ?_
  refine (preserves_memory (Issue.spares_comment _ _ _).steady).bind fun _ => (hstart _ _ _).bind fun _ => ?_
  exact (memory_restoreSearch _ _).bind fun _ => (preserves_memory (steady_addressOf _)).bind fun _ => .pure _

theorem memory_curateContext (r : CurateRequest) : Preserves memory (curateContext r) :=
  (preserves_curateContext r).comp memoryOf

theorem memory_judgeWorkplan (r : JudgeRequest) : Preserves memory (judgeWorkplan r) := by
  have hstart (model base workplan : String) (change : Change) (saved : Bool) :
      Preserves memory (startJudgement r model base workplan change saved) := by
    refine (preserves_memory (quiet_submissionComment _ _ _).steady).bind fun _ => ?_
    refine (preserves_memory (steady_openSubissue _ _ _)).bind fun _ => (preserves_memory (quiet_info _).steady).bind fun _ => ?_
    refine (preserves_memory (quiet_info _).steady).bind fun _ => (preserves_memory (quiet_originOf _ _).steady).bind fun _ => ?_
    exact .bind .get fun _ => (memory_start _).bind fun _ => .pure _
  have hjudge (model : String) (saved : Bool) : Preserves memory (judgeSuspended r model saved) := by
    refine (memory_suspendSearch _).bind fun _ => (preserves_memory (quiet_baseOf r).steady).bind fun _ => ?_
    refine (preserves_memory (spares_refusePull r).steady).bind fun _ => ?_
    refine (preserves_memory (Issue.spares_body _ _).steady).bind fun _ => ?_
    refine (preserves_memory (spares_changeOf r _).steady).bind fun _ => .ite (.pure _) (.bind (.ofExcept _) fun _ => ?_)
    exact (hstart _ _ _ _ _).bind fun _ => (memory_restoreSearch _ _).bind fun _ => .pure _
  refine .during ((switchless_memory.preserves_guardingSearch _ _ (preserves_memory quiet_theModel.steady)).bind fun _ => ?_) _
  refine .bind (.bind .get fun _ => .pure _) fun _ => ?_
  exact .bind (switchless_memory.preserves_guardingSearch _ _ (hjudge _ _)) fun _ => .pure _

/-- The mode that a creation leaves behind if it succeeds. -/
def CreateRequest.mode? (q : CreateRequest) : Option String := if q.reasoning == "none" then none else some q.reasoning

/-- A creation that succeeds leaves its mode behind, unless it starts no draft. One that fails leaves none. -/
theorem commits_memory_createWorkplan (q : CreateRequest) :
    Commits memory (fun m m' => m' = m.note q.mode?) (createWorkplan q) := by
  have hrestore (saved : Bool) (a : Datum) :=
    (switchless_memory.sets_restoreSearch q.disableSearch saved).bind_pure fun _ => a
  have hnote : Sets memory (·.note (some q.reasoning)) (modify fun s =>
      { s with settings := { s.settings with reasoning := some q.reasoning } } : Action Unit) := fun _ => ⟨(), _, rfl, rfl⟩
  have hinfo (message : String) : Sets memory id (info message) := Logless.sets_info (fun _ _ _ => rfl) message
  have horigin (saved : Bool) (urls : List String) : Sets memory id (originOf saved urls) := fun _ => ⟨_, _, rfl, rfl⟩
  have hstart (job : Job) : Sets memory id (start job) := fun _ => ⟨(), _, rfl, rfl⟩
  have hdraft (issue : String) (saved : Bool) (urls : List String) :
      Commits memory (fun m m' => m' = m.note (some q.reasoning)) (startDraft q issue saved urls) := by
    refine (preserves_memory quiet_theModel.steady).bind_commits fun _ => Sets.commits (hnote.bind fun _ => ?_)
    exact (hinfo _).bind fun _ => (horigin _ _).bind fun _ => Sets.get.bind fun _ => hstart _
  refine .during ((memory_suspendSearch _).bind_commits fun saved => ?_) _
  refine (preserves_memory (Issue.steady_create _ _ _ _)).bind_commits fun _ => ?_
  refine (preserves_memory (quiet_info _).steady).bind_commits fun _ => ?_
  refine (preserves_memory (quiet_submissionComment _ _ _).steady).bind_commits fun _ => ?_
  refine (preserves_memory (Issue.spares_comment _ _ _).steady).bind_commits fun _ => ?_
  unfold CreateRequest.mode?
  dsimp only
  split
  · exact (preserves_memory (quiet_info _).steady).bind_commits fun _ => (hrestore _ _).commits
  · exact (hdraft _ _ _).bind_sets (fun _ => hrestore _ _) fun _ _ h => h

/-! ### Histories -/

/-- What may happen on a server: a request is answered, or the jobs that were left behind are done. -/
inductive Step where
  | request (r : Request)
  | work

def Step.next : Step → Session → Session
  | request r, s => (perform r.answer s).2
  | work, s => (perform workOff s).2

def Step.mode? : Step → Session → Option String
  | request (.createWorkplan q), s => if (perform (createWorkplan q) s).1.toOption.isSome then q.mode? else none
  | _, _ => none

theorem memory_createWorkplan (q : CreateRequest) (s : Session) :
    memory (perform (createWorkplan q) s).2 = (memory s).note (Step.mode? (.request (.createWorkplan q)) s) := by
  have hends := commits_memory_createWorkplan q s
  unfold Ends at hends
  rw [Step.mode?]
  rcases hrun : perform (createWorkplan q) s with ⟨e | a, s'⟩
  · rw [hrun] at hends
    exact hends
  · rw [hrun] at hends
    exact hends

/-- A step changes the mode that is remembered, and nothing else. -/
theorem memory_next (step : Step) (s : Session) : memory (step.next s) = (memory s).note (step.mode? s) := by
  cases step with
  | work => exact preserves_workOff memoryOf (fun _ => rfl) s
  | request r =>
    cases r with
    | createWorkplan q => exact memory_createWorkplan q s
    | getWorkplan issue =>
      have hsteady : Steady (getWorkplan issue) := .during (Issue.spares_body _ _).steady _
      exact preserves_memory hsteady s
    | reviseWorkplan q => exact memory_reviseWorkplan q s
    | curateContext q => exact memory_curateContext q s
    | judgeWorkplan q => exact memory_judgeWorkplan q s

def after (history : List Step) (s : Session) : Session := history.foldl (fun s step => step.next s) s

/-- The mode that the last of some steps to leave one has left behind. -/
def lastMode : List Step → Session → Option String
  | [], _ => none
  | step :: rest, s => (lastMode rest (step.next s)).or (step.mode? s)

theorem memory_after (history : List Step) (s : Session) :
    memory (after history s) = (memory s).note (lastMode history s) := by
  induction history generalizing s with
  | nil => rfl
  | cons step rest ih =>
    show memory (after rest (step.next s)) = _
    rw [ih, memory_next, Memory.note_note]
    rfl

/-! ### Fresh servers -/

/-- A session as a server starts with it, over the same repository, programs and replies. -/
def fresh (st : Started) (s : Session) : Session :=
  { s with
    settings := { model := some st.model, searchGrounding := some st.searchGrounding }
    manager := some st.manager }

def withUsage (u : Option Usage) (s : Session) : Session :=
  { s with manager := s.manager.map fun m => { m with lastUsage := u } }

theorem exists_manager (h : startup place env = .ok st) (hs : (memory s).provision = st.manager.provision) :
    ∃ m, s.manager = some m ∧ m.provision = st.manager.provision := by
  cases hmanager : s.manager with
  | some m =>
    refine ⟨m, rfl, ?_⟩
    rw [← hs]
    show m.provision = (s.manager.getD {}).provision
    rw [hmanager]
    rfl
  | none =>
    -- without a manager both clients are taken to be there
    have hdefault : ({} : Manager).provision = st.manager.provision := by
      rw [← hs]
      show _ = (s.manager.getD {}).provision
      rw [hmanager]
      rfl
    obtain ⟨hopenai, hgemini⟩ := provision_of_startup h
    have hopenai' : true = needsOpenai st.model := (congrArg Provision.hasOpenai hdefault).trans hopenai
    have hgemini' : true = !needsOpenai st.model := (congrArg Provision.hasGemini hdefault).trans hgemini
    rw [← hopenai'] at hgemini'
    cases hgemini'

theorem memory_after_fresh (hb : b.attended = true) (history : List Step) :
    memory (after history (fresh st b)) =
      ⟨true, st.manager.provision, some st.model, lastMode history (fresh st b)⟩ := by
  rw [memory_after]
  show Memory.mk b.attended st.manager.provision (some st.model) ((lastMode history (fresh st b)).or none) = _
  rw [hb, Option.or_none]

/-- A session in use is like a fresh one, but for the mode and the usage that it remembers. -/
theorem alike_fresh {mode : Option String} {u : Option Usage} (h : startup place env = .ok st)
    (hs : memory s = ⟨true, st.manager.provision, some st.model, mode⟩) (hu : SameEffect (managerOf s).lastUsage u) :
    Alike mode none true s (withUsage u (fresh st s)) where
  scene := by
    obtain ⟨m, hmanager, hprovision⟩ := exists_manager h (congrArg Memory.provision hs)
    have hmodel : s.settings.model = some st.model := congrArg Memory.model hs
    refine Prod.ext ?_ ?_
    · show ({ s with settings := { model := s.settings.model }, manager := none } : Session) = _
      rw [hmodel]
      rfl
    · show s.manager.map Manager.provision = some st.manager.provision
      rw [hmanager, ← hprovision]
      rfl
  attended := congrArg Memory.attended hs
  left := congrArg Memory.mode hs
  right := rfl
  usage _ := hu

/-! ### Curations that ask for symbols -/

/-- How a curation fails if it is asked for symbols. -/
def symbolsFailure : Failure := .during .curateContextTool (.during .curate noSymbols)

/-- A curation fails for want of symbols exactly if the session or else the request asks for them, and then nothing is
sent or written. -/
theorem gives_curateContext (hready : Ready s) (hs : s.attended = true) (r : CurateRequest) :
    Gives (curateContext r) s (fun _ _ => s.settings.reasoning.getD r.reasoning ≠ "lsp")
      (Declined symbolsFailure (s.settings.reasoning.getD r.reasoning) s) := by
  generalize hmode : s.settings.reasoning.getD r.reasoning = mode
  have hcurate (model : String) (saved : Bool) : Gives (curateSuspended r model saved) s (fun _ _ => mode ≠ "lsp")
      (Declined (.during .curate noSymbols) mode s) := by
    refine .bind_sets (switchless_ledger.sets_suspendSearch logless_ledger _) fun _ t ht => ?_
    have hattended : t.attended = true := (congrArg Prod.fst ht).trans hs
    have hmode' : t.settings.reasoning.getD r.reasoning = mode := by
      rw [show t.settings.reasoning = s.settings.reasoning from congrArg (fun l => l.2.1) ht, hmode]
    have hgives := gives_curate (o := r.order model) rfl hattended
    rw [show (r.order model).modeOn t = mode from hmode'] at hgives
    have hgives' := hgives.mono (fun _ _ h => h) fun e u hdeclined =>
      (⟨hdeclined.iff, fun hlsp => (hdeclined.untouched hlsp).trans ht⟩ : Declined _ mode s e u)
    exact hgives'.bind fun _ _ h => .bind_sets (switchless_ledger.sets_restoreSearch _ _) fun _ _ _ => h
  have hguarded (model : String) (saved : Bool) :
      Gives (guardingSearch r.disableSearch saved (curateSuspended r model saved)) s (fun _ _ => mode ≠ "lsp")
        (Declined (.during .curate noSymbols) mode s) := by
    refine (hcurate model saved).tryCatch fun e t hdeclined => ?_
    exact .bind_sets (switchless_ledger.sets_restoreSearch _ _) fun _ t' ht' => hdeclined.step ht'
  rcases perform_readyModel s with ⟨-, model, hrun⟩ | ⟨hnot, -⟩
  · exact Gives.during (.bind_of_ok (perform_guardingSearch_ok _ _ hrun) (.bind_of_ok rfl
      ((hguarded model _).bind fun _ _ h => h))) fun e t hdeclined => hdeclined.during _
  · exact absurd hready hnot

theorem fails_curateContext_iff (hready : Ready s) (hs : s.attended = true) (r : CurateRequest) :
    (perform (curateContext r) s).1 = .error symbolsFailure ↔ s.settings.reasoning.getD r.reasoning = "lsp" := by
  have h := gives_curateContext hready hs r
  unfold Gives at h
  rcases hrun : perform (curateContext r) s with ⟨e | a, t⟩
  · rw [hrun] at h
    rw [← h.iff, Except.error.injEq]
  · rw [hrun] at h
    exact iff_of_false (fun he => by cases he) h

/-- A curation that fails for want of symbols has sent and written nothing. -/
theorem ledger_curateContext (hready : Ready s) (hs : s.attended = true) {r : CurateRequest}
    (h : s.settings.reasoning.getD r.reasoning = "lsp") : ledger (perform (curateContext r) s).2 = ledger s := by
  have hgives := gives_curateContext hready hs r
  unfold Gives at hgives
  rcases hrun : perform (curateContext r) s with ⟨e | a, t⟩
  · rw [hrun] at hgives
    exact hgives.untouched h
  · rw [hrun] at hgives
    exact absurd h hgives

/-! ### Curation after a history -/

/-- Two runs have the same outcome, the same requests and messages on record, and leave the same files. -/
def SameRun (p q : Except Failure α × Session) : Prop := p.1 = q.1 ∧ p.2.trace = q.2.trace ∧ p.2.files = q.2.files

theorem sameRun_of_agree {act act' : Action α} {t : Session} (h : Agree x y c c' act act') (hst : Alike x y c s t) :
    SameRun (perform act s) (perform act' t) := by
  obtain ⟨hout, halike⟩ := h s t hst
  exact ⟨hout, halike.read Session.trace fun _ => rfl, halike.read Session.files fun _ => rfl⟩

theorem detailOf_eq_of_sameRun {t : Session} {r : CurateRequest} (hst : Alike x y true s t) (hs : Ready s) (ht : Ready t)
    (h : SameRun (perform (curateContext r) s) (perform (curateContext r) t)) :
    detailOf (x.getD r.reasoning) = detailOf (y.getD r.reasoning) := by
  have hattended : t.attended = true := (hst.read Session.attended fun _ => rfl) ▸ hst.attended
  have htold := tells_detail_curateContext hs hst.attended r
  have htold' := tells_detail_curateContext ht hattended r
  have hopening := ((agree_opening r s t hst).2.read Session.trace fun _ => rfl)
  rw [hst.left, h.2.1, hopening] at htold
  rw [hst.right] at htold'
  -- the messages stand at the same place of the same trace
  have hsame := (List.suffix_of_suffix_length_le htold htold' (by simp)).eq_of_length (by simp)
  exact Detail.message_injective (Event.log.inj (List.cons.inj hsame).1).2

/-- A curation after any history is the curation on a fresh server in the mode of the last draft, apart from the usage on
record. So with a harmless usage on record it is the same curation on a fresh server exactly if that mode stands for the
same detail. If just one of the modes asks for symbols, the outcomes differ, and if that of the last draft does, nothing
is sent or written. -/
theorem curation_follows_last_draft (h : startup place env = .ok st) (hb : b.attended = true) (history : List Step)
    (r : CurateRequest) :
    let s := after history (fresh st b)
    let mode := (lastMode history (fresh st b)).getD r.reasoning
    SameRun (perform (curateContext r) s)
        (perform (curateContext { r with reasoning := mode }) (withUsage (managerOf s).lastUsage (fresh st s))) ∧
      (Harmless (managerOf s).lastUsage →
        (SameRun (perform (curateContext r) s) (perform (curateContext r) (fresh st s)) ↔
          detailOf mode = detailOf r.reasoning)) ∧
      (¬ (mode = "lsp" ↔ r.reasoning = "lsp") →
        (perform (curateContext r) s).1 ≠ (perform (curateContext r) (fresh st s)).1) ∧
      (mode = "lsp" → (perform (curateContext r) s).1 = .error symbolsFailure ∧
        (perform (curateContext r) s).2.files = s.files ∧
        requests (perform (curateContext r) s).2.trace = requests s.trace) := by
  intro s mode
  have hs : memory s = _ := memory_after_fresh hb history
  obtain ⟨m, hmanager, -⟩ := exists_manager h (congrArg Memory.provision hs)
  have hattended : s.attended = true := congrArg Memory.attended hs
  have hmodel : s.settings.model = some st.model := congrArg Memory.model hs
  have hmode : s.settings.reasoning.getD r.reasoning = mode :=
    congrArg (fun m : Memory => m.mode.getD r.reasoning) hs
  have hready : Ready s := by simp [Ready, hmanager, hmodel]
  have hfails := fails_curateContext_iff hready hattended r
  have hfails' := fails_curateContext_iff (s := fresh st s) ⟨rfl, rfl⟩ hattended r
  rw [hmode] at hfails
  refine ⟨?_, fun husage => ?_, fun hne heq => hne ?_, fun hlsp => ⟨hfails.2 hlsp, ?_⟩⟩
  · exact sameRun_of_agree (agree_curateContext rfl) (alike_fresh h hs (.refl _))
  · have halike : Alike _ none true s (fresh st s) := alike_fresh h hs (.inr ⟨husage, harmless_none⟩)
    refine ⟨detailOf_eq_of_sameRun halike hready ⟨rfl, rfl⟩, fun hdetail => ?_⟩
    exact sameRun_of_agree (agree_curateContext hdetail) halike
  · rw [← hfails, heq, hfails']
    rfl
  · have hledger := ledger_curateContext hready hattended (hmode.trans hlsp)
    exact ⟨congrArg (fun l => l.2.2.1) hledger, congrArg (fun l => l.2.2.2) hledger⟩

/-- An environment with a model of OpenAI that calls know. -/
def plainEnvironment : Environment := { model := some "gpt-4o", openaiKey := some "key" }

def plainServer : Started :=
  { repoPath := "<repo>", model := "gpt-4o", searchGrounding := false, geminiKey := none, openaiKey := some "key" }

/-- A session with an issue program that creates issues. -/
def listeningSession : Session :=
  { attended := true
    files := { nodes := [(["src"], .directory), (["src", "a.py"], .file "x = 1\n".toUTF8)] }
    gh := [{ args := ["label"], stdout := "[1]".toUTF8 },
           { args := ["issue", "create"], stdout := "https://github.com/o/r/issues/7\n".toUTF8 },
           { args := ["issue"] }]
    replies := [.answer (.dict [("output_text", .text "```context\nsrc\n```")])] }

def symbolsDraft : CreateRequest := { title := "T", description := "D", reasoning := "lsp" }

/-- After a draft that asks for symbols, a curation that does not ask for them fails. On a fresh server it succeeds. -/
theorem draft_mode_spoils_later_curation :
    startup plainPlace plainEnvironment = .ok plainServer ∧ listeningSession.attended = true ∧
      let s := after [.request (.createWorkplan symbolsDraft)] (fresh plainServer listeningSession)
      (perform (curateContext { task := "fix" }) s).1 = .error symbolsFailure ∧
        (perform (curateContext { task := "fix" }) (fresh plainServer s)).1.toOption.isSome = true := by
  have hstarts : startup plainPlace plainEnvironment = .ok plainServer := eq_ok_of_toOption (by decide +kernel)
  have hmode : lastMode [.request (.createWorkplan symbolsDraft)] (fresh plainServer listeningSession) = some "lsp" := by
    decide +kernel
  refine ⟨hstarts, rfl, ((curation_follows_last_draft hstarts rfl _ _).2.2.2 ?_).1, by decide +kernel⟩
  rw [hmode]
  rfl

end IssuePlanner.Server
