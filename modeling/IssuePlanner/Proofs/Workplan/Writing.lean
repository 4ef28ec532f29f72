import IssuePlanner.Proofs.Server.Dispatch
import IssuePlanner.Proofs.Workplan.Filing

/-! The bodies that jobs write. A job that settles its issue writes nothing but a title and a content
(`Settles.exists_of_writes`). Whatever a job asks, there is a session where the model has room for the prompt and answers
it (`attentive`), and there the job writes a body (`exists_writes_draft`, `exists_writes_revise`). -/

namespace IssuePlanner

open IssuePlanner.Action

namespace Model

variable {r : Request} {s : Session} {t : Terms} {d content : Datum} {rest : List Reply}

theorem perform_call_of_answer (hserves : Serves s r.model) (ht : (managerOf s).terms? r.model = some t)
    (hfits : t.fits r = true) (hreplies : s.replies = .answer d :: rest) (hread : r.readAnswer d = .ok content) :
    ∃ s', perform (call r) s = (.ok content, s') ∧
      (managerOf s').lastUsage = r.recorded (managerOf s).lastUsage (.answer d) := by
  obtain ⟨c, hcall, -⟩ := perform_call_of_fits ht hfits
  have hserves' : Serves (recounted s c) r.model := hserves
  have hreplies' : (recounted s c).replies = .answer d :: rest := hreplies
  obtain ⟨s', hrun, hheard⟩ := perform_callOnce_of_answer hserves' hreplies' (by simp [hread])
  refine ⟨s', by rw [hcall, hrun, hread], ?_⟩
  rw [hheard.usage, hreplies']
  rfl

/-- An answer that reports no usage counts as one that used nothing. -/
theorem perform_callWithUsage_of_answer (hserves : Serves s r.model) (ht : (managerOf s).terms? r.model = some t)
    (hfits : t.fits r = true) (hreplies : s.replies = .answer d :: rest) (hread : r.readAnswer d = .ok content)
    (hsilent : r.recorded none (.answer d) = none) :
    ∃ s', perform (callWithUsage r) s = (.ok { content, usage := {} }, s') := by
  have hserves₀ : Serves { s with manager := some { managerOf s with lastUsage := none } } r.model := hserves
  obtain ⟨s', hcall, hlast⟩ := perform_call_of_answer hserves₀ ht hfits hreplies hread
  have husage : (managerOf s').lastUsage = none := hlast.trans hsilent
  have hreported : perform reportedUsage s' = (.ok {}, s') := by
    simp only [reportedUsage, perform_bind, perform_theManager, andThen_ok, husage]
    rfl
  refine ⟨s', ?_⟩
  rw [callWithUsage, perform_bind, perform_setUsage, andThen_ok, perform_bind, hcall, andThen_ok, perform_bind,
    hreported, andThen_ok, perform_pure]

end Model

namespace Workplan

open Generation

variable {channel : Channel} {issue body : String} {t : Task} {s : Session} {IsTitleOf : String → Prop}
  {task : Action Task} {job : Action Unit}

/-! ### What is written -/

def Writes (channel : Channel) (job : Action Unit) (issue : String) (s : Session) (body : String) : Prop :=
  Since s (Issue.editCommand channel issue body ∈ ·) (perform job s).2

theorem given_editCommand (channel : Channel) (issue body : String) :
    given "edit" [Issue.editCommand channel issue body] = [(Issue.editCommand channel issue body).2] := by
  cases channel <;> rfl

theorem mem_given_editCommand {cs : List IssueCommand} (h : Issue.editCommand channel issue body ∈ cs) :
    (Issue.editCommand channel issue body).2 ∈ given "edit" cs := by
  obtain ⟨before, after, rfl⟩ := List.append_of_mem h
  rw [List.append_cons, given_append, given_append, given_editCommand]
  simp

theorem editCommand_injective {body' : String}
    (h : (Issue.editCommand channel issue body).2 = (Issue.editCommand channel issue body').2) : body = body' := by
  cases channel with
  | program => simpa [Issue.editCommand] using h
  | function => simpa [Issue.editCommand] using h

theorem Settles.exists_of_writes (h : Settles channel issue IsTitleOf task job s)
    (hwrites : Writes channel job issue s body) :
    ∃ title content, IsTitleOf title ∧ body = issueBody title content := by
  obtain ⟨s', hrun, ⟨new, hnew, hsettled⟩, -⟩ := h
  obtain ⟨new', hnew', hedit⟩ := hwrites
  rw [hrun] at hnew'
  have hsame : new' = new := List.append_cancel_left (hnew'.symm.trans hnew)
  subst hsame
  have hmem := mem_given_editCommand hedit
  rcases hsettled with ⟨⟨title, content, before, after, rfl, hbefore, hafter, htitle, -⟩, -⟩ | ⟨⟨hnone, -⟩, -⟩
  · rw [List.append_cons, given_append, given_append, given_editCommand, hbefore, hafter, List.append_nil,
      List.nil_append, List.mem_singleton] at hmem
    exact ⟨title, content, htitle, editCommand_injective hmem⟩
  · rw [hnone] at hmem
    cases hmem

theorem Settles.exists_writes (h : Settles channel issue IsTitleOf task job s)
    (hcompletes : CompletesFor channel task s) : ∃ body, Writes channel job issue s body := by
  obtain ⟨s', hrun, ⟨new, hnew, ⟨⟨title, content, before, after, hcs, -⟩, -⟩ | ⟨-, hfails⟩⟩, -⟩ := h
  · refine ⟨issueBody title content, new, by rw [hrun, hnew], ?_⟩
    rw [hcs]
    simp
  · exact absurd hcompletes hfails

/-! ### A session in which a job succeeds -/

def managerFor (limit : Int) : Model.Manager := { counter := { config := { limits := [("gpt-4o", limit)] } } }

/-- The tokens that a prompt takes with its answer and the usual margin. -/
def roomFor (prompt : String) : Int :=
  let n := Tokens.Encoding.o200k.count prompt.toList
  n + Tokens.Counter.expectedAnswer n + ({} : Model.Settings).safetyMargin

/-- A session that has no files, and whose model takes one prompt and answers it. -/
def attentive (prompt : String) : Session :=
  { manager := some (managerFor (roomFor prompt))
    replies := [.answer (.record [("output_text", .text "Plan")])]
    git := [{ args := ["ls-files", "--others"] }, { args := ["ls-files"] }] }

/-- A task with nothing to show or record beside its workplan. -/
structure IsPlain (t : Task) : Prop where
  model : t.model = "gpt-4o"
  debug : t.debug = false
  origin : t.origin = none

theorem perform_code_attentive (prompt : String) :
    ∃ s₁, perform (code "none" "gpt-4o" setAside) (attentive prompt) = (.ok "", s₁) ∧
      s₁.manager = (attentive prompt).manager ∧ s₁.replies = (attentive prompt).replies :=
  ⟨_, Prod.ext (by with_unfolding_all rfl) rfl, by with_unfolding_all rfl, by with_unfolding_all rfl⟩

theorem completes_of_room (ht : IsPlain t) (hmanager : s.manager = (attentive t.prompt).manager)
    (hreplies : s.replies = (attentive t.prompt).replies) : Completes channel t s := by
  have hopenai : Model.isOpenai t.model = true := by
    rw [ht.model]
    decide +kernel
  have hprepare : perform (prepare channel t) s = (.ok none, s) := by
    simp only [prepare, ht.debug, searchTools, hopenai, Bool.true_or, if_true]
    rfl
  have hm : Model.managerOf s = managerFor (roomFor t.prompt) := by
    rw [Model.managerOf, hmanager]
    rfl
  have hserves : Model.Serves s (request t none).model := by
    rw [Model.Serves, if_pos (show Model.isOpenai (request t none).model = true from hopenai), hm]
    rfl
  have hterms : (Model.managerOf s).terms? (request t none).model = some ⟨{}, .o200k, roomFor t.prompt⟩ := by
    rw [hm, show (request t none).model = "gpt-4o" from ht.model]
    rfl
  have hfits : (⟨{}, .o200k, roomFor t.prompt⟩ : Model.Terms).fits (request t none) = true := by
    simp [Model.Terms.fits, roomFor, request]
  have hread : (request t none).readAnswer (.record [("output_text", .text "Plan")]) = .ok (.text "Plan") := by
    rw [Model.Request.readAnswer, if_pos (show Model.isOpenai (request t none).model = true from hopenai)]
    rfl
  have hsilent : (request t none).recorded none (.answer (.record [("output_text", .text "Plan")])) = none := by
    rw [Model.Request.recorded, if_pos (show Model.isOpenai (request t none).model = true from hopenai)]
    rfl
  obtain ⟨s', hrun⟩ := Model.perform_callWithUsage_of_answer hserves hterms hfits hreplies hread hsilent
  have hanswer : perform (answerOf (request t none)) s = (.ok { content := .text "Plan", usage := {} }, s') := by
    rw [answerOf, if_pos (show Model.isOpenai (request t none).model = true from hopenai), hrun]
  obtain ⟨c, hc, hpriced⟩ := exists_priced_of_unused s.validator t.model successStatus
    (a := { content := .text "Plan", usage := {} }) rfl
  refine ⟨_, .text "Plan", s', ⟨⟨by rw [hmanager]; rfl, none, s, hprepare, hanswer⟩, rfl, rfl⟩, c, hc, ?_⟩
  rw [ht.origin]
  refine ⟨{ c with contextSize := some t.prompt.length }, ?_⟩
  show (perform (ofExcept (priced c) >>= fun c => pure { c with contextSize := some t.prompt.length }) s').1 = _
  rw [hpriced]
  rfl

theorem exists_writes_of_isPlain (ht : IsPlain t) (hsettles : ∀ s, Settles channel issue IsTitleOf task job s)
    (htask : ∀ s s₁, perform (code "none" "gpt-4o" setAside) s = (.ok "", s₁) → perform task s = (.ok t, s₁)) :
    ∃ s body, Writes channel job issue s body := by
  obtain ⟨s₁, hcode, hmanager, hreplies⟩ := perform_code_attentive t.prompt
  have hcompletes : CompletesFor channel task (attentive t.prompt) :=
    ⟨t, s₁, htask _ _ hcode, completes_of_room ht hmanager hreplies⟩
  exact ⟨attentive t.prompt, (hsettles _).exists_writes hcompletes⟩

def draftOf (title : String) : DraftOrder :=
  { model := "gpt-4o", title, issue := "7", reasoning := "none", description := "" }

def revisionOf (workplan : String) : RevisionOrder :=
  { model := "gpt-4o", issue := "7", workplan := .text workplan, instructions := "", reasoning := "none" }

theorem exists_writes_draft (channel : Channel) (title : String) :
    ∃ s body, Writes channel (draft channel (draftOf title)) (draftOf title).issue s body := by
  have hplain : IsPlain (draftTask (draftOf title) "") := ⟨rfl, rfl, rfl⟩
  refine exists_writes_of_isPlain hplain (settles_draft channel (draftOf title)) fun s s₁ hcode => ?_
  have hcode' : perform (code (draftOf title).reasoning (draftOf title).model setAside) s = (.ok "", s₁) := hcode
  rw [draftTaskOf, perform_bind, hcode', andThen_ok, perform_pure]

theorem exists_writes_revise (channel : Channel) (workplan : String) :
    ∃ s body, Writes channel (revise channel (revisionOf workplan)) (revisionOf workplan).issue s body := by
  have hplain : IsPlain (revisionTask (revisionOf workplan) (titleOf workplan) "") := ⟨rfl, rfl, rfl⟩
  refine exists_writes_of_isPlain hplain (settles_revise channel (revisionOf workplan)) fun s s₁ hcode => ?_
  have hcode' : perform (code (revisionOf workplan).reasoning (revisionOf workplan).model setAside) s =
    (.ok "", s₁) := hcode
  rw [revisionTaskOf, perform_bind, hcode', andThen_ok, perform_bind, perform_ofExcept,
    show titleOfBody (revisionOf workplan).workplan = .ok (titleOf workplan) from rfl, andThen_ok, perform_pure]

end Workplan

end IssuePlanner
