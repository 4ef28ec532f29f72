import IssuePlanner.Curation.Basic
import IssuePlanner.Issue.Branch
import IssuePlanner.Judgement.Diff
import IssuePlanner.Server.Work

/-! The tools that the server offers. Each checks a request, tells the issue about it and leaves the long
work to a job. The tools themselves always use the issue program; only their jobs may use a function in
its place. -/

namespace IssuePlanner.Server

open IssuePlanner.Action Generation

def theModel : Action String := do
  match (← get).settings.model with
  | some m => return m
  | none => throw (.shape (.missingKey (.text "model")))

def submissionComment (status reasoning : String) (urls : List String) : Action String := do
  let model ← theModel
  let searchGrounding := (← get).settings.searchGrounding.getD false
  return Comment.submission
    { status, model, searchGrounding, version, urls := some urls, reasoning, timestamp := ← now }

def originOf (searchGrounding : Bool) (urls : List String) : Action Origin := do
  return { searchGrounding := some searchGrounding, startTime := some (← now), urls := some urls }

/-! ### Creating a workplan -/

structure CreateRequest where
  title : String
  description : String
  reasoning : String := "full"
  debug : Bool := false
  disableSearch : Bool := false

def startDraft (r : CreateRequest) (issue : String) (searchGrounding : Bool) (urls : List String) :
    Action Unit := do
  let model ← theModel
  modify fun s => { s with settings := { s.settings with reasoning := some r.reasoning } }
  info ("Launching background task to generate workplan with AI model " ++ model)
  let origin ← originOf searchGrounding urls
  let order : DraftOrder :=
    { model, title := r.title, issue, reasoning := r.reasoning, description := r.description
      debug := r.debug, disableSearch := r.disableSearch, origin := some origin }
  start (.draft order (← get).channel)

def createWorkplan (r : CreateRequest) : Action Datum :=
  during .createWorkplanTool do
    let saved ← suspendSearch r.disableSearch
    let issue ← Issue.create .program r.title r.description ["yellhorn-mcp"]
    info ("Created GitHub issue #" ++ issue.number)
    let urls := Comment.urls r.description
    Issue.comment .program issue.number
      (← submissionComment "Generating workplan..." r.reasoning urls)
    if r.reasoning == "none" then
      info "Skipping AI workplan generation (codebase_reasoning='none')"
    else startDraft r issue.number saved urls
    restoreSearch r.disableSearch saved
    return .text
      (Datum.json (.dict [("issue_url", .text issue.url), ("issue_number", .text issue.number)]))

/-! ### Reading a workplan -/

def getWorkplan (issue : String) : Action Datum :=
  during .getWorkplanTool (Issue.body .program issue)

/-! ### Revising a workplan -/

structure ReviseRequest where
  issue : String
  instructions : String
  reasoning : String := "full"
  debug : Bool := false
  disableSearch : Bool := false

def startRevision (r : ReviseRequest) (workplan : Datum) (searchGrounding : Bool) (urls : List String) :
    Action Unit := do
  let model ← theModel
  info ("Launching background task to revise workplan with AI model " ++ model)
  let origin ← originOf searchGrounding urls
  let order : RevisionOrder :=
    { model, issue := r.issue, workplan, instructions := r.instructions, reasoning := r.reasoning
      debug := r.debug, disableSearch := r.disableSearch, origin := some origin }
  start (.revise order (← get).channel)

def addressOf (issue : String) : Action Datum := do
  let answer ← gh [.text "issue", .text "view", .text issue, .text "--json", .text "url"]
  let d ← Issue.parseJson answer
  ofExcept (d.entry "url")

def reviseWorkplan (r : ReviseRequest) : Action Datum :=
  during .reviseWorkplanTool do
    let workplan ← Issue.body .program r.issue
    if !workplan.holds then throw (.noWorkplan r.issue)
    let saved ← suspendSearch r.disableSearch
    let urls := Comment.urls r.instructions
    Issue.comment .program r.issue (← submissionComment "Revising workplan..." r.reasoning urls)
    startRevision r workplan saved urls
    restoreSearch r.disableSearch saved
    return .text
      (Datum.json (.dict [("issue_url", ← addressOf r.issue), ("issue_number", .text r.issue)]))

/-! ### Curating -/

structure CurateRequest where
  task : String
  reasoning : String := "file_structure"
  output : String := ".yellhorncontext"
  depthLimit : Int := 0
  disableSearch : Bool := false

def guardingSearch {α : Type} (disable saved : Bool) (act : Action α) : Action α :=
  tryCatch act fun e => do
    restoreSearch disable saved
    throw e

def readyModel : Action String := do
  let model ← theModel
  if (← get).manager.isNone then throw .managerMissing
  return model

def curateSuspended (r : CurateRequest) (model : String) (saved : Bool) : Action String := do
  let _ ← suspendSearch r.disableSearch
  let message ← Curation.curate
    { model, task := r.task, output := r.output, reasoning := r.reasoning, depthLimit := r.depthLimit }
  restoreSearch r.disableSearch saved
  return message

/-- Curates. A request that fails before the switch was read leaves it on. -/
def curateContext (r : CurateRequest) : Action Datum :=
  during .curateContextTool do
    let model ← guardingSearch r.disableSearch true readyModel
    let saved ← searchSetting
    let message ← guardingSearch r.disableSearch saved (curateSuspended r model saved)
    return .text (Datum.json (.dict
      [("status", .text "✅ Context curation completed successfully"), ("message", .text message)]))

/-! ### Judging a change -/

structure JudgeRequest where
  issue : String
  base : String := "main"
  head : String := "HEAD"
  reasoning : String := "full"
  debug : Bool := false
  disableSearch : Bool := false
  subissue : Option String := none
  pullUrl : Option String := none

/-- The branch to compare with: where the default name is asked for, the default branch. -/
def baseOf (r : JudgeRequest) : Action String := do
  if r.base ≠ "main" then return r.base
  let branch ← Issue.defaultBranch
  if branch ≠ "main" then info ("Using default branch '" ++ branch ++ "' instead of 'main'")
  return branch

structure Change where
  baseCommit : String
  headCommit : String
  diff : String

def changeOf (r : JudgeRequest) (base : String) : Action Change := do
  match Issue.nonEmpty r.pullUrl with
  | some url => return { baseCommit := "pr_base", headCommit := "pr_head", diff := ← Issue.pullDiff url }
  | none =>
    let baseCommit ← git ["rev-parse", base]
    let headCommit ← git ["rev-parse", r.head]
    return { baseCommit, headCommit, diff := ← Judgement.diff base r.head r.reasoning }

/-- A request has to name an issue and not a pull request. -/
def refusePull (r : JudgeRequest) : Action Unit := do
  if Text.begins r.issue "http" && Text.contains r.issue "/pull/" then
    let _ ← Issue.pullDiff r.issue
    throw .pullUrlGiven

/-- The text of a workplan; anything else cannot be judged by. -/
def textOf (workplan : Datum) : Except Failure String :=
  match workplan with
  | .text s => .ok s
  | d => Datum.fault (.notText d.kind)

def placeholder (issue comment : String) : String :=
  Judgement.parentLine issue ++ "## Status\nGenerating judgement...\n\n" ++ comment

/-- The issue of a judgement before there is a judgement: its address and its number. An issue that is
given has its title replaced by the placeholder. -/
def openSubissue (r : JudgeRequest) (base comment : String) : Action (String × Option String) := do
  match Issue.nonEmpty r.subissue with
  | some n =>
    Issue.update .program n (some (placeholder r.issue comment)) none
    return ("https://github.com/" ++ (← get).name ++ "/issues/" ++ n, some n)
  | none =>
    let url ← Issue.createJudgement .program r.issue (Judgement.title r.issue base r.head)
      (placeholder r.issue comment)
    return (url, Issue.numberIn? url)

def startJudgement (r : JudgeRequest) (model base workplan : String) (change : Change)
    (searchGrounding : Bool) : Action (String × Option String) := do
  let urls := Comment.urls workplan
  let comment ← submissionComment "Generating judgement..." r.reasoning urls
  let (url, number) ← openSubissue r base comment
  info ("Created judgement sub-issue: " ++ url)
  info ("Launching background task to generate judgement with AI model " ++ model)
  let origin ← originOf searchGrounding urls
  let order : JudgementOrder :=
    { model, workplan, diff := change.diff, baseRef := base, headRef := r.head
      baseCommit := change.baseCommit, headCommit := change.headCommit, parent := r.issue
      subissue := number, debug := r.debug, reasoning := r.reasoning
      disableSearch := r.disableSearch, origin := some origin }
  start (.judge order (← get).channel)
  return (url, number)

/-- Judges with the search switch suspended. Where there is nothing to judge, the switch stays as it is. -/
def judgeSuspended (r : JudgeRequest) (model : String) (saved : Bool) : Action Datum := do
  let _ ← suspendSearch r.disableSearch
  let base ← baseOf r
  refusePull r
  let workplan ← Issue.body .program r.issue
  let change ← changeOf r base
  if Judgement.isEmptyDiff base r.head r.reasoning change.diff then
    return .dict [("error", .text ("No changes found between " ++ base ++ " and " ++ r.head)),
      ("base_commit", .text change.baseCommit), ("head_commit", .text change.headCommit)]
  let (url, number) ← startJudgement r model base (← ofExcept (textOf workplan)) change saved
  restoreSearch r.disableSearch saved
  return .dict [("subissue_url", .text url),
    ("subissue_number", Datum.ofOption (number.map .text))]

def judgeWorkplan (r : JudgeRequest) : Action Datum :=
  during .judgeWorkplanTool do
    let model ← guardingSearch r.disableSearch true theModel
    let saved ← searchSetting
    return .text (← guardingSearch r.disableSearch saved (judgeSuspended r model saved)).json

/-! ### All tools -/

inductive Request where
  | createWorkplan (r : CreateRequest)
  | getWorkplan (issue : String)
  | reviseWorkplan (r : ReviseRequest)
  | curateContext (r : CurateRequest)
  | judgeWorkplan (r : JudgeRequest)

def toolNames : List String :=
  ["create_workplan", "get_workplan", "revise_workplan", "curate_context", "judge_workplan"]

def Request.answer : Request → Action Datum
  | .createWorkplan r => Server.createWorkplan r
  | .getWorkplan issue => Server.getWorkplan issue
  | .reviseWorkplan r => Server.reviseWorkplan r
  | .curateContext r => Server.curateContext r
  | .judgeWorkplan r => Server.judgeWorkplan r

def serve (r : Request) : Action Datum := settled r.answer

end IssuePlanner.Server
