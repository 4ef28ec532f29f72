import IssuePlanner.Generation
import IssuePlanner.Judgement.Prompt

/-! Judging a change by a workplan. The judgement goes into an issue of its own; a failure is reported on the
issue of the workplan and passed on. -/

namespace IssuePlanner.Judgement

open IssuePlanner.Action Generation

def setAside : Int := 9000

def shownCode (o : JudgementOrder) : Action String :=
  if ["lsp", "file_structure", "full"].contains o.reasoning then code o.reasoning o.model setAside
  else pure ""

def title (issue base head : String) : String :=
  "Judgement for #" ++ issue ++ ": " ++ head ++ " vs " ++ base

def parentLine (issue : String) : String := "Parent workplan: #" ++ issue ++ "\n\n"

def comparison (o : JudgementOrder) : String :=
  Text.unlines
    ["## Comparison Metadata",
     "- **Workplan Issue**: `#" ++ o.parent ++ "`",
     "- **Base Ref**: `" ++ o.baseRef ++ "` (Commit: `" ++ o.baseCommit ++ "`)",
     "- **Head Ref**: `" ++ o.headRef ++ "` (Commit: `" ++ o.headCommit ++ "`)",
     "- **Codebase Reasoning Mode**: `" ++ o.reasoning ++ "`",
     "- **AI Model**: `" ++ o.model ++ "`",
     "", ""]

def issueBody (o : JudgementOrder) (content : Datum) : String :=
  parentLine o.parent ++ comparison o ++ content.display

/-- Settings of the generation that let a model search, if it can and may. -/
def searchSettings (o : JudgementOrder) : Action (Option (List (String × Datum))) := do
  if Model.isOpenai o.model || !maySearch o.disableSearch o.origin then return none
  info ("Attempting to enable search grounding for model " ++ o.model)
  let faults := (← get).faults
  if faults.configClassMissing then
    log "warning" "GenerateContentConfig not available, skipping search grounding"
    return none
  match Model.searchTools? faults o.model with
  | none => return none
  | some tools =>
    info ("Search grounding enabled for model " ++ o.model)
    return some [("tools", tools)]

def pagesOf (remote : String) : String :=
  let base := if Text.ends remote ".git" then String.ofList (remote.toList.take (remote.length - 4))
    else remote
  if Text.begins base "git@github.com:" then Text.replace base "git@github.com:" "https://github.com/"
  else base

def JudgementOrder.target (o : JudgementOrder) : Option String := Issue.nonEmpty o.subissue

def store (channel : Channel) (o : JudgementOrder) (content : Datum) : Action String := do
  let title := title o.parent o.baseRef o.headRef
  match JudgementOrder.target o with
  | some issue =>
    Issue.update channel issue (some title) (some (issueBody o content))
    let remote ← git ["remote", "get-url", "origin"]
    return pagesOf remote ++ "/issues/" ++ issue
  | none => Issue.createJudgement channel o.parent title (issueBody o content)

def comment (channel : Channel) (o : JudgementOrder) (prompt url : String) (c : Metadata.Completion) :
    Action Unit := do
  if o.debug then
    if let some issue := Issue.numberIn? url then Issue.comment channel issue (debugComment prompt)
  if o.origin.isSome then
    let _ ← now
    let issue := (JudgementOrder.target o).getD ((Issue.numberIn? url).getD o.parent)
    Issue.comment channel issue (Comment.completion c)

def judgeOrFail (channel : Channel) (o : JudgementOrder) : Action Unit := do
  let prompt := prompt o.workplan o.diff (← shownCode o) o.baseRef o.headRef
  if (← get).manager.isNone then
    throw (.shape (.missingAttribute "NoneType" "_is_openai_model"))
  let generation ← searchSettings o
  let (content, c) ← ask "✅ Judgement generated successfully"
    { prompt, model := o.model, temperature := 0.0, generation }
  if !content.holds then throw (.emptyJudgement (providerOf o.model))
  let c ← finished o.origin prompt c
  let url ← store channel o content
  info ("Successfully created judgement sub-issue: " ++ url)
  comment channel o prompt url c

def judge (channel : Channel) (o : JudgementOrder) : Action Unit :=
  tryCatch (judgeOrFail channel o) fun e => do
    reportFailure channel o.parent "Error processing judgement" "❌ **Error generating judgement**" e
    throw (.during .judge e)

end IssuePlanner.Judgement
