import IssuePlanner.Generation

/-! Having a model write a workplan and putting it into the issue. The issue is changed only once there is
something to put there; otherwise a comment says what went wrong. -/

namespace IssuePlanner.Workplan

open IssuePlanner.Action Generation

structure Task where
  issue : String
  model : String
  prompt : String
  title : String
  debug : Bool
  disableSearch : Bool
  origin : Option Origin

def issueBody (title : String) (content : Datum) : String := "# " ++ title ++ "\n\n" ++ content.display

def searchTools (t : Task) : Action (Option Datum) := do
  if Model.isOpenai t.model || !maySearch t.disableSearch t.origin then return none
  info ("Attempting to enable search grounding for model " ++ t.model)
  let tools := Model.searchTools? (← get).faults t.model
  if tools.isSome then info ("Search grounding enabled for model " ++ t.model)
  return tools

def request (t : Task) (tools : Option Datum) : Model.Request :=
  { prompt := t.prompt, model := t.model, temperature := 0.0
    extras := if Model.isOpenai t.model then [] else [("tools", Datum.ofOption tools)] }

def store (channel : Channel) (t : Task) (content : Datum) (c : Metadata.Completion) : Action Unit := do
  let c ← finished t.origin t.prompt c
  Issue.setWorkplan channel t.issue (issueBody t.title content)
  info ("Successfully updated GitHub issue #" ++ t.issue ++ " with generated workplan and metrics")
  if t.origin.isSome then Issue.comment channel t.issue (Comment.completion c)

def publish (channel : Channel) (t : Task) : Action Unit := do
  if (← get).manager.isNone then
    log "error" "LLM Manager not initialized"
    Issue.comment channel t.issue "❌ **Error generating workplan** – LLM Manager not initialized"
  else
    if t.debug then Issue.comment channel t.issue (debugComment t.prompt)
    let tools ← searchTools t
    match ← outcome (ask "✅ Workplan generated successfully" (request t tools)) with
    | .error e =>
      log "error" ("Failed to generate workplan: " ++ e.message)
      Issue.comment channel t.issue ("❌ **Error generating workplan** – " ++ e.message)
    | .ok (content, c) =>
      if content.holds then store channel t content c
      else
        let missing := "Received an empty response from " ++ (providerOf t.model).name ++ " API."
        log "error" ("Failed to generate workplan: " ++ missing)
        Issue.comment channel t.issue ("⚠️ AI workplan enhancement failed: " ++ missing)

end IssuePlanner.Workplan
