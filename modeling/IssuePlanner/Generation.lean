import IssuePlanner.Citation
import IssuePlanner.Comment
import IssuePlanner.Issue.Basic
import IssuePlanner.Model.Call
import IssuePlanner.Snapshot.Context

/-! What the jobs have in common: how much code a prompt may show, whether a model may search, and what is
recorded of an answer. -/

namespace IssuePlanner.Generation

open IssuePlanner.Action

def version : String := "0.7.0"

/-- The tokens that code may take in a prompt: seven tenths of what is left once some are set aside. -/
def codeLimit (model : String) (setAside : Int) : Int :=
  Number.seventyPercent (({} : Tokens.Counter).limit model - setAside)

/-- The code that a prompt shows. What is reported on the way is sent when the job is done. -/
def code (mode model : String) (setAside : Int) : Action String :=
  Snapshot.context later mode (some (codeLimit model setAside)) (some model)

/-- Whether a model may search: not if the request forbids it or it was off when the request came. -/
def maySearch (disabled : Bool) (origin : Option Origin) : Bool :=
  ((origin.bind (·.searchGrounding)).getD true) && !disabled

def debugComment (prompt : String) : String :=
  "<details>\n<summary>Debug: Full prompt used for generation</summary>\n\n```\n" ++ prompt
    ++ "\n```\n</details>"

def cited (a : Model.Answer) : Except Failure Datum :=
  match a.grounding, a.content with
  | some g, .text s => do return .text (← Citation.citeFrom s g)
  | _, content => .ok content

def hasSources (a : Model.Answer) : Bool :=
  ((a.grounding.bind (Datum.field? "grounding_chunks")).filter fun d => !d.isNull).isSome

/-- The fields of what is recorded of an answer. Only for Gemini models it is known whether sources were used. -/
def completionData (model status : String) (a : Model.Answer) : List (String × Datum) :=
  [("model_name", .text model), ("status", .text status), ("generation_time_seconds", .float 0),
   ("input_tokens", a.usage.prompt), ("output_tokens", a.usage.completion), ("total_tokens", a.usage.total)]
    ++ (if Model.isOpenai model then [] else [("search_results_used", .bool (hasSources a))])
    ++ [("timestamp", .null)]

/-- What is recorded of an answer, unless the numbers that came with it are refused. -/
def completionOf (v : Metadata.Validator) (model status : String) (a : Model.Answer) :
    Except Failure Metadata.Completion :=
  (Metadata.Completion.ofData v (completionData model status a)).mapError fun names =>
    .invalidRecord (v.wording names)

/-- Asks a model; gives the content, with links to its sources, and what is recorded. -/
def ask (status : String) (r : Model.Request) : Action (Datum × Metadata.Completion) := do
  if Model.isOpenai r.model then
    let a ← Model.callWithUsage r
    return (a.content, ← ofExcept (completionOf (← get).validator r.model status a))
  else
    let a ← Model.callWithCitations r
    let content ← ofExcept (cited a)
    return (content, ← ofExcept (completionOf (← get).validator r.model status a))

def providerOf (model : String) : Provider := if Model.isOpenai model then .openai else .gemini

/-- Adds how long the work took, if it is known when it began. -/
def timed (origin : Option Origin) (c : Metadata.Completion) : Action Metadata.Completion := do
  match origin.bind (·.startTime) with
  | none => return c
  | some start =>
    let stop ← now
    if stop.offset.isSome != start.offset.isSome then throw .clocksDiffer
    return { c with seconds := stop.secondsSince start, timestamp := some (← now) }

/-- Adds what the work cost, if tokens were used on both sides. -/
def priced (c : Metadata.Completion) : Except Failure Metadata.Completion :=
  match c.inputTokens, c.outputTokens with
  | some i, some o =>
    if i ≠ 0 && o ≠ 0 then do return { c with estimatedCost := ← Cost.ofTokens c.model (.int i) (.int o) }
    else .ok c
  | _, _ => .ok c

def finished (origin : Option Origin) (prompt : String) (c : Metadata.Completion) :
    Action Metadata.Completion := do
  let c ← timed origin c
  let c ← ofExcept (priced c)
  return { c with contextSize := some prompt.length }

def outcome {α : Type} (act : Action α) : Action (Except Failure α) :=
  tryCatch (Except.ok <$> act) fun e => pure (.error e)

/-- Reports a failure to the client and on an issue. That the comment fails too is only reported. -/
def reportFailure (channel : Channel) (issue what comment : String) (e : Failure) : Action Unit := do
  log "error" (what ++ ": " ++ e.message)
  tryCatch (Issue.comment channel issue (comment ++ "\n\n" ++ e.message)) fun _ =>
    log "error" ("Failed to add error comment to issue: " ++ e.message)

def flush : Action Unit := do
  let lines := (← get).deferred
  modify fun s => { s with deferred := [] }
  lines.forM fun line => record (.log "info" line)

end IssuePlanner.Generation
