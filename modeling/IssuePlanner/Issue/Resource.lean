import IssuePlanner.Issue.Basic

/-! Issues as resources that a client can list and read. -/

namespace IssuePlanner.Issue

open IssuePlanner.Action

structure Resource where
  uri : String
  name : String

/-- The kinds of resources: how a client names them, the label of their issues, the folder in their
addresses and the word in their names. -/
structure ResourceKind where
  name : String
  label : String
  folder : String
  word : String

def workplanResource : ResourceKind := ⟨"yellhorn_workplan", "yellhorn-mcp", "workplans", "Workplan"⟩

def judgementResource : ResourceKind :=
  ⟨"yellhorn_judgement_subissue", "yellhorn-judgement-subissue", "judgements", "Judgement"⟩

def ResourceKind.resource (k : ResourceKind) (issue : Datum) : Except Failure Resource := do
  let number ← issue.entry "number"
  let title ← issue.entry "title"
  return ⟨"file://" ++ k.folder ++ "/" ++ number.display ++ ".md",
    k.word ++ " #" ++ number.display ++ ": " ++ title.display⟩

def ResourceKind.list (k : ResourceKind) : Action (List Resource) := do
  let answer ← gh [.text "issue", .text "list", .text "--label", .text k.label, .text "--json",
    .text "number,title,url"]
  let issues ← ofExcept (← parseJson answer).iterate
  ofExcept (issues.mapM k.resource)

/-- The resources of the wanted kind, or of both kinds. A failure is reported to the client, who then gets
an empty list. -/
def listResources (wanted : Option String) : Action (List Resource) :=
  let of (k : ResourceKind) : Action (List Resource) :=
    if wanted.isNone || wanted = some k.name then k.list else pure []
  tryCatch
    (do
      let workplans ← of workplanResource
      let judgements ← of judgementResource
      return workplans ++ judgements)
    fun e => do
      log "error" ("Failed to list resources: " ++ e.message)
      return []

def readResource (id : String) (wanted : Option String) : Action Datum :=
  match wanted with
  | some kind =>
    if kind == workplanResource.name || kind == judgementResource.name then
      during .readResource (bodyFromProgram id)
    else throw (.unsupportedResource kind)
  | none => during .readResource (bodyFromProgram id)

end IssuePlanner.Issue
