import IssuePlanner.Data.Access
import IssuePlanner.Session.Command
import IssuePlanner.Text.Pick

/-! Issues and pull requests, through the issue program or a function that stands in for it. -/

namespace IssuePlanner.Issue

open IssuePlanner.Action

def parseJson (s : String) : Action Datum :=
  match Data.parse? s with
  | .ok d => pure d
  | .error f => throw (.unreadableData f)

def numberIn? (url : String) : Option String := Text.numberAfter? "/issues/" url

def pullNumberIn? (url : String) : Option String := Text.numberAfter? "/pull/" url

/-- Creates a label unless it exists. That this fails is only worth a warning. -/
def ensureLabel (label description : String) : Action Unit :=
  tryCatch
    (do
      let found ← gh [.text "label", .text "list", .text "--json", .text "name", .text ("--search=" ++ label)]
      let labels ← parseJson found
      if !labels.holds then
        let _ ← gh [.text "label", .text "create", .text label, .text "--color=5fa46c",
          .text ("--description=" ++ description)])
    fun e => print ("Warning: Unable to create label '" ++ label ++ "': " ++ e.message)

def commentWithProgram (issue body : String) : Action Unit := do
  let _ ← gh [.text "issue", .text "comment", .text issue, .text "--body", .text body]

def comment (channel : Channel) (issue body : String) : Action Unit :=
  match channel with
  | .program => commentWithProgram issue body
  | .function => do
    let _ ← standIn [.text "issue", .text "comment", .text issue, .text "--body", .text body]

def nonEmpty : Option String → Option String
  | some "" => none
  | s => s

def update (channel : Channel) (issue : String) (title body : Option String) : Action Unit :=
  match nonEmpty title, nonEmpty body with
  | none, none => throw .nothingToUpdate
  | title, body =>
    during .updateIssue do
      let titleArgs := (title.map fun t => [Arg.text "--title", .text t]).getD []
      let bodyArgs := (body.map fun b => [Arg.text "--body-file", .file b]).getD []
      let _ ← issueCommand channel ([Arg.text "issue", .text "edit", .text issue] ++ titleArgs ++ bodyArgs)

def identify (identifier : String) : Action String :=
  if Text.begins identifier "http://" || Text.begins identifier "https://" then
    match numberIn? identifier with
    | some n => pure n
    | none => throw (.invalidIssueUrl identifier)
  else pure identifier

def bodyFromProgram (identifier : String) : Action Datum := do
  let issue ← identify identifier
  let answer ← gh [.text "issue", .text "view", .text issue, .text "--json", .text "body"]
  match Data.parse? answer with
  | .error f =>
    if f.isSyntactic then throw (.during .readIssueBody (.unreadableData f))
    else throw (.unreadableData f)
  | .ok d =>
    match d.entry "body" with
    | .ok body => return body
    | .error (.shape (.missingKey k)) => throw (.during .readIssueBody (.shape (.missingKey k)))
    | .error e => throw e

def body (channel : Channel) (identifier : String) : Action Datum :=
  match channel with
  | .program => bodyFromProgram identifier
  | .function =>
    .text <$> standIn [.text "issue", .text "view", .text identifier, .text "--json", .text "body",
      .text "--jq", .text ".body"]

def pullDiff (url : String) : Action String :=
  during .fetchPullDiff do
    match pullNumberIn? url with
    | none => throw (.invalidPullUrl url)
    | some n => gh [.text "pr", .text "diff", .text n]

def labelArgs (labels : List String) : List Arg := labels.flatMap fun l => [.text "--label", .text l]

def labelDescription : String := "Created by Yellhorn MCP"

def createSubissue (parent title body : String) (labels : List String) : Action String :=
  during .createSubissue do
    for l in labels do ensureLabel l labelDescription
    let answer ← gh ([.text "issue", .text "create", .text "--title", .text title, .text "--body-file",
      .file body] ++ labelArgs labels)
    match Text.wordAfter? "https://github.com/" answer with
    | none => throw (.noIssueUrl answer)
    | some rest =>
      let url := "https://github.com/" ++ rest
      commentWithProgram parent ("Sub-issue created: " ++ url)
      return url

def postReview (url review : String) : Action String :=
  during .postReview do
    match pullNumberIn? url with
    | none => throw (.invalidPullUrl url)
    | some n =>
      let answer ← gh [.text "pr", .text "review", .text n, .text "--body-file", .file review,
        .text "--comment"]
      return url ++ "#pullrequestreview-" ++ answer

structure Created where
  number : String
  url : String

def readCreated (answer : String) : Except Failure Created :=
  let url := Text.trim answer
  if !Text.begins url "https://github.com/" then .error (.unexpectedIssueUrl url)
  else
    let parts := Text.pieces '/' url
    match parts.reverse with
    | number :: "issues" :: _ =>
      if 7 ≤ parts.length then .ok ⟨number, url⟩
      else .error (.during .readCreatedIssue (.noIssueNumber url))
    | _ => .error (.during .readCreatedIssue (.noIssueNumber url))

/-- Creates an issue. Labels are created first, but not through a function that stands in. -/
def create (channel : Channel) (title body : String) (labels : List String) : Action Created := do
  if channel = .program then
    for l in labels do ensureLabel l labelDescription
  let args := [Arg.text "issue", .text "create", .text "--title", .text title, .text "--body", .text body]
    ++ labelArgs labels
  let answer ← match channel with
    | .program => gh args
    | .function => standIn args
  ofExcept (readCreated answer)

def setWorkplan (channel : Channel) (issue workplan : String) : Action Unit :=
  match channel with
  | .program => update .program issue none (some workplan)
  | .function => do
    let _ ← standIn [.text "issue", .text "edit", .text issue, .text "--body", .text workplan]

def judgementLabels : List String := ["yellhorn-mcp", "yellhorn-judgement-subissue"]

def createJudgement (channel : Channel) (parent title content : String) : Action String :=
  match channel with
  | .program => createSubissue parent title content judgementLabels
  | .function => do
    let issue ← create .function ("[Sub-issue of #" ++ parent ++ "] " ++ title) content judgementLabels
    return issue.url

end IssuePlanner.Issue
