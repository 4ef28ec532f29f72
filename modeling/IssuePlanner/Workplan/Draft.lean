import IssuePlanner.Workplan.Prompt
import IssuePlanner.Workplan.Publish

/-! Drafting a workplan for an issue, and revising it. The title of a workplan is the heading of its first line. -/

namespace IssuePlanner.Workplan

open IssuePlanner.Action Generation

def setAside : Int := 5500

def draftTask (o : DraftOrder) (code : String) : Task :=
  { issue := o.issue, model := o.model, title := o.title, debug := o.debug
    disableSearch := o.disableSearch, origin := o.origin
    prompt := draftPrompt o.title o.description code ++ if o.disableSearch then "" else searchHint }

/-- Drafts a workplan. Every failure is reported on the issue. -/
def draft (channel : Channel) (o : DraftOrder) : Action Unit :=
  tryCatch
    (do publish channel (draftTask o (← code o.reasoning o.model setAside)))
    (reportFailure channel o.issue "Error processing workplan" "❌ **Error generating workplan**")

/-! ### Revisions -/

def headingMark : List Char := ['#', ' ']

def titleOf (workplan : String) : String :=
  let line := (Text.splitOn '\n' workplan.toList).headD []
  if Text.startsWith line headingMark then
    String.ofList (Text.strip (Text.replaceAll headingMark [] line))
  else "Workplan Revision"

/-- The title of what an issue holds; anything that is there has to be a text. -/
def titleOfBody (body : Datum) : Except Failure String :=
  match body with
  | .text s => .ok (titleOf s)
  | d => if d.holds then Datum.fault (.missingAttribute d.kind "split") else .ok (titleOf "")

def revisionTask (o : RevisionOrder) (title code : String) : Task :=
  { issue := o.issue, model := o.model, title, debug := o.debug
    disableSearch := o.disableSearch, origin := o.origin
    prompt := revisionPrompt o.workplan.display o.instructions code }

/-- Revises a workplan. Every failure is reported on the issue. -/
def revise (channel : Channel) (o : RevisionOrder) : Action Unit :=
  tryCatch
    (do
      let shown ← code o.reasoning o.model setAside
      let title ← ofExcept (titleOfBody o.workplan)
      publish channel (revisionTask o title shown))
    (reportFailure channel o.issue "Error processing revision" "❌ **Error revising workplan**")

end IssuePlanner.Workplan
