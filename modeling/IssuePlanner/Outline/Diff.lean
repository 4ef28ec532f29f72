import IssuePlanner.Outline.Snapshot

/-! What changed between two commits: the difference of outlines, and full texts for the files of a
snapshot that a change touches. -/

namespace IssuePlanner.Outline

open IssuePlanner.Action

def fenced (language text : String) : String := "```" ++ language ++ "\n" ++ text ++ "\n```"

/-- The text of a file at a commit; a file that is not there is empty. -/
def textAt (commit path : String) : Action String :=
  tryCatch (git ["show", commit ++ ":" ++ path]) fun _ => pure ""

/-- The outline of a text that was stored in a file without a name and read again. -/
def ofText (s : Session) (language : Language) (text : String) : Except Failure (List String) :=
  let source := String.ofList (Text.unifyNewlines text.toList)
  match language with
  | .script => Script.outline s.interpreter (s.symbolIndex "" text.toUTF8) source
  | .package => .ok (Package.outline (s.symbolServer "" text.toUTF8) (some source))

def lacking (from_ other : List String) : List String :=
  Text.sortedSet (from_.filter fun x => !other.contains x)

def changeWord (base head : String) : String :=
  if base == "" && head != "" then "Added"
  else if base != "" && head == "" then "Deleted"
  else "Modified"

def listed (title mark : String) (items : List String) : List String :=
  if items.isEmpty then [] else ("\n" ++ title ++ ":") :: items.map (mark ++ " " ++ ·)

/-- The outline of a text in a report; an empty text has none. -/
def itemsOf (s : Session) (language : Language) (text : String) : Except Failure (List String) :=
  if text == "" then .ok [] else ofText s language text

def changedItems (removed added : List String) : List String :=
  if removed.isEmpty && added.isEmpty then
    ["\nNo structural API changes detected (implementation details may have changed)"]
  else listed "Removed" "-" removed ++ listed "Added" "+" added

/-- The report on one file, given its text before and after. A failure is reported in place of the items. -/
def fileReport (s : Session) (language : Language) (path base head : String) : List String :=
  let items := do
    let before ← itemsOf s language base
    let after ← itemsOf s language head
    return changedItems (lacking before after) (lacking after before)
  ("\n## " ++ path ++ " (" ++ changeWord base head ++ ")") ::
    match items with
    | .ok lines => lines
    | .error e => ["\nError processing " ++ path ++ ": " ++ e.message]

def fileReports (base head : String) : List String → Action (List String)
  | [] => pure []
  | p :: ps =>
    match language? p with
    | none => fileReports base head ps
    | some language => do
      let before ← textAt base p
      let after ← textAt head p
      let report := fileReport (← get) language p before after
      return report ++ (← fileReports base head ps)

def diff (base head : String) (changed : List String) : Action String := do
  let reports ← fileReports base head changed
  let reports := if reports.isEmpty then
      ["\nNo API changes detected in supported files (Python, Go)"]
    else reports
  return Text.unlines
    (["# API Changes Between " ++ base ++ " and " ++ head,
      "Files changed: " ++ Number.natText changed.length]
    ++ reports
    ++ ["\n---",
        "Note: This diff focuses on API changes (functions, classes, methods, signatures) and may not show implementation details."])

end IssuePlanner.Outline
