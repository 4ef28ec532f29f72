import IssuePlanner.Outline.Snapshot
import IssuePlanner.Snapshot.Basic
import IssuePlanner.Tokens.Limit

/-! The code that a prompt shows, in one of four degrees of detail: everything, outlines, the tree, or
nothing. -/

namespace IssuePlanner.Snapshot

open IssuePlanner.Action

def detail (report : String → Action Unit) (mode : String) : Action String := do
  let s ← take report (mode ≠ "full")
  match mode with
  | "lsp" => return (← Outline.snapshot s.paths).prompt
  | "file_structure" => return Tree.text s.paths
  | "full" => return s.prompt
  | _ => return ""

def applyLimit (report : String → Action Unit) (content : String) (limit : Int) (model : String) :
    Action String := do
  let (text, notes) := Tokens.limited content limit model
  notes.forM report
  return text

/-- The code to show. A limit of zero and a model without a name mean that nothing is cut. -/
def context (report : String → Action Unit) (mode : String) (limit : Option Int) (model : Option String) :
    Action String := do
  let content ← detail report mode
  match limit, model with
  | some n, some m => if n ≠ 0 && m ≠ "" then applyLimit report content n m else return content
  | _, _ => return content

end IssuePlanner.Snapshot
