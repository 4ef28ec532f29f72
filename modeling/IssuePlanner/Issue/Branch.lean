import IssuePlanner.Session.Command
import IssuePlanner.Text.Pick

/-! The repository's default branch, and whether there is a repository at all. -/

namespace IssuePlanner.Issue

open IssuePlanner.Action

def headBranch? (description : String) : Option String := Text.wordAfter? "HEAD branch: " description

def firstExisting : List String → Action (Option String)
  | [] => pure none
  | b :: bs => do
    let found ← tryCatch (do let _ ← git ["show-ref", "refs/heads/" ++ b]; return true)
      fun _ => pure false
    if found then return some b else firstExisting bs

/-- The default branch: what the remote says, else the first common name that exists, else a guess. -/
def defaultBranch : Action String := do
  let said ← tryCatch (do return headBranch? (← git ["remote", "show", "origin"])) fun _ => pure none
  match said with
  | some b => return b
  | none => return (← firstExisting ["main", "master"]).getD "main"

/-- Whether a directory holds a repository: its `.git` is a directory, or the file of a work tree. -/
def isRepository (files : FileTree) (path : String) : Bool :=
  match files.find? (if path == "" then ".git" else path ++ "/.git") with
  | some .directory | some (.file _) => true
  | _ => false

end IssuePlanner.Issue
