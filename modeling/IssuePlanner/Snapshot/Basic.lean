import IssuePlanner.Session.Command
import IssuePlanner.Snapshot.Rules
import IssuePlanner.Snapshot.Tree

/-! A snapshot of a repository: the files that may be shown to a model and their contents. Files that are too
large or cannot be read are listed without a content. A prompt shows the tree of a snapshot, then the contents in
the order of their paths. -/

namespace IssuePlanner

structure Snapshot where
  paths : List String
  contents : List (String × String) := []
  deriving DecidableEq, Repr

namespace Snapshot

open IssuePlanner.Action

def sizeLimit : Nat := 1024 * 1024

/-- The lines of a rule file below the repository, if there is such a file. -/
def readRules (name : String) : Action (Option (List String)) := do
  let s ← get
  if s.files.doesExist name then
    some <$> ruleLines <$> ofExcept (s.files.text (s.root ++ "/" ++ name) name)
  else return none

/-- The names in a listing; an empty listing has none. -/
def listing (output : String) : List String := if output == "" then [] else Text.pieces '\n' output

def patternsNote (name : String) (lines : List String) : String :=
  "Found " ++ name ++ " with " ++ Number.natText lines.length ++ " patterns"

def contextNote (f : RuleFile) : String :=
  "Found .yellhorncontext with " ++ Number.natText f.plain.length ++ " whitelist, "
    ++ Number.natText f.marked.length ++ " blacklist, and 0 negation patterns"

def consult (report : String → Action Unit) (name : String) (note : List String → String) :
    Action (Option (List String)) := do
  let lines ← readRules name
  if let some lines := lines then report (note lines)
  return lines

/-- Chooses the files to show. Each step is reported. -/
def choose (report : String → Action Unit) : Action (List String) := do
  let _ ← consult report ".gitignore" (patternsNote ".gitignore")
  let tracked ← git ["ls-files"]
  let untracked ← git ["ls-files", "--others", "--exclude-standard"]
  let ignore ← consult report ".yellhornignore" (patternsNote ".yellhornignore")
  let context ← consult report ".yellhorncontext" fun lines => contextNote (.ofLines lines)
  let rules : Rules := ⟨context.map .ofLines, .ofLines (ignore.getD [])⟩
  let sorted := Sorted.ofListing rules (listing tracked ++ listing untracked)
  sorted.report.forM report
  return sorted.chosen

inductive Content where
  | read (text : String)
  | tooLarge
  | unreadable

def readContent (files : FileTree) (path : String) : Content :=
  match files.bytes path with
  | .error _ => .unreadable
  | .ok bytes =>
    if sizeLimit < bytes.size then .tooLarge
    else .read (String.ofList (Text.unifyNewlines (Text.Utf8.decodeLossy bytes).toList))

def readContents (files : FileTree) (paths : List String) : List (String × String) × Nat :=
  let found := paths.map fun p => (p, readContent files p)
  (found.filterMap fun (p, c) => match c with
    | .read text => some (p, text)
    | _ => none,
   found.countP fun (_, c) => match c with
    | .tooLarge => true
    | _ => false)

def take (report : String → Action Unit) (justPaths : Bool) : Action Snapshot := do
  report ("Getting codebase snapshot in mode: " ++ if justPaths then "paths" else "full")
  let paths ← choose report
  if justPaths then return ⟨paths, []⟩
  let (contents, large) := readContents (← get).files paths
  if large ≠ 0 then report ("Skipped " ++ Number.natText large ++ " files larger than 1MB")
  report ("Read contents of " ++ Number.natText contents.length ++ " files")
  return ⟨paths, contents⟩

/-! ### As part of a prompt -/

/-- The part of a prompt that shows one file; a blank file is not shown. -/
def filePart (path content : String) : String :=
  if Text.isBlankText content then ""
  else "\n--- File: " ++ path ++ " ---\n" ++ content ++ if Text.ends content "\n" then "" else "\n"

def prompt (s : Snapshot) : String :=
  let tree := Tree.text s.paths
  if s.contents.isEmpty then tree
  else
    let parts := (s.contents.mergeSort fun a b => Text.atMost a.1 b.1).map fun (p, c) => filePart p c
    tree ++ "\n\n<file_contents>\n" ++ Text.join "" parts ++ "</file_contents>"

end Snapshot

end IssuePlanner
