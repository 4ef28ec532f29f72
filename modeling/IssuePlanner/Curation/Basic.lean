import IssuePlanner.Curation.Choice
import IssuePlanner.Curation.ContextFile
import IssuePlanner.Curation.Prompt
import IssuePlanner.Model.Call
import IssuePlanner.Session.Basic
import IssuePlanner.Snapshot.Basic

/-! Curation: a model picks the directories that matter for a task, and they are written to a file. If the
model fails or picks none, all of them are written. -/

namespace IssuePlanner.Curation

open IssuePlanner.Action

structure Order where
  model : String
  task : String
  output : String := ".yellhorncontext"
  reasoning : String := "file_structure"
  depthLimit : Int := 0
  disableSearch : Bool := false

/-- The degree of detail: what the session says, else what the order says. -/
def reasoningOf (o : Order) : Action String := do
  let s ← get
  return if s.attended then s.settings.reasoning.getD o.reasoning else o.reasoning

def contentsOf (s : Session) (paths : List String) : Except Failure (List (String × String)) := do
  let files ← paths.filterM s.isFile
  return files.filterMap fun p => (s.files.textLossy? p).map fun text => (p, text)

def overview (mode : String) (paths : List String) : Action String := do
  match mode with
  | "lsp" =>
    info "Using LSP mode for codebase analysis"
    throw (.missingArgument "get_lsp_snapshot" "file_paths")
  | "full" =>
    info "Using full mode with file contents for codebase analysis"
    return (Snapshot.mk paths (← ofExcept (contentsOf (← get) paths))).prompt
  | _ =>
    info "Using file structure mode for codebase analysis"
    return Snapshot.Tree.text paths

def peek (s : String) : String :=
  if 500 < s.length then String.ofList (s.toList.take 500) ++ "..." else s

/-- The first five of some names, and how many more there are. -/
def sample (names : List String) : String :=
  Text.join ", " (names.take 5)
    ++ if 5 < names.length then ", ... (" ++ Number.natText (names.length - 5) ++ " more)" else ""

/-- Has the model choose directories; all of them if that fails. -/
def choose (o : Order) (shown : String) (dirs : List String) : Action (List String) :=
  tryCatch
    (do
      let answer ← Model.call
        { prompt := shown, model := o.model, system := some systemMessage, temperature := 0.0 }
      let found := chosen dirs answer.display
      info ("Analysis complete, found " ++ Number.natText found.length ++ " important directories: "
        ++ sample found)
      return found)
    fun e => do
      log "error" ("Error during LLM analysis: " ++ e.message ++ " (" ++ e.kind ++ ")")
      return dirs

/-- The directories to write: those that were chosen, or all if there are none. -/
def chooseOrAll (o : Order) (shown : String) (dirs : List String) : Action (List String) := do
  match ← choose o shown dirs with
  | [] =>
    log "warning" "No important directories identified, including all directories"
    return dirs
  | found => return found

def shownPath (root path : String) : String := Text.join "/" (root :: FileTree.names path)

def writeFile (path content : String) : Action Unit := do
  let s ← get
  match s.files.write path content.toUTF8 with
  | .ok files => set { s with files }
  | .error f => throw (.during .writeContextFile (.file f (shownPath s.root path)))

def survey (o : Order) : Action (List String × List String) := do
  info "Starting context curation process"
  let all := filePaths (← get).files
  let count := fun (xs : List String) => Number.natText xs.length
  info ("Found " ++ count all ++ " files in repository")
  info ("Using all " ++ count all ++ " files without ignore filtering")
  let paths := withinDepth o.depthLimit all
  if 0 < o.depthLimit then
    info ("Applied depth limit " ++ Number.intText o.depthLimit ++ ", now have " ++ count paths ++ " files")
  let dirs := directoriesOf paths
  info ("Extracted " ++ count dirs ++ " directories from " ++ count paths ++ " filtered files")
  return (paths, dirs)

def curateOrFail (o : Order) : Action String := do
  let off := o.disableSearch && (← get).attended
  let saved ← searchSetting
  if off then setSearch false
  let (paths, dirs) ← survey o
  let shown ← overview (← reasoningOf o) paths
  info ("Directory context:\n" ++ peek shown)
  if (← get).manager.isNone then throw .managerMissing
  info ("Analyzing directory structure with " ++ o.model)
  let picked ← chooseOrAll o shown dirs
  let count := Number.natText picked.length
  info ("Processing complete, identified " ++ count ++ " important directories")
  writeFile o.output (fileText o.task paths picked)
  let place := shownPath (← get).root o.output
  info ("Successfully wrote .yellhorncontext file to " ++ place)
  info ("Generated .yellhorncontext file at " ++ place ++ " with " ++ count
    ++ " important directories, blacklist and whitelist patterns")
  if off then setSearch saved
  return "Successfully created .yellhorncontext file at " ++ place ++ " with " ++ count
    ++ " important directories and recommended blacklist patterns."

def curate (o : Order) : Action String :=
  tryCatch (curateOrFail o) fun e => do
    let failure := Failure.during .curate e
    log "error" failure.message
    throw failure

end IssuePlanner.Curation
