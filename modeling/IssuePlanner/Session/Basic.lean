import IssuePlanner.FileTree
import IssuePlanner.Job
import IssuePlanner.Metadata
import IssuePlanner.Model.Manager
import IssuePlanner.Outline.Package
import IssuePlanner.Outline.Script

/-! A session: the repository that is worked on, what the programs and models around it will answer, and
the trace of everything that was done. Actions are computations on a session that may fail; a failure keeps
the trace. -/

namespace IssuePlanner

/-- An argument of a command: a text, or a temporary file with some content. -/
inductive Arg where
  | text (s : String)
  | file (content : String)
  deriving DecidableEq, Repr

inductive Runner where
  | git
  | gh
  | function
  deriving DecidableEq, Repr

inductive Event where
  | command (runner : Runner) (args : List Arg)
  /-- A message to the client. -/
  | log (level message : String)
  /-- A message to the operator. -/
  | note (level message : String)
  | request (provider : Provider) (params : List (String × Datum))
  | pause (seconds : Nat)
  | printed (line : String)
  | jobFailed (cause : Failure)

/-- The answer of a program to the commands that start with some arguments. -/
structure Rule where
  args : List String
  stdout : ByteArray := ByteArray.empty
  stderr : ByteArray := ByteArray.empty
  code : Int := 0
  /-- How often the rule still applies; without a number it always does. -/
  uses : Option Nat := none
  /-- The program cannot be found. -/
  missing : Bool := false

inductive Reply where
  | answer (d : Datum)
  | refusal (e : ProviderError)

structure LibraryFaults where
  toolFails : Bool := false
  configClassMissing : Bool := false

structure Settings where
  model : Option String := none
  searchGrounding : Option Bool := none
  reasoning : Option String := none

/-- The order in which the members of a set are visited. Nothing is known of it but that it leaves out none and
repeats none. -/
structure SetOrder where
  arrange : List String → List String
  perm : ∀ xs, (arrange xs).Perm xs

def SetOrder.asNamed : SetOrder := ⟨id, fun _ => .refl _⟩

structure Session where
  /-- The directory of the repository, as messages show it. -/
  root : String := "<repo>"
  /-- The last name of that directory. -/
  name : String := "repo"
  files : FileTree := {}
  git : List Rule := []
  gh : List Rule := []
  replies : List Reply := []
  faults : LibraryFaults := {}
  manager : Option Model.Manager := none
  /-- What the symbol server answers for a file, by its path and bytes. -/
  symbolServer : String → ByteArray → Outline.SymbolServer := fun _ _ => .absent
  /-- The symbols that an index finds in a file, by its path and bytes. -/
  symbolIndex : String → ByteArray → Option (List Outline.Script.Symbol) := fun _ _ => none
  interpreter : Outline.Script.Interpreter := {}
  validator : Metadata.Validator := .strict
  /-- What keeps the system from telling what a path names, besides what `files` shows. -/
  statusFault : String → Option FileFault := fun _ => none
  setOrder : SetOrder := .asNamed
  /-- Whether a client listens. -/
  attended : Bool := false
  settings : Settings := {}
  /-- How jobs send their issue commands. -/
  channel : Channel := .program
  clock : Timestamp := ⟨0, some 0⟩
  /-- Microseconds by which the clock moves each time it is read. -/
  clockStep : Int := 0
  /-- What was done, last things first. -/
  trace : List Event := []
  /-- Messages that are sent once the running work is done. -/
  deferred : List String := []
  /-- Jobs to do once the running work is done. -/
  jobs : List Job := []

/-- Whether a path names a file. The system may refuse to tell. -/
def Session.isFile (s : Session) (path : String) : Except Failure Bool :=
  match (s.statusFault path).map .error |>.getD (s.files.status path) with
  | .error fault => .error (.file fault (s.root ++ "/" ++ path))
  | .ok (some (.file _)) => .ok true
  | .ok _ => .ok false

abbrev Action := ExceptT Failure (StateM Session)

namespace Action

def record (e : Event) : Action Unit := modify fun s => { s with trace := e :: s.trace }

/-- Sends a message to the client, if one listens. -/
def log (level message : String) : Action Unit := do
  if (← get).attended then record (.log level message)

def info (message : String) : Action Unit := log "info" message

def later (message : String) : Action Unit := do
  if (← get).attended then modify fun s => { s with deferred := s.deferred ++ [message] }

def during {α : Type} (stage : Stage) (act : Action α) : Action α :=
  tryCatch act fun e => throw (.during stage e)

def now : Action Timestamp := do
  let s ← get
  set { s with clock := s.clock.add s.clockStep }
  return s.clock

/-! ### The switch that lets models search -/

/-- Whether the session lets models search; it does unless it says otherwise. -/
def searchSetting : Action Bool := do return (← get).settings.searchGrounding.getD true

def setSearch (on : Bool) : Action Unit :=
  modify fun s => { s with settings := { s.settings with searchGrounding := some on } }

/-- Turns the switch off for a request that asks for it; gives the setting before. -/
def suspendSearch (disable : Bool) : Action Bool := do
  let saved ← searchSetting
  if disable then
    setSearch false
    info "Search grounding temporarily disabled for this request"
  return saved

/-- Puts the switch back to what it was before a request that turned it off. -/
def restoreSearch (disable saved : Bool) : Action Unit := if disable then setSearch saved else pure ()

end Action

end IssuePlanner
