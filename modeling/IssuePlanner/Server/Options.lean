import IssuePlanner.Number.Reading
import IssuePlanner.Text.Quoted
import IssuePlanner.Text.Search

/-! The options of the command line. Every word is told apart first: an option, perhaps shortened or with a
value attached to it, or a plain word. Then the options are read from left to right. -/

namespace IssuePlanner.Server

inductive OptionName where
  | help
  | repoPath
  | model
  | reasoning
  | noSearch
  | host
  | port
  deriving DecidableEq, Repr

namespace OptionName

def spellings : List (String × OptionName) :=
  [("-h", help), ("--help", help), ("--repo-path", repoPath), ("--model", model),
   ("--codebase-reasoning", reasoning), ("--no-search-grounding", noSearch), ("--host", host),
   ("--port", port)]

def shown (o : OptionName) : String :=
  Text.join "/" ((spellings.filter fun s => s.2 = o).map (·.1))

end OptionName

structure Options where
  repoPath : String
  model : String
  reasoning : String
  noSearch : Bool := false
  host : String := "127.0.0.1"
  port : Int := 8000
  deriving DecidableEq, Repr

inductive UsageError where
  | ambiguous (word : String) (candidates : List String)
  | valueExpected (option : OptionName)
  | valueIgnored (option : OptionName) (value : String)
  | badNumber (option : OptionName) (value : String)
  | badChoice (option : OptionName) (value : String) (choices : List String)
  | unrecognized (words : List String)
  deriving DecidableEq, Repr

def UsageError.message : UsageError → String
  | ambiguous word candidates =>
    "ambiguous option: " ++ word ++ " could match " ++ Text.join ", " candidates
  | valueExpected o => "argument " ++ o.shown ++ ": expected one argument"
  | valueIgnored o v => "argument " ++ o.shown ++ ": ignored explicit argument " ++ Text.quoted v
  | badNumber o v => "argument " ++ o.shown ++ ": invalid int value: " ++ Text.quoted v
  | badChoice o v choices => "argument " ++ o.shown ++ ": invalid choice: " ++ Text.quoted v
      ++ " (choose from " ++ Text.join ", " (choices.map Text.quoted) ++ ")"
  | unrecognized words => "unrecognized arguments: " ++ Text.join " " words

/-! ### Telling words apart -/

/-- A value that is attached to an option: after an equals sign, or right behind a short option. -/
inductive Attached where
  | byEquals (value : String)
  | direct (value : String)
  deriving DecidableEq, Repr

inductive Word where
  | plain (s : String)
  | option (name : OptionName) (value : Option Attached)
  /-- Looks like an option and is none. -/
  | unknown (s : String)
  /-- Ends the options. -/
  | separator
  deriving DecidableEq, Repr

def cutAtEquals (s : String) : String × Option Attached :=
  let cs := s.toList
  let front := cs.takeWhile (· ≠ '=')
  (String.ofList front,
    if front.length < cs.length then some (.byEquals (String.ofList (cs.drop (front.length + 1)))) else none)

def exactOption? (s : String) : Option OptionName := (OptionName.spellings.find? (·.1 == s)).map (·.2)

def candidates (s : String) : List (String × OptionName × Option Attached) :=
  if Text.begins s "--" then
    let (front, value) := cutAtEquals s
    (OptionName.spellings.filter fun o => Text.begins o.1 front).map fun o => (o.1, o.2, value)
  else
    let short := String.ofList (s.toList.take 2)
    OptionName.spellings.filterMap fun o =>
      if o.1 == short then some (o.1, o.2, some (.direct (String.ofList (s.toList.drop 2))))
      else if Text.begins o.1 s then some (o.1, o.2, none)
      else none

def isNegativeNumber (s : String) : Bool :=
  match s.toList with
  | '-' :: cs =>
    let cs := if cs.getLast? = some '\n' then cs.dropLast else cs
    match cs.dropWhile Text.isDecimal with
    | [] => !cs.isEmpty
    | '.' :: ds => !ds.isEmpty && ds.all Text.isDecimal
    | _ => false
  | _ => false

/-- A word that starts with a dash and is no spelling of an option. -/
def guess (s : String) : Except UsageError Word :=
  match candidates s with
  | [(_, name, value)] => .ok (.option name value)
  | [] => .ok (if isNegativeNumber s || s.toList.contains ' ' then .plain s else .unknown s)
  | several => .error (.ambiguous s (several.map (·.1)))

def classify (s : String) : Except UsageError Word :=
  if !Text.begins s "-" then .ok (.plain s)
  else
    match exactOption? s with
    | some name => .ok (.option name none)
    | none =>
      if s == "-" then .ok (.plain s)
      else
        let (front, value) := cutAtEquals s
        match exactOption? front, value with
        | some name, some v => .ok (.option name (some v))
        | _, _ => guess s

/-- Tells all words apart; after the separator every word is plain. -/
def classifyAll : List String → Except UsageError (List Word)
  | [] => .ok []
  | s :: rest =>
    if s == "--" then .ok (.separator :: rest.map .plain)
    else do
      let w ← classify s
      return w :: (← classifyAll rest)

/-! ### Reading options -/

def reasoningChoices : List String := ["full", "lsp", "none"]

def Options.put (o : Options) (name : OptionName) (value : String) : Except UsageError Options :=
  match name with
  | .repoPath => .ok { o with repoPath := value }
  | .model => .ok { o with model := value }
  | .reasoning =>
    if reasoningChoices.contains value then .ok { o with reasoning := value }
    else .error (.badChoice name value reasoningChoices)
  | .host => .ok { o with host := value }
  | .port =>
    match Number.int? value with
    | some port => .ok { o with port }
    | none => .error (.badNumber name value)
  | .help | .noSearch => .ok o

/-- What is wrong with letters right behind the short option for help; further letters than that option's
own are left alone. -/
def clusterFault? : List Char → Option UsageError
  | [] => none
  | 'h' :: '=' :: r => some (.valueIgnored .help (String.ofList r))
  | 'h' :: r => clusterFault? r
  | '-' :: r => some (.valueIgnored .help (String.ofList ('-' :: r)))
  | _ => none

def flagFault? (name : OptionName) : Option Attached → Option UsageError
  | none => none
  | some (.byEquals v) => some (.valueIgnored name v)
  | some (.direct v) => clusterFault? v.toList

/-- Reads the options; `none` if help is asked for. Words that belong to no option are collected. -/
def readWords (o : Options) (extras : List String) : List Word → Except UsageError (Option Options)
  | [] => if extras.isEmpty then .ok (some o) else .error (.unrecognized extras)
  | .plain s :: rest => readWords o (extras ++ [s]) rest
  | .unknown s :: rest => readWords o (extras ++ [s]) rest
  | .separator :: rest => readWords o (extras ++ ["--"]) rest
  | .option .help value :: _ =>
    match flagFault? .help value with
    | some e => .error e
    | none => .ok none
  | .option .noSearch value :: rest =>
    match flagFault? .noSearch value with
    | some e => .error e
    | none => readWords { o with noSearch := true } extras rest
  | .option name (some (.byEquals v)) :: rest | .option name (some (.direct v)) :: rest => do
    readWords (← o.put name v) extras rest
  | .option name none :: .plain s :: rest => do readWords (← o.put name s) extras rest
  | .option name none :: _ => .error (.valueExpected name)

def Options.parse (defaults : Options) (args : List String) : Except UsageError (Option Options) := do
  readWords defaults [] (← classifyAll args)

end IssuePlanner.Server
