import IssuePlanner.Session.Basic

/-! Running commands. A command is answered by the first rule that fits its first arguments and is not used
up. Every command is recorded before it is answered. -/

namespace IssuePlanner

namespace Rule

def answers (r : Rule) (args : List Arg) : Bool := (r.args.map Arg.text).isPrefixOf args && r.uses != some 0

def spend (r : Rule) : Rule := { r with uses := r.uses.map (· - 1) }

def take? (args : List Arg) : List Rule → Option (Rule × List Rule)
  | [] => none
  | r :: rs =>
    if r.answers args then some (r, r.spend :: rs)
    else (take? args rs).map fun (found, rs) => (found, r :: rs)

def unscripted : Rule := { args := [], stderr := "unscripted command".toUTF8, code := 1 }

end Rule

namespace Action

def decode (bytes : ByteArray) : Action String :=
  match Text.Utf8.decode? bytes with
  | .ok s => pure s
  | .error f => throw (.unreadableText f)

def answerGit (args : List Arg) : Action Rule := do
  record (.command .git args)
  let s ← get
  match Rule.take? args s.git with
  | some (r, rules) => do set { s with git := rules }; return r
  | none => return Rule.unscripted

/-- The answer to a command for `gh`. A program that cannot be found is always recorded under its own
name. -/
def answerGh (runner : Runner) (args : List Arg) : Action Rule := do
  let s ← get
  match Rule.take? args s.gh with
  | some (r, rules) =>
    set { s with gh := rules }
    record (.command (if r.missing then .gh else runner) args)
    return r
  | none =>
    record (.command runner args)
    return Rule.unscripted

def git (args : List String) : Action String := do
  let r ← answerGit (args.map .text)
  if r.missing then throw .gitMissing
  else if r.code ≠ 0 then throw (.gitFailed (Text.trim (← decode r.stderr)))
  else return Text.trim (← decode r.stdout)

def gh (args : List Arg) : Action String := do
  let r ← answerGh .gh args
  if r.missing then throw .issueToolMissing
  else if r.code ≠ 0 then throw (.issueToolFailed (Text.trim (← decode r.stderr)))
  else return Text.trim (← decode r.stdout)

/-- Calls the function that stands in for `gh`; nothing is trimmed. -/
def standIn (args : List Arg) : Action String := do
  let r ← answerGh .function args
  if r.missing then throw (.programMissing "gh")
  else if r.code ≠ 0 then throw (.issueToolFailed (← decode r.stderr))
  else decode r.stdout

def issueCommand (channel : Channel) (args : List Arg) : Action String :=
  match channel with
  | .program => gh args
  | .function => tryCatch (standIn args) fun
    | .programMissing _ => throw .issueToolMissing
    | e => throw e

def print (line : String) : Action Unit := record (.printed line)

end Action

end IssuePlanner
