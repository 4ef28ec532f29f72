import IssuePlanner.Snapshot.Basic

/-! Outlines of the files of a snapshot. Scripts come before packages; other files have no outline. A file that
the system does not tell about ends the whole snapshot, and so does a script that cannot be read or parsed. -/

namespace IssuePlanner.Outline

open IssuePlanner.Action

inductive Language where
  | script
  | package
  deriving DecidableEq, Repr

def language? (path : String) : Option Language :=
  if Text.ends path ".py" then some .script
  else if Text.ends path ".go" then some .package
  else none

/-- The outline of a file. A script has to be a valid text, and not too much for the interpreter. -/
def ofFile (s : Session) (path : String) (language : Language) : Except Failure (List String) := do
  let shown := s.root ++ "/" ++ path
  let bytes := (s.files.bytes path).toOption.getD ByteArray.empty
  match language with
  | .script => Script.outline s.interpreter (s.symbolIndex path bytes) (← s.files.text shown path)
  | .package => return Package.outline (s.symbolServer path bytes) (s.files.text shown path).toOption

def addOutlines (s : Session) (language : Language) (contents : List (String × String)) :
    List String → Except Failure (List (String × String))
  | [] => .ok contents
  | p :: ps => do
    if language? p = some language then
      if ← s.isFile p then
        match ← ofFile s p language with
        | [] => addOutlines s language contents ps
        | lines => addOutlines s language (Entries.put p (Text.unlines lines) contents) ps
      else addOutlines s language contents ps
    else addOutlines s language contents ps

def snapshot (paths : List String) : Action Snapshot := do
  let s ← get
  let scripts ← ofExcept (addOutlines s .script [] paths)
  let contents ← ofExcept (addOutlines s .package scripts paths)
  return ⟨paths, contents⟩

end IssuePlanner.Outline
