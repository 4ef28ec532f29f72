import IssuePlanner.FileTree
import IssuePlanner.Issue.Basic
import IssuePlanner.Issue.Branch

/-! What the server finds when it starts: variables, and the directory that it is pointed to. -/

namespace IssuePlanner.Server

structure Environment where
  repoPath : Option String := none
  model : Option String := none
  reasoning : Option String := none
  search : Option String := none
  geminiKey : Option String := none
  openaiKey : Option String := none
  deriving DecidableEq, Repr

def defaultModel : String := "gemini-2.5-pro"

def Environment.modelName (env : Environment) : String := env.model.getD defaultModel

def needsOpenai (model : String) : Bool := Text.begins model "gpt-" || Text.begins model "o"

def providerOf (model : String) : Provider := if needsOpenai model then .openai else .gemini

def Environment.key? (env : Environment) : Provider → Option String
  | .openai => Issue.nonEmpty env.openaiKey
  | .gemini => Issue.nonEmpty env.geminiKey

/-- Where the server looks for a repository: files below a directory, and the name of that directory. -/
structure Place where
  root : String
  files : FileTree

def normalize (names : List String) : List String :=
  names.foldl (fun path n => if n == ".." then path.dropLast else path ++ [n]) []

/-- Where a path leads, as names below the directory; `none` if it leads elsewhere. -/
def Place.inside? (p : Place) (path : String) : Option (List String) :=
  if path == p.root then some []
  else if Text.begins path (p.root ++ "/") then
    some (normalize (FileTree.names (String.ofList (path.toList.drop p.root.length))))
  else if Text.begins path "/" then none
  else some (normalize (FileTree.names path))

def Place.fullPath (p : Place) (path : String) : String :=
  match p.inside? path with
  | some names => Text.join "/" (p.root :: names)
  | none => "/" ++ Text.join "/" (normalize (FileTree.names path))

def Place.doesExist (p : Place) (path : String) : Bool :=
  ((p.inside? path).bind p.files.node?).isSome

def Place.isRepository (p : Place) (path : String) : Bool :=
  match p.inside? path with
  | some names => Issue.isRepository p.files (Text.join "/" names)
  | none => false

end IssuePlanner.Server
