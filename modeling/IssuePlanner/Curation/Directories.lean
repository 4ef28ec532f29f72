import IssuePlanner.FileTree
import IssuePlanner.Text.Order

/-! The files that curation looks at, and the directories that they lie in. -/

namespace IssuePlanner.Curation

/-- Directories that are never looked at: hidden ones, and those of tools. -/
def isSkippedDirectory (name : String) : Bool :=
  Text.begins name "." || ["node_modules", "__pycache__", "venv", "env"].contains name

def isSkippedFile (name : String) : Bool := Text.begins name "." || Text.ends name ".pyc"

def isSeen (path : List String) : Bool :=
  match path.reverse with
  | [] => false
  | name :: dirs => !isSkippedFile name && !dirs.any isSkippedDirectory

def isDirectoryNode : FileNode → Bool
  | .directory => true
  | _ => false

def filePaths (t : FileTree) : List String :=
  ((t.nodes.filter fun (path, node) => !isDirectoryNode node && isSeen path).map
    fun (path, _) => Text.join "/" path)

def depth (path : String) : Nat := path.toList.count '/'

/-- The paths that are not too deep; a limit that is not positive means nothing. -/
def withinDepth (limit : Int) (paths : List String) : List String :=
  if 0 < limit then paths.filter fun p => (depth p : Int) < limit else paths

/-- The directories around a path, from the outermost one. -/
def directoriesAround (path : String) : List String :=
  let names := Text.pieces '/' path
  ((List.range (names.length - 1)).map fun i => Text.join "/" (names.take (i + 1))).filter (· ≠ "")

def isAtRoot (path : String) : Bool := !path.toList.contains '/'

def rootName : String := "."

def directoriesOf (paths : List String) : List String :=
  Text.sortedSet (paths.flatMap directoriesAround ++ if paths.any isAtRoot then [rootName] else [])

end IssuePlanner.Curation
