import IssuePlanner.Text.Order

/-! Paths drawn as a tree: for each directory a line, followed by the lines of its files. The files at the
root come first. The drawing depends only on which paths there are (`drawing` sorts them). -/

namespace IssuePlanner.Snapshot.Tree

/-- A path as its directory, which is empty at the root, and its last name. -/
def place (path : String) : String × String :=
  match (Text.pieces '/' path).reverse with
  | [] => ("", "")
  | name :: dirs => (Text.join "/" dirs.reverse, name)

def parent (path : String) : String := (place path).1

def name (path : String) : String := (place path).2

def indent (level : Nat) : String := Text.join "" (List.replicate level "│   ")

/-- The lines of a directory's files; the last one is marked. -/
def fileLines (level : Nat) : List String → List String
  | [] => []
  | [f] => [indent level ++ "└── " ++ f]
  | f :: fs => (indent level ++ "├── " ++ f) :: fileLines level fs

def dirLines (paths : List String) (dir : String) : List String :=
  let files := Text.sort ((paths.filter fun p => parent p = dir).map name)
  if dir = "" then files.map ("├── " ++ ·)
  else
    let level := dir.toList.count '/'
    (indent level ++ "├── " ++ name dir ++ "/") :: fileLines (level + 1) files

def drawing (paths : List String) : List String :=
  let dirs := Text.sortedSet (paths.map parent)
  ["<codebase_tree>", "."] ++ dirs.flatMap (dirLines paths) ++ ["</codebase_tree>"]

def text (paths : List String) : String := Text.unlines (drawing paths)

end IssuePlanner.Snapshot.Tree
