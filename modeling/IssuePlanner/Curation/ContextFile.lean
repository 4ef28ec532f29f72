import IssuePlanner.Curation.Directories
import IssuePlanner.Text.Search

/-! The file that lists the directories to show: a heading, then one pattern per directory. -/

namespace IssuePlanner.Curation

def holdsFile (paths : List String) (dir : String) : Bool :=
  if dir == rootName then paths.any isAtRoot else paths.any fun p => Text.begins p (dir ++ "/")

/-- The pattern of a directory; one without files is searched to every depth. -/
def patternOf (paths : List String) (dir : String) : String :=
  dir ++ if holdsFile paths dir then "/" else "/**"

def shownTaskLength : Nat := 80

def heading (task : String) : List String :=
  ["# Yellhorn Context File - AI context optimization",
   "# Generated by yellhorn-mcp curate_context tool",
   "# Based on task: " ++ String.ofList (task.toList.take shownTaskLength),
   "", ""]

def directoryPart (paths : List String) : List String → List String
  | [] => []
  | dirs => "# Important directories to specifically include" :: dirs.map (patternOf paths) ++ ["", ""]

def rawText (task : String) (paths dirs : List String) : String :=
  Text.unlines (heading task) ++ Text.unlines (directoryPart paths dirs)

/-- Blank lines and comments may stand more than once. -/
def mayRepeat (line : String) : Bool := Text.isBlankText line || Text.begins (Text.trim line) "#"

def keepLast : List String → List String
  | [] => []
  | l :: ls => if !mayRepeat l && ls.contains l then keepLast ls else l :: keepLast ls

def fileText (task : String) (paths dirs : List String) : String :=
  Text.unlines (keepLast (Text.linesOf (rawText task paths dirs)))

end IssuePlanner.Curation
