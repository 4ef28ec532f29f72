import IssuePlanner.Curation.Directories
import IssuePlanner.Text.Pick

/-! The directories that an answer names. They stand in fenced blocks, one per line; an answer without such
a block is searched line by line. Only directories that exist are taken (`isKnown_of_mem_chosen`). -/

namespace IssuePlanner.Curation

def blockOpening : List Char := "```context\n".toList

def blockClosing : List Char := "\n```".toList

def block? (_ : Bool) (cs : List Char) : Option (List Char × List Char) := do
  let rest ← Text.after? blockOpening cs
  let n ← Text.find rest blockClosing
  return (rest.take n, rest.drop (n + blockClosing.length))

def blocks (answer : String) : List (List Char) := Text.findAll block? answer.toList

def trimmedLines (cs : List Char) : List String :=
  (Text.splitOn '\n' cs).map fun l => String.ofList (Text.strip l)

/-- Whether a name is that of a directory; the root always is one. -/
def isKnown (dirs : List String) (name : String) : Bool := dirs.contains name || name == rootName

def inBlocks (dirs : List String) (answer : String) : List String :=
  ((blocks answer).flatMap trimmedLines).filter fun l => !Text.begins l "#" && isKnown dirs l

def onLines (dirs : List String) (answer : String) : List String :=
  (trimmedLines answer.toList).filter fun l =>
    !l.toList.contains ' ' && isKnown dirs l && !Text.begins l "```"

def chosen (dirs : List String) (answer : String) : List String :=
  match inBlocks dirs answer with
  | [] => Text.sortedSet (onLines dirs answer)
  | found => Text.sortedSet found

theorem isKnown_of_mem_chosen {dirs : List String} {answer name : String} (h : name ∈ chosen dirs answer) :
    isKnown dirs name = true := by
  unfold chosen at h
  split at h
  · rw [Text.mem_sortedSet, onLines, List.mem_filter] at h
    simp_all
  · rw [Text.mem_sortedSet, inBlocks, List.mem_filter] at h
    simp_all

end IssuePlanner.Curation
