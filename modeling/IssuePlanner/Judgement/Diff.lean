import IssuePlanner.Outline.Diff

/-! The change that is judged, in the same degrees of detail as the code that a prompt shows. -/

namespace IssuePlanner.Judgement

open IssuePlanner.Action

def changedHeading (base head : String) : String :=
  "Changed files between " ++ base ++ " and " ++ head ++ ":"

def changedNames (base head : String) : Action String := git ["diff", "--name-only", base ++ "..." ++ head]

def namesOnly (mode : String) : Bool := mode == "file_structure" || mode == "none"

def diff (base head mode : String) : Action String :=
  during .generateDiff do
    if namesOnly mode then
      let names ← changedNames base head
      return changedHeading base head ++ if names == "" then "" else "\n" ++ names
    else if mode == "lsp" then
      let names ← changedNames base head
      if names == "" then return "" else Outline.diff base head (Text.pieces '\n' names)
    else git ["diff", "--patch", base ++ "..." ++ head]

def isEmptyDiff (base head mode diff : String) : Bool :=
  Text.isBlankText diff || namesOnly mode && Text.trim diff == changedHeading base head

end IssuePlanner.Judgement
