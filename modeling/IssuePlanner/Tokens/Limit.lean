import IssuePlanner.Text.Search
import IssuePlanner.Tokens.Counter

/-! Cutting a text down to a number of tokens. The longest prefix that fits is found by halving, then cut
back to the end of a line, and a notice says that something is missing. -/

namespace IssuePlanner.Tokens

def standardEncoding (model : String) : Encoding :=
  match ({} : Counter).encoding model with
  | .ok (e, _) => e
  | .error _ => .cl100k

/-- The greatest number in `[lo, hi)` that a halving search accepts, else `best`. -/
def lastAccepted (accept : Nat → Bool) (lo hi best : Nat) : Nat :=
  if h : lo < hi then
    let mid := (lo + hi - 1) / 2
    if accept mid then lastAccepted accept (mid + 1) hi mid else lastAccepted accept lo mid best
  else best
termination_by hi - lo
decreasing_by all_goals omega

/-- The length of the longest prefix with at most `limit` tokens. -/
def fittingLength (e : Encoding) (cs : List Char) (limit : Int) : Nat :=
  lastAccepted (fun n => decide ((e.count (cs.take n) : Int) ≤ limit)) 0 (cs.length + 1) 0

/-- Cuts a text back to the end of its last complete line, if that leaves anything. -/
def cutAtLine (cs : List Char) : List Char :=
  match Text.findLast cs ['\n'] with
  | some n => if 0 < n then cs.take n else cs
  | none => cs

def cutNotice : String := "\n\n... [Content truncated due to token limit]"

def cut (e : Encoding) (cs : List Char) (limit : Int) : List Char :=
  cutAtLine (cs.take (fittingLength e cs limit)) ++ cutNotice.toList

/-- A text that is cut if it has more than `limit` tokens, with what is reported then. The notice is not counted. -/
def limited (content : String) (limit : Int) (model : String) : String × List String :=
  let e := standardEncoding model
  let cs := content.toList
  let n := e.count cs
  if (n : Int) ≤ limit then (content, [])
  else
    let left := cut e cs limit
    (String.ofList left,
     ["Context exceeds token limit (" ++ Number.natText n ++ " > " ++ Number.intText limit
        ++ "), truncating...",
      "Context truncated from " ++ Number.natText n ++ " to " ++ Number.natText (e.count left)
        ++ " tokens"])

end IssuePlanner.Tokens
