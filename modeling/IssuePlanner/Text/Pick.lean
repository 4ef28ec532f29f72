import IssuePlanner.Text.Blank
import IssuePlanner.Text.Letter
import IssuePlanner.Text.Search

/-! Picking a marked piece out of a text: the first run of characters of a class that stands right behind a
marker. `findAll` gives every piece that a reader accepts. -/

namespace IssuePlanner.Text

def runAfter? (marker : List Char) (p : Char → Bool) : List Char → Option (List Char)
  | [] => none
  | c :: r =>
    match after? marker (c :: r) with
    | some rest =>
      match rest.takeWhile p with
      | [] => runAfter? marker p r
      | run => some run
    | none => runAfter? marker p r

def numberAfter? (marker s : String) : Option String :=
  (runAfter? marker.toList isDecimal s.toList).map String.ofList

def wordAfter? (marker s : String) : Option String :=
  (runAfter? marker.toList (fun c => !isBlank c) s.toList).map String.ofList

/-- Everything that a reader finds, from left to right and without overlap. The reader is told whether a
line starts where it stands. The number bounds the steps. -/
def findFrom {α : Type} (read : Bool → List Char → Option (α × List Char)) :
    Nat → Bool → List Char → List α
  | 0, _, _ => []
  | _ + 1, _, [] => []
  | n + 1, atStart, c :: r =>
    match read atStart (c :: r) with
    | some (a, rest) => a :: findFrom read n false rest
    | none => findFrom read n (c == '\n') r

def findAll {α : Type} (read : Bool → List Char → Option (α × List Char)) (cs : List Char) : List α :=
  findFrom read cs.length true cs

end IssuePlanner.Text
