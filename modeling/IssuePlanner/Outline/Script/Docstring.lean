import IssuePlanner.Outline.Script.Expr
import IssuePlanner.Text.Lines

/-! Documentation texts. The margin that all lines but the first share is removed, as are empty lines at
either end; an outline shows the first line that is left. -/

namespace IssuePlanner.Outline.Script.Docstring

def expandTabs (cs : List Char) : List Char :=
  (cs.foldl step (0, [])).2.reverse
where
  step : Nat × List Char → Char → Nat × List Char
    | (column, out), c =>
      if c = '\t' then
        let n := 8 - column % 8
        (column + n, List.replicate n ' ' ++ out)
      else if c = '\n' || c = '\r' then (0, c :: out)
      else (column + 1, c :: out)

/-- How far a line is indented; nothing for a blank line. -/
def indent? (line : List Char) : Option Nat :=
  let content := Text.stripLeft line
  if content.isEmpty then none else some (line.length - content.length)

def sharedMargin (ls : List (List Char)) : Nat := ((ls.filterMap indent?).min?).getD 0

/-- The lines of a documentation text without their margin and without empty lines at either end. -/
def clean (cs : List Char) : List (List Char) :=
  let ls := match Text.splitOn '\n' (expandTabs cs) with
    | [] => []
    | l :: ls => Text.stripLeft l :: ls.map (List.drop (sharedMargin ls))
  ((ls.reverse.dropWhile List.isEmpty).reverse).dropWhile List.isEmpty

def ofBody? : List Stmt → Option (List Char)
  | .expression (.constant (.text _ codes)) :: _ =>
    some (codes.map fun n => if 0xd800 ≤ n && n < 0xe000 then Char.ofNat 0xfffd else Char.ofNat n)
  | _ => none

def firstLine? (cs : List Char) : Option String := (Text.lines cs).head?.map String.ofList

def summary? (body : List Stmt) : Option String :=
  (ofBody? body).bind fun cs => firstLine? (Text.joinWith ['\n'] (clean cs))

end IssuePlanner.Outline.Script.Docstring
