import IssuePlanner.Text.Lines

/-! Looking for one text inside another, and replacing it. Positions count characters from the start. -/

namespace IssuePlanner.Text

/-- The text after `pat`, when the text starts with it. -/
def after? : (pat cs : List Char) → Option (List Char)
  | [], cs => some cs
  | _ :: _, [] => none
  | p :: ps, c :: cs => if p = c then after? ps cs else none

def startsWith (cs pat : List Char) : Bool := pat.isPrefixOf cs

def endsWith (cs pat : List Char) : Bool := pat.isSuffixOf cs

/-- The first position, counted from `start`, at which `pat` stands in `cs`. -/
def findAt (pat : List Char) : (start : Nat) → List Char → Option Nat
  | n, [] => if pat = [] then some n else none
  | n, c :: cs => if pat.isPrefixOf (c :: cs) then some n else findAt pat (n + 1) cs

def find (cs pat : List Char) : Option Nat := findAt pat 0 cs

/-- The last position at which `pat` stands in `cs`. -/
def findLast (cs pat : List Char) : Option Nat :=
  (findAt pat.reverse 0 cs.reverse).map fun n => cs.length - n - pat.length

def occurs (pat cs : List Char) : Bool := (find cs pat).isSome

def begins (s pat : String) : Bool := startsWith s.toList pat.toList

def ends (s pat : String) : Bool := endsWith s.toList pat.toList

def contains (s pat : String) : Bool := occurs pat.toList s.toList

/-- The pieces of a text between the copies of a non-empty `pat`. -/
def splitBy (pat cs : List Char) : List (List Char) :=
  go [] 0 [] cs
where
  go (done : List (List Char)) (skip : Nat) (piece : List Char) : List Char → List (List Char)
    | [] => (piece.reverse :: done).reverse
    | c :: r =>
      match skip with
      | n + 1 => go done n piece r
      | 0 =>
        if pat.isPrefixOf (c :: r) then go (piece.reverse :: done) (pat.length - 1) [] r
        else go done 0 (c :: piece) r

/-- Replaces the copies of a non-empty `pat`, from left to right and without overlap. -/
def replaceAll (pat new cs : List Char) : List Char := joinWith new (splitBy pat cs)

def replace (s pat new : String) : String :=
  String.ofList (replaceAll pat.toList new.toList s.toList)

end IssuePlanner.Text
