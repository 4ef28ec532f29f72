import IssuePlanner.Text.Blank

/-! Cutting a text into pieces and putting pieces together. `splitOn` and `joinWith` undo each other
(`joinWith_splitOn`). `lines` knows every line boundary, `splitOn '\n'` only one of them.

The cuts are right folds, so each is described by what one more character in front changes. -/

namespace IssuePlanner.Text

/-- A character in front of pieces goes into the first of them. -/
def consPiece (c : Char) : List (List Char) → List (List Char)
  | [] => [[c]]
  | p :: ps => (c :: p) :: ps

/-- The pieces between the copies of `sep`; one piece more than there are copies. -/
def splitOn (sep : Char) (cs : List Char) : List (List Char) :=
  cs.foldr (fun c ps => if c = sep then [] :: ps else consPiece c ps) [[]]

/-- The pieces of `parts` with `sep` between any two of them. -/
def joinWith (sep : List Char) (parts : List (List Char)) : List Char :=
  List.intercalate sep parts

theorem splitOn_cons (sep c : Char) (cs : List Char) :
    splitOn sep (c :: cs) = if c = sep then [] :: splitOn sep cs else consPiece c (splitOn sep cs) := rfl

theorem splitOn_ne_nil (sep : Char) (cs : List Char) : splitOn sep cs ≠ [] := by
  cases cs with
  | nil => simp [splitOn]
  | cons c r =>
    rw [splitOn_cons]
    split
    · simp
    · cases splitOn sep r <;> simp [consPiece]

theorem joinWith_splitOn (sep : Char) (cs : List Char) : joinWith [sep] (splitOn sep cs) = cs := by
  induction cs with
  | nil => rfl
  | cons c r ih =>
    rw [splitOn_cons]
    cases hs : splitOn sep r with
    | nil => exact absurd hs (splitOn_ne_nil sep r)
    | cons p ps =>
      rw [hs] at ih
      by_cases h : c = sep
      · rw [if_pos h, h]
        simpa [joinWith, List.intercalate, List.intersperse] using ih
      · rw [if_neg h]
        cases ps with
        | nil => simp_all [joinWith, consPiece, List.intercalate]
        | cons q qs => simp_all [joinWith, consPiece, List.intercalate, List.intersperse]

def pieces (sep : Char) (s : String) : List String := (splitOn sep s.toList).map String.ofList

def join (sep : String) : List String → String
  | [] => ""
  | s :: rest => rest.foldl (fun acc t => acc ++ sep ++ t) s

def unlines (parts : List String) : String := join "\n" parts

def isLineEnd (c : Char) : Bool :=
  let n := c.toNat
  (10 ≤ n && n ≤ 13) || (0x1c ≤ n && n ≤ 0x1e) || n == 0x85 || n == 0x2028 || n == 0x2029

/-- The lines of a text without their ends. A carriage return and the line feed after it are one end, and
an end at the very end of the text opens no further line. -/
def lines (cs : List Char) : List (List Char) :=
  (cs.foldr step (none, [])).2
where
  /-- The state is the character that follows and the lines from it on. -/
  step (c : Char) : Option Char × List (List Char) → Option Char × List (List Char)
    | (next, ls) =>
      if c = '\r' ∧ next = some '\n' then (some c, ls)
      else if isLineEnd c then (some c, [] :: ls)
      else (some c, consPiece c ls)

def linesOf (s : String) : List String := (lines s.toList).map String.ofList

/-- Writes every line end of a text file (`\r\n`, `\r`, `\n`) as a line feed. -/
def unifyNewlines (cs : List Char) : List Char :=
  (cs.foldr step (none, [])).2
where
  step (c : Char) : Option Char × List Char → Option Char × List Char
    | (next, out) =>
      if c = '\r' then (some c, if next = some '\n' then out else '\n' :: out)
      else (some c, c :: out)

/-- The words of a text: its longest runs without a blank. -/
def words (cs : List Char) : List (List Char) :=
  (cs.foldr (fun c ps => if isBlank c then [] :: ps else consPiece c ps) [[]]).filter (· ≠ [])

end IssuePlanner.Text
