import IssuePlanner.Text.Search

/-! Wildcard patterns. `*` stands for any text, `?` for any character, and brackets for one character of a
set or, after `!`, of its complement. A bracket that is never closed stands for itself. `Glob.Matches` says
what a pattern means. `Glob.accepts` decides it by recursion (`accepts_iff`), and `Glob.acceptsByRows` in
time proportional to both lengths (`acceptsByRows_eq`). -/

namespace IssuePlanner.Path

namespace Glob

inductive Piece where
  | star
  | any
  | literal (c : Char)
  /-- A set of characters as closed ranges, or its complement. -/
  | oneOf (negated : Bool) (ranges : List (Char × Char))
  deriving DecidableEq, Repr

def inRanges (c : Char) (ranges : List (Char × Char)) : Bool := ranges.any fun (a, b) => a ≤ c && c ≤ b

def Piece.fits (c : Char) : Piece → Bool
  | star => false
  | any => true
  | literal d => c == d
  | oneOf negated ranges => inRanges c ranges != negated

/-! ### Reading a bracket -/

/-- Cuts a set at its hyphens. The first `skip` characters of a chunk are no such hyphens. -/
def hyphenChunks (skip : Nat) : List Char → List Char → List (List Char)
  | [], out => [out.reverse]
  | c :: r, out =>
    match skip with
    | n + 1 => hyphenChunks n r (c :: out)
    | 0 => if c = '-' then out.reverse :: hyphenChunks 2 r [] else hyphenChunks 0 r (c :: out)

/-- A hyphen at the very end stands for itself. -/
def closeLast : List (List Char) → List (List Char)
  | [] => []
  | [c] => [c]
  | [c, []] => [c ++ ['-']]
  | c :: cs => c :: closeLast cs

def dropEmptyRanges : List (List Char) → List (List Char)
  | [] => []
  | c :: cs =>
    match dropEmptyRanges cs with
    | d :: ds =>
      match c.getLast?, d.head? with
      | some a, some b => if b < a then (c.dropLast ++ d.drop 1) :: ds else c :: d :: ds
      | _, _ => c :: d :: ds
    | [] => [c]

def singles (cs : List Char) : List (Char × Char) := cs.map fun c => (c, c)

/-- The ranges between neighbouring chunks, and the single characters inside the chunks. A hyphen with
nothing in front of it stands for itself. -/
def rangesOf (started : Bool) : List (List Char) → List (Char × Char)
  | [] => []
  | [c] => singles (if started then c.drop 1 else c)
  | c :: d :: cs =>
    let inside := singles (if started then c.dropLast.drop 1 else c.dropLast)
    match c.getLast?, d.head? with
    | some a, some b => inside ++ (a, b) :: rangesOf true (d :: cs)
    | _, _ => ('-', '-') :: rangesOf false (d :: cs)

/-- The chunks of a set without empty ranges. An exclamation mark in first place takes no part in a range. -/
def setChunks (cs : List Char) : List (List Char) :=
  dropEmptyRanges (closeLast (hyphenChunks (if cs.head? = some '!' then 2 else 1) cs []))

/-- The set that the text of a bracket describes. Whether it is a complement is decided once empty ranges
are gone. -/
def setOf (cs : List Char) : Piece :=
  match setChunks cs with
  | ('!' :: c) :: more => .oneOf true (rangesOf false (c :: more))
  | chunks => .oneOf false (rangesOf false chunks)

/-- The text inside a bracket and the text behind it; a closing bracket in first place stands for itself. -/
def bracket? (cs : List Char) : Option (List Char × List Char) :=
  let mark := if cs.head? = some '!' then 1 else 0
  let lead := if (cs.drop mark).head? = some ']' then mark + 1 else mark
  let inside := cs.take lead ++ (cs.drop lead).takeWhile (· ≠ ']')
  if inside.length < cs.length then some (inside, cs.drop (inside.length + 1)) else none

/-- The pieces of a pattern; the first argument bounds the number of steps. -/
def piecesFrom : Nat → List Char → List Piece
  | 0, _ => []
  | _ + 1, [] => []
  | n + 1, c :: r =>
    if c = '*' then .star :: piecesFrom n r
    else if c = '?' then .any :: piecesFrom n r
    else if c = '[' then
      match bracket? r with
      | some (inside, rest) => setOf inside :: piecesFrom n rest
      | none => .literal c :: piecesFrom n r
    else .literal c :: piecesFrom n r

def pieces (pattern : List Char) : List Piece := piecesFrom pattern.length pattern

/-! ### Matching -/

/-- What a pattern means. -/
inductive Matches : List Piece → List Char → Prop where
  | nil : Matches [] []
  | starNone {ps : List Piece} {cs : List Char} : Matches ps cs → Matches (.star :: ps) cs
  | starMore {ps : List Piece} {c : Char} {cs : List Char} :
      Matches (.star :: ps) cs → Matches (.star :: ps) (c :: cs)
  | one {p : Piece} {ps : List Piece} {c : Char} {cs : List Char} :
      p.fits c → Matches ps cs → Matches (p :: ps) (c :: cs)

def accepts : List Piece → List Char → Bool
  | [], cs => cs.isEmpty
  | .star :: ps, [] => accepts ps []
  | .star :: ps, c :: cs => accepts ps (c :: cs) || accepts (.star :: ps) cs
  | _ :: _, [] => false
  | p :: ps, c :: cs => p.fits c && accepts ps cs
termination_by ps cs => ps.length + cs.length

theorem accepts_sound {ps : List Piece} {cs : List Char} (h : accepts ps cs = true) : Matches ps cs := by
  fun_induction accepts ps cs with
  | case1 cs => cases cs with
    | nil => exact .nil
    | cons c r => simp at h
  | case2 ps ih => exact .starNone (ih h)
  | case3 ps c cs ih1 ih2 =>
    rcases Bool.or_eq_true_iff.1 h with h | h
    · exact .starNone (ih1 h)
    · exact .starMore (ih2 h)
  | case4 => simp at h
  | case5 p ps c cs _ ih =>
    obtain ⟨hp, hr⟩ := Bool.and_eq_true_iff.1 h
    exact .one hp (ih hr)

theorem accepts_complete {ps : List Piece} {cs : List Char} (h : Matches ps cs) :
    accepts ps cs = true := by
  induction h with
  | nil => simp [accepts]
  | @starNone ps cs _ ih => cases cs <;> simp [accepts, ih]
  | starMore _ ih => simp [accepts, ih]
  | @one p ps c cs hp _ ih =>
    cases p with
    | star => simp [Piece.fits] at hp
    | _ => simp [accepts, ih, hp]

theorem accepts_iff (ps : List Piece) (cs : List Char) : accepts ps cs = true ↔ Matches ps cs :=
  ⟨accepts_sound, accepts_complete⟩

/-! ### Matching row by row

A row tells for every end of a pattern whether it matches some end of the text. The row of a longer end of the
text follows from the row before it. -/

def lastRow : List Piece → List Bool
  | [] => [true]
  | p :: ps => (p == .star && (lastRow ps).headD false) :: lastRow ps

def rowBefore (c : Char) : List Piece → List Bool → List Bool
  | [], _ => [false]
  | p :: ps, row =>
    let rest := rowBefore c ps row.tail
    (if p = .star then rest.headD false || row.headD false else p.fits c && row.tail.headD false) :: rest

def rowOf (ps : List Piece) (cs : List Char) : List Bool :=
  cs.foldr (fun c row => rowBefore c ps row) (lastRow ps)

def acceptsByRows (ps : List Piece) (cs : List Char) : Bool := (rowOf ps cs).headD false

def expectedRow (cs : List Char) : List Piece → List Bool
  | [] => [accepts [] cs]
  | p :: ps => accepts (p :: ps) cs :: expectedRow cs ps

theorem headD_expectedRow (cs : List Char) (ps : List Piece) :
    (expectedRow cs ps).headD false = accepts ps cs := by
  cases ps <;> rfl

theorem lastRow_eq (ps : List Piece) : lastRow ps = expectedRow [] ps := by
  induction ps with
  | nil => simp [lastRow, expectedRow, accepts]
  | cons p ps ih =>
    rw [lastRow, expectedRow, ih, headD_expectedRow]
    cases p <;> simp [accepts]

theorem rowBefore_eq (c : Char) (cs : List Char) (ps : List Piece) :
    rowBefore c ps (expectedRow cs ps) = expectedRow (c :: cs) ps := by
  induction ps with
  | nil => simp [rowBefore, expectedRow, accepts]
  | cons p ps ih =>
    simp only [rowBefore, expectedRow, List.tail_cons, ih, headD_expectedRow, List.headD_cons]
    cases p <;> simp [accepts]

theorem rowOf_eq (ps : List Piece) (cs : List Char) : rowOf ps cs = expectedRow cs ps := by
  induction cs with
  | nil => exact lastRow_eq ps
  | cons c cs ih =>
    rw [← rowBefore_eq, ← ih]
    rfl

theorem acceptsByRows_eq (ps : List Piece) (cs : List Char) : acceptsByRows ps cs = accepts ps cs := by
  rw [acceptsByRows, rowOf_eq, headD_expectedRow]

end Glob

def globMatches (name pattern : String) : Bool :=
  Glob.acceptsByRows (Glob.pieces pattern.toList) name.toList

/-- Whether a path fits a pattern. A pattern that ends in a slash names a directory: it covers the paths
that start with it, and the path that is itself such a directory. -/
def fits (path pattern : String) : Bool :=
  if Text.ends pattern "/" then Text.begins path pattern || globMatches (path ++ "/") pattern
  else globMatches path pattern

end IssuePlanner.Path
