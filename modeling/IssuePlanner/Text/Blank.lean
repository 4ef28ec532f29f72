/-! Blank characters and the trimming of texts. A text is trimmed when neither end of it is blank, and
trimming removes nothing but blanks (`stripLeft_eq_append`). -/

namespace IssuePlanner.Text

/-- The characters of bidirectional class white space, paragraph or segment separator, and the space
separators. -/
def isBlank (c : Char) : Bool :=
  let n := c.toNat
  (9 ≤ n && n ≤ 13) || (0x1c ≤ n && n ≤ 0x20) || n == 0x85 || n == 0xa0 || n == 0x1680
    || (0x2000 ≤ n && n ≤ 0x200a) || n == 0x2028 || n == 0x2029 || n == 0x202f || n == 0x205f
    || n == 0x3000

def stripLeft (cs : List Char) : List Char := cs.dropWhile isBlank

def stripRight (cs : List Char) : List Char := (cs.reverse.dropWhile isBlank).reverse

def strip (cs : List Char) : List Char := stripRight (stripLeft cs)

def trim (s : String) : String := String.ofList (strip s.toList)

def isBlankText (s : String) : Bool := s.toList.all isBlank

theorem stripLeft_eq_append (cs : List Char) : cs.takeWhile isBlank ++ stripLeft cs = cs :=
  List.takeWhile_append_dropWhile

end IssuePlanner.Text
