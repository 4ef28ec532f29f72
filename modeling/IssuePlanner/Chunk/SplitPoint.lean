import IssuePlanner.Text.Search

/-! Where to cut a text that is too long. The end of a line is best, then the end of a sentence, then a
space; without any of these the cut is at the limit. -/

namespace IssuePlanner.Chunk

/-- The first characters up to a limit; a negative limit counts from the end. -/
def window (cs : List Char) (limit : Int) : List Char :=
  cs.take (if limit < 0 then (limit + cs.length).toNat else limit.toNat)

/-- The last place, other than the very first one, at which a text stands. -/
def lastPlace? (cs pat : List Char) : Option Nat := (Text.findLast cs pat).filter (0 < ·)

def sentenceEnd? (cs : List Char) : Option Nat :=
  ([['.', ' '], ['!', ' '], ['?', ' ']].filterMap (lastPlace? cs)).max?

/-- Where to cut before a limit. A cut at the end of a line goes one character past it. -/
def splitPoint (cs : List Char) (limit : Int) : Int :=
  let w := window cs limit
  match lastPlace? w ['\n'] with
  | some n => n + 2
  | none =>
    match sentenceEnd? w with
    | some n => n + 1
    | none =>
      match lastPlace? w [' '] with
      | some n => n
      | none => limit

end IssuePlanner.Chunk
