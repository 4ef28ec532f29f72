import IssuePlanner.Text.Lines

/-! Sets of code points as lists of closed ranges. A range is written by two steps in base sixteen: how far
its first member lies after the last member of the range before it, and how far its last member lies
after its first. -/

namespace IssuePlanner.Text

structure Ranges where
  spans : List (Nat × Nat)

namespace Ranges

def hexDigit (c : Char) : Nat :=
  if c.isDigit then c.toNat - '0'.toNat else c.toNat - 'a'.toNat + 10

def hexValue (cs : List Char) : Nat := cs.foldl (fun n c => n * 16 + hexDigit c) 0

/-- The ranges that a list of steps describes, counted on from `last`. -/
def spansFrom (last : Nat) : List Nat → List (Nat × Nat)
  | gap :: len :: rest => (last + gap, last + gap + len) :: spansFrom (last + gap + len) rest
  | _ => []

def ofSteps (rows : List String) : Ranges :=
  ⟨spansFrom 0 (rows.flatMap fun row => (words row.toList).map hexValue)⟩

def mem (r : Ranges) (c : Char) : Bool := r.spans.any fun (a, b) => a ≤ c.toNat && c.toNat ≤ b

end Ranges

end IssuePlanner.Text
