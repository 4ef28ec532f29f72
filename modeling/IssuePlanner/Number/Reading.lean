import IssuePlanner.Text.Blank
import IssuePlanner.Text.Letter

/-! Reading a whole number as people write it: blanks around it, a sign, digits of any script, and single
underscores between digits. -/

namespace IssuePlanner.Number

/-- The value of a decimal digit. The digits of a script follow one another, and every range of decimal
digits starts with a zero. -/
def decimalValue (c : Char) : Nat :=
  if c.isDigit then c.toNat - '0'.toNat
  else
    match Text.decimals.spans.find? fun (a, b) => a ≤ c.toNat && c.toNat ≤ b with
    | some (a, _) => (c.toNat - a) % 10
    | none => 0

/-- The digits of a numeral; an underscore has to stand between two of them. -/
def digits? : List Char → Option (List Char)
  | [] => none
  | [c] => if Text.isDecimal c then some [c] else none
  | c :: '_' :: r => if Text.isDecimal c then (digits? r).map (c :: ·) else none
  | c :: r => if Text.isDecimal c then (digits? r).map (c :: ·) else none

def numeralLimit : Nat := 4300

def nat? (cs : List Char) : Option Nat := do
  let ds ← digits? cs
  guard (ds.length ≤ numeralLimit)
  return ds.foldl (fun n d => n * 10 + decimalValue d) 0

def int? (s : String) : Option Int :=
  match Text.strip s.toList with
  | '-' :: cs => (nat? cs).map fun n => -(n : Int)
  | '+' :: cs => (nat? cs).map fun n => (n : Int)
  | cs => (nat? cs).map fun n => (n : Int)

end IssuePlanner.Number
