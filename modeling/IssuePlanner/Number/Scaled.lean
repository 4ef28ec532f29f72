import IssuePlanner.Number.Double

/-! Whole numbers times a float, cut off at the point. The whole number and the product are each rounded to a
float, as they would be by multiplying two floats; a product that is out of range or undefined has no whole
part. -/

namespace IssuePlanner.Number

inductive ProductFault where
  /-- The whole number is out of the range of floats. -/
  | factorTooLarge
  | infinite
  | notANumber
  deriving DecidableEq, Repr

def wholePart (bits : Nat) : Nat :=
  let e : Nat := (bits >>> 52) % 2048
  let f : Nat := bits % (1 <<< 52)
  let (n, d) := if e = 0 then shifted f 1 (-1074) else shifted (f + (1 <<< 52)) 1 ((e : Int) - 1075)
  n / d

/-- The whole number nearest to `n` that is a float, or nothing when it is out of range. -/
def nearestWhole? (n : Nat) : Option Nat := (quotientBits n 1).map wholePart

/-- `n * (m * 2 ^ q)` rounded to a float and cut off, or nothing when it is out of range. -/
def scaledWhole? (n m : Nat) (q : Int) : Option Nat :=
  let (num, den) := shifted (n * m) 1 q
  (quotientBits num den).map wholePart

def withSign (negative : Bool) (n : Nat) : Int := if negative then -n else n

def timesCutOff (i : Int) (x : Float) : Except ProductFault Int :=
  match nearestWhole? i.natAbs with
  | none => .error .factorTooLarge
  | some n =>
    match view x with
    | .nan => .error .notANumber
    | .infinite _ => .error (if n = 0 then .notANumber else .infinite)
    | .finite negative m q =>
      match scaledWhole? n m q with
      | some k => .ok (withSign (decide (i < 0) != negative) k)
      | none => .error .infinite

/-- How a whole number compares with a float, neither of them rounded. -/
def compareWhole? (i : Int) (x : Float) : Option Ordering :=
  match view x with
  | .nan => none
  | .infinite negative => some (if negative then .gt else .lt)
  | .finite negative m q => some (compare (i * (shifted m 1 q).2) (withSign negative (shifted m 1 q).1))

/-- Seven tenths of a whole number, as a float product, cut off. -/
def seventyPercent (i : Int) : Int :=
  withSign (decide (i < 0)) ((scaledWhole? i.natAbs 6305039478318694 (-53)).getD 0)

end IssuePlanner.Number
