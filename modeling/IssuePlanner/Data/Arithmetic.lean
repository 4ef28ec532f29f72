import IssuePlanner.Data.Access

/-! Numbers inside data: comparing them, adding them up and cutting off their products. A truth value counts as
one or zero, and a whole number is compared with a float as it is, without rounding. -/

namespace IssuePlanner.Datum

open ShapeFault

inductive Numeric where
  | whole (i : Int)
  | real (x : Float)

def numeric? : Datum → Option Numeric
  | bool b => some (.whole (if b then 1 else 0))
  | int i => some (.whole i)
  | float x => some (.real x)
  | _ => none

def Numeric.toFloat : Numeric → Float
  | whole i => (Number.ofInt? i).getD (Number.infinity (decide (i < 0)))
  | real x => x

def Numeric.toDatum : Numeric → Datum
  | whole i => .int i
  | real x => .float x

def Numeric.add : Numeric → Numeric → Numeric
  | whole a, whole b => .whole (a + b)
  | a, b => .real (a.toFloat + b.toFloat)

/-- How two numbers compare; one that is not a number compares with nothing. -/
def Numeric.compare? : Numeric → Numeric → Option Ordering
  | whole a, whole b => some (compare a b)
  | whole a, real y => Number.compareWhole? a y
  | real x, whole b => (Number.compareWhole? b x).map Ordering.swap
  | real x, real y => if x < y then some .lt else if y < x then some .gt else if x == y then some .eq else none

instance : LT Numeric := ⟨fun a b => a.compare? b = some .lt⟩

instance : LE Numeric := ⟨fun a b => a.compare? b = some .lt ∨ a.compare? b = some .eq⟩

instance (a b : Numeric) : Decidable (a < b) := inferInstanceAs (Decidable (_ = _))

instance (a b : Numeric) : Decidable (a ≤ b) := inferInstanceAs (Decidable (_ ∨ _))

instance (n : Nat) : OfNat Numeric n := ⟨.whole n⟩

instance : OfScientific Numeric := ⟨fun m s e => .real (OfScientific.ofScientific m s e)⟩

def Numeric.timesCutOff (i : Int) : Numeric → Except Number.ProductFault Int
  | whole j => .ok (i * j)
  | real x => Number.timesCutOff i x

/-- The sum of two values; `op` is the name of the operation in a message. -/
def plus (op : String) (a b : Datum) : Except Failure Datum :=
  match a.numeric?, b.numeric? with
  | some x, some y => .ok (x.add y).toDatum
  | _, _ => fault (badOperands op a.kind b.kind)

def addTo (sum d : Datum) : Except Failure Datum := plus "+=" sum d

def millions (d : Datum) : Except Failure Float :=
  match d.numeric? with
  | some (.whole i) =>
    match Number.divide? i 1000000 with
    | some x => .ok x
    | none => .error .divisionTooLarge
  | some (.real x) => .ok (x / 1000000)
  | none => fault (badOperands "/" d.kind "int")

def isPositive (d : Datum) : Bool := d.numeric?.any fun n => 0 < n

def isInt (i : Int) (d : Datum) : Bool :=
  match d.numeric? with
  | some (.whole j) => i == j
  | some (.real x) => x == (Number.ofInt? i).getD 0
  | none => false

end IssuePlanner.Datum
