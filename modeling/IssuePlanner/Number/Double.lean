/-! Binary floating point numbers of 64 bits as whole numbers: a finite one is `m * 2 ^ q`, and a quotient
is rounded to the nearest one, a tie to the even neighbour. -/

namespace IssuePlanner.Number

/-- The whole number nearest to `num / den`; a tie goes to the even neighbour. -/
def roundQuotient (num den : Nat) : Nat :=
  let q := num / den
  let r := num % den
  if 2 * r < den then q
  else if den < 2 * r then q + 1
  else q + q % 2

/-- `num * 2 ^ e / den` as a pair. -/
def shifted (num den : Nat) (e : Int) : Nat × Nat :=
  match e with
  | .ofNat k => (num <<< k, den)
  | .negSucc k => (num, den <<< (k + 1))

/-- `num * 10 ^ e / den` as a pair. -/
def scaled (num den : Nat) (e : Int) : Nat × Nat :=
  match e with
  | .ofNat k => (num * Nat.pow 10 k, den)
  | .negSucc k => (num, den * Nat.pow 10 (k + 1))

/-- The exponent `e` for which `num / den` lies between `2 ^ (e + 52)` and `2 ^ (e + 53)`. -/
def exponent (num den : Nat) : Int :=
  let e : Int := (num.log2 : Int) - den.log2 - 53
  -- the quotient lies between 2 ^ (e + 52) and 2 ^ (e + 54)
  let high := shifted num den (-e)
  if high.1 / high.2 < 1 <<< 53 then e else e + 1

/-- The bits of the number nearest to `num / den`, or nothing when it is out of range. -/
def quotientBits (num den : Nat) : Option Nat :=
  if num = 0 then some 0
  else
    let e := max (exponent num den) (-1074)
    let (n, d) := shifted num den (-e)
    let m := roundQuotient n d
    let bits := if m < 1 <<< 52 then m else (((e + 1074).toNat + 1) <<< 52) + (m - (1 <<< 52))
    if bits < 0x7ff <<< 52 then some bits else none

def signBit (negative : Bool) : Nat := if negative then 1 <<< 63 else 0

def ofBitsNat (n : Nat) : Float := Float.ofBits (UInt64.ofNat n)

/-- The float nearest to `num / den` with the given sign, or nothing when it is out of range. -/
def ofQuotient? (negative : Bool) (num den : Nat) : Option Float :=
  (quotientBits num den).map fun b => ofBitsNat (signBit negative + b)

/-- The quotient of two whole numbers as a float. The divisor is not zero. -/
def divide? (a b : Int) : Option Float :=
  if a = 0 then some 0.0 else ofQuotient? (decide (a < 0) != decide (b < 0)) a.natAbs b.natAbs

def ofInt? (i : Int) : Option Float := divide? i 1

def infinity (negative : Bool) : Float := ofBitsNat (signBit negative + (0x7ff <<< 52))

def notANumber : Float := ofBitsNat (0x7ff8 <<< 48)

/-- The float nearest to `digits * 10 ^ e`; one out of range is infinite. -/
def ofDecimal (negative : Bool) (digits : Nat) (e : Int) : Float :=
  let size : Int := (Nat.toDigits 10 digits).length + e
  if digits = 0 || size < -330 then ofBitsNat (signBit negative)
  else if 310 < size then infinity negative
  else
    let (n, d) := scaled digits 1 e
    (ofQuotient? negative n d).getD (infinity negative)

inductive View where
  | nan
  | infinite (negative : Bool)
  /-- The number `m * 2 ^ q`. -/
  | finite (negative : Bool) (m : Nat) (q : Int)
  deriving DecidableEq, Repr

def view (x : Float) : View :=
  let bits := x.toBits.toNat
  let negative := bits >>> 63 = 1
  let e : Nat := (bits >>> 52) % 2048
  let f : Nat := bits % (1 <<< 52)
  if e = 2047 then if f = 0 then .infinite negative else .nan
  else if e = 0 then .finite negative f (-1074)
  else .finite negative (f + (1 <<< 52)) ((e : Int) - 1075)

end IssuePlanner.Number
