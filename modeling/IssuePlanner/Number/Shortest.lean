import IssuePlanner.Number.Double

/-! The shortest decimal that reads back as a given float, and of the shortest ones the nearest. Grids of
1, 2, … digits are tried in turn; on each grid only the two neighbours of the number can read back. -/

namespace IssuePlanner.Number

/-- The decimal `digits * 10 ^ exponent`. -/
structure Decimal where
  digits : Nat
  exponent : Int
  deriving DecidableEq, Repr

/-- The reals that round to `m * 2 ^ q`, as multiples of `2 ^ (q - 2)`: the interval's two ends. -/
def roundingEnds (m : Nat) (q : Int) : Nat × Nat :=
  (if m = 1 <<< 52 ∧ -1074 < q then 4 * m - 1 else 4 * m - 2, 4 * m + 2)

/-- The least `k` with `m * 2 ^ q < 10 ^ k`. -/
def decimalSize (m : Nat) (q : Int) : Int :=
  let k : Int := (((m.log2 : Int) + q) * 30103).fdiv 100000 - 1
  let (n, d) := shifted m 1 q
  let below (k : Int) : Bool :=
    let (p, r) := scaled 1 1 k
    n * r < p * d
  if below k then k else if below (k + 1) then k + 1 else if below (k + 2) then k + 2 else k + 3

/-- The neighbour of `m * 2 ^ q` on the grid of multiples of `10 ^ g` that reads back, the nearer of two. -/
def nearestOnGrid (m : Nat) (q g : Int) : Option Nat :=
  let (x, u) := shifted 1 1 (q - 2)
  let (y, w) := scaled 1 1 g
  -- `a` quarter steps and `d` grid steps compare as `a * unit` and `d * step`
  let unit := x * w
  let step := y * u
  let value := 4 * m * unit
  let down := value / step
  let ends := roundingEnds m q
  let inside (d : Nat) : Bool :=
    if m % 2 = 0 then ends.1 * unit ≤ d * step && d * step ≤ ends.2 * unit
    else ends.1 * unit < d * step && d * step < ends.2 * unit
  let below := value - down * step
  let above := (down + 1) * step - value
  match inside down && down != 0, inside (down + 1) with
  | true, true =>
    some (if below < above || (below = above && down % 2 = 0) then down else down + 1)
  | true, false => some down
  | false, true => some (down + 1)
  | false, false => none

/-- Tries the grids of `size - count + 1`, … digits; the last grid always holds an answer for a float. -/
def shortestFrom (m : Nat) (q size : Int) : Nat → Decimal
  | 0 => ⟨0, 0⟩
  | n + 1 =>
    let g := size - 17 + n
    match nearestOnGrid m q g with
    | some d => ⟨d, g⟩
    | none => shortestFrom m q size n

/-- The shortest decimal for `m * 2 ^ q`, where `m` is not zero. -/
def shortest (m : Nat) (q : Int) : Decimal := shortestFrom m q (decimalSize m q) 17

end IssuePlanner.Number
