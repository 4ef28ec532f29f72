import IssuePlanner.Number.Shortest
import IssuePlanner.Text.Lines

/-! How numbers are written: floats by their shortest digits or with a fixed number of places, whole
numbers in groups of three digits. -/

namespace IssuePlanner.Number

def digitsOf (n : Nat) : List Char := Nat.toDigits 10 n

def natText (n : Nat) : String := String.ofList (digitsOf n)

def intText : Int → String
  | .ofNat n => natText n
  | .negSucc n => "-" ++ natText (n + 1)

def zeros (n : Nat) : List Char := List.replicate n '0'

/-- A decimal without its trailing zeros, as its digits and the place of its point counted from their
front. -/
def pointed (d : Decimal) : List Char × Int :=
  let ds := digitsOf d.digits
  ((ds.reverse.dropWhile (· == '0')).reverse, ds.length + d.exponent)

def exponentText (e : Int) : List Char :=
  let ds := digitsOf e.natAbs
  'e' :: (if e < 0 then '-' else '+') :: (if ds.length < 2 then '0' :: ds else ds)

/-- Digits with a point at `place`: positional for places from -3 to 16, else with an exponent. A whole
number ends in `whole`. -/
def placed (whole ds : List Char) (place : Int) : List Char :=
  if -4 < place ∧ place ≤ 16 then
    if place ≤ 0 then '0' :: '.' :: zeros (-place).toNat ++ ds
    else if ds.length ≤ place.toNat then ds ++ zeros (place.toNat - ds.length) ++ whole
    else ds.take place.toNat ++ '.' :: ds.drop place.toNat
  else
    let mantissa := match ds with
      | d :: r@(_ :: _) => d :: '.' :: r
      | _ => ds
    mantissa ++ exponentText (place - 1)

def signed (negative : Bool) (cs : List Char) : List Char := if negative then '-' :: cs else cs

/-- The shortest text of a float; `whole` ends the text of a whole number. -/
def floatChars (whole : List Char) (x : Float) : List Char :=
  match view x with
  | .nan => ['n', 'a', 'n']
  | .infinite negative => signed negative ['i', 'n', 'f']
  | .finite negative m q =>
    if m = 0 then signed negative ('0' :: whole)
    else
      let (ds, place) := pointed (shortest m q)
      signed negative (placed whole ds place)

/-- The shortest text of a float; a whole number keeps a zero after the point. -/
def floatText (x : Float) : String := String.ofList (floatChars ['.', '0'] x)

/-- A float with `places` digits after the point, rounded to nearest, a tie to the even digit. -/
def fixedText (places : Nat) (x : Float) : String :=
  match view x with
  | .nan => "nan"
  | .infinite negative => String.ofList (signed negative ['i', 'n', 'f'])
  | .finite negative m q =>
    let (n, d) := shifted (m * Nat.pow 10 places) 1 q
    let ds := digitsOf (roundQuotient n d)
    let ds := zeros (places + 1 - ds.length) ++ ds
    let cut := ds.length - places
    let point := if places = 0 then [] else '.' :: ds.drop cut
    String.ofList (signed negative (ds.take cut ++ point))

/-- Digits in groups of three, counted from the end, with commas between the groups. -/
def groupThrees (ds : List Char) : List Char :=
  (ds.foldr (fun c (acc : Nat × List Char) =>
    (acc.1 + 1, c :: if acc.1 % 3 = 0 && acc.1 != 0 then ',' :: acc.2 else acc.2)) (0, [])).2

def groupedInt (i : Int) : String :=
  String.ofList (signed (decide (i < 0)) (groupThrees (digitsOf i.natAbs)))

end IssuePlanner.Number
