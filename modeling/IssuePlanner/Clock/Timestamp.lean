import IssuePlanner.Number.Double
import IssuePlanner.Number.Written

/-! Dates with times of day. A timestamp is a wall clock reading, in microseconds from the start of year 1,
together with the clock's distance from universal time, if that is known. -/

namespace IssuePlanner

structure Timestamp where
  /-- Microseconds on the wall clock since the start of year 1. -/
  wall : Int
  /-- Seconds by which the wall clock is ahead of universal time. -/
  offset : Option Int := none
  deriving DecidableEq, Repr

namespace Timestamp

def microsPerSecond : Int := 1000000

def microsPerDay : Int := 86400 * microsPerSecond

structure Date where
  year : Int
  month : Int
  day : Int
  deriving DecidableEq, Repr

/-- Days from the start of year 1 to a date. Years are counted from March, so that a leap day comes last. -/
def Date.toDays (d : Date) : Int :=
  let y := if d.month ≤ 2 then d.year - 1 else d.year
  let m := (d.month + 9) % 12
  365 * y + y / 4 - y / 100 + y / 400 + (153 * m + 2) / 5 + (d.day - 1) - 306

def Date.ofDays (days : Int) : Date :=
  let z := days + 306
  let era := z / 146097
  let doe := z % 146097
  let yoe := (doe - doe / 1460 + doe / 36524 - doe / 146096) / 365
  let doy := doe - (365 * yoe + yoe / 4 - yoe / 100)
  let m := (5 * doy + 2) / 153
  let month := if m < 10 then m + 3 else m - 9
  let year := yoe + era * 400
  ⟨if month ≤ 2 then year + 1 else year, month, doy - (153 * m + 2) / 5 + 1⟩

def date (t : Timestamp) : Date := Date.ofDays (t.wall / microsPerDay)

def timeOfDay (t : Timestamp) : Int := t.wall % microsPerDay

/-- Microseconds of universal time; a clock of unknown offset counts as universal. -/
def universal (t : Timestamp) : Int := t.wall - t.offset.getD 0 * microsPerSecond

def add (t : Timestamp) (micros : Int) : Timestamp := { t with wall := t.wall + micros }

def secondsSince (t start : Timestamp) : Float :=
  (Number.divide? (t.universal - start.universal) microsPerSecond).getD 0

def padded (width : Nat) (n : Int) : String :=
  let ds := Number.digitsOf n.natAbs
  String.ofList (Number.zeros (width - ds.length) ++ ds)

def dayText (d : Date) : String := "-" ++ padded 2 d.month ++ "-" ++ padded 2 d.day

def dateText (d : Date) : String := padded 4 d.year ++ dayText d

def timeText (micros : Int) : String :=
  let s := micros / microsPerSecond
  padded 2 (s / 3600) ++ ":" ++ padded 2 (s / 60 % 60) ++ ":" ++ padded 2 (s % 60)

/-- The form used in comments, which shows the wall clock and calls it universal time. An early year has fewer
than four digits. -/
def commentText (t : Timestamp) : String :=
  Number.intText t.date.year ++ dayText t.date ++ " " ++ timeText t.timeOfDay ++ " UTC"

def offsetText (seconds : Int) : String :=
  let s := seconds.natAbs
  (if seconds < 0 then "-" else "+") ++ padded 2 (s / 3600) ++ ":" ++ padded 2 (s / 60 % 60)
    ++ if s % 60 = 0 then "" else ":" ++ padded 2 (s % 60)

/-- The standard form; microseconds and offset are left out when there are none. -/
def isoText (t : Timestamp) : String :=
  let micros := t.timeOfDay % microsPerSecond
  dateText t.date ++ "T" ++ timeText t.timeOfDay
    ++ (if micros = 0 then "" else "." ++ padded 6 micros)
    ++ (t.offset.map offsetText).getD ""

/-! ### Reading the standard form -/

def digits? (cs : List Char) : Option Int :=
  if cs.isEmpty || !cs.all Char.isDigit then none
  else some (cs.foldl (fun (n : Int) c => n * 10 + (c.toNat - '0'.toNat)) 0)

def fraction? (cs : List Char) : Option Int := do
  let ds := cs.takeWhile Char.isDigit
  digits? (ds.take 6 ++ Number.zeros (6 - ds.length))

def offset? : List Char → Option Int
  | sign :: a :: b :: ':' :: c :: d :: _ => do
    let h ← digits? [a, b]
    let m ← digits? [c, d]
    let s := h * 3600 + m * 60
    if sign = '-' then return -s else if sign = '+' then return s else none
  | _ => none

def parse? (s : String) : Option Timestamp :=
  match s.toList with
  | y1 :: y2 :: y3 :: y4 :: '-' :: m1 :: m2 :: '-' :: d1 :: d2 :: _ :: h1 :: h2 :: ':' :: n1 :: n2
      :: ':' :: s1 :: s2 :: rest => do
    let d := Date.mk (← digits? [y1, y2, y3, y4]) (← digits? [m1, m2]) (← digits? [d1, d2])
    let secs := (← digits? [h1, h2]) * 3600 + (← digits? [n1, n2]) * 60 + (← digits? [s1, s2])
    let (micros, rest) ← match rest with
      | '.' :: r => do pure (← fraction? r, r.dropWhile Char.isDigit)
      | r => pure (0, r)
    let offset ← match rest with
      | [] => pure none
      | ['Z'] => pure (some 0)
      | r => some <$> offset? r
    return ⟨d.toDays * microsPerDay + secs * microsPerSecond + micros, offset⟩
  | _ => none

end Timestamp

end IssuePlanner
