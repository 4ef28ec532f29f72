import IssuePlanner.Data.Basic
import IssuePlanner.Number.Written
import IssuePlanner.Text.Lines

/-! Reading data from its text form (JSON, with `NaN`, `Infinity` and `-Infinity` as further numbers). A key
that is written twice keeps its place and takes the last value. A text that cannot be read is refused
with the place of the first fault, counted in characters. -/

namespace IssuePlanner.Data

inductive Problem where
  | value
  | propertyName
  | colon
  | comma
  | extraData
  | unterminated
  | controlCharacter
  | escape
  | unicodeEscape
  | byteOrderMark
  /-- A whole number with more digits than may be converted. -/
  | tooManyDigits (count : Nat)
  deriving DecidableEq, Repr

def Problem.wording : Problem → String
  | .value => "Expecting value"
  | .propertyName => "Expecting property name enclosed in double quotes"
  | .colon => "Expecting ':' delimiter"
  | .comma => "Expecting ',' delimiter"
  | .extraData => "Extra data"
  | .unterminated => "Unterminated string starting at"
  | .controlCharacter => "Invalid control character at"
  | .escape => "Invalid \\escape"
  | .unicodeEscape => "Invalid \\uXXXX escape"
  | .byteOrderMark => "Unexpected UTF-8 BOM (decode using utf-8-sig)"
  | .tooManyDigits n =>
    "Exceeds the limit (4300 digits) for integer string conversion: value has " ++ Number.natText n
      ++ " digits; use sys.set_int_max_str_digits() to increase the limit"

/-- A fault in a text, with its line and column counted from one and its place counted from zero. -/
structure Fault where
  problem : Problem
  line : Nat
  column : Nat
  place : Nat
  deriving DecidableEq, Repr

def Fault.message (f : Fault) : String :=
  match f.problem with
  | .tooManyDigits _ => f.problem.wording
  | _ =>
    f.problem.wording ++ ": line " ++ Number.natText f.line ++ " column " ++ Number.natText f.column
      ++ " (char " ++ Number.natText f.place ++ ")"

/-- Whether a fault lies in the text form itself and not in the size of a number. -/
def Fault.isSyntactic (f : Fault) : Bool :=
  match f.problem with
  | .tooManyDigits _ => false
  | _ => true

/-- The most decimal digits of a whole number that may be read or written. -/
def digitLimit : Nat := 4300

namespace Reader

structure Cursor where
  place : Nat
  rest : List Char

abbrev Outcome := Except (Problem × Nat)

def isSpace (c : Char) : Bool := c = ' ' || c = '\t' || c = '\n' || c = '\r'

def Cursor.advance (c : Cursor) (n : Nat) : Cursor := ⟨c.place + n, c.rest.drop n⟩

def Cursor.skipSpace (c : Cursor) : Cursor := c.advance (c.rest.takeWhile isSpace).length

def hexValue? (c : Char) : Option Nat :=
  if c.isDigit then some (c.toNat - '0'.toNat)
  else if 'a' ≤ c && c ≤ 'f' then some (c.toNat - 'a'.toNat + 10)
  else if 'A' ≤ c && c ≤ 'F' then some (c.toNat - 'A'.toNat + 10)
  else none

/-- Four digits of base sixteen with at least one character after them. -/
def hexQuad? : List Char → Option Nat
  | a :: b :: c :: d :: _ :: _ => do
    let a ← hexValue? a
    let b ← hexValue? b
    let c ← hexValue? c
    let d ← hexValue? d
    return ((a * 16 + b) * 16 + c) * 16 + d
  | _ => none

def isHighSurrogate (n : Nat) : Bool := 0xd800 ≤ n && n < 0xdc00

def isLowSurrogate (n : Nat) : Bool := 0xdc00 ≤ n && n < 0xe000

/-- The character of a number; a surrogate without its partner becomes the replacement character. -/
def charOf (n : Nat) : Char :=
  if isHighSurrogate n || isLowSurrogate n then Char.ofNat 0xfffd else Char.ofNat n

def simpleEscape? : Char → Option Char
  | '"' => some '"'
  | '\\' => some '\\'
  | '/' => some '/'
  | 'b' => some '\x08'
  | 'f' => some '\x0c'
  | 'n' => some '\n'
  | 'r' => some '\r'
  | 't' => some '\t'
  | _ => none

/-- A character written by its number, after the letter of the escape: the character and how many
characters were read. A high surrogate is joined with the low one written after it. -/
def numbered (place : Nat) (rest : List Char) : Outcome (Char × Nat) :=
  match hexQuad? rest with
  | none => .error (.unicodeEscape, place)
  | some n =>
    let tail := rest.drop 4
    match isHighSurrogate n && 6 < tail.length, tail with
    | true, '\\' :: 'u' :: low =>
      match hexQuad? low with
      | none => .error (.unicodeEscape, place + 6)
      | some m =>
        if isLowSurrogate m then .ok (Char.ofNat (0x10000 + (n - 0xd800) * 1024 + (m - 0xdc00)), 10)
        else .ok (charOf n, 4)
    | _, _ => .ok (charOf n, 4)

/-- The rest of a string that opened at `start`; `out` holds its characters so far, last one first, and
`skip` the number of characters that an escape has already used. -/
def string (start : Nat) (out : List Char) (skip place : Nat) : List Char → Outcome (String × Cursor)
  | [] => .error (.unterminated, start)
  | c :: r =>
    match skip with
    | n + 1 => string start out n (place + 1) r
    | 0 =>
      if c = '"' then .ok (String.ofList out.reverse, ⟨place + 1, r⟩)
      else if c = '\\' then
        match r with
        | [] => .error (.unterminated, start)
        | 'u' :: digits =>
          match numbered (place + 1) digits with
          | .ok (d, n) => string start (d :: out) (n + 1) (place + 1) r
          | .error e => .error e
        | e :: _ =>
          match simpleEscape? e with
          | some d => string start (d :: out) 1 (place + 1) r
          | none => .error (.escape, place)
      else if c.toNat < 0x20 then .error (.controlCharacter, place)
      else string start (c :: out) 0 (place + 1) r

def natOf (ds : List Char) : Nat := ds.foldl (fun n d => n * 10 + (d.toNat - '0'.toNat)) 0

/-- The digits before the point: one zero, or digits that do not start with one. -/
def wholeDigits (cs : List Char) : List Char :=
  match cs with
  | '0' :: _ => ['0']
  | _ => cs.takeWhile Char.isDigit

/-- The digits after a point, if there is one with a digit after it. -/
def fractionDigits : List Char → List Char
  | '.' :: r => r.takeWhile Char.isDigit
  | _ => []

/-- The exponent, if there is one with a digit in it, and how many characters it takes. -/
def exponentPart : List Char → Option (Int × Nat)
  | e :: r =>
    if e = 'e' || e = 'E' then
      let (negative, signs, r) := match r with
        | '-' :: r => (true, 1, r)
        | '+' :: r => (false, 1, r)
        | r => (false, 0, r)
      let ds := r.takeWhile Char.isDigit
      if ds.isEmpty then none
      else some (if negative then -(natOf ds : Int) else natOf ds, 1 + signs + ds.length)
    else none
  | [] => none

def number (c : Cursor) : Outcome (Datum × Cursor) :=
  let negative := c.rest.head? = some '-'
  let body := if negative then c.rest.drop 1 else c.rest
  let whole := wholeDigits body
  if whole.isEmpty then .error (.value, c.place)
  else
    let r := body.drop whole.length
    let fraction := fractionDigits r
    let used := (if negative then 1 else 0) + whole.length
    let used := if fraction.isEmpty then used else used + 1 + fraction.length
    let r := if fraction.isEmpty then r else r.drop (1 + fraction.length)
    match exponentPart r, fraction.isEmpty with
    | none, true =>
      if digitLimit < whole.length then .error (.tooManyDigits whole.length, c.place)
      else
        let n : Int := natOf whole
        .ok (.int (if negative then -n else n), c.advance used)
    | e, _ =>
      let (e, n) := e.getD (0, 0)
      .ok (.float (Number.ofDecimal negative (natOf (whole ++ fraction)) (e - fraction.length)),
        c.advance (used + n))

def constants : List (String × Datum) :=
  [("null", .null), ("true", .bool true), ("false", .bool false), ("NaN", .float Number.notANumber),
   ("Infinity", .float (Number.infinity false)), ("-Infinity", .float (Number.infinity true))]

def constant? (c : Cursor) : Option (Datum × Cursor) :=
  (constants.find? fun (w, _) => w.toList.isPrefixOf c.rest).map fun (w, d) => (d, c.advance w.length)

mutual

/-- One value. The first argument bounds the number of steps. -/
def value : Nat → Cursor → Outcome (Datum × Cursor)
  | 0, c => .error (.value, c.place)
  | n + 1, c =>
    match c.rest with
    | '"' :: r => do
      let (s, c) ← string c.place [] 0 (c.place + 1) r
      return (.text s, c)
    | '[' :: _ =>
      let c := (c.advance 1).skipSpace
      match c.rest with
      | ']' :: _ => .ok (.list [], c.advance 1)
      | _ => do
        let (xs, c) ← elements n c
        return (.list xs, c)
    | '\x7b' :: _ =>
      let c := (c.advance 1).skipSpace
      match c.rest with
      | '\x7d' :: _ => .ok (.dict [], c.advance 1)
      | _ => do
        let (es, c) ← members n c []
        return (.dict es, c)
    | _ =>
      match constant? c with
      | some r => .ok r
      | none => number c

def elements : Nat → Cursor → Outcome (List Datum × Cursor)
  | 0, c => .error (.value, c.place)
  | n + 1, c => do
    let (x, c) ← value n c
    let c := c.skipSpace
    match c.rest with
    | ']' :: _ => return ([x], c.advance 1)
    | ',' :: _ =>
      let (xs, c) ← elements n (c.advance 1).skipSpace
      return (x :: xs, c)
    | _ => .error (.comma, c.place)

/-- The entries of a dictionary up to its end, written after those of `es`. -/
def members : Nat → Cursor → List (String × Datum) → Outcome (List (String × Datum) × Cursor)
  | 0, c, _ => .error (.propertyName, c.place)
  | n + 1, c, es =>
    match c.rest with
    | '"' :: r => do
      let (key, c) ← string c.place [] 0 (c.place + 1) r
      let c := c.skipSpace
      match c.rest with
      | ':' :: _ =>
        let (x, c) ← value n (c.advance 1).skipSpace
        let es := Entries.put key x es
        let c := c.skipSpace
        match c.rest with
        | '\x7d' :: _ => return (es, c.advance 1)
        | ',' :: _ => members n (c.advance 1).skipSpace es
        | _ => .error (.comma, c.place)
      | _ => .error (.colon, c.place)
    | _ => .error (.propertyName, c.place)

end

def faultAt (cs : List Char) (problem : Problem) (place : Nat) : Fault :=
  let before := cs.take place
  { problem, place
    line := before.count '\n' + 1
    column := (before.reverse.takeWhile (· ≠ '\n')).length + 1 }

end Reader

open Reader

def parse? (s : String) : Except Fault Datum :=
  let cs := s.toList
  let located {α : Type} : Outcome α → Except Fault α
    | .ok a => .ok a
    | .error (p, n) => .error (faultAt cs p n)
  if cs.head? = some (Char.ofNat 0xfeff) then .error (faultAt cs .byteOrderMark 0)
  else located do
    let (d, c) ← value (2 * cs.length + 2) (Cursor.mk 0 cs).skipSpace
    let c := c.skipSpace
    if c.rest.isEmpty then return d else .error (.extraData, c.place)

end IssuePlanner.Data
