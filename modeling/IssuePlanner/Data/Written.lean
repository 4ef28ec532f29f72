import IssuePlanner.Data.Basic
import IssuePlanner.Number.Written
import IssuePlanner.Text.Quoted

/-! Data as text. `Datum.json` is the exchange format, in ASCII only; `Datum.display` is the form in which
values appear inside messages and joined answers, where a text stands for itself. -/

namespace IssuePlanner

namespace Data

/-- A number below 2^16 as an escape. -/
def unitEscape (n : Nat) : List Char := '\\' :: 'u' :: Text.hexDigits 4 n

def jsonChar (c : Char) : List Char :=
  let n := c.toNat
  if c = '"' || c = '\\' then ['\\', c]
  else if c = '\n' then ['\\', 'n']
  else if c = '\r' then ['\\', 'r']
  else if c = '\t' then ['\\', 't']
  else if n = 8 then ['\\', 'b']
  else if n = 12 then ['\\', 'f']
  else if 32 ≤ n && n < 127 then [c]
  else if n < 0x10000 then unitEscape n
  else unitEscape (0xd800 + (n - 0x10000) / 1024) ++ unitEscape (0xdc00 + (n - 0x10000) % 1024)

def jsonText (s : String) : String := String.ofList ('"' :: s.toList.flatMap jsonChar ++ ['"'])

def jsonFloat (x : Float) : String :=
  match Number.view x with
  | .nan => "NaN"
  | .infinite negative => if negative then "-Infinity" else "Infinity"
  | .finite .. => Number.floatText x

end Data

namespace Datum

mutual

def json : Datum → String
  | null => "null"
  | bool b => if b then "true" else "false"
  | int i => Number.intText i
  | float x => Data.jsonFloat x
  | text s => Data.jsonText s
  | list xs => "[" ++ Text.join ", " (jsonItems xs) ++ "]"
  | dict es | record es => "\x7b" ++ Text.join ", " (jsonEntries es) ++ "\x7d"

def jsonItems : List Datum → List String
  | [] => []
  | x :: xs => json x :: jsonItems xs

def jsonEntries : List (String × Datum) → List String
  | [] => []
  | (k, x) :: es => (Data.jsonText k ++ ": " ++ json x) :: jsonEntries es

end

mutual

def inner : Datum → String
  | null => "None"
  | bool b => if b then "True" else "False"
  | int i => Number.intText i
  | float x => Number.floatText x
  | text s => Text.quoted s
  | list xs => "[" ++ Text.join ", " (innerItems xs) ++ "]"
  | dict es => "\x7b" ++ Text.join ", " (innerEntries es) ++ "\x7d"
  | record _ => "<response>"

def innerItems : List Datum → List String
  | [] => []
  | x :: xs => inner x :: innerItems xs

def innerEntries : List (String × Datum) → List String
  | [] => []
  | (k, x) :: es => (Text.quoted k ++ ": " ++ inner x) :: innerEntries es

end

def display : Datum → String
  | text s => s
  | d => inner d

end Datum

end IssuePlanner
