import IssuePlanner.Data.Access
import IssuePlanner.Text.Letter
import IssuePlanner.Text.Order
import IssuePlanner.Text.Pick

/-! The outline of a Go source: its exported functions, methods and types, sorted. A symbol server is asked
first; without a usable answer the declarations are found by their form. -/

namespace IssuePlanner.Outline

inductive SymbolServer where
  | absent
  | answers (code : Int) (output : String)
  | timesOut

namespace Package

/-! ### Declarations by their form -/

def gap? : List Char → Option (List Char)
  | c :: r => if Text.isBlank c then some (Text.stripLeft r) else none
  | [] => none

def exported? : List Char → Option (List Char × List Char)
  | c :: r =>
    if 'A' ≤ c && c ≤ 'Z' then some (c :: r.takeWhile Text.isWordChar, r.dropWhile Text.isWordChar)
    else none
  | [] => none

/-- What stands between an opening character and the first closing one, and what follows. -/
def enclosed? (opening closing : Char) : List Char → Option (List Char × List Char)
  | c :: r =>
    if c = opening then
      match r.dropWhile (· ≠ closing) with
      | _ :: rest => some (r.takeWhile (· ≠ closing), rest)
      | [] => none
    else none
  | [] => none

/-- The rest of a signature: up to its body or the end of its line. -/
def results (cs : List Char) : List Char × List Char :=
  let r := Text.stripLeft cs
  (r.takeWhile fun c => c ≠ '{' && c ≠ '\n', r.dropWhile fun c => c ≠ '{' && c ≠ '\n')

def withResults (signature : String) (returns : List Char) : String :=
  match Text.strip returns with
  | [] => signature
  | rs => signature ++ " " ++ String.ofList rs

def trimmed (cs : List Char) : String := String.ofList (Text.strip cs)

def function? (atStart : Bool) (cs : List Char) : Option (String × List Char) := do
  guard atStart
  let cs ← gap? (← Text.after? ['f', 'u', 'n', 'c'] cs)
  let (name, cs) ← exported? cs
  let (params, cs) ← enclosed? '(' ')' (Text.stripLeft cs)
  let (returns, cs) := results cs
  return (withResults ("func " ++ String.ofList name ++ "(" ++ trimmed params ++ ")") returns, cs)

def typeParams? (cs : List Char) : Option (List Char × List Char) :=
  match cs with
  | '[' :: _ => enclosed? '[' ']' cs
  | _ => some ([], cs)

def method? (atStart : Bool) (cs : List Char) : Option (String × List Char) := do
  guard atStart
  let cs ← gap? (← Text.after? ['f', 'u', 'n', 'c'] cs)
  let (receiver, cs) ← enclosed? '(' ')' cs
  let (name, cs) ← exported? (← gap? cs)
  let (generics, cs) ← typeParams? (Text.stripLeft cs)
  let (params, cs) ← enclosed? '(' ')' (Text.stripLeft cs)
  let (returns, cs) := results cs
  let generics := if generics.isEmpty then "" else "[" ++ String.ofList generics ++ "]"
  return (withResults ("func (" ++ trimmed receiver ++ ") " ++ String.ofList name ++ generics ++ "("
    ++ trimmed params ++ ")") returns, cs)

/-- The name that a type declaration starts with, and what follows the gap behind it. -/
def typeName? (cs : List Char) : Option (List Char × List Char) := do
  let cs ← gap? (← Text.after? ['t', 'y', 'p', 'e'] cs)
  let (name, cs) ← exported? cs
  return (name, ← gap? cs)

def type? (atStart : Bool) (cs : List Char) : Option ((List Char × List Char) × List Char) := do
  guard atStart
  let (name, cs) ← typeName? cs
  let isPart := fun c => !Text.isBlank c && c ≠ '{'
  let definition := cs.takeWhile isPart
  guard !definition.isEmpty
  return ((name, definition), cs.dropWhile isPart)

def interface? (_ : Bool) (cs : List Char) : Option (String × List Char) := do
  let (name, cs) ← typeName? cs
  let cs ← Text.after? "interface".toList cs
  return ("type " ++ String.ofList name ++ " interface", cs)

def struct? (_ : Bool) (cs : List Char) : Option ((List Char × List Char) × List Char) := do
  let (name, cs) ← typeName? cs
  let cs ← Text.after? "struct".toList cs
  let (fields, cs) ← enclosed? '{' '}' (Text.stripLeft cs)
  return ((name, fields), cs)

def beforeLineComment (cs : List Char) : List Char := (Text.splitBy ['/', '/'] cs).headD []

/-- Removes the comments between `/*` and `*/`; one that is never closed stays. The text so far is kept in
reverse. -/
def dropBlockComments : Nat → List Char → List Char → List Char
  | 0, out, cs => out.reverse ++ cs
  | _ + 1, out, [] => out.reverse
  | n + 1, out, c :: r =>
    match Text.after? ['/', '*'] (c :: r) with
    | some inside =>
      match Text.splitBy ['*', '/'] inside with
      | comment :: _ :: _ => dropBlockComments n out (inside.drop (comment.length + 2))
      | _ => out.reverse ++ c :: r
    | none => dropBlockComments n (c :: out) r

def fieldsLimit : Nat := 120

/-- The fields of a struct on one line: runs of blanks become one space, comments go, and what is too long is
cut. A line comment takes everything behind it along, because the line ends are gone by then. -/
def fieldsText (fields : List Char) : List Char :=
  let flat := beforeLineComment (Text.joinWith [' '] (Text.words fields))
  let clean := dropBlockComments flat.length [] flat
  if fieldsLimit < clean.length then clean.take (fieldsLimit - 3) ++ ['.', '.', '.'] else clean

def structText (name fields : List Char) : String :=
  let head := "struct " ++ String.ofList name
  match fieldsText fields with
  | [] => head
  | fs => head ++ " \x7b " ++ String.ofList fs ++ " \x7d"

def plainType? (t : List Char × List Char) : Option String :=
  if t.2 = "struct".toList || t.2 = "interface".toList then none
  else some ("type " ++ String.ofList t.1 ++ " " ++ String.ofList t.2)

def declarations (source : String) : List String :=
  let cs := source.toList
  Text.sort (Text.findAll function? cs ++ Text.findAll method? cs
    ++ (Text.findAll type? cs).filterMap plainType? ++ Text.findAll interface? cs
    ++ (Text.findAll struct? cs).map fun (name, fields) => structText name fields)

/-! ### Symbols of a server -/

def entryOr (key : String) (default : Datum) (d : Datum) : Except Failure Datum :=
  match d with
  | .dict es => .ok ((Entries.get? key es).getD default)
  | _ => Datum.fault (.missingAttribute d.kind "get")

def isExported (name : Datum) : Except Failure Bool :=
  if name.holds then do
    match ← name.item 0 with
    | .text s => return Text.isUpperText s.toList
    | d => Datum.fault (.missingAttribute d.kind "isupper")
  else return false

def fieldOf? (child : Datum) : Except Failure (Option String) := do
  if (← entryOr "kind" .null child).isText "field" then
    let name ← entryOr "name" (.text "") child
    let detail ← entryOr "detail" (.text "") child
    return some (name.display ++ " " ++ detail.display)
  else return none

def structOf (name : Datum) (symbol : Datum) : Except Failure String := do
  let head := "struct " ++ name.display
  let children ← entryOr "children" (.list []) symbol
  if children.holds then
    match (← (← children.iterate).mapM fieldOf?).filterMap id with
    | [] => return head
    | fields => return head ++ " \x7b " ++ Text.join "; " fields ++ " \x7d"
  else return head

def symbolLine? (symbol : Datum) : Except Failure (Option String) := do
  let name ← entryOr "name" (.text "") symbol
  let kind ← entryOr "kind" (.text "") symbol
  if ← isExported name then
    if ["function", "method", "interface", "type"].any kind.isText then
      return some (kind.display ++ " " ++ name.display)
    else if kind.isText "struct" then return some (← structOf name symbol)
    else return none
  else return none

def symbolLines (output : String) : Except Failure (List String) := do
  match Data.parse? output with
  | .error f => .error (.unreadableData f)
  | .ok d => return Text.sort ((← (← d.iterate).mapM symbolLine?).filterMap id)

def askServer? : SymbolServer → Option (List String)
  | .answers 0 output => if output == "" then none else (symbolLines output).toOption
  | _ => none

/-- The outline of a source; a file that cannot be read as text has none of its own. -/
def outline (server : SymbolServer) (source : Option String) : List String :=
  (askServer? server).getD ((source.map declarations).getD [])

end Package

end IssuePlanner.Outline
