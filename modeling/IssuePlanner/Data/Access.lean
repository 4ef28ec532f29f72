import IssuePlanner.Failure

/-! Looking inside data, with the failure that a wrong shape causes. -/

namespace IssuePlanner.Datum

open ShapeFault

def fault {α : Type} (f : ShapeFault) : Except Failure α := .error (.shape f)

def field? (name : String) : Datum → Option Datum
  | record fs => Entries.get? name fs
  | _ => none

def field (name : String) (d : Datum) : Except Failure Datum :=
  match d.field? name with
  | some x => .ok x
  | none => fault (missingAttribute d.kind name)

def entry? (key : String) : Datum → Option Datum
  | dict es => Entries.get? key es
  | _ => none

def entry (key : String) (d : Datum) : Except Failure Datum :=
  match d with
  | dict es =>
    match Entries.get? key es with
    | some x => .ok x
    | none => fault (missingKey (.text key))
  | list _ | text _ => fault (badIndex d.kind "str")
  | _ => fault (notSubscriptable d.kind)

/-- The place that an index names in a sequence of `n` items; a negative one counts from the end. -/
def place? (n : Nat) (i : Int) : Option Nat :=
  let i := if i < 0 then i + n else i
  if 0 ≤ i ∧ i < n then some i.toNat else none

def item (i : Int) (d : Datum) : Except Failure Datum :=
  match d with
  | list xs =>
    match (place? xs.length i).bind fun n => xs[n]? with
    | some x => .ok x
    | none => fault (indexRange d.kind)
  | text s =>
    let cs := s.toList
    match (place? cs.length i).bind fun n => cs[n]? with
    | some c => .ok (.text (String.ofList [c]))
    | none => fault (indexRange d.kind)
  | dict _ => fault (missingKey (.int i))
  | _ => fault (notSubscriptable d.kind)

def length (d : Datum) : Except Failure Nat :=
  match d with
  | list xs => .ok xs.length
  | text s => .ok s.length
  | dict es => .ok es.length
  | _ => fault (noLength d.kind)

def iterate (d : Datum) : Except Failure (List Datum) :=
  match d with
  | list xs => .ok xs
  | text s => .ok (s.toList.map fun c => .text (String.ofList [c]))
  | dict es => .ok (es.map fun e => .text e.1)
  | _ => fault (notIterable d.kind)

end IssuePlanner.Datum
