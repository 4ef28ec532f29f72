import IssuePlanner.Data.Arithmetic
import IssuePlanner.Number.Written

/-! Links to the sources of an answer, put into its text. A support names the place where a claim ends and
the sources behind it. Supports are worked off from the last place to the first, so that one insertion does
not move the places of the others. -/

namespace IssuePlanner.Citation

/-- The end of a supported claim and the numbers of its sources, counted from zero. -/
structure Support where
  stop : Int
  sources : List Int
  deriving DecidableEq, Repr

/-- A text cut in two at a place; a negative place counts from the end. -/
def cutAt (cs : List Char) (i : Int) : List Char × List Char :=
  let n := if i < 0 then (i + cs.length).toNat else i.toNat
  (cs.take n, cs.drop n)

def insertAt (cs : List Char) (i : Int) (new : List Char) : List Char :=
  (cutAt cs i).1 ++ new ++ (cutAt cs i).2

/-- The link to a source, numbered from one. -/
def link (source : Int) (address : String) : String :=
  "[" ++ Number.intText (source + 1) ++ "](" ++ address ++ ")"

/-- The link to a source, if the source is known and has an address. A negative number counts sources from
the end. -/
def link? (addresses : List (Option String)) (source : Int) : Except Failure (Option String) :=
  if (addresses.length : Int) ≤ source then .ok none
  else
    match (Datum.place? addresses.length source).bind fun n => addresses[n]? with
    | some address => .ok (address.map (link source))
    | none => Datum.fault (.indexRange "list")

def links (addresses : List (Option String)) (s : Support) : Except Failure String := do
  return Text.join ", " ((← s.sources.mapM (link? addresses)).filterMap id)

/-- Supports from the last place to the first; those of one place stay in order. -/
def lastFirst (supports : List Support) : List Support :=
  supports.mergeSort fun a b => decide (b.stop ≤ a.stop)

def insertLinks (addresses : List (Option String)) (cs : List Char) :
    List Support → Except Failure (List Char)
  | [] => .ok cs
  | s :: rest => do
    insertLinks addresses (insertAt cs s.stop (← links addresses s).toList) rest

def cite (text : String) (supports : List Support) (addresses : List (Option String)) :
    Except Failure String := do
  return String.ofList (← insertLinks addresses text.toList (lastFirst supports))

/-! ### Reading supports and sources

Both come as records or as dictionaries, and what stands inside a record is a record again. -/

def part? (name : String) : Datum → Option Datum
  | .record fs => Entries.get? name fs
  | .dict es => Entries.get? name es
  | _ => none

/-- A part of the same form as the whole, and a part of that. -/
def innerPart? (outer inner : String) : Datum → Option Datum
  | .record fs => (Entries.get? outer fs).bind (Datum.field? inner)
  | .dict es => (Entries.get? outer es).bind (Datum.entry? inner)
  | _ => none

def wholeNumber : Datum → Except Failure Int
  | .int i => .ok i
  | .bool b => .ok (if b then 1 else 0)
  | _ => Datum.fault .badSliceIndex

/-- The end of a claim; the start of the text if it is not known. -/
def stopOf (d : Datum) : Except Failure Int :=
  match (innerPart? "segment" "end_index" d).filter fun x => !x.isNull with
  | some x => wholeNumber x
  | none => .ok 0

def sourcesOf (d : Datum) : Except Failure (List Int) :=
  match (part? "grounding_chunk_indices" d).filter Datum.holds with
  | some xs => do (← xs.iterate).mapM wholeNumber
  | none => .ok []

def supportOf (d : Datum) : Except Failure Support := do return ⟨← stopOf d, ← sourcesOf d⟩

/-- The address of a source, if it has one. -/
def address? (d : Datum) : Option String :=
  ((innerPart? "web" "uri" d).filter Datum.holds).map Datum.display

/-- A text with links to the sources that came with it. Nothing is read if there is no text, no support or no
source. -/
def citeFrom (text : String) (metadata : Datum) : Except Failure String :=
  match (part? "grounding_supports" metadata).filter Datum.holds,
    (part? "grounding_chunks" metadata).filter Datum.holds with
  | some supports, some sources =>
    if text == "" then .ok text
    else do
      let supports ← supports.iterate
      let sources ← sources.iterate
      cite text (← supports.mapM supportOf) (sources.map address?)
  | _, _ => .ok text

/-! ### Whole replies

A reply is a record, and so is what stands inside it. An attribute may be null, but it has to be there once it is
looked at. -/

/-- An attribute of an attribute; null if the outer one is empty. -/
def innerField (outer inner : String) (d : Datum) : Except Failure Datum := do
  let x ← d.field outer
  if x.holds then x.field inner else return .null

def metadataOf (reply : Datum) : Except Failure Datum := do
  let candidates ← reply.field "candidates"
  if candidates.holds then (← candidates.item 0).field "grounding_metadata" else return .null

/-- The items of an attribute of metadata; none if either is empty. -/
def itemsOf (name : String) (metadata : Datum) : Except Failure (List Datum) := do
  let items ← if metadata.holds then metadata.field name else return []
  if items.holds then items.iterate else return []

def replyStop (d : Datum) : Except Failure Int := do
  let stop ← innerField "segment" "end_index" d
  if stop.isNull then return 0 else wholeNumber stop

def replySources (d : Datum) : Except Failure (List Int) := do
  let sources ← d.field "grounding_chunk_indices"
  if sources.holds then (← sources.iterate).mapM wholeNumber else return []

/-- The link to a source of a reply, if the source is known. One without an address is linked all the same. -/
def replyLink? (sources : List Datum) (n : Int) : Except Failure (Option String) :=
  if (sources.length : Int) ≤ n then .ok none
  else
    match (Datum.place? sources.length n).bind fun i => sources[i]? with
    | some d => do
      let address ← innerField "web" "uri" d
      return some (link n (if address.holds then address.display else "None"))
    | none => Datum.fault (.indexRange "list")

def insertReplyLinks (sources : List Datum) (cs : List Char) : List (Int × Datum) → Except Failure (List Char)
  | [] => .ok cs
  | (stop, d) :: rest => do
    let links ← (← replySources d).mapM (replyLink? sources)
    insertReplyLinks sources (insertAt cs stop (Text.join ", " (links.filterMap id)).toList) rest

def citeReply (reply : Datum) : Except Failure String := do
  let text ← reply.field "text"
  let metadata ← metadataOf reply
  let supports ← itemsOf "grounding_supports" metadata
  let sources ← itemsOf "grounding_chunks" metadata
  match text with
  | .text text =>
    if text == "" then return ""
    else
      let stops ← supports.mapM replyStop
      let order := (stops.zip supports).mergeSort fun a b => decide (b.1 ≤ a.1)
      return String.ofList (← insertReplyLinks sources text.toList order)
  | _ => return ""

end IssuePlanner.Citation
