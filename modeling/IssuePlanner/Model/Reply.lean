import IssuePlanner.Data.Access
import IssuePlanner.Model.Usage

/-! Reading the replies of models: the text, the tokens used, and data inside the text. -/

namespace IssuePlanner.Model.Reply

open ShapeFault

/-- The text of an OpenAI reply, which has it in one of two places. -/
def openaiText (reply : Datum) : Except Failure Datum :=
  match reply.field? "output_text" with
  | some text => .ok text
  | none => do
    let output ← (← reply.field "output").item 0
    let content ← (← output.field "content").item 0
    content.field "text"

/-- The text of a Gemini reply; a reply without one is shown as it is. -/
def geminiText (reply : Datum) : Datum := (reply.field? "text").getD (.text reply.display)

def usage? (name : String) (reply : Datum) : Option Usage := (reply.field? name).map Usage.ofReport

def asText (fault : String → ShapeFault) : Datum → Except Failure String
  | .text s => .ok s
  | d => Datum.fault (fault d.kind)

/-- The data in an OpenAI text. A text that is no data is reported in its place. -/
def openaiData (content : Datum) : Except Failure Datum := do
  let s ← asText notJsonText content
  match Data.parse? s with
  | .ok d => return d
  | .error f =>
    if f.isSyntactic then return .dict [("error", .text "Failed to parse JSON"), ("content", content)]
    else throw (.unreadableData f)

def innerBraces? : List Char → Option (List Char)
  | '{' :: r =>
    match r.dropWhile fun c => c ≠ '{' && c ≠ '}' with
    | '}' :: rest => some rest
    | _ => none
  | _ => none

/-- What follows the inside of a pair of braces that holds pairs without braces inside. The number bounds the
pairs. -/
def closing? : Nat → List Char → Option (List Char)
  | 0, _ => none
  | n + 1, cs =>
    match cs.dropWhile fun c => c ≠ '{' && c ≠ '}' with
    | '}' :: rest => some rest
    | rest@('{' :: _) => (innerBraces? rest).bind (closing? n)
    | _ => none

/-- The first pair of braces that holds at most one level of further pairs. -/
def firstBraces? : List Char → Option (List Char)
  | [] => none
  | c :: r =>
    if c = '{' then
      match closing? (r.length + 1) r with
      | some rest => some ((c :: r).take (r.length + 1 - rest.length))
      | none => firstBraces? r
    else firstBraces? r

/-- The data in a Gemini text: what the first braces hold. -/
def geminiData (content : Datum) : Except Failure Datum := do
  let s ← asText notText content
  match firstBraces? s.toList with
  | none => return .dict [("error", .text "No JSON content found in response")]
  | some part =>
    match Data.parse? (String.ofList part) with
    | .ok d => return d
    | .error f =>
      if f.isSyntactic then
        return .dict [("error", .text "No valid JSON found in response"), ("content", content)]
      else throw (.unreadableData f)

/-- What a reply cites: in the reply itself, else in its first candidate. -/
def grounding? (reply : Datum) : Except Failure (Option Datum) := do
  match (reply.field? "grounding_metadata").filter Datum.holds with
  | some g => return some g
  | none =>
    match (reply.field? "candidates").filter Datum.holds with
    | none => return none
    | some candidates =>
      if 0 < (← candidates.length) then
        let first ← candidates.item 0
        return (first.field? "grounding_metadata").filter Datum.holds
      else return none

end IssuePlanner.Model.Reply
