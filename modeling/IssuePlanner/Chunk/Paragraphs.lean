import IssuePlanner.Chunk.Sentences
import IssuePlanner.Data.Arithmetic

/-! Cutting a text into chunks of limited size between its lines. Lines are collected until the next one
would not fit; a line that is too long on its own is cut between sentences. The end of a finished chunk may be
repeated at the start of the next one. -/

namespace IssuePlanner.Chunk

open Tokens

/-- How large chunks are, and how much of a chunk the next one repeats. -/
structure Budget where
  maxTokens : Int
  margin : Int := 50
  overlapRatio : Datum.Numeric := 0.1

def Budget.target (b : Budget) : Int := b.maxTokens - b.margin

/-- Tokens that the next chunk repeats, unless that number is out of range. -/
def Budget.overlap (b : Budget) : Except Failure Int :=
  (b.overlapRatio.timesCutOff b.maxTokens).mapError .product

/-- Tokens that the next chunk repeats; none when the number is out of range. -/
def Budget.overlapTokens (b : Budget) : Int := b.overlap.toOption.getD 0

/-- Works out the overlap if it is asked for, and fails when it is out of range. -/
def Budget.ask (b : Budget) (asked : Bool) : Except Failure Unit :=
  if asked then b.overlap.map fun _ => () else .ok ()

/-- A text from a place on; a negative place counts from the end. -/
def fromPlace (cs : List Char) (i : Int) : List Char :=
  cs.drop (if i < 0 then (i + cs.length).toNat else i.toNat)

/-- The end of a chunk that the next one repeats, at four characters a token. No tokens mean the whole
chunk, since the place counted from the end is then the start. -/
def overlapText (b : Budget) (chunk : List Char) : List Char := fromPlace chunk (-b.overlapTokens * 4)

/-- Finished chunks, last one first, and the lines of the chunk that is being collected, last one first, with
their tokens. -/
structure Collected where
  chunks : List (List Char) := []
  open_ : List (List Char) := []
  tokens : Int := 0

namespace Collected

def text (s : Collected) : List Char := Text.joinWith ['\n'] s.open_.reverse

def flush (s : Collected) : Collected :=
  if s.open_.isEmpty then s else { chunks := s.text :: s.chunks }

def step (e : Encoding) (b : Budget) (s : Collected) (line : List Char) : Collected :=
  let n : Int := e.count line
  if b.target < n then
    let s := s.flush
    { s with chunks := (sentences e b.target line).reverse ++ s.chunks }
  else if b.target < s.tokens + n && !s.open_.isEmpty then
    let chunks := s.text :: s.chunks
    if 0 < b.overlapRatio then
      let next := [line, overlapText b s.text]
      { chunks, open_ := next, tokens := e.count (Text.joinWith ['\n'] next.reverse) }
    else { chunks, open_ := [line], tokens := n }
  else { s with open_ := line :: s.open_, tokens := s.tokens + n + 2 }

/-- Whether a line asks for the overlap: one that is cut between sentences does, and one that starts a chunk
with the end of another. -/
def asksOverlap (e : Encoding) (b : Budget) (s : Collected) (line : List Char) : Bool :=
  let n : Int := e.count line
  b.target < n || (b.target < s.tokens + n && !s.open_.isEmpty && 0 < b.overlapRatio)

def everAsks (e : Encoding) (b : Budget) : Collected → List (List Char) → Bool
  | _, [] => false
  | s, line :: rest => s.asksOverlap e b line || everAsks e b (s.step e b line) rest

end Collected

def solidLines (cs : List Char) : List (List Char) :=
  ((Text.splitOn '\n' cs).map Text.strip).filter (· ≠ [])

def paragraphs (e : Encoding) (b : Budget) (cs : List Char) : List (List Char) :=
  ((solidLines cs).foldl (Collected.step e b) {}).flush.chunks.reverse

inductive Strategy where
  | sentences
  | paragraphs
  deriving DecidableEq, Repr

def cut (strategy : Strategy) (e : Encoding) (b : Budget) (cs : List Char) : List (List Char) :=
  match strategy with
  | .sentences => sentences e b.target cs
  | .paragraphs => paragraphs e b cs

/-- Whether a way of cutting asks for the overlap before it counts any tokens. -/
def Strategy.asksFirst : Strategy → Bool
  | sentences => true
  | paragraphs => false

def Strategy.asksLater (e : Encoding) (b : Budget) (cs : List Char) : Strategy → Bool
  | sentences => false
  | paragraphs => Collected.everAsks e b {} (solidLines cs)

/-- The chunks of a text, unless the overlap is asked for and out of range. -/
def cutOrFail (strategy : Strategy) (e : Encoding) (b : Budget) (cs : List Char) :
    Except Failure (List String) := do
  b.ask (strategy.asksLater e b cs)
  return (cut strategy e b cs).map String.ofList

/-- The chunks of a text, with the counter that remembers the model's encoding. A blank text has none. -/
def split (strategy : Strategy) (b : Budget) (counter : Counter) (model text : String) :
    Except Failure (List String × Counter) :=
  if Text.isBlankText text then .ok ([], counter)
  else do
    b.ask strategy.asksFirst
    let (e, counter) ← counter.encoding model
    return (← cutOrFail strategy e b text.toList, counter)

end IssuePlanner.Chunk
