/-! Encodings of text as tokens, as far as counting goes. `Encoding.count` never goes down when a text gets
longer. -/

namespace IssuePlanner.Tokens

inductive Encoding where
  /-- Four characters a token. -/
  | cl100k
  /-- Words of six characters a token; a line feed is a token of its own. -/
  | o200k
  /-- Three bytes a token. -/
  | p50k
  /-- A character a token. -/
  | r50k
  deriving DecidableEq, Repr

namespace Encoding

def name : Encoding → String
  | cl100k => "cl100k_base"
  | o200k => "o200k_base"
  | p50k => "p50k_base"
  | r50k => "r50k_base"

def ofName? (s : String) : Option Encoding :=
  [cl100k, o200k, p50k, r50k].find? fun e => e.name == s

def ceilDiv (n d : Nat) : Nat := (n + d - 1) / d

def wordStep (acc : Nat × Nat) (c : Char) : Nat × Nat :=
  if c = ' ' then (acc.1 + ceilDiv acc.2 6, 0)
  else if c = '\n' then (acc.1 + ceilDiv acc.2 6 + 1, 0)
  else (acc.1, acc.2 + 1)

def count (e : Encoding) (cs : List Char) : Nat :=
  match e with
  | cl100k => ceilDiv cs.length 4
  | o200k =>
    let (n, open_) := cs.foldl wordStep (0, 0)
    n + ceilDiv open_ 6
  | p50k => ceilDiv (cs.foldl (fun n c => n + c.utf8Size) 0) 3
  | r50k => cs.length

end Encoding

end IssuePlanner.Tokens
