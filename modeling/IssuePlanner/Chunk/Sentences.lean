import IssuePlanner.Chunk.SplitPoint
import IssuePlanner.Tokens.Limit

/-! Cutting a text into chunks of limited size, preferably between sentences. Every chunk is trimmed and not
empty. A text none of which fits ends the work early. -/

namespace IssuePlanner.Chunk

open Tokens

theorem length_strip_le (cs : List Char) : (Text.strip cs).length ≤ cs.length := by
  have h (l : List Char) : (l.dropWhile Text.isBlank).length ≤ l.length :=
    (List.dropWhile_sublist Text.isBlank).length_le
  have h1 := h cs
  have h2 := h (Text.stripLeft cs).reverse
  simp only [Text.strip, Text.stripRight, Text.stripLeft, List.length_reverse] at *
  omega

/-- The longest prefix within the target, by a halving search; the whole text if no prefix is. -/
def prefixWithin (e : Encoding) (target : Int) (cs : List Char) : Nat :=
  lastAccepted (fun n => decide ((e.count (cs.take n) : Int) ≤ target)) 0 (cs.length + 1) cs.length

def firstCut (e : Encoding) (target : Int) (cs : List Char) : Nat :=
  if (e.count cs : Int) ≤ target then cs.length
  else
    let best := prefixWithin e target cs
    if best < cs.length then
      let point := (splitPoint (cs.take best) best).toNat
      if point = 0 then best else point
    else best

def sentences (e : Encoding) (target : Int) (cs : List Char) : List (List Char) :=
  if _hne : cs = [] then []
  else
    let n := firstCut e target cs
    let chunk := Text.strip (cs.take n)
    if _hc : chunk = [] then []
    else chunk :: sentences e target (Text.strip (cs.drop n))
termination_by cs.length
decreasing_by
  have hn : n ≠ 0 := fun h => _hc (by simp [chunk, h, Text.strip, Text.stripLeft, Text.stripRight])
  have h1 := length_strip_le (cs.drop n)
  have h2 : 0 < cs.length := List.length_pos_iff.2 _hne
  rw [List.length_drop] at h1
  show (Text.strip (cs.drop n)).length < cs.length
  omega

end IssuePlanner.Chunk
