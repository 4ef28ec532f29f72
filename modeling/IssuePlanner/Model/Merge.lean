import IssuePlanner.Data.Written

/-! One answer from the answers to the chunks of a prompt. Texts are put one after the other; dictionaries
are merged key by key. -/

namespace IssuePlanner.Model

/-- One value from two under the same key: lists and dictionaries are joined, other values are listed. -/
def mergeValues : Datum → Datum → Datum
  | .list xs, .list ys => .list (xs ++ ys)
  | .dict es, .dict fs => .dict (Entries.putAll es fs)
  | .list xs, y => .list (xs ++ [y])
  | x, y => .list [x, y]

def mergeEntry (es : List (String × Datum)) (e : String × Datum) : List (String × Datum) :=
  match Entries.get? e.1 es with
  | some old => Entries.put e.1 (mergeValues old e.2) es
  | none => es ++ [e]

def mergeDicts (dicts : List (List (String × Datum))) : List (String × Datum) :=
  dicts.foldl (fun es d => d.foldl mergeEntry es) []

def dict? : Datum → Option (List (String × Datum))
  | .dict es => some es
  | _ => none

def mergeAnswers (wantsData : Bool) (answers : List Datum) : Datum :=
  if wantsData then
    match answers.mapM dict? with
    | some dicts => .dict (mergeDicts dicts)
    | none => .dict [("chunks", .list answers)]
  else .text (Text.join "\n\n---\n\n" (answers.map Datum.display))

end IssuePlanner.Model
