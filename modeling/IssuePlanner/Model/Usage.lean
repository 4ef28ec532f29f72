import IssuePlanner.Data.Arithmetic

/-! The tokens that a call used. Providers report them in three forms; missing numbers count as zero. A
usage is worth reporting when its total is above zero. -/

namespace IssuePlanner.Model

structure Usage where
  prompt : Datum := .int 0
  completion : Datum := .int 0
  total : Datum := .int 0
  model : Datum := .null

namespace Usage

def ofFields (d : Datum) (prompt completion total : String) : Usage :=
  { prompt := (d.field? prompt).getD (.int 0)
    completion := (d.field? completion).getD (.int 0)
    total := (d.field? total).getD (.int 0) }

def ofReport (d : Datum) : Usage :=
  match d with
  | .dict es =>
    { prompt := (Entries.get? "prompt_tokens" es).getD (.int 0)
      completion := (Entries.get? "completion_tokens" es).getD (.int 0)
      total := (Entries.get? "total_tokens" es).getD (.int 0)
      model := Datum.ofOption (Entries.get? "model" es) }
  | .record fs =>
    if (Entries.get? "input_tokens" fs).isSome then ofFields d "input_tokens" "output_tokens" "total_tokens"
    else if (Entries.get? "prompt_tokens" fs).isSome then
      ofFields d "prompt_tokens" "completion_tokens" "total_tokens"
    else if (Entries.get? "prompt_token_count" fs).isSome then
      ofFields d "prompt_token_count" "candidates_token_count" "total_token_count"
    else {}
  | _ => {}

def isPresent (u : Usage) : Bool := u.total.isPositive

/-- All numbers as entries; the model only if it is known. -/
def toEntries (u : Usage) : List (String × Datum) :=
  [("prompt_tokens", u.prompt), ("completion_tokens", u.completion), ("total_tokens", u.total)]
    ++ if u.model.holds then [("model", u.model)] else []

/-- Adds the numbers of a further call; the model is not kept. -/
def add (sum u : Usage) : Except Failure Usage := do
  let prompt ← sum.prompt.addTo u.prompt
  let completion ← sum.completion.addTo u.completion
  let total ← sum.total.addTo u.total
  return { sum with prompt, completion, total }

end Usage

end IssuePlanner.Model
