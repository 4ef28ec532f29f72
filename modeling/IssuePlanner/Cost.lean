import IssuePlanner.Model.Usage

/-! What a call costs, and the section of a report that says so. -/

namespace IssuePlanner.Cost

structure Price where
  input : Float
  output : Float

def prices : List (String × Price) :=
  [("gemini-2.5-pro", ⟨1.25, 10.0⟩), ("gemini-2.5-flash", ⟨0.30, 2.50⟩),
   ("gemini-2.5-flash-lite", ⟨0.10, 0.40⟩), ("gpt-4.1", ⟨2.0, 8.0⟩), ("gpt-4o", ⟨5.0, 15.0⟩),
   ("gpt-4o-mini", ⟨0.15, 0.60⟩), ("o4-mini", ⟨1.1, 4.4⟩), ("o3", ⟨10.0, 40.0⟩),
   ("o3-deep-research", ⟨10.0, 40.0⟩), ("o4-mini-deep-research", ⟨1.10, 4.40⟩)]

def ofTokens (model : String) (input output : Datum) : Except Failure (Option Float) :=
  match Entries.get? model prices with
  | none => .ok none
  | some p => do
    let i ← input.millions
    let o ← output.millions
    return some (i * p.input + o * p.output)

def dollars (x : Float) : String := "$" ++ Number.fixedText 4 x

def unknownMetrics : String :=
  "\n\n---\n## Completion Metrics\n* **Model Used**: N/A\n* **Input Tokens**: N/A\n* **Output Tokens**: N/A\n* **Total Tokens**: N/A\n* **Estimated Cost**: N/A"

def metrics (model : String) (usage : Option Model.Usage) : Except Failure String :=
  match usage with
  | none => .ok unknownMetrics
  | some u =>
    if u.prompt.isNull || u.completion.isNull then .ok unknownMetrics
    else do
      let cost ← ofTokens model u.prompt u.completion
      let total ← if u.total.isNull then u.prompt.plus "+" u.completion else pure u.total
      return Text.unlines
        ["\n\n---\n## Completion Metrics",
         "*   **Model Used**: `" ++ model ++ "`",
         "*   **Input Tokens**: " ++ u.prompt.display,
         "*   **Output Tokens**: " ++ u.completion.display,
         "*   **Total Tokens**: " ++ total.display,
         "*   **Estimated Cost**: " ++ (cost.map dollars).getD "N/A"]

end IssuePlanner.Cost
