import IssuePlanner.Model.Manager

/-! Requests to models. What is asked is the same for all providers; each has its own form of parameters. -/

namespace IssuePlanner.Model

structure Request where
  prompt : String
  model : String
  temperature : Float := 0.7
  system : Option String := none
  format : Option String := none
  /-- Further parameters. -/
  extras : List (String × Datum) := []
  /-- The settings of a Gemini generation, as far as they are given. -/
  generation : Option (List (String × Datum)) := none

namespace Request

def wantsData (r : Request) : Bool := r.format == some "json"

def systemText (r : Request) : String := r.system.getD ""

def researchTools : Datum :=
  .list [.dict [("type", .text "web_search_preview")],
    .dict [("type", .text "code_interpreter"),
      ("container", .dict [("type", .text "auto"), ("file_ids", .list [])])]]

def openaiParams (r : Request) : List (String × Datum) :=
  let temperature := if Text.begins r.model "o" then 1.0 else r.temperature
  let base := Entries.putAll
    [("model", .text r.model), ("input", .text r.prompt), ("temperature", .float temperature)] r.extras
  let generation := (r.generation.map fun g => [("generation_config", Datum.dict g)]).getD []
  let instructions := if r.systemText == "" then [] else [("instructions", Datum.text r.systemText)]
  let tools := if isDeepResearch r.model then [("tools", researchTools)] else []
  let format := if r.wantsData then [("response_format", Datum.dict [("type", .text "json_object")])] else []
  Entries.putAll base (generation ++ instructions ++ tools ++ format)

def generationFields : List String :=
  ["response_schema", "response_mime_type", "candidate_count", "stop_sequences", "max_output_tokens",
   "temperature", "top_p", "top_k"]

/-- The settings of a generation as they are merged: its tools if it has any, and every other setting, also
one that is not given. -/
def mergedGeneration (g : List (String × Datum)) : List (String × Datum) :=
  let setting := fun (name : String) => Datum.ofOption (Entries.get? name g)
  (if (setting "tools").holds then [("tools", setting "tools")] else [])
    ++ generationFields.map fun name => (name, setting name)

def plainConfig (r : Request) : List (String × Datum) :=
  Entries.putAll
    [("temperature", .float r.temperature),
     ("response_mime_type", .text (if r.wantsData then "application/json" else "text/plain"))] r.extras

def geminiConfig (r : Request) : List (String × Datum) :=
  match r.generation with
  | some g => Entries.putAll r.plainConfig (mergedGeneration g)
  | none => r.plainConfig

def geminiText (r : Request) : String :=
  if r.systemText == "" then r.prompt else r.systemText ++ "\n\n" ++ r.prompt

def geminiParams (r : Request) : List (String × Datum) :=
  [("model", .text ("models/" ++ r.model)), ("contents", .text r.geminiText),
   ("config", .dict r.geminiConfig)]

end Request

end IssuePlanner.Model
