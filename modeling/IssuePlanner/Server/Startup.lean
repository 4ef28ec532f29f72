import IssuePlanner.Server.Environment

/-! Starting the server: it needs the key of its model's provider and a repository, in this order. -/

namespace IssuePlanner.Server

structure Started where
  repoPath : String
  model : String
  searchGrounding : Bool
  geminiKey : Option String
  openaiKey : Option String
  deriving DecidableEq, Repr

def managerSettings : List (String × Datum) :=
  [("safety_margin_tokens", .int 2000), ("overlap_ratio", .float 0.1), ("chunk_strategy", .text "paragraph"),
   ("aggregation_strategy", .text "concatenate")]

def Started.manager (s : Started) : Model.Manager :=
  .ofSettings s.openaiKey.isSome s.geminiKey.isSome managerSettings

/-- Whether models may search: only Gemini models, and only if it is not turned off. -/
def Environment.searchGrounding (env : Environment) : Bool :=
  !needsOpenai env.modelName && Text.lowerAscii (env.search.getD "on") != "off"

def startup (place : Place) (env : Environment) : Except Failure Started :=
  let model := env.modelName
  let provider := providerOf model
  let path := env.repoPath.getD "."
  match env.key? provider with
  | none => .error (.keyRequired provider)
  | some key =>
    if !place.isRepository path then .error (.notARepository (place.fullPath path))
    else .ok
      { repoPath := place.fullPath path, model, searchGrounding := env.searchGrounding
        geminiKey := if provider = .gemini then some key else none
        openaiKey := if provider = .openai then some key else none }

def searchLine (on : Bool) : String := "Google Search Grounding: " ++ if on then "enabled" else "disabled"

def startLines (host port repoPath model : String) : List String :=
  ["Starting Yellhorn MCP server at http://" ++ host ++ ":" ++ port, "Repository path: " ++ repoPath,
   "Using model: " ++ model]

def Started.lines (s : Started) : List String :=
  startLines "127.0.0.1" "8000" s.repoPath s.model ++ [searchLine s.searchGrounding]

end IssuePlanner.Server
