import IssuePlanner.Chunk.Paragraphs
import IssuePlanner.Model.Merge
import IssuePlanner.Model.Reply
import IssuePlanner.Model.Request
import IssuePlanner.Model.Retry

/-! Calling a model. A prompt that does not fit is cut into chunks; every chunk is sent on its own, and the
answers are merged. -/

namespace IssuePlanner.Model

open IssuePlanner.Action

def theManager : Action Manager := do return (← get).manager.getD {}

def setManager (m : Manager) : Action Unit := modify fun s => { s with manager := some m }

def changeManager (f : Manager → Manager) : Action Unit := do setManager (f (← theManager))

def setUsage (u : Option Usage) : Action Unit := changeManager fun m => { m with lastUsage := u }

def counting {α : Type} (f : Tokens.Counter → Except Failure (α × Tokens.Counter)) : Action α := do
  let m ← theManager
  let (a, counter) ← ofExcept (f m.counter)
  setManager { m with counter }
  return a

def send (provider : Provider) (params : List (String × Datum)) : Action Datum := do
  record (.request provider params)
  let s ← get
  match s.replies with
  | [] => throw (.provider { kind := "RuntimeError", message := "no scripted reply" })
  | reply :: rest =>
    set { s with replies := rest }
    match reply with
    | .answer d => return d
    | .refusal e => throw (.provider e)

def reportingFailure {α : Type} (provider : Provider) (act : Action α) : Action α :=
  tryCatch act fun e => do
    record (.note "error" (provider.name ++ " API call failed: " ++ e.message))
    throw e

def exchangeOpenai (r : Request) : Action Datum := do
  let reply ← send .openai r.openaiParams
  let content ← ofExcept (Reply.openaiText reply)
  if let some u := Reply.usage? "usage" reply then setUsage (some u)
  if r.wantsData then ofExcept (Reply.openaiData content) else return content

def exchangeGemini (r : Request) : Action Datum := do
  let reply ← send .gemini r.geminiParams
  if let some u := Reply.usage? "usage_metadata" reply then setUsage (some u)
  changeManager fun m => { m with lastReply := some reply }
  let content := Reply.geminiText reply
  if r.wantsData then ofExcept (Reply.geminiData content) else return content

def attemptOpenai (r : Request) : Action Datum := do
  if !(← theManager).hasOpenai then throw (.clientMissing .openai)
  if isDeepResearch r.model then
    record (.note "info" ("Enabling Deep Research tools for model " ++ r.model))
  reportingFailure .openai (exchangeOpenai r)

def attemptGemini (r : Request) : Action Datum := do
  if !(← theManager).hasGemini then throw (.clientMissing .gemini)
  if (← get).faults.configClassMissing then throw .configClassMissing
  reportingFailure .gemini (exchangeGemini r)

def callOnce (r : Request) : Action Datum :=
  if isOpenai r.model then Retry.retrying "_call_openai" (attemptOpenai r)
  else if isGemini r.model then Retry.retrying "_call_gemini" (attemptGemini r)
  else throw (.unknownModel r.model)

/-- The way of cutting that a setting names; everything but one name means sentences. -/
def Settings.strategy (s : Settings) : Chunk.Strategy :=
  if s.chunking.isText "paragraphs" then .paragraphs else .sentences

def chunksOf (prompt model : String) (maxTokens : Int) : Action (List String) := do
  let s := (← theManager).settings
  counting fun c => Chunk.split s.strategy { maxTokens, overlapRatio := s.overlapRatio } c model prompt

/-- The prompt of the chunk of number `i`, counted from zero, out of `n`. -/
def chunkPrompt (i n : Nat) (chunk : String) : String :=
  if n ≤ 1 then chunk
  else (if i = 0 then "" else "[Continuing from previous chunk...]\n\n")
    ++ "[Chunk " ++ Number.natText (i + 1) ++ "/" ++ Number.natText n ++ "]\n\n" ++ chunk

/-- Sends the chunks from number `i` on; gives the answers and the sum of usages. -/
def callChunks (r : Request) (n : Nat) : (i : Nat) → Usage → List String → Action (List Datum × Usage)
  | _, sum, [] => return ([], sum)
  | i, sum, chunk :: rest => do
    let answer ← callOnce { r with prompt := chunkPrompt i n chunk }
    let sum ← match (← theManager).lastUsage with
      | some u => if u.isPresent then ofExcept (sum.add u) else pure sum
      | none => pure sum
    let (answers, sum) ← callChunks r n (i + 1) sum rest
    return (answer :: answers, sum)

def sendChunks (r : Request) (chunks : List String) : Action Datum := do
  record (.note "info" ("Split prompt into " ++ Number.natText chunks.length ++ " chunks for model "
    ++ r.model))
  let (answers, sum) ← callChunks r chunks.length 0 {} chunks
  setUsage (some sum)
  return mergeAnswers r.wantsData answers

def callInChunks (r : Request) : Action Datum := do
  let limit := (← theManager).counter.limit r.model
  let system ← counting fun c => c.count r.model r.systemText.toList
  let available := limit - system - (← theManager).settings.safetyMargin
  sendChunks r (← chunksOf r.prompt r.model available)

def call (r : Request) : Action Datum := do
  let margin := (← theManager).settings.safetyMargin
  let fits ← counting fun c => c.fits r.model r.prompt.toList margin
  if fits then callOnce r else callInChunks r

structure Answer where
  content : Datum
  usage : Usage
  grounding : Option Datum := none

/-- The usage of the last call, or zeros if there is nothing to report. -/
def reportedUsage : Action Usage := do
  match (← theManager).lastUsage with
  | some u => return if u.isPresent then u else {}
  | none => return {}

def callWithUsage (r : Request) : Action Answer := do
  setUsage none
  let content ← call r
  return { content, usage := ← reportedUsage }

def callWithCitations (r : Request) : Action Answer := do
  changeManager fun m => { m with lastReply := none, lastUsage := none }
  let content ← call r
  let usage ← reportedUsage
  let m ← theManager
  let reply := if isGemini r.model then m.lastReply else none
  match reply.filter Datum.holds with
  | some reply => return { content, usage, grounding := ← ofExcept (Reply.grounding? reply) }
  | none => return { content, usage }

/-! ### Search tools, and plain requests to a Gemini client -/

def searchTools? (faults : LibraryFaults) (model : String) : Option Datum :=
  if !Text.begins model "gemini-" || faults.toolFails then none
  else
    let name := if Text.contains model "1.5" then "google_search_retrieval" else "google_search"
    some (.list [.dict [(name, .dict [])]])

def lacksAttribute : Failure → Bool
  | .provider e => e.kind == "AttributeError"
  | .shape (.missingAttribute ..) => true
  | _ => false

def generate (usable : Bool) (model prompt : String) (config : Option Datum) : Action Datum := do
  if !usable then throw .clientUnusable
  let config := (config.map fun c => [("config", c)]).getD []
  tryCatch (send .gemini ([("model", .text model), ("contents", .text prompt)] ++ config)) fun e =>
    if lacksAttribute e then throw .clientUnusable else throw e

end IssuePlanner.Model
