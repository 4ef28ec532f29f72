import IssuePlanner.Model.Usage
import IssuePlanner.Tokens.Counter

/-! What a manager of model calls knows: its clients, its settings, and what the last call left behind. -/

namespace IssuePlanner.Model

structure Settings where
  safetyMargin : Int := Tokens.standardMargin
  overlapRatio : Datum.Numeric := 0.1
  chunking : Datum := .text "sentences"

structure Manager where
  hasOpenai : Bool := true
  hasGemini : Bool := true
  settings : Settings := {}
  counter : Tokens.Counter := {}
  lastUsage : Option Usage := none
  /-- The last answer of a Gemini model. -/
  lastReply : Option Datum := none

def Settings.ofEntries (es : List (String × Datum)) : Settings :=
  { safetyMargin := Tokens.wholeOr Tokens.standardMargin (Entries.get? "safety_margin_tokens" es)
    overlapRatio := ((Entries.get? "overlap_ratio" es).bind Datum.numeric?).getD 0.1
    chunking := (Entries.get? "chunk_strategy" es).getD (.text "sentences") }

def Manager.ofSettings (hasOpenai hasGemini : Bool) (es : List (String × Datum)) : Manager :=
  { hasOpenai, hasGemini, settings := .ofEntries es, counter := { config := .ofEntries es } }

def isOpenai (model : String) : Bool := ["gpt-", "o3", "o4-"].any (Text.begins model)

def isGemini (model : String) : Bool := ["gemini-", "mock-"].any (Text.begins model)

def isDeepResearch (model : String) : Bool := ["o3", "o4-"].any (Text.begins model)

end IssuePlanner.Model
