import IssuePlanner.Clock.Timestamp
import IssuePlanner.Data.Arithmetic

/-! What is recorded about a request when it is taken on and when it is done. A schema lists the fields of a
record with their kinds. Data are read by a schema and a checker (`Validator`); reading fails with the names of
the required fields that are missing and of those whose values the checker refuses. -/

namespace IssuePlanner.Metadata

structure Submission where
  status : String
  model : String
  searchGrounding : Bool
  version : String
  urls : Option (List String) := none
  reasoning : String
  timestamp : Timestamp

structure Completion where
  model : String
  status : String
  seconds : Float
  inputTokens : Option Int := none
  outputTokens : Option Int := none
  totalTokens : Option Int := none
  estimatedCost : Option Float := none
  modelVersion : Option String := none
  fingerprint : Option String := none
  searchResults : Option Int := none
  finishReason : Option String := none
  safetyRatings : Option (List (List (String × Datum))) := none
  contextSize : Option Int := none
  warnings : Option (List String) := none
  timestamp : Option Timestamp := none

/-! ### Schemas -/

inductive FieldKind where
  | text
  | flag
  | count
  | number
  | time
  | texts
  | dicts
  deriving DecidableEq, Repr

namespace FieldKind

abbrev Value : FieldKind → Type
  | text => String
  | flag => Bool
  | count => Int
  | number => Float
  | time => Timestamp
  | texts => List String
  | dicts => List (List (String × Datum))

def toDatum : (k : FieldKind) → k.Value → Datum
  | text, s => .text s
  | flag, b => .bool b
  | count, i => .int i
  | number, x => .float x
  | time, t => .text t.isoText
  | texts, xs => .list (xs.map .text)
  | dicts, xs => .list (xs.map .dict)

def text? : Datum → Option String
  | .text s => some s
  | _ => none

def dict? : Datum → Option (List (String × Datum))
  | .dict es => some es
  | _ => none

def asIs? : (k : FieldKind) → Datum → Option k.Value
  | text, d => text? d
  | flag, .bool b => some b
  | count, .int i => some i
  | number, .float x => some x
  | time, .text s => Timestamp.parse? s
  | texts, .list xs => xs.mapM text?
  | dicts, .list xs => xs.mapM dict?
  | _, _ => none

end FieldKind

/-- How the fields of records are checked. What is of the right kind is taken as it is, and a flag counts as one or
zero. Which other values are converted, and the words for those that are refused, are up to the checker. -/
structure Validator where
  read : (k : FieldKind) → Datum → Option k.Value
  /-- The words for a record that is refused because of some fields. -/
  wording : List String → String
  read_of_asIs? : ∀ {k d v}, k.asIs? d = some v → read k d = some v
  read_flag : ∀ b, read .count (.bool b) = some (if b then 1 else 0)

/-- The values that need no or an obvious conversion: a flag or a whole number may stand for a number. -/
def FieldKind.plain? : (k : FieldKind) → Datum → Option k.Value
  | count, .bool b => some (if b then 1 else 0)
  | number, d => d.numeric?.map (·.toFloat)
  | k, d => k.asIs? d

def Validator.strict : Validator where
  read := FieldKind.plain?
  wording names := "invalid fields: " ++ Text.join ", " names
  read_of_asIs? := by
    intro k d v h
    cases k with
    | count =>
      cases d with
      | bool b => cases h
      | _ => exact h
    | number =>
      cases d with
      | float x => exact h
      | _ => cases h
    | _ => exact h
  read_flag _ := rfl

structure Field where
  name : String
  kind : FieldKind
  isRequired : Bool := false

def required (name : String) (kind : FieldKind) : Field := { name, kind, isRequired := true }

def optional (name : String) (kind : FieldKind) : Field := { name, kind }

def usageSchema : List Field :=
  [required "prompt_tokens" .count, required "completion_tokens" .count, required "total_tokens" .count,
   required "model_name" .text]

def submissionSchema : List Field :=
  [required "status" .text, required "model_name" .text, required "search_grounding_enabled" .flag,
   required "yellhorn_version" .text, optional "submitted_urls" .texts,
   required "codebase_reasoning_mode" .text, required "timestamp" .time]

def completionFields : List Field :=
  [required "status" .text, required "generation_time_seconds" .number, optional "input_tokens" .count,
   optional "output_tokens" .count, optional "total_tokens" .count, optional "estimated_cost" .number,
   optional "model_version_used" .text, optional "system_fingerprint" .text,
   optional "search_results_used" .count, optional "finish_reason" .text, optional "safety_ratings" .dicts,
   optional "context_size_chars" .count, optional "warnings" .texts]

def completionSchema : List Field :=
  required "model_name" .text :: completionFields ++ [optional "timestamp" .time]

/-- The schema of completions that do not tell their model, but always their time. -/
def timedCompletionSchema : List Field := completionFields ++ [required "timestamp" .time]

/-! ### Records from data -/

namespace Validator

variable (v : Validator) (data : List (String × Datum))

/-- What is given for a field; null is nothing. -/
def given? (name : String) : Option Datum := (Entries.get? name data).filter fun d => !d.isNull

def value? (kind : FieldKind) (name : String) : Option kind.Value := (given? data name).bind (v.read kind)

def accepts (f : Field) : Bool :=
  match given? data f.name with
  | some d => (v.read f.kind d).isSome
  | none => !f.isRequired

def faults (schema : List Field) : List String := (schema.filter fun f => !v.accepts data f).map (·.name)

def shown (f : Field) : Datum := ((v.value? data f.kind f.name).map f.kind.toDatum).getD .null

def fields (schema : List Field) : Except (List String) (List (String × Datum)) :=
  match v.faults data schema with
  | [] => .ok (schema.map fun f => (f.name, v.shown data f))
  | names => .error names

end Validator

def Submission.ofData (v : Validator) (data : List (String × Datum)) : Except (List String) Submission :=
  match v.faults data submissionSchema with
  | [] => .ok
    { status := (v.value? data .text "status").getD ""
      model := (v.value? data .text "model_name").getD ""
      searchGrounding := (v.value? data .flag "search_grounding_enabled").getD false
      version := (v.value? data .text "yellhorn_version").getD ""
      urls := v.value? data .texts "submitted_urls"
      reasoning := (v.value? data .text "codebase_reasoning_mode").getD ""
      timestamp := (v.value? data .time "timestamp").getD ⟨0, none⟩ }
  | names => .error names

def Completion.ofData (v : Validator) (data : List (String × Datum)) : Except (List String) Completion :=
  match v.faults data completionSchema with
  | [] => .ok
    { model := (v.value? data .text "model_name").getD ""
      status := (v.value? data .text "status").getD ""
      seconds := (v.value? data .number "generation_time_seconds").getD 0
      inputTokens := v.value? data .count "input_tokens"
      outputTokens := v.value? data .count "output_tokens"
      totalTokens := v.value? data .count "total_tokens"
      estimatedCost := v.value? data .number "estimated_cost"
      modelVersion := v.value? data .text "model_version_used"
      fingerprint := v.value? data .text "system_fingerprint"
      searchResults := v.value? data .count "search_results_used"
      finishReason := v.value? data .text "finish_reason"
      safetyRatings := v.value? data .dicts "safety_ratings"
      contextSize := v.value? data .count "context_size_chars"
      warnings := v.value? data .texts "warnings"
      timestamp := v.value? data .time "timestamp" }
  | names => .error names

end IssuePlanner.Metadata
