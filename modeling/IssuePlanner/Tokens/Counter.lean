import IssuePlanner.Data.Basic
import IssuePlanner.Failure
import IssuePlanner.Text.Search
import IssuePlanner.Tokens.Encoding

/-! Counting tokens for a model. A table of models answers for a name that it lists, and otherwise by its
first key that occurs inside the name. Encodings come from a library, which gives one for a name or fails;
those that have been looked up are remembered by the name under which they were asked for. -/

namespace IssuePlanner.Tokens

def matchingKey? {α : Type} (model : String) (table : List (String × α)) : Option String :=
  if (Entries.get? model table).isSome then some model
  else (table.find? fun e => Text.contains model e.1).map (·.1)

/-- The entry that answers for a model; an empty key never answers. -/
def lookUp? {α : Type} (model : String) (table : List (String × α)) : Option α :=
  match matchingKey? model table with
  | some "" => none
  | some key => Entries.get? key table
  | none => none

def standardLimits : List (String × Int) :=
  [("gpt-4o", 128000), ("gpt-4o-mini", 128000), ("o4-mini", 200000), ("o3", 200000),
   ("gpt-4.1", 1000000), ("gemini-2.0-flash-exp", 1048576), ("gemini-1.5-flash", 1048576),
   ("gemini-1.5-pro", 2097152), ("gemini-2.5-pro", 1048576), ("gemini-2.5-flash", 1048576)]

/-- Names of encodings; a name may be missing. -/
def standardEncodings : List (String × Option String) :=
  [("gpt-4o", "o200k_base"), ("gpt-4o-mini", "o200k_base"), ("o4-mini", "o200k_base"),
   ("o3", "o200k_base"), ("gpt-4.1", "o200k_base"), ("gemini-2.0-flash-exp", "cl100k_base"),
   ("gemini-1.5-flash", "cl100k_base"), ("gemini-1.5-pro", "cl100k_base"),
   ("gemini-2.5-pro", "cl100k_base"), ("gemini-2.5-flash", "cl100k_base")]

structure Config where
  limits : List (String × Int) := []
  encodings : List (String × Option String) := []
  defaultEncoding : Option String := some "cl100k_base"
  defaultLimit : Int := 128000

/-- A dictionary of settings; anything else counts as empty. -/
def settingsOf (d : Option Datum) : List (String × Datum) :=
  match d with
  | some (.dict es) => es
  | _ => []

def wholeOr (default : Int) : Option Datum → Int
  | some (.int i) => i
  | _ => default

def text? : Datum → Option String
  | .text s => some s
  | _ => none

def Config.ofEntries (es : List (String × Datum)) : Config :=
  { limits := (settingsOf (Entries.get? "model_limits" es)).map fun (k, v) => (k, wholeOr 0 (some v))
    encodings := (settingsOf (Entries.get? "model_encodings" es)).map fun (k, v) => (k, text? v)
    defaultEncoding := ((Entries.get? "default_encoding" es).map text?).getD (some "cl100k_base")
    defaultLimit := wholeOr 128000 (Entries.get? "default_token_limit" es) }

/-- Tokens that are kept free beside a prompt and its answer, unless something else is asked for. -/
def standardMargin : Int := 1000

structure Library (ε : Type) where
  named : Option String → Except Failure ε
  count : ε → List Char → Nat

structure Counter (ε : Type := Encoding) where
  config : Config := {}
  /-- The encodings looked up so far, by the name that was asked for. -/
  cache : List (Option String × ε) := []

namespace Counter

variable {ε : Type}

def usable (name : Option String) : Option String :=
  match name with
  | some "" => none
  | name => name

/-- The name of a model's encoding: from the configuration, else from the standard table, else the
default. -/
def encodingName (c : Counter ε) (model : String) : Option String :=
  match usable ((lookUp? model c.config.encodings).getD none) with
  | some name => some name
  | none =>
    match usable ((lookUp? model (Entries.putAll standardEncodings c.config.encodings)).getD none) with
    | some name => some name
    | none => c.config.defaultEncoding

def limit (c : Counter ε) (model : String) : Int :=
  match lookUp? model c.config.limits with
  | some n => n
  | none =>
    match lookUp? model (Entries.putAll standardLimits c.config.limits) with
    | some n => n
    | none => c.config.defaultLimit

/-- The tokens to expect in an answer: a fifth of the prompt's, at least 500 and at most 4096. -/
def expectedAnswer (promptTokens : Nat) : Nat := max 500 (min (promptTokens / 5) 4096)

def named (name : Option String) : Except Failure Encoding :=
  match name.bind Encoding.ofName? with
  | some e => .ok e
  | none => .error (.unknownEncoding (name.getD "None"))

end Counter

namespace Library

variable {ε : Type} (lib : Library ε)

/-- The encoding of a name, with the default in its place if it is unknown. -/
def resolve (config : Config) (name : Option String) : Except Failure ε :=
  match lib.named name with
  | .ok e => .ok e
  | .error _ => lib.named config.defaultEncoding

def encoding (c : Counter ε) (model : String) : Except Failure (ε × Counter ε) :=
  match c.cache.find? (·.1 == c.encodingName model) with
  | some (_, e) => .ok (e, c)
  | none => do
    let e ← lib.resolve c.config (c.encodingName model)
    return (e, { c with cache := c.cache ++ [(c.encodingName model, e)] })

/-- The tokens of a text. An empty text has none for any model. -/
def tokens (c : Counter ε) (model : String) (cs : List Char) : Except Failure (Nat × Counter ε) :=
  if cs.isEmpty then .ok (0, c)
  else do
    let (e, c) ← lib.encoding c model
    return (lib.count e cs, c)

def estimate (c : Counter ε) (model : String) (cs : List Char) : Except Failure (Nat × Counter ε) := do
  let (n, c) ← lib.tokens c model cs
  return (Counter.expectedAnswer n, c)

/-- The tokens that are left beside a prompt, its answer and a margin; negative if they do not fit. -/
def remaining (c : Counter ε) (model : String) (cs : List Char) (margin : Int) :
    Except Failure (Int × Counter ε) := do
  let (n, c) ← lib.tokens c model cs
  return (c.limit model - (n + Counter.expectedAnswer n + margin), c)

def fits (c : Counter ε) (model : String) (cs : List Char) (margin : Int) :
    Except Failure (Bool × Counter ε) := do
  let (n, c) ← lib.tokens c model cs
  return (decide (n + Counter.expectedAnswer n + margin ≤ c.limit model), c)

def standard : Library Encoding where
  named := Counter.named
  count := Encoding.count

end Library

namespace Counter

def encoding (c : Counter) (model : String) : Except Failure (Encoding × Counter) :=
  Library.standard.encoding c model

def count (c : Counter) (model : String) (cs : List Char) : Except Failure (Nat × Counter) :=
  Library.standard.tokens c model cs

def estimate (c : Counter) (model : String) (cs : List Char) : Except Failure (Nat × Counter) :=
  Library.standard.estimate c model cs

def remaining (c : Counter) (model : String) (cs : List Char) (margin : Int) :
    Except Failure (Int × Counter) :=
  Library.standard.remaining c model cs margin

def fits (c : Counter) (model : String) (cs : List Char) (margin : Int) :
    Except Failure (Bool × Counter) :=
  Library.standard.fits c model cs margin

end Counter

end IssuePlanner.Tokens
