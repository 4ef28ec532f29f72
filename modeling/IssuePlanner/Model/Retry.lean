import IssuePlanner.Data.Arithmetic
import IssuePlanner.Session.Basic
import IssuePlanner.Text.Search

/-! Trying again. A call that fails because too much was asked of a provider, or because the line broke, is
repeated after a pause, five times in all. -/

namespace IssuePlanner

def ProviderError.transientKinds : List String :=
  ["RateLimitError", "ResourceExhausted", "TooManyRequests", "ConnectionError", "ConnectionResetError",
   "ConnectionRefusedError", "ConnectionAbortedError", "BrokenPipeError", "TimeoutError"]

def mentions (terms : List String) (s : String) : Bool :=
  let cs := s.toList.map Char.toLower
  terms.any fun t => Text.occurs t.toList cs

def ProviderError.carriedCode? (e : ProviderError) : Option Datum :=
  match ProviderError.numbered.find? (·.1 == e.kind) with
  | some (_, code) => some (.int code)
  | none => if e.kind == "ClientError" then some e.code else none

namespace Failure

/-- Whether the provider says by code or message that too much was asked of it. -/
def isRefusal : Failure → Bool
  | provider e =>
    match e.carriedCode? with
    | some code => code.isInt 429 || mentions ["resource_exhausted", "quota"] e.message
    | none => false
  | _ => false

def isTransient : Failure → Bool
  | provider e => ProviderError.transientKinds.contains e.kind
  | _ => false

def isRetryable (f : Failure) : Bool :=
  f.isRefusal || f.isTransient
    || mentions ["resource_exhausted", "quota", "rate limit", "too many requests"] f.message

end Failure

namespace Retry

def maxAttempts : Nat := 5

/-- Seconds to wait after an attempt: powers of two, at least 4 and at most 60. -/
def pause (attempt : Nat) : Nat := max 4 (min (1 <<< (attempt - 1)) 60)

/-- The warning about a failed attempt; `waited` is the number of seconds it names. -/
def warning (name waited : String) (attempt : Nat) (f : Failure) : String :=
  "Retrying " ++ name ++ " after " ++ waited ++ " seconds (attempt " ++ Number.natText attempt ++ "): "
    ++ f.message

/-- Runs an action up to `left` more times after the attempt of this number. -/
def attempts {α : Type} (name : String) (act : Action α) (attempt : Nat) : (left : Nat) → Action α
  | 0 => act
  | left + 1 => tryCatch act fun f =>
    if f.isRetryable then do
      Action.record (.note "warning" (warning name "T" attempt f))
      Action.record (.pause (pause attempt))
      attempts name act (attempt + 1) left
    else throw f

def retrying {α : Type} (name : String) (act : Action α) : Action α := attempts name act 1 (maxAttempts - 1)

end Retry

end IssuePlanner
