import IssuePlanner.Cost
import IssuePlanner.Metadata
import IssuePlanner.Text.Pick

/-! The comments that are left on an issue when a request is taken on and when it is done, and the
addresses that a text mentions. -/

namespace IssuePlanner.Comment

open Metadata

def submission (m : Submission) : String :=
  let urls := match m.urls with
    | some (u :: us) => ["", "**Referenced URLs**:"] ++ (u :: us).map ("- " ++ ·)
    | _ => []
  Text.unlines
    (["## 🚀 " ++ m.status, "", "**Model**: `" ++ m.model ++ "`  ",
      "**Search Grounding**: " ++ (if m.searchGrounding then "✅ Enabled" else "❌ Disabled") ++ "  ",
      "**Codebase Reasoning**: `" ++ m.reasoning ++ "`  ",
      "**Yellhorn Version**: `" ++ m.version ++ "`  ",
      "**Submitted**: " ++ m.timestamp.commentText ++ "  "]
    ++ urls ++ ["", "---", "_This issue will be updated once generation is complete._"])

def filled (s : Option String) : Option String := s.filter (· ≠ "")

def codeLine (title : String) (s : Option String) : List String :=
  (s.map fun s => "**" ++ title ++ "**: `" ++ s ++ "`  ").toList

def countLine (title unit : String) (n : Option Int) : List String :=
  (n.map fun n => "**" ++ title ++ "**: " ++ Number.groupedInt n ++ unit ++ "  ").toList

def Completion.hasUsage (m : Completion) : Bool :=
  [m.inputTokens, m.outputTokens, m.totalTokens].any (fun n => (n.getD 0) ≠ 0)
    || m.estimatedCost.any fun x => !(x == 0)

def usageLines (m : Completion) : List String :=
  if Completion.hasUsage m then
    ["", "### Token Usage"] ++ countLine "Input Tokens" "" m.inputTokens
      ++ countLine "Output Tokens" "" m.outputTokens ++ countLine "Total Tokens" "" m.totalTokens
      ++ (m.estimatedCost.map fun x => "**Estimated Cost**: " ++ Cost.dollars x ++ "  ").toList
  else []

def ratingText (name : String) (rating : List (String × Datum)) : String :=
  ((Entries.get? name rating).map Datum.display).getD "Unknown"

def ratingLines (m : Completion) : List String :=
  match m.safetyRatings with
  | some (r :: rs) => ["", "### Safety Ratings"] ++ (r :: rs).map fun r =>
      "- **" ++ ratingText "category" r ++ "**: " ++ ratingText "probability" r
  | _ => []

def warningLines (m : Completion) : List String :=
  match m.warnings with
  | some (w :: ws) => ["", "### ⚠️ Warnings"] ++ (w :: ws).map ("- " ++ ·)
  | _ => []

def completion (m : Completion) : String :=
  let time := (m.timestamp.map Timestamp.commentText).getD "N/A"
  Text.unlines
    (["## " ++ m.status, "", "### Generation Details",
      "**Time**: " ++ Number.fixedText 1 m.seconds ++ " seconds  ", "**Completed**: " ++ time ++ "  "]
    ++ codeLine "Model Used" (filled ((filled m.modelVersion).or (some m.model)))
    ++ codeLine "System Fingerprint" (filled m.fingerprint)
    ++ usageLines m
    ++ (m.searchResults.map fun n => ["", "**Search Results Used**: " ++ Number.intText n ++ "  "]).getD []
    ++ countLine "Context Size" " characters" m.contextSize
    ++ codeLine "Finish Reason" (filled m.finishReason)
    ++ ratingLines m ++ warningLines m)

/-! ### Addresses in a text -/

def isAddressChar (c : Char) : Bool := !Text.isBlank c && !(['(', ')', '<', '>'].contains c)

def address? (_ : Bool) (cs : List Char) : Option (String × List Char) := do
  let (scheme, rest) ← match Text.after? "https://".toList cs with
    | some rest => some ("https://", rest)
    | none => (Text.after? "http://".toList cs).map fun rest => ("http://", rest)
  let body := rest.takeWhile isAddressChar
  guard !body.isEmpty
  return (scheme ++ String.ofList body, rest.dropWhile isAddressChar)

/-- The addresses in a text, each once, in the order of their first mention. -/
def urls (text : String) : List String := (Text.findAll address? text.toList).eraseDups

end IssuePlanner.Comment
