import IssuePlanner.Data.Reader
import IssuePlanner.Data.Written
import IssuePlanner.Number.Scaled
import IssuePlanner.Text.Utf8

/-! Everything that can go wrong, by cause. `Failure.message` gives the wording of each cause and
`Failure.kind` the class under which it is reported. A failure that ends a larger piece of work is wrapped
in the `Stage` that it ended. -/

namespace IssuePlanner

inductive Stage where
  | updateIssue
  | readIssueBody
  | fetchPullDiff
  | createSubissue
  | postReview
  | readCreatedIssue
  | readResource
  | generateDiff
  | judge
  | writeContextFile
  | curate
  | createWorkplanTool
  | getWorkplanTool
  | reviseWorkplanTool
  | curateContextTool
  | judgeWorkplanTool
  deriving DecidableEq, Repr

def Stage.wording : Stage → String
  | updateIssue => "Failed to update GitHub issue"
  | readIssueBody => "Failed to parse GitHub issue body"
  | fetchPullDiff => "Failed to fetch GitHub PR diff"
  | createSubissue => "Failed to create GitHub sub-issue"
  | postReview => "Failed to post GitHub PR review"
  | readCreatedIssue => "Failed to parse issue creation result"
  | readResource => "Failed to get resource"
  | generateDiff => "Failed to generate git diff"
  | judge => "Error processing judgement"
  | writeContextFile => "Failed to write .yellhorncontext file"
  | curate => "Failed to generate .yellhorncontext file"
  | createWorkplanTool => "Failed to create workplan"
  | getWorkplanTool => "Failed to retrieve workplan"
  | reviseWorkplanTool => "Failed to revise workplan"
  | curateContextTool => "Failed to curate context"
  | judgeWorkplanTool => "Failed to create judgement"

structure ProviderError where
  kind : String
  message : String
  code : Datum := .null

def ProviderError.numbered : List (String × Int) :=
  [("ResourceExhausted", 429), ("TooManyRequests", 429), ("InternalServerError", 500)]

def ProviderError.text (e : ProviderError) : String :=
  match ProviderError.numbered.find? (·.1 == e.kind) with
  | some (_, code) => Number.intText code ++ " " ++ e.message
  | none => if e.kind == "KeyError" then Text.quoted e.message else e.message

inductive ShapeFault where
  | missingKey (key : Datum)
  | missingAttribute (kind name : String)
  | indexRange (kind : String)
  | notSubscriptable (kind : String)
  /-- A list or a text was indexed with something other than a number. -/
  | badIndex (kind indexKind : String)
  | notIterable (kind : String)
  | noLength (kind : String)
  | badOperands (op left right : String)
  | notText (kind : String)
  | notJsonText (kind : String)
  | unhashable (kind : String)
  | badSliceIndex

def ShapeFault.kind : ShapeFault → String
  | missingKey _ => "KeyError"
  | missingAttribute .. => "AttributeError"
  | indexRange _ => "IndexError"
  | _ => "TypeError"

def ShapeFault.message : ShapeFault → String
  | missingKey key => key.inner
  | missingAttribute kind name => "'" ++ kind ++ "' object has no attribute '" ++ name ++ "'"
  | indexRange kind => (if kind == "str" then "string" else kind) ++ " index out of range"
  | notSubscriptable kind => "'" ++ kind ++ "' object is not subscriptable"
  | badIndex kind indexKind =>
    if kind == "str" then "string indices must be integers, not '" ++ indexKind ++ "'"
    else "list indices must be integers or slices, not " ++ indexKind
  | notIterable kind => "'" ++ kind ++ "' object is not iterable"
  | noLength kind => "object of type '" ++ kind ++ "' has no len()"
  | badOperands op left right =>
    "unsupported operand type(s) for " ++ op ++ ": '" ++ left ++ "' and '" ++ right ++ "'"
  | notText kind => "expected string or bytes-like object, got '" ++ kind ++ "'"
  | notJsonText kind => "the JSON object must be str, bytes or bytearray, not " ++ kind
  | unhashable kind => "unhashable type: '" ++ kind ++ "'"
  | badSliceIndex => "slice indices must be integers or None or have an __index__ method"

/-- Why the system does not open a file, or does not tell what a path names. -/
inductive FileFault where
  | missing
  | isDirectory
  | notDirectory
  | nameTooLong
  /-- Any other answer of the system, such as a refused permission. -/
  | system (kind : String) (number : Nat) (wording : String)
  deriving DecidableEq, Repr

def FileFault.kind : FileFault → String
  | missing => "FileNotFoundError"
  | isDirectory => "IsADirectoryError"
  | notDirectory => "NotADirectoryError"
  | nameTooLong => "OSError"
  | system kind .. => kind

def FileFault.message : FileFault → String
  | missing => "[Errno 2] No such file or directory"
  | isDirectory => "[Errno 21] Is a directory"
  | notDirectory => "[Errno 20] Not a directory"
  | nameTooLong => "[Errno 36] File name too long"
  | system _ number wording => "[Errno " ++ Number.natText number ++ "] " ++ wording

inductive InterpreterFault where
  | outOfMemory
  | tooDeep (wording : String)
  deriving DecidableEq, Repr

def InterpreterFault.kind : InterpreterFault → String
  | outOfMemory => "MemoryError"
  | tooDeep _ => "RecursionError"

def InterpreterFault.message : InterpreterFault → String
  | outOfMemory => ""
  | tooDeep wording => wording

inductive Provider where
  | openai
  | gemini
  deriving DecidableEq, Repr

def Provider.name : Provider → String
  | openai => "OpenAI"
  | gemini => "Gemini"

inductive Failure where
  -- programs
  | gitFailed (stderr : String)
  | gitMissing
  | issueToolFailed (stderr : String)
  | issueToolMissing
  | programMissing (name : String)
  -- issues
  | nothingToUpdate
  | invalidIssueUrl (url : String)
  | invalidPullUrl (url : String)
  | noIssueUrl (answer : String)
  | unexpectedIssueUrl (url : String)
  | noIssueNumber (url : String)
  | unsupportedResource (kind : String)
  -- jobs and tools
  | noWorkplan (issue : String)
  | pullUrlGiven
  | managerMissing
  | emptyJudgement (provider : Provider)
  | missingArgument (function argument : String)
  -- models
  | unknownModel (model : String)
  | clientMissing (provider : Provider)
  | clientUnusable
  | configClassMissing
  | unknownEncoding (name : String)
  | provider (e : ProviderError)
  | divisionTooLarge
  | product (fault : Number.ProductFault)
  /-- Times of clocks of which only one has a known offset. -/
  | clocksDiffer
  -- data and files
  | shape (fault : ShapeFault)
  | unreadableData (fault : Data.Fault)
  | unreadableText (fault : Text.Utf8.Fault)
  | file (fault : FileFault) (path : String)
  | interpreter (fault : InterpreterFault)
  /-- The fields of a record do not hold what they should. -/
  | invalidRecord (wording : String)
  -- start-up
  | keyRequired (provider : Provider)
  | notARepository (path : String)
  | during (stage : Stage) (cause : Failure)

namespace Failure

def productMessage : Number.ProductFault → String
  | .factorTooLarge => "int too large to convert to float"
  | .infinite => "cannot convert float infinity to integer"
  | .notANumber => "cannot convert float NaN to integer"

def utf8Message (f : Text.Utf8.Fault) : String :=
  let place := if f.length ≤ 1 then
      "byte 0x" ++ String.ofList (Text.hexDigits 2 f.byte.toNat) ++ " in position "
        ++ Number.natText f.position
    else "bytes in position " ++ Number.natText f.position ++ "-"
      ++ Number.natText (f.position + f.length - 1)
  let reason := match f.reason with
    | .badStart => "invalid start byte"
    | .badContinuation => "invalid continuation byte"
    | .endOfData => "unexpected end of data"
  "'utf-8' codec can't decode " ++ place ++ ": " ++ reason

def message : Failure → String
  | gitFailed stderr => "Git command failed: " ++ stderr
  | gitMissing => "Git executable not found. Please ensure Git is installed."
  | issueToolFailed stderr => "GitHub CLI command failed: " ++ stderr
  | issueToolMissing => "GitHub CLI not found. Please ensure GitHub CLI is installed."
  | programMissing name => name
  | nothingToUpdate => "At least one of title or body must be provided"
  | invalidIssueUrl url => "Invalid GitHub issue URL: " ++ url
  | invalidPullUrl url => "Invalid GitHub PR URL: " ++ url
  | noIssueUrl answer => "Failed to extract issue URL from result: " ++ answer
  | unexpectedIssueUrl url => "Unexpected issue URL format: " ++ url
  | noIssueNumber url => "Could not parse issue number from URL: " ++ url
  | unsupportedResource kind => "Unsupported resource type: " ++ kind
  | noWorkplan issue => "Could not retrieve workplan for issue #" ++ issue
  | pullUrlGiven =>
    "PR URL detected. Please provide the workplan issue number instead of PR URL. "
      ++ "You can find the workplan issue number in the PR description."
  | managerMissing => "LLM Manager not initialized"
  | emptyJudgement p =>
    "Failed to generate judgement: Received an empty response from " ++ p.name ++ " API."
  | missingArgument function argument =>
    function ++ "() missing 1 required positional argument: '" ++ argument ++ "'"
  | unknownModel model => "Unknown model type: " ++ model
  | clientMissing .openai => "OpenAI client not initialized"
  | clientMissing .gemini => "Gemini client not configured"
  | clientUnusable =>
    "Client does not support aio.models.generate_content. "
      ++ "Please ensure you're using a valid Gemini client."
  | configClassMissing =>
    "cannot access local variable 'GenerateContentConfig' where it is not associated with a value"
  | unknownEncoding name => "Unknown encoding " ++ name
  | provider e => e.text
  | divisionTooLarge => "integer division result too large for a float"
  | product fault => productMessage fault
  | clocksDiffer => "can't subtract offset-naive and offset-aware datetimes"
  | shape fault => fault.message
  | unreadableData fault => fault.message
  | unreadableText fault => utf8Message fault
  | file fault path => fault.message ++ ": " ++ Text.quoted path
  | interpreter fault => fault.message
  | invalidRecord wording => wording
  | keyRequired .openai => "OPENAI_API_KEY is required for OpenAI models"
  | keyRequired .gemini => "GEMINI_API_KEY is required for Gemini models"
  | notARepository path => "Path " ++ path ++ " is not a Git repository"
  | during stage cause => stage.wording ++ ": " ++ cause.message

def kind : Failure → String
  | programMissing _ => "FileNotFoundError"
  | unsupportedResource _ | unknownModel _ | clientMissing _ | unknownEncoding _ | keyRequired _
  | notARepository _ => "ValueError"
  | missingArgument .. | clocksDiffer => "TypeError"
  | configClassMissing => "UnboundLocalError"
  | provider e => e.kind
  | divisionTooLarge | product .factorTooLarge | product .infinite => "OverflowError"
  | product .notANumber => "ValueError"
  | shape fault => fault.kind
  | unreadableData fault => if fault.isSyntactic then "JSONDecodeError" else "ValueError"
  | unreadableText _ => "UnicodeDecodeError"
  | file fault _ => fault.kind
  | interpreter fault => fault.kind
  | invalidRecord _ => "ValidationError"
  | during .readResource _ => "ValueError"
  | _ => "YellhornMCPError"

end Failure

end IssuePlanner
