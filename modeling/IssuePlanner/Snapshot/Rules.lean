import IssuePlanner.Number.Written
import IssuePlanner.Snapshot.AlwaysIgnored
import IssuePlanner.Text.Order

/-! Which of the listed files may be shown to a model. Two files of rules decide: the context file says what
to show, and where there is none the ignore file says what to hide. A line of either that starts with an
exclamation mark says the opposite of the others. `Rules.select` keeps every chosen file once. -/

namespace IssuePlanner.Snapshot

/-- The lines of a rule file, without blank ones and comments. -/
def ruleLines (text : String) : List String :=
  let lines := (Text.splitOn '\n' (Text.strip text.toList)).map Text.strip
  (lines.filter fun l => !l.isEmpty && l.head? ≠ some '#').map String.ofList

/-- A rule file: its plain lines, and those marked by an exclamation mark, without it. -/
structure RuleFile where
  plain : List String := []
  marked : List String := []
  deriving DecidableEq, Repr

def marked? (line : String) : Option String :=
  match line.toList with
  | '!' :: rest => some (String.ofList rest)
  | _ => none

def RuleFile.ofLines (lines : List String) : RuleFile :=
  { plain := lines.filter fun l => (marked? l).isNone
    marked := lines.filterMap marked? }

structure Rules where
  /-- The context file, if there is one: plain lines include, marked ones exclude. -/
  context : Option RuleFile := none
  /-- The ignore file: plain lines exclude, marked ones include. -/
  ignore : RuleFile := {}
  deriving DecidableEq, Repr

inductive Category where
  | alwaysIgnored
  /-- The context file includes files, but not this one. -/
  | notIncluded
  | contextIncluded
  | contextExcluded
  | ignoreIncluded
  | ignoreExcluded
  | other
  deriving DecidableEq, Repr

def fitsAny (path : String) (patterns : List String) : Bool := patterns.any (Path.fits path)

namespace Rules

def contextFile (r : Rules) : RuleFile := r.context.getD {}

def categorize (r : Rules) (path : String) : Category :=
  let included := fitsAny path r.contextFile.plain
  if isAlwaysIgnored path then .alwaysIgnored
  else if !r.contextFile.plain.isEmpty && !included then .notIncluded
  else if fitsAny path r.contextFile.marked then .contextExcluded
  else if included then .contextIncluded
  else if fitsAny path r.ignore.marked then .ignoreIncluded
  else if fitsAny path r.ignore.plain then .ignoreExcluded
  else .other

end Rules

structure Sorted where
  rules : Rules
  entries : List (String × Category)

namespace Sorted

def ofListing (rules : Rules) (listed : List String) : Sorted :=
  ⟨rules, (Text.sortedSet (listed.filter (· ≠ ""))).map fun p => (p, rules.categorize p)⟩

def of (s : Sorted) (c : Category) : List String := (s.entries.filter (·.2 = c)).map (·.1)

def chosen (s : Sorted) : List String :=
  if s.rules.context.isSome then s.of .contextIncluded else s.of .ignoreIncluded ++ s.of .other

def report (s : Sorted) : List String :=
  let amount := fun (c : Category) => Number.natText (s.of c).length
  let ignored := amount .alwaysIgnored
  ["File categorization results out of " ++ Number.natText s.entries.length ++ " files:"]
  ++ (if (s.of .alwaysIgnored).isEmpty then []
      else ["  - " ++ ignored ++ " always ignored (images, binaries, configs, etc.)"])
  ++ ["  - " ++ amount .contextIncluded ++ " in yellhorncontext whitelist (included)",
      "  - " ++ amount .contextExcluded ++ " in yellhorncontext blacklist (excluded)",
      "  - " ++ amount .ignoreIncluded ++ " in yellhornignore whitelist (included)",
      "  - " ++ amount .ignoreExcluded ++ " in yellhornignore blacklist (excluded)",
      "  - " ++ amount .other ++ " other files " ++
        (if s.rules.context.isSome then "(excluded - .yellhorncontext exists)"
         else "(included - no .yellhorncontext)"),
      "Total included: " ++ Number.natText s.chosen.length ++ " files (excluded " ++ ignored
        ++ " always-ignored files)"]

end Sorted

def Rules.select (r : Rules) (listed : List String) : List String := (Sorted.ofListing r listed).chosen

end IssuePlanner.Snapshot
