import IssuePlanner.Failure
import IssuePlanner.Outline.Script.Docstring
import IssuePlanner.Outline.Script.Grammar.Statement
import IssuePlanner.Outline.Script.Printer
import IssuePlanner.Text.Letter
import IssuePlanner.Text.Search

/-! The outline of a script: the signatures of its public functions and classes, with attributes and methods
for classes, each followed by the first line of its documentation. A name is private when it starts with an
underscore. A script with an error in it falls back to the symbols that an index knows; one that nests deeper
than the interpreter can parse has no outline. -/

namespace IssuePlanner.Outline

open Script

def isPrivate (name : String) : Bool := Text.begins name "_"

def remark (summary : Option String) : String := (summary.map ("  # " ++ ·)).getD ""

namespace Script

/-- The limits of an interpreter. How deep a text that it parses or an expression that it writes may nest is
up to its stack. -/
structure Interpreter where
  parseFault : String → Option InterpreterFault := fun _ => none
  canWrite : Expr → Bool := fun _ => true

def Interpreter.text? (i : Interpreter) (e : Expr) : Option String :=
  if i.canWrite e then Printer.text? e else none

section

variable (i : Interpreter)

def paramText (p : Param Expr) : String :=
  match p.hint.bind i.text? with
  | some a => p.name ++ ": " ++ a
  | none => p.name

/-- The parameters of a signature; those that are positional only are not shown. -/
def paramTexts (ps : Params Expr) : List String :=
  let rest := match ps.rest with
    | some p => ["*" ++ paramText i p]
    | none => if ps.keywordOnly.isEmpty then [] else ["*"]
  ps.regular.map (paramText i) ++ rest ++ ps.keywordOnly.map (paramText i)
    ++ (ps.keywords.map fun p => "**" ++ paramText i p).toList

def functionSignature (isAsync : Bool) (name : String) (ps : Params Expr) (result : Option Expr) :
    String :=
  (if isAsync then "async def " else "def ") ++ name ++ "(" ++ Text.join ", " (paramTexts i ps) ++ ")"
    ++ ((result.bind i.text?).map (" -> " ++ ·)).getD ""

end

def baseText? : Expr → Option String
  | .name x => some x
  | .attribute (.name x) field => some (x ++ "." ++ field)
  | .attribute .. => some "..."
  | _ => none

def classSignature (name : String) (bases : List Expr) : String :=
  match bases.filterMap baseText? with
  | [] => "class " ++ name
  | bs => "class " ++ name ++ "(" ++ Text.join ", " bs ++ ")"

def isEnumBase : Expr → Bool
  | .name x | .attribute _ x => x == "Enum"
  | _ => false

/-- The attribute that a statement of a class body declares, with its type if that is a plain name. -/
def attribute? : Stmt → Option String
  | .annotate (.name x) (.name t) => if isPrivate x then none else some (x ++ ": " ++ t)
  | .annotate (.name x) _ => if isPrivate x then none else some (x ++ ": Any")
  | .assign [.name x] => if isPrivate x then none else some x
  | _ => none

def enumValue? : Stmt → Option String
  | .assign [.name x] => if !isPrivate x && Text.isUpperText x.toList then some x else none
  | _ => none

/-- The attributes of a class, and once more the values of an enumeration. -/
def attributes (bases : List Expr) (body : List Stmt) : List String :=
  body.filterMap attribute? ++ if bases.any isEnumBase then body.filterMap enumValue? else []

def definedName? : Stmt → Option String
  | .functionDef _ x .. | .classDef x .. => some x
  | _ => none

def signature? (i : Interpreter) : Stmt → Option String
  | .functionDef isAsync x ps result _ => some (functionSignature i isAsync x ps result)
  | .classDef x bases _ => some (classSignature x bases)
  | _ => none

def bodyOf : Stmt → List Stmt
  | .functionDef _ _ _ _ body | .classDef _ _ body => body
  | _ => []

def isPublic (s : Stmt) : Bool := (definedName? s).any fun x => !isPrivate x

/-- The line of a method: its signature with the class in front of its name. -/
def methodLine? (i : Interpreter) (owner : String) (s : Stmt) : Option String :=
  if isPublic s then
    (signature? i s).map fun sig =>
      "    " ++ Text.replace sig "def " ("def " ++ owner ++ ".") ++ remark (Docstring.summary? (bodyOf s))
  else none

def definitionLines (i : Interpreter) (s : Stmt) : List String :=
  if isPublic s then
    match signature? i s with
    | none => []
    | some sig =>
      let members := match s with
        | .classDef x bases body =>
          (attributes bases body).map ("    " ++ ·) ++ body.filterMap (methodLine? i x)
        | _ => []
      (sig ++ remark (Docstring.summary? (bodyOf s))) :: members
  else []

structure Symbol where
  name : String
  kind : String
  signatures : List String
  documentation : String

def Symbol.line? (s : Symbol) : Option String :=
  if !isPrivate s.name && (s.kind == "function" || s.kind == "class") then
    let signature := s.signatures.head?.getD ("<" ++ s.name ++ ">")
    let summary :=
      if Text.isBlankText s.documentation then none else Docstring.firstLine? s.documentation.toList
    some (signature ++ remark summary)
  else none

/-- The lines of a script. The index, if there is one, is asked only about a script with an error in it. -/
def linesOf (i : Interpreter) (index : Option (List Symbol)) (source : String) : List String :=
  match Grammar.script? source.toList with
  | some body => body.flatMap (definitionLines i)
  | none => (index.getD []).filterMap Symbol.line?

/-- The outline of a script. Nothing stands in for a script that is too much for the interpreter. -/
def outline (i : Interpreter) (index : Option (List Symbol)) (source : String) : Except Failure (List String) :=
  match i.parseFault source with
  | some fault => .error (.interpreter fault)
  | none => .ok (linesOf i index source)

end Script

end IssuePlanner.Outline
