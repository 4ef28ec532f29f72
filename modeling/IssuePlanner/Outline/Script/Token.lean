import IssuePlanner.Text.Identifier

/-! The tokens of a script. Line structure is part of them: `newline` ends a statement, `indent` and `dedent`
open and close a block. -/

namespace IssuePlanner.Outline.Script

/-- A string literal as it is written: the letters before its quotes, in lower case, and what stands
between them. -/
structure StringLexeme where
  letters : List Char
  /-- Whether the first letter is a small `u`. -/
  smallU : Bool
  body : List Char
  deriving DecidableEq, Repr

inductive Token where
  | name (s : String)
  | number (lexeme : List Char)
  | string (lexeme : StringLexeme)
  | op (s : String)
  | newline
  | indent
  | dedent
  deriving DecidableEq, Repr

/-- The words that are never names. -/
def keywords : List String :=
  ["False", "None", "True", "and", "as", "assert", "async", "await", "break", "class", "continue", "def",
   "del", "elif", "else", "except", "finally", "for", "from", "global", "if", "import", "in", "is",
   "lambda", "nonlocal", "not", "or", "pass", "raise", "return", "try", "while", "with", "yield"]

def stringLetters : List (List Char) :=
  [[], ['b'], ['r'], ['u'], ['f'], ['b', 'r'], ['r', 'b'], ['f', 'r'], ['r', 'f']]

/-- The operators of two and three characters; a longer one wins. -/
def longOperators : List String :=
  ["**=", "//=", ">>=", "<<=", "...", "!=", "%=", "&=", "**", "*=", "+=", "-=", "->", "//", "/=", ":=",
   "<<", "<=", "<>", "==", ">=", ">>", "@=", "^=", "|="]

def opening? : Char → Option Char
  | ')' => some '('
  | ']' => some '['
  | '\x7d' => some '\x7b'
  | _ => none

end IssuePlanner.Outline.Script
