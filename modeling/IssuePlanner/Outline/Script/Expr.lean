import IssuePlanner.Number.Double

/-! Expressions of a script, and the parts of statements that an outline looks at. Texts are lists of code
points, because a literal may name a code point that no character has. -/

namespace IssuePlanner.Outline.Script

/-- One `for … in … if …` of a comprehension. -/
structure Clause (ε : Type) where
  isAsync : Bool
  target : ε
  source : ε
  conditions : List ε

structure Param (ε : Type) where
  name : String
  hint : Option ε := none
  default : Option ε := none

structure Params (ε : Type) where
  positionalOnly : List (Param ε) := []
  regular : List (Param ε) := []
  rest : Option (Param ε) := none
  keywordOnly : List (Param ε) := []
  keywords : Option (Param ε) := none

inductive BinaryOp where
  | bitOr | bitXor | bitAnd | shiftLeft | shiftRight | add | sub | mul | matMul | div | mod | floorDiv | pow
  deriving DecidableEq, Repr

inductive UnaryOp where
  | plus | minus | invert | not
  deriving DecidableEq, Repr

inductive CompareOp where
  | eq | ne | lt | le | gt | ge | same | notSame | member | notMember
  deriving DecidableEq, Repr

inductive Constant where
  | none
  | true
  | false
  | ellipsis
  | int (n : Nat)
  | float (x : Float)
  | imaginary (x : Float)
  /-- A text; `marked` says that its literal starts with a small `u`. -/
  | text (marked : Bool) (codes : List Nat)
  | bytes (values : List Nat)

inductive Expr where
  | constant (c : Constant)
  | name (id : String)
  | attribute (value : Expr) (field : String)
  | subscript (value slice : Expr)
  | slice (lower upper step : Option Expr)
  | call (function : Expr) (args : List Expr) (keywords : List (Option String × Expr))
  | unary (op : UnaryOp) (operand : Expr)
  | binary (op : BinaryOp) (left right : Expr)
  | or (operands : List Expr)
  | and (operands : List Expr)
  | compare (left : Expr) (rest : List (CompareOp × Expr))
  | ifElse (test body orElse : Expr)
  | lambda (params : Params Expr) (body : Expr)
  | named (target value : Expr)
  | starred (value : Expr)
  | tuple (items : List Expr)
  | list (items : List Expr)
  | set (items : List Expr)
  /-- An entry without a key spreads a dictionary. -/
  | dict (entries : List (Option Expr × Expr))
  | listOf (item : Expr) (clauses : List (Clause Expr))
  | setOf (item : Expr) (clauses : List (Clause Expr))
  | generator (item : Expr) (clauses : List (Clause Expr))
  | dictOf (key value : Expr) (clauses : List (Clause Expr))
  | await (value : Expr)
  | yield (value : Option Expr)
  | yieldFrom (value : Expr)
  /-- A text with values in it: only `constant` texts and `formatted` values are parts. -/
  | joined (parts : List Expr)
  | formatted (value : Expr) (conversion : Option Char) (format : Option (List Expr))
  deriving Inhabited

inductive Stmt where
  | functionDef (isAsync : Bool) (name : String) (params : Params Expr) (result : Option Expr)
      (body : List Stmt)
  | classDef (name : String) (bases : List Expr) (body : List Stmt)
  | assign (targets : List Expr)
  | annotate (target hint : Expr)
  | expression (value : Expr)
  | other

end IssuePlanner.Outline.Script
