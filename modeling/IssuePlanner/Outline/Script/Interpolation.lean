import IssuePlanner.Outline.Script.Literal

/-! Texts with values in them. A value stands in braces and may be followed by an equals sign, which also
shows its source text, by a conversion and by a format; a format may hold values again, one level deep.
Braces that stand for themselves are doubled, but not inside a format. -/

namespace IssuePlanner.Outline.Script.Interpolation

def isBrace (c : Char) : Bool := c = '\x7b' || c = '\x7d'

/-- The literal text at the front: the text, whether it ends in a doubled brace, and what follows. `top`
says that it is not inside a format. -/
def literal (raw top : Bool) (skip : Nat) (out : List Char) : List Char →
    Option (List Char × Bool × List Char)
  | [] => some (out.reverse, false, [])
  | c :: r =>
    match skip with
    | n + 1 => literal raw top n (c :: out) r
    | 0 =>
      if isBrace c then
        if top && r.head? = some c then some ((c :: out).reverse, true, r.drop 1)
        else if top && c = '\x7d' then none
        else some (out.reverse, false, c :: r)
      else if c = '\\' && !raw then
        match r with
        | 'N' :: '\x7b' :: name =>
          literal raw top (3 + (name.takeWhile (· ≠ '\x7d')).length) (c :: out) r
        | 'N' :: _ => none
        | d :: _ => literal raw top (if isBrace d then 0 else 1) (c :: out) r
        | [] => literal raw top 0 (c :: out) r
      else literal raw top 0 (c :: out) r

/-- A string inside a value: its quote, and whether it has three of them. -/
abbrev Quote := Option (Char × Bool)

def isTripled (c : Char) (r : List Char) : Bool := r.head? = some c && r.tail.head? = some c

/-- The source text of a value, up to the character that ends it, which is kept in front of the rest. -/
def source (quote : Quote) (brackets : List Char) (skip : Nat) (out : List Char) : List Char →
    Option (List Char × List Char)
  | [] => none
  | c :: r =>
    match skip with
    | n + 1 => source quote brackets n (c :: out) r
    | 0 =>
      if c = '\\' then none
      else match quote with
        | some (q, triple) =>
          if c ≠ q then source quote brackets 0 (c :: out) r
          else if !triple then source none brackets 0 (c :: out) r
          else if isTripled c r then source none brackets 2 (c :: out) r
          else source quote brackets 0 (c :: out) r
        | none =>
          if c = '"' || c = '\'' then
            if isTripled c r then source (some (c, true)) brackets 2 (c :: out) r
            else source (some (c, false)) brackets 0 (c :: out) r
          else if c = '(' || c = '[' || c = '\x7b' then
            if 200 ≤ brackets.length then none else source none (c :: brackets) 0 (c :: out) r
          else if c = '#' then none
          else if brackets.isEmpty && ['!', ':', '\x7d', '=', '>', '<'].contains c then
            if ['!', '=', '<', '>'].contains c && r.head? = some '=' then source none [] 1 (c :: out) r
            else if c = '>' || c = '<' then source none [] 0 (c :: out) r
            else some (out.reverse, c :: r)
          else match opening? c with
            | some o =>
              match brackets with
              | b :: bs => if b = o then source none bs 0 (c :: out) r else none
              | [] => none
            | none => source none brackets 0 (c :: out) r

def isAsciiBlank (c : Char) : Bool := c = ' ' || (9 ≤ c.toNat && c.toNat ≤ 13)

/-- The conversion after an exclamation mark: one of three letters before a brace or colon. -/
def conversion : List Char → Option (Option Char × List Char)
  | '!' :: c :: d :: r =>
    if ['s', 'r', 'a'].contains c && (d = '\x7d' || d = ':') then some (some c, d :: r) else none
  | '!' :: _ => none
  | r => some (none, r)

def merge : List Expr → List Expr
  | [] => []
  | .constant (.text m codes) :: rest =>
    match merge rest with
    | .constant (.text _ more) :: rest => .constant (.text m (codes ++ more)) :: rest
    | rest => if codes.isEmpty then rest else .constant (.text m codes) :: rest
  | e :: rest => e :: merge rest

def plain (codes : List Nat) : Expr := .constant (.text false codes)

/-- The parts of a text up to its end, or inside a format up to its closing brace. `inner` reads the source
text of a value; the second argument bounds the number of steps. -/
def parts (inner : List Char → Option Expr) (raw : Bool) : Nat → (level : Nat) → List Char →
    Option (List Expr × List Char)
  | 0, _, _ => none
  | n + 1, level, cs => do
    let (lit, doubled, r) ← literal raw (level = 0) 0 [] cs
    let text := plain (← Literal.text? raw lit)
    if doubled then
      let (more, r) ← parts inner raw n level r
      return (text :: more, r)
    else match r with
      | '\x7b' :: r =>
        if 2 ≤ level then none
        else
          let (src, r) ← source none [] 0 [] r
          let value ← inner src
          let (shown, r) := match r with
            | '=' :: r =>
              let blanks := r.takeWhile isAsciiBlank
              (some (src ++ '=' :: blanks), r.drop blanks.length)
            | r => (none, r)
          let (letter, r) ← conversion r
          let (format, r) ← match r with
            | ':' :: r => do
              let (format, r) ← parts inner raw n (level + 1) r
              pure (some (merge format), r)
            | r => pure (none, r)
          match r with
          | '\x7d' :: r =>
            let letter := if shown.isSome && format.isNone && letter.isNone then some 'r' else letter
            let (more, r) ← parts inner raw n level r
            let shown := plain ((shown.getD []).map Char.toNat)
            return (text :: shown :: .formatted value letter format :: more, r)
          | _ => none
      | _ => if level = 0 && !r.isEmpty then none else return ([text], r)

def read? (inner : List Char → Option Expr) (raw : Bool) (cs : List Char) : Option (List Expr) :=
  (parts inner raw (cs.length + 1) 0 cs).map (·.1)

def isEmptySource (cs : List Char) : Bool :=
  cs.all fun c => c = ' ' || c = '\t' || c = '\n' || c = '\x0c'

end IssuePlanner.Outline.Script.Interpolation
