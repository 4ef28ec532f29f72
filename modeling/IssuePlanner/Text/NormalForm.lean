import IssuePlanner.Text.Composite
import IssuePlanner.Text.Expansion

/-! One form for words that are written differently and read the same: characters are expanded, marks are put
in order (`orderMarks_perm`: none is lost), and letters and marks are put together again as far as possible.
Text in ASCII has this form. -/

namespace IssuePlanner.Text

namespace Hangul

/-! A Korean syllable is a leading consonant, a vowel and possibly a trailing consonant. All syllables are
listed in that order, so their parts are computed. -/

def firstSyllable : Nat := 0xac00
def firstLeading : Nat := 0x1100
def firstVowel : Nat := 0x1161
/-- The place before the first trailing consonant: it stands for none. -/
def noTrailing : Nat := 0x11a7
def leadings : Nat := 19
def vowels : Nat := 21
def trailings : Nat := 28

def isSyllable (n : Nat) : Bool :=
  firstSyllable ≤ n && n < firstSyllable + leadings * vowels * trailings

def parts (n : Nat) : List Nat :=
  let i := n - firstSyllable
  let open_ := [firstLeading + i / (vowels * trailings), firstVowel + i / trailings % vowels]
  if i % trailings = 0 then open_ else open_ ++ [noTrailing + i % trailings]

/-- The syllable of a leading consonant and a vowel, or of an open syllable and a trailing consonant. -/
def together? (a b : Nat) : Option Nat :=
  if firstLeading ≤ a && a < firstLeading + leadings && firstVowel ≤ b && b < firstVowel + vowels then
    some (firstSyllable + ((a - firstLeading) * vowels + (b - firstVowel)) * trailings)
  else if isSyllable a && (a - firstSyllable) % trailings = 0 && noTrailing < b
      && b < noTrailing + trailings then
    some (a + (b - noTrailing))
  else none

end Hangul

/-- The characters that a character stands for; itself, if for no others. -/
def expand (c : Char) : List Char :=
  if c.toNat < 128 then [c]
  else if Hangul.isSyllable c.toNat then (Hangul.parts c.toNat).map Char.ofNat
  else (Expansion.listed c).getD [c]

def composite? (a b : Char) : Option Char :=
  ((Hangul.together? a.toNat b.toNat).map Char.ofNat).or (Composite.listed a b)

/-- Puts a character in front of ordered ones; a mark goes behind the marks of lower classes. -/
def placeMark (c : Char) : List Char → List Char
  | [] => [c]
  | d :: r =>
    if markClass d ≠ 0 && markClass d < markClass c then d :: placeMark c r else c :: d :: r

def orderMarks (cs : List Char) : List Char := cs.foldr placeMark []

theorem placeMark_perm (c : Char) (cs : List Char) : (placeMark c cs).Perm (c :: cs) := by
  induction cs with
  | nil => exact .refl _
  | cons d r ih =>
    rw [placeMark]
    split
    · exact (ih.cons d).trans (.swap c d r)
    · exact .refl _

theorem orderMarks_perm (cs : List Char) : (orderMarks cs).Perm cs := by
  induction cs with
  | nil => exact .refl _
  | cons c r ih => exact (placeMark_perm c (orderMarks r)).trans (ih.cons c)

/-- Puts together what follows a character. `passed` holds the marks since then that did not join it, last
one first; a mark of the class of the last one cannot pass it. -/
def composeFrom (start : Char) (passed : List Char) : List Char → List Char
  | [] => start :: passed.reverse
  | c :: r =>
    let blocked := passed.head?.any fun m => markClass c ≤ markClass m
    match if blocked then none else composite? start c with
    | some d => composeFrom d passed r
    | none =>
      if markClass c = 0 then start :: (passed.reverse ++ composeFrom c [] r)
      else composeFrom start (c :: passed) r

def compose : List Char → List Char
  | [] => []
  | c :: r => composeFrom c [] r

def normalForm (cs : List Char) : List Char :=
  if cs.all (·.toNat < 128) then cs else compose (orderMarks (cs.flatMap expand))

end IssuePlanner.Text
