import IssuePlanner.Text.Lines

/-! Characters by their names: those of the Latin, Greek and Cyrillic alphabets, punctuation, signs, arrows,
drawings and pictures, and the control characters. A block lists the names of consecutive characters. Each
is written by the number of words that it shares with the name before it, and its other words; frequent
words are written as one small letter. -/

namespace IssuePlanner.Text

namespace CharName

def frequent : List (Char × String) :=
  [('a', "AND"), ('b', "ARROW"), ('c', "BLACK"), ('d', "BRACKET"), ('e', "CAPITAL"),
   ('f', "CIRCUMFLEX"), ('g', "DIAERESIS"), ('h', "DOUBLE"), ('i', "FACE"), ('j', "GREATER-THAN"),
   ('k', "HEAVY"), ('l', "HORIZONTAL"), ('m', "LEFT"), ('n', "LEFTWARDS"), ('o', "LETTER"),
   ('p', "LIGHT"), ('q', "RIGHT"), ('r', "RIGHTWARDS"), ('s', "SIGN"), ('t', "SMALL"),
   ('u', "STROKE"), ('v', "SYMBOL"), ('w', "TRIANGLE"), ('x', "VERTICAL"), ('y', "WHITE"),
   ('z', "WITH")]

def wordOf (cs : List Char) : List Char :=
  match cs with
  | [c] => ((frequent.find? (·.1 == c)).map (·.2.toList)).getD cs
  | _ => cs

/-- The words of a name, from those of the name before it; an entry may stand for no character. -/
def nameOf (before : List (List Char)) : List Char → Option (List (List Char))
  | [] => none
  | count :: rest => some (before.take (count.toNat - '0'.toNat) ++ (splitOn ' ' rest).map wordOf)

/-- The code point of a name among entries that start at `code`. -/
def codeAmong (name : List (List Char)) : (before : List (List Char)) → (code : Nat) → List (List Char) →
    Option Nat
  | _, _, [] => none
  | before, code, e :: rest =>
    match nameOf before e with
    | none => codeAmong name before (code + 1) rest
    | some words => if words = name then some code else codeAmong name words (code + 1) rest

/-- A block: its first code point and the rows of its entries. -/
structure Block where
  start : Nat
  rows : List String

def Block.code? (b : Block) (name : List (List Char)) : Option Nat :=
  codeAmong name [] b.start (splitOn ',' (b.rows.flatMap String.toList))

def blocks : List Block :=
  [⟨0x20,
    ["0SPACE,0EXCLAMATION MARK,0QUOTATION MARK,0NUMBER s,0DOLLAR s,0PERCENT s,0AMPERSAND,0APOSTROPHE,",
     "0m PARENTHESIS,0q PARENTHESIS,0ASTERISK,0PLUS s,0COMMA,0HYPHEN-MINUS,0FULL STOP,0SOLIDUS,0DIGIT ZERO,",
     "1ONE,1TWO,1THREE,1FOUR,1FIVE,1SIX,1SEVEN,1EIGHT,1NINE,0COLON,0SEMICOLON,0LESS-THAN s,0EQUALS s,0j s,",
     "0QUESTION MARK,0COMMERCIAL AT,0LATIN e o A,3B,3C,3D,3E,3F,3G,3H,3I,3J,3K,3L,3M,3N,3O,3P,3Q,3R,3S,3T,3U,",
     "3V,3W,3X,3Y,3Z,0m SQUARE d,0REVERSE SOLIDUS,0q SQUARE d,0f ACCENT,0LOW LINE,0GRAVE ACCENT,0LATIN t o A,",
     "3B,3C,3D,3E,3F,3G,3H,3I,3J,3K,3L,3M,3N,3O,3P,3Q,3R,3S,3T,3U,3V,3W,3X,3Y,3Z,0m CURLY d,0x LINE,",
     "0q CURLY d,0TILDE,,,,,,,,,,,,,,,,,,,,,,,,,,,,,,,,,,0NO-BREAK SPACE,0INVERTED EXCLAMATION MARK,0CENT s,",
     "0POUND s,0CURRENCY s,0YEN s,0BROKEN BAR,0SECTION s,0g,0COPYRIGHT s,0FEMININE ORDINAL INDICATOR,",
     "0LEFT-POINTING h ANGLE QUOTATION MARK,0NOT s,0SOFT HYPHEN,0REGISTERED s,0MACRON,0DEGREE s,0PLUS-MINUS s,",
     "0SUPERSCRIPT TWO,1THREE,0ACUTE ACCENT,0MICRO s,0PILCROW s,0MIDDLE DOT,0CEDILLA,0SUPERSCRIPT ONE,",
     "0MASCULINE ORDINAL INDICATOR,0RIGHT-POINTING h ANGLE QUOTATION MARK,0VULGAR FRACTION ONE QUARTER,3HALF,",
     "2THREE QUARTERS,0INVERTED QUESTION MARK,0LATIN e o A z GRAVE,5ACUTE,5f,5TILDE,5g,5RING ABOVE,3AE,",
     "3C z CEDILLA,3E z GRAVE,5ACUTE,5f,5g,3I z GRAVE,5ACUTE,5f,5g,3ETH,3N z TILDE,3O z GRAVE,5ACUTE,5f,",
     "5TILDE,5g,0MULTIPLICATION s,0LATIN e o O z u,3U z GRAVE,5ACUTE,5f,5g,3Y z ACUTE,3THORN,1t o SHARP S,",
     "3A z GRAVE,5ACUTE,5f,5TILDE,5g,5RING ABOVE,3AE,3C z CEDILLA,3E z GRAVE,5ACUTE,5f,5g,3I z GRAVE,5ACUTE,",
     "5f,5g,3ETH,3N z TILDE,3O z GRAVE,5ACUTE,5f,5TILDE,5g,0DIVISION s,0LATIN t o O z u,3U z GRAVE,5ACUTE,5f,",
     "5g,3Y z ACUTE,3THORN,3Y z g,1e o A z MACRON,1t o A z MACRON,1e o A z BREVE,1t o A z BREVE,",
     "1e o A z OGONEK,1t o A z OGONEK,1e o C z ACUTE,1t o C z ACUTE,1e o C z f,1t o C z f,1e o C z DOT ABOVE,",
     "1t o C z DOT ABOVE,1e o C z CARON,1t o C z CARON,1e o D z CARON,1t o D z CARON,1e o D z u,1t o D z u,",
     "1e o E z MACRON,1t o E z MACRON,1e o E z BREVE,1t o E z BREVE,1e o E z DOT ABOVE,1t o E z DOT ABOVE,",
     "1e o E z OGONEK,1t o E z OGONEK,1e o E z CARON,1t o E z CARON,1e o G z f,1t o G z f,1e o G z BREVE,",
     "1t o G z BREVE,1e o G z DOT ABOVE,1t o G z DOT ABOVE,1e o G z CEDILLA,1t o G z CEDILLA,1e o H z f,",
     "1t o H z f,1e o H z u,1t o H z u,1e o I z TILDE,1t o I z TILDE,1e o I z MACRON,1t o I z MACRON,",
     "1e o I z BREVE,1t o I z BREVE,1e o I z OGONEK,1t o I z OGONEK,1e o I z DOT ABOVE,1t o DOTLESS I,",
     "1e LIGATURE IJ,1t LIGATURE IJ,1e o J z f,1t o J z f,1e o K z CEDILLA,1t o K z CEDILLA,3KRA,",
     "1e o L z ACUTE,1t o L z ACUTE,1e o L z CEDILLA,1t o L z CEDILLA,1e o L z CARON,1t o L z CARON,",
     "1e o L z MIDDLE DOT,1t o L z MIDDLE DOT,1e o L z u,1t o L z u,1e o N z ACUTE,1t o N z ACUTE,",
     "1e o N z CEDILLA,1t o N z CEDILLA,1e o N z CARON,1t o N z CARON,4PRECEDED BY APOSTROPHE,1e o ENG,",
     "1t o ENG,1e o O z MACRON,1t o O z MACRON,1e o O z BREVE,1t o O z BREVE,1e o O z h ACUTE,",
     "1t o O z h ACUTE,1e LIGATURE OE,1t LIGATURE OE,1e o R z ACUTE,1t o R z ACUTE,1e o R z CEDILLA,",
     "1t o R z CEDILLA,1e o R z CARON,1t o R z CARON,1e o S z ACUTE,1t o S z ACUTE,1e o S z f,1t o S z f,",
     "1e o S z CEDILLA,1t o S z CEDILLA,1e o S z CARON,1t o S z CARON,1e o T z CEDILLA,1t o T z CEDILLA,",
     "1e o T z CARON,1t o T z CARON,1e o T z u,1t o T z u,1e o U z TILDE,1t o U z TILDE,1e o U z MACRON,",
     "1t o U z MACRON,1e o U z BREVE,1t o U z BREVE,1e o U z RING ABOVE,1t o U z RING ABOVE,1e o U z h ACUTE,",
     "1t o U z h ACUTE,1e o U z OGONEK,1t o U z OGONEK,1e o W z f,1t o W z f,1e o Y z f,1t o Y z f,1e o Y z g,",
     "3Z z ACUTE,1t o Z z ACUTE,1e o Z z DOT ABOVE,1t o Z z DOT ABOVE,1e o Z z CARON,1t o Z z CARON,3LONG S,",
     "3B z u,1e o B z HOOK,5TOPBAR,1t o B z TOPBAR,1e o TONE SIX,1t o TONE SIX,1e o OPEN O,3C z HOOK,",
     "1t o C z HOOK,1e o AFRICAN D,3D z HOOK,5TOPBAR,1t o D z TOPBAR,3TURNED DELTA,1e o REVERSED E,3SCHWA,",
     "3OPEN E,3F z HOOK,1t o F z HOOK,1e o G z HOOK,3GAMMA,1t o HV,1e o IOTA,3I z u,3K z HOOK,1t o K z HOOK,",
     "3L z BAR,3LAMBDA z u,1e o TURNED M,3N z m HOOK,1t o N z LONG q LEG,1e o O z MIDDLE TILDE,5HORN,",
     "1t o O z HORN,1e o OI,1t o OI,1e o P z HOOK,1t o P z HOOK,1o YR,1e o TONE TWO,1t o TONE TWO,1e o ESH,",
     "1o REVERSED ESH LOOP,1t o T z PALATAL HOOK,1e o T z HOOK,1t o T z HOOK,1e o T z RETROFLEX HOOK,",
     "3U z HORN,1t o U z HORN,1e o UPSILON,3V z HOOK,3Y z HOOK,1t o Y z HOOK,1e o Z z u,1t o Z z u,1e o EZH,",
     "4REVERSED,1t o EZH REVERSED,4z TAIL,1o TWO z u,1e o TONE FIVE,1t o TONE FIVE,",
     "1o INVERTED GLOTTAL STOP z u,2WYNN,2DENTAL CLICK,2LATERAL CLICK,2ALVEOLAR CLICK,2RETROFLEX CLICK,",
     "1e o DZ z CARON,3D z t o Z z CARON,1t o DZ z CARON,1e o LJ,3L z t o J,1t o LJ,1e o NJ,3N z t o J,",
     "1t o NJ,1e o A z CARON,1t o A z CARON,1e o I z CARON,1t o I z CARON,1e o O z CARON,1t o O z CARON,",
     "1e o U z CARON,1t o U z CARON,1e o U z g a MACRON,1t o U z g a MACRON,1e o U z g a ACUTE,",
     "1t o U z g a ACUTE,1e o U z g a CARON,1t o U z g a CARON,1e o U z g a GRAVE,1t o U z g a GRAVE,",
     "3TURNED E,1e o A z g a MACRON,1t o A z g a MACRON,1e o A z DOT ABOVE a MACRON,",
     "1t o A z DOT ABOVE a MACRON,1e o AE z MACRON,1t o AE z MACRON,1e o G z u,1t o G z u,1e o G z CARON,",
     "1t o G z CARON,1e o K z CARON,1t o K z CARON,1e o O z OGONEK,1t o O z OGONEK,1e o O z OGONEK a MACRON,",
     "1t o O z OGONEK a MACRON,1e o EZH z CARON,1t o EZH z CARON,3J z CARON,1e o DZ,3D z t o Z,1t o DZ,",
     "1e o G z ACUTE,1t o G z ACUTE,1e o HWAIR,3WYNN,3N z GRAVE,1t o N z GRAVE,1e o A z RING ABOVE a ACUTE,",
     "1t o A z RING ABOVE a ACUTE,1e o AE z ACUTE,1t o AE z ACUTE,1e o O z u a ACUTE,1t o O z u a ACUTE,",
     "1e o A z h GRAVE,1t o A z h GRAVE,1e o A z INVERTED BREVE,1t o A z INVERTED BREVE,1e o E z h GRAVE,",
     "1t o E z h GRAVE,1e o E z INVERTED BREVE,1t o E z INVERTED BREVE,1e o I z h GRAVE,1t o I z h GRAVE,",
     "1e o I z INVERTED BREVE,1t o I z INVERTED BREVE,1e o O z h GRAVE,1t o O z h GRAVE,",
     "1e o O z INVERTED BREVE,1t o O z INVERTED BREVE,1e o R z h GRAVE,1t o R z h GRAVE,",
     "1e o R z INVERTED BREVE,1t o R z INVERTED BREVE,1e o U z h GRAVE,1t o U z h GRAVE,",
     "1e o U z INVERTED BREVE,1t o U z INVERTED BREVE,1e o S z COMMA BELOW,1t o S z COMMA BELOW,",
     "1e o T z COMMA BELOW,1t o T z COMMA BELOW,1e o YOGH,1t o YOGH,1e o H z CARON,1t o H z CARON,",
     "1e o N z LONG q LEG,1t o D z CURL,1e o OU,1t o OU,1e o Z z HOOK,1t o Z z HOOK,1e o A z DOT ABOVE,",
     "1t o A z DOT ABOVE,1e o E z CEDILLA,1t o E z CEDILLA,1e o O z g a MACRON,1t o O z g a MACRON,",
     "1e o O z TILDE a MACRON,1t o O z TILDE a MACRON,1e o O z DOT ABOVE,1t o O z DOT ABOVE,",
     "1e o O z DOT ABOVE a MACRON,1t o O z DOT ABOVE a MACRON,1e o Y z MACRON,1t o Y z MACRON,3L z CURL,",
     "3N z CURL,3T z CURL,3DOTLESS J,3DB DIGRAPH,3QP DIGRAPH,1e o A z u,3C z u,1t o C z u,1e o L z BAR,",
     "3T z DIAGONAL u,1t o S z SWASH TAIL,3Z z SWASH TAIL,1e o GLOTTAL STOP,1t o GLOTTAL STOP,1e o B z u,",
     "3U BAR,3TURNED V,3E z u,1t o E z u,1e o J z u,1t o J z u,1e o t Q z HOOK TAIL,1t o Q z HOOK TAIL,",
     "1e o R z u,1t o R z u,1e o Y z u,1t o Y z u"]⟩,
   ⟨0x300,
    ["0COMBINING GRAVE ACCENT,1ACUTE ACCENT,1f ACCENT,1TILDE,1MACRON,1OVERLINE,1BREVE,1DOT ABOVE,1g,",
     "1HOOK ABOVE,1RING ABOVE,1h ACUTE ACCENT,1CARON,1x LINE ABOVE,1h x LINE ABOVE,2GRAVE ACCENT,1CANDRABINDU,",
     "1INVERTED BREVE,1TURNED COMMA ABOVE,1COMMA ABOVE,1REVERSED COMMA ABOVE,1COMMA ABOVE q,",
     "1GRAVE ACCENT BELOW,1ACUTE ACCENT BELOW,1m TACK BELOW,1q TACK BELOW,1m ANGLE ABOVE,1HORN,",
     "1m HALF RING BELOW,1UP TACK BELOW,1DOWN TACK BELOW,1PLUS s BELOW,1MINUS s BELOW,1PALATALIZED HOOK BELOW,",
     "1RETROFLEX HOOK BELOW,1DOT BELOW,1g BELOW,1RING BELOW,1COMMA BELOW,1CEDILLA,1OGONEK,1x LINE BELOW,",
     "1BRIDGE BELOW,1INVERTED h ARCH BELOW,1CARON BELOW,1f ACCENT BELOW,1BREVE BELOW,1INVERTED BREVE BELOW,",
     "1TILDE BELOW,1MACRON BELOW,1LOW LINE,1h LOW LINE,1TILDE OVERLAY,1SHORT u OVERLAY,1LONG u OVERLAY,",
     "1SHORT SOLIDUS OVERLAY,1LONG SOLIDUS OVERLAY,1q HALF RING BELOW,1INVERTED BRIDGE BELOW,1SQUARE BELOW,",
     "1SEAGULL BELOW,1X ABOVE,1x TILDE,1h OVERLINE,1GRAVE TONE MARK,1ACUTE TONE MARK,1GREEK PERISPOMENI,",
     "2KORONIS,2DIALYTIKA TONOS,2YPOGEGRAMMENI,1BRIDGE ABOVE,1EQUALS s BELOW,1h x LINE BELOW,1m ANGLE BELOW,",
     "1NOT TILDE ABOVE,1HOMOTHETIC ABOVE,1ALMOST EQUAL TO ABOVE,1m q b BELOW,1UPWARDS b BELOW,",
     "1GRAPHEME JOINER,1q ARROWHEAD ABOVE,1m HALF RING ABOVE,1FERMATA,1X BELOW,1m ARROWHEAD BELOW,",
     "1q ARROWHEAD BELOW,3a UP ARROWHEAD BELOW,2HALF RING ABOVE,1DOT ABOVE q,1ASTERISK BELOW,1h RING BELOW,",
     "1ZIGZAG ABOVE,1h BREVE BELOW,2BREVE,2MACRON,3BELOW,2TILDE,2INVERTED BREVE,2r b BELOW,1LATIN t o A,4E,4I,",
     "4O,4U,4C,4D,4H,4M,4R,4T,4V,4X"]⟩,
   ⟨0x370,
    ["0GREEK e o HETA,1t o HETA,1e o ARCHAIC SAMPI,1t o ARCHAIC SAMPI,1NUMERAL s,1LOWER NUMERAL s,",
     "1e o PAMPHYLIAN DIGAMMA,1t o PAMPHYLIAN DIGAMMA,,,1YPOGEGRAMMENI,1t REVERSED LUNATE SIGMA v,",
     "2DOTTED LUNATE SIGMA v,2REVERSED DOTTED LUNATE SIGMA v,1QUESTION MARK,1e o YOT,,,,,1TONOS,",
     "1DIALYTIKA TONOS,1e o ALPHA z TONOS,1ANO TELEIA,1e o EPSILON z TONOS,3ETA z TONOS,3IOTA z TONOS,,",
     "3OMICRON z TONOS,,3UPSILON z TONOS,3OMEGA z TONOS,1t o IOTA z DIALYTIKA a TONOS,1e o ALPHA,3BETA,3GAMMA,",
     "3DELTA,3EPSILON,3ZETA,3ETA,3THETA,3IOTA,3KAPPA,3LAMDA,3MU,3NU,3XI,3OMICRON,3PI,3RHO,,3SIGMA,3TAU,",
     "3UPSILON,3PHI,3CHI,3PSI,3OMEGA,3IOTA z DIALYTIKA,3UPSILON z DIALYTIKA,1t o ALPHA z TONOS,",
     "3EPSILON z TONOS,3ETA z TONOS,3IOTA z TONOS,3UPSILON z DIALYTIKA a TONOS,3ALPHA,3BETA,3GAMMA,3DELTA,",
     "3EPSILON,3ZETA,3ETA,3THETA,3IOTA,3KAPPA,3LAMDA,3MU,3NU,3XI,3OMICRON,3PI,3RHO,3FINAL SIGMA,3SIGMA,3TAU,",
     "3UPSILON,3PHI,3CHI,3PSI,3OMEGA,3IOTA z DIALYTIKA,3UPSILON z DIALYTIKA,3OMICRON z TONOS,3UPSILON z TONOS,",
     "3OMEGA z TONOS,1e KAI v,1BETA v,1THETA v,1UPSILON z HOOK v,3ACUTE a HOOK v,3g a HOOK v,1PHI v,1PI v,",
     "1KAI v,1o ARCHAIC KOPPA,1t o ARCHAIC KOPPA,1o STIGMA,1t o STIGMA,1o DIGAMMA,1t o DIGAMMA,1o KOPPA,",
     "1t o KOPPA,1o SAMPI,1t o SAMPI,0COPTIC e o SHEI,1t o SHEI,1e o FEI,1t o FEI,1e o KHEI,1t o KHEI,",
     "1e o HORI,1t o HORI,1e o GANGIA,1t o GANGIA,1e o SHIMA,1t o SHIMA,1e o DEI,1t o DEI,0GREEK KAPPA v,",
     "1RHO v,1LUNATE SIGMA v,1o YOT,1e THETA v,1LUNATE EPSILON v,1REVERSED LUNATE EPSILON v,1e o SHO,1t o SHO,",
     "1e LUNATE SIGMA v,2o SAN,1t o SAN,1RHO z u v,1e REVERSED LUNATE SIGMA v,2DOTTED LUNATE SIGMA v,",
     "2REVERSED DOTTED LUNATE SIGMA v"]⟩,
   ⟨0x400,
    ["0CYRILLIC e o IE z GRAVE,3IO,3DJE,3GJE,3UKRAINIAN IE,3DZE,3BYELORUSSIAN-UKRAINIAN I,3YI,3JE,3LJE,3NJE,",
     "3TSHE,3KJE,3I z GRAVE,3SHORT U,3DZHE,3A,3BE,3VE,3GHE,3DE,3IE,3ZHE,3ZE,3I,3SHORT I,3KA,3EL,3EM,3EN,3O,",
     "3PE,3ER,3ES,3TE,3U,3EF,3HA,3TSE,3CHE,3SHA,3SHCHA,3HARD s,3YERU,3SOFT s,3E,3YU,3YA,1t o A,3BE,3VE,3GHE,",
     "3DE,3IE,3ZHE,3ZE,3I,3SHORT I,3KA,3EL,3EM,3EN,3O,3PE,3ER,3ES,3TE,3U,3EF,3HA,3TSE,3CHE,3SHA,3SHCHA,",
     "3HARD s,3YERU,3SOFT s,3E,3YU,3YA,3IE z GRAVE,3IO,3DJE,3GJE,3UKRAINIAN IE,3DZE,3BYELORUSSIAN-UKRAINIAN I,",
     "3YI,3JE,3LJE,3NJE,3TSHE,3KJE,3I z GRAVE,3SHORT U,3DZHE"]⟩,
   ⟨0x2000,
    ["0EN QUAD,0EM QUAD,0EN SPACE,0EM SPACE,0THREE-PER-EM SPACE,0FOUR-PER-EM SPACE,0SIX-PER-EM SPACE,",
     "0FIGURE SPACE,0PUNCTUATION SPACE,0THIN SPACE,0HAIR SPACE,0ZERO WIDTH SPACE,2NON-JOINER,2JOINER,",
     "0LEFT-TO-RIGHT MARK,0RIGHT-TO-LEFT MARK,0HYPHEN,0NON-BREAKING HYPHEN,0FIGURE DASH,0EN DASH,0EM DASH,",
     "0l BAR,0h x LINE,1LOW LINE,0m SINGLE QUOTATION MARK,0q SINGLE QUOTATION MARK,",
     "0SINGLE LOW-9 QUOTATION MARK,1HIGH-REVERSED-9 QUOTATION MARK,0m h QUOTATION MARK,0q h QUOTATION MARK,",
     "0h LOW-9 QUOTATION MARK,1HIGH-REVERSED-9 QUOTATION MARK,0DAGGER,0h DAGGER,0BULLET,0TRIANGULAR BULLET,",
     "0ONE DOT LEADER,0TWO DOT LEADER,0l ELLIPSIS,0HYPHENATION POINT,0LINE SEPARATOR,0PARAGRAPH SEPARATOR,",
     "0LEFT-TO-RIGHT EMBEDDING,0RIGHT-TO-LEFT EMBEDDING,0POP DIRECTIONAL FORMATTING,0LEFT-TO-RIGHT OVERRIDE,",
     "0RIGHT-TO-LEFT OVERRIDE,0NARROW NO-BREAK SPACE,0PER MILLE s,1TEN THOUSAND s,0PRIME,0h PRIME,",
     "0TRIPLE PRIME,0REVERSED PRIME,1h PRIME,1TRIPLE PRIME,0CARET,0SINGLE LEFT-POINTING ANGLE QUOTATION MARK,",
     "1RIGHT-POINTING ANGLE QUOTATION MARK,0REFERENCE MARK,0h EXCLAMATION MARK,0INTERROBANG,0OVERLINE,",
     "0UNDERTIE,0CHARACTER TIE,0CARET INSERTION POINT,0ASTERISM,0HYPHEN BULLET,0FRACTION SLASH,",
     "0m SQUARE d z QUILL,0q SQUARE d z QUILL,0h QUESTION MARK,0QUESTION EXCLAMATION MARK,",
     "0EXCLAMATION QUESTION MARK,0TIRONIAN s ET,0REVERSED PILCROW s,0c n BULLET,1r BULLET,0LOW ASTERISK,",
     "0REVERSED SEMICOLON,0CLOSE UP,0TWO ASTERISKS ALIGNED VERTICALLY,0COMMERCIAL MINUS s,0SWUNG DASH,",
     "0INVERTED UNDERTIE,0FLOWER PUNCTUATION MARK,0THREE DOT PUNCTUATION,0QUADRUPLE PRIME,",
     "0FOUR DOT PUNCTUATION,0FIVE DOT PUNCTUATION,0TWO DOT PUNCTUATION,0FOUR DOT MARK,0DOTTED CROSS,0TRICOLON,",
     "0x FOUR DOTS,0MEDIUM MATHEMATICAL SPACE,0WORD JOINER,0FUNCTION APPLICATION,0INVISIBLE TIMES,1SEPARATOR,",
     "1PLUS,,0LEFT-TO-RIGHT ISOLATE,0RIGHT-TO-LEFT ISOLATE,0FIRST STRONG ISOLATE,0POP DIRECTIONAL ISOLATE,",
     "0INHIBIT SYMMETRIC SWAPPING,0ACTIVATE SYMMETRIC SWAPPING,0INHIBIT ARABIC FORM SHAPING,",
     "0ACTIVATE ARABIC FORM SHAPING,0NATIONAL DIGIT SHAPES,0NOMINAL DIGIT SHAPES"]⟩,
   ⟨0x2070,
    ["0SUPERSCRIPT ZERO,1LATIN t o I,,,1FOUR,1FIVE,1SIX,1SEVEN,1EIGHT,1NINE,1PLUS s,1MINUS,1EQUALS s,",
     "1m PARENTHESIS,1q PARENTHESIS,1LATIN t o N,0SUBSCRIPT ZERO,1ONE,1TWO,1THREE,1FOUR,1FIVE,1SIX,1SEVEN,",
     "1EIGHT,1NINE,1PLUS s,1MINUS,1EQUALS s,1m PARENTHESIS,1q PARENTHESIS,,0LATIN SUBSCRIPT t o A,4E,4O,4X,",
     "4SCHWA,4H,4K,4L,4M,4N,4P,4S,4T,,,,0EURO-CURRENCY s,0COLON s,0CRUZEIRO s,0FRENCH FRANC s,0LIRA s,0MILL s,",
     "0NAIRA s,0PESETA s,0RUPEE s,0WON s,0NEW SHEQEL s,0DONG s,0EURO s,0KIP s,0TUGRIK s,0DRACHMA s,",
     "0GERMAN PENNY s,0PESO s,0GUARANI s,0AUSTRAL s,0HRYVNIA s,0CEDI s,0LIVRE TOURNOIS s,0SPESMILO s,0TENGE s,",
     "0INDIAN RUPEE s,0TURKISH LIRA s,0NORDIC MARK s,0MANAT s,0RUBLE s,0LARI s,0BITCOIN s"]⟩,
   ⟨0x2100,
    ["0ACCOUNT OF,0ADDRESSED TO THE SUBJECT,0DOUBLE-STRUCK e C,0DEGREE CELSIUS,0CENTRE LINE v,0CARE OF,",
     "0CADA UNA,0EULER CONSTANT,0SCRUPLE,0DEGREE FAHRENHEIT,0SCRIPT t G,1e H,0BLACK-LETTER e H,",
     "0DOUBLE-STRUCK e H,0PLANCK CONSTANT,2OVER TWO PI,0SCRIPT e I,0BLACK-LETTER e I,0SCRIPT e L,1t L,",
     "0L B BAR v,0DOUBLE-STRUCK e N,0NUMERO s,0SOUND RECORDING COPYRIGHT,0SCRIPT e P,0DOUBLE-STRUCK e P,2Q,",
     "0SCRIPT e R,0BLACK-LETTER e R,0DOUBLE-STRUCK e R,0PRESCRIPTION TAKE,0RESPONSE,0SERVICE MARK,",
     "0TELEPHONE s,0TRADE MARK s,0VERSICLE,0DOUBLE-STRUCK e Z,0OUNCE s,0OHM s,0INVERTED OHM s,",
     "0BLACK-LETTER e Z,0TURNED GREEK t o IOTA,0KELVIN s,0ANGSTROM s,0SCRIPT e B,0BLACK-LETTER e C,",
     "0ESTIMATED v,0SCRIPT t E,1e E,2F,0TURNED e F,0SCRIPT e M,1t O,0ALEF v,0BET v,0GIMEL v,0DALET v,",
     "0INFORMATION SOURCE,0ROTATED e Q,0FACSIMILE s,0DOUBLE-STRUCK t PI,2GAMMA,1e GAMMA,2PI,1N-ARY SUMMATION,",
     "0TURNED SANS-SERIF e G,3L,0REVERSED SANS-SERIF e L,0TURNED SANS-SERIF e Y,0DOUBLE-STRUCK ITALIC e D,",
     "2t D,3E,3I,3J,0PROPERTY LINE,0TURNED AMPERSAND,0PER s,0AKTIESELSKAB,0TURNED t F,0v FOR SAMARITAN SOURCE"]⟩,
   ⟨0x2150,
    ["0VULGAR FRACTION ONE SEVENTH,3NINTH,3TENTH,3THIRD,2TWO THIRDS,2ONE FIFTH,2TWO FIFTHS,2THREE FIFTHS,",
     "2FOUR FIFTHS,2ONE SIXTH,2FIVE SIXTHS,2ONE EIGHTH,2THREE EIGHTHS,2FIVE EIGHTHS,2SEVEN EIGHTHS,",
     "0FRACTION NUMERATOR ONE,0ROMAN NUMERAL ONE,2TWO,2THREE,2FOUR,2FIVE,2SIX,2SEVEN,2EIGHT,2NINE,2TEN,",
     "2ELEVEN,2TWELVE,2FIFTY,2ONE HUNDRED,2FIVE HUNDRED,2ONE THOUSAND,0t ROMAN NUMERAL ONE,3TWO,3THREE,3FOUR,",
     "3FIVE,3SIX,3SEVEN,3EIGHT,3NINE,3TEN,3ELEVEN,3TWELVE,3FIFTY,3ONE HUNDRED,3FIVE HUNDRED,3ONE THOUSAND,",
     "0ROMAN NUMERAL ONE THOUSAND C D,2FIVE THOUSAND,2TEN THOUSAND,2REVERSED ONE HUNDRED,",
     "0LATIN t o REVERSED C,0ROMAN NUMERAL SIX LATE FORM,2FIFTY EARLY FORM,3THOUSAND,2ONE HUNDRED THOUSAND,",
     "0VULGAR FRACTION ZERO THIRDS,0TURNED DIGIT TWO,2THREE"]⟩,
   ⟨0x2190,
    ["0n b,0UPWARDS b,0r b,0DOWNWARDS b,0m q b,0UP DOWN b,0NORTH WEST b,1EAST b,0SOUTH EAST b,1WEST b,",
     "0n b z u,0r b z u,0n WAVE b,0r WAVE b,0n TWO HEADED b,0UPWARDS TWO HEADED b,0r TWO HEADED b,",
     "0DOWNWARDS TWO HEADED b,0n b z TAIL,0r b z TAIL,0n b FROM BAR,0UPWARDS b FROM BAR,0r b FROM BAR,",
     "0DOWNWARDS b FROM BAR,0UP DOWN b z BASE,0n b z HOOK,0r b z HOOK,0n b z LOOP,0r b z LOOP,0m q WAVE b,",
     "2b z u,0DOWNWARDS ZIGZAG b,0UPWARDS b z TIP n,4r,0DOWNWARDS b z TIP n,4r,0r b z CORNER DOWNWARDS,",
     "0DOWNWARDS b z CORNER n,0ANTICLOCKWISE TOP SEMICIRCLE b,0CLOCKWISE TOP SEMICIRCLE b,",
     "0NORTH WEST b TO LONG BAR,0n b TO BAR OVER r b TO BAR,0ANTICLOCKWISE OPEN CIRCLE b,",
     "0CLOCKWISE OPEN CIRCLE b,0n HARPOON z BARB UPWARDS,4DOWNWARDS,0UPWARDS HARPOON z BARB r,4n,",
     "0r HARPOON z BARB UPWARDS,4DOWNWARDS,0DOWNWARDS HARPOON z BARB r,4n,0r b OVER n b,",
     "0UPWARDS b n OF DOWNWARDS b,0n b OVER r b,1PAIRED ARROWS,0UPWARDS PAIRED ARROWS,0r PAIRED ARROWS,",
     "0DOWNWARDS PAIRED ARROWS,0n HARPOON OVER r HARPOON,0r HARPOON OVER n HARPOON,0n h b z u,0m q h b z u,",
     "0r h b z u,0n h b,0UPWARDS h b,0r h b,0DOWNWARDS h b,0m q h b,0UP DOWN h b,0NORTH WEST h b,1EAST h b,",
     "0SOUTH EAST h b,1WEST h b,0n TRIPLE b,0r TRIPLE b,0n SQUIGGLE b,0r SQUIGGLE b,0UPWARDS b z h u,",
     "0DOWNWARDS b z h u,0n DASHED b,0UPWARDS DASHED b,0r DASHED b,0DOWNWARDS DASHED b,0n b TO BAR,",
     "0r b TO BAR,0n y b,0UPWARDS y b,0r y b,0DOWNWARDS y b,0UPWARDS y b FROM BAR,3ON PEDESTAL,5z l BAR,",
     "6x BAR,2h b,4ON PEDESTAL,0r y b FROM WALL,0NORTH WEST b TO CORNER,0SOUTH EAST b TO CORNER,0UP DOWN y b,",
     "0q b z t CIRCLE,0DOWNWARDS b n OF UPWARDS b,0THREE r ARROWS,0n b z x u,0r b z x u,0m q b z x u,",
     "0n b z h x u,0r b z h x u,0m q b z h x u,0n OPEN-HEADED b,0r OPEN-HEADED b,0m q OPEN-HEADED b"]⟩,
   ⟨0x2200,
    ["0FOR ALL,0COMPLEMENT,0PARTIAL DIFFERENTIAL,0THERE EXISTS,1DOES NOT EXIST,0EMPTY SET,0INCREMENT,0NABLA,",
     "0ELEMENT OF,0NOT AN ELEMENT OF,0t ELEMENT OF,0CONTAINS AS MEMBER,0DOES NOT CONTAIN AS MEMBER,",
     "0t CONTAINS AS MEMBER,0END OF PROOF,0N-ARY PRODUCT,1COPRODUCT,1SUMMATION,0MINUS s,0MINUS-OR-PLUS s,",
     "0DOT PLUS,0DIVISION SLASH,0SET MINUS,0ASTERISK OPERATOR,0RING OPERATOR,0BULLET OPERATOR,0SQUARE ROOT,",
     "0CUBE ROOT,0FOURTH ROOT,0PROPORTIONAL TO,0INFINITY,0q ANGLE,0ANGLE,0MEASURED ANGLE,0SPHERICAL ANGLE,",
     "0DIVIDES,0DOES NOT DIVIDE,0PARALLEL TO,0NOT PARALLEL TO,0LOGICAL a,1OR,0INTERSECTION,0UNION,0INTEGRAL,",
     "0h INTEGRAL,0TRIPLE INTEGRAL,0CONTOUR INTEGRAL,0SURFACE INTEGRAL,0VOLUME INTEGRAL,0CLOCKWISE INTEGRAL,",
     "1CONTOUR INTEGRAL,0ANTICLOCKWISE CONTOUR INTEGRAL,0THEREFORE,0BECAUSE,0RATIO,0PROPORTION,0DOT MINUS,",
     "0EXCESS,0GEOMETRIC PROPORTION,0HOMOTHETIC,0TILDE OPERATOR,0REVERSED TILDE,0INVERTED LAZY S,0SINE WAVE,",
     "0WREATH PRODUCT,0NOT TILDE,0MINUS TILDE,0ASYMPTOTICALLY EQUAL TO,0NOT ASYMPTOTICALLY EQUAL TO,",
     "0APPROXIMATELY EQUAL TO,1BUT NOT ACTUALLY EQUAL TO,0NEITHER APPROXIMATELY NOR ACTUALLY EQUAL TO,",
     "0ALMOST EQUAL TO,0NOT ALMOST EQUAL TO,0ALMOST EQUAL OR EQUAL TO,0TRIPLE TILDE,0ALL EQUAL TO,",
     "0EQUIVALENT TO,0GEOMETRICALLY EQUIVALENT TO,0DIFFERENCE BETWEEN,0APPROACHES THE LIMIT,",
     "0GEOMETRICALLY EQUAL TO,0APPROXIMATELY EQUAL TO OR THE IMAGE OF,0IMAGE OF OR APPROXIMATELY EQUAL TO,",
     "0COLON EQUALS,0EQUALS COLON,0RING IN EQUAL TO,1EQUAL TO,0CORRESPONDS TO,0ESTIMATES,0EQUIANGULAR TO,",
     "0STAR EQUALS,0DELTA EQUAL TO,0EQUAL TO BY DEFINITION,0MEASURED BY,0QUESTIONED EQUAL TO,0NOT EQUAL TO,",
     "0IDENTICAL TO,0NOT IDENTICAL TO,0STRICTLY EQUIVALENT TO,0LESS-THAN OR EQUAL TO,0j OR EQUAL TO,",
     "0LESS-THAN OVER EQUAL TO,0j OVER EQUAL TO,0LESS-THAN BUT NOT EQUAL TO,0j BUT NOT EQUAL TO,",
     "0MUCH LESS-THAN,1j,0BETWEEN,0NOT EQUIVALENT TO,1LESS-THAN,1j,0NEITHER LESS-THAN NOR EQUAL TO,",
     "1j NOR EQUAL TO,0LESS-THAN OR EQUIVALENT TO,0j OR EQUIVALENT TO,0NEITHER LESS-THAN NOR EQUIVALENT TO,",
     "1j NOR EQUIVALENT TO,0LESS-THAN OR j,0j OR LESS-THAN,0NEITHER LESS-THAN NOR j,1j NOR LESS-THAN,",
     "0PRECEDES,0SUCCEEDS,0PRECEDES OR EQUAL TO,0SUCCEEDS OR EQUAL TO,0PRECEDES OR EQUIVALENT TO,",
     "0SUCCEEDS OR EQUIVALENT TO,0DOES NOT PRECEDE,2SUCCEED,0SUBSET OF,0SUPERSET OF,0NOT A SUBSET OF,",
     "2SUPERSET OF,0SUBSET OF OR EQUAL TO,0SUPERSET OF OR EQUAL TO,0NEITHER A SUBSET OF NOR EQUAL TO,",
     "2SUPERSET OF NOR EQUAL TO,0SUBSET OF z NOT EQUAL TO,0SUPERSET OF z NOT EQUAL TO,0MULTISET,",
     "1MULTIPLICATION,1UNION,0SQUARE IMAGE OF,1ORIGINAL OF,1IMAGE OF OR EQUAL TO,1ORIGINAL OF OR EQUAL TO,",
     "1CAP,1CUP,0CIRCLED PLUS,1MINUS,1TIMES,1DIVISION SLASH,1DOT OPERATOR,1RING OPERATOR,1ASTERISK OPERATOR,",
     "1EQUALS,1DASH,0SQUARED PLUS,1MINUS,1TIMES,1DOT OPERATOR,0q TACK,0m TACK,0DOWN TACK,0UP TACK,0ASSERTION,",
     "0MODELS,0TRUE,0FORCES,0TRIPLE x BAR q TURNSTILE,0h x BAR h q TURNSTILE,0DOES NOT PROVE,0NOT TRUE,",
     "0DOES NOT FORCE,0NEGATED h x BAR h q TURNSTILE,0PRECEDES UNDER RELATION,0SUCCEEDS UNDER RELATION,",
     "0NORMAL SUBGROUP OF,0CONTAINS AS NORMAL SUBGROUP,0NORMAL SUBGROUP OF OR EQUAL TO,",
     "0CONTAINS AS NORMAL SUBGROUP OR EQUAL TO,0ORIGINAL OF,0IMAGE OF,0MULTIMAP,0HERMITIAN CONJUGATE MATRIX,",
     "0INTERCALATE,0XOR,0NAND,0NOR,0q ANGLE z ARC,1w,0N-ARY LOGICAL a,2OR,1INTERSECTION,1UNION,",
     "0DIAMOND OPERATOR,0DOT OPERATOR,0STAR OPERATOR,0DIVISION TIMES,0BOWTIE,",
     "0m NORMAL FACTOR SEMIDIRECT PRODUCT,0q NORMAL FACTOR SEMIDIRECT PRODUCT,0m SEMIDIRECT PRODUCT,",
     "0q SEMIDIRECT PRODUCT,0REVERSED TILDE EQUALS,0CURLY LOGICAL OR,2a,0h SUBSET,1SUPERSET,1INTERSECTION,",
     "1UNION,0PITCHFORK,0EQUAL a PARALLEL TO,0LESS-THAN z DOT,0j z DOT,0VERY MUCH LESS-THAN,2j,",
     "0LESS-THAN EQUAL TO OR j,0j EQUAL TO OR LESS-THAN,0EQUAL TO OR LESS-THAN,3j,3PRECEDES,3SUCCEEDS,",
     "0DOES NOT PRECEDE OR EQUAL,2SUCCEED OR EQUAL,0NOT SQUARE IMAGE OF OR EQUAL TO,2ORIGINAL OF OR EQUAL TO,",
     "0SQUARE IMAGE OF OR NOT EQUAL TO,1ORIGINAL OF OR NOT EQUAL TO,0LESS-THAN BUT NOT EQUIVALENT TO,",
     "0j BUT NOT EQUIVALENT TO,0PRECEDES BUT NOT EQUIVALENT TO,0SUCCEEDS BUT NOT EQUIVALENT TO,",
     "0NOT NORMAL SUBGROUP OF,0DOES NOT CONTAIN AS NORMAL SUBGROUP,0NOT NORMAL SUBGROUP OF OR EQUAL TO,",
     "0DOES NOT CONTAIN AS NORMAL SUBGROUP OR EQUAL,0x ELLIPSIS,0MIDLINE l ELLIPSIS,0UP q DIAGONAL ELLIPSIS,",
     "0DOWN q DIAGONAL ELLIPSIS,0ELEMENT OF z LONG l u,3x BAR AT END OF l u,",
     "0t ELEMENT OF z x BAR AT END OF l u,0ELEMENT OF z DOT ABOVE,3OVERBAR,0t ELEMENT OF z OVERBAR,",
     "0ELEMENT OF z UNDERBAR,3TWO l STROKES,0CONTAINS z LONG l u,2x BAR AT END OF l u,",
     "0t CONTAINS z x BAR AT END OF l u,0CONTAINS z OVERBAR,0t CONTAINS z OVERBAR,0Z NOTATION BAG MEMBERSHIP"]⟩,
   ⟨0x2300,
    ["0DIAMETER s,0ELECTRIC b,0HOUSE,0UP ARROWHEAD,0DOWN ARROWHEAD,0PROJECTIVE,0PERSPECTIVE,0WAVY LINE,",
     "0m CEILING,0q CEILING,0m FLOOR,0q FLOOR,0BOTTOM q CROP,1m CROP,0TOP q CROP,1m CROP,0REVERSED NOT s,",
     "0SQUARE LOZENGE,0ARC,0SEGMENT,0SECTOR,0TELEPHONE RECORDER,0POSITION INDICATOR,0VIEWDATA SQUARE,",
     "0PLACE OF INTEREST s,0TURNED NOT s,0WATCH,0HOURGLASS,0TOP m CORNER,1q CORNER,0BOTTOM m CORNER,1q CORNER,",
     "0TOP HALF INTEGRAL,0BOTTOM HALF INTEGRAL,0FROWN,0SMILE,0UP ARROWHEAD BETWEEN TWO l BARS,0OPTION KEY,",
     "0ERASE TO THE q,0X IN A RECTANGLE BOX,0KEYBOARD,0LEFT-POINTING ANGLE d,0RIGHT-POINTING ANGLE d,",
     "0ERASE TO THE m,0BENZENE RING,0CYLINDRICITY,0ALL AROUND-PROFILE,0SYMMETRY,0TOTAL RUNOUT,",
     "0DIMENSION ORIGIN,0CONICAL TAPER,0SLOPE,0COUNTERBORE,0COUNTERSINK,0APL FUNCTIONAL v I-BEAM,3SQUISH QUAD,",
     "3QUAD EQUAL,4DIVIDE,4DIAMOND,4JOT,4CIRCLE,3CIRCLE STILE,4JOT,3SLASH BAR,3BACKSLASH BAR,3QUAD SLASH,",
     "4BACKSLASH,4LESS-THAN,4j,3n VANE,3r VANE,3QUAD n b,4r b,3CIRCLE BACKSLASH,3DOWN TACK UNDERBAR,",
     "3DELTA STILE,3QUAD DOWN CARET,4DELTA,3DOWN TACK JOT,3UPWARDS VANE,3QUAD UPWARDS b,3UP TACK OVERBAR,",
     "3DEL STILE,3QUAD UP CARET,4DEL,3UP TACK JOT,3DOWNWARDS VANE,3QUAD DOWNWARDS b,3QUOTE UNDERBAR,",
     "3DELTA UNDERBAR,3DIAMOND UNDERBAR,3JOT UNDERBAR,3CIRCLE UNDERBAR,3UP SHOE JOT,3QUOTE QUAD,3CIRCLE STAR,",
     "3QUAD COLON,3UP TACK g,3DEL g,3STAR g,3JOT g,3CIRCLE g,3DOWN SHOE STILE,3m SHOE STILE,3TILDE g,3j g,",
     "3COMMA BAR,3DEL TILDE,3ZILDE,3STILE TILDE,3SEMICOLON UNDERBAR,3QUAD NOT EQUAL,4QUESTION,",
     "3DOWN CARET TILDE,3UP CARET TILDE,3IOTA,3RHO,3OMEGA,3ALPHA UNDERBAR,3EPSILON UNDERBAR,3IOTA UNDERBAR,",
     "3OMEGA UNDERBAR,3ALPHA,0NOT CHECK MARK,0q ANGLE z DOWNWARDS ZIGZAG b,0SHOULDERED OPEN BOX,0BELL v,",
     "0x LINE z MIDDLE DOT,0INSERTION v,0CONTINUOUS UNDERLINE v,0DISCONTINUOUS UNDERLINE v,0EMPHASIS v,",
     "0COMPOSITION v,0y SQUARE z CENTRE x LINE,0ENTER v,0ALTERNATIVE KEY v,0HELM v,0CIRCLED l BAR z NOTCH,",
     "1w DOWN,0BROKEN CIRCLE z NORTHWEST b,0UNDO v,0MONOSTABLE v,0HYSTERESIS v,0OPEN-CIRCUIT-OUTPUT H-TYPE v,",
     "1L-TYPE v,0PASSIVE-PULL-DOWN-OUTPUT v,0PASSIVE-PULL-UP-OUTPUT v,0DIRECT CURRENT v FORM TWO,",
     "0SOFTWARE-FUNCTION v,0APL FUNCTIONAL v QUAD,0DECIMAL SEPARATOR KEY v,0PREVIOUS PAGE,0NEXT PAGE,",
     "0PRINT SCREEN v,0CLEAR SCREEN v,0m PARENTHESIS UPPER HOOK,2EXTENSION,2LOWER HOOK,",
     "0q PARENTHESIS UPPER HOOK,2EXTENSION,2LOWER HOOK,0m SQUARE d UPPER CORNER,3EXTENSION,3LOWER CORNER,",
     "0q SQUARE d UPPER CORNER,3EXTENSION,3LOWER CORNER,0m CURLY d UPPER HOOK,3MIDDLE PIECE,3LOWER HOOK,",
     "0CURLY d EXTENSION,0q CURLY d UPPER HOOK,3MIDDLE PIECE,3LOWER HOOK,0INTEGRAL EXTENSION,",
     "0l LINE EXTENSION,0UPPER m OR LOWER q CURLY d SECTION,1q OR LOWER m CURLY d SECTION,0SUMMATION TOP,",
     "1BOTTOM,0TOP SQUARE d,0BOTTOM SQUARE d,3OVER TOP SQUARE d,0RADICAL v BOTTOM,0m x BOX LINE,0q x BOX LINE,",
     "0l SCAN LINE-1,2LINE-3,2LINE-7,2LINE-9,0DENTISTRY v p x a TOP q,5BOTTOM q,4z CIRCLE,3DOWN a l z CIRCLE,",
     "3UP a l z CIRCLE,3x z w,3DOWN a l z w,3UP a l z w,3x a WAVE,3DOWN a l z WAVE,3UP a l z WAVE,3DOWN a l,",
     "3UP a l,3x a TOP m,5BOTTOM m,0SQUARE FOOT,0RETURN v,0EJECT v,0x LINE EXTENSION,0METRICAL BREVE,",
     "1LONG OVER SHORT,1SHORT OVER LONG,1LONG OVER TWO SHORTS,1TWO SHORTS OVER LONG,3JOINED,1TRISEME,",
     "1TETRASEME,1PENTASEME,0EARTH GROUND,0FUSE,0TOP PARENTHESIS,0BOTTOM PARENTHESIS,0TOP CURLY d,",
     "0BOTTOM CURLY d,0TOP TORTOISE SHELL d,0BOTTOM TORTOISE SHELL d,0y TRAPEZIUM,0BENZENE RING z CIRCLE,",
     "0STRAIGHTNESS,0FLATNESS,0AC CURRENT,0ELECTRICAL INTERSECTION,0DECIMAL EXPONENT v,0c RIGHT-POINTING h w,",
     "1LEFT-POINTING h w,1UP-POINTING h w,1DOWN-POINTING h w,1RIGHT-POINTING h w z x BAR,",
     "1LEFT-POINTING h w z x BAR,1RIGHT-POINTING w z h x BAR,0ALARM CLOCK,0STOPWATCH,0TIMER CLOCK,",
     "0HOURGLASS z FLOWING SAND,0c MEDIUM LEFT-POINTING w,2RIGHT-POINTING w,2UP-POINTING w,2DOWN-POINTING w,",
     "0h x BAR,0c SQUARE FOR STOP,1CIRCLE FOR RECORD,0POWER v,1ON-OFF v,1ON v,1SLEEP v,0OBSERVER EYE v"]⟩,
   ⟨0x2500,
    ["0BOX DRAWINGS p l,2k l,2p x,2k x,2p TRIPLE DASH l,2k TRIPLE DASH l,2p TRIPLE DASH x,2k TRIPLE DASH x,",
     "2p QUADRUPLE DASH l,2k QUADRUPLE DASH l,2p QUADRUPLE DASH x,2k QUADRUPLE DASH x,2p DOWN a q,",
     "2DOWN p a q k,3k a q p,2k DOWN a q,2p DOWN a m,2DOWN p a m k,3k a m p,2k DOWN a m,2p UP a q,2UP p a q k,",
     "3k a q p,2k UP a q,2p UP a m,2UP p a m k,3k a m p,2k UP a m,2p x a q,2x p a q k,2UP k a q DOWN p,",
     "2DOWN k a q UP p,2x k a q p,2DOWN p a q UP k,2UP p a q DOWN k,2k x a q,2p x a m,2x p a m k,",
     "2UP k a m DOWN p,2DOWN k a m UP p,2x k a m p,2DOWN p a m UP k,2UP p a m DOWN k,2k x a m,2p DOWN a l,",
     "2m k a q DOWN p,2q k a m DOWN p,2DOWN p a l k,3k a l p,2q p a m DOWN k,2m p a q DOWN k,2k DOWN a l,",
     "2p UP a l,2m k a q UP p,2q k a m UP p,2UP p a l k,3k a l p,2q p a m UP k,2m p a q UP k,2k UP a l,",
     "2p x a l,2m k a q x p,2q k a m x p,2x p a l k,2UP k a DOWN l p,2DOWN k a UP l p,2x k a l p,",
     "2m UP k a q DOWN p,2q UP k a m DOWN p,2m DOWN k a q UP p,2q DOWN k a m UP p,2DOWN p a UP l k,",
     "2UP p a DOWN l k,2q p a m x k,2m p a q x k,2k x a l,2p h DASH l,2k h DASH l,2p h DASH x,2k h DASH x,",
     "2h l,3x,2DOWN SINGLE a q h,3h a q SINGLE,2h DOWN a q,2DOWN SINGLE a m h,3h a m SINGLE,2h DOWN a m,",
     "2UP SINGLE a q h,3h a q SINGLE,2h UP a q,2UP SINGLE a m h,3h a m SINGLE,2h UP a m,2x SINGLE a q h,",
     "3h a q SINGLE,2h x a q,2x SINGLE a m h,3h a m SINGLE,2h x a m,2DOWN SINGLE a l h,3h a l SINGLE,",
     "2h DOWN a l,2UP SINGLE a l h,3h a l SINGLE,2h UP a l,2x SINGLE a l h,3h a l SINGLE,2h x a l,",
     "2p ARC DOWN a q,6m,4UP a m,6q,3DIAGONAL UPPER q TO LOWER m,5m TO LOWER q,4CROSS,3m,3UP,3q,3DOWN,2k m,",
     "3UP,3q,3DOWN,2p m a k q,3UP a k DOWN,2k m a p q,3UP a p DOWN,0UPPER HALF BLOCK,0LOWER ONE EIGHTH BLOCK,",
     "2QUARTER BLOCK,1THREE EIGHTHS BLOCK,1HALF BLOCK,1FIVE EIGHTHS BLOCK,1THREE QUARTERS BLOCK,",
     "1SEVEN EIGHTHS BLOCK,0FULL BLOCK,0m SEVEN EIGHTHS BLOCK,1THREE QUARTERS BLOCK,1FIVE EIGHTHS BLOCK,",
     "1HALF BLOCK,1THREE EIGHTHS BLOCK,1ONE QUARTER BLOCK,2EIGHTH BLOCK,0q HALF BLOCK,0p SHADE,0MEDIUM SHADE,",
     "0DARK SHADE,0UPPER ONE EIGHTH BLOCK,0q ONE EIGHTH BLOCK,0QUADRANT LOWER m,2q,1UPPER m,",
     "3a LOWER m a LOWER q,5q,4UPPER q a LOWER m,8q,2q,3a LOWER m,6a LOWER q"]⟩,
   ⟨0x25a0,
    ["0c SQUARE,0y SQUARE,2z ROUNDED CORNERS,2CONTAINING c t SQUARE,0SQUARE z l FILL,2x FILL,",
     "2ORTHOGONAL CROSSHATCH FILL,2UPPER m TO LOWER q FILL,3q TO LOWER m FILL,2DIAGONAL CROSSHATCH FILL,",
     "0c t SQUARE,0y t SQUARE,0c RECTANGLE,0y RECTANGLE,0c x RECTANGLE,0y x RECTANGLE,0c PARALLELOGRAM,",
     "0y PARALLELOGRAM,0c UP-POINTING w,0y UP-POINTING w,0c UP-POINTING t w,0y UP-POINTING t w,",
     "0c RIGHT-POINTING w,0y RIGHT-POINTING w,0c RIGHT-POINTING t w,0y RIGHT-POINTING t w,",
     "0c RIGHT-POINTING POINTER,0y RIGHT-POINTING POINTER,0c DOWN-POINTING w,0y DOWN-POINTING w,",
     "0c DOWN-POINTING t w,0y DOWN-POINTING t w,0c LEFT-POINTING w,0y LEFT-POINTING w,0c LEFT-POINTING t w,",
     "0y LEFT-POINTING t w,0c LEFT-POINTING POINTER,0y LEFT-POINTING POINTER,0c DIAMOND,0y DIAMOND,",
     "2CONTAINING c t DIAMOND,0FISHEYE,0LOZENGE,0y CIRCLE,0DOTTED CIRCLE,0CIRCLE z x FILL,0BULLSEYE,0c CIRCLE,",
     "0CIRCLE z m HALF c,2q HALF c,2LOWER HALF c,2UPPER HALF c,3q QUADRANT c,2ALL BUT UPPER m QUADRANT c,",
     "0m HALF c CIRCLE,0q HALF c CIRCLE,0INVERSE BULLET,1y CIRCLE,0UPPER HALF INVERSE y CIRCLE,",
     "0LOWER HALF INVERSE y CIRCLE,0UPPER m QUADRANT CIRCULAR ARC,1q QUADRANT CIRCULAR ARC,",
     "0LOWER q QUADRANT CIRCULAR ARC,1m QUADRANT CIRCULAR ARC,0UPPER HALF CIRCLE,0LOWER HALF CIRCLE,",
     "0c LOWER q w,2m w,1UPPER m w,2q w,0y BULLET,0SQUARE z m HALF c,2q HALF c,2UPPER m DIAGONAL HALF c,",
     "2LOWER q DIAGONAL HALF c,0y SQUARE z x BISECTING LINE,1UP-POINTING w z DOT,0UP-POINTING w z m HALF c,",
     "3q HALF c,0LARGE CIRCLE,0y SQUARE z UPPER m QUADRANT,3LOWER m QUADRANT,4q QUADRANT,3UPPER q QUADRANT,",
     "1CIRCLE z UPPER m QUADRANT,3LOWER m QUADRANT,4q QUADRANT,3UPPER q QUADRANT,0UPPER m w,1q w,0LOWER m w,",
     "0y MEDIUM SQUARE,0c MEDIUM SQUARE,0y MEDIUM t SQUARE,0c MEDIUM t SQUARE,0LOWER q w"]⟩,
   ⟨0x2600,
    ["0c SUN z RAYS,0CLOUD,0UMBRELLA,0SNOWMAN,0COMET,0c STAR,0y STAR,0LIGHTNING,0THUNDERSTORM,0SUN,",
     "0ASCENDING NODE,0DESCENDING NODE,0CONJUNCTION,0OPPOSITION,0c TELEPHONE,0y TELEPHONE,0BALLOT BOX,",
     "2z CHECK,3X,0SALTIRE,0UMBRELLA z RAIN DROPS,0HOT BEVERAGE,0y SHOGI PIECE,0c SHOGI PIECE,0SHAMROCK,",
     "0REVERSED ROTATED FLORAL HEART BULLET,0c m POINTING INDEX,1q POINTING INDEX,0y m POINTING INDEX,",
     "1UP POINTING INDEX,1q POINTING INDEX,1DOWN POINTING INDEX,0SKULL a CROSSBONES,0CAUTION s,0RADIOACTIVE s,",
     "0BIOHAZARD s,0CADUCEUS,0ANKH,0ORTHODOX CROSS,0CHI RHO,0CROSS OF LORRAINE,2JERUSALEM,0STAR a CRESCENT,",
     "0FARSI v,0ADI SHAKTI,0HAMMER a SICKLE,0PEACE v,0YIN YANG,0TRIGRAM FOR HEAVEN,2LAKE,2FIRE,2THUNDER,2WIND,",
     "2WATER,2MOUNTAIN,2EARTH,0WHEEL OF DHARMA,0y FROWNING i,1SMILING i,0c SMILING i,0y SUN z RAYS,",
     "0FIRST QUARTER MOON,0LAST QUARTER MOON,0MERCURY,0FEMALE s,0EARTH,0MALE s,0JUPITER,0SATURN,0URANUS,",
     "0NEPTUNE,0PLUTO,0ARIES,0TAURUS,0GEMINI,0CANCER,0LEO,0VIRGO,0LIBRA,0SCORPIUS,0SAGITTARIUS,0CAPRICORN,",
     "0AQUARIUS,0PISCES,0y CHESS KING,2QUEEN,2ROOK,2BISHOP,2KNIGHT,2PAWN,0c CHESS KING,2QUEEN,2ROOK,2BISHOP,",
     "2KNIGHT,2PAWN,1SPADE SUIT,0y HEART SUIT,1DIAMOND SUIT,0c CLUB SUIT,0y SPADE SUIT,0c HEART SUIT,",
     "1DIAMOND SUIT,0y CLUB SUIT,0HOT SPRINGS,0QUARTER NOTE,0EIGHTH NOTE,0BEAMED EIGHTH NOTES,",
     "1SIXTEENTH NOTES,0MUSIC FLAT s,1NATURAL s,1SHARP s,0WEST SYRIAC CROSS,0EAST SYRIAC CROSS,",
     "0UNIVERSAL RECYCLING v,0RECYCLING v FOR TYPE-1 PLASTICS,3TYPE-2 PLASTICS,3TYPE-3 PLASTICS,",
     "3TYPE-4 PLASTICS,3TYPE-5 PLASTICS,3TYPE-6 PLASTICS,3TYPE-7 PLASTICS,3GENERIC MATERIALS,",
     "0c UNIVERSAL RECYCLING v,0RECYCLED PAPER v,0PARTIALLY-RECYCLED PAPER v,0PERMANENT PAPER s,0WHEELCHAIR v,",
     "0DIE FACE-1,1FACE-2,1FACE-3,1FACE-4,1FACE-5,1FACE-6,0y CIRCLE z DOT q,3TWO DOTS,0c CIRCLE z y DOT q,",
     "3TWO y DOTS,0MONOGRAM FOR YANG,2YIN,0DIGRAM FOR GREATER YANG,2LESSER YIN,3YANG,2GREATER YIN,0y FLAG,",
     "0c FLAG,0HAMMER a PICK,0ANCHOR,0CROSSED SWORDS,0STAFF OF AESCULAPIUS,0SCALES,0ALEMBIC,0FLOWER,0GEAR,",
     "0STAFF OF HERMES,0ATOM v,0FLEUR-DE-LIS,0OUTLINED y STAR,0THREE LINES CONVERGING q,3m,0WARNING s,",
     "0HIGH VOLTAGE s,0DOUBLED FEMALE s,1MALE s,0INTERLOCKED FEMALE a MALE s,0MALE a FEMALE s,1z u s,",
     "3a MALE a FEMALE s,0x MALE z u s,0l MALE z u s,0MEDIUM y CIRCLE,1c CIRCLE,1t y CIRCLE,0MARRIAGE v,",
     "0DIVORCE v,0UNMARRIED PARTNERSHIP v,0COFFIN,0FUNERAL URN,0NEUTER,0CERES,0PALLAS,0JUNO,0VESTA,0CHIRON,",
     "0c MOON LILITH,0SEXTILE,0SEMISEXTILE,0QUINCUNX,0SESQUIQUADRATE,0SOCCER BALL,0BASEBALL,0SQUARED KEY,",
     "0y DRAUGHTS MAN,2KING,0c DRAUGHTS MAN,2KING,0SNOWMAN WITHOUT SNOW,0SUN BEHIND CLOUD,0RAIN,0c SNOWMAN,",
     "0THUNDER CLOUD a RAIN,0TURNED y SHOGI PIECE,1c SHOGI PIECE,0y DIAMOND IN SQUARE,0CROSSING LANES,",
     "0DISABLED CAR,0OPHIUCHUS,0PICK,0CAR SLIDING,0HELMET z y CROSS,0CIRCLED CROSSING LANES,0CHAINS,0NO ENTRY,",
     "0ALTERNATE ONE-WAY m WAY TRAFFIC,0c TWO-WAY m WAY TRAFFIC,0y TWO-WAY m WAY TRAFFIC,0c m LANE MERGE,",
     "0y m LANE MERGE,0DRIVE SLOW s,0k y DOWN-POINTING w,0m CLOSED ENTRY,0SQUARED SALTIRE,",
     "0FALLING DIAGONAL IN y CIRCLE IN c SQUARE,0c TRUCK,0RESTRICTED m ENTRY-1,2ENTRY-2,",
     "0ASTRONOMICAL v FOR URANUS,0k CIRCLE z u a TWO DOTS ABOVE,0PENTAGRAM,0RIGHT-HANDED INTERLACED PENTAGRAM,",
     "0LEFT-HANDED INTERLACED PENTAGRAM,0INVERTED PENTAGRAM,0c CROSS ON SHIELD,0SHINTO SHRINE,0CHURCH,0CASTLE,",
     "0HISTORIC SITE,0GEAR WITHOUT HUB,1z HANDLES,0MAP v FOR LIGHTHOUSE,0MOUNTAIN,0UMBRELLA ON GROUND,",
     "0FOUNTAIN,0FLAG IN HOLE,0FERRY,0SAILBOAT,0SQUARE FOUR CORNERS,0SKIER,0ICE SKATE,0PERSON z BALL,0TENT,",
     "0JAPANESE BANK v,0HEADSTONE GRAVEYARD v,0FUEL PUMP,0CUP ON c SQUARE,0y FLAG z l MIDDLE c STRIPE"]⟩,
   ⟨0x2700,
    ["0c SAFETY SCISSORS,0UPPER BLADE SCISSORS,0c SCISSORS,0LOWER BLADE SCISSORS,0y SCISSORS,1k CHECK MARK,",
     "0TELEPHONE LOCATION s,0TAPE DRIVE,0AIRPLANE,0ENVELOPE,0RAISED FIST,1HAND,0VICTORY HAND,0WRITING HAND,",
     "0LOWER q PENCIL,0PENCIL,0UPPER q PENCIL,0y NIB,0c NIB,0CHECK MARK,0k CHECK MARK,0MULTIPLICATION X,",
     "0k MULTIPLICATION X,0BALLOT X,0k BALLOT X,0OUTLINED GREEK CROSS,0k GREEK CROSS,0OPEN CENTRE CROSS,",
     "0k OPEN CENTRE CROSS,0LATIN CROSS,0SHADOWED y LATIN CROSS,0OUTLINED LATIN CROSS,0MALTESE CROSS,",
     "0STAR OF DAVID,0FOUR TEARDROP-SPOKED ASTERISK,1BALLOON-SPOKED ASTERISK,0k FOUR BALLOON-SPOKED ASTERISK,",
     "0FOUR CLUB-SPOKED ASTERISK,0c FOUR POINTED STAR,0y FOUR POINTED STAR,0SPARKLES,0STRESS OUTLINED y STAR,",
     "0CIRCLED y STAR,0OPEN CENTRE c STAR,0c CENTRE y STAR,0OUTLINED c STAR,0k OUTLINED c STAR,0PINWHEEL STAR,",
     "0SHADOWED y STAR,0k ASTERISK,0OPEN CENTRE ASTERISK,0EIGHT SPOKED ASTERISK,1POINTED c STAR,",
     "2PINWHEEL STAR,0SIX POINTED c STAR,0EIGHT POINTED RECTILINEAR c STAR,",
     "0k EIGHT POINTED RECTILINEAR c STAR,0TWELVE POINTED c STAR,0SIXTEEN POINTED ASTERISK,",
     "0TEARDROP-SPOKED ASTERISK,0OPEN CENTRE TEARDROP-SPOKED ASTERISK,0k TEARDROP-SPOKED ASTERISK,",
     "0SIX PETALLED c a y FLORETTE,0c FLORETTE,0y FLORETTE,0EIGHT PETALLED OUTLINED c FLORETTE,",
     "0CIRCLED OPEN CENTRE EIGHT POINTED STAR,0k TEARDROP-SPOKED PINWHEEL ASTERISK,0SNOWFLAKE,",
     "0TIGHT TRIFOLIATE SNOWFLAKE,0k CHEVRON SNOWFLAKE,0SPARKLE,0k SPARKLE,0BALLOON-SPOKED ASTERISK,",
     "0EIGHT TEARDROP-SPOKED PROPELLER ASTERISK,0k EIGHT TEARDROP-SPOKED PROPELLER ASTERISK,0CROSS MARK,",
     "0SHADOWED y CIRCLE,0NEGATIVE SQUARED CROSS MARK,0LOWER q DROP-SHADOWED y SQUARE,",
     "0UPPER q DROP-SHADOWED y SQUARE,0LOWER q SHADOWED y SQUARE,0UPPER q SHADOWED y SQUARE,",
     "0c QUESTION MARK ORNAMENT,0y QUESTION MARK ORNAMENT,1EXCLAMATION MARK ORNAMENT,0c DIAMOND MINUS y X,",
     "0k EXCLAMATION MARK v,0p x BAR,0MEDIUM x BAR,0k x BAR,1SINGLE TURNED COMMA QUOTATION MARK ORNAMENT,",
     "2COMMA QUOTATION MARK ORNAMENT,1h TURNED COMMA QUOTATION MARK ORNAMENT,2COMMA QUOTATION MARK ORNAMENT,",
     "1LOW SINGLE COMMA QUOTATION MARK ORNAMENT,2h COMMA QUOTATION MARK ORNAMENT,",
     "0CURVED STEM PARAGRAPH s ORNAMENT,0k EXCLAMATION MARK ORNAMENT,1HEART EXCLAMATION MARK ORNAMENT,",
     "1c HEART,0ROTATED k c HEART BULLET,0FLORAL HEART,0ROTATED FLORAL HEART BULLET,",
     "0MEDIUM m PARENTHESIS ORNAMENT,1q PARENTHESIS ORNAMENT,1FLATTENED m PARENTHESIS ORNAMENT,",
     "2q PARENTHESIS ORNAMENT,1LEFT-POINTING ANGLE d ORNAMENT,1RIGHT-POINTING ANGLE d ORNAMENT,",
     "0k LEFT-POINTING ANGLE QUOTATION MARK ORNAMENT,1RIGHT-POINTING ANGLE QUOTATION MARK ORNAMENT,",
     "1LEFT-POINTING ANGLE d ORNAMENT,1RIGHT-POINTING ANGLE d ORNAMENT,0p m TORTOISE SHELL d ORNAMENT,",
     "1q TORTOISE SHELL d ORNAMENT,0MEDIUM m CURLY d ORNAMENT,1q CURLY d ORNAMENT,",
     "0DINGBAT NEGATIVE CIRCLED DIGIT ONE,4TWO,4THREE,4FOUR,4FIVE,4SIX,4SEVEN,4EIGHT,4NINE,3NUMBER TEN,",
     "1CIRCLED SANS-SERIF DIGIT ONE,4TWO,4THREE,4FOUR,4FIVE,4SIX,4SEVEN,4EIGHT,4NINE,3NUMBER TEN,",
     "1NEGATIVE CIRCLED SANS-SERIF DIGIT ONE,5TWO,5THREE,5FOUR,5FIVE,5SIX,5SEVEN,5EIGHT,5NINE,4NUMBER TEN,",
     "0k WIDE-HEADED r b,1PLUS s,1MINUS s,1DIVISION s,1SOUTH EAST b,1r b,1NORTH EAST b,0DRAFTING POINT r b,",
     "0k ROUND-TIPPED r b,0TRIANGLE-HEADED r b,0k TRIANGLE-HEADED r b,0DASHED TRIANGLE-HEADED r b,",
     "0k DASHED TRIANGLE-HEADED r b,0c r b,0THREE-D TOP-LIGHTED r ARROWHEAD,1BOTTOM-LIGHTED r ARROWHEAD,",
     "0c r ARROWHEAD,0k c CURVED DOWNWARDS a r b,3UPWARDS a r b,0SQUAT c r b,0k CONCAVE-POINTED c r b,",
     "0RIGHT-SHADED y r b,0LEFT-SHADED y r b,0BACK-TILTED SHADOWED y r b,0FRONT-TILTED SHADOWED y r b,",
     "0k LOWER RIGHT-SHADOWED y r b,1UPPER RIGHT-SHADOWED y r b,0NOTCHED LOWER RIGHT-SHADOWED y r b,",
     "0CURLY LOOP,0NOTCHED UPPER RIGHT-SHADOWED y r b,0CIRCLED k y r b,0WHITE-FEATHERED r b,",
     "0BLACK-FEATHERED SOUTH EAST b,1r b,1NORTH EAST b,0k BLACK-FEATHERED SOUTH EAST b,2r b,2NORTH EAST b,",
     "0TEARDROP-BARBED r b,0k TEARDROP-SHANKED r b,0WEDGE-TAILED r b,0k WEDGE-TAILED r b,0OPEN-OUTLINED r b,",
     "0h CURLY LOOP"]⟩,
   ⟨0x3000,
    ["0IDEOGRAPHIC SPACE,1COMMA,1FULL STOP,0DITTO MARK,0JAPANESE INDUSTRIAL STANDARD v,",
     "0IDEOGRAPHIC ITERATION MARK,1CLOSING MARK,1NUMBER ZERO,0m ANGLE d,0q ANGLE d,0m h ANGLE d,0q h ANGLE d,",
     "0m CORNER d,0q CORNER d,0m y CORNER d,0q y CORNER d,0m c LENTICULAR d,0q c LENTICULAR d,0POSTAL MARK,",
     "0GETA MARK,0m TORTOISE SHELL d,0q TORTOISE SHELL d,0m y LENTICULAR d,0q y LENTICULAR d,",
     "0m y TORTOISE SHELL d,0q y TORTOISE SHELL d,0m y SQUARE d,0q y SQUARE d,0WAVE DASH,",
     "0REVERSED h PRIME QUOTATION MARK,0h PRIME QUOTATION MARK,0LOW h PRIME QUOTATION MARK"]⟩,
   ⟨0xfb00,
    ["0LATIN t LIGATURE FF,3FI,3FL,3FFI,3FFL,3LONG S T,3ST"]⟩,
   ⟨0xfeff,
    ["0ZERO WIDTH NO-BREAK SPACE"]⟩,
   ⟨0xfffc,
    ["0OBJECT REPLACEMENT CHARACTER,0REPLACEMENT CHARACTER"]⟩,
   ⟨0x1f300,
    ["0CYCLONE,0FOGGY,0CLOSED UMBRELLA,0NIGHT z STARS,0SUNRISE OVER MOUNTAINS,0SUNRISE,0CITYSCAPE AT DUSK,",
     "0SUNSET OVER BUILDINGS,0RAINBOW,0BRIDGE AT NIGHT,0WATER WAVE,0VOLCANO,0MILKY WAY,",
     "0EARTH GLOBE EUROPE-AFRICA,2AMERICAS,2ASIA-AUSTRALIA,0GLOBE z MERIDIANS,0NEW MOON v,",
     "0WAXING CRESCENT MOON v,0FIRST QUARTER MOON v,0WAXING GIBBOUS MOON v,0FULL MOON v,",
     "0WANING GIBBOUS MOON v,0LAST QUARTER MOON v,0WANING CRESCENT MOON v,0CRESCENT MOON,0NEW MOON z i,",
     "0FIRST QUARTER MOON z i,0LAST QUARTER MOON z i,0FULL MOON z i,0SUN z i,0GLOWING STAR,0SHOOTING STAR,",
     "0THERMOMETER,0c DROPLET,0y SUN,2z t CLOUD,2BEHIND CLOUD,4z RAIN,0CLOUD z RAIN,2SNOW,2LIGHTNING,2TORNADO,",
     "0FOG,0WIND BLOWING i,0HOT DOG,0TACO,0BURRITO,0CHESTNUT,0SEEDLING,0EVERGREEN TREE,0DECIDUOUS TREE,",
     "0PALM TREE,0CACTUS,0HOT PEPPER,0TULIP,0CHERRY BLOSSOM,0ROSE,0HIBISCUS,0SUNFLOWER,0BLOSSOM,0EAR OF MAIZE,",
     "2RICE,0HERB,0FOUR LEAF CLOVER,0MAPLE LEAF,0FALLEN LEAF,0LEAF FLUTTERING IN WIND,0MUSHROOM,0TOMATO,",
     "0AUBERGINE,0GRAPES,0MELON,0WATERMELON,0TANGERINE,0LEMON,0BANANA,0PINEAPPLE,0RED APPLE,0GREEN APPLE,",
     "0PEAR,0PEACH,0CHERRIES,0STRAWBERRY,0HAMBURGER,0SLICE OF PIZZA,0MEAT ON BONE,0POULTRY LEG,0RICE CRACKER,",
     "1BALL,0COOKED RICE,0CURRY a RICE,0STEAMING BOWL,0SPAGHETTI,0BREAD,0FRENCH FRIES,0ROASTED SWEET POTATO,",
     "0DANGO,0ODEN,0SUSHI,0FRIED SHRIMP,0FISH CAKE z SWIRL DESIGN,0SOFT ICE CREAM,0SHAVED ICE,0ICE CREAM,",
     "0DOUGHNUT,0COOKIE,0CHOCOLATE BAR,0CANDY,0LOLLIPOP,0CUSTARD,0HONEY POT,0SHORTCAKE,0BENTO BOX,",
     "0POT OF FOOD,0COOKING,0FORK a KNIFE,0TEACUP WITHOUT HANDLE,0SAKE BOTTLE a CUP,0WINE GLASS,",
     "0COCKTAIL GLASS,0TROPICAL DRINK,0BEER MUG,0CLINKING BEER MUGS,0BABY BOTTLE,0FORK a KNIFE z PLATE,",
     "0BOTTLE z POPPING CORK,0POPCORN,0RIBBON,0WRAPPED PRESENT,0BIRTHDAY CAKE,0JACK-O-LANTERN,0CHRISTMAS TREE,",
     "0FATHER CHRISTMAS,0FIREWORKS,0FIREWORK SPARKLER,0BALLOON,0PARTY POPPER,0CONFETTI BALL,0TANABATA TREE,",
     "0CROSSED FLAGS,0PINE DECORATION,0JAPANESE DOLLS,0CARP STREAMER,0WIND CHIME,0MOON VIEWING CEREMONY,",
     "0SCHOOL SATCHEL,0GRADUATION CAP,0HEART z TIP ON THE m,0BOUQUET OF FLOWERS,0MILITARY MEDAL,",
     "0REMINDER RIBBON,0MUSICAL KEYBOARD z JACKS,0STUDIO MICROPHONE,0LEVEL SLIDER,0CONTROL KNOBS,",
     "0BEAMED ASCENDING MUSICAL NOTES,1DESCENDING MUSICAL NOTES,0FILM FRAMES,0ADMISSION TICKETS,",
     "0CAROUSEL HORSE,0FERRIS WHEEL,0ROLLER COASTER,0FISHING POLE a FISH,0MICROPHONE,0MOVIE CAMERA,0CINEMA,",
     "0HEADPHONE,0ARTIST PALETTE,0TOP HAT,0CIRCUS TENT,0TICKET,0CLAPPER BOARD,0PERFORMING ARTS,0VIDEO GAME,",
     "0DIRECT HIT,0SLOT MACHINE,0BILLIARDS,0GAME DIE,0BOWLING,0FLOWER PLAYING CARDS,0MUSICAL NOTE,",
     "0MULTIPLE MUSICAL NOTES,0SAXOPHONE,0GUITAR,0MUSICAL KEYBOARD,0TRUMPET,0VIOLIN,0MUSICAL SCORE,",
     "0RUNNING SHIRT z SASH,0TENNIS RACQUET a BALL,0SKI a SKI BOOT,0BASKETBALL a HOOP,0CHEQUERED FLAG,",
     "0SNOWBOARDER,0RUNNER,0SURFER,0SPORTS MEDAL,0TROPHY,0HORSE RACING,0AMERICAN FOOTBALL,0RUGBY FOOTBALL,",
     "0SWIMMER,0WEIGHT LIFTER,0GOLFER,0RACING MOTORCYCLE,1CAR,0CRICKET BAT a BALL,0VOLLEYBALL,",
     "0FIELD HOCKEY STICK a BALL,0ICE HOCKEY STICK a PUCK,0TABLE TENNIS PADDLE a BALL,0SNOW CAPPED MOUNTAIN,",
     "0CAMPING,0BEACH z UMBRELLA,0BUILDING CONSTRUCTION,0HOUSE BUILDINGS,0CITYSCAPE,0DERELICT HOUSE BUILDING,",
     "0CLASSICAL BUILDING,0DESERT,1ISLAND,0NATIONAL PARK,0STADIUM,0HOUSE BUILDING,1z GARDEN,0OFFICE BUILDING,",
     "0JAPANESE POST OFFICE,0EUROPEAN POST OFFICE,0HOSPITAL,0BANK,0AUTOMATED TELLER MACHINE,0HOTEL,",
     "0LOVE HOTEL,0CONVENIENCE STORE,0SCHOOL,0DEPARTMENT STORE,0FACTORY,0IZAKAYA LANTERN,0JAPANESE CASTLE,",
     "0EUROPEAN CASTLE,0y PENNANT,0c PENNANT,0WAVING y FLAG,1c FLAG,0ROSETTE,0c ROSETTE,0LABEL,",
     "0BADMINTON RACQUET a SHUTTLECOCK,0BOW a b,0AMPHORA,0EMOJI MODIFIER FITZPATRICK TYPE-1-2,3TYPE-3,3TYPE-4,",
     "3TYPE-5,3TYPE-6,0RAT,0MOUSE,0OX,0WATER BUFFALO,0COW,0TIGER,0LEOPARD,0RABBIT,0CAT,0DRAGON,0CROCODILE,",
     "0WHALE,0SNAIL,0SNAKE,0HORSE,0RAM,0GOAT,0SHEEP,0MONKEY,0ROOSTER,0CHICKEN,0DOG,0PIG,0BOAR,0ELEPHANT,",
     "0OCTOPUS,0SPIRAL SHELL,0BUG,0ANT,0HONEYBEE,0LADY BEETLE,0FISH,0TROPICAL FISH,0BLOWFISH,0TURTLE,",
     "0HATCHING CHICK,0BABY CHICK,0FRONT-FACING BABY CHICK,0BIRD,0PENGUIN,0KOALA,0POODLE,0DROMEDARY CAMEL,",
     "0BACTRIAN CAMEL,0DOLPHIN,0MOUSE i,0COW i,0TIGER i,0RABBIT i,0CAT i,0DRAGON i,0SPOUTING WHALE,0HORSE i,",
     "0MONKEY i,0DOG i,0PIG i,0FROG i,0HAMSTER i,0WOLF i,0BEAR i,0PANDA i,0PIG NOSE,0PAW PRINTS,0CHIPMUNK,",
     "0EYES,0EYE,0EAR,0NOSE,0MOUTH,0TONGUE,0y UP POINTING BACKHAND INDEX,1DOWN POINTING BACKHAND INDEX,",
     "1m POINTING BACKHAND INDEX,1q POINTING BACKHAND INDEX,0FISTED HAND s,0WAVING HAND s,0OK HAND s,",
     "0THUMBS UP s,1DOWN s,0CLAPPING HANDS s,0OPEN HANDS s,0CROWN,0WOMANS HAT,0EYEGLASSES,0NECKTIE,0T-SHIRT,",
     "0JEANS,0DRESS,0KIMONO,0BIKINI,0WOMANS CLOTHES,0PURSE,0HANDBAG,0POUCH,0MANS SHOE,0ATHLETIC SHOE,",
     "0HIGH-HEELED SHOE,0WOMANS SANDAL,1BOOTS,0FOOTPRINTS,0BUST IN SILHOUETTE,0BUSTS IN SILHOUETTE,0BOY,0GIRL,",
     "0MAN,0WOMAN,0FAMILY,0MAN a WOMAN HOLDING HANDS,0TWO MEN HOLDING HANDS,1WOMEN HOLDING HANDS,",
     "0POLICE OFFICER,0WOMAN z BUNNY EARS,0BRIDE z VEIL,0PERSON z BLOND HAIR,0MAN z GUA PI MAO,2TURBAN,",
     "0OLDER MAN,1WOMAN,0BABY,0CONSTRUCTION WORKER,0PRINCESS,0JAPANESE OGRE,1GOBLIN,0GHOST,0BABY ANGEL,",
     "0EXTRATERRESTRIAL ALIEN,0ALIEN MONSTER,0IMP,0SKULL,0INFORMATION DESK PERSON,0GUARDSMAN,0DANCER,",
     "0LIPSTICK,0NAIL POLISH,0i MASSAGE,0HAIRCUT,0BARBER POLE,0SYRINGE,0PILL,0KISS MARK,0LOVE o,0RING,",
     "0GEM STONE,0KISS,0BOUQUET,0COUPLE z HEART,0WEDDING,0BEATING HEART,0BROKEN HEART,0TWO HEARTS,",
     "0SPARKLING HEART,0GROWING HEART,0HEART z b,0BLUE HEART,0GREEN HEART,0YELLOW HEART,0PURPLE HEART,",
     "0HEART z RIBBON,0REVOLVING HEARTS,0HEART DECORATION,0DIAMOND SHAPE z A DOT INSIDE,0ELECTRIC p BULB,",
     "0ANGER v,0BOMB,0SLEEPING v,0COLLISION v,0SPLASHING SWEAT v,0DROPLET,0DASH v,0PILE OF POO,0FLEXED BICEPS,",
     "0DIZZY v,0SPEECH BALLOON,0THOUGHT BALLOON,0y FLOWER,0HUNDRED POINTS v,0MONEY BAG,0CURRENCY EXCHANGE,",
     "0k DOLLAR s,0CREDIT CARD,0BANKNOTE z YEN s,2DOLLAR s,2EURO s,2POUND s,0MONEY z WINGS,",
     "0CHART z UPWARDS TREND a YEN s,0SEAT,0PERSONAL COMPUTER,0BRIEFCASE,0MINIDISC,0FLOPPY DISK,0OPTICAL DISC,",
     "0DVD,0FILE FOLDER,0OPEN FILE FOLDER,0PAGE z CURL,1FACING UP,0CALENDAR,0TEAR-OFF CALENDAR,0CARD INDEX,",
     "0CHART z UPWARDS TREND,2DOWNWARDS TREND,0BAR CHART,0CLIPBOARD,0PUSHPIN,0ROUND PUSHPIN,0PAPERCLIP,",
     "0STRAIGHT RULER,0TRIANGULAR RULER,0BOOKMARK TABS,0LEDGER,0NOTEBOOK,1z DECORATIVE COVER,0CLOSED BOOK,",
     "0OPEN BOOK,0GREEN BOOK,0BLUE BOOK,0ORANGE BOOK,0BOOKS,0NAME BADGE,0SCROLL,0MEMO,0TELEPHONE RECEIVER,",
     "0PAGER,0FAX MACHINE,0SATELLITE ANTENNA,0PUBLIC ADDRESS LOUDSPEAKER,0CHEERING MEGAPHONE,0OUTBOX TRAY,",
     "0INBOX TRAY,0PACKAGE,0E-MAIL v,0INCOMING ENVELOPE,0ENVELOPE z DOWNWARDS b ABOVE,",
     "0CLOSED MAILBOX z LOWERED FLAG,3RAISED FLAG,0OPEN MAILBOX z RAISED FLAG,3LOWERED FLAG,0POSTBOX,",
     "0POSTAL HORN,0NEWSPAPER,0MOBILE PHONE,2z r b AT m,0VIBRATION MODE,0MOBILE PHONE OFF,0NO MOBILE PHONES,",
     "0ANTENNA z BARS,0CAMERA,1z FLASH,0VIDEO CAMERA,0TELEVISION,0RADIO,0VIDEOCASSETTE,0FILM PROJECTOR,",
     "0PORTABLE STEREO,0PRAYER BEADS,0TWISTED r ARROWS,0CLOCKWISE r a n OPEN CIRCLE ARROWS,",
     "7z CIRCLED ONE OVERLAY,1DOWNWARDS a UPWARDS OPEN CIRCLE ARROWS,",
     "0ANTICLOCKWISE DOWNWARDS a UPWARDS OPEN CIRCLE ARROWS,0LOW BRIGHTNESS v,0HIGH BRIGHTNESS v,",
     "0SPEAKER z CANCELLATION u,0SPEAKER,1z ONE SOUND WAVE,2THREE SOUND WAVES,0BATTERY,0ELECTRIC PLUG,",
     "0LEFT-POINTING MAGNIFYING GLASS,0RIGHT-POINTING MAGNIFYING GLASS,0LOCK z INK PEN,0CLOSED LOCK z KEY,",
     "0KEY,0LOCK,0OPEN LOCK,0BELL,1z CANCELLATION u,0BOOKMARK,0LINK v,0RADIO BUTTON,0BACK z n b ABOVE,",
     "0END z n b ABOVE,0ON z EXCLAMATION MARK z m q b ABOVE,0SOON z r b ABOVE,0TOP z UPWARDS b ABOVE,",
     "0NO ONE UNDER EIGHTEEN v,0KEYCAP TEN,0INPUT v FOR LATIN e LETTERS,4t LETTERS,3NUMBERS,3SYMBOLS,",
     "3LATIN LETTERS,0FIRE,0ELECTRIC TORCH,0WRENCH,0HAMMER,0NUT a BOLT,0HOCHO,0PISTOL,0MICROSCOPE,0TELESCOPE,",
     "0CRYSTAL BALL,0SIX POINTED STAR z MIDDLE DOT,0JAPANESE v FOR BEGINNER,0TRIDENT EMBLEM,0c SQUARE BUTTON,",
     "0y SQUARE BUTTON,0LARGE RED CIRCLE,1BLUE CIRCLE,1ORANGE DIAMOND,1BLUE DIAMOND,0t ORANGE DIAMOND,",
     "1BLUE DIAMOND,0UP-POINTING RED w,0DOWN-POINTING RED w,0UP-POINTING t RED w,0DOWN-POINTING t RED w,",
     "0LOWER q SHADOWED y CIRCLE,0UPPER q SHADOWED y CIRCLE,0CIRCLED CROSS POMMEE,",
     "0CROSS POMMEE z HALF-CIRCLE BELOW,1POMMEE,0NOTCHED m SEMICIRCLE z THREE DOTS,1q SEMICIRCLE z THREE DOTS,",
     "0v FOR MARKS CHAPTER,0y LATIN CROSS,0k LATIN CROSS,0CELTIC CROSS,0OM v,0DOVE OF PEACE,0KAABA,0MOSQUE,",
     "0SYNAGOGUE,0MENORAH z NINE BRANCHES,0BOWL OF HYGIEIA,0CLOCK i ONE OCLOCK,2TWO OCLOCK,2THREE OCLOCK,",
     "2FOUR OCLOCK,2FIVE OCLOCK,2SIX OCLOCK,2SEVEN OCLOCK,2EIGHT OCLOCK,2NINE OCLOCK,2TEN OCLOCK,",
     "2ELEVEN OCLOCK,2TWELVE OCLOCK,2ONE-THIRTY,2TWO-THIRTY,2THREE-THIRTY,2FOUR-THIRTY,2FIVE-THIRTY,",
     "2SIX-THIRTY,2SEVEN-THIRTY,2EIGHT-THIRTY,2NINE-THIRTY,2TEN-THIRTY,2ELEVEN-THIRTY,2TWELVE-THIRTY,",
     "0q SPEAKER,2z ONE SOUND WAVE,3THREE SOUND WAVES,0BULLHORN,1z SOUND WAVES,0RINGING BELL,0BOOK,0CANDLE,",
     "0MANTELPIECE CLOCK,0c SKULL a CROSSBONES,0NO PIRACY,0HOLE,0MAN IN BUSINESS SUIT LEVITATING,",
     "0SLEUTH OR SPY,0DARK SUNGLASSES,0SPIDER,1WEB,0JOYSTICK,0MAN DANCING,0m HAND TELEPHONE RECEIVER,",
     "0TELEPHONE RECEIVER z PAGE,0q HAND TELEPHONE RECEIVER,0y TOUCHTONE TELEPHONE,0c TOUCHTONE TELEPHONE,",
     "0TELEPHONE ON TOP OF MODEM,0CLAMSHELL MOBILE PHONE,0BACK OF ENVELOPE,0STAMPED ENVELOPE,",
     "0ENVELOPE z LIGHTNING,0FLYING ENVELOPE,0PEN OVER STAMPED ENVELOPE,0LINKED PAPERCLIPS,0c PUSHPIN,",
     "0LOWER m PENCIL,2BALLPOINT PEN,2FOUNTAIN PEN,2PAINTBRUSH,2CRAYON,0m WRITING HAND,0TURNED OK HAND s,",
     "0RAISED HAND z FINGERS SPLAYED,0REVERSED RAISED HAND z FINGERS SPLAYED,1THUMBS UP s,2DOWN s,",
     "1VICTORY HAND,1HAND z MIDDLE FINGER EXTENDED,0RAISED HAND z PART BETWEEN MIDDLE a RING FINGERS,",
     "0y DOWN POINTING m HAND INDEX,0SIDEWAYS y m POINTING INDEX,2q POINTING INDEX,1c m POINTING INDEX,",
     "2q POINTING INDEX,0c m POINTING BACKHAND INDEX,1q POINTING BACKHAND INDEX,0SIDEWAYS y UP POINTING INDEX,",
     "2DOWN POINTING INDEX,1c UP POINTING INDEX,2DOWN POINTING INDEX,0c UP POINTING BACKHAND INDEX,",
     "1DOWN POINTING BACKHAND INDEX,1HEART,0DESKTOP COMPUTER,0KEYBOARD a MOUSE,0THREE NETWORKED COMPUTERS,",
     "0PRINTER,0POCKET CALCULATOR,0c HARD SHELL FLOPPY DISK,0y HARD SHELL FLOPPY DISK,0SOFT SHELL FLOPPY DISK,",
     "0TAPE CARTRIDGE,0WIRED KEYBOARD,0ONE BUTTON MOUSE,0TWO BUTTON MOUSE,0THREE BUTTON MOUSE,0TRACKBALL,",
     "0OLD PERSONAL COMPUTER,0HARD DISK,0SCREEN,0PRINTER ICON,0FAX ICON,0OPTICAL DISC ICON,0DOCUMENT z TEXT,",
     "3a PICTURE,2PICTURE,0FRAME z PICTURE,2TILES,2AN X,0c FOLDER,0FOLDER,0OPEN FOLDER,0CARD INDEX DIVIDERS,",
     "1FILE BOX,0FILE CABINET,0EMPTY NOTE,2PAGE,2PAD,0NOTE,1PAGE,1PAD,0EMPTY DOCUMENT,1PAGE,1PAGES,0DOCUMENT,",
     "0PAGE,0PAGES,0WASTEBASKET,0SPIRAL NOTE PAD,1CALENDAR PAD,0DESKTOP WINDOW,0MINIMIZE,0MAXIMIZE,0OVERLAP,",
     "0CLOCKWISE q a m SEMICIRCLE ARROWS,0CANCELLATION X,0INCREASE FONT SIZE v,0DECREASE FONT SIZE v,",
     "0COMPRESSION,0OLD KEY,0ROLLED-UP NEWSPAPER,0PAGE z CIRCLED TEXT,0STOCK CHART,0DAGGER KNIFE,0LIPS,",
     "0SPEAKING HEAD IN SILHOUETTE,0THREE RAYS ABOVE,2BELOW,2m,2q,0m SPEECH BUBBLE,0q SPEECH BUBBLE,",
     "0TWO SPEECH BUBBLES,0THREE SPEECH BUBBLES,0m THOUGHT BUBBLE,0q THOUGHT BUBBLE,0m ANGER BUBBLE,",
     "0q ANGER BUBBLE,0MOOD BUBBLE,0LIGHTNING MOOD BUBBLE,1MOOD,0BALLOT BOX z BALLOT,1SCRIPT X,",
     "1BOX z SCRIPT X,1BOLD SCRIPT X,1BOX z BOLD SCRIPT X,0p CHECK MARK,0BALLOT BOX z BOLD CHECK,0WORLD MAP,",
     "0MOUNT FUJI,0TOKYO TOWER,0STATUE OF LIBERTY,0SILHOUETTE OF JAPAN,0MOYAI,0GRINNING i,2z SMILING EYES,",
     "0i z TEARS OF JOY,0SMILING i z OPEN MOUTH,5a SMILING EYES,6COLD SWEAT,6TIGHTLY-CLOSED EYES,3HALO,3HORNS,",
     "0WINKING i,0SMILING i z SMILING EYES,0i SAVOURING DELICIOUS FOOD,0RELIEVED i,",
     "0SMILING i z HEART-SHAPED EYES,3SUNGLASSES,0SMIRKING i,0NEUTRAL i,0EXPRESSIONLESS i,0UNAMUSED i,",
     "0i z COLD SWEAT,0PENSIVE i,0CONFUSED i,0CONFOUNDED i,0KISSING i,0i THROWING A KISS,",
     "0KISSING i z SMILING EYES,3CLOSED EYES,0i z STUCK-OUT TONGUE,4a WINKING EYE,5TIGHTLY-CLOSED EYES,",
     "0DISAPPOINTED i,0WORRIED i,0ANGRY i,0POUTING i,0CRYING i,0PERSEVERING i,0i z LOOK OF TRIUMPH,",
     "0DISAPPOINTED BUT RELIEVED i,0FROWNING i z OPEN MOUTH,0ANGUISHED i,0FEARFUL i,0WEARY i,0SLEEPY i,",
     "0TIRED i,0GRIMACING i,0LOUDLY CRYING i,0i z OPEN MOUTH,0HUSHED i,0i z OPEN MOUTH a COLD SWEAT,",
     "1SCREAMING IN FEAR,0ASTONISHED i,0FLUSHED i,0SLEEPING i,0DIZZY i,0i WITHOUT MOUTH,1z MEDICAL MASK,",
     "0GRINNING CAT i z SMILING EYES,0CAT i z TEARS OF JOY,0SMILING CAT i z OPEN MOUTH,4HEART-SHAPED EYES,",
     "0CAT i z WRY SMILE,0KISSING CAT i z CLOSED EYES,0POUTING CAT i,0CRYING CAT i,0WEARY CAT i,",
     "0SLIGHTLY FROWNING i,1SMILING i,0UPSIDE-DOWN i,0i z ROLLING EYES,2NO GOOD GESTURE,2OK GESTURE,",
     "0PERSON BOWING DEEPLY,0SEE-NO-EVIL MONKEY,0HEAR-NO-EVIL MONKEY,0SPEAK-NO-EVIL MONKEY,",
     "0HAPPY PERSON RAISING ONE HAND,0PERSON RAISING BOTH HANDS IN CELEBRATION,1FROWNING,1z POUTING i,",
     "2FOLDED HANDS"]⟩,
   ⟨0x1f680,
    ["0ROCKET,0HELICOPTER,0STEAM LOCOMOTIVE,0RAILWAY CAR,0HIGH-SPEED TRAIN,2z BULLET NOSE,0TRAIN,0METRO,",
     "0p RAIL,0STATION,0TRAM,1CAR,0BUS,0ONCOMING BUS,0TROLLEYBUS,0BUS STOP,0MINIBUS,0AMBULANCE,0FIRE ENGINE,",
     "0POLICE CAR,0ONCOMING POLICE CAR,0TAXI,0ONCOMING TAXI,0AUTOMOBILE,0ONCOMING AUTOMOBILE,",
     "0RECREATIONAL VEHICLE,0DELIVERY TRUCK,0ARTICULATED LORRY,0TRACTOR,0MONORAIL,0MOUNTAIN RAILWAY,",
     "0SUSPENSION RAILWAY,0MOUNTAIN CABLEWAY,0AERIAL TRAMWAY,0SHIP,0ROWBOAT,0SPEEDBOAT,0l TRAFFIC p,",
     "0x TRAFFIC p,0CONSTRUCTION s,0POLICE CARS REVOLVING p,0TRIANGULAR FLAG ON POST,0DOOR,0NO ENTRY s,",
     "0SMOKING v,0NO SMOKING v,0PUT LITTER IN ITS PLACE v,0DO NOT LITTER v,0POTABLE WATER v,",
     "0NON-POTABLE WATER v,0BICYCLE,0NO BICYCLES,0BICYCLIST,0MOUNTAIN BICYCLIST,0PEDESTRIAN,0NO PEDESTRIANS,",
     "0CHILDREN CROSSING,0MENS v,0WOMENS v,0RESTROOM,0BABY v,0TOILET,0WATER CLOSET,0SHOWER,0BATH,0BATHTUB,",
     "0PASSPORT CONTROL,0CUSTOMS,0BAGGAGE CLAIM,0m LUGGAGE"]⟩,
   ⟨0x1f910,
    ["0ZIPPER-MOUTH i,0MONEY-MOUTH i,0i z THERMOMETER,0NERD i,0THINKING i,0i z HEAD-BANDAGE,0ROBOT i,",
     "0HUGGING i,0s OF THE HORNS,0CALL ME HAND,0RAISED BACK OF HAND,0LEFT-FACING FIST,0RIGHT-FACING FIST,",
     "0HANDSHAKE,0HAND z INDEX a MIDDLE FINGERS CROSSED,0I LOVE YOU HAND s,0i z COWBOY HAT,0CLOWN i,",
     "0NAUSEATED i,0ROLLING ON THE FLOOR LAUGHING,0DROOLING i,0LYING i,0i PALM,0SNEEZING i,",
     "0i z ONE EYEBROW RAISED,0GRINNING i z STAR EYES,3ONE LARGE a ONE t EYE,0i z FINGER COVERING CLOSED LIPS,",
     "0SERIOUS i z SYMBOLS COVERING MOUTH,0SMILING i z SMILING EYES a HAND COVERING MOUTH,",
     "0i z OPEN MOUTH VOMITING,0SHOCKED i z EXPLODING HEAD,0PREGNANT WOMAN,0BREAST-FEEDING,0PALMS UP TOGETHER,",
     "0SELFIE,0PRINCE,0MAN IN TUXEDO,0MOTHER CHRISTMAS,0SHRUG,0PERSON DOING CARTWHEEL,0JUGGLING,0FENCER,",
     "0MODERN PENTATHLON,0WRESTLERS,0WATER POLO,0HANDBALL,0DIVING MASK,0WILTED FLOWER,0DRUM z DRUMSTICKS,",
     "0CLINKING GLASSES,0TUMBLER GLASS,0SPOON,0GOAL NET,0RIFLE,0FIRST PLACE MEDAL,0SECOND PLACE MEDAL,",
     "0THIRD PLACE MEDAL,0BOXING GLOVE,0MARTIAL ARTS UNIFORM,0CURLING STONE,0LACROSSE STICK a BALL,0SOFTBALL,",
     "0FLYING DISC,0CROISSANT,0AVOCADO,0CUCUMBER,0BACON,0POTATO,0CARROT,0BAGUETTE BREAD,0GREEN SALAD,",
     "0SHALLOW PAN OF FOOD,0STUFFED FLATBREAD,0EGG,0GLASS OF MILK,0PEANUTS,0KIWIFRUIT,0PANCAKES,0DUMPLING,",
     "0FORTUNE COOKIE,0TAKEOUT BOX,0CHOPSTICKS,0BOWL z SPOON,0CUP z STRAW,0COCONUT,0BROCCOLI,0PIE,0PRETZEL,",
     "0CUT OF MEAT,0SANDWICH,0CANNED FOOD,0LEAFY GREEN,0MANGO,0MOON CAKE,0BAGEL,",
     "0SMILING i z SMILING EYES a THREE HEARTS,0YAWNING i,0SMILING i z TEAR,0i z PARTY HORN a PARTY HAT,",
     "2UNEVEN EYES a WAVY MOUTH,0OVERHEATED i,0FREEZING i,0NINJA,0DISGUISED i,0i HOLDING BACK TEARS,",
     "1z PLEADING EYES,0SARI,0LAB COAT,0GOGGLES,0HIKING BOOT,0FLAT SHOE,0CRAB,0LION i,0SCORPION,0TURKEY,",
     "0UNICORN i,0EAGLE,0DUCK,0BAT,0SHARK,0OWL,0FOX i,0BUTTERFLY,0DEER,0GORILLA,0LIZARD,0RHINOCEROS,0SHRIMP,",
     "0SQUID,0GIRAFFE i,0ZEBRA i,0HEDGEHOG,0SAUROPOD,0T-REX,0CRICKET,0KANGAROO,0LLAMA,0PEACOCK,0HIPPOPOTAMUS,",
     "0PARROT,0RACCOON,0LOBSTER,0MOSQUITO,0MICROBE,0BADGER,0SWAN,0MAMMOTH,0DODO,0SLOTH,0OTTER,0ORANGUTAN,",
     "0SKUNK,0FLAMINGO,0OYSTER,0BEAVER,0BISON,0SEAL,0GUIDE DOG,0PROBING CANE,0EMOJI COMPONENT RED HAIR,",
     "2CURLY HAIR,2BALD,2y HAIR,0BONE,0LEG,0FOOT,0TOOTH,0SUPERHERO,0SUPERVILLAIN,0SAFETY VEST,",
     "0EAR z HEARING AID,0MOTORIZED WHEELCHAIR,0MANUAL WHEELCHAIR,0MECHANICAL ARM,1LEG,0CHEESE WEDGE,0CUPCAKE,",
     "0SALT SHAKER,0BEVERAGE BOX,0GARLIC,0ONION,0FALAFEL,0WAFFLE,0BUTTER,0MATE DRINK,0ICE CUBE,0BUBBLE TEA,",
     "0TROLL,0STANDING PERSON,0KNEELING PERSON,0DEAF PERSON,0i z MONOCLE,0ADULT,0CHILD,0OLDER ADULT,",
     "0BEARDED PERSON,0PERSON z HEADSCARF,1IN STEAMY ROOM,1CLIMBING,1IN LOTUS POSITION,0MAGE,0FAIRY,0VAMPIRE,",
     "0MERPERSON,0ELF,0GENIE,0ZOMBIE,0BRAIN,0ORANGE HEART,0BILLED CAP,0SCARF,0GLOVES,0COAT,0SOCKS,",
     "0RED GIFT ENVELOPE,0FIRECRACKER,0JIGSAW PUZZLE PIECE,0TEST TUBE,0PETRI DISH,0DNA h HELIX,0COMPASS,",
     "0ABACUS,0FIRE EXTINGUISHER,0TOOLBOX,0BRICK,0MAGNET,0LUGGAGE,0LOTION BOTTLE,0SPOOL OF THREAD,",
     "0BALL OF YARN,0SAFETY PIN,0TEDDY BEAR,0BROOM,0BASKET,0ROLL OF PAPER,0BAR OF SOAP,0SPONGE,0RECEIPT,",
     "0NAZAR AMULET"]⟩]

/-- Other names, with their code points; those of a control character have no main name beside them. -/
def aliases : List (Nat × List String) :=
  [(0x0, ["NULL", "NUL"]), (0x1, ["START OF HEADING", "SOH"]), (0x2, ["START OF TEXT", "STX"]),
   (0x3, ["END OF TEXT", "ETX"]), (0x4, ["END OF TRANSMISSION", "EOT"]), (0x5, ["ENQUIRY", "ENQ"]),
   (0x6, ["ACKNOWLEDGE", "ACK"]), (0x7, ["ALERT", "BEL"]), (0x8, ["BACKSPACE", "BS"]),
   (0x9, ["CHARACTER TABULATION", "HORIZONTAL TABULATION", "HT", "TAB"]),
   (0xa, ["LINE FEED", "NEW LINE", "END OF LINE", "LF", "NL", "EOL"]),
   (0xb, ["LINE TABULATION", "VERTICAL TABULATION", "VT"]), (0xc, ["FORM FEED", "FF"]),
   (0xd, ["CARRIAGE RETURN", "CR"]), (0xe, ["SHIFT OUT", "LOCKING-SHIFT ONE", "SO"]),
   (0xf, ["SHIFT IN", "LOCKING-SHIFT ZERO", "SI"]), (0x10, ["DATA LINK ESCAPE", "DLE"]),
   (0x11, ["DEVICE CONTROL ONE", "DC1"]), (0x12, ["DEVICE CONTROL TWO", "DC2"]),
   (0x13, ["DEVICE CONTROL THREE", "DC3"]), (0x14, ["DEVICE CONTROL FOUR", "DC4"]),
   (0x15, ["NEGATIVE ACKNOWLEDGE", "NAK"]), (0x16, ["SYNCHRONOUS IDLE", "SYN"]),
   (0x17, ["END OF TRANSMISSION BLOCK", "ETB"]), (0x18, ["CANCEL", "CAN"]),
   (0x19, ["END OF MEDIUM", "EOM"]), (0x1a, ["SUBSTITUTE", "SUB"]), (0x1b, ["ESCAPE", "ESC"]),
   (0x1c, ["INFORMATION SEPARATOR FOUR", "FILE SEPARATOR", "FS"]),
   (0x1d, ["INFORMATION SEPARATOR THREE", "GROUP SEPARATOR", "GS"]),
   (0x1e, ["INFORMATION SEPARATOR TWO", "RECORD SEPARATOR", "RS"]),
   (0x1f, ["INFORMATION SEPARATOR ONE", "UNIT SEPARATOR", "US"]), (0x20, ["SP"]),
   (0x7f, ["DELETE", "DEL"]), (0x80, ["PADDING CHARACTER", "PAD"]),
   (0x81, ["HIGH OCTET PRESET", "HOP"]), (0x82, ["BREAK PERMITTED HERE", "BPH"]),
   (0x83, ["NO BREAK HERE", "NBH"]), (0x84, ["INDEX", "IND"]), (0x85, ["NEXT LINE", "NEL"]),
   (0x86, ["START OF SELECTED AREA", "SSA"]), (0x87, ["END OF SELECTED AREA", "ESA"]),
   (0x88, ["CHARACTER TABULATION SET", "HORIZONTAL TABULATION SET", "HTS"]),
   (0x89, ["CHARACTER TABULATION WITH JUSTIFICATION", "HORIZONTAL TABULATION WITH JUSTIFICATION", "HTJ"]),
   (0x8a, ["LINE TABULATION SET", "VERTICAL TABULATION SET", "VTS"]),
   (0x8b, ["PARTIAL LINE FORWARD", "PARTIAL LINE DOWN", "PLD"]),
   (0x8c, ["PARTIAL LINE BACKWARD", "PARTIAL LINE UP", "PLU"]),
   (0x8d, ["REVERSE LINE FEED", "REVERSE INDEX", "RI"]),
   (0x8e, ["SINGLE SHIFT TWO", "SINGLE-SHIFT-2", "SS2"]),
   (0x8f, ["SINGLE SHIFT THREE", "SINGLE-SHIFT-3", "SS3"]), (0x90, ["DEVICE CONTROL STRING", "DCS"]),
   (0x91, ["PRIVATE USE ONE", "PRIVATE USE-1", "PU1"]),
   (0x92, ["PRIVATE USE TWO", "PRIVATE USE-2", "PU2"]), (0x93, ["SET TRANSMIT STATE", "STS"]),
   (0x94, ["CANCEL CHARACTER", "CCH"]), (0x95, ["MESSAGE WAITING", "MW"]),
   (0x96, ["START OF GUARDED AREA", "START OF PROTECTED AREA", "SPA"]),
   (0x97, ["END OF GUARDED AREA", "END OF PROTECTED AREA", "EPA"]), (0x98, ["START OF STRING", "SOS"]),
   (0x99, ["SINGLE GRAPHIC CHARACTER INTRODUCER", "SGC"]),
   (0x9a, ["SINGLE CHARACTER INTRODUCER", "SCI"]), (0x9b, ["CONTROL SEQUENCE INTRODUCER", "CSI"]),
   (0x9c, ["STRING TERMINATOR", "ST"]), (0x9d, ["OPERATING SYSTEM COMMAND", "OSC"]),
   (0x9e, ["PRIVACY MESSAGE", "PM"]), (0x9f, ["APPLICATION PROGRAM COMMAND", "APC"]), (0xa0, ["NBSP"]),
   (0xad, ["SHY"]), (0x34f, ["CGJ"]), (0x200b, ["ZWSP"]), (0x200c, ["ZWNJ"]), (0x200d, ["ZWJ"]),
   (0x200e, ["LRM"]), (0x200f, ["RLM"]), (0x202a, ["LRE"]), (0x202b, ["RLE"]), (0x202c, ["PDF"]),
   (0x202d, ["LRO"]), (0x202e, ["RLO"]), (0x202f, ["NNBSP"]), (0x2060, ["WJ"]), (0x2066, ["LRI"]),
   (0x2067, ["RLI"]), (0x2068, ["FSI"]), (0x2069, ["PDI"]), (0x205f, ["MMSP"]),
   (0xfeff, ["BYTE ORDER MARK", "BOM", "ZWNBSP"]), (0x2118, ["WEIERSTRASS ELLIPTIC FUNCTION"]),
   (0x2448, ["MICR ON US SYMBOL"])]

def alias? (name : String) : Option Nat := (aliases.find? fun a => a.2.contains name).map (·.1)

end CharName

/-- The code point of a name. Small letters count as capitals. -/
def codeOfName (name : List Char) : Option Nat :=
  let name := name.map Char.toUpper
  (CharName.blocks.findSome? (·.code? (splitOn ' ' name))).or (CharName.alias? (String.ofList name))

end IssuePlanner.Text
