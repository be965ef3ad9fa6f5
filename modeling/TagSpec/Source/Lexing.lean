import TagSpec.Identifier
import TagSpec.Source.Token
import TagSpec.Text.Blank
import TagSpec.Text.Digits
import TagSpec.Unicode.Identifiers

/-!
# From characters to tokens

`lex` cuts a text into tokens, each as long as it can be. Blanks and comments lie between tokens and
leave a trace only in the marks of the next token.
-/

namespace TagSpec.Source

-- ---------------------------------------------------------------------------
-- Numbers
-- ---------------------------------------------------------------------------

/-- The length of the digits at the start of a text, of which each may follow an underscore. -/
def laterDigits (ok : Char → Bool) : List Char → Nat
  | [] => 0
  | c :: cs =>
    if ok c then 1 + laterDigits ok cs
    else if c = '_' then
      match cs with
      | [] => 0
      | d :: ds => if ok d then 2 + laterDigits ok ds else 0
    else 0

/-- The length of the digits at the start of a text; underscores may stand between them. -/
def digitsLength (ok : Char → Bool) : List Char → Nat
  | [] => 0
  | c :: cs => if ok c then 1 + laterDigits ok cs else 0

def isHexDigit (c : Char) : Bool := (digit? 16 c).isSome
def isOctalDigit (c : Char) : Bool := (digit? 8 c).isSome
def isBinaryDigit (c : Char) : Bool := (digit? 2 c).isSome

/-- The length of the digits at the start of a text, with an underscore before them or not. -/
def markedDigits (ok : Char → Bool) : List Char → Nat
  | '_' :: cs => if digitsLength ok cs = 0 then 0 else 1 + digitsLength ok cs
  | cs => digitsLength ok cs

/-- The length of an exponent at the start of a text, zero if there is none. -/
def exponentLength (mark : Char) : List Char → Nat
  | [] => 0
  | c :: cs =>
    if c.toLower = mark then
      let signs := match cs with
        | '+' :: _ => 1
        | '-' :: _ => 1
        | _ => 0
      let digits := digitsLength isDigit (cs.drop signs)
      if digits = 0 then 0 else 1 + signs + digits
    else 0

/-- A length, or zero where a part that has to be there is not. -/
def addNonzero (before part : Nat) : Nat := if part = 0 then 0 else before + part

/-- The lengths of the integers at the start of a text. -/
def integerLengths (cs : List Char) : List Nat :=
  match cs with
  | '0' :: 'x' :: r => [1, addNonzero 2 (markedDigits isHexDigit r)]
  | '0' :: 'X' :: r => [1, addNonzero 2 (markedDigits isHexDigit r)]
  | '0' :: 'b' :: r => [1, addNonzero 2 (markedDigits isBinaryDigit r)]
  | '0' :: 'B' :: r => [1, addNonzero 2 (markedDigits isBinaryDigit r)]
  | '0' :: 'o' :: r => [1, addNonzero 2 (markedDigits isOctalDigit r)]
  | '0' :: 'O' :: r => [1, addNonzero 2 (markedDigits isOctalDigit r)]
  | '0' :: r => [1, addNonzero 1 (markedDigits isOctalDigit r)]
  | _ => [digitsLength isDigit cs]

/-- The length of the mantissa at the start of a text, in the digits given. -/
def mantissaLength (whole : Nat) (ok : Char → Bool) (cs : List Char) : Nat :=
  match cs.drop whole with
  | '.' :: r =>
    let digits := digitsLength ok r
    if whole = 0 && digits = 0 then 0 else whole + 1 + digits
  | _ => whole

/-- The lengths of the floating-point numbers at the start of a text. -/
def floatLengths (cs : List Char) : List Nat :=
  let whole := digitsLength isDigit cs
  let mantissa := mantissaLength whole isDigit cs
  let exponent := exponentLength 'e' (cs.drop mantissa)
  let decimalFloat :=
    if mantissa = 0 then 0
    else if mantissa = whole then addNonzero mantissa exponent
    else mantissa + exponent
  let hexFloat := fun (r : List Char) =>
    let hex := mantissaLength (markedDigits isHexDigit r) isHexDigit r
    if hex = 0 then 0 else addNonzero (2 + hex) (exponentLength 'p' (r.drop hex))
  match cs with
  | '0' :: 'x' :: r => [decimalFloat, hexFloat r]
  | '0' :: 'X' :: r => [decimalFloat, hexFloat r]
  | _ => [decimalFloat]

/-- The length of the longest number at the start of a text, zero if there is none. A number that an
`i` follows is longer by that. -/
def numberLength (cs : List Char) : Nat :=
  let plain := integerLengths cs ++ floatLengths cs
  let imaginary := (digitsLength isDigit cs :: plain).map fun n =>
    if n ≠ 0 ∧ (cs.drop n).head? = some 'i' then n + 1 else 0
  (plain ++ imaginary).foldl max 0


-- ---------------------------------------------------------------------------
-- Literals and comments
-- ---------------------------------------------------------------------------

/-- The length of what follows the opening quote of a string up to its closing quote. -/
def stringLength? : List Char → Option Nat
  | [] => none
  | c :: cs =>
    if c = '"' then some 1
    else if c = '\n' then none
    else if c = '\\' then
      match cs with
      | [] => none
      | d :: ds =>
        let digits := if d = 'x' then 2 else if d = 'u' then 4 else if d = 'U' then 8 else 0
        if (readDigits 16 digits 0 ds).isSome then (stringLength? ds).map (· + 2) else none
    else (stringLength? cs).map (· + 1)

/-- The length of a text up to and including a character. -/
def lengthThrough? (mark : Char) (cs : List Char) : Option Nat :=
  let n := (cs.takeWhile (· != mark)).length
  if n < cs.length then some (n + 1) else none

/-- The length of an escape in a rune, behind its backslash. -/
def runeEscapeLength? : List Char → Option Nat
  | [] => none
  | c :: cs =>
    if c = 'x' then (readDigits 16 2 0 cs).map fun _ => 3
    else if c = 'u' then (readDigits 16 4 0 cs).map fun _ => 5
    else if c = 'U' then (readDigits 16 8 0 cs).map fun _ => 9
    else if isOctalDigit c then (readDigits 8 3 0 (c :: cs)).map fun _ => 3
    else if "abfnrtv\\'\"".toList.contains c then some 1
    else none

/-- The length of what follows the opening quote of a rune up to its closing quote. -/
def runeLength? (cs : List Char) : Option Nat :=
  let body :=
    match cs with
    | [] => none
    | c :: r =>
      if c = '\'' then none else if c = '\\' then (runeEscapeLength? r).map (· + 1) else some 1
  match body with
  | none => none
  | some n => if (cs.drop n).head? = some '\'' then some (n + 1) else none

/-- The length of what follows the opening of a block comment up to its end. -/
def blockCommentLength? : List Char → Option Nat
  | [] => none
  | c :: cs =>
    if c = '*' && cs.head? = some '/' then some 2 else (blockCommentLength? cs).map (· + 1)


-- ---------------------------------------------------------------------------
-- Signs
-- ---------------------------------------------------------------------------

/-- The signs, longer ones before those that begin them. NUL ends a statement as a semicolon does. -/
def signs : List String :=
  ["<<=", ">>=", "&^=", "...", "&&", "||", "<-", "++", "--", "==", "!=", "<=", ">=", ":=", "+=",
    "-=", "*=", "/=", "%=", "&=", "|=", "^=", "<<", ">>", "&^", "+", "-", "*", "/", "%", "&", "|",
    "^", "<", ">", "=", "!", "(", ")", "[", "]", "\x7b", "\x7d", ",", ";", ".", ":", "~", "\x00"]

/-- The longest sign at the start of a text. -/
def sign? (cs : List Char) : Option String := signs.find? fun s => s.toList.isPrefixOf cs

def isNameStart (c : Char) : Bool := c = '_' || Unicode.isIdentifierStart c

def isNameTail (c : Char) : Bool := c = '_' || Unicode.isIdentifierTail c

/-- Whether a character begins neither a token nor a blank. -/
def isStray (c : Char) : Bool :=
  !(isAsciiBlank c || isNameStart c || isDigit c || (sign? [c]).isSome ||
    c = '"' || c = '\'' || c = '\x60')


-- ---------------------------------------------------------------------------
-- Cutting
-- ---------------------------------------------------------------------------

/-- What lies at the start of a text. -/
inductive Piece where
  | blank
  | comment
  | token (kind : TokenKind)
deriving DecidableEq, Repr

/-- What a text beginning with `c` begins with, and how many characters of it follow `c`. -/
def pieceAt (c : Char) (cs : List Char) : Piece × Nat :=
  let literal := fun (kind : TokenKind) (length : Option Nat) =>
    match length with
    | some n => (Piece.token kind, n)
    | none => (Piece.token .broken, 0)
  if isAsciiBlank c then (.blank, 0)
  else if isNameStart c then
    let word := c :: cs.takeWhile isNameTail
    (.token (if keywords.contains (String.ofList word) then .keyword else .name), word.length - 1)
  else if c = '/' && cs.head? = some '/' then (.comment, (cs.takeWhile (· != '\n')).length)
  else if c = '/' && cs.head? = some '*' then
    match blockCommentLength? (cs.drop 1) with
    | some n => (.comment, n + 1)
    | none => (.token .broken, 0)
  else if c = '"' then literal .string (stringLength? cs)
  else if c = '\x60' then literal .string (lengthThrough? '\x60' cs)
  else if c = '\'' then literal .rune (runeLength? cs)
  else if numberLength (c :: cs) ≠ 0 then (.token .number, numberLength (c :: cs) - 1)
  else
    match sign? (c :: cs) with
    | some s => (.token .sign, s.length - 1)
    | none => (.token .stray, (cs.takeWhile isStray).length)

/-- The keywords after which a statement may be complete. -/
def closingKeywords : List String := ["break", "continue", "fallthrough", "return"]

/-- The signs after which a statement may be complete. -/
def closingSigns : List String := ["++", "--", ")", "]", "\x7d", ";", "\x00"]

/-- Whether a statement may be complete after a token. -/
def endsStatement (kind : TokenKind) (text : List Char) : Bool :=
  match kind with
  | .name | .number | .rune | .string => true
  | .keyword => closingKeywords.contains (String.ofList text)
  | .sign => closingSigns.contains (String.ofList text)
  | _ => false

/-- What the text so far means for the next token. -/
structure Marks where
  /-- a statement may be complete after the last token -/
  ended : Bool
  /-- a line ended after the last token -/
  newline : Bool
  comment : Option (List Char)
  afterName : Bool
deriving Repr

def Marks.start : Marks := ⟨false, false, none, false⟩

/-- The tokens of a text; the last of them stands for its end. -/
def lexFrom (p : Position) (m : Marks) (cs : List Char) : List Token :=
  match cs with
  | [] => [⟨.finish, [], p, m.newline && m.ended, m.comment, m.afterName⟩]
  | c :: r =>
    let piece := pieceAt c r
    let text := c :: r.take piece.2
    let rest := r.drop piece.2
    let behind := p.afterAll text
    match piece.1 with
    | .blank => lexFrom behind { m with newline := m.newline || c = '\n' } rest
    | .comment => lexFrom behind { m with comment := some (m.comment.getD text) } rest
    | .token kind =>
      ⟨kind, text, p, m.newline && m.ended, m.comment, m.afterName⟩ ::
        lexFrom behind ⟨endsStatement kind text, false, none, kind = .name⟩ rest
termination_by cs.length
decreasing_by all_goals simp only [List.length_drop, List.length_cons]; omega

/-- The mark that may stand before the first character of a file. -/
def byteOrderMark : Char := '\uFEFF'

/-- The tokens of a source. -/
def lex (cs : List Char) : List Token :=
  match cs with
  | c :: r =>
    if c = byteOrderMark then lexFrom (Position.start.after c) .start r
    else lexFrom .start .start cs
  | [] => lexFrom .start .start []

end TagSpec.Source
