import TagSpec.Regex.Item

/-!
# Escapes

What a backslash and the text behind it stand for: a character, a set of characters, or a look at
what is around a place.
-/

namespace TagSpec.Regex

/-- What an escape stands for. -/
inductive Escape where
  | char (c : Char)
  /-- one of a set of characters, whose ranges take a number of bytes -/
  | set (s : CharSet) (cost : Nat)
  | look (l : Look)

/-- The set of the characters that form a number of ranges, or of all others. -/
def Escape.ofRanges (negated : Bool) (s : CharSet) (cost : Nat) : Escape :=
  if negated then .set s.compl (cost + beyondAsciiSize) else .set s cost

/-- The characters that mean something in a pattern. -/
def isMeta (c : Char) : Bool := "\\.+*?()|[]\x7b\x7d^$#&-~".toList.contains c

/-- Whether a backslash before a character leaves it as it is. -/
def isEscapable (c : Char) : Bool :=
  isMeta c || (c.toNat < 128 && !c.isAlphanum && c != '<' && c != '>')

/-- The character with a code, as an escape gives it; `byte` says that the code is that of a byte. -/
def charEscape (f : Flags) (byte : Bool) (code : Nat) : Except Fault Escape :=
  if !code.isValidChar then .error .escape
  else if byte && !f.unicode && 0x80 ≤ code then .error .notText
  else .ok (.char (Char.ofNat code))

/-- Reads the hexadecimal digits of an escape, with blanks between them where these mean nothing. -/
def readHexDigits (f : Flags) : Nat → Nat → List Char → Except Fault (Nat × List Char)
  | 0, acc, cs => .ok (acc, cs)
  | n + 1, acc, cs =>
    match cs with
    | [] => .error .escape
    | c :: r =>
      match digit? 16 c with
      | none => .error .escape
      | some d => readHexDigits f n (acc * 16 + d) (f.skip r)

def readHexBrace (f : Flags) : Nat → Option Nat → List Char → Except Fault (Nat × List Char)
  | 0, _, _ => .error .escape
  | _ + 1, _, [] => .error .escape
  | fuel + 1, acc, c :: r =>
    if c = '\x7d' then
      match acc with
      | none => .error .escape
      | some n => .ok (n, f.skip r)
    else
      match digit? 16 c with
      | none => .error .escape
      | some d => readHexBrace f fuel (some (acc.getD 0 * 16 + d)) (f.skip r)

/-- Reads the code of a character: in braces, or with as many digits as `mark` stands for. The flag
says that it is the code of a byte. -/
def readDigits (f : Flags) (mark : Char) (cs : List Char) :
    Except Fault ((Nat × Bool) × List Char) :=
  match cs with
  | '\x7b' :: r => do
    let (n, rest) ← readHexBrace f (r.length + 1) none (f.skip r)
    pure ((n, false), rest)
  | cs => do
    let (n, rest) ← readHexDigits f (if mark = 'x' then 2 else if mark = 'u' then 4 else 8) 0 cs
    pure ((n, mark = 'x'), rest)

/-- Reads what follows `\x`, `\u` or `\U`. -/
def readCode (f : Flags) (mark : Char) (cs : List Char) : Except Fault (Escape × List Char) := do
  let ((n, byte), rest) ← readDigits f mark (f.skip cs)
  let e ← charEscape f byte n
  pure (e, rest)

/-- Cuts a text in front of the first place where `mark` stands, and drops the mark. -/
def cutAt? (mark : List Char) : List Char → Option (List Char × List Char)
  | [] => none
  | c :: cs =>
    match dropStart? mark (c :: cs) with
    | some rest => some ([], rest)
    | none => (cutAt? mark cs).map fun (a, b) => (c :: a, b)

/-- The set that the text between the braces of a property names, how many ranges it is formed of, and
whether it is the complement. -/
def propertyNamed (text : List Char) : Option ((CharSet × Nat) × Bool) :=
  match cutAt? ['!', '='] text with
  | some (name, value) => (CharSet.valued? name value).map (·, true)
  | none =>
    match cutAt? [':'] text <|> cutAt? ['='] text with
    | some (name, value) => (CharSet.valued? name value).map (·, false)
    | none => (CharSet.named? text).map (·, false)

/-- Reads what stands up to a closing brace, without blanks where these mean nothing. -/
def readBraced (f : Flags) : Nat → List Char → Except Fault (List Char × List Char)
  | 0, _ => .error .escape
  | _ + 1, [] => .error .escape
  | fuel + 1, c :: r =>
    if c = '\x7d' then .ok ([], r)
    else do
      let (text, rest) ← readBraced f fuel (f.skip r)
      pure (c :: text, rest)

/-- Reads the name of a property: in braces, or one letter. -/
def readPropertyName (f : Flags) (cs : List Char) : Except Fault (List Char × List Char) :=
  match cs with
  | [] => .error .escape
  | c :: r =>
    if c = '\x7b' then readBraced f (r.length + 1) (f.skip r)
    else if c = '\\' then .error .escape
    else .ok ([c], f.skip r)

def propertyEscape (f : Flags) (negated : Bool) (text : List Char) : Except Fault Escape :=
  if !f.unicode then .error .notText
  else
    match propertyNamed text with
    | none => .error .unknownProperty
    | some ((s, count), complement) =>
      .ok (.ofRanges (negated != complement) (f.fold s) (rangesSize count))

def readProperty (f : Flags) (negated : Bool) (cs : List Char) :
    Except Fault (Escape × List Char) := do
  let (text, rest) ← readPropertyName f (f.skip cs)
  let e ← propertyEscape f negated text
  pure (e, rest)

/-- The class of a letter such as `d`, and how many bytes its ranges take. -/
def letterClass? (f : Flags) (c : Char) : Option (CharSet × Nat) :=
  match c.toLower with
  | 'd' =>
    some (if f.unicode then (CharSet.digit, rangesSize 71) else (CharSet.asciiDigit, rangeSize '9'))
  | 's' =>
    some (if f.unicode then (CharSet.space, rangesSize 10)
      else (CharSet.asciiSpace, 2 * rangeSize ' '))
  | 'w' =>
    some (if f.unicode then (CharSet.word, rangesSize 796)
      else (CharSet.asciiWord, 4 * rangeSize 'z'))
  | _ => none

/-- The kind of boundary that a name in braces stands for. -/
def boundaryNamed? (ascii : Bool) (name : List Char) : Option Look :=
  if name = "start".toList then some (.wordStart ascii)
  else if name = "end".toList then some (.wordEnd ascii)
  else if name = "start-half".toList then some (.wordStartHalf ascii)
  else if name = "end-half".toList then some (.wordEndHalf ascii)
  else none

def isBoundaryChar (c : Char) : Bool := c.isAlpha || c = '-'

def boundaryEscape (f : Flags) (name : List Char) : Except Fault Escape :=
  match boundaryNamed? (!f.unicode) name with
  | none => .error .escape
  | some l => .ok (.look l)

def readBoundaryName (f : Flags) (cs : List Char) : Except Fault (Escape × List Char) := do
  let (name, rest) ← readBraced f (cs.length + 1) (f.skip cs)
  let e ← boundaryEscape f name
  pure (e, rest)

/-- Reads what follows `\b`: the name of a kind of boundary in braces, or nothing that belongs to
it. -/
def readBoundary (f : Flags) (cs : List Char) : Except Fault (Escape × List Char) :=
  let plain := Escape.look (.boundary (!f.unicode) false)
  match cs with
  | '\x7b' :: r =>
    match f.skip r with
    | [] => .error .escape
    | c :: _ =>
      if isBoundaryChar c then readBoundaryName f r else .ok (plain, cs)
  | _ => .ok (plain, cs)

/-- The character of an escape that is one letter. -/
def letterEscape? : Char → Option Char
  | 'a' => some '\x07'
  | 'f' => some '\x0C'
  | 't' => some '\t'
  | 'n' => some '\n'
  | 'r' => some '\r'
  | 'v' => some '\x0B'
  | _ => none

/-- What a backslash and one character stand for. -/
def simpleEscape (f : Flags) (c : Char) : Except Fault Escape :=
  match letterClass? f c with
  | some (s, cost) =>
    if c.isUpper && !f.unicode then .error .notText else .ok (.ofRanges c.isUpper s cost)
  | none =>
    if isEscapable c then .ok (.char c)
    else
      match letterEscape? c with
      | some d => .ok (.char d)
      | none =>
        match c with
        | 'A' => .ok (.look .textStart)
        | 'z' => .ok (.look .textEnd)
        | 'B' => .ok (.look (.boundary (!f.unicode) true))
        | '<' => .ok (.look (.wordStart (!f.unicode)))
        | '>' => .ok (.look (.wordEnd (!f.unicode)))
        | _ => .error .escape

/-- Reads what follows a backslash. -/
def readEscape (f : Flags) (cs : List Char) : Except Fault (Escape × List Char) :=
  match cs with
  | [] => .error .escape
  | c :: r =>
    if c.isDigit then .error .backReference
    else if c = 'x' || c = 'u' || c = 'U' then readCode f c r
    else if c = 'p' || c = 'P' then readProperty f (c = 'P') r
    else if c = 'b' then readBoundary f r
    else do
      let e ← simpleEscape f c
      pure (e, r)

/-- The part of a pattern that an escape is. -/
def Flags.escaped (f : Flags) : Escape → Item
  | .char c => f.char c
  | .set s cost => Item.ofSet s 0 cost
  | .look l => Item.ofLook l

end TagSpec.Regex
