import TagSpec.Settings.Environment

/-!
# Strings and keys of settings files

What stands between the values of a file, and the strings and keys in it.
-/

namespace TagSpec.Settings.Toml

-- ---------------------------------------------------------------------------
-- Blanks
-- ---------------------------------------------------------------------------

def isLineBlank (c : Char) : Bool := c = ' ' || c = '\t'

def skipBlanks (cs : List Char) : List Char := cs.dropWhile isLineBlank

def isPlain (c : Char) : Bool := c = '\t' || (0x20 ≤ c.toNat && c.toNat ≠ 0x7F)

/-- What follows the end of a line, if the text begins with one. -/
def newline? : List Char → Option (List Char)
  | '\n' :: cs => some cs
  | '\r' :: '\n' :: cs => some cs
  | _ => none

/-- The text behind a comment, if it begins with one. -/
def skipComment : List Char → List Char
  | '#' :: cs => cs.dropWhile isPlain
  | cs => cs

/-- The text behind blanks, comments and ends of lines. -/
def skipLines : Nat → List Char → List Char
  | 0, cs => cs
  | fuel + 1, cs =>
    let rest := skipComment (skipBlanks cs)
    match newline? rest with
    | some next => skipLines fuel next
    | none => rest


-- ---------------------------------------------------------------------------
-- Strings and keys
-- ---------------------------------------------------------------------------

/-- Reads an escape behind its backslash. -/
def readEscape : List Char → Option (Char × List Char)
  | [] => none
  | c :: cs =>
    match Environment.letterEscape? c with
    | some e => some (e, cs)
    | none =>
      let count := if c = 'u' then 4 else if c = 'U' then 8 else 0
      if count = 0 then none
      else
        (readDigits 16 count 0 cs).bind fun (n, rest) =>
          if n.isValidChar then some (Char.ofNat n, rest) else none

/-- Reads a string of one line behind its opening quote. -/
def readBasic : Nat → List Char → Option (List Char × List Char)
  | 0, _ => none
  | _ + 1, [] => none
  | fuel + 1, c :: cs =>
    if c = '"' then some ([], cs)
    else if c = '\\' then
      (readEscape cs).bind fun (e, rest) =>
        (readBasic fuel rest).map fun (text, rest) => (e :: text, rest)
    else if isPlain c then (readBasic fuel cs).map fun (text, rest) => (c :: text, rest)
    else none

/-- Reads a string without escapes behind its opening quote. -/
def readLiteral : List Char → Option (List Char × List Char)
  | [] => none
  | c :: cs =>
    if c = '\'' then some ([], cs)
    else if isPlain c then (readLiteral cs).map fun (text, rest) => (c :: text, rest)
    else none

/-- The text behind blanks and ends of lines. -/
def skipWhite : Nat → List Char → List Char
  | 0, cs => cs
  | fuel + 1, cs =>
    match newline? (skipBlanks cs) with
    | some next => skipWhite fuel next
    | none => skipBlanks cs

/-- Reads a string of several lines up to three quotes, of which two more may stand in front. -/
def readLong (quote : Char) (escapes : Bool) : Nat → List Char → Option (List Char × List Char)
  | 0, _ => none
  | _ + 1, [] => none
  | fuel + 1, c :: cs =>
    let quotes := ((c :: cs).takeWhile (· == quote)).length
    if 3 ≤ quotes then
      let inside := min (quotes - 3) 2
      some (List.replicate inside quote, (c :: cs).drop (inside + 3))
    else if c = '\\' && escapes then
      match newline? (skipBlanks cs) with
      | some next => readLong quote escapes fuel (skipWhite next.length next)
      | none =>
        (readEscape cs).bind fun (e, rest) =>
          (readLong quote escapes fuel rest).map fun (text, rest) => (e :: text, rest)
    else
      match newline? (c :: cs) with
      | some next => (readLong quote escapes fuel next).map fun (text, rest) => ('\n' :: text, rest)
      | none =>
        if isPlain c then (readLong quote escapes fuel cs).map fun (text, rest) => (c :: text, rest)
        else none

def readString (cs : List Char) : Option (List Char × List Char) :=
  let body := fun (r : List Char) => (newline? r).getD r
  match cs with
  | '"' :: '"' :: '"' :: r => readLong '"' true (r.length + 1) (body r)
  | '\'' :: '\'' :: '\'' :: r => readLong '\'' false (r.length + 1) (body r)
  | '"' :: r => readBasic (r.length + 1) r
  | '\'' :: r => readLiteral r
  | _ => none

def isBareKeyChar (c : Char) : Bool := c.isAlphanum || c = '_' || c = '-'

def readKeyPart (cs : List Char) : Option (String × List Char) :=
  let quoted := fun (r : Option (List Char × List Char)) =>
    r.map fun (text, rest) => (String.ofList text, rest)
  match cs with
  | '"' :: r => quoted (readBasic (r.length + 1) r)
  | '\'' :: r => quoted (readLiteral r)
  | _ =>
    let word := cs.takeWhile isBareKeyChar
    if word.isEmpty then none else some (String.ofList word, cs.drop word.length)

/-- Reads a key: parts with dots between them. -/
def readKey : Nat → List Char → Option (List String × List Char)
  | 0, _ => none
  | fuel + 1, cs =>
    match readKeyPart (skipBlanks cs) with
    | none => none
    | some (part, rest) =>
      match skipBlanks rest with
      | '.' :: r => (readKey fuel r).map fun (parts, rest) => (part :: parts, rest)
      | rest => some ([part], rest)

end TagSpec.Settings.Toml
