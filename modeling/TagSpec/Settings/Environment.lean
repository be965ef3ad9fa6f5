import TagSpec.Settings.Value
import TagSpec.Text.Blank
import TagSpec.Text.Pieces

/-!
# Settings from the environment

Variables whose names begin with `STRUCTSPEC__` say settings; two underscores divide the keys of a
path. What a variable says is a value in a small notation, and any text that is not in that notation
stands for itself.
-/

namespace TagSpec.Settings.Environment

-- ---------------------------------------------------------------------------
-- Values
-- ---------------------------------------------------------------------------

def isSeparator (c : Char) : Bool :=
  c = ',' || c = '\x7b' || c = '\x7d' || c = '[' || c = ']'

def isKeyChar (c : Char) : Bool := c.isAlphanum || c = '_' || c = '-'

/-- A whole number with a sign or without. -/
def signed? (cs : List Char) : Option Int :=
  match cs with
  | '-' :: r =>
    (natural? r).bind fun n => if n ≤ 9223372036854775808 then some (-(n : Int)) else none
  | _ => none

/-- Reads the exponent of a number, if one is there. -/
def exponent? (cs : List Char) : Option Int :=
  match cs with
  | [] => some 0
  | c :: r =>
    if c = 'e' || c = 'E' then
      match r with
      | '-' :: ds => (natural? ds).map fun n => -(n : Int)
      | '+' :: ds => (natural? ds).map fun n => (n : Int)
      | ds => (natural? ds).map fun n => (n : Int)
    else none

/-- A number with a point, as it is shown. -/
def real? (cs : List Char) : Option String :=
  let (negative, body) := match cs with
    | '-' :: r => (true, r)
    | '+' :: r => (false, r)
    | _ => (false, cs)
  let whole := body.takeWhile isDigit
  match body.drop whole.length with
  | '.' :: r =>
    let part := r.takeWhile isDigit
    if whole.isEmpty && part.isEmpty then none
    else
      match exponent? (r.drop part.length), natural? (whole ++ part) with
      | some e, some n => some (Decimal.shown negative ⟨n, e - (part.length : Nat)⟩)
      | _, _ => none
  | _ => none

def wordValue (cs : List Char) : Value :=
  match if cs.contains '.' then real? cs else none with
  | some text => .real text
  | none =>
    match unsigned? cs with
    | some n => .natural n
    | none =>
      match signed? cs with
      | some n => .integer n
      | none => .string (String.ofList cs)

/-- The character that a letter behind a backslash stands for. -/
def letterEscape? : Char → Option Char
  | 'b' => some '\x08'
  | 't' => some '\t'
  | 'n' => some '\n'
  | 'f' => some '\x0C'
  | 'r' => some '\r'
  | '"' => some '"'
  | '\\' => some '\\'
  | _ => none

/-- The text of a quoted value; `fuel` is more than its length. -/
def unescape : Nat → List Char → Option (List Char)
  | 0, _ => none
  | _ + 1, [] => some []
  | fuel + 1, c :: cs =>
    if c ≠ '\\' then (unescape fuel cs).map (c :: ·)
    else
      match cs with
      | [] => none
      | d :: ds =>
        match letterEscape? d with
        | some e => (unescape fuel ds).map (e :: ·)
        | none =>
          let count := if d = 'u' then 4 else if d = 'U' then 8 else 0
          if count = 0 then none
          else
            match readDigits 16 count 0 ds with
            | some (n, rest) =>
              if n.isValidChar then (unescape fuel rest).map (Char.ofNat n :: ·) else none
            | none => none

/-- Cuts a text behind the quote that closes it. -/
def cutQuoted : List Char → Option (List Char × List Char)
  | [] => none
  | '"' :: cs => some ([], cs)
  | '\\' :: c :: cs => (cutQuoted cs).map fun (a, b) => ('\\' :: c :: a, b)
  | c :: cs => (cutQuoted cs).map fun (a, b) => (c :: a, b)

def readQuoted (cs : List Char) : Option (String × List Char) :=
  (cutQuoted cs).bind fun (body, rest) =>
    (unescape (body.length + 1) body).map fun text => (String.ofList text, rest)

/-- An entry in front of others. Of two entries with one key the later one counts. -/
def frontEntry (key : String) (value : Value) (es : List (String × Value)) :
    List (String × Value) :=
  if (es.lookup key).isSome then es else (key, value) :: es

mutual

/-- Reads a value and the blanks around it. -/
def readValue : Nat → List Char → Option (Value × List Char)
  | 0, _ => none
  | fuel + 1, cs =>
    let cs := trimStart cs
    let done := fun (r : Option (Value × List Char)) => r.map fun (v, rest) => (v, trimStart rest)
    match dropStart? "true".toList cs, dropStart? "false".toList cs, cs with
    | some rest, _, _ => done (some (.bool true, rest))
    | _, some rest, _ => done (some (.bool false, rest))
    | _, _, '\x7b' :: r => done ((readEntries fuel r).map fun (es, rest) => (.table es, rest))
    | _, _, '[' :: r => done ((readItems fuel r).map fun (vs, rest) => (.list vs, rest))
    | _, _, '"' :: r => done ((readQuoted r).map fun (s, rest) => (.string s, rest))
    | _, _, '\'' :: c :: '\'' :: r => done (some (.string (String.ofList [c]), r))
    | _, _, '\'' :: _ => none
    | _, _, cs =>
      let word := cs.takeWhile fun c => !isSeparator c
      done (some (wordValue (trim word), cs.drop word.length))

def readItems : Nat → List Char → Option (List Value × List Char)
  | 0, _ => none
  | _ + 1, ']' :: rest => some ([], rest)
  | fuel + 1, cs =>
    match readValue fuel cs with
    | some (v, ',' :: rest) => (readItems fuel rest).map fun (vs, rest) => (v :: vs, rest)
    | some (v, ']' :: rest) => some ([v], rest)
    | _ => none

def readEntries : Nat → List Char → Option (List (String × Value) × List Char)
  | 0, _ => none
  | _ + 1, '\x7d' :: rest => some ([], rest)
  | fuel + 1, cs =>
    let cs := trimStart cs
    let key := match cs with
      | '"' :: r => readQuoted r
      | _ =>
        let word := cs.takeWhile isKeyChar
        if word.isEmpty then none else some (String.ofList word, cs.drop word.length)
    match key with
    | none => none
    | some (k, rest) =>
      match trimStart rest with
      | '=' :: r =>
        match readValue fuel r with
        | some (v, ',' :: rest) =>
          (readEntries fuel rest).map fun (es, rest) => (frontEntry k v es, rest)
        | some (v, '\x7d' :: rest) => some ([(k, v)], rest)
        | _ => none
      | _ => none

end

/-- The value that a text says. -/
def valueOf (text : String) : Value :=
  match readValue (text.length + 2) text.toList with
  | some (v, []) => v
  | _ => .string text


-- ---------------------------------------------------------------------------
-- Variables
-- ---------------------------------------------------------------------------

/-- What the names of variables begin with. -/
def variablePrefix : String := "STRUCTSPEC__"

/-- The text with every two underscores made one dot. -/
def dotted : List Char → List Char
  | '_' :: '_' :: cs => '.' :: dotted cs
  | c :: cs => c :: dotted cs
  | [] => []

/-- A character of a key in lower case. The sign for the kelvin is the only letter beyond ASCII whose
lower case is a letter of ASCII; keys with other letters mean nothing. -/
def lowerKeyChar (c : Char) : Char := if c = '\u212A' then 'k' else c.toLower

/-- What follows the prefix in the name of a variable, in upper or lower case. -/
def dropPrefix? (name : List Char) : Option (List Char) :=
  (dropStart? (variablePrefix.toList.map Char.toLower) (name.map Char.toLower)).map fun _ =>
    name.drop variablePrefix.length

/-- The path of keys that a variable sets, if its name says one. -/
def keyPath? (name : String) : Option (List String) :=
  (dropPrefix? (trim name.toList)).bind fun rest =>
    let keys := pieces '.' (trim (dotted (rest.map lowerKeyChar)))
    if keys.any List.isEmpty then none else some (keys.map String.ofList)

/-- A value under a path of keys. -/
def nest (v : Value) : List String → Value
  | [] => v
  | k :: ks => .table [(k, nest v ks)]

/-- The settings that variables say; a later one is laid over those before it. -/
def settings (environment : List (String × String)) : Value :=
  environment.foldl (fun acc (name, text) =>
    match keyPath? name with
    | some keys => Value.overlay acc (nest (valueOf text) keys)
    | none => acc) (.table [])

end TagSpec.Settings.Environment
