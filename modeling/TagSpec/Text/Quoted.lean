import TagSpec.Text.Digits
import TagSpec.Unicode.Categories
import TagSpec.Unicode.Properties

/-!
# Quoted text

A text between double quotes as messages show it: what would not be seen is written as an escape.
-/

namespace TagSpec.Quoted

def hexNumeral (n : Nat) : List Char := Nat.toDigits 16 n

/-- Whether a character can be told apart when it is shown. -/
def isShown (c : Char) : Bool :=
  if c.toNat < 128 then 0x20 ≤ c.toNat && c.toNat ≠ 0x7F
  else
    match Unicode.category c with
    | .control | .format | .surrogate | .privateUse | .unassigned
    | .lineSeparator | .paragraphSeparator | .spaceSeparator => false
    | _ => true

/-- Whether a character is drawn onto the one in front of it. -/
def isJoined (c : Char) : Bool :=
  128 ≤ c.toNat &&
    match Unicode.properties.find? fun p => p.names.contains "Grapheme_Extend" with
    | some p => p.holds c
    | none => false

def encodeItem (c : Char) : List Char :=
  if c = '\t' then ['\\', 't']
  else if c = '\r' then ['\\', 'r']
  else if c = '\n' then ['\\', 'n']
  else if c = '\x00' then ['\\', '0']
  else if c = '"' then ['\\', '"']
  else if c = '\\' then ['\\', '\\']
  else if isJoined c || !isShown c then
    ['\\', 'u', '\x7b'] ++ hexNumeral c.toNat ++ ['\x7d']
  else [c]

/-- A text as it is shown, quotes included. -/
def encode (text : String) : String :=
  String.ofList ('"' :: (text.toList.flatMap encodeItem ++ ['"']))

/-- A path as it is shown; a single quote in it is an escape as well. -/
def encodePath (path : String) : String :=
  let item := fun (c : Char) => if c = '\'' then ['\\', '\''] else encodeItem c
  String.ofList ('"' :: (path.toList.flatMap item ++ ['"']))

end TagSpec.Quoted
