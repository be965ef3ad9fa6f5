import TagSpec.Text.Decimal
import TagSpec.Text.Quoted

/-!
# Setting values

What a settings file or a variable of the environment says, before it is known what it is for.
-/

namespace TagSpec.Settings

/-- A value. Whole numbers from files may be negative and show as signed even if they are not. -/
inductive Value where
  | string (s : String)
  | bool (b : Bool)
  | natural (n : Nat)
  | integer (n : Int)
  /-- a number with a point, as it is shown -/
  | real (text : String)
  | list (vs : List Value)
  | table (entries : List (String × Value))
deriving Repr, Inhabited

namespace Value

def describe : Value → String
  | string s => "string " ++ Quoted.encode s
  | bool b => "bool " ++ if b then "true" else "false"
  | natural n => "unsigned int \x60" ++ toString n ++ "\x60"
  | integer n => "signed int \x60" ++ toString n ++ "\x60"
  | real text => "float \x60" ++ text ++ "\x60"
  | list _ => "sequence"
  | table _ => "map"

def get? (key : String) : Value → Option Value
  | table entries => entries.lookup key
  | _ => none

def at? : List String → Value → Option Value
  | [], v => some v
  | key :: path, v => (v.get? key).bind (at? path)

/-- Puts a value under a key. -/
def putEntry (key : String) (value : Value) : List (String × Value) → List (String × Value)
  | [] => [(key, value)]
  | (k, v) :: es => if k = key then (k, value) :: es else (k, v) :: putEntry key value es

mutual

/-- A value with another laid over it. Tables are laid over each other key by key; any other value
covers what is below it. -/
def overlay (below : Value) : Value → Value
  | table above =>
    match below with
    | table entries => table (overlayEntries entries above)
    | _ => table above
  | v => v

/-- Entries with others laid over them. -/
def overlayEntries (below : List (String × Value)) : List (String × Value) → List (String × Value)
  | [] => below
  | (k, v) :: rest =>
    match below.lookup k with
    | some old => overlayEntries (putEntry k (overlay old v) below) rest
    | none => overlayEntries (putEntry k v below) rest

end

end Value

end TagSpec.Settings
