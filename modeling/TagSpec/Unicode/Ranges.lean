import TagSpec.Text.Digits
import TagSpec.Text.Pieces

/-!
# Tables of characters

Tables of character codes in ascending order, written as words with spaces between them. A word is a
hexadecimal code, or two with a dash between them, and what follows a colon is data of that range.
-/

namespace TagSpec.Unicode

/-- The words of a table. -/
def tableWords (lines : List String) : List (List Char) :=
  lines.flatMap fun line => (pieces ' ' line.toList).filter (!·.isEmpty)

/-- The code that a hexadecimal numeral writes. -/
def readCode (cs : List Char) : Nat := cs.foldl (fun n c => n * 16 + digitValue c) 0

/-- The first and the last code of a range. -/
def readRange (cs : List Char) : Nat × Nat :=
  match pieces '-' cs with
  | [first, last] => (readCode first, readCode last)
  | _ => (readCode cs, readCode cs)

/-- Ranges of codes in ascending order, each with its first and its last code. -/
abbrev Ranges := List (Nat × Nat)

def Ranges.ofText (lines : List String) : Ranges := (tableWords lines).map readRange

/-- Whether a code lies in one of the ranges. -/
def Ranges.contains : Ranges → Nat → Bool
  | [], _ => false
  | (first, last) :: rs, n => if n < first then false else n ≤ last || Ranges.contains rs n

/-- Runs of codes in ascending order: where each begins, and the value of the codes in it. -/
abbrev Runs (α : Type) := List (Nat × α)

def Runs.ofText {α : Type} (value : List Char → α) (lines : List String) : Runs α :=
  (tableWords lines).map fun word =>
    match pieces ':' word with
    | [code, v] => (readCode code, value v)
    | _ => (readCode word, value [])

/-- The value of the last run that begins at or before a code. -/
def Runs.value? {α : Type} (runs : Runs α) (n : Nat) : Option α :=
  match runs with
  | [] => none
  | (first, v) :: rs => if n < first then none else some ((Runs.value? rs n).getD v)

/-- How many ranges are formed by the codes whose value is one of a kind. -/
def Runs.count {α : Type} (isOfKind : α → Bool) : Runs α → Nat
  | [] => 0
  | [(_, v)] => if isOfKind v then 1 else 0
  | (_, v) :: (first, w) :: rs =>
    (if isOfKind v && !isOfKind w then 1 else 0) + Runs.count isOfKind ((first, w) :: rs)

end TagSpec.Unicode
