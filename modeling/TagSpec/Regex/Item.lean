import TagSpec.Regex.Pattern

/-!
# Parts of a pattern

What is read of a pattern piece by piece: each part carries how deep it nests and what it costs
besides what it matches, because a pattern that nests too deeply or costs too much is refused. What it
costs is told by the states of the program that the pattern is compiled to, which reads bytes.
-/

namespace TagSpec.Regex

/-- What is wrong with the text of a pattern. -/
inductive Fault where
  | unclosedGroup
  | unopenedGroup
  | lookAround
  | flags
  | groupName
  | nothingToRepeat
  | count
  | escape
  | backReference
  | unclosedClass
  | classRange
  | classItem
  | unknownProperty
  | notText
  | tooDeep
  | tooLarge
deriving DecidableEq, Repr

def Fault.message : Fault → String
  | .unclosedGroup => "unclosed group"
  | .unopenedGroup => "unopened group"
  | .lookAround => "look-around is not supported"
  | .flags => "invalid flags"
  | .groupName => "invalid capture group name"
  | .nothingToRepeat => "repetition operator missing expression"
  | .count => "invalid repetition count"
  | .escape => "invalid escape sequence"
  | .backReference => "backreferences are not supported"
  | .unclosedClass => "unclosed character class"
  | .classRange => "invalid character class range"
  | .classItem => "invalid escape sequence in character class"
  | .unknownProperty => "Unicode property not found"
  | .notText => "pattern can match invalid UTF-8"
  | .tooDeep => "exceeds the nest limit"
  | .tooLarge => "exceeds size limit"

/-- What flags have set for the part of a pattern that is being read. -/
structure Flags where
  ignoreCase : Bool
  multiLine : Bool
  dotAll : Bool
  unicode : Bool
  crlf : Bool
  spaced : Bool
deriving DecidableEq, Repr

def Flags.initial : Flags := ⟨false, false, false, true, false, false⟩

/-- A part of a pattern: how deep parts nest in it, how many bytes its states take, and whether a
repetition may follow it. Of sets and alternatives the bytes are an estimate. -/
structure Item where
  pattern : Pattern
  depth : Nat
  cost : Nat
  repeatable : Bool

/-- How deep parts may nest. -/
def depthLimit : Nat := 250


-- ---------------------------------------------------------------------------
-- Programs
-- ---------------------------------------------------------------------------

/-- How many bytes a program may take. -/
def costLimit : Nat := 10485760

/-- How many bytes a state takes. -/
def stateSize : Nat := 32

/-- How many bytes a state takes from which a program goes on in a number of ways. -/
def branchSize (ways : Nat) : Nat := stateSize + 4 * ways

/-- How many bytes the states take that are around every pattern: one to start from, two that mark
where a match begins and ends, and one that is reached by a match. -/
def frameSize : Nat := 4 * stateSize

/-- How many bytes a range of characters takes; beyond ASCII, where characters are several bytes,
about how many. -/
def rangeSize (last : Char) : Nat := if last.toNat < 128 then 8 else 64

/-- How many bytes a number of ranges take that may lie beyond ASCII. -/
def rangesSize (count : Nat) : Nat := 64 * count

/-- How many bytes all characters beyond ASCII take. -/
def beyondAsciiSize : Nat := 936

/-- How many bytes a part takes on its own, where nothing to match is a state too. -/
def Item.size (i : Item) : Nat := max stateSize i.cost

/-- How many bytes the program takes of which a part is the pattern. -/
def Item.programSize (i : Item) : Nat := i.size + frameSize


-- ---------------------------------------------------------------------------
-- Blanks
-- ---------------------------------------------------------------------------

/-- The text without blanks and comments at its start. -/
def skipSpaced : Bool → List Char → List Char
  | _, [] => []
  | true, c :: cs => skipSpaced (c != '\n') cs
  | false, c :: cs =>
    if isBlank c then skipSpaced false cs
    else if c = '#' then skipSpaced true cs
    else c :: cs

/-- The text from where reading goes on: behind blanks and comments, where these mean nothing. -/
def Flags.skip (f : Flags) (cs : List Char) : List Char :=
  if f.spaced then skipSpaced false cs else cs


-- ---------------------------------------------------------------------------
-- Parts
-- ---------------------------------------------------------------------------

/-- Parts one after another, the last of them first. -/
def Item.concat (items : List Item) : Item :=
  match items with
  | [] => ⟨.empty, 0, 0, true⟩
  | [i] => i
  | i :: is =>
    let pattern := is.foldl (fun p j => Pattern.seq j.pattern p) i.pattern
    ⟨pattern, 1 + (items.map Item.depth).foldl max 0,
      (items.map Item.cost).foldl (· + ·) 0, true⟩

/-- Alternatives, the last of them first. -/
def Item.alternate (branches : List Item) : Item :=
  match branches with
  | [] => ⟨.empty, 0, 0, true⟩
  | [i] => i
  | i :: is =>
    let pattern := is.foldl (fun p j => Pattern.alt j.pattern p) i.pattern
    ⟨pattern, 1 + (branches.map Item.depth).foldl max 0,
      (branches.map Item.size).foldl (· + ·) 0 + branchSize branches.length + stateSize, true⟩

/-- How many bytes a part takes a number of times. A part that may match nothing takes a way around
its repetition. -/
def Item.repeatedCost (i : Item) (least : Nat) : Option Nat → Nat
  | none =>
    if 0 < least then least * i.size + branchSize 2
    else if i.pattern.mayBeEmpty then i.size + 2 * branchSize 2 + stateSize
    else i.size + branchSize 2
  | some most =>
    if most = least then least * i.size
    else if most = 1 then i.size + branchSize 2 + stateSize
    else max stateSize (least * i.size) + (most - least) * (i.size + branchSize 2) + stateSize

/-- A part a number of times. -/
def Item.repeated (i : Item) (least : Nat) (most : Option Nat) : Item :=
  ⟨.repeated i.pattern least most, 1 + i.depth, i.repeatedCost least most, true⟩

/-- A group as a part of what is around it. Where it captures, two states mark where it begins and
ends. -/
def Item.grouped (captures : Bool) (i : Item) : Item :=
  ⟨i.pattern, i.depth + 1, if captures then i.size + 2 * stateSize else i.cost, true⟩

/-- A set with the characters that differ only in case, if case is ignored. -/
def Flags.fold (f : Flags) (s : CharSet) : CharSet :=
  if f.ignoreCase then if f.unicode then s.folded else s.foldedAscii else s

/-- How many bytes the states of one character take: one for each byte of it, or a set of two if case
is ignored. -/
def Flags.charCost (f : Flags) (c : Char) : Nat :=
  if f.ignoreCase && (c.isAlpha || 128 ≤ c.toNat) then 2 * stateSize + 2 * rangeSize c
  else stateSize * c.utf8Size

/-- One character. -/
def Flags.char (f : Flags) (c : Char) : Item :=
  ⟨.set (f.fold (CharSet.single c)), 0, f.charCost c, true⟩

/-- One of a set of characters, whose ranges take a number of bytes. -/
def Item.ofSet (s : CharSet) (depth ranges : Nat) : Item :=
  ⟨.set s, depth, 2 * stateSize + ranges, true⟩

def Item.ofLook (l : Look) : Item := ⟨.look l, 0, stateSize, true⟩

/-- Any character, or any that ends no line. -/
def Flags.dot (f : Flags) : Except Fault Item :=
  if !f.unicode then .error .notText
  else
    let s : CharSet :=
      if f.dotAll then CharSet.all
      else if f.crlf then fun c => c != '\n' && c != '\r'
      else fun c => c != '\n'
    .ok (Item.ofSet s 0 beyondAsciiSize)

/-- The start of the text, or of a line. -/
def Flags.caret (f : Flags) : Item :=
  Item.ofLook (if f.multiLine then .lineStart f.crlf else .textStart)

/-- The end of the text, or of a line. -/
def Flags.dollar (f : Flags) : Item :=
  Item.ofLook (if f.multiLine then .lineEnd f.crlf else .textEnd)

end TagSpec.Regex
