/-!
# Globs

Patterns for file names: `?` stands for one character, `*` for any number of them, `[…]` for one of
some characters and `[!…]` for one of all others. `**` stands for any number of whole directories
and may not share its place between slashes with anything else.
-/

namespace TagSpec.Glob

-- ---------------------------------------------------------------------------
-- Patterns
-- ---------------------------------------------------------------------------

/-- The characters from one to another. -/
structure Range where
  first : Char
  last : Char
deriving DecidableEq, Repr

/-- A part of a glob. -/
inductive Part where
  | char (c : Char)
  | anyChar
  | anyText
  | anyDirectories
  | within (ranges : List Range)
  | except (ranges : List Range)
deriving DecidableEq, Repr

/-- What is wrong with the text of a glob. -/
inductive FaultKind where
  | wildcards
  | recursive
  | range
deriving DecidableEq, Repr

/-- A fault, with the number of characters in front of it. -/
structure Fault where
  kind : FaultKind
  position : Nat
deriving DecidableEq, Repr

def Fault.message (f : Fault) : String :=
  let text := match f.kind with
    | .wildcards => "wildcards are either regular \x60*\x60 or recursive \x60**\x60"
    | .recursive => "recursive wildcards must form a single path component"
    | .range => "invalid range pattern"
  "Pattern syntax error near position " ++ toString f.position ++ ": " ++ text


-- ---------------------------------------------------------------------------
-- Reading
-- ---------------------------------------------------------------------------

/-- The ranges between brackets; a dash between two characters makes a range of them. -/
def ranges : List Char → List Range
  | [] => []
  | [a] => [⟨a, a⟩]
  | [a, b] => [⟨a, a⟩, ⟨b, b⟩]
  | a :: b :: c :: cs => if b = '-' then ⟨a, c⟩ :: ranges cs else ⟨a, a⟩ :: ranges (b :: c :: cs)

/-- Reads what stands between brackets behind the opening one. The first character may be a closing
bracket. -/
def readBrackets? (cs : List Char) : Option (Part × List Char) :=
  let cut := fun (cs : List Char) =>
    match cs with
    | [] => none
    | c :: r =>
      let tail := r.takeWhile (· != ']')
      match r.drop tail.length with
      | [] => none
      | _ :: rest => some (ranges (c :: tail), rest)
  match cs with
  | '!' :: r => (cut r).map fun (rs, rest) => (.except rs, rest)
  | r => (cut r).map fun (rs, rest) => (.within rs, rest)

def isSlash (c : Char) : Bool := c = '/'

/-- Reads the parts of a glob; `before` is the character in front and `position` the number of those
in front. -/
def readParts : Nat → Nat → Option Char → List Char → Except Fault (List Part)
  | 0, _, _, _ => .ok []
  | _ + 1, _, _, [] => .ok []
  | fuel + 1, position, before, c :: cs =>
    let next := fun (part : Part) (last : Char) (rest : List Char) =>
      match readParts fuel (position + (c :: cs).length - rest.length) (some last) rest with
      | .ok parts => .ok (part :: parts)
      | .error f => .error f
    if c = '?' then next .anyChar c cs
    else if c = '*' then
      let stars := (cs.takeWhile (· == '*')).length + 1
      let rest := (c :: cs).drop stars
      if 2 < stars then .error ⟨.wildcards, position + 2⟩
      else if stars = 2 then
        if before.all isSlash then
          match rest with
          | [] => next .anyDirectories '*' []
          | d :: r =>
            if isSlash d then next .anyDirectories d r else .error ⟨.recursive, position + 2⟩
        else .error ⟨.recursive, position - 1⟩
      else next .anyText c cs
    else if c = '[' then
      match readBrackets? cs with
      | none => .error ⟨.range, position⟩
      | some (part, rest) => next part ']' rest
    else next (.char c) c cs

/-- The parts of a glob. -/
def parse (text : List Char) : Except Fault (List Part) :=
  readParts (text.length + 1) 0 none text


-- ---------------------------------------------------------------------------
-- Matching
-- ---------------------------------------------------------------------------

def inRanges (rs : List Range) (c : Char) : Bool := rs.any fun r => r.first ≤ c && c ≤ r.last

/-- Whether a part that stands for one character stands for this one. -/
def Part.accepts (c : Char) : Part → Bool
  | .char d => c == d
  | .anyChar => true
  | .within rs => inRanges rs c
  | .except rs => !inRanges rs c
  | _ => false

/-- Whether some way to leave off characters of a text makes `matches'` true. -/
def afterSome (matches' : List Char → Bool) : List Char → Bool
  | [] => matches' []
  | c :: cs => matches' (c :: cs) || afterSome matches' cs

/-- Whether some way to leave off directories of a text makes `matches'` true, or leaving off all of
it does. -/
def afterDirectories (matches' : List Char → Bool) : List Char → Bool
  | [] => matches' []
  | c :: cs => (isSlash c && matches' cs) || afterDirectories matches' cs

/-- Whether parts match the whole of a text. -/
def isMatch : List Part → List Char → Bool
  | [], text => text.isEmpty
  | .anyText :: ps, text => afterSome (isMatch ps) text
  | .anyDirectories :: ps, text => isMatch ps text || afterDirectories (isMatch ps) text
  | p :: ps, text =>
    match text with
    | [] => false
    | c :: cs => p.accepts c && isMatch ps cs

end TagSpec.Glob
