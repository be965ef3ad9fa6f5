import TagSpec.Regex.Class

/-!
# Reading patterns

From the text of a regular expression to its pattern. The text is read from left to right with a
stack of open groups, and each step uses up at least one character.
-/

namespace TagSpec.Regex

-- ---------------------------------------------------------------------------
-- Repetitions
-- ---------------------------------------------------------------------------

def countLimit : Nat := 4294967295

def readDecimal (f : Flags) : Nat → Option Nat → List Char → Option Nat × List Char
  | 0, acc, cs => (acc, cs)
  | fuel + 1, acc, c :: r =>
    match digit? 10 c with
    | some d => readDecimal f fuel (some (acc.getD 0 * 10 + d)) (f.skip r)
    | none => (acc, c :: r)
  | _ + 1, acc, [] => (acc, [])

/-- Takes what was read of digits for a count, and drops the blanks behind it. -/
def countOf (f : Flags) (n? : Option Nat) (cs : List Char) : Except Fault (Nat × List Char) :=
  match n? with
  | none => .error .count
  | some n => if n ≤ countLimit then .ok (n, f.skip (cs.dropWhile isBlank)) else .error .count

def readCount (f : Flags) (cs : List Char) : Except Fault (Nat × List Char) :=
  let cs := cs.dropWhile isBlank
  let (n?, rest) := readDecimal f cs.length none cs
  countOf f n? rest

/-- The text without a question mark at its start: behind a repetition it says that few are tried
first, which changes nothing in where a pattern matches. -/
def dropLazy (cs : List Char) : List Char :=
  match cs with
  | '?' :: rest => rest
  | _ => cs

/-- Reads the greatest count of a repetition, or that there is none. -/
def readMost (f : Flags) (cs : List Char) : Except Fault (Option Nat × List Char) :=
  match cs with
  | '\x7d' :: _ => .ok (none, cs)
  | _ => do
    let (m, rest) ← readCount f cs
    pure (some m, rest)

/-- Reads what stands between the least count of a repetition and its closing brace. -/
def readUpper (f : Flags) (least : Nat) (cs : List Char) : Except Fault (Option Nat × List Char) :=
  match cs with
  | ',' :: r => readMost f (f.skip r)
  | _ => .ok (some least, cs)

/-- Reads the closing brace of a repetition. -/
def closeBounds (f : Flags) (least : Nat) (most : Option Nat) (cs : List Char) :
    Except Fault ((Nat × Option Nat) × List Char) :=
  match cs with
  | '\x7d' :: r =>
    if most.all (least ≤ ·) then .ok ((least, most), dropLazy (f.skip r)) else .error .count
  | _ => .error .count

/-- Reads the bounds of a repetition behind its opening brace. -/
def readBounds (f : Flags) (cs : List Char) :
    Except Fault ((Nat × Option Nat) × List Char) := do
  let (least, rest) ← readCount f (f.skip cs)
  let (most, rest) ← readUpper f least rest
  closeBounds f least most rest


-- ---------------------------------------------------------------------------
-- Groups
-- ---------------------------------------------------------------------------

/-- What begins with a parenthesis. -/
inductive Opening where
  /-- flags for the rest of the group -/
  | flags (f : Flags)
  /-- a group, with its flags, whether it captures what it matches, and under which name -/
  | group (f : Flags) (captures : Bool) (name : Option (List Char))

def Flags.set? (f : Flags) (value : Bool) : Char → Option Flags
  | 'i' => some { f with ignoreCase := value }
  | 'm' => some { f with multiLine := value }
  | 's' => some { f with dotAll := value }
  | 'u' => some { f with unicode := value }
  | 'R' => some { f with crlf := value }
  | 'x' => some { f with spaced := value }
  | 'U' => some f
  | _ => none

/-- Flags, with the character behind them and whether there are none. -/
structure FlagList where
  flags : Flags
  isEmpty : Bool
  mark : Char

/-- Reads flags and the colon or parenthesis behind them; `seen` are those before. -/
def readFlags : Flags → Bool → List Char → List Char → Except Fault (FlagList × List Char)
  | _, _, _, [] => .error .flags
  | f, value, seen, c :: cs =>
    if c = ':' || c = ')' then
      if seen.head? = some '-' then .error .flags else .ok (⟨f, seen.isEmpty, c⟩, cs)
    else if seen.contains c then .error .flags
    else if c = '-' then readFlags f false ('-' :: seen) cs
    else
      match f.set? value c with
      | none => .error .flags
      | some f' => readFlags f' value (c :: seen) cs

def FlagList.opening (l : FlagList) : Except Fault Opening :=
  if l.mark = ':' then .ok (.group l.flags false none)
  else if l.isEmpty then .error .nothingToRepeat
  else .ok (.flags l.flags)

def isGroupNameStart (c : Char) : Bool := c = '_' || CharSet.property "Alphabetic" c

def isGroupNameTail (c : Char) : Bool :=
  isGroupNameStart c || c = '.' || c = '[' || c = ']' || (Unicode.category c).class = 'N'

/-- Reads the name of a group up to its closing bracket. -/
def readGroupName (cs : List Char) : Except Fault (List Char × List Char) :=
  let name := cs.takeWhile (· != '>')
  match cs.drop name.length, name with
  | '>' :: rest, c :: tail =>
    if isGroupNameStart c && tail.all isGroupNameTail then .ok (name, rest) else .error .groupName
  | _, _ => .error .groupName

def readFlagList (f : Flags) (cs : List Char) : Except Fault (Opening × List Char) := do
  let (l, rest) ← readFlags f true [] cs
  let o ← l.opening
  pure (o, rest)

def readNamed (f : Flags) (cs : List Char) : Except Fault (Opening × List Char) := do
  let (name, rest) ← readGroupName cs
  pure (.group f true (some name), rest)

/-- Reads what follows an opening parenthesis, a question mark and an opening bracket. -/
def readAngle (f : Flags) (cs : List Char) : Except Fault (Opening × List Char) :=
  match cs with
  | '=' :: _ | '!' :: _ => .error .lookAround
  | _ => readNamed f cs

/-- Reads what follows an opening parenthesis and a question mark. -/
def readExtension (f : Flags) (cs : List Char) : Except Fault (Opening × List Char) :=
  match cs with
  | '=' :: _ | '!' :: _ => .error .lookAround
  | '<' :: r => readAngle f r
  | 'P' :: '<' :: r => readNamed f r
  | _ => readFlagList f cs

/-- Reads what follows an opening parenthesis when blanks have been skipped. -/
def readGroupStart (f : Flags) (cs : List Char) : Except Fault (Opening × List Char) :=
  match cs with
  | '?' :: r => readExtension f r
  | _ => .ok (.group f true none, cs)

/-- Reads what follows an opening parenthesis. -/
def readOpening (f : Flags) (cs : List Char) : Except Fault (Opening × List Char) :=
  readGroupStart f (f.skip cs)


-- ---------------------------------------------------------------------------
-- Tokens
-- ---------------------------------------------------------------------------

/-- What stands at one place of a pattern. -/
inductive Token where
  | opening (o : Opening)
  | closing
  | bar
  | item (i : Item)
  | repetition (least : Nat) (most : Option Nat)

/-- Reads a class behind its first bracket. -/
def readBracketed (f : Flags) (cs : List Char) : Except Fault (Operand × List Char) := do
  let (o, rest) ← openClass f cs
  readClass f (rest.length + 1) o [] rest

/-- Reads what begins with a character that is not skipped. -/
def readToken (f : Flags) (c : Char) (cs : List Char) : Except Fault (Token × List Char) :=
  match c with
  | '(' => do
    let (o, rest) ← readOpening f cs
    pure (.opening o, rest)
  | ')' => .ok (.closing, cs)
  | '|' => .ok (.bar, cs)
  | '[' => do
    let (o, rest) ← readBracketed f cs
    pure (.item (Item.ofSet o.set o.depth o.cost), rest)
  | '?' => .ok (.repetition 0 (some 1), dropLazy cs)
  | '*' => .ok (.repetition 0 none, dropLazy cs)
  | '+' => .ok (.repetition 1 none, dropLazy cs)
  | '\x7b' => do
    let ((least, most), rest) ← readBounds f cs
    pure (.repetition least most, rest)
  | '\\' => do
    let (e, rest) ← readEscape f cs
    pure (.item (f.escaped e), rest)
  | '.' => do
    let i ← f.dot
    pure (.item i, cs)
  | '^' => .ok (.item f.caret, cs)
  | '$' => .ok (.item f.dollar, cs)
  | c => .ok (.item (f.char c), cs)


-- ---------------------------------------------------------------------------
-- Progress
-- ---------------------------------------------------------------------------

/-- What stands around an open group: the parts in front of it, the alternatives before those, and
the flags. With it stands whether the group captures. -/
structure Around where
  items : List Item
  branches : List Item
  flags : Flags
  captures : Bool

/-- What has been read of a pattern. -/
structure Progress where
  around : List Around
  items : List Item
  branches : List Item
  flags : Flags
  names : List (List Char)

def Progress.start : Progress := ⟨[], [], [], .initial, []⟩

/-- The alternatives of the group that is open. -/
def Progress.group (p : Progress) : Item :=
  let inner := Item.alternate (Item.concat p.items :: p.branches)
  { inner with repeatable := true }

/-- Sets flags or opens a group. -/
def Progress.opened (p : Progress) : Opening → Except Fault Progress
  | .flags f => .ok { p with flags := f, items := ⟨.empty, 0, 0, false⟩ :: p.items }
  | .group f captures name =>
    if name.any p.names.contains then .error .groupName
    else
      let around : Around := ⟨p.items, p.branches, p.flags, captures⟩
      .ok ⟨around :: p.around, [], [], f, name.toList ++ p.names⟩

def Progress.closed (p : Progress) : Except Fault Progress :=
  match p.around with
  | [] => .error .unopenedGroup
  | a :: as => .ok ⟨as, p.group.grouped a.captures :: a.items, a.branches, a.flags, p.names⟩

/-- Whether a repetition may follow. -/
def Progress.repeatable (p : Progress) : Bool := p.items.head?.any Item.repeatable

def Progress.repeatLast (p : Progress) (least : Nat) (most : Option Nat) :
    Except Fault Progress :=
  match p.items with
  | [] => .error .nothingToRepeat
  | i :: is =>
    if i.repeatable then .ok { p with items := i.repeated least most :: is }
    else .error .nothingToRepeat

/-- The progress behind a token. -/
def Progress.advance (p : Progress) : Token → Except Fault Progress
  | .opening o => p.opened o
  | .closing => p.closed
  | .bar => .ok { p with items := [], branches := Item.concat p.items :: p.branches }
  | .item i => .ok { p with items := i :: p.items }
  | .repetition least most => p.repeatLast least most

/-- Reads what begins with a character that is not skipped. The bounds of a repetition are not read
where nothing can be repeated. -/
def readPart (p : Progress) (c : Char) (cs : List Char) : Except Fault (Progress × List Char) :=
  if c = '\x7b' && !p.repeatable then .error .nothingToRepeat
  else do
    let (t, rest) ← readToken p.flags c cs
    let p' ← p.advance t
    pure (p', rest)

/-- Reads parts up to the end of the text. -/
def readParts : Nat → Progress → List Char → Except Fault Item
  | 0, _, _ => .error .tooLarge
  | fuel + 1, p, cs =>
    match p.flags.skip cs with
    | [] => if p.around.isEmpty then .ok p.group else .error .unclosedGroup
    | c :: r => do
      let (p', rest) ← readPart p c r
      readParts fuel p' rest

/-- The pattern that a text writes. -/
def parse (text : List Char) : Except Fault Pattern := do
  let item ← readParts (text.length + 1) .start text
  if depthLimit < item.depth then .error .tooDeep
  else if costLimit < item.programSize then .error .tooLarge
  else pure item.pattern

/-- Whether a text writes a pattern. -/
def isValid (text : List Char) : Bool := (parse text).isOk

end TagSpec.Regex
