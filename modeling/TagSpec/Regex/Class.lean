import TagSpec.Regex.Escape

/-!
# Classes of characters

Sets of characters in brackets. Classes may stand in classes and be put together by signs, which all
bind alike and from the left.
-/

namespace TagSpec.Regex

/-- A part of a class, with how many bytes its ranges take. -/
structure Operand where
  set : CharSet
  depth : Nat
  cost : Nat

/-- How two sets are put together. -/
inductive SetSign where
  | inter
  | diff
  | symmDiff
deriving DecidableEq, Repr

def SetSign.apply : SetSign → CharSet → CharSet → CharSet
  | .inter => CharSet.inter
  | .diff => CharSet.diff
  | .symmDiff => CharSet.symmDiff

/-- A class that is open: what stands before the last sign in it, and the items since then, the last
of them first. -/
structure OpenClass where
  negated : Bool
  left : Option (SetSign × Operand)
  items : List Operand

/-- The items since the last sign. -/
def OpenClass.union (o : OpenClass) : Operand :=
  match o.items with
  | [] => ⟨CharSet.none, 0, 0⟩
  | [i] => i
  | is =>
    ⟨is.foldl (fun s i => i.set.union s) CharSet.none, 1 + (is.map Operand.depth).foldl max 0,
      (is.map Operand.cost).foldl (· + ·) 0⟩

/-- All that stands in a class so far. -/
def OpenClass.total (f : Flags) (o : OpenClass) : Operand :=
  match o.left with
  | none => o.union
  | some (sign, left) =>
    let right := o.union
    ⟨sign.apply (f.fold left.set) (f.fold right.set), 1 + max left.depth right.depth,
      left.cost + right.cost⟩

/-- The class when it is closed. -/
def OpenClass.close (f : Flags) (o : OpenClass) : Except Fault Operand :=
  let t := o.total f
  let s := f.fold t.set
  if o.negated && !f.unicode then .error .notText
  else if o.negated then .ok ⟨s.compl, t.depth + 1, t.cost + beyondAsciiSize⟩
  else .ok ⟨s, t.depth + 1, t.cost⟩

/-- A character of a class that stands for itself. -/
def Operand.ofChar (c : Char) : Operand := ⟨CharSet.single c, 0, rangeSize c⟩

/-- Reads the dashes at the start of a class. -/
def readHyphens (f : Flags) : Nat → List Operand → List Char → List Operand × List Char
  | 0, items, cs => (items, cs)
  | fuel + 1, items, '-' :: r => readHyphens f fuel (Operand.ofChar '-' :: items) (f.skip r)
  | _ + 1, items, cs => (items, cs)

/-- Gives something if the text goes on. -/
def continuing {α : Type} (a : α) (cs : List Char) : Except Fault (α × List Char) :=
  if cs.isEmpty then .error .unclosedClass else .ok (a, cs)

/-- Reads a bracket that stands for itself because nothing but negation is in front of it. -/
def readFirstBracket (f : Flags) (negated : Bool) (hyphens : List Operand) (cs : List Char) :
    Except Fault (OpenClass × List Char) :=
  match hyphens, cs with
  | [], ']' :: r => continuing ⟨negated, none, [Operand.ofChar ']']⟩ (f.skip r)
  | items, cs => continuing ⟨negated, none, items⟩ cs

/-- Reads the first members of a class, as far as these are signs elsewhere. -/
def openMembers (f : Flags) (negated : Bool) (cs : List Char) :
    Except Fault (OpenClass × List Char) :=
  let (items, rest) := readHyphens f cs.length [] cs
  readFirstBracket f negated items rest

/-- Reads what says that a class is negated, and its first members. -/
def openNegated (f : Flags) (cs : List Char) : Except Fault (OpenClass × List Char) :=
  match cs with
  | '^' :: r => openMembers f true (f.skip r)
  | _ => openMembers f false cs

/-- Reads what begins a class behind its bracket. -/
def openClass (f : Flags) (cs : List Char) : Except Fault (OpenClass × List Char) :=
  openNegated f (f.skip cs)

/-- A class such as `[:alpha:]` as a member. None of them has more than four ranges. -/
def asciiOperand (f : Flags) (negated : Bool) (s : CharSet) : Except Fault Operand :=
  let s := f.fold s
  let cost := 4 * rangeSize '~'
  if negated && !f.unicode then .error .notText
  else if negated then .ok ⟨s.compl, 0, cost + beyondAsciiSize⟩
  else .ok ⟨s, 0, cost⟩

/-- Reads the name of a class such as `[:alpha:]` and what closes it. -/
def readAsciiName? (cs : List Char) : Option (CharSet × List Char) :=
  match cs.dropWhile (· != ':') with
  | ':' :: ']' :: rest => (CharSet.asciiClass? (cs.takeWhile (· != ':'))).map (·, rest)
  | _ => none

/-- Reads the name of a class such as `[:alpha:]`; the flag says that it is negated. -/
def readNegated? (cs : List Char) : Option ((Bool × CharSet) × List Char) :=
  match cs with
  | '^' :: r => (readAsciiName? r).map fun (s, rest) => ((true, s), rest)
  | _ => (readAsciiName? cs).map fun (s, rest) => ((false, s), rest)

/-- Reads a class such as `[:alpha:]` behind its first bracket, if there is one. -/
def readAsciiClass? (cs : List Char) : Option ((Bool × CharSet) × List Char) :=
  match cs with
  | ':' :: r => readNegated? r
  | _ => none

def readClassMember (f : Flags) (cs : List Char) : Except Fault (Escape × List Char) :=
  match cs with
  | [] => .error .unclosedClass
  | '\\' :: r => readEscape f r
  | c :: r => .ok (.char c, r)

/-- A character of a class. -/
def classChar (f : Flags) : Escape → Except Fault Char
  | .char c => if f.unicode || c.toNat < 128 then .ok c else .error .notText
  | _ => .error .classRange

/-- A member of a class that is no range. -/
def classOperand (f : Flags) : Escape → Except Fault Operand
  | .char c =>
    if f.unicode || c.toNat < 128 then .ok (Operand.ofChar c) else .error .notText
  | .set s cost => .ok ⟨s, 0, cost⟩
  | .look _ => .error .classItem

/-- The range between two members of a class. -/
def classRange (f : Flags) (first last : Escape) : Except Fault Operand := do
  let a ← classChar f first
  let b ← classChar f last
  if a ≤ b then pure ⟨CharSet.range a b, 0, rangeSize b⟩ else .error .classRange

/-- Reads the member that ends a range. -/
def readRangeTo (f : Flags) (first : Escape) (cs : List Char) : Except Fault (Operand × List Char) := do
  let (last, rest) ← readClassMember f cs
  let o ← classRange f first last
  pure (o, rest)

/-- Reads what follows a member of a class: a dash and the end of a range, or nothing that belongs to
it. A dash in front of a bracket or of another dash is none of a range. -/
def readRangeEnd (f : Flags) (first : Escape) (cs : List Char) :
    Except Fault (Operand × List Char) :=
  match cs with
  | [] => .error .unclosedClass
  | '-' :: r =>
    match f.skip r with
    | [] => .error .unclosedClass
    | d :: r' =>
      if d = ']' || d = '-' then do
        let o ← classOperand f first
        pure (o, '-' :: r)
      else readRangeTo f first (d :: r')
  | cs => do
    let o ← classOperand f first
    pure (o, cs)

def readClassRange (f : Flags) (cs : List Char) : Except Fault (Operand × List Char) := do
  let (first, rest) ← readClassMember f cs
  readRangeEnd f first (f.skip rest)

/-- The sign that a doubled character is. -/
def SetSign.ofChar? : Char → Option SetSign
  | '&' => some .inter
  | '-' => some .diff
  | '~' => some .symmDiff
  | _ => none

/-- The sign at the start of a text, if there is one. -/
def signOf? (cs : List Char) : Option (SetSign × List Char) :=
  match cs with
  | a :: b :: r => if a = b then (SetSign.ofChar? a).map (·, r) else none
  | _ => none

def OpenClass.push (o : OpenClass) (operand : Operand) : OpenClass :=
  { o with items := operand :: o.items }

def OpenClass.signed (f : Flags) (o : OpenClass) (sign : SetSign) : OpenClass :=
  ⟨o.negated, some (sign, o.total f), []⟩

/-- Reads what begins with a bracket in a class. -/
def readInner (f : Flags) (o : OpenClass) (outer : List OpenClass) (cs : List Char) :
    Except Fault ((OpenClass × List OpenClass) × List Char) :=
  match readAsciiClass? cs with
  | some ((negated, s), rest) => do
    let operand ← asciiOperand f negated s
    pure ((o.push operand, outer), rest)
  | none => do
    let (inner, rest) ← openClass f cs
    pure ((inner, o :: outer), rest)

def readMember (f : Flags) (o : OpenClass) (cs : List Char) : Except Fault (OpenClass × List Char) :=
  match signOf? cs with
  | some (sign, rest) => .ok (o.signed f sign, rest)
  | none => do
    let (operand, rest) ← readClassRange f cs
    pure (o.push operand, rest)

/-- Reads a part of a class that does not close it, and gives the class that is read then with those
around it. -/
def readClassPart (f : Flags) (o : OpenClass) (outer : List OpenClass) (cs : List Char) :
    Except Fault ((OpenClass × List OpenClass) × List Char) :=
  match cs with
  | [] => .error .unclosedClass
  | '[' :: r => readInner f o outer r
  | cs => do
    let (o, rest) ← readMember f o cs
    pure ((o, outer), rest)

/-- Reads the parts of a class up to its end; `outer` are the classes around it. -/
def readClass (f : Flags) :
    Nat → OpenClass → List OpenClass → List Char → Except Fault (Operand × List Char)
  | 0, _, _, _ => .error .unclosedClass
  | fuel + 1, o, outer, cs =>
    match f.skip cs with
    | ']' :: r => do
      let closed ← o.close f
      match outer with
      | [] => pure (closed, r)
      | p :: ps => readClass f fuel (p.push closed) ps r
    | cs => do
      let ((o, outer), rest) ← readClassPart f o outer cs
      readClass f fuel o outer rest

end TagSpec.Regex
