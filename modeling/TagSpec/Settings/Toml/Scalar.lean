import TagSpec.Settings.Environment

/-!
# Numbers and dates of settings files

Values that are one word: truth values, numbers, dates and times.
-/

namespace TagSpec.Settings.Toml

/-- The digits of a text in which single underscores may stand between digits. -/
def digits? (ok : Char → Bool) (cs : List Char) : Option (List Char) :=
  let groups := pieces '_' cs
  if groups.all fun g => !g.isEmpty && g.all ok then some groups.flatten else none

def numberOf (base : Nat) (cs : List Char) : Nat :=
  cs.foldl (fun n c => n * base + digitValue c) 0

/-- The sign in front of a number, and the rest. -/
def signOf : List Char → Option Bool × List Char
  | '-' :: cs => (some true, cs)
  | '+' :: cs => (some false, cs)
  | cs => (none, cs)

/-- Decimal digits without a zero in front. -/
def decimalDigits? (cs : List Char) : Option (List Char) :=
  (digits? isDigit cs).filter fun ds => ds.length = 1 || ds.head? ≠ some '0'

/-- Whether a whole number is in range. -/
def inRange (n : Int) : Bool := -9223372036854775808 ≤ n && n ≤ 9223372036854775807

/-- The whole number that a word writes. -/
def integer? (word : List Char) : Option Int :=
  let based := fun (base : Nat) (cs : List Char) =>
    (digits? (fun c => (digit? base c).isSome) cs).map fun ds => (numberOf base ds : Int)
  let n := match word with
    | '0' :: 'x' :: cs => based 16 cs
    | '0' :: 'o' :: cs => based 8 cs
    | '0' :: 'b' :: cs => based 2 cs
    | _ =>
      let (sign, cs) := signOf word
      (decimalDigits? cs).map fun ds =>
        if sign = some true then -(numberOf 10 ds : Int) else (numberOf 10 ds : Int)
  n.filter inRange

/-- The number with a point or exponent that a word writes, as it is shown. -/
def real? (word : List Char) : Option String :=
  let (sign, cs) := signOf word
  let negative := sign = some true
  if cs = "inf".toList then some (if negative then "-inf" else "inf")
  else if cs = "nan".toList then some "NaN"
  else
    let mantissa := cs.takeWhile fun c => c != 'e' && c != 'E'
    let exponent := match cs.drop mantissa.length with
      | [] => some (0 : Int)
      | _ :: r =>
        let (s, ds) := signOf r
        (digits? isDigit ds).map fun ds =>
          if s = some true then -(numberOf 10 ds : Int) else (numberOf 10 ds : Int)
    let whole := mantissa.takeWhile (· != '.')
    let part := match mantissa.drop whole.length with
      | [] => some []
      | _ :: r => digits? isDigit r
    match decimalDigits? whole, part, exponent with
    | some w, some p, some e =>
      if cs.any fun c => c = '.' || c = 'e' || c = 'E' then
        some (Decimal.shown negative ⟨numberOf 10 (w ++ p), e - (p.length : Nat)⟩)
      else none
    | _, _, _ => none

/-- The number that two or four digits write at the start of a text, in bounds. -/
def readField (count least most : Nat) (cs : List Char) : Option (Nat × List Char) :=
  (readDigits 10 count 0 cs).filter fun (n, _) => least ≤ n && n ≤ most

/-- What follows a character that has to be there. -/
def after? (c : Char) : List Char → Option (List Char)
  | [] => none
  | d :: ds => if c = d then some ds else none

def daysIn (year month : Nat) : Nat :=
  if month = 2 then
    if year % 4 = 0 && (year % 100 ≠ 0 || year % 400 = 0) then 29 else 28
  else if month = 4 || month = 6 || month = 9 || month = 11 then 30
  else 31

def readDate (cs : List Char) : Option (List Char) := do
  let (year, cs) ← readField 4 0 9999 cs
  let cs ← after? '-' cs
  let (month, cs) ← readField 2 1 12 cs
  let cs ← after? '-' cs
  let (_, cs) ← readField 2 1 (daysIn year month) cs
  pure cs

def readTime (cs : List Char) : Option (List Char) := do
  let (_, cs) ← readField 2 0 23 cs
  let cs ← after? ':' cs
  let (_, cs) ← readField 2 0 59 cs
  let cs ← after? ':' cs
  let (_, cs) ← readField 2 0 60 cs
  match cs with
  | '.' :: r => if (r.takeWhile isDigit).isEmpty then none else pure (r.dropWhile isDigit)
  | _ => pure cs

/-- Reads how far a time is from universal time, if that is said. -/
def readOffset (cs : List Char) : Option (List Char) :=
  match cs with
  | 'Z' :: r => some r
  | 'z' :: r => some r
  | '+' :: r | '-' :: r => do
    let (_, r) ← readField 2 0 23 r
    let r ← after? ':' r
    let (_, r) ← readField 2 0 59 r
    pure r
  | _ => some cs

def isMoment (word : List Char) : Bool :=
  match readDate word with
  | some [] => true
  | some (t :: rest) =>
    (t = 'T' || t = 't' || t = ' ') && ((readTime rest).bind readOffset) = some []
  | none => readTime word = some []

def isScalarChar (c : Char) : Bool :=
  c.isAlphanum || c = '+' || c = '-' || c = '_' || c = '.' || c = ':'

/-- The word at the start of a text, with the time behind a date and a space. -/
def scalarWord (cs : List Char) : List Char :=
  let word := cs.takeWhile isScalarChar
  match cs.drop word.length with
  | ' ' :: r =>
    let time := r.takeWhile isScalarChar
    if readDate word = some [] && isMoment (word ++ ' ' :: time) then word ++ ' ' :: time else word
  | _ => word

/-- Reads a truth value, a number or a date. -/
def readScalar (cs : List Char) : Option (Value × List Char) :=
  let word := scalarWord cs
  let rest := cs.drop word.length
  if word = "true".toList then some (.bool true, rest)
  else if word = "false".toList then some (.bool false, rest)
  else
    match integer? word, real? word with
    | some n, _ => some (.integer n, rest)
    | none, some text => some (.real text, rest)
    | none, none =>
      if isMoment word then some (.table [("datetime", .string (String.ofList word))], rest)
      else none

end TagSpec.Settings.Toml
