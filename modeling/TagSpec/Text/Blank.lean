/-!
# Blanks and lines

The blank characters of Unicode, trimming, and the lines of a text.
-/

namespace TagSpec

/-- Whether a character is white space in Unicode's sense. -/
def isBlank (c : Char) : Bool :=
  let n := c.toNat
  (9 ≤ n && n ≤ 13) || n == 0x20 || n == 0x85 || n == 0xA0 || n == 0x1680 ||
    (0x2000 ≤ n && n ≤ 0x200A) || n == 0x2028 || n == 0x2029 || n == 0x202F || n == 0x205F ||
    n == 0x3000

def isAsciiBlank (c : Char) : Bool :=
  let n := c.toNat
  (9 ≤ n && n ≤ 13) || n == 0x20

def trimStart (cs : List Char) : List Char := cs.dropWhile isBlank

def trimEnd (cs : List Char) : List Char := (cs.reverse.dropWhile isBlank).reverse

def trim (cs : List Char) : List Char := trimEnd (trimStart cs)

/-- What follows `start` in a text that begins with it. -/
def dropStart? (start cs : List Char) : Option (List Char) :=
  if start.isPrefixOf cs then some (cs.drop start.length) else none

/-- What precedes `tail` in a text that ends with it. -/
def dropTail? (tail cs : List Char) : Option (List Char) :=
  if tail.isSuffixOf cs then some (cs.take (cs.length - tail.length)) else none

/-- A line without the carriage return before its line feed. -/
def dropReturn (line : List Char) : List Char := (dropTail? ['\r'] line).getD line

/-- The text up to the first line feed, and what follows it if there is one. -/
def cutLine : List Char → List Char × Option (List Char)
  | [] => ([], none)
  | c :: cs =>
    if c = '\n' then ([], some cs)
    else ((c :: (cutLine cs).1), (cutLine cs).2)

theorem length_cutLine_lt {cs rest : List Char} (h : (cutLine cs).2 = some rest) :
    rest.length < cs.length := by
  induction cs with
  | nil => simp [cutLine] at h
  | cons c cs ih =>
    unfold cutLine at h
    split at h
    · simp only [Option.some.injEq] at h
      subst h
      simp
    · exact Nat.lt_succ_of_lt (ih h)

/-- The lines of a text. A line ends at a line feed, of which a carriage return before it is part;
a text that ends with a line feed has no empty last line. -/
def textLines (cs : List Char) : List (List Char) :=
  match _h : (cutLine cs).2 with
  | none => if cs.isEmpty then [] else [(cutLine cs).1]
  | some rest => dropReturn (cutLine cs).1 :: textLines rest
termination_by cs.length
decreasing_by exact length_cutLine_lt _h

end TagSpec
