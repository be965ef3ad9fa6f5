import TagSpec.StringLiteral
import TagSpec.Tags
import TagSpec.Text.Pieces

/-!
# Reading tags

The text of a tag is a sequence of pairs `key:"value"` with spaces between them. A value is a
string literal; the text that it denotes is cut at commas into a name and options. `scan` reads
pairs up to the end or up to the first fault, and all else follows from what it gives.
-/

namespace TagSpec

/-- What is wrong with the text of a tag. -/
inductive TagFault where
  | key
  | pair
  | value
  | literal (text : String)
deriving DecidableEq, Repr

def TagFault.message : TagFault → String
  | .key => "bad syntax for struct tag key"
  | .pair => "bad syntax for struct tag pair"
  | .value => "bad syntax for struct tag value"
  | .literal text => "bad struct tag literal " ++ text

namespace Tags

-- ---------------------------------------------------------------------------
-- One pair
-- ---------------------------------------------------------------------------

def isKeyChar (c : Char) : Bool := ' ' < c && c != ':' && c != '"' && c != '\x7F'

/-- Cuts a text behind the first quote that no backslash escapes. -/
def cutQuote : List Char → Option (List Char × List Char)
  | [] => none
  | c :: cs =>
    if c = '"' then some (['"'], cs)
    else if c = '\\' then
      match cs with
      | [] => none
      | d :: ds => (cutQuote ds).map fun (q, rest) => (c :: d :: q, rest)
    else (cutQuote cs).map fun (q, rest) => (c :: q, rest)

/-- Nothing is lost in the cut. -/
theorem append_of_cutQuote {cs quoted rest : List Char} (h : cutQuote cs = some (quoted, rest)) :
    quoted ++ rest = cs := by
  fun_induction cutQuote cs generalizing quoted rest with
  | case1 => cases h
  | case2 cs =>
    cases h
    rfl
  | case3 => cases h
  | case4 d ds _ ih =>
    obtain ⟨⟨q, r⟩, hq, he⟩ := Option.map_eq_some_iff.1 h
    cases he
    simp [ih hq]
  | case5 c cs _ _ ih =>
    obtain ⟨⟨q, r⟩, hq, he⟩ := Option.map_eq_some_iff.1 h
    cases he
    simp [ih hq]

/-- A pair as written, and the bytes that its value denotes. -/
structure Pair where
  key : List Char
  quoted : List Char
  bytes : List UInt8
deriving DecidableEq, Repr

/-- Reads one pair at the start of a text, and gives what follows it. -/
def readPair (cs : List Char) : Except TagFault (Pair × List Char) :=
  let key := cs.takeWhile isKeyChar
  if key.isEmpty then .error .key
  else
    match cs.dropWhile isKeyChar with
    | ':' :: '"' :: body =>
      match cutQuote body with
      | none => .error .value
      | some (quoted, rest) =>
        match StringLiteral.decode? ('"' :: quoted) with
        | none => .error .value
        | some bytes => .ok (⟨key, '"' :: quoted, bytes⟩, rest)
    | ':' :: _ :: _ => .error .value
    | _ => .error .pair

/-- A pair uses up part of the text. -/
theorem length_readPair_lt {cs rest : List Char} {p : Pair} (h : readPair cs = .ok (p, rest)) :
    rest.length < cs.length := by
  have hle : (cs.dropWhile isKeyChar).length ≤ cs.length :=
    (List.dropWhile_sublist _).length_le
  simp only [readPair] at h
  split at h
  · cases h
  · split at h
    · next body hd =>
      split at h
      · cases h
      · next quoted r hq =>
        split at h
        · cases h
        · cases h
          have hlen := congrArg List.length (append_of_cutQuote hq)
          rw [hd] at hle
          simp only [List.length_append, List.length_cons] at hlen hle
          omega
    · cases h
    · cases h


-- ---------------------------------------------------------------------------
-- All pairs
-- ---------------------------------------------------------------------------

/-- The pairs at the start of a text, and the fault that ends them unless the text does. -/
structure Scan where
  pairs : List Pair
  fault : Option TagFault
deriving DecidableEq, Repr

/-- Reads pairs, each after any number of spaces, up to the end or the first fault. -/
def scan (cs : List Char) : Scan :=
  let rest := cs.dropWhile (· == ' ')
  if rest.isEmpty then ⟨[], none⟩
  else
    match _h : readPair rest with
    | .error fault => ⟨[], some fault⟩
    | .ok (p, after) =>
      let s := scan after
      ⟨p :: s.pairs, s.fault⟩
termination_by cs.length
decreasing_by
  exact Nat.lt_of_lt_of_le (length_readPair_lt _h) (List.dropWhile_sublist _).length_le

/-- A text cut at its commas into a name and options. -/
def valueOf (text : List Char) : TagValue :=
  match pieces ',' text with
  | [] => ⟨"", []⟩
  | name :: options => ⟨String.ofList name, options.map String.ofList⟩

/-- The key and value of a pair; bytes that are no text become U+FFFD. -/
def Pair.entry (p : Pair) : String × TagValue :=
  (String.ofList p.key, valueOf (Utf8.decodeLossy p.bytes))

/-- The tags that a scan found, unless it ended in a fault. -/
def Scan.tags (s : Scan) : Except TagFault Tags :=
  match s.fault with
  | some fault => .error fault
  | none => .ok (Tags.ofList (s.pairs.map Pair.entry))

/-- The literals whose bytes are not all text, in order. -/
def Scan.damaged (s : Scan) : List String :=
  (s.pairs.filter fun p => !Utf8.isValid p.bytes).map fun p => String.ofList p.quoted

/-- The tags written in the text of a tag. -/
def parse (text : String) : Except TagFault Tags := (scan text.toList).tags


-- ---------------------------------------------------------------------------
-- Literals
-- ---------------------------------------------------------------------------

/-- The text between back quotes, if the literal is a raw one. -/
def rawBody? : List Char → Option (List Char)
  | '\x60' :: cs => if cs.getLast? = some '\x60' then some cs.dropLast else none
  | _ => none

/-- The text of a tag literal. A raw literal loses its carriage returns; any other is a string
literal, with U+FFFD for bytes that are no text. -/
def literalText? (literal : List Char) : Option (List Char) :=
  match rawBody? literal with
  | some body => some (body.filter (· != '\r'))
  | none => (StringLiteral.decode? literal).map Utf8.decodeLossy

/-- The tags of a literal as it stands in source, quotes included. -/
def ofLiteral (literal : String) : Except TagFault Tags :=
  match literalText? literal.toList with
  | none => .error (.literal literal)
  | some text => (scan text).tags

/-- The string literals met on the way to the tags whose bytes are not all text, in order. -/
def damagedLiterals (literal : String) : List String :=
  let own :=
    match rawBody? literal.toList, StringLiteral.decode? literal.toList with
    | none, some bytes => if Utf8.isValid bytes then [] else [literal]
    | _, _ => []
  match literalText? literal.toList with
  | none => []
  | some text => own ++ (scan text).damaged

end Tags

end TagSpec
