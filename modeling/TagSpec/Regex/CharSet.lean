import TagSpec.Text.Blank
import TagSpec.Unicode.CaseFolding
import TagSpec.Unicode.Categories
import TagSpec.Unicode.Properties
import TagSpec.Unicode.Scripts

/-!
# Character sets

The sets of characters that patterns speak of, by membership, and the properties of characters by
the names that patterns use for them.
-/

namespace TagSpec.Regex

/-- A set of characters, by membership. -/
abbrev CharSet := Char → Bool

namespace CharSet

def none : CharSet := fun _ => false
def all : CharSet := fun _ => true
def single (c : Char) : CharSet := fun d => d == c
def range (first last : Char) : CharSet := fun c => first ≤ c && c ≤ last
def union (a b : CharSet) : CharSet := fun c => a c || b c
def inter (a b : CharSet) : CharSet := fun c => a c && b c
def diff (a b : CharSet) : CharSet := fun c => a c && !b c
def symmDiff (a b : CharSet) : CharSet := fun c => a c != b c
def compl (a : CharSet) : CharSet := fun c => !a c

/-- The set with all characters that differ only in case from one of its own. -/
def folded (a : CharSet) : CharSet := fun c => a c || (Unicode.caseOrbit c).any a

/-- The same for the letters of ASCII only. -/
def foldedAscii (a : CharSet) : CharSet := fun c => a c || a c.toLower || a c.toUpper


-- ---------------------------------------------------------------------------
-- Classes
-- ---------------------------------------------------------------------------

def asciiDigit : CharSet := range '0' '9'
def asciiWord : CharSet := fun c => c.isAlphanum || c == '_'
def asciiSpace : CharSet := isAsciiBlank

def digit : CharSet := Unicode.isDecimalDigit
def space : CharSet := isBlank

def property (name : String) : CharSet :=
  match Unicode.properties.find? fun p => p.names.contains name with
  | some p => p.holds
  | Option.none => none

/-- The characters of words: letters and what is written with them, marks, digits and joiners. -/
def wordBeyondAscii : CharSet := fun c =>
  property "Alphabetic" c || property "Join_Control" c ||
    match Unicode.category c with
    | .nonspacingMark | .spacingMark | .enclosingMark | .decimalNumber
    | .connectorPunctuation => true
    | _ => false

/-- The characters of words. -/
def word : CharSet := fun c => if c.toNat < 128 then asciiWord c else wordBeyondAscii c

/-- The named classes of ASCII characters. -/
def asciiClass? (name : List Char) : Option CharSet :=
  [("alnum", fun (c : Char) => c.isAlphanum),
    ("alpha", fun c => c.isAlpha),
    ("ascii", fun c => c.toNat < 128),
    ("blank", fun c => c == ' ' || c == '\t'),
    ("cntrl", fun c => c.toNat < 32 || c.toNat == 127),
    ("digit", asciiDigit),
    ("graph", range '!' '~'),
    ("lower", range 'a' 'z'),
    ("print", range ' ' '~'),
    ("punct", fun c => range '!' '~' c && !c.isAlphanum),
    ("space", isAsciiBlank),
    ("upper", range 'A' 'Z'),
    ("word", asciiWord),
    ("xdigit", fun c => (digit? 16 c).isSome)].findSome? fun (n, s) =>
      if n.toList = name then some s else Option.none


-- ---------------------------------------------------------------------------
-- Properties by name
-- ---------------------------------------------------------------------------

/-- A name without case, spaces, dashes, underscores and an `is` in front. -/
def looseName (name : List Char) : List Char :=
  let lower := name.map Char.toLower
  let bare := fun (cs : List Char) =>
    cs.filter fun c => c != ' ' && c != '_' && c != '-' && c.toNat < 128
  match lower with
  | 'i' :: 's' :: rest => if bare rest = ['c'] then ['i', 's', 'c'] else bare rest
  | _ => bare lower

/-- The names of the categories and of the classes that they form. -/
def categoryNames : List (List String) := [
  ["C", "Other"], ["Cc", "Control", "Cntrl"], ["Cf", "Format"], ["Cn", "Unassigned"],
  ["Co", "Private_Use"], ["L", "Letter"], ["LC", "Cased_Letter"], ["Ll", "Lowercase_Letter"],
  ["Lm", "Modifier_Letter"], ["Lo", "Other_Letter"], ["Lt", "Titlecase_Letter"],
  ["Lu", "Uppercase_Letter"], ["M", "Mark", "Combining_Mark"], ["Mc", "Spacing_Mark"],
  ["Me", "Enclosing_Mark"], ["Mn", "Nonspacing_Mark"], ["N", "Number"],
  ["Nd", "Decimal_Number", "Digit"], ["Nl", "Letter_Number"], ["No", "Other_Number"],
  ["P", "Punctuation", "Punct"], ["Pc", "Connector_Punctuation"], ["Pd", "Dash_Punctuation"],
  ["Pe", "Close_Punctuation"], ["Pf", "Final_Punctuation"], ["Pi", "Initial_Punctuation"],
  ["Po", "Other_Punctuation"], ["Ps", "Open_Punctuation"], ["S", "Symbol"],
  ["Sc", "Currency_Symbol"], ["Sk", "Modifier_Symbol"], ["Sm", "Math_Symbol"],
  ["So", "Other_Symbol"], ["Z", "Separator"], ["Zl", "Line_Separator"],
  ["Zp", "Paragraph_Separator"], ["Zs", "Space_Separator"]]

/-- Whether a loose name is one of a list of names. -/
def isOneOf (loose : List Char) (names : List String) : Bool :=
  names.any fun n => looseName n.toList = loose

/-- Whether a category has a code or is one of the class that has it. -/
def hasCode (code : List Char) (category : Unicode.Category) : Bool :=
  let (major, minor) := category.code
  match code with
  | ['L', 'C'] => major = 'L' && (minor = 'u' || minor = 'l' || minor = 't')
  | [m] => m = major
  | _ => code = [major, minor]

/-- The characters of a category or of a class of categories, and how many ranges they form. -/
def ofCode (code : List Char) : CharSet × Nat :=
  (fun c => hasCode code (Unicode.category c), Unicode.categoryRuns.count (hasCode code))

/-- The characters of a category by a loose name, and how many ranges they form. -/
def category? (loose : List Char) : Option (CharSet × Nat) :=
  if loose = "any".toList then some (all, 1)
  else if loose = "assigned".toList then
    let (unassigned, count) := ofCode ['C', 'n']
    some (compl unassigned, count)
  else if loose = "ascii".toList then some (fun c => c.toNat < 128, 1)
  else
    match categoryNames.find? (isOneOf loose) with
    | some (code :: _) => some (ofCode code.toList)
    | _ => Option.none

def scriptNamed? (loose : List Char) : Option Unicode.Script :=
  (Unicode.scriptNames.find? fun names => names.any fun n => looseName n = loose).bind List.head?

/-- The characters of a script by a loose name, and how many ranges they form. -/
def script? (loose : List Char) : Option (CharSet × Nat) :=
  (scriptNamed? loose).map fun s =>
    (fun c => Unicode.script c = s, Unicode.scriptRuns.count (· == s))

/-- The characters that a script uses, by a loose name, and how many ranges they form. -/
def usedByScript? (loose : List Char) : Option (CharSet × Nat) :=
  (scriptNamed? loose).map fun s =>
    (fun c => (Unicode.scripts c).contains s,
      Unicode.scriptRuns.count (· == s) + Unicode.sharedRanges.countP (·.2.contains s))

def property? (loose : List Char) : Option (CharSet × Nat) :=
  (Unicode.properties.find? fun p => isOneOf loose p.names).map fun p => (p.holds, p.count)

/-- The characters that a name stands for: a property, else a category, else a script. Three short
names of properties give way to those of categories. -/
def named? (name : List Char) : Option (CharSet × Nat) :=
  let loose := looseName name
  let first :=
    if ["cf", "sc", "lc"].any fun n => n.toList = loose then Option.none else property? loose
  first <|> category? loose <|> script? loose

/-- The characters that have a value of a property. -/
def valued? (name value : List Char) : Option (CharSet × Nat) :=
  let loose := looseName name
  let value := looseName value
  if isOneOf loose ["gc", "General_Category"] then category? value
  else if isOneOf loose ["sc", "Script"] then script? value
  else if isOneOf loose ["scx", "Script_Extensions"] then usedByScript? value
  else Option.none

end CharSet

end TagSpec.Regex
