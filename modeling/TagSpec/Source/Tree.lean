import TagSpec.Source.Token

/-!
# Rules and trees

Grammar rules over tokens, and the derivation trees that they give. Alternatives are tried in order
and the first that fits is taken; a repetition goes on for as long as it can. A rule refers to
symbols, and a grammar gives a rule to each symbol.
-/

namespace TagSpec.Source

/-- A class of tokens. -/
inductive Terminal where
  | name
  | word (text : String)
  | sign (text : String)
  | number
  | rune
  | string
  | finish
deriving DecidableEq, Repr

def Terminal.accepts : Terminal → Token → Bool
  | .name, t => t.kind = .name
  | .word w, t => (t.kind = .name || t.kind = .keyword) && t.text = w.toList
  | .sign s, t => t.kind = .sign && t.text = s.toList
  | .number, t => t.kind = .number
  | .rune, t => t.kind = .rune
  | .string, t => t.kind = .string
  | .finish, t => t.kind = .finish

/-- A rule over symbols `σ`. -/
inductive Rule (σ : Type) where
  | empty
  /-- one token, which is not fresh -/
  | token (t : Terminal)
  /-- takes the next token for one that is not fresh -/
  | joined
  /-- the end of a statement: a fresh line or a semicolon; the end of the text too, if it is
  `lenient` and no name stands there -/
  | terminator (lenient : Bool)
  | seq (a b : Rule σ)
  | alt (a b : Rule σ)
  | opt (a : Rule σ)
  | many (a : Rule σ)
  /-- a look at what follows, of which nothing is used -/
  | ahead (a : Rule σ)
  | ref (s : σ)

/-- A derivation tree. -/
inductive Tree (σ : Type) where
  | leaf (t : Token)
  | node (s : σ) (children : List (Tree σ))

/-- Reads from a list of tokens, and gives what is left of them. -/
abbrev Reader (σ : Type) := List Token → Option (List (Tree σ) × List Token)

/-- The tokens with the first of them not fresh. -/
def settle : List Token → List Token
  | [] => []
  | t :: ts => { t with fresh := false } :: ts

/-- Reads one token of a class. -/
def readToken {σ : Type} (class' : Terminal) : Reader σ
  | [] => none
  | t :: ts => if class'.accepts t && !t.fresh then some ([.leaf t], ts) else none

/-- Whether a token is one of those that end a statement. -/
def isTerminatorSign (t : Token) : Bool := t.kind = .sign && (t.text = [';'] || t.text = ['\x00'])

/-- Reads the end of a statement. -/
def readTerminator {σ : Type} (lenient : Bool) : Reader σ
  | [] => none
  | t :: ts =>
    if t.fresh then some ([], settle (t :: ts))
    else if isTerminatorSign t then some ([], settle ts)
    else if lenient && t.kind = .finish && !t.afterName then some ([], t :: ts)
    else none

/-- Reads as often as possible, but at most `limit` times. -/
def readMany {σ : Type} (read : Reader σ) : Nat → List Token → List (Tree σ) × List Token
  | 0, ts => ([], ts)
  | limit + 1, ts =>
    match read ts with
    | none => ([], ts)
    | some (xs, rest) =>
      let (ys, rest') := readMany read limit rest
      (xs ++ ys, rest')

/-- Reads by a rule, where `call` reads a symbol. -/
def Rule.read {σ : Type} (call : σ → Reader σ) : Rule σ → Reader σ
  | .empty, ts => some ([], ts)
  | .token t, ts => readToken t ts
  | .joined, ts => some ([], settle ts)
  | .terminator lenient, ts => readTerminator lenient ts
  | .seq a b, ts =>
    match a.read call ts with
    | none => none
    | some (xs, rest) =>
      match b.read call rest with
      | none => none
      | some (ys, rest') => some (xs ++ ys, rest')
  | .alt a b, ts =>
    match a.read call ts with
    | none => b.read call ts
    | some r => some r
  | .opt a, ts =>
    match a.read call ts with
    | none => some ([], ts)
    | some r => some r
  | .many a, ts => some (readMany (a.read call) (ts.length + 1) ts)
  | .ahead a, ts =>
    match a.read call ts with
    | none => none
    | some _ => some ([], ts)
  | .ref s, ts => call s ts

section

variable {σ : Type} (call : σ → Reader σ) (a b : Rule σ) (ts : List Token)

theorem Rule.read_token (t : Terminal) : (Rule.token t).read call ts = readToken t ts := rfl

theorem Rule.read_joined : Rule.joined.read call ts = some ([], settle ts) := rfl

theorem Rule.read_terminator (lenient : Bool) :
    (Rule.terminator lenient).read call ts = readTerminator lenient ts := rfl

theorem Rule.read_seq : (Rule.seq a b).read call ts =
    match a.read call ts with
    | none => none
    | some (xs, rest) =>
      match b.read call rest with
      | none => none
      | some (ys, rest') => some (xs ++ ys, rest') := rfl

theorem Rule.read_alt : (Rule.alt a b).read call ts =
    match a.read call ts with
    | none => b.read call ts
    | some r => some r := rfl

theorem Rule.read_opt : (Rule.opt a).read call ts =
    match a.read call ts with
    | none => some ([], ts)
    | some r => some r := rfl

/-- A rule is repeated until it fails, at most once more than there are tokens. -/
theorem Rule.read_many : (Rule.many a).read call ts =
    some (readMany (a.read call) (ts.length + 1) ts) := rfl

/-- A look ahead gives no trees and leaves all tokens. -/
theorem Rule.read_ahead : (Rule.ahead a).read call ts =
    match a.read call ts with
    | none => none
    | some _ => some ([], ts) := rfl

theorem Rule.read_ref (s : σ) : (Rule.ref s).read call ts = call s ts := rfl

end

/-- Reads a symbol by its rule, down to a depth of symbols. -/
def readSymbol {σ : Type} (rule : σ → Rule σ) : Nat → σ → Reader σ
  | 0, _, _ => none
  | depth + 1, s, ts =>
    match (rule s).read (readSymbol rule depth) ts with
    | none => none
    | some (xs, rest) => some ([.node s xs], rest)

namespace Rule

variable {σ : Type}

def seqs : List (Rule σ) → Rule σ
  | [] => .empty
  | [r] => r
  | r :: s :: rs => .seq r (seqs (s :: rs))

/-- The first rule that fits. -/
def alts (r : Rule σ) : List (Rule σ) → Rule σ
  | [] => r
  | s :: rs => .alt r (alts s rs)

/-- A keyword, or a name with a given text. -/
def word (w : String) : Rule σ := .token (.word w)

def sign (s : String) : Rule σ := .token (.sign s)

def name : Rule σ := .token .name

/-- A rule at least once, with a sign between each time and the next. -/
def separated (r : Rule σ) (mark : String) : Rule σ := .seq r (.many (.seq (sign mark) r))

/-- What stands between two brackets, if anything, with a comma behind it or not. -/
def listed (opening closing : String) (r : Rule σ) : Rule σ :=
  seqs [sign opening, .opt (.seq r (.opt (sign ","))), sign closing]

/-- Any number of statements or members in braces or brackets: a terminator between each and the
next, and one behind the last or not. -/
def members (opening closing : String) (r : Rule σ) : Rule σ :=
  seqs [sign opening,
    .opt (seqs [r, .many (.seq (.terminator false) r), .opt (.terminator false)]), sign closing]

end Rule

end TagSpec.Source
