/-!
# Tokens

The words and signs of a source, with their places.
-/

namespace TagSpec.Source

/-- A place in a text: lines count from one, columns count bytes from one. -/
structure Position where
  line : Nat
  column : Nat
deriving DecidableEq, Repr

def Position.start : Position := ⟨1, 1⟩

def Position.after (p : Position) (c : Char) : Position :=
  if c = '\n' then ⟨p.line + 1, 1⟩ else ⟨p.line, p.column + c.utf8Size⟩

def Position.afterAll (p : Position) (cs : List Char) : Position := cs.foldl Position.after p

@[simp] theorem Position.afterAll_nil (p : Position) : p.afterAll [] = p := rfl

@[simp] theorem Position.afterAll_cons (p : Position) (c : Char) (cs : List Char) :
    p.afterAll (c :: cs) = (p.after c).afterAll cs := rfl

@[simp] theorem Position.afterAll_append (p : Position) (cs ds : List Char) :
    p.afterAll (cs ++ ds) = (p.afterAll cs).afterAll ds := List.foldl_append

/-- What a token is. -/
inductive TokenKind where
  | name
  | keyword
  | sign
  | number
  | rune
  | string
  /-- characters that begin no token -/
  | stray
  /-- a literal or comment that is not closed or not well formed -/
  | broken
  /-- the end of the text -/
  | finish
deriving DecidableEq, Repr

/-- A token. `fresh` says that it begins a line and that the token before it can end a statement;
`comment` is the first comment between that token and this one; `afterName` says that the token
before it is a name. -/
structure Token where
  kind : TokenKind
  text : List Char
  position : Position
  fresh : Bool
  comment : Option (List Char)
  afterName : Bool
deriving DecidableEq, Repr

end TagSpec.Source
