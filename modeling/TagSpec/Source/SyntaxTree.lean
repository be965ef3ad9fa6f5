import TagSpec.Source.Grammar
import TagSpec.Source.Lexing

/-!
# Syntax trees

From the text of a source to its derivation tree, or to the fault that it has.
-/

namespace TagSpec.Source

/-- A derivation tree of the grammar. -/
abbrev SyntaxTree := Tree Symbol

/-- What is wrong with the form of a source. -/
inductive SyntaxFault where
  | near (text : String)
  | missing (sign : String)
deriving DecidableEq, Repr

def SyntaxFault.message : SyntaxFault → String
  | .near text => "syntax error near '" ++ text ++ "'"
  | .missing sign => "syntax error: missing " ++ sign

/-- The start of a token, at most forty characters of its first line. -/
def Token.excerpt (t : Token) : String :=
  String.ofList ((trim (cutLine t.text).1).take 40)

/-- The tokens with a closing brace in front of the last of them. -/
def withClosingBrace : List Token → List Token
  | [] => []
  | [t] => [⟨.sign, ['\x7d'], t.position, t.fresh, none, false⟩, { t with fresh := true }]
  | t :: u :: ts => t :: withClosingBrace (u :: ts)

/-- Where and how the tokens of a source that cannot be read are at fault: at the first characters
that begin no token, else at the end if a brace is missing there, else behind all that can be
read. -/
def diagnose (tokens : List Token) : SyntaxFault × Position :=
  match tokens.find? fun t => t.kind = .stray with
  | some t => (.near t.excerpt, t.position)
  | none =>
    match (readFile (withClosingBrace tokens)).isSome, tokens.getLast? with
    | true, some t => (.missing "\x7d", t.position)
    | _, _ =>
      match (unread tokens).head? with
      | some t => (.near t.excerpt, t.position)
      | none => (.near "", Position.start)

/-- The derivation tree of a source. -/
def parse (text : List Char) : Except (SyntaxFault × Position) SyntaxTree :=
  let tokens := lex text
  match readFile tokens with
  | some tree => .ok tree
  | none => .error (diagnose tokens)

end TagSpec.Source
