import TagSpec.Source.Tree

/-!
# Grammar

The grammar of source files. It is wider than that of complete files: statements may stand at the
top level, package clauses and imports anywhere among them, and nothing is checked beyond the form.

Expressions occur in two forms. In the header of an `if`, `for` or `switch` a brace after a type name
begins the body, so `expression false` has no composite literals there but in brackets.
-/

namespace TagSpec.Source

/-- The symbols of the grammar. -/
inductive Symbol where
  -- files and declarations
  | file | topLevel | packageClause | importDeclaration | importSpec
  | functionDeclaration | methodDeclaration | constDeclaration | constSpec
  | varDeclaration | varSpec | typeDeclaration | typeAlias | typeSpec
  | typeParameters | typeConstraint
  -- types
  | type | typeName | typeArguments | structType | namedField | embeddedField
  | interfaceType | interfaceMember | mapType | channelType | functionType | pointerType
  | arrayType | sliceType | signature | parameters | parameter
  -- statements
  | block | statements | statement | plainStatement | simple (literals : Bool) | ifStatement | forStatement
  | switchStatement | selectStatement
  -- expressions
  | expression (literals : Bool) | unary (literals : Bool) | primary (literals : Bool)
  | operand (literals : Bool) | arguments | brackets | literalValue | element
deriving DecidableEq, Repr

open Rule

namespace Grammar

def names : Rule Symbol := separated name ","

def expr : Rule Symbol := .ref (.expression true)

def exprs (literals : Bool) : Rule Symbol := separated (.ref (.expression literals)) ","

/-- The declarations of one keyword: one spec, or specs in parentheses. -/
def declared (keyword : String) (spec : Rule Symbol) : Rule Symbol :=
  .seq (word keyword) (.seq .joined (.alt spec (members "(" ")" spec)))

def assignment : Rule Symbol :=
  alts (sign ":=") (["=", "+=", "-=", "*=", "/=", "%=", "&=", "|=", "^=", "<<=", ">>=", "&^="].map sign)

def binarySign : Rule Symbol :=
  alts (sign "*") (["/", "%", "<<", ">>", "&", "&^", "+", "-", "|", "^", "==", "!=", "<", "<=", ">",
    ">=", "&&", "||"].map sign)

def unarySign : Rule Symbol := alts (sign "+") (["-", "!", "^", "*", "&", "<-"].map sign)

/-- A semicolon between the parts of a header; a line may end behind it. -/
def semicolon : Rule Symbol := .seq (sign ";") .joined

/-- What an `if` is about: an expression, or a statement and an expression. -/
def condition : Rule Symbol :=
  .alt (.seq (.ref (.expression false)) (.ahead (sign "\x7b")))
    (seqs [.ref (.simple false), semicolon, .ref (.expression false)])

/-- What stands before the `range` of a loop. -/
def rangeClause : Rule Symbol :=
  seqs [.opt (.seq (exprs false) (.alt (sign ":=") (sign "="))), word "range",
    .ref (.expression false)]

/-- The three parts of a loop. -/
def loopClause : Rule Symbol :=
  seqs [.opt (.ref (.simple false)), semicolon, .opt (.ref (.expression false)), semicolon,
    .opt (.ref (.simple false))]

/-- What a switch over values is about. -/
def valueHeader : Rule Symbol :=
  alts (.ahead (sign "\x7b"))
    [.seq (.ref (.expression false)) (.ahead (sign "\x7b")),
      seqs [.ref (.simple false), semicolon, .opt (.ref (.expression false))]]

/-- What a switch over types is about. -/
def typeHeader : Rule Symbol :=
  seqs [.opt (.seq (.ref (.simple false)) semicolon), .opt (.seq (exprs false) (sign ":=")),
    .ref (.expression false), sign ".", sign "(", word "type", sign ")"]

/-- The clauses of a switch: a keyword and what belongs to it, a colon, and statements. -/
def clauses (case : Rule Symbol) : Rule Symbol :=
  seqs [sign "\x7b",
    .many (seqs [.alt (.seq (word "case") case) (word "default"), sign ":", .opt (.ref .statements)]),
    sign "\x7d"]

def types : Rule Symbol := separated (.ref .type) ","

/-- One or more type parameters or type arguments in brackets. -/
def typeList (r : Rule Symbol) : Rule Symbol :=
  seqs [sign "[", separated r ",", .opt (sign ","), sign "]"]

/-- A type written out, where an expression may stand. -/
def typeLiteral : Rule Symbol :=
  alts (.seq (alts (.ref .sliceType) [.ref .arrayType, .ref .mapType, .ref .structType,
      seqs [sign "[", sign "...", sign "]", .joined, .ref .type]]) (.ref .literalValue))
    [.seq (alts (.ref .sliceType) [.ref .arrayType, .ref .mapType, .ref .structType,
      .ref .channelType, .ref .interfaceType]) (.ahead (sign "("))]

/-- What is behind a member of a struct: the end of the struct, or the start of another member. -/
def behindMember : Rule Symbol :=
  .alt (sign "\x7d")
    (.seq (.terminator false) (alts (sign "\x7d") [name, .seq (sign "*") name]))

/-- The parts of a file that end in a terminator. The end of the text ends no part that ends in a
type. -/
def parts : Rule Symbol :=
  .many (alts (.seq (.ref .topLevel) (.terminator true))
    [.seq (.ref .statement) (.terminator false),
      .seq (.ref .plainStatement) (.terminator true)])

/-- A label, and a statement behind it or none. -/
def labeled (statement : Rule Symbol) : Rule Symbol :=
  seqs [name, sign ":", .joined, .opt statement]

/-- The rule of each symbol. -/
def rule : Symbol → Rule Symbol
  | .file =>
    seqs [parts, .opt (.ref .topLevel), .joined, .token .finish]
  | .topLevel =>
    alts (.ref .packageClause)
      [.ref .importDeclaration, .ref .functionDeclaration, .ref .methodDeclaration]
  | .packageClause => .seq (word "package") name
  | .importDeclaration =>
    .seq (word "import") (.alt (.ref .importSpec) (members "(" ")" (.ref .importSpec)))
  | .importSpec => seqs [.opt (.seq (.alt name (sign ".")) .joined), .token .string]
  | .functionDeclaration =>
    seqs [word "func", name, .joined, .opt (.ref .typeParameters), .joined, .ref .signature,
      .opt (.ref .block)]
  | .methodDeclaration =>
    seqs [word "func", .ref .parameters, .joined, name, .joined, .ref .signature,
      .opt (.ref .block)]
  | .constDeclaration => declared "const" (.ref .constSpec)
  | .constSpec => seqs [names, .opt (seqs [.opt (.ref .type), sign "=", exprs true])]
  | .varDeclaration => declared "var" (.ref .varSpec)
  | .varSpec =>
    seqs [names, .joined,
      .alt (.seq (.ref .type) (.opt (.seq (sign "=") (exprs true)))) (.seq (sign "=") (exprs true))]
  | .typeDeclaration =>
    .seq (word "type") (alts (.ref .typeAlias)
      [.ref .typeSpec, members "(" ")" (.alt (.ref .typeAlias) (.ref .typeSpec))])
  | .typeAlias =>
    seqs [name, .joined, .opt (.ref .typeParameters), .joined, sign "=", .ref .type]
  | .typeSpec =>
    .alt (seqs [name, .joined, .ref .type])
      (seqs [name, .joined, .ref .typeParameters, .joined, .ref .type])
  | .typeParameters => typeList (.seq names (.ref .typeConstraint))
  | .typeConstraint => separated (.ref .type) "|"

  | .type =>
    alts (.ref .typeName)
      [.ref .pointerType, .ref .structType, .ref .sliceType, .ref .arrayType, .ref .mapType,
        .ref .functionType, .ref .interfaceType, .ref .channelType, .seq (sign "~") (.ref .type),
        seqs [sign "(", .ref .type, sign ")"]]
  | .typeName => seqs [name, .opt (.seq (sign ".") name), .opt (.ref .typeArguments)]
  | .typeArguments => typeList (.ref .typeConstraint)
  | .pointerType => .seq (sign "*") (.ref .type)
  | .structType =>
    .seq (word "struct") (members "\x7b" "\x7d" (.alt (.ref .embeddedField) (.ref .namedField)))
  | .namedField => seqs [names, .ref .type, .opt (.token .string)]
  -- Behind a name, `[n]` in front of a line break belongs to an embedded type if a member follows,
  -- and to the type of an array if the type of its elements does.
  | .embeddedField =>
    seqs [.opt (sign "*"), .ref .typeName, .opt (.token .string), .ahead behindMember]
  | .interfaceType => .seq (word "interface") (members "\x7b" "\x7d" (.ref .interfaceMember))
  | .interfaceMember => .alt (.seq name (.ref .signature)) (.ref .typeConstraint)
  | .mapType =>
    seqs [word "map", sign "[", .ref .type, sign "]", .joined, .ref .type]
  | .channelType =>
    .alt (seqs [sign "<-", word "chan", .ref .type])
      (seqs [word "chan", .opt (sign "<-"), .ref .type])
  | .functionType => .seq (word "func") (.ref .signature)
  | .arrayType => seqs [sign "[", expr, sign "]", .joined, .ref .type]
  | .sliceType => seqs [sign "[", sign "]", .joined, .ref .type]
  | .signature => .seq (.ref .parameters) (.opt (.alt (.ref .parameters) (.ref .type)))
  | .parameters => listed "(" ")" (separated (.ref .parameter) ",")
  | .parameter =>
    alts (seqs [.opt name, sign "...", .ref .type]) [.seq names (.ref .type), .ref .type]

  | .block => seqs [sign "\x7b", .opt (.ref .statements), sign "\x7d"]
  | .statements =>
    seqs [.ref .statement, .many (.seq (.terminator false) (.ref .statement)),
      .opt (.terminator false)]
  | .statement =>
    alts (labeled (.ref .statement)) [.ref .typeDeclaration, .ref .plainStatement]
  | .plainStatement =>
    alts (labeled (.ref .plainStatement))
      [.ref .constDeclaration, .ref .varDeclaration,
        .seq (word "return") (.opt (exprs true)),
        .seq (word "break") (.opt name),
        .seq (word "continue") (.opt name),
        .seq (word "goto") name,
        word "fallthrough",
        .seq (word "go") expr,
        .seq (word "defer") expr,
        .ref .ifStatement, .ref .forStatement, .ref .switchStatement, .ref .selectStatement,
        .ref .block, sign ";", .ref (.simple true)]
  | .simple literals =>
    .seq (.ref (.expression literals))
      (alts (sign "++")
        [sign "--",
          .seq (sign "<-") (.ref (.expression literals)),
          seqs [.many (.seq (sign ",") (.ref (.expression literals))), assignment, exprs literals],
          .empty])
  | .ifStatement =>
    seqs [word "if", condition, .ref .block,
      .opt (.seq (word "else") (.alt (.ref .ifStatement) (.ref .block)))]
  | .forStatement =>
    .seq (word "for") (alts (.ref .block)
      [.seq rangeClause (.ref .block), .seq (.ref (.expression false)) (.ref .block),
        .seq loopClause (.ref .block)])
  | .switchStatement =>
    .seq (word "switch") (.alt (.seq typeHeader (clauses types)) (.seq valueHeader (clauses (exprs true))))
  | .selectStatement =>
    .seq (word "select") (clauses (.alt
      (seqs [exprs true, .alt (sign ":=") (sign "="), expr]) (.seq expr (.opt (.seq (sign "<-") expr)))))

  | .expression literals => .seq (.ref (.unary literals)) (.many (.seq binarySign (.ref (.unary literals))))
  | .unary literals => .alt (.seq unarySign (.ref (.unary literals))) (.ref (.primary literals))
  | .primary literals =>
    .seq (.ref (.operand literals))
      (.many (alts (.seq (sign ".") (.alt name (seqs [sign "(", .ref .type, sign ")"])))
        [.ref .arguments, .ref .brackets]))
  | .operand literals =>
    alts (.token .number) (
      [.token .string, .token .rune,
        seqs [.alt (word "make") (word "new"), sign "(", .ref .type,
          .many (.seq (sign ",") expr), .opt (sign ","), sign ")"]] ++
      (if literals then [.seq (.ref .typeName) (.ref .literalValue)] else []) ++
      [name,
        seqs [word "func", .ref .signature, .ref .block],
        seqs [word "func", .ref .parameters, .ahead (sign "(")],
        seqs [sign "(", expr, sign ")"],
        seqs [sign "(", .ref .type, sign ")", .ahead (sign "(")],
        typeLiteral])
  | .arguments =>
    listed "(" ")" (separated (.seq expr (.opt (sign "..."))) ",")
  | .brackets =>
    .seq (sign "[") (alts
      (.seq expr (.alt (sign "]") (seqs [sign ":", .opt expr, .opt (.seq (sign ":") expr), sign "]"])))
      [seqs [sign ":", .opt expr, .opt (.seq (sign ":") expr), sign "]"],
        seqs [separated (.ref .typeConstraint) ",", .opt (sign ","), sign "]"]])
  | .literalValue => listed "\x7b" "\x7d" (separated (.ref .element) ",")
  | .element =>
    let part := Rule.alt (.ref .literalValue) expr
    .seq part (.opt (.seq (sign ":") part))

end Grammar

/-- How deep symbols may nest in a list of tokens. Between one token and the next the grammar goes
through fewer than thirty-two symbols, so this suffices for every file. -/
def depthFor (tokens : List Token) : Nat := 32 * (tokens.length + 1)

/-- The derivation tree of a file. -/
def readFile (tokens : List Token) : Option (Tree Symbol) :=
  match readSymbol Grammar.rule (depthFor tokens) .file tokens with
  | some ([tree], []) => some tree
  | _ => none

/-- The tokens behind the last part of a file that can be read. -/
def unread (tokens : List Token) : List Token :=
  match Grammar.parts.read (readSymbol Grammar.rule (depthFor tokens)) tokens with
  | some (_, rest) => rest
  | none => tokens

end TagSpec.Source
