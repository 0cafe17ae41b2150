import SystemLoops.Text.Basic

namespace SystemLoops.Source

inductive Tok where
  | illegal | eof | comment
  | ident | int | float | imag | char | string
  | add | sub | mul | quo | rem | and | or | xor | shl | shr | andNot | addAssign | subAssign
  | mulAssign | quoAssign | remAssign | andAssign | orAssign | xorAssign | shlAssign
  | shrAssign | andNotAssign | lAnd | lOr | arrow | inc | dec | eql | lss | gtr | assign | not
  | neq | leq | geq | define | ellipsis | lparen | lbrack | lbrace | comma | period | rparen
  | rbrack | rbrace | semicolon | colon | tilde
  | kwBreak | kwCase | kwChan | kwConst | kwContinue | kwDefault | kwDefer | kwElse
  | kwFallthrough | kwFor | kwFunc | kwGo | kwGoto | kwIf | kwImport | kwInterface | kwMap
  | kwPackage | kwRange | kwReturn | kwSelect | kwStruct | kwSwitch | kwType | kwVar
deriving DecidableEq, Repr, Inhabited

namespace Tok

/-- How an operator or keyword is written; the other kinds have no spelling of their own. -/
def spelling : Tok → String
  | .add => "+"
  | .sub => "-"
  | .mul => "*"
  | .quo => "/"
  | .rem => "%"
  | .and => "&"
  | .or => "|"
  | .xor => "^"
  | .shl => "<<"
  | .shr => ">>"
  | .andNot => "&^"
  | .addAssign => "+="
  | .subAssign => "-="
  | .mulAssign => "*="
  | .quoAssign => "/="
  | .remAssign => "%="
  | .andAssign => "&="
  | .orAssign => "|="
  | .xorAssign => "^="
  | .shlAssign => "<<="
  | .shrAssign => ">>="
  | .andNotAssign => "&^="
  | .lAnd => "&&"
  | .lOr => "||"
  | .arrow => "<-"
  | .inc => "++"
  | .dec => "--"
  | .eql => "=="
  | .lss => "<"
  | .gtr => ">"
  | .assign => "="
  | .not => "!"
  | .neq => "!="
  | .leq => "<="
  | .geq => ">="
  | .define => ":="
  | .ellipsis => "..."
  | .lparen => "("
  | .lbrack => "["
  | .lbrace => "\x7b"
  | .comma => ","
  | .period => "."
  | .rparen => ")"
  | .rbrack => "]"
  | .rbrace => "\x7d"
  | .semicolon => ";"
  | .colon => ":"
  | .tilde => "~"
  | .kwBreak => "break"
  | .kwCase => "case"
  | .kwChan => "chan"
  | .kwConst => "const"
  | .kwContinue => "continue"
  | .kwDefault => "default"
  | .kwDefer => "defer"
  | .kwElse => "else"
  | .kwFallthrough => "fallthrough"
  | .kwFor => "for"
  | .kwFunc => "func"
  | .kwGo => "go"
  | .kwGoto => "goto"
  | .kwIf => "if"
  | .kwImport => "import"
  | .kwInterface => "interface"
  | .kwMap => "map"
  | .kwPackage => "package"
  | .kwRange => "range"
  | .kwReturn => "return"
  | .kwSelect => "select"
  | .kwStruct => "struct"
  | .kwSwitch => "switch"
  | .kwType => "type"
  | .kwVar => "var"
  | _ => ""

def keywords : List Tok :=
  [.kwBreak, .kwCase, .kwChan, .kwConst, .kwContinue, .kwDefault, .kwDefer, .kwElse,
   .kwFallthrough, .kwFor, .kwFunc, .kwGo, .kwGoto, .kwIf, .kwImport, .kwInterface, .kwMap,
   .kwPackage, .kwRange, .kwReturn, .kwSelect, .kwStruct, .kwSwitch, .kwType, .kwVar]

def keywordSpellings : List (Tok × Text) :=
  keywords.map fun tok => (tok, Text.ofString tok.spelling)

def keyword? (t : Text) : Option Tok :=
  (keywordSpellings.find? fun (_, spelling) => spelling == t).map Prod.fst

/-- The least binding strength, that of what is no binary operator. -/
def lowestPrecedence : Nat := 0

/-- The binding strength of unary operators. -/
def unaryPrecedence : Nat := 6

/-- Above every operator's binding strength. -/
def highestPrecedence : Nat := 7

/-- The binding strength of a binary operator. -/
def precedence : Tok → Nat
  | .lOr => 1
  | .lAnd => 2
  | .eql | .neq | .lss | .leq | .gtr | .geq => 3
  | .add | .sub | .or | .xor => 4
  | .mul | .quo | .rem | .shl | .shr | .and | .andNot => 5
  | _ => lowestPrecedence

def isKeyword (tok : Tok) : Bool :=
  keywords.contains tok

end Tok

/-- A token: its kind, where it starts, how many bytes it takes, and its literal text. The literal of
a comment or raw string is free of carriage returns, so it may be shorter than the token. -/
structure Token where
  tok : Tok
  offset : Nat
  width : Nat
  literal : Text
  flawed : Bool := false
deriving Repr, Inhabited

end SystemLoops.Source
