import SystemLoops.Text.Rune
import SystemLoops.Text.Unicode.Category

/-!
Build constraints: conditions on tags that a line comment puts on its file. They have two forms. The current
form is one line with an expression; the older one is a set of lines that all must hold, each a choice of
clauses, each clause a list of tags that all must hold. Every line of the older form is an expression, and
an expression has lines of the older form if it is a conjunction of choices of conjunctions of tags.
-/

namespace SystemLoops.Source

/-- A condition on tags. -/
inductive Constraint where
  | tag (name : Text)
  | not (x : Constraint)
  | and (x y : Constraint)
  | or (x y : Constraint)
deriving DecidableEq, Repr, Inhabited

namespace Constraint

/-! ### The comments -/

/-- What follows a word at the front of a text, if it stands alone. -/
private def afterWord? (word t : Text) : Option Text :=
  if word.isPrefixOf t then
    let rest := t.drop word.length
    let expr := Text.trimSpace rest
    if rest.isEmpty || expr.length < rest.length then some expr else none
  else none

def expression? (comment : Text) : Option Text :=
  let mark := Text.ofString "//go:build"
  if mark.isPrefixOf comment then afterWord? mark (Text.trimSpace comment) else none

def clauses? (comment : Text) : Option Text :=
  let mark := Text.ofString "//"
  if mark.isPrefixOf comment then
    afterWord? (Text.ofString "+build") (Text.trimSpace (comment.drop mark.length))
  else none

/-! ### Reading -/

/-- A mark or a tag in an expression. -/
inductive Symbol where
  | opening
  | closing
  | negation
  | conjunction
  | disjunction
  | tag (name : Text)
deriving DecidableEq, Repr

/-- Whether a character may stand in a tag. -/
def isTagChar (c : Char) : Bool :=
  Unicode.isLetter c || Unicode.isDigit c || c == '_' || c == '.'

/-- Put a character in front of symbols, `glued` to a tag that starts right there. -/
private def glue (c : Char) : (glued : Bool) → List Symbol → List Symbol
  | true, .tag name :: rest => .tag (Text.ofChar c ++ name) :: rest
  | _, rest => .tag (Text.ofChar c) :: rest

/-- The symbols of an expression, unless it has a character that belongs to none. -/
def symbols? : List Char → Option (List Symbol)
  | [] => some []
  | ' ' :: rest | '\t' :: rest => symbols? rest
  | '(' :: rest => (symbols? rest).map (.opening :: ·)
  | ')' :: rest => (symbols? rest).map (.closing :: ·)
  | '!' :: rest => (symbols? rest).map (.negation :: ·)
  | '&' :: '&' :: rest => (symbols? rest).map (.conjunction :: ·)
  | '|' :: '|' :: rest => (symbols? rest).map (.disjunction :: ·)
  | c :: rest =>
    if isTagChar c then (symbols? rest).map (glue c (rest.head?.any isTagChar))
    else none

abbrev Reader := List Symbol → Option (Constraint × List Symbol)

/-- Read further items behind a mark, up to `n`. -/
private def more (mark : Symbol) (joined : Constraint → Constraint → Constraint) (item : Reader) :
    (n : Nat) → Constraint → Reader
  | 0, x, symbols => some (x, symbols)
  | n + 1, x, symbols =>
    match symbols with
    | s :: rest =>
      if s == mark then do
        let (y, rest) ← item rest
        more mark joined item n (joined x y) rest
      else some (x, symbols)
    | [] => some (x, [])

private def chain (mark : Symbol) (joined : Constraint → Constraint → Constraint) (item : Reader) :
    Reader := fun symbols => do
  let (x, rest) ← item symbols
  more mark joined item rest.length x rest

/-- Read a tag or, in parentheses, what `inner` reads. -/
private def atom (inner : Reader) : Reader
  | .tag name :: rest => some (.tag name, rest)
  | .opening :: rest => do
    match ← inner rest with
    | (x, .closing :: rest) => some (x, rest)
    | _ => none
  | _ => none

private def operand (inner : Reader) : Reader
  | .negation :: rest => (atom inner rest).map fun (x, rest) => (.not x, rest)
  | symbols => atom inner symbols

/-- Read an expression with parentheses nested less than `n` deep. -/
private def readExpression : (n : Nat) → Reader
  | 0, _ => none
  | n + 1, symbols =>
    chain .disjunction .or (chain .conjunction .and (operand (readExpression n))) symbols

/-- The most tags and parentheses in an expression. -/
def maxOperands : Nat := 1000

private def startsOperand : Symbol → Bool
  | .tag _ | .opening => true
  | _ => false

def parseExpression? (expr : Text) : Option Constraint := do
  let symbols ← symbols? (Text.chars expr)
  if symbols.countP startsOperand > maxOperands then none
  match ← readExpression (symbols.length + 1) symbols with
  | (x, []) => some x
  | _ => none

/-- The tag that never holds. It stands for what is no tag. -/
def never : Constraint :=
  .tag (Text.ofString "ignore")

private def ofEntry (entry : Text) : Constraint :=
  let ofName := fun name : Text =>
    if !name.isEmpty && (Text.chars name).all isTagChar then Constraint.tag name else never
  match entry with
  | [0x21] => never
  | 0x21 :: 0x21 :: _ => never
  | 0x21 :: name => .not (ofName name)
  | name => ofName name

private def joinAll? (joined : Constraint → Constraint → Constraint) : List Constraint → Option Constraint
  | [] => none
  | x :: rest => some (rest.foldl joined x)

/-- The most marks between the entries of a line of clauses. -/
def maxMarks : Nat := 100

/-- The constraint that a line of clauses states. A line without clauses never holds. -/
def parseClauses? (line : Text) : Option Constraint :=
  let clauses := (Text.words line).map fun clause => (Text.splitOn 0x2C clause).map ofEntry
  if total (clauses.map List.length) > maxMarks + 1 then none
  else some ((joinAll? .or (clauses.filterMap (joinAll? .and))).getD never)

/-- The constraint that a comment states, in either form. -/
def ofComment? (comment : Text) : Option Constraint :=
  match expression? comment with
  | some expr => parseExpression? expr
  | none => (clauses? comment).bind parseClauses?

/-! ### Writing -/

/-- A text in parentheses if `needed`. -/
private def parenthesized (needed : Bool) (t : Text) : Text :=
  if needed then 0x28 :: t ++ [0x29] else t

def isAnd : Constraint → Bool
  | .and _ _ => true
  | _ => false

def isOr : Constraint → Bool
  | .or _ _ => true
  | _ => false

/-- The expression that states a constraint. A choice in a conjunction, and a conjunction in a choice,
stand in parentheses. -/
def render : Constraint → Text
  | .tag name => name
  | .not x => 0x21 :: parenthesized (x.isAnd || x.isOr) x.render
  | .and x y => parenthesized x.isOr x.render ++ Text.ofString " && " ++ parenthesized y.isOr y.render
  | .or x y => parenthesized x.isAnd x.render ++ Text.ofString " || " ++ parenthesized y.isAnd y.render

/-- The constraint, or its opposite if `negated`, with negations at tags only. -/
def pushNot : (negated : Bool) → Constraint → Constraint
  | false, .tag name => .tag name
  | true, .tag name => .not (.tag name)
  | negated, .not x => pushNot (!negated) x
  | false, .and x y => .and (pushNot false x) (pushNot false y)
  | true, .and x y => .or (pushNot true x) (pushNot true y)
  | false, .or x y => .or (pushNot false x) (pushNot false y)
  | true, .or x y => .and (pushNot true x) (pushNot true y)

def conjuncts : Constraint → List Constraint
  | .and x y => x.conjuncts ++ y.conjuncts
  | x => [x]

/-- The constraints that a choice joins. -/
def alternatives : Constraint → List Constraint
  | .or x y => x.alternatives ++ y.alternatives
  | x => [x]

/-- The lines of clauses that state a constraint, if there are any. Without choices one line is enough. -/
def clauseLines? (x : Constraint) : Option (List Text) :=
  let lines := (pushNot false x).conjuncts.map fun line => line.alternatives.map conjuncts
  if lines.flatten.flatten.any isOr then none
  else
    let lines := if lines.all fun clauses => clauses.length == 1 then [[lines.flatten.flatten]] else lines
    some (lines.map fun clauses =>
      Text.join [0x20] (Text.ofString "// +build" :: clauses.map fun entries =>
        Text.join [0x2C] (entries.map render)))

end Constraint

end SystemLoops.Source
