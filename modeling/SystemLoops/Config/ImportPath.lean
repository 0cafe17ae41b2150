import SystemLoops.Text.Spelling
import SystemLoops.Text.Quote

namespace SystemLoops.ImportPath

/-- Why a path cannot be imported. -/
inductive Problem where
  | illFormed
  | empty
  | leadingDash
  | doubleSlash
  | trailingSlash
  | emptyElement
  | dotsOnly (element : Text)
  | trailingDot
  | badChar (c : Char)
  | reserved (name : Text)
  | shortName
deriving Repr, DecidableEq, Inhabited

def Problem.message : Problem → Text
  | .illFormed => "invalid UTF-8"
  | .empty => "empty string"
  | .leadingDash => "leading dash"
  | .doubleSlash => "double slash"
  | .trailingSlash => "trailing slash"
  | .emptyElement => "empty path element"
  | .dotsOnly element => "invalid path element " ++ Text.quote element
  | .trailingDot => "trailing dot in path element"
  | .badChar c => "invalid char " ++ Text.quoteChar c
  | .reserved name => Text.quote name ++ " disallowed as path element component on Windows"
  | .shortName => "trailing tilde and digits in path element"

/-- Whether a character may stand in an element. -/
def isOrdinary (c : Char) : Bool :=
  c.isAlphanum || ['-', '.', '_', '~', '+'].contains c

def devices : List Text :=
  let numbered := fun stem : String =>
    (List.range 9).map fun n => Text.ofString stem ++ Text.ofNat (n + 1)
  [Text.ofString "con", Text.ofString "aux", Text.ofString "nul", Text.ofString "prn"]
    ++ numbered "com" ++ numbered "lpt"

/-- Whether a name ends in a tilde and digits. -/
def isShortName (name : Text) : Bool :=
  let digits := name.reverse.takeWhile Text.isDecimal
  !digits.isEmpty && (name.reverse.drop digits.length).head? == some 0x7E

def checkElement (element : Text) : Option Problem :=
  let stem := element.takeWhile (· != 0x2E)
  if element.isEmpty then some .emptyElement
  else if element.all (· == 0x2E) then some (.dotsOnly element)
  else if element.getLast? == some 0x2E then some .trailingDot
  else match element.chars.find? fun c => !isOrdinary c with
    | some c => some (.badChar c)
    | none =>
      if devices.contains (Text.asciiLower stem) then some (.reserved stem)
      else if isShortName stem then some .shortName
      else none

def check (path : Text) : Option Problem :=
  if !path.isValid then some .illFormed
  else if path.isEmpty then some .empty
  else if path.head? == some 0x2D then some .leadingDash
  else if Text.occurs "//" path then some .doubleSlash
  else if path.getLast? == some 0x2F then some .trailingSlash
  else (Text.splitOn 0x2F path).findSome? checkElement

end SystemLoops.ImportPath
