import SystemLoops.Text.Rune

namespace SystemLoops.Format

inductive Json where
  | null
  | bool (b : Bool)
  | number (literal : Text)
  | string (t : Text)
  | array (items : List Json)
  | object (fields : List (Text × Json))
deriving Repr, Inhabited

namespace Json

/-- An integer as a number. -/
def ofInt (n : Int) : Json :=
  .number (Text.ofInt n)

mutual

/-- The nesting levels of a value, at least one. -/
def height : Json → Nat
  | .array items => heights items + 1
  | .object fields => fieldHeights fields + 1
  | _ => 1

/-- The greatest height of several values. -/
def heights : List Json → Nat
  | [] => 0
  | v :: rest => max v.height (heights rest)

def fieldHeights : List (Text × Json) → Nat
  | [] => 0
  | (_, v) :: rest => max v.height (fieldHeights rest)

end

mutual

def allNumbers (check : Text → Bool) : Json → Bool
  | .number literal => check literal
  | .array items => allNumbersIn check items
  | .object fields => allNumbersOf check fields
  | _ => true

/-- Whether every number in several values satisfies a check. -/
def allNumbersIn (check : Text → Bool) : List Json → Bool
  | [] => true
  | v :: rest => v.allNumbers check && allNumbersIn check rest

/-- Whether every number in several fields satisfies a check. -/
def allNumbersOf (check : Text → Bool) : List (Text × Json) → Bool
  | [] => true
  | (_, v) :: rest => v.allNumbers check && allNumbersOf check rest

end

/-! ### Writing -/

/-- A character inside a string: control characters, quotes, backslashes, markup and the two line
separators are escaped. -/
def escapeChar (c : Char) : Text :=
  let n := c.toNat
  if n == 0x22 || n == 0x5C then [0x5C, UInt8.ofNat n]
  else if n == 0x08 then "\\b"
  else if n == 0x0C then "\\f"
  else if n == 0x0A then "\\n"
  else if n == 0x0D then "\\r"
  else if n == 0x09 then "\\t"
  else if n < 0x20 || n == 0x3C || n == 0x3E || n == 0x26 || n == 0x2028 || n == 0x2029 then
    "\\u" ++ Text.hexPadded 4 n
  else Text.ofChar c

/-- A character of a text inside a string; an ill-formed byte shows as an escape. -/
def escapeRune (r : Rune) : Text :=
  if r.wellFormed then escapeChar r.char else "\\ufffd"

def quote (t : Text) : Text :=
  [0x22] ++ t.runes.flatMap escapeRune ++ [0x22]

mutual

/-- A value without blanks, written in front of a text. -/
def compactOnto : Json → (behind : Text) → Text
  | .null, behind => "null" ++ behind
  | .bool b, behind => (if b then "true" else "false") ++ behind
  | .number literal, behind => literal ++ behind
  | .string t, behind => quote t ++ behind
  | .array items, behind => 0x5B :: compactItems items (0x5D :: behind)
  | .object fields, behind => 0x7B :: compactFields fields (0x7D :: behind)

/-- The items of an array without blanks, written in front of a text. -/
def compactItems : List Json → (behind : Text) → Text
  | [], behind => behind
  | [v], behind => v.compactOnto behind
  | v :: rest, behind => v.compactOnto (0x2C :: compactItems rest behind)

/-- The fields of an object without blanks, written in front of a text. -/
def compactFields : List (Text × Json) → (behind : Text) → Text
  | [], behind => behind
  | [(key, v)], behind => quote key ++ 0x3A :: v.compactOnto behind
  | (key, v) :: rest, behind => quote key ++ 0x3A :: v.compactOnto (0x2C :: compactFields rest behind)

end

/-- The text of a value without blanks. -/
def compact (v : Json) : Text :=
  v.compactOnto []

/-- A new line at a nesting level, two blanks for each. -/
def newLine (level : Nat) : Text :=
  Text.newline :: Text.replicate (2 * level) 0x20

mutual

/-- A value with every item and field on a line of its own, written in front of a text. -/
def indentedOnto (level : Nat) : Json → (behind : Text) → Text
  | .null, behind => "null" ++ behind
  | .bool b, behind => (if b then "true" else "false") ++ behind
  | .number literal, behind => literal ++ behind
  | .string t, behind => quote t ++ behind
  | .array [], behind => 0x5B :: 0x5D :: behind
  | .array (v :: rest), behind =>
    0x5B :: indentedItems (level + 1) (v :: rest) (newLine level ++ 0x5D :: behind)
  | .object [], behind => 0x7B :: 0x7D :: behind
  | .object (field :: rest), behind =>
    0x7B :: indentedFields (level + 1) (field :: rest) (newLine level ++ 0x7D :: behind)

/-- The items of an array, each on a line, written in front of a text. -/
def indentedItems (level : Nat) : List Json → (behind : Text) → Text
  | [], behind => behind
  | [v], behind => newLine level ++ v.indentedOnto level behind
  | v :: rest, behind =>
    newLine level ++ v.indentedOnto level (0x2C :: indentedItems level rest behind)

/-- The fields of an object, each on a line, written in front of a text. -/
def indentedFields (level : Nat) : List (Text × Json) → (behind : Text) → Text
  | [], behind => behind
  | [(key, v)], behind => newLine level ++ quote key ++ 0x3A :: 0x20 :: v.indentedOnto level behind
  | (key, v) :: rest, behind =>
    newLine level ++ quote key ++ 0x3A :: 0x20 ::
      v.indentedOnto level (0x2C :: indentedFields level rest behind)

end

/-- A value as a document: indented, with a line feed at the end. -/
def document (v : Json) : Text :=
  v.indentedOnto 0 [Text.newline]

end Json

end SystemLoops.Format
