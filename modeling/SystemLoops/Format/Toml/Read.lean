import SystemLoops.Format.Toml.Plain
import SystemLoops.Format.Toml.Table

namespace SystemLoops.Format.Toml

/-! ### Blanks and comments -/

/-- What follows a comment, if there is one; it goes up to the end of the line. -/
def afterComment? (t : Text) : Option Text :=
  if t.head? == some 0x23 then do
    let (_, rest) ← validRun (fun b => b == 0x0A || b == 0x0D) 0 t
    if rest.isEmpty || (afterLine? rest).isSome then some rest else none
  else some t

/-- What follows blanks, comments and ends of lines, of which there are at most `n`. -/
def afterBlankLines? : (n : Nat) → Text → Option Text
  | 0, t => some t
  | n + 1, t => do
    let t ← afterComment? (t.dropWhile isBlank)
    match afterLine? t with
    | some rest => afterBlankLines? n rest
    | none => some t

/-! ### Keys -/

/-- Whether a byte may stand in a key without quotes. -/
def isKeyByte (b : UInt8) : Bool :=
  Text.isDecimal b || (0x41 ≤ b && b ≤ 0x5A) || (0x61 ≤ b && b ≤ 0x7A) || b == 0x2D || b == 0x5F

def keyPart? (t : Text) : Option (Text × Text) :=
  if t.head? == some 0x22 || t.head? == some 0x27 then quoted? false t
  else
    let part := t.takeWhile isKeyByte
    if part.isEmpty then none else some (part, t.drop part.length)

/-- A key of at most `n` parts with dots between them, and what follows it and blanks. -/
def keyPath? : (n : Nat) → Reader (List Text)
  | 0, _ => none
  | n + 1, t => do
    let (part, t) ← keyPart? t
    match t.dropWhile isBlank with
    | 0x2E :: rest =>
      let (path, rest) ← keyPath? n (rest.dropWhile isBlank)
      return (part :: path, rest)
    | rest => return ([part], rest)

/-- A key and what follows it and blanks. -/
def key? (t : Text) : Option (List Text × Text) :=
  keyPath? (t.length + 1) t

/-- A key and the equals sign, with what follows them and blanks. -/
def keyAndSign? (t : Text) : Option (List Text × Text) := do
  match ← key? t with
  | (key, 0x3D :: rest) => some (key, rest.dropWhile isBlank)
  | _ => none

/-! ### Values -/

mutual

/-- A value; `n` bounds the depth of values and the number of their entries. -/
def value? : (n : Nat) → Reader Value
  | 0, _ => none
  | n + 1, t =>
    match t with
    | 0x5B :: rest => (items? n true rest).map fun (items, rest) => (.list items, rest)
    | 0x7B :: rest => do
      let (pairs, rest) ← pairs? n true rest
      return (.map (← tableOf? pairs), rest)
    | b :: _ =>
      if b == 0x22 || b == 0x27 then (quoted? true t).map fun (text, rest) => (.text text, rest)
      else plain? t
    | [] => none

/-- The entries of a list up to its closing bracket. A comma may stand behind the last one. -/
def items? : (n : Nat) → (first : Bool) → Reader (List Value)
  | 0, _, _ => none
  | n + 1, first, t => do
    let t ← afterBlankLines? t.length t
    let t ← match t, first with
      | 0x5D :: _, _ => some t
      | 0x2C :: _, true => none
      | 0x2C :: rest, false => afterBlankLines? rest.length rest
      | _, true => some t
      | _, false => none
    match t with
    | 0x5D :: rest => some ([], rest)
    | t =>
      let (v, rest) ← value? n t
      let (items, rest) ← items? n false rest
      return (v :: items, rest)

/-- The keys and values of a table up to its closing brace. -/
def pairs? : (n : Nat) → (first : Bool) → Reader (List (List Text × Value))
  | 0, _, _ => none
  | n + 1, first, t =>
    match t.dropWhile isBlank, first with
    | 0x7D :: rest, _ => some ([], rest)
    | t, first => do
      let t ← match t, first with
        | t, true => some t
        | 0x2C :: rest, false => some (rest.dropWhile isBlank)
        | _, false => none
      let (key, t) ← keyAndSign? t
      let (v, t) ← value? n t
      let (pairs, t) ← pairs? n false t
      return ((key, v) :: pairs, t)

end

/-! ### Lines -/

/-- What a line says. -/
inductive Statement where
  | table (path : List Text)
  /-- One more table in a list of tables. -/
  | element (path : List Text)
  | entry (path : List Text) (v : Value)

/-- The statement at the front of a line, if it has one. -/
def statement? (t : Text) : Option (Option Statement × Text) :=
  match t with
  | [] | 0x23 :: _ | 0x0A :: _ | 0x0D :: _ => some (none, t)
  | 0x5B :: 0x5B :: rest => do
    match ← key? (rest.dropWhile isBlank) with
    | (path, 0x5D :: 0x5D :: rest) => some (some (.element path), rest)
    | _ => none
  | 0x5B :: rest => do
    match ← key? (rest.dropWhile isBlank) with
    | (path, 0x5D :: rest) => some (some (.table path), rest)
    | _ => none
  | t => do
    let (path, t) ← keyAndSign? t
    let (v, rest) ← value? (2 * t.length + 2) t
    return (some (.entry path v), rest)

/-- The statements of a text of at most `n` lines. -/
def statements? : (n : Nat) → Text → Option (List Statement)
  | 0, _ => none
  | n + 1, t => do
    let (statement, rest) ← statement? (t.dropWhile isBlank)
    let rest ← afterComment? (rest.dropWhile isBlank)
    let later ← if rest.isEmpty then some [] else statements? n (← afterLine? rest)
    return statement.toList ++ later

/-! ### Documents -/

/-- What the statements so far came to. -/
structure Progress where
  entries : Entries := []
  /-- The header that the next keys belong to. -/
  header : List Text := []
  /-- How many headers came before. -/
  number : Nat := 0

namespace Progress

def step? (p : Progress) : Statement → Option Progress
  | .table path => (p.entries.openHeader? false path).map fun entries =>
    { entries, header := path, number := p.number + 1 }
  | .element path => (p.entries.openHeader? true path).map fun entries =>
    { entries, header := path, number := p.number + 1 }
  | .entry path v => (p.entries.insertBelow? p.number path v p.header).map fun entries =>
    { p with entries }

end Progress

def entries? (t : Text) : Option (List (Text × Value)) := do
  let statements ← statements? (t.length + 1) t
  let p ← statements.foldlM Progress.step? {}
  return slotValues p.entries

end SystemLoops.Format.Toml
