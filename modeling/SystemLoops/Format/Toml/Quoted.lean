import SystemLoops.Text.Rune

namespace SystemLoops.Format.Toml

/-- A reader takes something from the front of a text. -/
abbrev Reader (α : Type) := Text → Option (α × Text)

/-! ### Characters -/

/-- Whether a byte is a control character that may not occur. -/
def isControl (b : UInt8) : Bool :=
  (b < 0x20 && b != 0x09 && b != 0x0A && b != 0x0D) || b == 0x7F

/-- The characters up to a byte that stops, all of which have to be well formed and no control characters.
`skip` bytes belong to a character that was looked at. -/
def validRun (stops : UInt8 → Bool) : (skip : Nat) → Reader Text
  | _, [] => some ([], [])
  | skip + 1, b :: rest => (validRun stops skip rest).map fun (run, rest) => (b :: run, rest)
  | 0, b :: rest =>
    if stops b then some ([], b :: rest)
    else
      let r := Rune.decode b rest
      if r.wellFormed && !isControl b then
        (validRun stops (r.width - 1) rest).map fun (run, rest) => (b :: run, rest)
      else none

/-! ### Escapes -/

/-- The character with a number of `digits` hexadecimal digits. -/
def codePoint? (digits : Nat) (t : Text) : Option (Text × Text) := do
  let spelling := t.take digits
  if spelling.length < digits then none
  let n ← spelling.foldlM (fun n b => (Text.hexValue? b).map (n * 16 + ·)) 0
  if n < 0xD800 || (0xE000 ≤ n && n ≤ 0x10FFFF) then some (Text.ofChar (Char.ofNat n), t.drop digits)
  else none

/-- What an escape stands for; its backslash was taken. -/
def escape? : Reader Text
  | [] => none
  | b :: rest =>
    match Char.ofNat b.toNat with
    | '"' => some ([0x22], rest)
    | '\\' => some ([0x5C], rest)
    | 'b' => some ([0x08], rest)
    | 'f' => some ([0x0C], rest)
    | 'n' => some ([0x0A], rest)
    | 'r' => some ([0x0D], rest)
    | 't' => some ([0x09], rest)
    | 'e' => some ([0x1B], rest)
    | 'u' => codePoint? 4 rest
    | 'U' => codePoint? 8 rest
    | _ => none

def isBlank (b : UInt8) : Bool :=
  b == 0x20 || b == 0x09

/-- What follows the end of a line. -/
def afterLine? : Text → Option Text
  | 0x0A :: rest => some rest
  | 0x0D :: 0x0A :: rest => some rest
  | _ => none

/-- What follows blanks and ends of lines, of which there are at most `n`. -/
def skipLines : (n : Nat) → Text → Text
  | 0, t => t
  | n + 1, t =>
    let t := t.dropWhile isBlank
    match afterLine? t with
    | some rest => skipLines n rest
    | none => t

/-! ### Texts -/

/-- The kind of a quoted text. -/
structure Quotation where
  mark : UInt8
  /-- Whether a backslash starts an escape. -/
  escapes : Bool
  /-- Whether the text may go over several lines. -/
  long : Bool

namespace Quotation

/-- What follows a run of marks in a text over several lines: the text ends at three of them, and those
before the last three belong to it. The result tells whether the text ends. -/
private def closeLong? (q : Quotation) (t : Text) : Option (Text × Bool × Text) :=
  let marks := t.takeWhile (· == q.mark)
  let rest := t.drop marks.length
  if marks.length < 3 then some (marks, false, rest)
  else if marks.length < 6 then some (marks.drop 3, true, rest)
  else none

/-- The text up to its end, of which at most `n` pieces are read. -/
def body? (q : Quotation) : (n : Nat) → Reader Text
  | 0, _ => none
  | n + 1, t => do
    let stops := fun b => b == q.mark || b == 0x0A || b == 0x0D || (q.escapes && b == 0x5C)
    let (run, t) ← validRun stops 0 t
    let more := fun (piece : Text) (rest : Text) =>
      (q.body? n rest).map fun (body, rest) => (run ++ piece ++ body, rest)
    match t with
    | [] => none
    | b :: rest =>
      if b == q.mark then
        if q.long then
          let (marks, ends, rest) ← q.closeLong? t
          if ends then some (run ++ marks, rest) else more marks rest
        else some (run, rest)
      else if b == 0x5C then
        match q.long, afterLine? (rest.dropWhile isBlank) with
        | true, some next => more [] (skipLines next.length next)
        | _, _ => do
          let (piece, rest) ← escape? rest
          more piece rest
      else if q.long then
        let next ← afterLine? t
        more (t.take (t.length - next.length)) next
      else none

end Quotation

/-- A text at the front, if one starts there. `long` texts are read where they may stand. -/
def quoted? (long : Bool) : Reader Text
  | [] => none
  | mark :: rest =>
    let isLong := long && [mark, mark].isPrefixOf rest
    let q : Quotation := { mark, escapes := mark == 0x22, long := isLong }
    if isLong then
      let body := rest.drop 2
      let body := (afterLine? body).getD body
      q.body? (body.length + 1) body
    else q.body? (rest.length + 1) rest

end SystemLoops.Format.Toml
