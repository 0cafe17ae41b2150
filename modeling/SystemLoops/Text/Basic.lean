/-!
Byte text. Statement sources, paths and generated files are arbitrary bytes, so text is a list of
bytes and characters are a view of it (see `SystemLoops.Text.Rune`). Cutting at a separator and
joining with it undo each other.
-/

namespace SystemLoops

def total (ns : List Nat) : Nat :=
  ns.foldr (· + ·) 0

theorem total_cons (n : Nat) (rest : List Nat) : total (n :: rest) = n + total rest :=
  rfl

/-- A piece of text: any sequence of bytes, well-formed UTF-8 or not. -/
abbrev Text := List UInt8

namespace Text

/-- The UTF-8 bytes of a string. -/
def ofString (s : String) : Text :=
  s.toUTF8.data.toList

instance : Coe String Text := ⟨ofString⟩

/-- The bytes read as UTF-8, when they are well formed. -/
def toString? (t : Text) : Option String :=
  String.fromUTF8? ⟨t.toArray⟩

def newline : UInt8 := 0x0A

/-- Cut at every occurrence of a separator byte; `n` separators give `n + 1` pieces. -/
def splitOn (sep : UInt8) : Text → List Text
  | [] => [[]]
  | b :: rest =>
    if b = sep then [] :: splitOn sep rest
    else match splitOn sep rest with
      | [] => [[b]]
      | piece :: pieces => (b :: piece) :: pieces

/-- The lines of a text, without their line feeds. -/
def lines (t : Text) : List Text :=
  splitOn newline t

/-- The pieces with a separator between every two. -/
def join (sep : Text) (pieces : List Text) : Text :=
  List.intercalate sep pieces

/-- Lines put back together with line feeds. -/
def unlines (pieces : List Text) : Text :=
  join [newline] pieces

theorem splitOn_ne_nil (sep : UInt8) (t : Text) : splitOn sep t ≠ [] := by
  cases t with
  | nil => simp [splitOn]
  | cons b rest =>
    simp only [splitOn]
    split
    · simp
    · split <;> simp

theorem join_splitOn (sep : UInt8) (t : Text) : join [sep] (splitOn sep t) = t := by
  induction t with
  | nil => simp [splitOn, join, List.intercalate]
  | cons b rest ih =>
    simp only [splitOn]
    cases pieces : splitOn sep rest with
    | nil => exact absurd pieces (splitOn_ne_nil sep rest)
    | cons piece others =>
      rw [pieces] at ih
      by_cases same : b = sep
      · simp only [same, if_true]
        rw [← ih]
        simp [join, List.intercalate, List.intersperse]
      · simp only [same, if_false]
        cases others with
        | nil => simpa [join, List.intercalate] using ih
        | cons next others =>
          simp only [join, List.intercalate, List.intersperse, List.flatten_cons] at ih ⊢
          simp [← ih]

theorem join_cons (sep first : Text) (rest : List Text) :
    join sep (first :: rest) = first ++ rest.flatMap (sep ++ ·) := by
  induction rest generalizing first with
  | nil => simp [join, List.intercalate]
  | cons next others ih =>
    simp only [join, List.intercalate, List.intersperse, List.flatten_cons] at ih ⊢
    rw [ih next]
    simp

/-- Every line but the last is followed by a line feed. -/
theorem unlines_concat (before : List Text) (last : Text) :
    unlines (before ++ [last]) = before.flatMap (· ++ [newline]) ++ last := by
  induction before with
  | nil => simp [unlines, join, List.intercalate]
  | cons line rest ih =>
    cases rest with
    | nil => simp [unlines, join, List.intercalate]
    | cons next others =>
      simp only [unlines, join, List.intercalate, List.cons_append, List.intersperse,
        List.flatten_cons] at ih ⊢
      rw [ih]
      simp

def occurs (part : Text) : Text → Bool
  | [] => part.isEmpty
  | b :: rest => part.isPrefixOf (b :: rest) || occurs part rest

/-- Drop `part` from the front when it is there. -/
def dropPrefix (part t : Text) : Text :=
  if part.isPrefixOf t then t.drop part.length else t

/-- Drop `part` from the end when it is there. -/
def dropSuffix (part t : Text) : Text :=
  if part.isSuffixOf t then t.take (t.length - part.length) else t

/-- What follows the last occurrence of a byte, or the whole text. -/
def afterLast (b : UInt8) (t : Text) : Text :=
  (splitOn b t).getLast?.getD t

/-- The text before the first occurrence of a byte, and what follows it, if it occurs. -/
def cut (b : UInt8) : Text → Option (Text × Text)
  | [] => none
  | c :: rest =>
    if c = b then some ([], rest) else (cut b rest).map fun (before, after) => (c :: before, after)

/-- The text without its trailing bytes that satisfy `drop`. -/
def trimEnd (drop : UInt8 → Bool) (t : Text) : Text :=
  (t.reverse.dropWhile drop).reverse

def ofNat (n : Nat) : Text :=
  ofString (toString n)

/-- The decimal digits of an integer, with a minus sign when it is negative. -/
def ofInt (n : Int) : Text :=
  ofString (toString n)

def replicate (n : Nat) (b : UInt8) : Text :=
  List.replicate n b

/-- The order of texts by their bytes. -/
def le (a b : Text) : Bool :=
  match a, b with
  | [], _ => true
  | _ :: _, [] => false
  | x :: xs, y :: ys => if x < y then true else if y < x then false else le xs ys

def digitsValue (t : Text) : Nat :=
  t.foldl (fun n b => n * 10 + (b.toNat - 0x30)) 0

def isDecimal (b : UInt8) : Bool :=
  0x30 ≤ b && b ≤ 0x39

/-- The value of a non-empty text of decimal digits. -/
def toNat? (t : Text) : Option Nat :=
  if t.isEmpty || !t.all isDecimal then none else some (digitsValue t)

/-- The hexadecimal digit of a value below sixteen, in lower case. -/
def hexDigit (n : Nat) : UInt8 :=
  if n < 10 then UInt8.ofNat (0x30 + n) else UInt8.ofNat (0x57 + n)

def hex (t : Text) : Text :=
  t.flatMap fun b => [hexDigit (b.toNat / 16), hexDigit (b.toNat % 16)]

/-- The value of a hexadecimal digit in either case. -/
def hexValue? (b : UInt8) : Option Nat :=
  if 0x30 ≤ b && b ≤ 0x39 then some (b.toNat - 0x30)
  else if 0x61 ≤ b && b ≤ 0x66 then some (b.toNat - 0x57)
  else if 0x41 ≤ b && b ≤ 0x46 then some (b.toNat - 0x37)
  else none

/-- A value in hexadecimal with at least `width` digits. -/
def hexPadded (width n : Nat) : Text :=
  let digits := (Nat.toDigits 16 n).map fun c => UInt8.ofNat c.toNat
  replicate (width - digits.length) 0x30 ++ digits

end Text

end SystemLoops
