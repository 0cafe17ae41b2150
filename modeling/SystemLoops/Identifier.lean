import SystemLoops.Fault
import SystemLoops.Text.Spelling

namespace SystemLoops.Identifier

private def sanitizeFrom (first : Bool) : List Char → List Char
  | [] => []
  | c :: rest =>
    let kept := Unicode.isLetter c || c == '_' || (!first && Unicode.isDigit c)
    (if kept then c else '_') :: sanitizeFrom false rest

/-- An identifier made from a type expression: what cannot stand in one becomes an underscore. -/
def sanitize (name : Text) : Text :=
  Text.ofChars (sanitizeFrom true name.chars)

/-- The name with its first character in lower case. What is cut off is the first character as it
would be encoded, so a name that starts with an ill-formed byte loses two bytes more, and is at fault
when it is shorter than that. -/
def lowerFirst (name : Text) : Except Fault Text :=
  match name.runes with
  | [] => .ok name
  | r :: _ =>
    let cutAt := (Text.ofChar r.char).length
    if cutAt ≤ name.length then .ok (Text.ofChar (Unicode.toLower r.char) ++ name.drop cutAt)
    else .error (.cutBeyond cutAt name.length)

theorem lowerFirst_of_valid {name : Text} (valid : name.isValid = true) :
    ∃ lowered, lowerFirst name = .ok lowered := by
  cases name with
  | nil => exact ⟨[], rfl⟩
  | cons b rest =>
    have runes : Text.runes (b :: rest) = Rune.decode b rest ::
        Text.runesFrom ((Rune.decode b rest).width - 1) rest := rfl
    have first : (Rune.decode b rest).wellFormed = true := by
      rw [Text.isValid, runes, List.all_cons, Bool.and_eq_true] at valid
      exact valid.1
    have fits := Text.length_ofChar_decode_le first
    simp [lowerFirst, runes, fits]

/-- The characters of a name with its words in lower case and underscores between them, when `previous` is the
character before them. -/
def snakeFrom : (previous : Option Char) → List Char → List Char
  | _, [] => []
  | previous, c :: rest =>
    if Unicode.isUpper c then
      let breaks := match previous with
        | none => false
        | some p => Unicode.isLower p || rest.head?.any Unicode.isLower
      (if breaks then ['_'] else []) ++ Unicode.toLower c :: snakeFrom (some c) rest
    else c :: snakeFrom (some c) rest

/-- The name of the file for a system: its words in lower case with underscores between them, and a
suffix. -/
def fileName (system suffix : Text) : Text :=
  Text.ofChars (snakeFrom none system.chars) ++ suffix

end SystemLoops.Identifier
