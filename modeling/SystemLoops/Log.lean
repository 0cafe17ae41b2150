import SystemLoops.Fault
import SystemLoops.Format.Json
import SystemLoops.Text.Spelling

namespace SystemLoops

/-- The importance of a log entry: a signed byte, of which the usual values have names. -/
structure LogLevel where
  rank : Int
deriving Repr, DecidableEq, Inhabited

namespace LogLevel

/-- The level of entries for those who look for a mistake. -/
def debug : LogLevel := ⟨-1⟩

def warn : LogLevel := ⟨1⟩

def error : LogLevel := ⟨2⟩

/-- The level of ordinary entries. -/
def info : LogLevel := ⟨0⟩

/-- The levels with a name, from the least important one on. -/
def named : List (String × LogLevel) :=
  [("debug", debug), ("info", info), ("warn", warn), ("error", error), ("dpanic", ⟨3⟩), ("panic", ⟨4⟩),
   ("fatal", ⟨5⟩)]

/-- The level of a name or of a second name; no name means the ordinary level. -/
private def exactly? (t : Text) : Option LogLevel :=
  if t.isEmpty then some info
  else if t == Text.ofString "warning" then some warn
  else (named.find? fun entry => Text.ofString entry.1 == t).map Prod.snd

/-- The level of a name in any case; no name means the ordinary level. -/
def ofText? (t : Text) : Option LogLevel :=
  (exactly? t).or (exactly? t.toLower)

/-- The level of a number, of which the lowest byte counts. -/
def ofInt (n : Int) : LogLevel :=
  ⟨Int.bmod n 256⟩

def name (l : LogLevel) : Text :=
  match named.find? fun entry => entry.2 == l with
  | some (name, _) => name
  | none => "Level(" ++ Text.ofInt l.rank ++ ")"

def label (l : LogLevel) : Text :=
  Text.asciiUpper l.name

/-- Whether entries of a level are written when another one is configured. -/
def isEnabled (configured l : LogLevel) : Bool :=
  configured.rank ≤ l.rank

def stops (developing : Bool) (l : LogLevel) : Bool :=
  l.rank == 4 || (developing && l.rank == 3)

end LogLevel

structure LogOptions where
  level : LogLevel := .info
  /-- The file for records; none when it is empty. -/
  file : Text := []
  maxSize : Int := 10
  maxBackups : Int := 3
  maxAge : Int := 28
  compress : Bool := false
  /-- Whether the program is being developed. -/
  dev : Bool := false
deriving Repr, DecidableEq, Inhabited

inductive LogValue where
  | text (t : Text)
  | int (n : Int)
  | bool (b : Bool)
deriving Repr, DecidableEq, Inhabited

structure LogEntry where
  level : LogLevel
  message : Text
  fields : List (Text × LogValue) := []
deriving Repr, DecidableEq, Inhabited

/-- An entry as it is kept in a file. -/
structure LogRecord where
  entry : LogEntry
  logger : Text
  /-- Whether the place of the entry in the program is kept with it. -/
  traced : Bool
deriving Repr, DecidableEq, Inhabited

namespace LogEntry

/-- A character of a field: control characters, quotes and backslashes are escaped. -/
def escapeRune (r : Rune) : Text :=
  let n := r.char.toNat
  if !r.wellFormed then "\\ufffd"
  else if n == 0x22 || n == 0x5C then [0x5C, UInt8.ofNat n]
  else if n == 0x0A then "\\n"
  else if n == 0x0D then "\\r"
  else if n == 0x09 then "\\t"
  else if n < 0x20 then "\\u" ++ Text.hexPadded 4 n
  else Text.ofChar r.char

def quoted (t : Text) : Text :=
  [0x22] ++ t.runes.flatMap escapeRune ++ [0x22]

/-- The value of a field on the console. -/
def valueText : LogValue → Text
  | .text t => quoted t
  | .int n => Text.ofInt n
  | .bool b => if b then "true" else "false"

def fieldsText (e : LogEntry) : Text :=
  "\x7b" ++ Text.join ", " (e.fields.map fun (k, v) => quoted k ++ Text.ofString ": " ++ valueText v)
    ++ "\x7d"

/-- The columns of an entry on the console, for the logger of a name. -/
def columns (e : LogEntry) (logger : Text) : List Text :=
  [e.level.label] ++ (if logger.isEmpty then [] else [logger]) ++ [e.message]
    ++ (if e.fields.isEmpty then [] else [e.fieldsText])

def consoleLine (e : LogEntry) (logger : Text) : Text :=
  Text.join [0x09] (e.columns logger)

end LogEntry

namespace LogRecord

open Format

/-- The value of a field in a record. -/
def value : LogValue → Json
  | .text t => .string t
  | .int n => .ofInt n
  | .bool b => .bool b

/-- The fields of a record, of which the logger is left out when it has no name. -/
def fields (r : LogRecord) : List (Text × Json) :=
  [(Text.ofString "level", .string r.entry.level.label)]
    ++ (if r.logger.isEmpty then [] else [(Text.ofString "logger", .string r.logger)])
    ++ [(Text.ofString "msg", .string r.entry.message)]
    ++ r.entry.fields.map fun (k, v) => (k, value v)

end LogRecord

structure LogOutput where
  console : List Text := []
  records : List LogRecord := []
deriving Repr, Inhabited

namespace LogOptions

/-- Write entries, until one of them stops the program. -/
def write (o : LogOptions) (logger : Text) (hasConsole : Bool) : List LogEntry → Except Fault LogOutput
  | [] => .ok {}
  | e :: rest =>
    if e.level.stops o.dev then .error (.refused e.message)
    else match write o logger hasConsole rest with
      | .error f => .error f
      | .ok later =>
        let shown := o.level.isEnabled e.level
        let record : LogRecord := { entry := e, logger, traced := o.dev && LogLevel.warn.isEnabled e.level }
        .ok { console := (if shown && hasConsole then [e.consoleLine logger] else []) ++ later.console
              records := (if shown && !o.file.isEmpty then [record] else []) ++ later.records }

end LogOptions

end SystemLoops
