import SystemLoops.Text.Numeral
import SystemLoops.Text.Quote

namespace SystemLoops

inductive FlagValue where
  | text (t : Text)
  | int (n : Int)
  | bool (b : Bool)
deriving Repr, DecidableEq, Inhabited

/-- The kinds of flags, by their values. -/
inductive FlagKind where
  | text
  | int
  /-- A flag that means true when it has no value. -/
  | bool
deriving Repr, DecidableEq, Inhabited

structure Flag where
  name : String
  letter : Option Char := none
  kind : FlagKind := .text
deriving Repr, DecidableEq, Inhabited

namespace Flag

def label (f : Flag) : Text :=
  match f.letter with
  | some c => Text.ofString "-" ++ Text.ofChar c ++ ", --" ++ f.name
  | none => Text.ofString "--" ++ f.name

end Flag

/-- Why flags cannot be read. -/
inductive FlagProblem where
  | unknown (name : Text)
  | unknownLetter (letter : UInt8) (letters : Text)
  | noValue (name : Text)
  | noLetterValue (letter : UInt8) (letters : Text)
  | malformed (argument : Text)
  | badValue (flag : Flag) (value reason : Text)
  /-- Help was asked for where no flag of that name is defined. -/
  | help
deriving Repr, DecidableEq, Inhabited

namespace FlagProblem

def message : FlagProblem → Text
  | .unknown name => "unknown flag: --" ++ name
  | .unknownLetter letter letters =>
    "unknown shorthand flag: " ++ Text.quoteChar (Char.ofNat letter.toNat) ++ " in -" ++ letters
  | .noValue name => "flag needs an argument: --" ++ name
  | .noLetterValue letter letters =>
    "flag needs an argument: " ++ Text.quoteChar (Char.ofNat letter.toNat) ++ " in -" ++ letters
  | .malformed argument => "bad flag syntax: " ++ argument
  | .badValue flag value reason =>
    "invalid argument " ++ Text.quote value ++ " for " ++ Text.quote flag.label ++ " flag: " ++ reason
  | .help => "pflag: help requested"

end FlagProblem

structure Flags where
  given : List (String × FlagValue) := []
  arguments : List Text := []
deriving Repr, DecidableEq, Inhabited

namespace Flags

/-- The last value given for a flag. -/
def value? (f : Flags) (name : String) : Option FlagValue :=
  ((f.given.filter fun g => g.1 == name).getLast?).map Prod.snd

/-- The last text given for a flag, or a default. -/
def text (f : Flags) (name : String) (default : Text) : Text :=
  match f.value? name with
  | some (.text t) => t
  | _ => default

def isSet (f : Flags) (name : String) : Bool :=
  f.value? name == some (.bool true)

def valueOf (flag : Flag) (t : Text) : Except FlagProblem FlagValue :=
  match flag.kind with
  | .text => .ok (.text t)
  | .int => match t.integer with
    | .ok n => .ok (.int n)
    | .error e =>
      .error (.badValue flag t ("strconv.ParseInt: parsing " ++ Text.quote t ++ ": " ++ e.message))
  | .bool => match t.truth? with
    | some b => .ok (.bool b)
    | none => .error (.badValue flag t
        ("strconv.ParseBool: parsing " ++ Text.quote t ++ ": "
          ++ Text.NumeralProblem.malformed.message))

def give (f : Flags) (flag : Flag) (value : Text) : Except FlagProblem Flags :=
  (valueOf flag value).map fun v => { f with given := f.given ++ [(flag.name, v)] }

def named? (known : List Flag) (name : Text) : Option Flag :=
  known.find? fun flag => Text.ofString flag.name == name

def lettered? (known : List Flag) (letter : UInt8) : Option Flag :=
  known.find? fun flag => flag.letter.map Char.toNat == some letter.toNat

/-- What reading a flag leads to: it is complete, or it still wants the next argument as its value. -/
inductive Step where
  | done (flags : Flags)
  | wants (flags : Flags) (flag : Flag) (missing : FlagProblem)

def byName (known : List Flag) (f : Flags) (argument : Text) : Except FlagProblem Step :=
  let body := argument.drop 2
  if body.head? == some 0x2D || body.head? == some 0x3D then .error (.malformed argument) else
  let name := body.takeWhile (· != 0x3D)
  let value := if name.length < body.length then some (body.drop (name.length + 1)) else none
  match named? known name with
  | none => .error (if name == Text.ofString "help" then .help else .unknown name)
  | some flag => match value, flag.kind with
    | some value, _ => (f.give flag value).map .done
    | none, .bool => (f.give flag "true").map .done
    | none, _ => .ok (.wants f flag (.noValue name))

/-- Read flags given by their letters. Letters for the test runner are left alone. -/
def byLetters (known : List Flag) (f : Flags) : (letters : Text) → Except FlagProblem Step
  | [] => .ok (.done f)
  | letter :: rest =>
    let letters := letter :: rest
    if (Text.ofString "test.").isPrefixOf letters then .ok (.done f) else
    match lettered? known letter with
    | none => .error (if letter == 0x68 then .help else .unknownLetter letter letters)
    | some flag =>
      if rest.head? == some 0x3D && 1 < rest.length then (f.give flag (rest.drop 1)).map .done
      else if flag.kind == .bool then
        match f.give flag "true" with
        | .ok f => byLetters known f rest
        | .error e => .error e
      else if rest.isEmpty then .ok (.wants f flag (.noLetterValue letter letters))
      else (f.give flag rest).map .done

def readFrom (known : List Flag) : Step → List Text → Except FlagProblem Flags
  | .done f, [] => .ok f
  | .wants _ _ missing, [] => .error missing
  | .wants f flag _, value :: rest =>
    match f.give flag value with
    | .ok f => readFrom known (.done f) rest
    | .error e => .error e
  | .done f, argument :: rest =>
    if argument.head? != some 0x2D || argument.length == 1 then
      readFrom known (.done { f with arguments := f.arguments ++ [argument] }) rest
    else if argument == Text.ofString "--" then .ok { f with arguments := f.arguments ++ rest }
    else
      let step := if argument[1]? == some 0x2D then byName known f argument
        else byLetters known f (argument.drop 1)
      match step with
      | .ok step => readFrom known step rest
      | .error e => .error e

def read (known : List Flag) (arguments : List Text) : Except FlagProblem Flags :=
  readFrom known (.done {}) arguments

end Flags

end SystemLoops
