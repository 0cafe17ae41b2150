import SystemLoops.Config.Load
import SystemLoops.Text.Spelling

namespace SystemLoops.Cli

inductive Command where
  /-- Write a generated unit next to every system. -/
  | generate
  /-- Fail when a generated unit is missing or out of date. -/
  | check
  /-- Print the analysed form of every system. -/
  | inspect
  /-- Write units whenever sources change. -/
  | watch
  /-- Tell how to use the program. -/
  | help
  /-- Print a script that completes commands in a shell. -/
  | completion
deriving Repr, DecidableEq, Inhabited

namespace Command

def all : List Command :=
  [.generate, .check, .inspect, .watch, .help, .completion]

def name : Command → String
  | .generate => "generate"
  | .check => "check"
  | .inspect => "inspect"
  | .watch => "watch"
  | .help => "help"
  | .completion => "completion"

/-- What a command does, in one line. -/
def summary : Command → String
  | .generate => "Write a generated unit next to every system"
  | .check => "Fail when a generated unit is missing or out of date"
  | .inspect => "Print the analysed form of every system"
  | .watch => "Regenerate units whenever sources change"
  | .help => "Help about any command"
  | .completion => "Generate the autocompletion script for the specified shell"

def named? (name : Text) : Option Command :=
  all.find? fun c => Text.ofString c.name == name

end Command

def helpFlag : Flag :=
  { name := "help", letter := some 'h', kind := .bool }

/-- The flags of a command, or of the program itself. The format of an inspection is a text. -/
def flagsOf : Option Command → List Flag
  | some .inspect =>
    { name := "format" } :: helpFlag :: Config.flags.filter fun f => f.name != "format"
  | _ => helpFlag :: Config.flags

/-- Whether an argument is a flag whose value is the argument after it. A flag that is not known is
taken to have a value. -/
def takesNext (known : List Flag) (argument : Text) : Bool :=
  let isSwitch := fun flag? : Option Flag => flag?.any fun flag => flag.kind == .bool
  !argument.contains 0x3D && argument.head? == some 0x2D &&
    match argument with
    | [_, 0x2D] => false
    | [_, letter] => !isSwitch (Flags.lettered? known letter)
    | _ :: 0x2D :: name => !isSwitch (Flags.named? known name)
    | _ => false

/-- The arguments without flags and their values. A flag that waits for the last argument ends the
search. -/
def withoutFlags (known : List Flag) : List Text → List Text
  | [] => []
  | argument :: rest =>
    if argument == Text.ofString "--" then []
    else if takesNext known argument then
      match rest with
      | _ :: next :: more => withoutFlags known (next :: more)
      | _ => []
    else if argument.isEmpty || argument.head? == some 0x2D then withoutFlags known rest
    else argument :: withoutFlags known rest

/-- The arguments without the first one that is a given word and not the value of a flag. -/
def withoutFirst (known : List Flag) (word : Text) : List Text → List Text
  | [] => []
  | argument :: rest =>
    if argument == Text.ofString "--" then argument :: rest
    else if takesNext known argument then
      match rest with
      | value :: more => argument :: value :: withoutFirst known word more
      | [] => [argument]
    else if argument == word then rest
    else argument :: withoutFirst known word rest

/-- The commands whose names are close to a word or start with it. -/
def suggestions (word : Text) : List Command :=
  let lower := word.toLower
  Command.all.filter fun c =>
    let name := Text.ofString c.name
    c != .help && (editDistance lower name ≤ 2 || lower.isPrefixOf name)

def unknownCommand (word : Text) : Failure :=
  let hints := (suggestions word).flatMap fun c => Text.ofString ("\t" ++ c.name ++ "\n")
  .plain ("unknown command " ++ Text.quote word ++ " for \"ecsgen\""
    ++ (if hints.isEmpty then [] else Text.ofString "\n\nDid you mean this?\n" ++ hints))

/-- Pick the command that arguments ask for, and the arguments for it; none for the program itself. -/
def pick (arguments : List Text) : Except Failure (Option Command × List Text) :=
  let known := Config.flags
  match withoutFlags known arguments with
  | [] => .ok (none, arguments)
  | word :: _ => match Command.named? word with
    | some c => .ok (some c, withoutFirst known word arguments)
    | none => .error (unknownCommand word)

end SystemLoops.Cli
