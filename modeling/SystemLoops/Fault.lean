import SystemLoops.Text.Basic

/-!
Faults: broken promises of the program itself, as opposed to errors in its input. A fault aborts the
unit that is being processed and nothing else.
-/

namespace SystemLoops

/-- The moment at which a contract is checked. -/
inductive Contract where
  | precondition
  | postcondition
  | invariant
deriving Repr, DecidableEq

/-- A broken promise. -/
inductive Fault where
  /-- A contract was checked and did not hold. -/
  | contract (kind : Contract) (message : Text)
  /-- A text was cut behind its end. -/
  | cutBeyond (start length : Nat)
  /-- A list was read behind its end. -/
  | indexBeyond (index length : Nat)
  /-- A text was to be repeated a negative number of times. -/
  | negativeRepeat
  /-- A line was to run on that is before the first one. -/
  | lineBelow (line : Int)
  /-- A line was to run on that is the last one or behind it. -/
  | lineBeyond (line : Int) (count : Nat)
  /-- The program was asked for something it never does. -/
  | refused (message : Text)
deriving Repr, DecidableEq

namespace Contract

def label : Contract → String
  | .precondition => "PRECONDITION"
  | .postcondition => "POSTCONDITION"
  | .invariant => "INVARIANT"

def check (kind : Contract) (holds : Bool) (message : Text) : Except Fault Unit :=
  if holds then .ok () else .error (.contract kind message)

end Contract

namespace Fault

def message : Fault → Text
  | .contract kind message => Text.ofString kind.label ++ " VIOLATION: " ++ message
  | .cutBeyond start length =>
    "runtime error: slice bounds out of range [" ++ Text.ofNat start ++ ":" ++ Text.ofNat length
      ++ "]"
  | .indexBeyond index length =>
    "runtime error: index out of range [" ++ Text.ofNat index ++ "] with length "
      ++ Text.ofNat length
  | .negativeRepeat => "strings: negative Repeat count"
  | .lineBelow line => "invalid line number " ++ Text.ofInt line ++ " (should be >= 1)"
  | .lineBeyond line count =>
    "invalid line number " ++ Text.ofInt line ++ " (should be < " ++ Text.ofNat count ++ ")"
  | .refused message => message

/-- Check that a value is there. -/
def requirePresent (isPresent : Bool) (name : Text) : Except Fault Unit :=
  Contract.check .precondition isPresent (name ++ " must not be nil")

/-- Check that a number lies between two bounds, both included. -/
def requireInRange (value low high : Int) (name : Text) : Except Fault Unit :=
  Contract.check .precondition (low ≤ value && value ≤ high)
    (name ++ " must be in range [" ++ Text.ofInt low ++ ", " ++ Text.ofInt high ++ "], got "
      ++ Text.ofInt value)

end Fault

end SystemLoops
