import SystemLoops.Diagnostic
import SystemLoops.Method
import SystemLoops.Text.Spelling

/-!
What a statement is. A chain whose outermost member is the combinator, and which takes a function
literal with a body, is an iteration; the type arguments of the exclusion calls before it are the
components it leaves out. Everything else is kept as it stands.
-/

namespace SystemLoops

/-- The member names that make up the iteration language. -/
structure Combinators where
  each : Text := "Each"
  without : Text := "Without"
deriving Repr, DecidableEq, Inhabited

/-- What a statement is. -/
inductive Classified where
  /-- A statement kept as it stands. -/
  | plain (source : Text) (position : Position) (diagnostic : Option Diagnostic)
  /-- A chain that ends in the exclusion call; it filters nothing and is kept as it stands. -/
  | exclusion (source : Text) (position : Position) (types : List Text) (diagnostic : Diagnostic)
  /-- A call that becomes a loop. -/
  | iteration (source : Text) (position : Position) (params : List Param)
      (exclusions : List Text) (body : List Stmt) (diagnostics : List Diagnostic)
deriving Repr, Inhabited

namespace Classified

/-- The greatest edit distance at which a name counts as a misspelling. -/
def maxTypoDistance : Nat := 2

/-- What to write instead of a name that looks like a misspelling of `wanted`. -/
def nearMiss? (name wanted : Text) : Option Text :=
  if name == wanted || name.length < 3 then none
  else if Text.equalFold name wanted ||
      editDistance (name.chars.map Unicode.toLower) (wanted.chars.map Unicode.toLower)
        ≤ maxTypoDistance then
    some ("did you mean " ++ wanted ++ "?")
  else none

/-- The type arguments of every exclusion call of a chain, in order. -/
def exclusions (names : Combinators) (chain : List Member) : List Text :=
  chain.flatMap fun m => if m.name == names.without then m.typeArgs else []

/-- Warnings about members that look like a misspelt exclusion call. -/
def misspeltExclusions (names : Combinators) (position : Position) (chain : List Member) :
    List Diagnostic :=
  chain.filterMap fun m =>
    if m.name == names.without || m.typeArgs.isEmpty then none
    else (nearMiss? m.name names.without).map fun suggestion =>
      { Diagnostic.warn position
          (m.render ++ " is not an exclusion filter; its type arguments are ignored")
        with suggestion }

def ofEach (names : Combinators) (st : Stmt) : Classified :=
  match st.lambda? with
  | none => .plain st.source st.position (some (Diagnostic.warn st.position
      (names.each ++ " call has no function literal argument and is passed through unexpanded")))
  | some l =>
    if !l.hasBody then
      .plain st.source st.position (some (Diagnostic.warn st.position
        (names.each ++ " function literal has no body and is passed through unexpanded")))
    else
      .iteration st.source st.position (l.params.getD []) (exclusions names st.chain) l.body
        (misspeltExclusions names st.position st.chain.dropLast)

/-- What a statement is. -/
def of (names : Combinators) (st : Stmt) : Classified :=
  match st.outermost? with
  | none => .plain st.source st.position none
  | some last =>
    if last.name == names.each then ofEach names st
    else if last.name == names.without then
      .exclusion st.source st.position (exclusions names st.chain) (Diagnostic.remark st.position
        (names.without ++ " chain is not followed by " ++ names.each ++ " and filters nothing"))
    else if st.lambda?.isSome then
      .plain st.source st.position ((nearMiss? last.name names.each).map fun suggestion =>
        { Diagnostic.warn st.position ("call to " ++ last.name
            ++ " is not recognised as an iteration and is passed through")
          with suggestion })
    else .plain st.source st.position none

end Classified

end SystemLoops
