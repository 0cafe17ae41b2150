import SystemLoops.Source.Parse.Statement

namespace SystemLoops.Source

namespace Grammar

open Parse

variable (g : Grammar)

/-- The declaration of a function or method. -/
def funcDecl : Parse FuncDecl := do
  let first ← peek
  let start ← expect .kwFunc
  let receiver ← if ← at? .lparen then some <$> params g true else pure none
  let name ← ident
  let typeParams ← typeParams? g
  let params ← params g true
  let results ← results g
  let type : FuncType := .mk start (signatureEnd params results) typeParams params results
  let body ← match ← tok with
    | .lbrace =>
      let b ← block g
      let _ ← endOfLine
      pure (some b)
    | .semicolon =>
      next
      if ← at? .lbrace then refuse
      pure none
    | _ =>
      let _ ← endOfLine
      pure none
  return { doc := first.lead, receiver, name, type, body }

def decl : Parse Decl := do
  match ← tok with
  | .kwFunc => return .function (← funcDecl g)
  | _ => return .group (← groupDecl g)

/-- The declarations of a file, imports before all others. -/
def decls : Parse (List Decl) := do
  let imports ← many (· == .kwImport) (decl g)
  let others ← many (· != .eof) do
    if ← at? .kwImport then refuse
    decl g
  return imports ++ others

def file (comments : List CommentGroup) : Parse File := do
  let package ← expect .kwPackage
  let name ← ident
  let _ ← endOfLine
  return { package, name, decls := ← decls g, comments }

end Grammar

/-- A source text that was read: its syntax tree and its lines. -/
structure Parsed where
  file : File
  lines : LineMap

/-- Read a source text. -/
def parse? (name text : Text) : Option Parsed :=
  if hasForbiddenChar text then none
  else
    let scanned := tokens text
    if scanned.any Token.flawed then none
    else
      let (lines, malformed) := LineMap.ofTokens name text scanned
      if malformed then none
      else
        let stream := Stream.ofTokens lines scanned
        let grammar := Grammar.level (stream.items.size + 2)
        match (grammar.file stream.comments).run { items := stream.items } with
        | some (file, _) => some ⟨file, lines⟩
        | none => none

end SystemLoops.Source
