import SystemLoops.Source.CommentText
import SystemLoops.Source.Parse.File
import SystemLoops.Source.Scope
import SystemLoops.Text.Quote

namespace SystemLoops.Source

/-! ### Names and paths -/

/-- The name that an entry gives to its package, empty when it gives none. -/
def Spec.importedName : Spec → Text
  | .imported _ (some n) _ _ _ => n.name
  | _ => []

def Spec.path? : Spec → Option Literal
  | .imported _ _ path _ _ => some path
  | _ => none

/-- The path of an entry; a literal that denotes nothing counts as empty. -/
def Spec.importedPath (s : Spec) : Text :=
  match s.path? with
  | some l => (Text.unquote? l.value).getD []
  | none => []

/-- The comments that belong to an entry. -/
def Spec.comments : Spec → List CommentGroup
  | .imported doc _ _ comment _ | .value doc _ _ _ comment | .type doc _ _ _ _ comment =>
    doc.toList ++ comment.toList

/-- Whether the last element of a path is a version and no name. -/
def isVersion (element : Text) : Bool :=
  element.length > 1 && element.head? == some 0x76 && (element.drop 1).all Text.isDecimal

/-- The name by which a file refers to an import. An import without a name, and one whose name cannot be
told from its path, has none. -/
def Spec.packageName? (s : Spec) : Option Text :=
  let explicit := s.importedName
  if explicit == [0x5F] || explicit == [0x2E] then none
  else if !explicit.isEmpty then some explicit
  else
    let path := s.importedPath
    let last := Path.base path
    let name := if isVersion last then Path.base (Path.dir path) else last
    if (Text.chars name).all fun c => Unicode.isLetter c || Unicode.isDigit c || c == '_' then some name
    else none

/-! ### Dropping -/

/-- What is left while the entries of one declaration are gone through: the entries kept, the latest
first, the lines, and the comments that go with dropped entries. -/
private structure Pruning where
  kept : List Spec := []
  lines : LineMap
  dropped : List CommentGroup := []

/-- Let lines run on until at most one line lies between two places. Lines count as they are shown, so a
renumbering may ask for a line that is not there. -/
private def closeUp (tokPos target : Pos) : (steps : Nat) → LineMap → Except Fault LineMap
  | 0, m => .ok m
  | steps + 1, m =>
    if m.line (tokPos - 1) + 1 < m.line (target - 1) then do
      closeUp tokPos target steps (← m.mergeShownLine (m.line (tokPos - 1)))
    else .ok m

/-- The comments that stand in front of a place on its line. -/
private def commentBefore? (comments : List CommentGroup) (m : LineMap) (target : Pos) :
    Option CommentGroup :=
  comments.find? fun g =>
    decide (g.finish < target) && m.line (g.finish - 1) == m.line (target - 1)

/-- When one entry is left: the comments of the dropped entry go, and those of the entry that is left move
up to the keyword. -/
private def leaveOne (comments : List CommentGroup) (tokPos : Pos) (gone left : Spec) (p : Pruning) :
    Except Fault Pruning := do
  let dropped := gone.comments ++ (commentBefore? comments p.lines gone.start).toList
  let steps := p.lines.lineCount
  let lines ← match left with
    | .imported (some doc) _ _ _ _ => closeUp tokPos doc.start steps p.lines
    | _ => .ok p.lines
  let lines ← match commentBefore? comments lines left.start with
    | some _ => closeUp tokPos left.start steps lines
    | none => .ok lines
  return { p with lines, dropped := p.dropped ++ dropped }

/-- Where the path of an entry stands. -/
private def pathOffset (s : Spec) : Nat :=
  match s.path? with
  | some l => l.pos - 1
  | none => 0

/-- Close the hole that a dropped entry leaves behind the entry before it. -/
private def closeHole (hasParen : Bool) (gone : Spec) (p : Pruning) : Pruning :=
  match p.kept.head? with
  | none => p
  | some previous =>
    let line := p.lines.rawLine (pathOffset gone)
    if p.lines.rawLine (pathOffset previous) + 1 < line || !hasParen || line == p.lines.lineCount then p
    else { p with lines := p.lines.mergeLine line }

/-- Go through the entries of a declaration and drop those that match. -/
private def dropSpecs (matching : Spec → Bool) (comments : List CommentGroup) (tokPos rparen : Pos) :
    List Spec → Pruning → Except Fault Pruning
  | [], p => .ok p
  | s :: rest, p => do
    let p ←
      if !matching s then pure { p with kept := s :: p.kept }
      else if p.kept.isEmpty && rest.isEmpty then pure p
      else
        let p ← match p.kept, rest with
          | [left], [] | [], [left] => leaveOne comments tokPos s left p
          | _, _ => pure p
        pure (closeHole (rparen != 0) s p)
    dropSpecs matching comments tokPos rparen rest p

/-- Go through the declarations and drop matching imports; a declaration without entries goes too. -/
private def dropFrom (matching : Spec → Bool) (comments : List CommentGroup) :
    List Decl → LineMap → Except Fault (List Decl × LineMap × List CommentGroup)
  | [], lines => .ok ([], lines, [])
  | d :: rest, lines => do
    match d with
    | .function _ =>
      let (decls, lines, dropped) ← dropFrom matching comments rest lines
      return (d :: decls, lines, dropped)
    | .group g =>
      if g.tok != .kwImport then
        let (decls, lines, dropped) ← dropFrom matching comments rest lines
        return (d :: decls, lines, dropped)
      else
        let p ← dropSpecs matching comments g.tokPos g.rparen g.specs { lines }
        let (decls, lines, dropped) ← dropFrom matching comments rest p.lines
        let emptied := p.kept.isEmpty && !g.specs.isEmpty
        return (if emptied then decls else .group (g.withSpecs p.kept.reverse) :: decls, lines,
          p.dropped ++ dropped)

namespace Parsed

def dropImport (p : Parsed) (name path : Text) : Except Fault Parsed := do
  let matching := fun (s : Spec) => s.importedName == name && s.importedPath == path
  let (decls, lines, dropped) ← dropFrom matching p.file.comments p.file.decls p.lines
  let comments := p.file.comments.filter fun g => !dropped.contains g
  return { file := { p.file with decls, comments }, lines }

def dropUnusedImports (p : Parsed) : Except Fault Parsed :=
  let used := p.file.mentions
  p.file.imports.foldlM (fun p s =>
    match s.packageName? with
    | none => .ok p
    | some name =>
      if used.contains name then .ok p else p.dropImport s.importedName s.importedPath) p

end Parsed

/-! ### Sorting -/

def Spec.trailingText : Spec → Text
  | .imported _ _ _ comment _ | .value _ _ _ _ comment | .type _ _ _ _ _ comment =>
    (comment.map CommentGroup.text).getD []

/-- The order of imports: by path, then by name, then by the comment behind them. -/
def importLe (a b : Spec) : Bool :=
  if a.importedPath != b.importedPath then Text.le a.importedPath b.importedPath
  else if a.importedName != b.importedName then Text.le a.importedName b.importedName
  else Text.le a.trailingText b.trailingText

/-- Put an entry in another place. -/
def Spec.moveTo (start finish : Pos) : Spec → Spec
  | .imported doc name path comment _ =>
    let width := path.finish - path.pos
    .imported doc (name.map fun n => { n with pos := start })
      { path with pos := start, finish := start + width } comment finish
  | s => s

/-- The entries of a file's imports while they are sorted: the lines and the comments of the file change
with them. -/
private structure Sorting where
  lines : LineMap
  comments : List CommentGroup

/-- A group of comments, the number of the entry that it belongs to, and whether it stands to the left of
the entry. -/
private structure Attached where
  group : CommentGroup
  owner : Nat
  left : Bool

/-- Attach comments to the entries on their lines. A group in front of the first entry, or on the line
behind an entry, belongs to the entry that comes next. -/
private def attach (m : LineMap) (starts : List Pos) : (owner : Nat) → List CommentGroup → List Attached
  | _, [] => []
  | owner, g :: rest =>
    let owner := max owner ((starts.filter fun s => decide (s ≤ g.start)).length - 1)
    let start := starts.getD owner 0
    if owner == 0 && start > g.start then ⟨g, owner, true⟩ :: attach m starts owner rest
    else if owner + 1 < starts.length && m.rawLine (start - 1) + 1 == m.rawLine (g.start - 1) then
      ⟨g, owner + 1, true⟩ :: attach m starts (owner + 1) rest
    else ⟨g, owner, false⟩ :: attach m starts owner rest

/-- Whether an entry adds nothing to the one after it. -/
private def repeats (s next : Spec) : Bool :=
  match s with
  | .imported _ _ _ none _ =>
    s.importedPath == next.importedPath && s.importedName == next.importedName
  | _ => false

/-- Leave out entries that the entry after them repeats; their lines run on. -/
private def dropRepeated : List (Spec × Nat) → LineMap → List (Spec × Nat) × LineMap
  | [], m => ([], m)
  | [s], m => ([s], m)
  | s :: next :: rest, m =>
    if repeats s.1 next.1 then dropRepeated (next :: rest) (m.mergeLine (m.rawLine (s.1.start - 1)))
    else
      let (specs, m) := dropRepeated (next :: rest) m
      (s :: specs, m)

/-- Where the line behind a place starts, or the place itself on the last line. -/
private def lineBehind (m : LineMap) (p : Pos) : Pos :=
  let line := m.rawLine (p - 1)
  if line == m.lineCount then p else m.lineStart (line + 1) + 1

/-- Move attached comments with their entries, which now stand at the given places. -/
private def moveComments (placed : List ((Spec × Nat) × Spec)) (attached : List Attached) :
    List CommentGroup :=
  let moved := attached.map fun a =>
    match placed.find? fun (s, _) => s.2 == a.owner with
    | some (_, place) => a.group.moveTo (if a.left then place.start - 1 else place.finish)
    | none => a.group
  moved.mergeSort fun a b => decide (a.start ≤ b.start)

/-- Sort a run of entries on lines that follow each other; the places stay where they are, and comments
move with their entries. -/
private def sortRun (run : List Spec) (s : Sorting) : List Spec × Sorting :=
  match run with
  | first :: _ :: _ =>
    let finish := (run.getLast?.map Spec.finish).getD 0
    let front := s.lines.lineStart (s.lines.rawLine (first.start - 1)) + 1
    let back := lineBehind s.lines finish
    let before := s.comments.takeWhile fun g => decide (g.finish < back) && decide (g.start < front)
    let inside := (s.comments.drop before.length).takeWhile fun g => decide (g.finish < back)
    let after := s.comments.drop (before.length + inside.length)
    let attached := attach s.lines (run.map Spec.start) 0 inside
    let sorted := run.zipIdx.mergeSort fun a b => importLe a.1 b.1
    let (kept, lines) := dropRepeated sorted s.lines
    let placed := kept.zip run
    (placed.map fun (s, place) => s.1.moveTo place.start place.finish,
      { lines, comments := before ++ moveComments placed attached ++ after })
  | _ => (run, s)

/-- Cut entries into runs on lines that follow each other. -/
private def importRuns (m : LineMap) : List Spec → List (List Spec)
  | [] => []
  | [s] => [[s]]
  | s :: next :: rest =>
    let runs := importRuns m (next :: rest)
    if m.rawLine (next.start - 1) > m.rawLine (s.finish - 1) + 1 then [s] :: runs
    else match runs with
      | run :: others => (s :: run) :: others
      | [] => [[s]]

/-- Let lines run on so that no blank line stands in front of the closing parenthesis. -/
private def closeBefore (last : Nat) : (line : Nat) → LineMap → LineMap
  | 0, m => m
  | line + 1, m => if line + 1 > last + 1 then closeBefore last line (m.mergeLine line) else m

/-- Sort the entries of one declaration. -/
private def sortGroup (g : GroupDecl) (s : Sorting) : GroupDecl × Sorting :=
  let (specs, s) := (importRuns s.lines g.specs).foldl (fun (done, s) run =>
    let (sorted, s) := sortRun run s
    (done ++ sorted, s)) (([] : List Spec), s)
  let lines := match specs.getLast? with
    | some last => closeBefore (s.lines.rawLine (last.start - 1)) (s.lines.rawLine (g.rparen - 1)) s.lines
    | none => s.lines
  (g.withSpecs specs, { s with lines })

/-- Sort the imports at the front of a list of declarations. -/
private def sortDecls : List Decl → Sorting → List Decl × Sorting
  | [], s => ([], s)
  | d :: rest, s =>
    match d with
    | .function _ => (d :: rest, s)
    | .group g =>
      if g.tok != .kwImport then (d :: rest, s)
      else
        let (g, s) := if g.lparen != 0 then sortGroup g s else (g, s)
        let (decls, s) := sortDecls rest s
        (.group g :: decls, s)

namespace Parsed

def sortImports (p : Parsed) : Parsed :=
  let (decls, s) := sortDecls p.file.decls ⟨p.lines, p.file.comments⟩
  { file := { p.file with decls, comments := s.comments }, lines := s.lines }

/-- Whether an import declaration with parentheses comes first of all that needs sorting. -/
def hasImportGroup (p : Parsed) : Bool :=
  (p.file.decls.takeWhile fun d => d.tok == .kwImport).any fun d => match d with
    | .group g => g.lparen != 0
    | .function _ => false

end Parsed

end SystemLoops.Source
