import SystemLoops.FileTree
import SystemLoops.Method
import SystemLoops.Source.Imports
import SystemLoops.Source.Indent
import SystemLoops.Source.ScopeDepth
import SystemLoops.Source.TypeEntries

/-!
Finding the update methods of systems in source files. A system is a struct type whose first field embeds
the marker type. Comments between statements count as statements of their own, and a comment that starts
on the last line of a statement belongs to the statement.
-/

namespace SystemLoops

open Source

/-- The names by which systems are found. -/
structure DiscoveryOptions where
  /-- The embedded marker type. -/
  base : Text := "UpdateSystem"
  /-- The update method. -/
  method : Text := "Update"
  /-- What the names of generated files end with. -/
  outputSuffix : Text := "_ecs.go"
deriving Repr, DecidableEq, Inhabited

namespace DiscoveryOptions

/-- The options with empty names replaced by the usual ones. -/
def complete (o : DiscoveryOptions) : DiscoveryOptions :=
  let usual : DiscoveryOptions := {}
  { o with
    base := if o.base.isEmpty then usual.base else o.base
    method := if o.method.isEmpty then usual.method else o.method }

end DiscoveryOptions

structure SourceFile where
  bytes : Array UInt8
  parsed : Parsed

namespace SourceFile

/-- Where a place is. -/
def position (f : SourceFile) (p : Pos) : Position :=
  let place := f.parsed.lines.place (p - 1)
  { file := place.name, line := place.line, column := place.column }

def line (f : SourceFile) (p : Pos) : Int :=
  f.parsed.lines.line (p - 1)

/-- The source between two places. -/
def slice (f : SourceFile) (start finish : Pos) : Text :=
  (f.bytes.extract (start - 1) (finish - 1)).toList

def exprText (f : SourceFile) (x : Expr) : Text :=
  f.slice x.start x.finish

/-- How many of the bytes right before an offset are blanks. -/
private def blanksBefore (bytes : Array UInt8) : (offset : Nat) → Nat
  | 0 => 0
  | offset + 1 =>
    match bytes[offset]? with
    | some b => if b == 0x20 || b == 0x09 then blanksBefore bytes offset + 1 else 0
    | none => 0

/-- The source between two places without its common indentation. Indentation in front of the first place
counts as part of it. -/
def dedented (f : SourceFile) (start finish : Pos) : Text :=
  let front := start - blanksBefore f.bytes (start - 1)
  let atLineStart := front ≤ 1 || f.bytes[front - 2]? == some Text.newline
  dedent (f.slice (if atLineStart then front else start) finish)

private theorem blanksBefore_le (bytes : Array UInt8) (offset : Nat) :
    blanksBefore bytes offset ≤ offset := by
  induction offset with
  | zero => exact Nat.le_refl 0
  | succ offset ih =>
    unfold blanksBefore
    grind

private theorem blank_of_blanksBefore (bytes : Array UInt8) (offset i : Nat) {b : UInt8}
    (near : offset - blanksBefore bytes offset ≤ i) (before : i < offset) (there : bytes[i]? = some b) :
    b = 0x20 ∨ b = 0x09 := by
  induction offset with
  | zero => omega
  | succ offset ih =>
    have fewer := blanksBefore_le bytes offset
    unfold blanksBefore at near
    grind

/-- The source between two places is dedented with nothing but blanks in front. -/
theorem exists_dedented (f : SourceFile) {start finish : Pos} (ordered : start ≤ finish) :
    ∃ blanks : Text, (∀ b ∈ blanks, b = 0x20 ∨ b = 0x09) ∧
      f.dedented start finish = dedent (blanks ++ f.slice start finish) := by
  by_cases atLineStart : start - blanksBefore f.bytes (start - 1) ≤ 1 ||
      f.bytes[start - blanksBefore f.bytes (start - 1) - 2]? == some Text.newline
  · have fewer := blanksBefore_le f.bytes (start - 1)
    refine ⟨f.slice (start - blanksBefore f.bytes (start - 1)) start, ?_, ?_⟩
    · intro b member
      obtain ⟨i, there⟩ := List.mem_iff_getElem?.mp member
      simp only [slice, Array.getElem?_toList, Array.getElem?_extract] at there
      split at there
      · exact blank_of_blanksBefore f.bytes (start - 1) _ (by omega) (by omega) there
      · cases there
    · rw [dedented, if_pos atLineStart, slice, slice, slice, ← Array.toList_append,
        Array.extract_append_extract, Nat.min_eq_left (by omega),
        Nat.max_eq_right (Nat.sub_le_sub_right ordered 1)]
  · exact ⟨[], by simp, by rw [dedented, if_neg atLineStart, List.nil_append]⟩

/-- The groups of comments between two braces. -/
def commentsWithin (f : SourceFile) (lbrace rbrace : Pos) : List CommentGroup :=
  f.parsed.file.comments.filter fun g =>
    decide (lbrace < CommentGroup.start g) && decide (CommentGroup.finish g ≤ rbrace)

def commentStmt (f : SourceFile) (g : CommentGroup) : Stmt :=
  .text (f.dedented (CommentGroup.start g) (CommentGroup.finish g)) (f.position (CommentGroup.start g))

/-- The called members of a chain, the outermost last. The chain starts at the first receiver that is no
member call itself. -/
def chain (f : SourceFile) : Expr → List Member
  | .mk _ _ (.selector (.mk _ _ (.call fn _ _ _ _)) sel) => chain f fn ++ [{ name := sel.name }]
  | .mk _ _ (.selector _ sel) => [{ name := sel.name }]
  | .mk _ _ (.index (.mk _ _ (.selector (.mk _ _ (.call fn _ _ _ _)) sel)) _ indices _) =>
    chain f fn ++ [{ name := sel.name, typeArgs := indices.map f.exprText }]
  | .mk _ _ (.index (.mk _ _ (.selector _ sel)) _ indices _) =>
    [{ name := sel.name, typeArgs := indices.map f.exprText }]
  | _ => []

/-- The parameters of one field of a function literal. -/
def fieldParams (f : SourceFile) (field : Field) : List Param :=
  let type := Text.dropPrefix [0x2A] (f.exprText field.type)
  if field.names.isEmpty then [{ type, name := [] }]
  else field.names.map fun n => { type, name := n.name }

/-- The parameters of a function literal, none where it has none. -/
def params? (f : SourceFile) (fields : List Field) : Option (List Param) :=
  match fields.flatMap f.fieldParams with
  | [] => none
  | params => some params

mutual

def ofBlock (f : SourceFile) : Block → List Stmt
  | .mk lbrace list rbrace => ofStatements f rbrace (f.commentsWithin lbrace rbrace) list

/-- Statements up to a closing brace among the comments that are left. -/
def ofStatements (f : SourceFile) (rbrace : Pos) (comments : List CommentGroup) :
    List Statement → List Stmt
  | [] => (comments.takeWhile fun g => decide (CommentGroup.start g < rbrace)).map f.commentStmt
  | .mk start finish shape :: rest =>
    match shape with
    | .empty => ofStatements f rbrace comments rest
    | shape =>
      let before := comments.takeWhile fun g => decide (CommentGroup.start g < start)
      let after := comments.dropWhile fun g => decide (CommentGroup.start g < max start finish)
      let (finish, after) := match after with
        | g :: others =>
          if f.line (CommentGroup.start g) == f.line finish then (CommentGroup.finish g, others)
          else (finish, after)
        | [] => (finish, after)
      before.map f.commentStmt ++ ofShape f start finish shape :: ofStatements f rbrace after rest

/-- A statement whose source lies between two places. -/
def ofShape (f : SourceFile) (start finish : Pos) : StatementShape → Stmt
  | .expr x => ofExpr f start finish x
  | _ => .text (f.dedented start finish) (f.position start)

/-- The statement that an expression is. -/
def ofExpr (f : SourceFile) (start finish : Pos) : Expr → Stmt
  | .mk _ _ (.call fn _ arguments _ _) =>
    let source := f.dedented start finish
    let position := f.position start
    match f.chain fn with
    | [] => .text source position
    | members =>
      match lambda? f arguments with
      | some l => .callWith source position members l.params l.hasBody l.body
      | none => .call source position members
  | _ => .text (f.dedented start finish) (f.position start)

/-- The first function literal among arguments. -/
def lambda? (f : SourceFile) : List Expr → Option Lambda
  | [] => none
  | .mk _ _ (.function (.mk _ _ _ params _) body) :: _ =>
    some { params := f.params? params.fields, body := ofBlock f body, hasBody := true }
  | _ :: rest => lambda? f rest

end

def imports (f : SourceFile) : List Import :=
  f.parsed.file.imports.filterMap fun s =>
    match s.path? with
    | some l => (Text.unquote? l.value).map fun path => { name := s.importedName, path }
    | none => none

end SourceFile

namespace Discovery

/-- The name of an embedded type, behind its stars and without its package. -/
def embeddedName? : Expr → Option Text
  | .mk _ _ (.ident name) => some name
  | .mk _ _ (.selector _ sel) => some sel.name
  | .mk _ _ (.star x) => embeddedName? x
  | _ => none

/-- Whether a type is a struct whose first field embeds the marker type. -/
def isSystem (base : Text) (type : Expr) : Bool :=
  match type.shape with
  | .structType (.mk _ (first :: _) _) => first.names.isEmpty && embeddedName? first.type == some base
  | _ => false

def systems (files : List SourceFile) (base : Text) : List Text :=
  files.flatMap fun f =>
    (f.parsed.file.types.filter fun entry => isSystem base entry.type).map TypeEntry.name

def receiver? (d : FuncDecl) : Option (Text × Text) :=
  match d.receiver with
  | some (.mk _ [field] _) =>
    let type := match field.type.shape with
      | .star x => x
      | _ => field.type
    let name := match field.names with
      | [n] => n.name
      | _ => []
    type.ident?.map fun i => (i.name, name)
  | _ => none

def updateMethod? (known : List Text) (method : Text) (f : SourceFile) (d : Decl) : Option Method :=
  match d with
  | .group _ => none
  | .function fn =>
    match fn.body, receiver? fn with
    | some body, some (system, receiver) =>
      if fn.name.name == method && known.contains system then
        some { system, package := f.parsed.file.name.name, receiver, imports := f.imports
               body := f.ofBlock body, position := f.position fn.type.start }
      else none
    | _, _ => none

private def placeText (p : Position) : Text :=
  let place := Text.ofInt p.line ++ (if p.column == 0 then [] else Text.ofString ":" ++ Text.ofInt p.column)
  if p.file.isEmpty then place else p.file ++ ":" ++ place

/-- A system with two update methods. -/
def declaredTwice (m : Method) (method : Text) : Failure :=
  .plain (placeText m.position ++ ": system " ++ m.system ++ " declares " ++ method ++ " twice")

/-- Refuse the second update method of a system. -/
def checkUnique (method : Text) : (seen : List Text) → List Method → Except Failure Unit
  | _, [] => .ok ()
  | seen, m :: rest =>
    if seen.contains m.system then .error (declaredTwice m method)
    else checkUnique method (m.system :: seen) rest

def readAll : List (Text × Text) → Except Failure (List SourceFile)
  | [] => .ok []
  | (name, source) :: rest =>
    match parseScoped? name source with
    | none => .error .badSource
    | some parsed => (readAll rest).map (⟨source.toArray, parsed⟩ :: ·)

/-- The update methods of the systems in files, in the order of file names. -/
def inFiles (files : List (Text × Text)) (options : DiscoveryOptions) : Except Failure (List Method) :=
  let o := options.complete
  match readAll (files.mergeSort fun a b => Text.le a.1 b.1) with
  | .error e => .error e
  | .ok parsed =>
    let known := systems parsed o.base
    let methods := parsed.flatMap fun f => f.parsed.file.decls.filterMap (updateMethod? known o.method f)
    (checkUnique o.method [] methods).map fun () => methods

/-- Whether a file in a folder is looked at: tests and generated files are not. -/
def isSource (outputSuffix name : Text) : Bool :=
  (Text.ofString ".go").isSuffixOf name && !(Text.ofString "_test.go").isSuffixOf name
    && (outputSuffix.isEmpty || !outputSuffix.isSuffixOf name)

def readFiles (t : FileTree) (folder : Text) : List Text → Except Failure (List (Text × Text))
  | [] => .ok []
  | name :: rest =>
    let path := Path.join folder name
    match t.read path with
    | .error e => .error e
    | .ok content => (readFiles t folder rest).map ((path, content) :: ·)

def inFolder (t : FileTree) (folder : Text) (options : DiscoveryOptions) :
    Except Failure (List Method) :=
  match t.filesIn folder with
  | .error e => .error e
  | .ok names =>
    match readFiles t folder (names.filter (isSource options.outputSuffix)) with
    | .error e => .error e
    | .ok files => inFiles files options

end Discovery

end SystemLoops
