import SystemLoops.Format.Yaml.Mark

namespace SystemLoops.Format.Yaml

/-- What stands between two words of a scalar. -/
inductive Gap where
  | none
  | blanks (cs : List Char)
  /-- Line breaks: the first one, if it counts, and the ones after it. Blanks around them do not count. -/
  | breaks (first : Option Char) (more : List Char)
deriving Repr, DecidableEq, Inhabited

namespace Gap

/-- The gap with one more blank or line break. -/
def push (gap : Gap) (c : Char) : Gap :=
  if isBreak c then
    match gap with
    | .breaks first more => .breaks first (more ++ [c])
    | _ => .breaks (some c) []
  else match gap with
    | .none => .blanks [c]
    | .blanks cs => .blanks (cs ++ [c])
    | .breaks first more => .breaks first more

def folded : Gap → List Char
  | .none => []
  | .blanks cs => cs
  | .breaks first more =>
    if first == some '\n' then (if more.isEmpty then [' '] else more)
    else first.toList ++ more

/-- Whether a gap goes over the end of a line. -/
def isBroken : Gap → Bool
  | .breaks _ _ => true
  | _ => false

end Gap

/-- A scalar that was read, with what follows it. -/
structure Scanned where
  content : List Char
  mark : Mark
  rest : List Char
  /-- Whether line breaks after the scalar were read with it. -/
  pastLine : Bool := false
deriving Repr, Inhabited

/-! ### Scalars without quotes -/

/-- Whether a plain scalar ends in front of an indicator. -/
def endsPlain (inFlow : Bool) (c : Char) (rest : List Char) : Bool :=
  (c == ':' && endsWord rest)
    || (inFlow && ([',', '[', ']', '\x7b', '\x7d'].contains c || (c == '?' && endsWord rest)))

/-- Read the rest of a plain scalar whose lines are indented by at least `indent`. -/
def plainFrom (inFlow : Bool) (indent : Nat) (content : List Char) (gap : Gap) (mark : Mark) :
    List Char → Option Scanned
  | [] => some ⟨content, mark, [], gap.isBroken⟩
  | c :: rest =>
    if isBlank c || isBreak c then
      if c == '\t' && gap.isBroken && mark.column < indent then none
      else plainFrom inFlow indent content (gap.push c) (mark.after c) rest
    else
      let ends := endsPlain inFlow c rest || match gap with
        | .none => false
        | _ => c == '#' || (!inFlow && mark.column < indent)
          || (mark.column == 0 && isDocumentMark (c :: rest))
      if ends then some ⟨content, mark, c :: rest, gap.isBroken⟩
      else plainFrom inFlow indent (content ++ gap.folded ++ [c]) .none (mark.after c) rest

/-! ### Scalars in quotes -/

def shortEscape? (c : Char) : Option Char :=
  [('0', '\x00'), ('a', '\x07'), ('b', '\x08'), ('t', '\t'), ('\t', '\t'), ('n', '\n'), ('v', '\x0b'),
    ('f', '\x0c'), ('r', '\x0d'), ('e', '\x1b'), (' ', ' '), ('"', '"'), ('\'', '\''), ('\\', '\\'),
    ('N', '\u0085'), ('_', '\u00a0'), ('L', '\u2028'), ('P', '\u2029')].lookup c

/-- The value of hexadecimal digits. -/
def hexValue? (cs : List Char) : Option Nat :=
  cs.foldlM (fun n c =>
    if c.toNat < 0x80 then (Text.hexValue? (UInt8.ofNat c.toNat)).map (n * 16 + ·) else none) 0

/-- The character that an escape after its backslash stands for, and the characters that it takes. -/
def escape? : List Char → Option (Char × Nat)
  | [] => none
  | c :: rest =>
    match shortEscape? c with
    | some meaning => some (meaning, 1)
    | none => do
      let digits ← [('x', 2), ('u', 4), ('U', 8)].lookup c
      let n ← if rest.length < digits then none else hexValue? (rest.take digits)
      if (0xD800 ≤ n && n ≤ 0xDFFF) || 0x10FFFF < n then none
      some (Char.ofNat n, digits + 1)

/-- Read the rest of a quoted scalar and its closing quote. The characters that an escape takes are
counted by `skip`. -/
def quotedFrom (quote : Char) : (skip : Nat) → (content : List Char) → Gap → Mark → List Char →
    Option Scanned
  | _, _, _, _, [] => none
  | skip + 1, content, gap, mark, c :: rest =>
    quotedFrom quote skip content gap (mark.after c) rest
  | 0, content, gap, mark, c :: rest =>
    if isBlank c || isBreak c then quotedFrom quote 0 content (gap.push c) (mark.after c) rest
    else if mark.column == 0 && isDocumentMark (c :: rest) then none
    else
      let content := content ++ gap.folded
      if c == quote then
        if quote == '\'' && rest.head? == some quote then
          quotedFrom quote 1 (content ++ [quote]) .none (mark.after c) rest
        else some { content, mark := mark.after c, rest }
      else if quote == '"' && c == '\\' then
        if rest.head?.any isBreak then
          quotedFrom quote 1 content (.breaks none []) (mark.after c) rest
        else match escape? rest with
          | some (meaning, width) =>
            quotedFrom quote width (content ++ [meaning]) .none (mark.after c) rest
          | none => none
      else quotedFrom quote 0 (content ++ [c]) .none (mark.after c) rest

/-! ### Scalars in blocks of lines -/

/-- What happens to the line breaks at the end of a block. -/
inductive Chomping where
  | strip
  | clip
  | keep
deriving Repr, DecidableEq, Inhabited

/-- How a block scalar is written. -/
structure BlockHeader where
  literal : Bool
  chomping : Chomping := .clip
  /-- The indentation beyond that of the surrounding block, when it is given. -/
  indent : Option Nat := none
deriving Repr, DecidableEq, Inhabited

private def chomping? (c : Char) : Option Chomping :=
  if c == '+' then some .keep else if c == '-' then some .strip else none

/-- Read the indicators of a block scalar after its first character; the indentation is not zero. -/
def BlockHeader.read? (literal : Bool) (cs : List Char) : Option (BlockHeader × List Char) :=
  let takeIndent := fun (h : BlockHeader) (cs : List Char) => match cs with
    | c :: rest =>
      if c == '0' then none
      else if c.isDigit then some ({ h with indent := some (c.toNat - 0x30) }, rest)
      else some (h, cs)
    | [] => some (h, cs)
  let takeChomping := fun (h : BlockHeader) (cs : List Char) => match cs with
    | c :: rest => match chomping? c with
      | some chomping => ({ h with chomping }, rest)
      | none => (h, cs)
    | [] => (h, cs)
  if (cs.head?.bind chomping?).isSome then
    let (h, rest) := takeChomping { literal } cs
    takeIndent h rest
  else (takeIndent { literal } cs).map fun (h, rest) => takeChomping h rest

/-- A line of a text with the break at its end, if there is one. -/
structure Line where
  content : List Char
  ending : Option Char
deriving Repr, DecidableEq, Inhabited

/-- The lines of a text, the last one without a break. -/
def linesOf : List Char → List Line
  | [] => [⟨[], none⟩]
  | c :: rest =>
    if isBreak c then ⟨[], some c⟩ :: linesOf rest
    else match linesOf rest with
      | [] => [⟨[c], none⟩]
      | line :: lines => { line with content := c :: line.content } :: lines

/-- The text of several lines. -/
def ofLines (lines : List Line) : List Char :=
  lines.flatMap fun l => l.content ++ l.ending.toList

def Line.spaces (l : Line) : Nat :=
  (l.content.takeWhile (· == ' ')).length

/-- Whether a line has only spaces in front of its break. -/
def Line.isEmpty (l : Line) : Bool :=
  l.ending.isSome && l.spaces == l.content.length

/-- The deepest indentation down to and including the first line with content. -/
def leadingIndent : List Line → Nat
  | [] => 0
  | l :: lines => if l.isEmpty then max l.spaces (leadingIndent lines) else l.spaces

/-- Whether a tab stands where the indentation is still being looked for. -/
def hasLeadingTab : List Line → Bool
  | [] => false
  | l :: lines =>
    if l.isEmpty then hasLeadingTab lines else (l.content.drop l.spaces).head? == some '\t'

/-- A block scalar while its lines are read. -/
structure BlockState where
  content : List Char := []
  /-- The break of the last line with content. -/
  ending : List Char := []
  /-- The breaks of the empty lines after it. -/
  empty : List Char := []
  /-- Whether the last line with content began with a blank. -/
  wasBlank : Bool := false
deriving Repr, Inhabited

/-- The state after one more line with content. A single break between two lines that do not begin with
a blank reads as a space when the block is folded. -/
def BlockState.push (s : BlockState) (literal : Bool) (content : List Char) (ending : Option Char) :
    BlockState :=
  let blank := content.head?.any isBlank
  let joined :=
    if !literal && !s.wasBlank && !blank && s.ending == ['\n'] then
      (if s.empty.isEmpty then [' '] else [])
    else s.ending
  { content := s.content ++ joined ++ s.empty ++ content
    ending := ending.toList, empty := [], wasBlank := blank }

/-- Read the lines of a block scalar with a known indentation: the block and the lines after it, of which
the first one has lost its spaces. -/
def blockLines (literal : Bool) (indent : Nat) (s : BlockState) :
    List Line → Option (BlockState × List Line)
  | [] => some (s, [])
  | l :: lines =>
    let spaces := min l.spaces indent
    let content := l.content.drop spaces
    if spaces < indent && content.head? == some '\t' then none
    else if content.isEmpty then
      match l.ending with
      | some c => blockLines literal indent { s with empty := s.empty ++ [c] } lines
      | none => some (s, { l with content } :: lines)
    else if spaces == indent then
      blockLines literal indent (s.push literal content l.ending) lines
    else some (s, { l with content } :: lines)

/-- The content of a block, with what is left of its last line breaks. -/
def BlockState.chomped (s : BlockState) (chomping : Chomping) : List Char :=
  match chomping with
  | .strip => s.content
  | .clip => s.content ++ s.ending
  | .keep => s.content ++ s.ending ++ s.empty

/-- Read a block scalar after its first character. Its lines are indented by what the header says beyond
the surrounding block, or else like its first line with content. -/
def blockFrom (literal : Bool) (outer : Option Nat) (mark : Mark) (cs : List Char) : Option Scanned := do
  let (header, rest) ← BlockHeader.read? literal cs
  let rest := rest.dropWhile isBlank
  let rest := if rest.head? == some '#' then rest.dropWhile fun c => !isBreak c else rest
  if !endsLine rest then none
  let lines := linesOf (rest.drop 1)
  let indent ← match header.indent with
    | some n => some (outer.getD 0 + n)
    | none =>
      if hasLeadingTab lines then none
      else some (max (leadingIndent lines) (max ((outer.map (· + 1)).getD 0) 1))
  let (s, lines) ← blockLines literal indent {} lines
  let left := ofLines lines
  return { content := s.chomped header.chomping
           mark := mark.past (cs.take (cs.length - left.length)), rest := left }

end SystemLoops.Format.Yaml
