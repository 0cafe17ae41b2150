import SystemLoops.Source.Parse.Cursor

namespace SystemLoops.Source.Grammar

open Parse

def withIndices (x : Expr) (lbrack : Pos) (indices : List Expr) (rbrack : Pos) : Expr :=
  .mk x.start (rbrack + 1) (.index x lbrack indices rbrack)

/-- A type name, perhaps of another package, whose first part may have been read. -/
def typeName (known : Option Ident) : Parse Expr := do
  let name ← match known with
    | some i => pure i
    | none => ident
  if ← at? .period then
    next
    let sel ← ident
    return .mk name.pos sel.finish (.selector (.ofIdent name) sel)
  else return .ofIdent name

variable (g : Grammar)

def typeInstance (x : Expr) : Parse Expr := do
  let lbrack ← expect .lbrack
  let arguments ← nested (listUntil .rbrack g.type)
  let rbrack ← expect .rbrack
  if arguments.isEmpty then refuse else return withIndices x lbrack arguments rbrack

def qualifiedName (known : Option Ident) : Parse Expr := do
  let x ← typeName known
  if ← at? .lbrack then typeInstance g x else return x

/-- The rest of an array or slice type behind its opening bracket. -/
def arrayRest (lbrack : Pos) (length : Option Expr) : Parse Expr := do
  let length ← match length with
    | some x => pure (some x)
    | none => nested do
      let item ← peek
      match item.tok with
      | .ellipsis =>
        next
        pure (some (.mk item.pos item.finish (.ellipsis none)))
      | .rbrack => pure none
      | _ => some <$> g.expr
  let _ ← expect .rbrack
  let element ← g.type
  return .mk lbrack element.finish (.arrayType length element)

/-- What follows a name and an opening bracket in a field or parameter: an array type, which leaves the
name a name, or type arguments, which make the name a type. -/
def arrayOrInstance (name : Ident) : Parse (Option Ident × Expr) := do
  let lbrack ← expect .lbrack
  let (arguments, trailing) ← nested (iterate (fun (found, afterComma) => do
    let t ← tok
    if t == .rbrack then return .inr (found, afterComma)
    let found := found ++ [← g.expr]
    if ← at? .comma then
      next
      return .inl (found, true)
    else return .inr (found, false)) (([] : List Expr), false))
  let rbrack ← expect .rbrack
  match arguments with
  | [] =>
    let element ← g.type
    return (some name, .mk lbrack element.finish (.arrayType none element))
  | [x] =>
    match ← g.type? with
    | some element =>
      if trailing then refuse
      return (some name, .mk lbrack element.finish (.arrayType (some x) element))
    | none => return (none, withIndices (.ofIdent name) lbrack [x] rbrack)
  | xs => return (none, withIndices (.ofIdent name) lbrack xs rbrack)

def structField : Parse Field := do
  let first ← peek
  let (names, type) ← match first.tok with
    | .ident => do
      let name ← ident
      match ← tok with
      | .period => pure ([], ← qualifiedName g (some name))
      | .string | .semicolon | .rbrace => pure ([], Expr.ofIdent name)
      | .lbrack =>
        let (name?, type) ← arrayOrInstance g name
        pure (name?.toList, type)
      | .comma =>
        let names ← iterate (fun found => do
          if ← at? .comma then
            next
            return .inl (found ++ [← ident])
          else return .inr found) [name]
        pure (names, ← g.type)
      | _ => pure ([name], ← g.type)
    | .mul => do
      next
      let x ← qualifiedName g none
      pure ([], Expr.mk first.pos x.finish (.star x))
    | _ => refuse
  let tag ← if ← at? .string then some <$> literal else pure none
  let comment ← endOfLine
  return .mk first.lead names type tag comment

def structType : Parse Expr := do
  let start ← expect .kwStruct
  let lbrace ← expect .lbrace
  let fields ← many (fun t => t == .ident || t == .mul || t == .lparen) (structField g)
  let rbrace ← expect .rbrace
  return .mk start (rbrace + 1) (.structType (.mk lbrace fields rbrace))

def typeTerm : Parse Expr := do
  let item ← peek
  if item.tok == .tilde then
    next
    let x ← g.type
    return .mk item.pos x.finish (.unary .tilde x)
  else g.type

/-- The terms of a type set, of which the first may have been read. -/
def typeTerms (first : Option Expr) : Parse Expr := do
  let x ← match first with
    | some x => pure x
    | none => typeTerm g
  iterate (fun (x : Expr) => do
    if ← at? .or then
      let opPos ← pos
      next
      let y ← typeTerm g
      return .inl (.mk x.start y.finish (.binary x opPos .or y))
    else return .inr x) x

/-- A type behind an ellipsis. -/
def variadic : Parse Expr := do
  let start ← expect .ellipsis
  let x ← g.type
  return .mk start x.finish (.ellipsis (some x))

/-- A parameter before names and types are told apart. -/
structure RawParam where
  name : Option Ident
  type : Option Expr

def startsType (t : Tok) : Bool :=
  [.mul, .arrow, .kwFunc, .lbrack, .kwChan, .kwMap, .kwStruct, .kwInterface, .lparen].contains t

/-- What follows the name of a parameter; the second part tells whether the parameter is complete. -/
def afterParamName (name : Ident) (typeSets : Bool) : Parse (RawParam × Bool) := do
  let t ← tok
  match t with
  | .lbrack =>
    let (name?, type) ← arrayOrInstance g name
    return (⟨name?, some type⟩, false)
  | .ellipsis => return (⟨some name, some (← variadic g)⟩, true)
  | .period => return (⟨none, some (← qualifiedName g (some name))⟩, false)
  | .tilde =>
    if typeSets then return (⟨some name, some (← typeTerms g none)⟩, true)
    else return (⟨some name, none⟩, false)
  | .or =>
    if typeSets then return (⟨none, some (← typeTerms g (some (.ofIdent name)))⟩, true)
    else return (⟨some name, none⟩, false)
  | t =>
    if t == .ident || startsType t then return (⟨some name, some (← g.type)⟩, false)
    else return (⟨some name, none⟩, false)

/-- One parameter, whose name may have been read. -/
def rawParam (known : Option Ident) (typeSets : Bool) : Parse RawParam := do
  let t ← tok
  let (param, complete) ← match known with
    | some name => afterParamName g name typeSets
    | none =>
      if typeSets && t == .tilde then pure (⟨none, some (← typeTerms g none)⟩, true)
      else if t == .ident then do
        let name ← ident
        afterParamName g name typeSets
      else if t == .ellipsis then pure (⟨none, some (← variadic g)⟩, true)
      else if startsType t then pure (⟨none, some (← g.type)⟩, false)
      else refuse
  match param.type with
  | some x =>
    if !complete && typeSets && (← at? .or) then
      return { param with type := some (← typeTerms g (some x)) }
    else return param
  | none => return param

/-- Whether a type is one behind an ellipsis. -/
def isVariadic (x : Expr) : Bool :=
  match x.shape with
  | .ellipsis _ => true
  | _ => false

/-- Fields of parameters that all have names: names share the type that follows them. -/
def namedFields : (waiting : List Ident) → List RawParam → Option (List Field)
  | [], [] => some []
  | _ :: _, [] => none
  | waiting, ⟨some name, none⟩ :: rest => namedFields (waiting ++ [name]) rest
  | waiting, ⟨some name, some type⟩ :: rest =>
    (namedFields [] rest).map (.mk none (waiting ++ [name]) type none none :: ·)
  | _, ⟨none, _⟩ :: _ => none

/-- Tell names and types of parameters apart. An ellipsis is allowed for the last parameter only, and
type parameters must have names. -/
def fieldsOf (params : List RawParam) (typeParams allowsVariadic : Bool) : Option (List Field) :=
  let named := params.any fun p => p.name.isSome && p.type.isSome
  let fields :=
    if params.isEmpty then some []
    else if named then namedFields [] params
    else if typeParams then none
    else some (params.filterMap fun p =>
      (p.type.or (p.name.map Expr.ofIdent)).map fun x => .mk none [] x none none)
  match fields with
  | none => none
  | some fields =>
    let earlier := fields.dropLast.any fun f => isVariadic f.type
    let last := match fields.getLast? with
      | some f => isVariadic f.type && (!allowsVariadic || f.names.length > 1)
      | none => false
    if earlier || last then none else some fields

/-- Parameters up to a closing mark. The first name, or the first name with its type, may have been
read. -/
def paramList (known : Option Ident) (knownType : Option Expr) (closing : Tok)
    (allowsVariadic : Bool) : Parse (List Field) := do
  let typeParams := closing == .rbrack
  let one (first : Bool) : Parse RawParam := do
    match first, knownType with
    | true, some x => return ⟨known, some (← if typeParams then typeTerms g (some x) else pure x)⟩
    | true, none => rawParam g known typeParams
    | false, _ => rawParam g none typeParams
  let params ← iterate (fun (first, found) => do
    let t ← tok
    if !(first && known.isSome) && (t == closing || t == .eof) then return .inr found
    let found := found ++ [← one first]
    if ← comma? closing then return .inl (false, found) else return .inr found)
    (true, ([] : List RawParam))
  match fieldsOf params typeParams allowsVariadic with
  | some fields => return fields
  | none => refuse

/-- Parameters in parentheses. -/
def params (allowsVariadic : Bool) : Parse FieldList := do
  let opening ← expect .lparen
  let fields ← paramList g none none .rparen allowsVariadic
  let closing ← expect .rparen
  return .mk opening fields closing

/-- Type parameters in brackets, where there are any. -/
def typeParams? : Parse (Option FieldList) := do
  if ← at? .lbrack then
    let opening ← expect .lbrack
    let fields ← paramList g none none .rbrack false
    let closing ← expect .rbrack
    if fields.isEmpty then refuse else return some (.mk opening fields closing)
  else return none

def results : Parse (Option FieldList) := do
  if ← at? .lparen then return some (← params g false)
  match ← g.type? with
  | some x => return some (.mk 0 [.mk none [] x none none] 0)
  | none => return none

def signatureEnd (params : FieldList) (results : Option FieldList) : Pos :=
  match results with
  | some r => r.finish
  | none => params.finish

def funcType : Parse FuncType := do
  let start ← expect .kwFunc
  let params ← params g true
  let results ← results g
  return .mk start (signatureEnd params results) none params results

def interfaceElement : Parse Field := do
  let first ← peek
  if first.tok != .ident then
    let x ← typeTerms g none
    let comment ← endOfLine
    return .mk none [] x none comment
  let x ← typeName none
  match x.ident?, ← tok with
  | some name, .lparen =>
    let params ← params g true
    let results ← results g
    let finish := signatureEnd params results
    let comment ← endOfLine
    return .mk first.lead [name]
      (.mk params.opening finish (.funcType (.mk params.opening finish none params results)))
      none comment
  | some _, .lbrack =>
    let lbrack ← expect .lbrack
    let argument ← nested g.expr
    let arguments ← if ← comma? .rbrack then nested (listUntil .rbrack g.type) else pure []
    let rbrack ← expect .rbrack
    let x ← typeTerms g (some (withIndices x lbrack (argument :: arguments) rbrack))
    let comment ← endOfLine
    return .mk first.lead [] x none comment
  | none, .lbrack =>
    let x ← typeInstance g x
    let x ← typeTerms g (some x)
    let comment ← endOfLine
    return .mk first.lead [] x none comment
  | _, _ =>
    let x ← typeTerms g (some x)
    let comment ← endOfLine
    return .mk first.lead [] x none comment

def interfaceType : Parse Expr := do
  let start ← expect .kwInterface
  let lbrace ← expect .lbrace
  let elements ← many (fun t => t == .ident || t == .tilde || startsType t) (interfaceElement g)
  let rbrace ← expect .rbrace
  return .mk start (rbrace + 1) (.interfaceType (.mk lbrace elements rbrace))

def mapType : Parse Expr := do
  let start ← expect .kwMap
  let _ ← expect .lbrack
  let key ← g.type
  let _ ← expect .rbrack
  let value ← g.type
  return .mk start value.finish (.mapType key value)

def chanType : Parse Expr := do
  let start ← pos
  let (arrow, direction) ← do
    if ← at? .kwChan then
      next
      if ← at? .arrow then
        let arrow ← pos
        next
        pure (arrow, Direction.send)
      else pure (0, Direction.both)
    else
      let arrow ← expect .arrow
      let _ ← expect .kwChan
      pure (arrow, Direction.receive)
  let value ← g.type
  return .mk start value.finish (.chanType arrow direction value)

/-- A type, if one starts here. -/
def typeHere? : Parse (Option Expr) := do
  let item ← peek
  match item.tok with
  | .ident => some <$> qualifiedName g none
  | .lbrack =>
    next
    some <$> arrayRest g item.pos none
  | .kwStruct => some <$> structType g
  | .mul =>
    next
    let x ← g.type
    return some (.mk item.pos x.finish (.star x))
  | .kwFunc =>
    let type ← funcType g
    return some (.mk type.start type.finish (.funcType type))
  | .kwInterface => some <$> interfaceType g
  | .kwMap => some <$> mapType g
  | .kwChan | .arrow => some <$> chanType g
  | .lparen =>
    next
    let x ← g.type
    let rparen ← expect .rparen
    return some (.mk item.pos (rparen + 1) (.paren x rparen))
  | _ => return none

end SystemLoops.Source.Grammar
