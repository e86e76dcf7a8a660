/-
  KindSeq.Source.Grammar.Type

  Types, bounds, generic parameters and where clauses.
-/

import KindSeq.Source.Grammar.Path

namespace KindSeq.Source.Grammar

open TreeParser

/-! ## Parameters -/

/-- A type parameter, with the trees that it is spelled with. -/
structure TypeParam where
  attributes : List Tree := []
  name : String
  bounds : List Tree := []
  default? : Option (List Tree) := none

/-- A generic parameter, as far as it has to be written out again. -/
inductive Param where
  | lifetime
  | const
  | type (p : TypeParam)

def Param.isLifetime : Param → Bool
  | .lifetime => true
  | _ => false

/-- Bounds behind a colon; a colon with nothing behind it is dropped. -/
def optionalBounds (bounds : TreeParser Unit) : TreeParser (List Tree) := do
  if ← sees (.op ":") then
    let (_, colon) ← apart (expect (.op ":"))
    let (_, text) ← apart bounds
    unless text.isEmpty do write (colon ++ text)
    return text
  else return []

/-- Lifetimes with plus signs between them up to one of the stops. -/
def lifetimesUpTo (stops : TreeParser Bool) : TreeParser Unit :=
  repeating do
    if ← stops then return false
    expect .lifetime
    accept (.op "+")

/-- The default of a type parameter. -/
def paramDefault (self : Rules) : TreeParser (Option (List Tree)) := do
  if ← accept (.op "=") then
    let (_, type) ← recorded self.type
    return some type
  else return none

/-- A generic parameter; where `blanks` holds, one without a name is allowed. -/
def param (self : Rules) (blanks : Bool) : TreeParser Param := do
  let (_, attributes) ← recorded (attributes self)
  if ← accept .lifetime then
    let _ ← optionalBounds (lifetimesUpTo (seesAny [.op ",", .op ">"]))
    return .lifetime
  else if ← accept (.word "const") then
    expect .name
    expect (.op ":")
    self.type
    if ← accept (.op "=") then constArgument self
    return .const
  else if blanks && (← sees (.word "_")) then
    skip 1
    return .type { attributes, name := "_" }
  else
    let name ← name
    let bounds ← optionalBounds (boundsUpTo self true (seesAny [.op ",", .op ">", .op "="]))
    let default? ← paramDefault self
    return .type { attributes, name, bounds, default? }

/-- Generic parameters in angle brackets. There can be none, and then brackets
    around nothing are dropped. -/
def generics (self : Rules) : TreeParser (List Param) := do
  if ← sees (.op "<") then
    let (_, opening) ← apart (expect (.op "<"))
    let ps ← entries (param self true) ((← get).rest.length + 1)
    let (_, closing) ← apart (expect (.op ">"))
    unless ps.isEmpty do write (opening ++ arrange Param.isLifetime ps ++ closing)
    return ps.map (·.value)
  else return []

/-! ## Bounds -/

/-- The parameters that a bound or a type is for; the answer is whether there are
    any. -/
def boundLifetimes (self : Rules) : TreeParser Bool := do
  if ← accept (.word "for") then
    expect (.op "<")
    separated (.op ",") (sees (.op ">")) do
      let _ ← param self false
    expect (.op ">")
    return true
  else return false

/-- A return type; there can be none. -/
def returnType (self : Rules) (plus : Bool) : TreeParser Unit := do
  if ← accept (.op "->") then
    let _ ← self (.type plus)

/-- What has been read, last first, without the empty list of arguments that it
    ends with. -/
def dropEmptyArguments : List Tree → List Tree
  | .punct '>' _ :: .punct '<' _ :: .punct ':' _ :: .punct ':' _ :: ts => ts
  | .punct '>' _ :: .punct '<' _ :: ts => ts
  | ts => ts

/-- The name of a trait, with arguments in parentheses and a return type where its
    last segment has no others. They stand directly behind the segment: a
    separator or empty angle brackets before them are dropped. -/
def traitPath (self : Rules) : TreeParser Unit := do
  let form ← path self false
  if form.last != .some
      && ((← sees (.group .paren)) || ((← sees (.op "::")) && (← sees3 (.group .paren)))) then
    if form.last = .empty then modify fun c => { c with echo := dropEmptyArguments c.echo }
    let _ ← silently (accept (.op "::"))
    within .paren (commas self.type)
    returnType self false

/-- A trait with its modifiers; the answer is whether it is marked as constant,
    which only some places allow. A bound that can be given up is not for all
    lifetimes. -/
def traitBound (self : Rules) (consts : Bool) : TreeParser Bool := do
  let early ← boundLifetimes self
  let conditional ← sees (.group .bracket)
  if conditional then within .bracket (expect (.word "const"))
  let always ← if conditional then pure false else accept (.word "const")
  let isConst := conditional || always
  if isConst && !consts then failure
  let maybe ← accept (.op "?")
  let late ← if maybe && !early then boundLifetimes self else pure false
  if maybe && (early || late) then failure
  traitPath self
  return isConst

/-- The parameters that a type captures. -/
def captures : TreeParser Unit := do
  expect (.word "use")
  expect (.op "<")
  let param : TreeParser Bool := do
    if ← accept .lifetime then return true
    else
      if ← sees (.word "Self") then skip 1 else expect .name
      return false
  let params ← entries param ((← get).rest.length + 1)
  write (arrange id params)
  expect (.op ">")

/-- A bound; the answer is whether it is a trait. One that is marked as constant
    is not analysed. -/
def bound (self : Rules) (capturing consts : Bool) : TreeParser Bool := do
  if ← accept .lifetime then return false
  else if ← sees (.word "use") then
    captures
    if capturing then return false else failure
  else
    let _ ← keeping id do
      if ← sees (.group .paren) then within .paren (traitBound self consts)
      else traitBound self consts
    return true

/-- What a further bound can start with. -/
def boundStarts (consts : Bool) : List Mark :=
  [.anyWord, .op "::", .op "?", .lifetime, .group .paren]
    ++ (if consts then [.group .bracket] else [])

/-- At least one bound, with plus signs between them where `plus` holds. One of
    them has to be a trait. -/
def bounds (self : Rules) (plus capturing consts : Bool) : TreeParser Unit := do
  let rec more : (n : Nat) → (traits : Bool) → TreeParser Bool
    | 0, _ => failure
    | n + 1, traits => do
      let isTrait ← self (.bound capturing consts)
      let traits := traits || isTrait
      if plus && (← sees (.op "+")) then
        expect (.op "+")
        if ← seesAny (boundStarts consts) then more n traits else return traits
      else return traits
  if ← more ((← get).rest.length + 1) false then return () else failure

/-- The bounds of an object type. -/
def objectBounds (self : Rules) (plus : Bool) : TreeParser Unit := bounds self plus false false

/-- Further bounds behind the first, each after a plus sign. -/
def plusBounds (self : Rules) : TreeParser Unit :=
  repeating do
    if ← accept (.op "+") then
      let _ ← self (.bound false false)
      return true
    else return false

/-! ## Types -/

/-- The inside of parentheses in the place of a type. -/
inductive ParenForm where
  | unit
  | tuple
  | object
  /-- A bound that can be given up. -/
  | maybe
  | single (form : TypeForm)

/-- The inside of parentheses in the place of a type. -/
def parenType (self : Rules) : TreeParser ParenForm := do
  if ← atEnd then return .unit
  else if ← sees .lifetime then
    objectBounds self true
    return .object
  else if ← sees (.op "?") then
    let _ ← traitBound self false
    return .maybe
  else
    let form ← self (.type true)
    if ← accept (.op ",") then
      commas self.type
      return .tuple
    else return .single form

/-- A parameter of a function type; the answer is whether it is a mutable receiver,
    which only the first can be and which is not analysed. -/
def fnTypeParam (self : Rules) (first : Bool) : TreeParser Bool := do
  let mutable := first && (← sees (.word "mut")) && (← sees2 (.word "self"))
  if mutable then skip 1
  let receiver := first && (← sees (.word "self"))
  let named := ((← seesAny [.name, .word "_"]) || receiver)
    && (← sees2 (.op ":")) && !(← sees2 (.op "::"))
  if named then skip 2
  if first && !(named && receiver) && (← sees (.word "mut")) && (← sees2 (.word "self")) then
    skip 2
    return true
  else if mutable && !named then
    expect (.word "self")
    return true
  else
    self.type
    return mutable

/-- The parameters of a function type. Further ones that are not named come last. -/
def fnTypeParams (self : Rules) : (n : Nat) → (first : Bool) → TreeParser Unit
  | 0, _ => failure
  | n + 1, first => do
    if ← atEnd then return ()
    attributes self
    let named := (← seesAny [.name, .word "_"]) && (← sees2 (.op ":")) && (← sees3 (.op "..."))
    if named || (← sees (.op "...")) then
      if named then skip 2
      skip 3
      let _ ← accept (.op ",")
    else
      let _ ← keeping id (fnTypeParam self first)
      if ← atEnd then return ()
      expect (.op ",")
      fnTypeParams self n false

/-- The calling convention of a function. -/
def abi : TreeParser Unit := do
  if ← accept (.word "extern") then
    match (← get).rest with
    | .literal t :: _ => if (Spelling.string? t).isSome then skip 1
    | _ => return ()

/-- A function type. -/
def fnType (self : Rules) : TreeParser Unit := do
  let _ ← accept (.word "unsafe")
  abi
  expect (.word "fn")
  within .paren (do fnTypeParams self ((← get).rest.length + 1) true)
  returnType self false

/-- A type that starts with a path, behind the parameters that it is for. A macro
    is for none. -/
def pathType (self : Rules) (plus : Bool) (binder : List Tree) : TreeParser TypeForm := do
  let (form, text) ← apart (qualifiedPath self false)
  if form.qualified then
    write text
    return .plain
  else if ← seesMacro form then
    write text
    let _ ← macroCall
    return .plain
  else
    write (binder ++ text)
    if !binder.isEmpty || (plus && (← sees (.op "+"))) then
      let start := (← get).rest.length
      if plus then
        repeating do
          if ← accept (.op "+") then
            if ← seesAny (boundStarts false) then
              let _ ← self (.bound false false)
              return true
            else return false
          else return false
      return .object ((← get).rest.length = start)
    else return .path (!form.leading && form.segments = 1)

/-- A type in parentheses, or bounds that start with one. -/
def parenthesised (self : Rules) (plus : Bool) : TreeParser TypeForm := do
  match ← within .paren (parenType self) with
  | .unit | .tuple => return .plain
  | .object => return .paren
  | .maybe =>
    plusBounds self
    return .object false
  | .single (.path _) | .single (.object true) =>
    if plus && (← sees (.op "+")) then
      plusBounds self
      return .object false
    else return .paren
  | .single _ => return .paren

/-- A type. -/
def type (self : Rules) (plus : Bool) : TreeParser TypeForm :=
  keeping (· = .kept) do
    let (isFor, binder) ← apart (boundLifetimes self)
    let starts := [.name, .word "fn", .word "unsafe", .word "extern"] ++ pathWords
    if isFor && !(← seesAny starts) then failure
    if ← sees (.group .paren) then parenthesised self plus
    else if ← seesAny [.word "fn", .word "unsafe", .word "extern"] then
      write binder
      fnType self
      return .plain
    else if ← seesBuiltin then
      builtinForm
      return .kept
    else if ← seesAny ([.name, .op "::", .op "<"] ++ pathWords) then pathType self plus binder
    else if ← accept (.word "dyn") then
      let starred ← accept (.op "*")
      objectBounds self plus
      return if starred then .kept else .plain
    else if ← sees (.group .bracket) then
      within .bracket do
        self.type
        if ← accept (.op ";") then self.expr
      return .plain
    else if ← accept (.op "*") then
      if ← accept (.word "const") then pure () else expect (.word "mut")
      self.narrowType
      return .plain
    else if ← accept (.op "&") then
      let _ ← accept .lifetime
      let _ ← accept (.word "mut")
      self.narrowType
      return .plain
    else if ← accept (.op "!") then return .plain
    else if ← accept (.word "impl") then
      bounds self plus true true
      return .plain
    else if ← accept (.word "_") then return .plain
    else if ← sees .lifetime then
      objectBounds self true
      return .object false
    else failure

/-! ## Where clauses -/

/-- Where a where clause ends. -/
def whereEnd : TreeParser Bool := do
  return (← atEnd) || (← seesAny [.group .brace, .op ",", .op ";", .op "="])
    || ((← sees (.op ":")) && !(← sees (.op "::")))

/-- One predicate of a where clause. -/
def predicate (self : Rules) : TreeParser Unit := do
  if (← sees .lifetime) && (← sees2 (.op ":")) then
    expect .lifetime
    expect (.op ":")
    lifetimesUpTo (return (← whereEnd) || (← sees (.op ":")))
  else
    let _ ← boundLifetimes self
    self.type
    expect (.op ":")
    boundsUpTo self true whereEnd

/-- The predicates of a where clause, each with its trees. -/
def predicateList (self : Rules) : (n : Nat) → TreeParser (List (List Tree))
  | 0 => failure
  | n + 1 => do
    if ← whereEnd then return []
    let (_, text) ← recorded (predicate self)
    if ← accept (.op ",") then return text :: (← predicateList self n) else return [text]

/-- A where clause. There can be none, and one without predicates is dropped. It
    does not start with parameters. -/
def whereClause (self : Rules) : TreeParser (List (List Tree)) := do
  if ← sees (.word "where") then
    let (preds, text) ← apart do
      expect (.word "where")
      if ← seesParams then failure
      predicateList self ((← get).rest.length + 1)
    unless preds.isEmpty do write text
    return preds
  else return []

end KindSeq.Source.Grammar
