/-
  KindSeq.Source.Grammar.Path

  Attributes, lists in angle brackets, and paths with their arguments.
-/

import KindSeq.Source.Grammar.Goal

namespace KindSeq.Source.Grammar

open TreeParser

/-! ## Attributes -/

/-- Words that can stand in a path besides names. -/
def pathWords : List Mark := [.word "super", .word "self", .word "Self", .word "crate"]

/-- A path of words only. -/
def plainPath : TreeParser Unit := do
  let _ ← accept (.op "::")
  repeating do
    if ← seesAny (.name :: pathWords) then
      skip 1
      accept (.op "::")
    else failure

/-- The inside of an attribute. A value that is more than a literal does not
    start with an attribute of its own. -/
def attributeBody (self : Rules) : TreeParser Unit := do
  if ← sees (.word "unsafe") then skip 1 else plainPath
  if ← seesAny [.group .paren, .group .bracket, .group .brace] then skip 1
  else if ← accept (.op "=") then
    if (← sees (.op "#")) && (← sees2 (.group .bracket)) then failure
    self.expr

/-- Attributes of what follows. -/
def attributes (self : Rules) : TreeParser Unit :=
  repeating do
    if ← accept (.op "#") then
      within .bracket (attributeBody self)
      return true
    else return false

/-- What follows the attributes at the start of some trees. -/
def behindAttributes : List Tree → List Tree
  | .punct '#' _ :: .group .bracket _ :: ts => behindAttributes ts
  | ts => ts

/-- Attributes of what encloses them. -/
def innerAttributes (self : Rules) : TreeParser Unit :=
  repeating do
    if (← sees (.op "#")) && (← sees2 (.op "!")) then
      skip 2
      within .bracket (attributeBody self)
      return true
    else return false

/-- A block that can start with attributes of its own. -/
def attributedBlock (self : Rules) : TreeParser Unit :=
  within .brace do
    innerAttributes self
    self .statements

/-! ## Lists in angle brackets -/

/-- An element of a list in angle brackets: its value, its trees, and whether a
    comma follows. -/
structure Entry (α : Type) where
  value : α
  text : List Tree
  comma : Bool

/-- The elements up to the closing bracket, without an echo. -/
def entries {α : Type} (item : TreeParser α) : (n : Nat) → TreeParser (List (Entry α))
  | 0 => failure
  | n + 1 => do
    if ← sees (.op ">") then return []
    let (value, text) ← apart item
    if ← sees (.op ">") then return [⟨value, text, false⟩]
    silently (expect (.op ","))
    return ⟨value, text, true⟩ :: (← entries item n)

/-- A list as it is written out: lifetimes come first, and a comma is put in where
    one is missing then. -/
def arrange {α : Type} (isLifetime : α → Bool) (es : List (Entry α)) : List Tree :=
  let comma := Tree.punct ',' false
  let written := es.filter (isLifetime ·.value) ++ es.filter (! isLifetime ·.value)
  let put (state : List Tree × Bool) (e : Entry α) : List Tree × Bool :=
    let gap := if state.2 || isLifetime e.value then [] else [comma]
    (state.1 ++ gap ++ e.text ++ (if e.comma then [comma] else []), e.comma)
  (written.foldl put ([], true)).1

/-! ## Arguments -/

/-- A constant argument: a literal, a name or a block. -/
def constArgument (self : Rules) : TreeParser Unit := do
  if ← accept .literal then return ()
  else if ← accept .name then return ()
  else attributedBlock self

/-- Bounds with plus signs between them up to one of the stops. -/
def boundsUpTo (self : Rules) (consts : Bool) (stops : TreeParser Bool) : TreeParser Unit :=
  repeating do
    if ← stops then return false
    let _ ← self (.bound false consts)
    accept (.op "+")

/-- One argument; the answer is whether it is a lifetime. -/
def argument (self : Rules) : TreeParser Bool := do
  if (← sees .lifetime) && !(← sees2 (.op "+")) then
    expect .lifetime
    return true
  else if (← sees .literal) || (← sees (.group .brace)) then
    constArgument self
    return false
  else
    if (← self (.type true)) = .path true then
      if ← accept (.op "=") then
        if (← sees .literal) || (← sees (.group .brace)) then constArgument self else self.type
      else if ← accept (.op ":") then
        boundsUpTo self true (seesAny [.op ",", .op ">"])
    return false

/-- Arguments in angle brackets, with a path separator before them or not. -/
def arguments (self : Rules) : TreeParser Bool := do
  let _ ← accept (.op "::")
  expect (.op "<")
  let args ← entries (argument self) ((← get).rest.length + 1)
  write (arrange id args)
  expect (.op ">")
  return ! args.isEmpty

/-- Whether a list in angle brackets at the start of some trees declares
    parameters, rather than naming a type that a path starts with. -/
def declaresParams (ts : List Tree) : Bool :=
  let second := behind ts
  let third := behind second
  (Mark.op "<").holds ts
    && ((Mark.op ">").holds second || (Mark.op "#").holds second || (Mark.word "const").holds second
      || ((Mark.lifetime.holds second || Mark.name.holds second)
        && ((Mark.op ">").holds third || (Mark.op ",").holds third || (Mark.op "=").holds third
          || ((Mark.op ":").holds third && !(Mark.op "::").holds third))))

/-- Whether parameters are declared next. -/
def seesParams : TreeParser Bool := return declaresParams (← get).rest

/-- Whether parameters are declared behind the next word. -/
def seesParamsBehind : TreeParser Bool := return declaresParams (behind (← get).rest)

/-! ## Paths -/

/-- What arguments a segment of a path has. -/
inductive SegmentArgs where
  | none
  | empty
  | some
  deriving DecidableEq

/-- What other rules ask of a path. -/
structure PathForm where
  /-- Whether it starts with a type in angle brackets. -/
  qualified : Bool := false
  /-- Whether it starts with a separator. -/
  leading : Bool := false
  segments : Nat := 1
  /-- Whether no segment has arguments. -/
  plain : Bool := true
  last : SegmentArgs := .none

/-- Whether an opening angle bracket comes next that is no part of an operator. -/
def seesOpening : TreeParser Bool := do
  return (← sees (.op "<")) && !(← seesAny [.op "<=", .op "<<="])

/-- A segment of a path. In an expression, arguments need a separator. -/
def segment (self : Rules) (inExpr : Bool) : TreeParser SegmentArgs := do
  if ← seesAny [.word "super", .word "self", .word "crate", .word "try"] then
    skip 1
    return .none
  else
    if ← sees (.word "Self") then skip 1 else expect .name
    if (!inExpr && (← seesOpening)) || ((← sees (.op "::")) && (← sees3 (.op "<"))) then
      return if ← self .arguments then .some else .empty
    else return .none

/-- The further segments of a path, up to arguments in parentheses. -/
def moreSegments (self : Rules) (inExpr : Bool) : (n : Nat) → PathForm → TreeParser PathForm
  | 0, _ => failure
  | n + 1, form => do
    if (← sees (.op "::")) && !(← sees3 (.group .paren)) then
      expect (.op "::")
      let args ← segment self inExpr
      moreSegments self inExpr n
        { form with segments := form.segments + 1, plain := form.plain && args = .none, last := args }
    else return form

/-- A path that does not start with a type. -/
def path (self : Rules) (inExpr : Bool) : TreeParser PathForm := do
  let leading ← accept (.op "::")
  let args ← segment self inExpr
  let form : PathForm := { leading, plain := args = .none, last := args }
  moreSegments self inExpr ((← get).rest.length + 1) form

/-- A path, which can start with a type in angle brackets. -/
def qualifiedPath (self : Rules) (inExpr : Bool) : TreeParser PathForm := do
  if ← sees (.op "<") then
    expect (.op "<")
    self.type
    if ← accept (.word "as") then
      let _ ← path self false
    expect (.op ">")
    expect (.op "::")
    let args ← segment self inExpr
    let form : PathForm := { qualified := true, plain := false, last := args }
    let rec more : (n : Nat) → PathForm → TreeParser PathForm
      | 0, _ => failure
      | n + 1, form => do
        if ← accept (.op "::") then
          let args ← segment self inExpr
          more n { form with segments := form.segments + 1, last := args }
        else return form
    more ((← get).rest.length + 1) form
  else path self inExpr

/-- The rest of a macro call behind its path. -/
def macroCall : TreeParser Delim := do
  expect (.op "!")
  anyGroup

/-- Whether a macro call goes on behind a path. -/
def seesMacro (form : PathForm) : TreeParser Bool :=
  return !form.qualified && form.plain && (← sees (.op "!")) && !(← sees (.op "!="))

/-- Whether a form that only the compiler knows comes next. -/
def seesBuiltin : TreeParser Bool := return (← sees (.word "builtin")) && (← sees2 (.op "#"))

/-- A form that only the compiler knows: its name and anything in parentheses. -/
def builtinForm : TreeParser Unit := do
  expect (.word "builtin")
  expect (.op "#")
  expect .name
  expect (.group .paren)

/-- Who can see an item. -/
def visibility : TreeParser Unit := do
  if ← accept (.word "pub") then
    match (← get).rest with
    | .group .paren [.ident w] :: _ =>
      if ["crate", "self", "super"].contains w then skip 1
    | .group .paren (.ident "in" :: _) :: _ =>
      within .paren do
        skip 1
        plainPath
    | _ => return ()

end KindSeq.Source.Grammar
