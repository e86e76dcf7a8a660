/-
  KindSeq.Source.Grammar.Item

  Functions, constants, traits, implementations and the other items.
-/

import KindSeq.Source.Grammar.Definition

namespace KindSeq.Source.Grammar

open TreeParser

/-! ## Functions -/

/-- Whether the receiver of a method comes next. -/
def seesReceiver : TreeParser Bool :=
  ahead do
    if ← accept (.op "&") then
      let _ ← accept .lifetime
    let _ ← accept (.word "mut")
    return (← sees (.word "self")) && !(← sees2 (.op "::"))

/-- The receiver of a method; it has a type only if it is no reference. -/
def receiver (self : Rules) : TreeParser Unit := do
  let isRef ← accept (.op "&")
  if isRef then
    let _ ← accept .lifetime
  let _ ← accept (.word "mut")
  expect (.word "self")
  if !isRef && (← sees (.op ":")) then
    skip 1
    self.type

/-- A parameter of a function that is no receiver. One that is only a type gets a
    blank for its name. The answer is whether it stands for any further ones. -/
def fnParam (self : Rules) : TreeParser Bool := do
  if (← sees .name) && (← sees2 (.op "<")) then
    write [.ident "_", .punct ':' false]
    self.type
    return false
  else
    if !(← sees (.op "...")) then
      let _ ← self .pattern
      expect (.op ":")
    if ← accept (.op "...") then return true
    self.type
    return false

/-- The parameters of a function, with the receiver first. Further ones that are
    not named come last. -/
def fnParams (self : Rules) : (n : Nat) → (first : Bool) → TreeParser Unit
  | 0, _ => failure
  | n + 1, first => do
    if ← atEnd then return ()
    attributes self
    let further ←
      if ← seesReceiver then
        if first then receiver self else failure
        pure false
      else fnParam self
    if ← atEnd then return ()
    expect (.op ",")
    if further then return () else fnParams self n false

/-- Whether a function comes next, from its modifiers on. -/
def seesSignature (safe : Bool) : TreeParser Bool :=
  ahead do
    let _ ← accept (.word "const")
    let _ ← accept (.word "async")
    if safe && (← sees (.word "safe")) then skip 1
    else
      let _ ← accept (.word "unsafe")
    abi
    sees (.word "fn")

/-- A function up to its body; the answer is whether it is marked as safe, which
    only some places allow. -/
def signature (self : Rules) (safe : Bool) : TreeParser Bool := do
  let _ ← accept (.word "const")
  let _ ← accept (.word "async")
  let isUnsafe ← accept (.word "unsafe")
  let isSafe := safe && !isUnsafe && (← sees (.word "safe"))
  if isSafe then skip 1
  abi
  expect (.word "fn")
  expect .name
  let _ ← generics self
  within .paren (do fnParams self ((← get).rest.length + 1) true)
  returnType self true
  let _ ← whereClause self
  return isSafe

/-- The body of a function, or a semicolon in its place; the answer is whether
    there is a body. -/
def fnBody (self : Rules) : TreeParser Bool := do
  if ← accept (.op ";") then return false
  else
    attributedBlock self
    return true

/-! ## Constants and types -/

/-- What a constant or a type alias has besides its name. -/
structure DeclForm where
  /-- Parameters or a where clause of a constant, bounds of a type. -/
  extended : Bool
  /-- A value or a definition. -/
  defined : Bool

/-- A constant. -/
def constItem (self : Rules) : TreeParser DeclForm := do
  expect (.word "const")
  if ← sees (.word "_") then skip 1 else expect .name
  let generic ← sees (.op "<")
  let _ ← generics self
  expect (.op ":")
  self.type
  let defined ← accept (.op "=")
  if defined then self.expr
  let constrained ← sees (.word "where")
  let _ ← whereClause self
  expect (.op ";")
  return { extended := generic || constrained, defined }

/-- A static; the answer is whether it is not analysed, since its type or its
    value is missing. -/
def staticItem (self : Rules) : TreeParser Bool := do
  expect (.word "static")
  let _ ← accept (.word "mut")
  expect .name
  let typed ← accept (.op ":")
  if typed then self.type
  let defined ← if typed then accept (.op "=") else do expect (.op "="); pure true
  if defined then self.expr
  expect (.op ";")
  return !typed || !defined

/-- Where a type alias can have its where clause. -/
inductive WherePlace where
  | beforeDefinition
  | behindDefinition
  | either
  deriving DecidableEq

/-- A type alias or an associated type. -/
def aliasItem (self : Rules) (place : WherePlace) : TreeParser DeclForm := do
  expect (.word "type")
  expect .name
  let _ ← generics self
  let extended ← sees (.op ":")
  let _ ← optionalBounds (boundsUpTo self true (seesAny [.word "where", .op "=", .op ";"]))
  let early := place != .behindDefinition && (← sees (.word "where"))
  if early then
    let _ ← whereClause self
  let defined ← accept (.op "=")
  if defined then self.type
  if place != .beforeDefinition && !early then
    let _ ← whereClause self
  expect (.op ";")
  return { extended, defined }

/-! ## Parts of other items -/

/-- A macro call in the place of an item. -/
def macroItem : TreeParser Unit := do
  plainPath
  let d ← macroCall
  if d != .brace then expect (.op ";")

/-- Parts in braces, behind attributes of what holds them. One that answers so is
    not analysed. -/
def parts (self : Rules) (part : TreeParser Bool) : TreeParser Unit :=
  within .brace do
    innerAttributes self
    repeating do
      if ← atEnd then return false
      let _ ← keeping id part
      return true

/-- A part of a trait; the answer is whether it is not analysed. -/
def traitPart (self : Rules) : TreeParser Bool := do
  attributes self
  let isPublic ← sees (.word "pub")
  visibility
  let isDefault ← accept (.word "default")
  let marked := isPublic || isDefault
  if ← seesSignature false then
    let _ ← signature self false
    let _ ← fnBody self
    return marked
  else if ← sees (.word "const") then
    let form ← constItem self
    return marked || form.extended
  else if ← sees (.word "type") then
    let _ ← aliasItem self .behindDefinition
    return marked
  else if marked then failure
  else
    macroItem
    return false

/-- A part of an implementation; the answer is whether it is not analysed. -/
def implPart (self : Rules) : TreeParser Bool := do
  attributes self
  let isPublic ← sees (.word "pub")
  visibility
  let isDefault := (← sees (.word "default")) && !(← sees2 (.op "!"))
  if isDefault then skip 1
  if ← seesSignature false then
    let _ ← signature self false
    return !(← fnBody self)
  else if ← sees (.word "const") then
    let form ← constItem self
    return form.extended || !form.defined
  else if ← sees (.word "type") then
    let form ← aliasItem self .behindDefinition
    return form.extended || !form.defined
  else if isPublic || isDefault then failure
  else
    macroItem
    return false

/-- A part that other code provides; the answer is whether it is not analysed. -/
def foreignPart (self : Rules) : TreeParser Bool := do
  attributes self
  let isPublic ← sees (.word "pub")
  visibility
  if ← seesSignature true then
    let isSafe ← signature self true
    let hasBody ← fnBody self
    return isSafe || hasBody
  else if (← sees (.word "static"))
      || ((← seesAny [.word "unsafe", .word "safe"]) && (← sees2 (.word "static"))) then
    let marked ← seesAny [.word "unsafe", .word "safe"]
    if marked then skip 1
    expect (.word "static")
    let _ ← accept (.word "mut")
    expect .name
    expect (.op ":")
    self.type
    let defined ← accept (.op "=")
    if defined then self.expr
    expect (.op ";")
    return marked || defined
  else if ← sees (.word "type") then
    let form ← aliasItem self .either
    return form.extended || form.defined
  else if isPublic then failure
  else
    macroItem
    return false

/-! ## Other items -/

/-- Imports in braces. Where `roots` holds, one of them can start at the root; the
    answer is whether one does, and the imports are not analysed then. -/
def useBranches (tree : (roots : Bool) → TreeParser Bool) (roots : Bool) :
    (n : Nat) → TreeParser Bool
  | 0 => failure
  | n + 1 => do
    if ← atEnd then return false
    let rooted := roots && (← sees (.op "::"))
    if rooted then skip 2
    let inside ← tree (roots && !rooted)
    if ← atEnd then return rooted || inside
    expect (.op ",")
    let more ← useBranches tree roots n
    return rooted || inside || more

/-- A tree of imports, nested to a depth. -/
def useTree : (depth : Nat) → (roots : Bool) → TreeParser Bool
  | 0, _ => failure
  | n + 1, roots => do
    if ← sees (.group .brace) then
      within .brace (do useBranches (useTree n) roots ((← get).rest.length + 1))
    else if ← accept (.op "*") then return false
    else
      if ← seesAny [.name, .word "self", .word "super", .word "crate", .word "try"] then skip 1
      else failure
      if ← accept (.op "::") then useTree n false
      else
        if ← accept (.word "as") then
          if ← sees (.word "_") then skip 1 else expect .name
        return false

/-- Imports; the answer is whether they are not analysed. -/
def useItem : TreeParser Bool := do
  expect (.word "use")
  let rooted ← accept (.op "::")
  let kept ← useTree (Tree.sizes (← get).rest + 1) (!rooted)
  expect (.op ";")
  return kept

/-- An implementation; the answer is whether it is not analysed, since it has
    marks that only other items have, or is for something that is no trait. One
    without a trait cannot be negative. -/
def implItem (self : Rules) : TreeParser Bool := do
  let _ ← accept (.word "default")
  let _ ← accept (.word "unsafe")
  expect (.word "impl")
  if ← seesParams then
    let _ ← generics self
  let conditional := (← sees (.op "?")) && (← sees2 (.word "const"))
  if conditional then skip 1
  let isConst ← accept (.word "const")
  let negative := (← sees (.op "!")) && !(← sees2 (.group .brace))
  if negative then skip 1
  let first ← self (.type true)
  let hasTrait ← accept (.word "for")
  if hasTrait then self.type
  else if negative then failure
  let _ ← whereClause self
  parts self (implPart self)
  let isPath : Bool :=
    match first with
    | .path _ => true
    | _ => false
  return isConst || (hasTrait && !isPath)

/-- A trait behind its name and parameters. -/
def traitRest (self : Rules) : TreeParser Unit := do
  let stops : TreeParser Bool := seesAny [.word "where", .group .brace]
  let _ ← optionalBounds (boundsUpTo self true stops)
  let _ ← whereClause self
  parts self (traitPart self)

/-- A trait, or another name for bounds if nothing marks it. -/
def traitItem (self : Rules) : TreeParser Unit := do
  let isUnsafe ← accept (.word "unsafe")
  let isAuto ← accept (.word "auto")
  expect (.word "trait")
  expect .name
  let _ ← generics self
  if !isUnsafe && !isAuto && (← sees (.op "=")) then
    skip 1
    boundsUpTo self false (seesAny [.word "where", .op ";"])
    let _ ← whereClause self
    expect (.op ";")
  else traitRest self

/-- A module. -/
def moduleItem (self : Rules) : TreeParser Unit := do
  let _ ← accept (.word "unsafe")
  expect (.word "mod")
  if ← sees (.word "try") then skip 1 else expect .name
  if ← accept (.op ";") then return ()
  else
    within .brace do
      innerAttributes self
      repeating do
        if ← atEnd then return false
        self .item
        return true

/-- Another library, under a name. -/
def libraryItem : TreeParser Unit := do
  expect (.word "extern")
  expect (.word "crate")
  if ← seesAny [.name, .word "self"] then skip 1 else failure
  if ← accept (.word "as") then
    if ← sees (.word "_") then skip 1 else expect .name
  expect (.op ";")

/-- Declarations of what other code provides. -/
def foreignItem (self : Rules) : TreeParser Unit := do
  let _ ← accept (.word "unsafe")
  if ← sees (.word "extern") then abi else failure
  parts self (foreignPart self)

/-- A definition of a macro. -/
def macroDefinition : TreeParser Unit := do
  expect (.word "macro")
  expect .name
  let _ ← accept (.group .paren)
  expect (.group .brace)

/-- A macro call in the place of an item, with a name behind its mark or not. -/
def namedMacroItem : TreeParser Unit := do
  plainPath
  expect (.op "!")
  if ← seesAny [.name, .word "try"] then skip 1
  let d ← anyGroup
  if d != .brace then expect (.op ";")

/-- An item behind its visibility that starts with a mark which several kinds of
    items have; the answer is whether it is not analysed. -/
def unsafeItem (self : Rules) (isPublic : Bool) : TreeParser Bool := do
  if (← sees2 (.word "trait")) || ((← sees2 (.word "auto")) && (← sees3 (.word "trait"))) then
    traitItem self
    return false
  else if ← sees2 (.word "impl") then
    let kept ← implItem self
    return kept || isPublic
  else if (← sees2 (.word "extern")) && !isPublic then
    foreignItem self
    return false
  else
    moduleItem self
    return false

/-- An item behind its visibility; the answer is whether it is not analysed. -/
def itemBody (self : Rules) (isPublic : Bool) : TreeParser Bool := do
  if ← seesSignature false then
    let _ ← signature self false
    return !(← fnBody self)
  else if ← sees (.word "extern") then
    if ← sees2 (.word "crate") then libraryItem
    else if isPublic then failure
    else foreignItem self
    return false
  else if ← sees (.word "use") then useItem
  else if ← sees (.word "static") then staticItem self
  else if ← sees (.word "const") then
    let form ← constItem self
    return form.extended || !form.defined
  else if ← sees (.word "unsafe") then unsafeItem self isPublic
  else if ← sees (.word "mod") then
    moduleItem self
    return false
  else if ← sees (.word "type") then
    let form ← aliasItem self .beforeDefinition
    return form.extended || !form.defined
  else if (← seesAny [.word "struct", .word "enum"])
      || ((← sees (.word "union")) && (← sees2 .name)) then
    let _ ← typeItem self
    return false
  else if (← sees (.word "trait")) || ((← sees (.word "auto")) && (← sees2 (.word "trait"))) then
    traitItem self
    return false
  else if (← sees (.word "impl")) || ((← sees (.word "default")) && !(← sees2 (.op "!"))) then
    let kept ← implItem self
    return kept || isPublic
  else if ← sees (.word "macro") then
    macroDefinition
    return true
  else if isPublic then failure
  else
    namedMacroItem
    return false

/-- An item with its attributes and visibility. -/
def item (self : Rules) : TreeParser Unit := do
  let _ ← keeping id do
    attributes self
    let isPublic ← sees (.word "pub")
    visibility
    itemBody self isPublic

end KindSeq.Source.Grammar
