/-
  KindSeq.Source.Grammar.Definition

  Type definitions: structures, enumerations and unions.
-/

import KindSeq.Source.Grammar.Type

namespace KindSeq.Source.Grammar

open TreeParser

/-- What a type definition declares, as far as it has to be written out again. -/
structure TypeItem where
  name : String
  params : List Param
  /-- The trees of each predicate of the where clause. -/
  predicates : List (List Tree)

/-- A field with a name. One without a name can be a structure or a union of its
    own, whose fields `nested` reads and which is not analysed further. -/
def namedFieldOver (self : Rules) (nested : TreeParser Unit) : TreeParser Unit := do
  attributes self
  visibility
  if ← accept (.word "_") then
    expect (.op ":")
    if (← sees (.word "struct")) || ((← sees (.word "union")) && (← sees2 (.group .brace))) then
      let _ ← keeping id do
        skip 1
        within .brace (commas nested)
        return true
    else self.type
  else
    expect .name
    expect (.op ":")
    self.type

/-- A field with a name, with structures nested in it to a depth. -/
def fieldToDepth (self : Rules) : (depth : Nat) → TreeParser Unit
  | 0 => failure
  | n + 1 => namedFieldOver self (fieldToDepth self n)

/-- A field with a name. -/
def namedField (self : Rules) : TreeParser Unit := do
  fieldToDepth self (Tree.sizes (← get).rest + 1)

/-- A field without a name. -/
def positionalField (self : Rules) : TreeParser Unit := do
  attributes self
  visibility
  self.type

/-- A variant of an enumeration. It is as visible as that, whatever it says. -/
def variant (self : Rules) : TreeParser Unit := do
  attributes self
  silently visibility
  expect .name
  if ← sees (.group .brace) then within .brace (commas (namedField self))
  else if ← sees (.group .paren) then within .paren (commas (positionalField self))
  if ← accept (.op "=") then self.expr

/-- The body of a structure, with its where clause before or behind the fields. -/
def structRest (self : Rules) : TreeParser (List (List Tree)) := do
  if ← sees (.word "where") then
    let preds ← whereClause self
    if ← sees (.group .brace) then within .brace (commas (namedField self)) else expect (.op ";")
    return preds
  else if ← sees (.group .paren) then
    within .paren (commas (positionalField self))
    let preds ← whereClause self
    expect (.op ";")
    return preds
  else
    if ← sees (.group .brace) then within .brace (commas (namedField self)) else expect (.op ";")
    return []

/-- A structure, an enumeration or a union, from its keyword on. -/
def typeItem (self : Rules) : TreeParser TypeItem := do
  if ← accept (.word "struct") then
    let n ← name
    let params ← generics self
    return ⟨n, params, ← structRest self⟩
  else if ← accept (.word "enum") then
    let n ← name
    let params ← generics self
    let preds ← whereClause self
    within .brace (commas (variant self))
    return ⟨n, params, preds⟩
  else
    expect (.word "union")
    let n ← name
    let params ← generics self
    let preds ← whereClause self
    within .brace (commas (namedField self))
    return ⟨n, params, preds⟩

/-- A type definition with its attributes and visibility. -/
def definition (self : Rules) : TreeParser TypeItem := do
  attributes self
  visibility
  typeItem self

end KindSeq.Source.Grammar
