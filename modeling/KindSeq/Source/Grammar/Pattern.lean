/-
  KindSeq.Source.Grammar.Pattern

  Patterns.
-/

import KindSeq.Source.Grammar.Path

namespace KindSeq.Source.Grammar

open TreeParser

/-- The index that a spelling stands for: an integer without a suffix. -/
def indexValue? (text : String) : Option Nat :=
  match Spelling.integer? text with
  | some (n, suffix) => if suffix.isEmpty && n < Nat.pow 2 32 then some n else none
  | none => none

/-- An index as it is written out, in decimal digits. -/
def indexTree (n : Nat) : Tree := .literal (toString n)

/-- A member of a structure, a name or an index; the answer is whether it is a
    name. -/
def member : TreeParser Bool := do
  match (← get).rest with
  | .literal t :: _ =>
    match indexValue? t with
    | some n =>
      silently (skip 1)
      write [indexTree n]
      return false
    | none => failure
  | _ =>
    expect .name
    return true

/-- The limits of a range; the answer is whether it includes its end. Patterns
    know an old spelling too, which is written as the new one. -/
def rangeLimits (inPattern : Bool) : TreeParser Bool := do
  if ← accept (.op "..=") then return true
  else if ← sees (.op "...") then
    if inPattern then
      silently (skip 3)
      write [.punct '.' true, .punct '.' true, .punct '=' false]
      return true
    else failure
  else
    expect (.op "..")
    return false

/-- A bound of a range in a pattern; the answer is whether there is one. -/
def patternBound (self : Rules) : TreeParser Bool := do
  if (← atEnd) || (← seesAny [.op "|", .op "=", .op ",", .op ";", .word "if"])
      || ((← sees (.op ":")) && !(← sees (.op "::"))) then
    return false
  else
    if ← sees .literal then expect .literal
    else if ← seesAny ([.name, .op "::", .op "<"] ++ pathWords) then
      let _ ← qualifiedPath self true
    else
      expect (.word "const")
      attributedBlock self
    return true

/-- The rest of a range behind its start, which has to have an end if that is
    included. -/
def patternRangeEnd (self : Rules) : TreeParser PatternForm := do
  let closed ← rangeLimits true
  let bounded ← patternBound self
  if closed && !bounded then failure
  return if bounded then .plain else .openRange

/-- One field of a structure pattern. -/
def fieldPattern (self : Rules) : TreeParser Unit := do
  let boxed ← accept (.word "box")
  let byRef ← accept (.word "ref")
  let mutable ← accept (.word "mut")
  if boxed || byRef || mutable then expect .name
  else
    let named ← member
    if !named || (← sees (.op ":")) then
      expect (.op ":")
      self.patterns

/-- The fields of a structure pattern; two points for the others end it. -/
def fieldPatterns (self : Rules) : TreeParser Unit :=
  repeating do
    if ← atEnd then return false
    attributes self
    if ← accept (.op "..") then return false
    fieldPattern self
    if ← atEnd then return false
    expect (.op ",")
    return true

/-- A pattern that starts with a path. -/
def pathPattern (self : Rules) : TreeParser PatternForm := do
  let form ← qualifiedPath self true
  if ← seesMacro form then
    let _ ← macroCall
    return .plain
  else if ← sees (.group .brace) then
    within .brace (fieldPatterns self)
    return .plain
  else if ← sees (.group .paren) then
    within .paren (commas self.patterns)
    return .plain
  else if ← sees (.op "..") then patternRangeEnd self
  else return .plain

/-- An element of a slice pattern; a range with an open side needs parentheses
    there. -/
def slicePattern (self : Rules) : TreeParser Unit := do
  if (← self .patterns) = .openRange then failure

/-- A pattern without bars. -/
def pattern (self : Rules) : TreeParser PatternForm :=
  keeping (· = .kept) do
    let pathLike :=
      ((← sees .name)
        && ((← sees2 (.op "::")) || (← sees2 (.op "!")) || (← sees2 (.group .brace))
          || (← sees2 (.group .paren)) || (← sees2 (.op ".."))))
      || ((← sees (.word "self")) && (← sees2 (.op "::")))
      || (← seesAny [.op "::", .op "<", .word "Self", .word "super", .word "crate"])
    if pathLike then pathPattern self
    else if ← accept (.word "_") then return .plain
    else if ← accept (.word "box") then
      let _ ← self .pattern
      return .kept
    else if ← seesAny [.op "-", .literal, .word "const"] then
      let _ ← patternBound self
      if ← sees (.op "..") then patternRangeEnd self else return .plain
    else if ← seesAny [.word "ref", .word "mut", .word "self", .name] then
      let _ ← accept (.word "ref")
      let _ ← accept (.word "mut")
      if ← sees (.word "self") then skip 1 else expect .name
      if ← accept (.op "@") then
        let _ ← self .pattern
      return .plain
    else if ← accept (.op "&") then
      let _ ← accept (.word "mut")
      let _ ← self .pattern
      return .plain
    else if ← sees (.group .paren) then
      within .paren (commas self.patterns)
      return .plain
    else if ← sees (.group .bracket) then
      within .bracket (commas (slicePattern self))
      return .plain
    else if (← sees (.op "..")) && !(← sees (.op "...")) then
      let closed ← rangeLimits false
      let bounded ← patternBound self
      if closed && !bounded then failure
      return if bounded then .openRange else .plain
    else failure

/-- Patterns with bars between them, and one before the first or not. -/
def patterns (self : Rules) : TreeParser PatternForm := do
  let barred ← accept (.op "|")
  let first ← self .pattern
  let seesBar : TreeParser Bool := return (← sees (.op "|")) && !(← seesAny [.op "||", .op "|="])
  if barred || (← seesBar) then
    repeating do
      if ← seesBar then
        skip 1
        let _ ← self .pattern
        return true
      else return false
    return .plain
  else return first

end KindSeq.Source.Grammar
