/-
  KindSeq.Source.Grammar.Statement

  The statements of a block.
-/

import KindSeq.Source.Grammar.Item

namespace KindSeq.Source.Grammar

open TreeParser

/-- A binding. What is to be done if the pattern does not match can be told from
    the value only if that does not end with a brace. -/
def binding (self : Rules) : TreeParser Unit := do
  expect (.word "let")
  let _ ← self .pattern
  if ← accept (.op ":") then self.type
  if ← accept (.op "=") then
    let (_, value) ← spelled self.expr
    let braced : Bool :=
      match value.getLast? with
      | some (.group .brace _) => true
      | _ => false
    if !braced && (← sees (.word "else")) then
      skip 1
      self.block
  expect (.op ";")

/-- Whether an item comes next. -/
def seesItem : TreeParser Bool := do
  return (← seesAny [.word "pub", .word "extern", .word "use", .word "fn", .word "mod", .word "type",
      .word "struct", .word "enum", .word "trait", .word "impl", .word "macro"])
    || ((← sees (.word "crate")) && !(← sees2 (.op "::")))
    || ((← sees (.word "static")) && ((← sees2 (.word "mut")) || (← sees2 .name)))
    || ((← sees (.word "const"))
      && !((← sees2 (.group .brace)) || (← sees2 (.word "static")) || (← sees2 (.word "move"))
        || (← sees2 (.op "|"))
        || ((← sees2 (.word "async"))
          && !((← sees3 (.word "unsafe")) || (← sees3 (.word "extern")) || (← sees3 (.word "fn"))))))
    || ((← sees (.word "unsafe")) && !(← sees2 (.group .brace)))
    || ((← sees (.word "async"))
      && ((← sees2 (.word "unsafe")) || (← sees2 (.word "extern")) || (← sees2 (.word "fn"))))
    || ((← sees (.word "union")) && (← sees2 .name))
    || ((← sees (.word "auto")) && (← sees2 (.word "trait")))
    || ((← sees (.word "default")) && ((← sees2 (.word "unsafe")) || (← sees2 (.word "impl"))))

/-- Kinds of statements. -/
inductive StatementKind where
  /-- A macro called with braces. -/
  | bracedMacro
  | binding
  | item
  | expr

/-- How a macro call at the start of a statement is read: with a name behind its
    mark as an item, and with braces as a statement of its own. -/
def macroKind? : TreeParser (Option StatementKind) := do
  match plainPath (← get) with
  | some (_, c) =>
    if !(Mark.op "!").holds c.rest then return none
    match c.rest.drop 1 with
    | .ident w :: _ => return if !keywords.contains w || w == "try" then some .item else none
    | .group .brace _ :: rest =>
      if ((Mark.op ".").holds rest && !(Mark.op "..").holds rest) || (Mark.op "?").holds rest then
        return none
      else return some .bracedMacro
    | _ => return none
  | none => return none

/-- The kind of the statement that comes next, behind its attributes. -/
def statementKind : TreeParser StatementKind :=
  ahead do
    modify fun c => { c with rest := behindAttributes c.rest }
    match ← macroKind? with
    | some kind => return kind
    | none =>
      if ← sees (.word "let") then return .binding
      else if ← seesItem then return .item
      else return .expr

/-- A statement; the answer is whether another one can follow it directly. -/
def statement (self : Rules) : TreeParser Bool := do
  match ← statementKind with
  | .bracedMacro =>
    attributes self
    plainPath
    skip 2
    let _ ← accept (.op ";")
    return true
  | .binding =>
    attributes self
    binding self
    return true
  | .item =>
    self .item
    return true
  | .expr =>
    let (_, attributes) ← apart (attributes self)
    let e ← self (.statementExpr attributes)
    let closed ← accept (.op ";")
    return closed || e = .other .block || e = .other .bracedMacro

/-- The inside of a block behind its attributes. -/
def statements (self : Rules) : TreeParser Unit :=
  repeating do
    if ← accept (.op ";") then return true
    else if ← atEnd then return false
    else
      let open' ← statement self
      if ← atEnd then return false
      if open' then return true else failure

end KindSeq.Source.Grammar
