/-
  KindSeq.Source.Grammar.Goal

  The recursive goals of the grammar. A rule says how to reach one goal, given
  parsers for all of them; tying the knot is left to the last module, which
  bounds the depth.
-/

import KindSeq.Literal
import KindSeq.Source.TreeParser

namespace KindSeq.Source

/-- Forms of types, as far as other rules tell them apart. -/
inductive TypeForm where
  /-- A path without a qualifying type; `simple` if it has one segment only. -/
  | path (simple : Bool)
  /-- Bounds without a word before them; `single` if there is one only. -/
  | object (single : Bool)
  | paren
  /-- Recognised, but not analysed. -/
  | kept
  | plain
  deriving DecidableEq

/-- Forms of patterns, as far as other rules tell them apart. -/
inductive PatternForm where
  /-- A range without a start or without an end. -/
  | openRange
  /-- Recognised, but not analysed. -/
  | kept
  | plain
  deriving DecidableEq

/-- What can be parsed. -/
inductive Goal where
  /-- An expression; where `braces` does not hold, a brace ends it. -/
  | expr (braces : Bool)
  /-- An expression in the place of a statement, where a block ends it, behind
      these attributes. -/
  | statementExpr (attributes : List Tree)
  /-- An operand with the operators before and behind it. -/
  | unary (braces : Bool)
  /-- The operators behind an operand that bind at least as tight as `base`. -/
  | climb (left : LitExpr) (braces : Bool) (base : Nat)
  /-- What belongs to a right operand, since it binds tighter than `above`. -/
  | extend (right : LitExpr) (braces : Bool) (above : Nat)
  /-- Calls, fields, indices and question marks behind an operand. -/
  | trailers (e : LitExpr)
  /-- A type; without `plus` it ends at a plus sign. -/
  | type (plus : Bool)
  /-- A bound, where captures of parameters and constant traits are allowed or
      not; the answer is whether it is a trait. -/
  | bound (captures consts : Bool)
  /-- Arguments in angle brackets; the answer is whether there are any. -/
  | arguments
  | pattern
  /-- Patterns with bars between them. -/
  | patterns
  /-- The inside of a block. -/
  | statements
  | item

/-- The answer to a goal. -/
@[reducible] def Goal.Out : Goal → Type
  | .expr _ | .statementExpr _ | .unary _ | .climb .. | .extend .. | .trailers _ => LitExpr
  | .type _ => TypeForm
  | .bound .. | .arguments => Bool
  | .pattern | .patterns => PatternForm
  | .statements | .item => Unit

/-- A parser for every goal. -/
abbrev Rules := (g : Goal) → TreeParser g.Out

namespace Rules

open TreeParser

/-! ## Shorthand for goals whose answer is not needed -/

def expr (self : Rules) : TreeParser Unit := do
  let _ ← self (.expr true)

def condition (self : Rules) : TreeParser Unit := do
  let _ ← self (.expr false)

def type (self : Rules) : TreeParser Unit := do
  let _ ← self (.type true)

def narrowType (self : Rules) : TreeParser Unit := do
  let _ ← self (.type false)

def patterns (self : Rules) : TreeParser Unit := do
  let _ ← self .patterns

def block (self : Rules) : TreeParser Unit := within .brace (self .statements)

end Rules

end KindSeq.Source
