/-
  KindSeq.Source.Grammar

  The grammar as a whole: every goal has its rule, and the recursion is bounded
  by a depth that no text can reach.
-/

import KindSeq.Source.Grammar.Expr
import KindSeq.Source.Grammar.Statement

namespace KindSeq.Source

namespace Grammar

/-- The rule of every goal, given parsers for all of them. -/
def rule (self : Rules) : Rules
  | .expr braces => expr self braces
  | .statementExpr attributes => statementExpr self attributes
  | .unary braces => unary self braces
  | .climb left braces base => climb self left braces base
  | .extend right braces above => extend self right braces above
  | .trailers e => trailers self e
  | .type plus => type self plus
  | .bound captures consts => bound self captures consts
  | .arguments => arguments self
  | .pattern => pattern self
  | .patterns => patterns self
  | .statements => statements self
  | .item => item self

/-- The rules, nested to a depth. -/
def rules : (depth : Nat) → Rules
  | 0, _ => failure
  | n + 1, g => rule (rules n) g

/-- A depth for trees: between two goals that read nothing there are only a few. -/
def depthFor (ts : List Tree) : Nat := 16 * (Tree.sizes ts + 4)

end Grammar

open Grammar in
/-- The expression that a source text is. -/
def parseExpr? (src : String) : Option LitExpr := do
  let ts ← lex? src
  TreeParser.parseAll? (rules (depthFor ts) (.expr true)) ts

open Grammar TreeParser in
/-- The expressions of a source text, separated by commas, with one behind the
    last or not. -/
def parseExprs? (src : String) : Option (List LitExpr) := do
  let ts ← lex? src
  let rec items : (n : Nat) → TreeParser (List LitExpr)
    | 0 => failure
    | n + 1 => do
      if ← atEnd then return []
      let e ← rules (depthFor ts) (.expr true)
      if ← atEnd then return [e]
      expect (.op ",")
      return e :: (← items n)
  parseAll? (items (ts.length + 1)) ts

open Grammar in
/-- The type definition that a source text is. -/
def parseDefinition? (src : String) : Option TypeItem := do
  let ts ← lex? src
  TreeParser.parseAll? (definition (rules (depthFor ts))) ts

end KindSeq.Source
