/-
  KindSeq.Source.Token

  Token trees: words, punctuation characters, literals, and groups of trees in
  brackets. Literals keep their spelling. A punctuation character remembers
  whether another one follows it directly, since longer operators are spelled
  with several.
-/

import KindSeq.Source.Character

namespace KindSeq.Source

/-- The brackets around a group. -/
inductive Delim where
  | paren
  | bracket
  | brace
  deriving DecidableEq, Repr

/-- A token, or a group of them. -/
inductive Tree where
  | group (d : Delim) (inner : List Tree)
  /-- A word; a raw one starts with its mark. -/
  | ident (text : String)
  | punct (c : Char) (joint : Bool)
  | literal (text : String)
  deriving Repr

namespace Delim

def opening : Delim → String
  | .paren => "("
  | .bracket => "["
  | .brace => "\x7b"

def closing : Delim → String
  | .paren => ")"
  | .bracket => "]"
  | .brace => "\x7d"

/-- The bracket that opens with a character. -/
def ofOpening? : Char → Option Delim
  | '(' => some .paren
  | '[' => some .bracket
  | '\x7b' => some .brace
  | _ => none

/-- The bracket that closes with a character. -/
def ofClosing? : Char → Option Delim
  | ')' => some .paren
  | ']' => some .bracket
  | '\x7d' => some .brace
  | _ => none

end Delim

namespace Tree

/-- The text of a literal without white space, except in strings. -/
def literalText (text : String) : String :=
  if text.contains '"' then text else String.ofList (text.toList.filter (! isSpace ·))

mutual

/-- A tree written without blanks. -/
def text : Tree → String
  | .group d inner => d.opening ++ texts inner ++ d.closing
  | .ident t => t
  | .punct c _ => String.singleton c
  | .literal t => literalText t

/-- Trees written one after the other. -/
def texts : List Tree → String
  | [] => ""
  | t :: ts => t.text ++ texts ts

end

mutual

/-- The number of tokens, counting a group as one more than it holds. -/
def size : Tree → Nat
  | .group _ inner => sizes inner + 1
  | _ => 1

/-- The number of tokens in a list of trees. -/
def sizes : List Tree → Nat
  | [] => 0
  | t :: ts => t.size + sizes ts

end

end Tree

end KindSeq.Source
