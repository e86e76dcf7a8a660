/-
  KindSeq.Expansion.Routing

  The hash stream of a name. A string literal is hashed at once, so that the
  arguments of its stream are numbers; anything else becomes sixteen constants
  that hash it later, one nibble each. What such an expression evaluates to is
  left to a parameter `value`.
-/

import KindSeq.Hash
import KindSeq.Source.Spelling

namespace KindSeq.Expansion

open Source

/-- An argument of a hash stream. -/
inductive StreamArg where
  /-- A number that is known. -/
  | number (n : UInt8)
  /-- Nibble `n` of the hash of what an expression evaluates to. -/
  | nibbleOf (expr : String) (n : UInt8)

namespace StreamArg

/-- The tokens of an argument. -/
def tokens : StreamArg → String
  | .number n => toString n.toNat ++ "u8"
  | .nibbleOf expr n =>
    "\x7b::tola_kinds::primitives::const_utils::hash_nibble(" ++ expr ++ "," ++ toString n.toNat
      ++ "u8)\x7d"

/-- The number that an argument stands for. -/
def eval (value : String → String) : StreamArg → Except Hash.Fault UInt8
  | .number n => .ok n
  | .nibbleOf expr n => (Hash.nibbleAt (value expr) n).map fun d => UInt8.ofNat d.val

end StreamArg

/-- Where the name of a stream comes from. -/
inductive NameSource where
  /-- A literal, which is hashed at once. -/
  | literal (name : String)
  /-- An expression, whose value is hashed anew for each nibble. -/
  | expression (expr : String)

namespace NameSource

/-- The contents of a single string literal. -/
def soleString? : List Tree → Option String
  | [.literal t] => Spelling.string? t
  | _ => none

/-- A single string literal is the name itself; anything else is an expression. -/
def ofTrees (ts : List Tree) : NameSource :=
  match soleString? ts with
  | some name => .literal name
  | none => .expression (Tree.texts ts)

/-- The name that a source stands for. -/
def name (value : String → String) : NameSource → String
  | .literal name => name
  | .expression expr => value expr

/-- The arguments of the stream. -/
def args : NameSource → Vector StreamArg 16
  | .literal name => (Hash.nibbles (Hash.ofString name)).map fun d => .number (UInt8.ofNat d.val)
  | .expression expr => Vector.ofFn fun i => .nibbleOf expr (UInt8.ofNat i.val)

/-- The sixteen numbers of the stream. -/
def numbers (value : String → String) (source : NameSource) :
    Except Hash.Fault (Vector UInt8 16) :=
  Vector.ofFnM fun i => (source.args.get i).eval value

/-- The tokens of the stream. -/
def tokens (source : NameSource) : String :=
  "::tola_kinds::primitives::stream::HashStream16<"
    ++ ",".intercalate (source.args.toList.map StreamArg.tokens) ++ ">"

end NameSource

/-- The expansion of the stream of a name. -/
def expandStream (src : String) : Option String :=
  (lex? src).map fun ts => (NameSource.ofTrees ts).tokens

end KindSeq.Expansion
