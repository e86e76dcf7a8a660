/-
  KindSeq.Expansion.Integer

  Integer literals as types, and the tokens that spell them. A list of literals
  is a type only if every literal is one; otherwise the first rejection counts.
-/

import KindSeq.Integer
import KindSeq.Literal
import KindSeq.Source.Grammar

namespace KindSeq.Expansion

/-- The type of an integer literal. -/
def intType (e : LitExpr) : Except LiteralError Ty := e.eval.map Ty.intLit

/-- The values of a list of literals, or the first rejection. -/
def intValues : List LitExpr → Except LiteralError (List Int)
  | [] => .ok []
  | e :: es => do
    let v ← e.eval
    let vs ← intValues es
    return v :: vs

/-- The list type of a list of literals. -/
def intsType (es : List LitExpr) : Except LiteralError Ty := do
  let vs ← intValues es
  return .list (.kind .int) (Ty.ofElems (vs.map Ty.intLit))

/-! ## Tokens -/

/-- The tokens of a digit list. -/
def digitTokens : Digits → String
  | [] => "::tola_kinds::kind::int::DEnd"
  | d :: ds =>
    "::tola_kinds::kind::int::Dig<::tola_kinds::primitives::nibble::X" ++ Nibble.hexDigit d ++ ","
      ++ digitTokens ds ++ ">"

/-- The tokens of an integer. -/
def intTokens (v : Int) : String :=
  "::tola_kinds::kind::int::Int<" ++ digitTokens (Digits.ofInt v) ++ ">"

/-- The tokens of an element list of integers. -/
def elemTokens : List Int → String
  | [] => "::tola_kinds::seq::HNil"
  | v :: vs => "::tola_kinds::seq::HCons<" ++ intTokens v ++ "," ++ elemTokens vs ++ ">"

/-- The tokens of a list of integers. -/
def intsTokens (vs : List Int) : String :=
  "::tola_kinds::seq::List<::tola_kinds::kind::IntKind," ++ elemTokens vs ++ ">"

/-- The tokens that make the compiler stop with a message. -/
def errorTokens (message : String) : String :=
  "::core::compile_error!\x7b\"" ++ message ++ "\"\x7d"

/-- The tokens of a result, or of its rejection. -/
def tokensOf {α : Type} (write : α → String) : Except LiteralError α → String
  | .ok a => write a
  | .error e => errorTokens e.message

/-- The expansion of one integer literal. -/
def expandInt (src : String) : Option String :=
  (Source.parseExpr? src).map fun e => tokensOf intTokens e.eval

/-- The expansion of a list of integer literals. -/
def expandInts (src : String) : Option String :=
  (Source.parseExprs? src).map fun es => tokensOf intsTokens (intValues es)

end KindSeq.Expansion
