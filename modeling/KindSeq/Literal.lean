/-
  KindSeq.Literal

  Integer literals as small expressions: what an expression tree evaluates to,
  and why it is rejected. Evaluation is exact in 128 bits, left operand first,
  and an operator is looked at only after both its operands; the result has to
  fit in 64 bits.
-/

namespace KindSeq

/-- Binary operators, in the groups that the grammar and the evaluator tell apart. -/
inductive BinaryOp where
  | add | sub | mul
  | div | rem
  | shl | shr
  | bitAnd | bitXor | bitOr
  | compare
  | and | or
  /-- Assignment combined with an operation. -/
  | compound
  deriving DecidableEq, Repr

/-- Forms of expressions that are no arithmetic, as far as the grammar tells them apart. -/
inductive ExprForm where
  | plain
  | range
  /-- Ends in a block and needs nothing behind it. -/
  | block
  /-- A macro called with braces. -/
  | bracedMacro
  /-- Recognised, but not analysed. -/
  | kept
  deriving DecidableEq, Repr

/-- An expression, with everything that is no arithmetic left out. -/
inductive LitExpr where
  | integer (n : Nat)
  /-- A literal of another type. -/
  | literal
  | neg (e : LitExpr)
  | paren (e : LitExpr)
  | binary (op : BinaryOp) (left right : LitExpr)
  | other (form : ExprForm)
  deriving DecidableEq, Repr

/-- Why a literal is rejected. -/
inductive LiteralError where
  /-- A single number is too large for 128 bits. -/
  | tooLarge
  | notInteger
  | notConstant
  | unsupportedOperator
  | overflow
  | outOfRange (v : Int)
  deriving DecidableEq, Repr

/-- The wording of a rejection. -/
def LiteralError.message : LiteralError → String
  | .tooLarge => "number too large to fit in target type"
  | .notInteger => "expected an integer literal"
  | .notConstant => "expected a constant integer expression"
  | .unsupportedOperator => "unsupported operator in integer literal"
  | .overflow => "integer overflow"
  | .outOfRange v => "integer `" ++ toString v ++ "` does not fit in 64 bits"

namespace LitExpr

/-- Whether an integer fits in 128 bits. -/
def fitsWide (v : Int) : Bool := decide (-Int.pow 2 127 ≤ v ∧ v < Int.pow 2 127)

/-- Whether an integer fits in 64 bits. -/
def fitsWord (v : Int) : Bool := decide (-Int.pow 2 63 ≤ v ∧ v < Int.pow 2 63)

/-- The result of an operation, if it fits in 128 bits. -/
def checked (v : Int) : Except LiteralError Int :=
  if fitsWide v then .ok v else .error .overflow

/-- The operation of an operator, where the evaluator has one. -/
def operation? : BinaryOp → Option (Int → Int → Int)
  | .add => some (· + ·)
  | .sub => some (· - ·)
  | .mul => some (· * ·)
  | _ => none

/-- The value of an expression in 128 bits. -/
def evalWide : LitExpr → Except LiteralError Int
  | .integer n => if fitsWide n then .ok n else .error .tooLarge
  | .literal => .error .notInteger
  | .neg e => do
    let v ← e.evalWide
    checked (-v)
  | .paren e => e.evalWide
  | .binary op l r => do
    let x ← l.evalWide
    let y ← r.evalWide
    match operation? op with
    | some f => checked (f x y)
    | none => .error .unsupportedOperator
  | .other _ => .error .notConstant

/-- The value of an expression in 64 bits. -/
def eval (e : LitExpr) : Except LiteralError Int := do
  let v ← e.evalWide
  if fitsWord v then .ok v else .error (.outOfRange v)

end LitExpr

end KindSeq
