/-
  KindSeq.Program.Expr

  Type expressions and their value. Evaluation is strict: every part has to have
  a value, also one that the result does not depend on. A rejected literal is
  reported before anything that does not exist, and the first one in reading
  order counts.
-/

import KindSeq.Expansion.Integer
import KindSeq.Program.Op

namespace KindSeq

/-- A type expression. -/
inductive Expr where
  | term (t : Ty)
  /-- A name that was given to an expression. -/
  | var (name : String)
  /-- An integer literal in source text. -/
  | intLit (src : String)
  /-- A list of integer literals in source text. -/
  | intsLit (src : String)
  | apply (op : Op) (args : List Expr)

/-- Why an expression has no value. -/
inductive Fault where
  /-- An operation is not defined on its arguments. -/
  | undefined
  /-- A literal is rejected. -/
  | literal (e : LiteralError)
  /-- A literal is no expression at all. -/
  | malformed
  /-- A name was given to nothing. -/
  | unbound (name : String)

namespace Fault

/-- Whether the fault is found before operations are looked at. -/
def isEarly : Fault → Bool
  | .undefined => false
  | _ => true

end Fault

/-- The expressions that have a name, with their values. -/
abbrev Env := List (String × Except Fault Ty)

namespace Expr

/-- Both values, or the fault that is found first. -/
def both {α β γ : Type} (f : α → β → γ) : Except Fault α → Except Fault β → Except Fault γ
  | .ok a, .ok b => .ok (f a b)
  | .error x, .error y => .error (if y.isEarly && ! x.isEarly then y else x)
  | .error x, .ok _ => .error x
  | .ok _, .error y => .error y

/-- The result of an operation, which takes sized arguments unless it says otherwise. -/
def applyOp (op : Op) (args : List Ty) : Except Fault Ty :=
  if op.takesUnsized || args.all Ty.isSized then
    match op.eval args with
    | some t => .ok t
    | none => .error .undefined
  else .error .undefined

/-- A literal as a type. -/
def ofLiteral {α : Type} (type : α → Except LiteralError Ty) : Option α → Except Fault Ty
  | some a => (type a).mapError .literal
  | none => .error .malformed

mutual

/-- The value of an expression. -/
def eval (env : Env) : Expr → Except Fault Ty
  | .term t => .ok t
  | .var name => (env.lookup name).getD (.error (.unbound name))
  | .intLit src => ofLiteral Expansion.intType (Source.parseExpr? src)
  | .intsLit src => ofLiteral Expansion.intsType (Source.parseExprs? src)
  | .apply op args => do
    let ts ← evalAll env args
    applyOp op ts

/-- The values of several expressions. -/
def evalAll (env : Env) : List Expr → Except Fault (List Ty)
  | [] => .ok []
  | e :: es => both (· :: ·) (eval env e) (evalAll env es)

end

end Expr

end KindSeq
