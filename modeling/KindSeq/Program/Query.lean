/-
  KindSeq.Program.Query

  What a step of a program asks of its types, and the answers.
-/

import KindSeq.Program.Expr
import KindSeq.Reflection

namespace KindSeq

/-- A question about types. -/
inductive Query where
  | bool | int | digits | nib | seq | len | elemsLen | slot | name | kind | id | debug | of
  | same | assertTypeEq | assertTrue | assertFalse
  | sum | all | any | contains | equals | setEquals
  deriving DecidableEq, Repr

/-- What a step shows. -/
inductive Answer where
  | bool (b : Bool)
  | int (v : Int)
  | digits (bits length : Nat)
  | nib (n : Nibble)
  | seq (kind : Kind) (items : List Reflected) (text : String)
  | len (n : Nat)
  | slot (isError : Bool) (name : String)
  | name (s : String)
  | kind (k : Kind)
  | id (s : String)
  | debug (s : String)
  | ok
  | intValue (v : Int)
  | boolValue (b : Bool)

/-- Why a step shows nothing. -/
inductive StepError where
  | fault (f : Fault)
  /-- A boolean is not the one that was asserted. -/
  | assertion

namespace Query

/-- Whether a question can be asked of types without a size. -/
def takesUnsized : Query → Bool
  | .name | .id | .same | .assertTypeEq => true
  | _ => false

/-- The answer to a question that is no assertion; none where it has none. -/
def answer? : Query → List Ty → Option Answer
  | .bool, [t] => t.bool?.map .bool
  | .int, [t] => t.intValue?.map .int
  | .digits, [d] => d.digits?.map fun ds => .digits (Digits.bits ds).toNat ds.length
  | .nib, [n] => n.nibble?.map .nib
  | .seq, [s] => do
    let q ← s.sequence?
    let items ← q.reflect
    return .seq q.kind items (Sequence.render q.form items)
  | .len, [s] => s.sequence?.map fun q => .len q.elems.length
  | .elemsLen, [k, e] => do
    let x ← k.kind?
    let xs ← Ty.elemsOf? x e
    return .len xs.length
  | .slot, [s] => s.slot?.map fun x => .slot x.isError s.name
  | .name, [t] => some (.name t.name)
  | .kind, [k] => k.kind?.map .kind
  | .id, [t] => t.id?.map fun i => .id i.name
  | .debug, [t] => t.debug?.map .debug
  | .of, [k, t] => do
    let x ← k.kind?
    if x.admits t then some .ok else none
  | .same, [a, b] => if a = b then some .ok else none
  | .assertTypeEq, [a, b] => if a = b then some .ok else none
  | .sum, [s] => do
    let t ← s.sum
    t.intValue?.map .intValue
  | .all, [s] => s.all.map .boolValue
  | .any, [s] => s.any.map .boolValue
  | .contains, [s, x] => (s.isIn x).map .boolValue
  | .equals, [a, b] => (a.listEq b).map .boolValue
  | .setEquals, [a, b] => (a.setEq b).map .boolValue
  | _, _ => none

/-- Whether a type is the boolean that is asserted. -/
def assertion (expected : Bool) (t : Ty) : Except StepError Answer :=
  match t.bool? with
  | some b => if b = expected then .ok .ok else .error .assertion
  | none => .error (.fault .undefined)

/-- The answer to a question. -/
def answer (q : Query) (args : List Ty) : Except StepError Answer :=
  if q.takesUnsized || args.all Ty.isSized then
    match q, args with
    | .assertTrue, [t] => assertion true t
    | .assertFalse, [t] => assertion false t
    | q, args =>
      match q.answer? args with
      | some a => .ok a
      | none => .error (.fault .undefined)
  else .error (.fault .undefined)

/-- The question with a name. -/
def ofName? : String → Option Query
  | "bool" => some .bool
  | "int" => some .int
  | "digits" => some .digits
  | "nib" => some .nib
  | "seq" => some .seq
  | "len" => some .len
  | "elems_len" => some .elemsLen
  | "slot" => some .slot
  | "name" => some .name
  | "kind" => some .kind
  | "id" => some .id
  | "debug" => some .debug
  | "of" => some .of
  | "same" => some .same
  | "assert_type_eq" => some .assertTypeEq
  | "assert_true" => some .assertTrue
  | "assert_false" => some .assertFalse
  | "v_sum" => some .sum
  | "v_all" => some .all
  | "v_any" => some .any
  | "v_contains" => some .contains
  | "v_equals" => some .equals
  | "v_set_equals" => some .setEquals
  | _ => none

end Query

/-- One step of a program: a question about the values of expressions. -/
structure Step where
  query : Query
  args : List Expr

/-- A program: names for expressions, each of which can use those before it, and
    steps that do not depend on each other. -/
structure Program where
  defs : List (String × Expr)
  steps : List Step

namespace Program

/-- The values of the named expressions. The last one of a name counts. -/
def env (p : Program) : Env :=
  p.defs.foldl (fun known d => (d.1, d.2.eval known) :: known) []

/-- The answer to a step. -/
def runStep (known : Env) (s : Step) : Except StepError Answer :=
  match Expr.evalAll known s.args with
  | .ok ts => s.query.answer ts
  | .error f => .error (.fault f)

/-- The answers to all steps. -/
def run (p : Program) : List (Except StepError Answer) := p.steps.map (runStep p.env)

end Program

end KindSeq
