/-
  KindSeq.Identity

  Structural identities. A nominal identity is the hash stream of a qualified
  name; a constructor applied to types has the name's identity applied to the
  list of theirs. `idEq` compares two identity trees, and `id?` says which types
  have an identity, i.e. are values of kind `type`.
-/

import KindSeq.Integer
import KindSeq.Stream

namespace KindSeq

/-- The qualified name of a kind. -/
def Kind.path : Kind → String
  | .bool => "tola_kinds::kind::BoolKind"
  | .int => "tola_kinds::kind::IntKind"
  | .type => "tola_kinds::kind::TypeKind"

/-- The name of a primitive type. -/
def Prim.name : Prim → String
  | .bool => "bool"
  | .char => "char"
  | .i8 => "i8"
  | .i16 => "i16"
  | .i32 => "i32"
  | .i64 => "i64"
  | .i128 => "i128"
  | .isize => "isize"
  | .u8 => "u8"
  | .u16 => "u16"
  | .u32 => "u32"
  | .u64 => "u64"
  | .u128 => "u128"
  | .usize => "usize"
  | .f32 => "f32"
  | .f64 => "f64"
  | .unit => "()"
  | .str => "str"

/-- The name under which a pointer constructor is identified. -/
def Pointer.identityName : Pointer → String
  | .ref => "core::primitive::ref"
  | .refMut => "core::primitive::ref_mut"
  | .rawConst => "core::primitive::ptr_const"
  | .rawMut => "core::primitive::ptr_mut"
  | .box => "alloc::boxed::Box"

namespace Ty

/-- Equality of two identity trees. A name differs from an application and the
    end of a list from a cell whatever they hold; otherwise all parts are
    compared, also behind a difference. -/
def idEq : Ty → Ty → Option Bool
  | .named s, .named t => streamEq s t NibbleStream.depth
  | .named _, .applied _ _ => some false
  | .applied _ _, .named _ => some false
  | .applied c xs, .applied d ys => do
    let x ← idEq c d
    let y ← idEq xs ys
    return x && y
  | .idNil, .idNil => some true
  | .idNil, .idCons _ _ => some false
  | .idCons _ _, .idNil => some false
  | .idCons h t, .idCons h' t' => do
    let x ← idEq h h'
    let y ← idEq t t'
    return x && y
  | _, _ => none

/-- The identity of a qualified name. -/
def nameId (name : String) : Ty := .named (routing name)

/-- The identity of the constructor `name` applied to an identity list. -/
def appliedId (name : String) (ids : Ty) : Ty := .applied (nameId name) ids

/-- The identity list of the digits of a number. -/
def digitIds : Digits → Ty
  | [] => .idNil
  | d :: ds => .idCons (.named (.constStream (.nibble d))) (digitIds ds)

/-- The number of cells of an element list. -/
def arity : Ty → Nat
  | .hCons _ rest => rest.arity + 1
  | _ => 0

/-- The longest tuple with an identity. -/
def maxTuple : Nat := 12

/-- The longest array with an identity. -/
def maxArray : Nat := 32

mutual

/-- The identity of a type. -/
def id? : Ty → Option Ty
  | .bool true => some (nameId "tola_kinds::True")
  | .bool false => some (nameId "tola_kinds::False")
  | .noError => some (nameId "tola_kinds::NoError")
  | .kind k => some (nameId k.path)
  | .prim p => some (nameId p.name)
  | .int d => d.digits?.map fun ds => appliedId "tola_kinds::Int" (digitIds ds)
  | .pointer p t => t.id?.map fun i => appliedId p.identityName (.idCons i .idNil)
  | .slice t => t.id?.map fun i => appliedId "core::primitive::slice" (.idCons i .idNil)
  | .array t n =>
    if n ≤ maxArray then
      t.id?.map fun i => appliedId "core::primitive::array"
        (.idCons i (.idCons (appliedId "tola_kinds::Int" (digitIds (Digits.ofInt n))) .idNil))
    else none
  | .tuple ts =>
    if 1 ≤ ts.arity ∧ ts.arity ≤ maxTuple then
      ts.ids?.map (appliedId "core::primitive::tuple")
    else none
  | .nominal d .hNil => if d.identified then some (nameId d.path) else none
  | .nominal d args => if d.identified then args.ids?.map (appliedId d.path) else none
  | .fail e => e.id?.map fun i => appliedId "tola_kinds::Fail" (.idCons i .idNil)
  | .list (.kind k) e => e.ids?.map fun is => appliedId "tola_kinds::List" (.idCons (nameId k.path) is)
  | .set (.kind k) e => e.ids?.map fun is => appliedId "tola_kinds::Set" (.idCons (nameId k.path) is)
  | _ => none

/-- The identity list of an element list. -/
def ids? : Ty → Option Ty
  | .hNil => some .idNil
  | .hCons x rest => do
    let i ← x.id?
    let is ← rest.ids?
    return .idCons i is
  | _ => none

end

/-- The identity of a type as a value of kind `type`, which has to be sized. -/
def valueId? (t : Ty) : Option Ty := if t.isSized then t.id? else none

theorem valueId?_eq_some_iff {t i : Ty} :
    t.valueId? = some i ↔ t.isSized = true ∧ t.id? = some i := by
  rw [valueId?]
  split
  · next h => simp [h]
  · next h => simp [h]

theorem id?_of_valueId? {t i : Ty} (h : t.valueId? = some i) : t.id? = some i :=
  (valueId?_eq_some_iff.mp h).2

end Ty

namespace Kind

/-- Whether a type is a value of the kind. -/
def admits : Kind → Ty → Bool
  | .bool, t => t.bool?.isSome
  | .int, t => t.intDigits?.isSome
  | .type, t => t.valueId?.isSome

/-- The equality of a kind. It exists if both sides are values of that kind. -/
def eq : Kind → Ty → Ty → Option Bool
  | .bool, a, b => do
    let x ← a.bool?
    let y ← b.bool?
    return Ty.boolEq x y
  | .int, a, b => do
    let x ← a.intDigits?
    let y ← b.intDigits?
    return Digits.eq x y
  | .type, a, b => do
    let x ← a.valueId?
    let y ← b.valueId?
    x.idEq y

end Kind

end KindSeq
