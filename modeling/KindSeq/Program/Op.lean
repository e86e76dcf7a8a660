/-
  KindSeq.Program.Op

  The operations of type expressions: constructors, which take any types, and
  computations, which are defined on some. All arguments have to be sized, with
  a few exceptions.
-/

import KindSeq.Function

namespace KindSeq

/-- Operations on types. -/
inductive Op where
  -- constructors of the host language
  | option | result | vec | phantom | slice | tuple
  | pointer (p : Pointer)
  | array (length : Nat)
  -- user definitions
  | tagged | otherTagged | pair | negative | notABool
  -- constructors of the library
  | fail | constStream | dig | int | named | applied | idCons | cons | list | set
  | constant | equalTo | memberOf | addN
  -- collections spelled by their elements
  | hlist | types | listOf | setOf
  -- booleans
  | and | or | not | boolEq | ite
  -- nibbles and streams
  | nibEq | nibSum | nibCarry | nibNot | nibHigh | head | tail | streamEq
  -- digits and integers
  | digitsEq | digitsAdd | digitsNot | digitsZero | digitsSign
  | add | neg | sub | isNegative
  -- identities and kinds
  | id | idEq | digitIds | kindId | kindEq
  -- element lists and lists
  | elems | kindOf | append | hconcat | elemsEq | elemIds | listEq | concat | concatLists
  -- functions and folds
  | mapped | mapError | valueOf | errorOf | folded | sum | all | any
  -- sets
  | toSet | insert | isIn | setEq
  -- error slots
  | isError | earliest | firstError | firstOf | failIf | failUnless
  deriving DecidableEq, Repr

namespace Op

/-- Whether an operation takes arguments without a size. -/
def takesUnsized : Op → Bool
  | .pointer _ | .id => true
  | _ => false

/-- A boolean result as a type. -/
def flag (b : Option Bool) : Option Ty := b.map .bool

/-- The result of an operation on types; none where it is not defined. -/
def eval : Op → List Ty → Option Ty
  | .option, [t] => some (.apply Decl.option [t])
  | .result, [t, e] => some (.apply Decl.result [t, e])
  | .vec, [t] => some (.apply Decl.vec [t])
  | .phantom, [t] => some (.apply Decl.phantom [t])
  | .slice, [t] => some (.slice t)
  | .tuple, ts => some (Ty.ofTuple ts)
  | .pointer p, [t] => some (.pointer p t)
  | .array n, [t] => some (.array t n)
  | .tagged, [t] => some (.apply Decl.tagged [t])
  | .otherTagged, [t] => some (.apply Decl.otherTagged [t])
  | .pair, [a, b] => if a.isCopy then some (.apply Decl.pair [a, b]) else none
  | .negative, [t] => some (.apply Decl.negative [t])
  | .notABool, [t] => some (.apply Decl.notABool [t])
  | .fail, [e] => some (.fail e)
  | .constStream, [n] => some (.constStream n)
  | .dig, [n, rest] => some (.dig n rest)
  | .int, [d] => some (.int d)
  | .named, [s] => some (.named s)
  | .applied, [c, xs] => some (.applied c xs)
  | .idCons, [h, t] => some (.idCons h t)
  | .cons, [h, t] => some (.hCons h t)
  | .list, [k, e] => some (.list k e)
  | .set, [k, e] => some (.set k e)
  | .constant, [k, v] => some (.constant k v)
  | .equalTo, [k, y] => some (.equalTo k y)
  | .memberOf, [s] => some (.memberOf s)
  | .addN, [n] => some (.addN n)
  | .hlist, ts => some (Ty.ofElems ts)
  | .types, ts => some (.list (.kind .type) (Ty.ofElems ts))
  | .listOf, k :: ts => some (.list k (Ty.ofElems ts))
  | .setOf, k :: ts => some (.set k (Ty.ofElems ts))
  | .and, [a, b] => do
    let x ← a.bool?
    let y ← b.bool?
    return .bool (x && y)
  | .or, [a, b] => do
    let x ← a.bool?
    let y ← b.bool?
    return .bool (x || y)
  | .not, [a] => do
    let x ← a.bool?
    return .bool (! x)
  | .boolEq, [a, b] => do
    let x ← a.bool?
    let y ← b.bool?
    return .bool (Ty.boolEq x y)
  | .ite, [c, a, b] => do
    let x ← c.bool?
    return if x then a else b
  | .nibEq, [a, b] => do
    let x ← a.nibble?
    let y ← b.nibble?
    return .bool (Nibble.eq x y)
  | .nibSum, [a, b, c] => do
    let x ← a.nibble?
    let y ← b.nibble?
    let z ← c.bool?
    return .nibble (Nibble.sum x y z)
  | .nibCarry, [a, b, c] => do
    let x ← a.nibble?
    let y ← b.nibble?
    let z ← c.bool?
    return .bool (Nibble.carry x y z)
  | .nibNot, [a] => a.nibble?.map fun x => .nibble (Nibble.complement x)
  | .nibHigh, [a] => a.nibble?.map fun x => .bool (Nibble.isHigh x)
  | .head, [s] => s.stream?.map fun x => .nibble x.head
  | .tail, [s] => s.stream?.map fun x => Ty.ofStream x.tail
  | .streamEq, [a, b, depth] => flag (a.streamEq b depth)
  | .digitsEq, [a, b] => flag (a.digitsEq b)
  | .digitsAdd, [a, b, c] => do
    let z ← c.bool?
    a.digitsAdd b z
  | .digitsNot, [a] => a.digits?.map fun x => Ty.ofDigits (Digits.complement x)
  | .digitsZero, [a] => a.digits?.map fun x => Ty.ofDigits (Digits.zeros x)
  | .digitsSign, [a] => flag (a.digits?.bind Digits.sign?)
  | .add, [a, b] => a.add b
  | .neg, [a] => a.neg
  | .sub, [a, b] => a.sub b
  | .isNegative, [a] => flag a.isNegative
  | .id, [t] => t.id?
  | .idEq, [a, b] => flag (a.idEq b)
  | .digitIds, [d] => d.digits?.map Ty.digitIds
  | .kindId, [k] => k.kind?.map fun x => Ty.nameId x.path
  | .kindEq, [k, a, b] => do
    let x ← k.kind?
    flag (x.eq a b)
  | .elems, [s] => s.sequence?.map fun q => Ty.ofElems q.elems
  | .kindOf, [s] => s.sequence?.map fun q => .kind q.kind
  | .append, [e, x] => e.append x
  | .hconcat, [e, r] => e.hconcat r
  | .elemsEq, [k, a, b] => do
    let x ← k.kind?
    flag (Ty.elemsEq x a b)
  | .elemIds, [e] => e.ids?
  | .listEq, [a, b] => flag (a.listEq b)
  | .concat, [a, b] => a.concat b
  | .concatLists, ts => Ty.concatAll ts
  | .mapped, [s, f] => do
    let m ← f.mapping?
    s.mapped m
  | .mapError, [s, f] => do
    let m ← f.mapping?
    s.mapError m
  | .valueOf, [f, x] => do
    let m ← f.mapping?
    (m.apply x).map (·.value)
  | .errorOf, [f, x] => do
    let m ← f.mapping?
    (m.apply x).map (·.error.toTy)
  | .folded, [s, seed, c] => s.folded seed c.combine
  | .sum, [s] => s.sum
  | .all, [s] => flag s.all
  | .any, [s] => flag s.any
  | .toSet, [s] => s.toSet
  | .insert, [s, x] => s.insert x
  | .isIn, [s, x] => flag (s.isIn x)
  | .setEq, [a, b] => flag (a.setEq b)
  | .isError, [s] => flag (s.slot?.map Slot.isError)
  | .earliest, [a, b] => do
    let x ← a.slot?
    let y ← b.slot?
    return (x.earliest y).toTy
  | .firstError, [e] => e.firstError
  | .firstOf, ts => (Ty.ofElems ts).firstError
  | .failIf, [b, e] => b.bool?.map fun x => (Slot.failIf x e).toTy
  | .failUnless, [b, e] => b.bool?.map fun x => (Slot.failIf (! x) e).toTy
  | _, _ => none

/-- The operation with a name, among those that take type expressions only. -/
def ofName? : String → Option Op
  | "option" => some .option
  | "result" => some .result
  | "vec" => some .vec
  | "box" => some (.pointer .box)
  | "ref" => some (.pointer .ref)
  | "ref_mut" => some (.pointer .refMut)
  | "ptr" => some (.pointer .rawConst)
  | "ptr_mut" => some (.pointer .rawMut)
  | "slice" => some .slice
  | "phantom" => some .phantom
  | "tagged" => some .tagged
  | "other_tagged" => some .otherTagged
  | "pair" => some .pair
  | "fail" => some .fail
  | "negative" => some .negative
  | "not_a_bool" => some .notABool
  | "const_stream" => some .constStream
  | "dig" => some .dig
  | "Int" => some .int
  | "named" => some .named
  | "applied" => some .applied
  | "id_cons" => some .idCons
  | "cons" => some .cons
  | "List" => some .list
  | "Set" => some .set
  | "Constant" => some .constant
  | "EqualTo" => some .equalTo
  | "MemberOf" => some .memberOf
  | "AddN" => some .addN
  | "and" => some .and
  | "or" => some .or
  | "not" => some .not
  | "bool_eq" => some .boolEq
  | "if" => some .ite
  | "nib_eq" => some .nibEq
  | "nib_sum" => some .nibSum
  | "nib_carry" => some .nibCarry
  | "nib_not" => some .nibNot
  | "nib_high" => some .nibHigh
  | "head" => some .head
  | "tail" => some .tail
  | "stream_eq" => some .streamEq
  | "digits_eq" => some .digitsEq
  | "digits_add" => some .digitsAdd
  | "digits_not" => some .digitsNot
  | "digits_zero" => some .digitsZero
  | "digits_sign" => some .digitsSign
  | "add" => some .add
  | "neg" => some .neg
  | "sub" => some .sub
  | "is_negative" => some .isNegative
  | "id" => some .id
  | "id_eq" => some .idEq
  | "digit_ids" => some .digitIds
  | "kind_id" => some .kindId
  | "kind_eq" => some .kindEq
  | "elems" => some .elems
  | "kind_of" => some .kindOf
  | "append" => some .append
  | "hconcat" => some .hconcat
  | "elems_eq" => some .elemsEq
  | "elem_ids" => some .elemIds
  | "list_eq" => some .listEq
  | "concat" => some .concat
  | "mapped" => some .mapped
  | "map_error" => some .mapError
  | "value_of" => some .valueOf
  | "error_of" => some .errorOf
  | "folded" => some .folded
  | "sum" => some .sum
  | "all" => some .all
  | "any" => some .any
  | "set_of" => some .toSet
  | "insert" => some .insert
  | "is_in" => some .isIn
  | "set_eq" => some .setEq
  | "is_error" => some .isError
  | "earliest" => some .earliest
  | "first_error" => some .firstError
  | "fail_if" => some .failIf
  | "fail_unless" => some .failUnless
  | _ => none

/-- The operation with a name, among those that take a list of type expressions. -/
def ofListName? : String → Option Op
  | "types" => some .types
  | "hlist" => some .hlist
  | "tuple" => some .tuple
  | "concat_lists" => some .concatLists
  | "first_error!" => some .firstOf
  | _ => none

/-- The operation with a name, among those that take a kind and a list of type expressions. -/
def ofKindedName? : String → Option Op
  | "list" => some .listOf
  | "set" => some .setOf
  | _ => none

end Op

/-- The type with a name. -/
def Ty.ofName? : String → Option Ty
  | "bool" => some (.prim .bool)
  | "char" => some (.prim .char)
  | "i8" => some (.prim .i8)
  | "i16" => some (.prim .i16)
  | "i32" => some (.prim .i32)
  | "i64" => some (.prim .i64)
  | "i128" => some (.prim .i128)
  | "isize" => some (.prim .isize)
  | "u8" => some (.prim .u8)
  | "u16" => some (.prim .u16)
  | "u32" => some (.prim .u32)
  | "u64" => some (.prim .u64)
  | "u128" => some (.prim .u128)
  | "usize" => some (.prim .usize)
  | "f32" => some (.prim .f32)
  | "f64" => some (.prim .f64)
  | "()" => some (.prim .unit)
  | "str" => some (.prim .str)
  | "String" => some (.simple Decl.string)
  | "BoolKind" => some (.kind .bool)
  | "IntKind" => some (.kind .int)
  | "TypeKind" => some (.kind .type)
  | "NoError" => some .noError
  | "HNil" => some .hNil
  | "IdNil" => some .idNil
  | "DEnd" => some .dEnd
  | "Meters" => some (.simple Decl.meters)
  | "Seconds" => some (.simple Decl.seconds)
  | "Unit" => some (.simple Decl.unit)
  | "other::Meters" => some (.simple Decl.otherMeters)
  | "Opaque" => some (.simple Decl.hidden)
  | "Falsy" => some (.simple Decl.falsy)
  | "AlwaysTrue" => some (.fn .alwaysTrue)
  | "AlwaysFalse" => some (.fn .alwaysFalse)
  | "Negate" => some (.fn .negate)
  | "CheckNonNegative" => some (.fn .checkNonNegative)
  | "FailAll" => some (.fn .failAll)
  | "IsBoolType" => some (.fn .isBoolType)
  | "RejectFalse" => some (.fn .rejectFalse)
  | "NegInt" => some (.fn .negInt)
  | "SignOf" => some (.fn .signOf)
  | "Wrap" => some (.fn .wrap)
  | "AsType" => some (.fn .asType)
  | "SumEach" => some (.fn .sumEach)
  | "Plus" => some (.combinator .plus)
  | "AddIfAbsent" => some (.combinator .addIfAbsent)
  | "Count" => some (.combinator .count)
  | "Collect" => some (.combinator .collect)
  | "Prepend" => some (.combinator .prepend)
  | "Double" => some (.combinator .double)
  | "Minus" => some (.combinator .minus)
  | "AndC" => some (.combinator .both)
  | "OrC" => some (.combinator .either)
  | "ConcatC" => some (.combinator .join)
  | "FirstC" => some (.combinator .first)
  | _ => none

end KindSeq
