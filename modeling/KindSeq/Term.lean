/-
  KindSeq.Term

  The types that the library computes with, as one tree type `Ty`. A term only
  has to be spelled to exist: `dig` of something that is no nibble, or a list
  whose elements end in something that is no element list, are terms too, and
  the operations of the later modules are undefined on them. Argument lists of
  tuples and nominal types are element lists (`hNil`, `hCons`).
-/

import KindSeq.Nibble

namespace KindSeq

/-- What the values of a sequence are: booleans, integers or types. -/
inductive Kind where
  | bool
  | int
  | type
  deriving DecidableEq, Repr

/-- Primitive types of the host language. -/
inductive Prim where
  | bool | char
  | i8 | i16 | i32 | i64 | i128 | isize
  | u8 | u16 | u32 | u64 | u128 | usize
  | f32 | f64
  | unit | str
  deriving DecidableEq, Repr

/-- References, raw pointers, shared and mutable, and boxes. What they point to need not
    have a size. -/
inductive Pointer where
  | ref | refMut | rawConst | rawMut | box
  deriving DecidableEq, Repr

/-- When a value of a nominal type can be copied implicitly. -/
inductive Copying where
  | never
  | always
  /-- If all type arguments can. -/
  | byArguments
  deriving DecidableEq, Repr

/-- A nominal type definition, seen from outside. -/
structure Decl where
  /-- The qualified name. -/
  path : String
  /-- Whether the type carries an identity, so that it is a value of kind `type`. -/
  identified : Bool := true
  /-- The default of the last parameter. -/
  lastDefault : Option Prim := none
  copying : Copying := .never
  deriving DecidableEq, Repr

/-- Function constructs without parameters. -/
inductive Fn where
  | alwaysTrue | alwaysFalse | negate
  | checkNonNegative | failAll | isBoolType | rejectFalse
  | negInt | signOf | wrap | asType | sumEach
  deriving DecidableEq, Repr

/-- Binary steps that a fold can take. -/
inductive Combinator where
  | plus | addIfAbsent
  | count | collect | prepend | double | minus
  | both | either | join | first
  deriving DecidableEq, Repr

/-- Type terms. -/
inductive Ty where
  | bool (b : Bool)
  | nibble (n : Nibble)
  | kind (k : Kind)
  | prim (p : Prim)
  /-- End of a digit list. -/
  | dEnd
  /-- One digit before the more significant ones. -/
  | dig (n rest : Ty)
  | int (digits : Ty)
  /-- The endless stream of one nibble. -/
  | constStream (n : Ty)
  /-- Sixteen numbers, repeated for ever. -/
  | hashStream (numbers : Vector UInt8 16)
  | zero
  | succ (n : Ty)
  /-- Nominal identity: the hash stream of a qualified name. -/
  | named (stream : Ty)
  /-- Identity of a constructor applied to an identity list. -/
  | applied (ctor args : Ty)
  | idNil
  | idCons (head tail : Ty)
  | hNil
  | hCons (head tail : Ty)
  | list (kind elems : Ty)
  | set (kind elems : Ty)
  | noError
  | fail (error : Ty)
  | pointer (p : Pointer) (target : Ty)
  | slice (elem : Ty)
  | array (elem : Ty) (length : Nat)
  /-- A tuple with at least one component; without components it is `prim .unit`. -/
  | tuple (components : Ty)
  | nominal (decl : Decl) (args : Ty)
  | fn (f : Fn)
  /-- The function with one value `v` of kind `k`. -/
  | constant (k v : Ty)
  /-- Comparison with `y` under the equality of kind `k`. -/
  | equalTo (k y : Ty)
  /-- Membership in a sequence. -/
  | memberOf (sequence : Ty)
  /-- Addition of a fixed integer. -/
  | addN (n : Ty)
  | combinator (c : Combinator)
  deriving DecidableEq

namespace Ty

instance : Inhabited Ty := ⟨.hNil⟩

/-- The element list with these elements. -/
def ofElems : List Ty → Ty
  | [] => .hNil
  | x :: xs => .hCons x (ofElems xs)

/-- The elements of an element list; anything else has none. -/
def elems? : Ty → Option (List Ty)
  | .hNil => some []
  | .hCons x rest => rest.elems?.map (x :: ·)
  | _ => none

@[simp] theorem elems?_ofElems (xs : List Ty) : (ofElems xs).elems? = some xs := by
  induction xs with
  | nil => rfl
  | cons x xs ih => simp [ofElems, elems?, ih]

theorem ofElems_of_elems? {t : Ty} {xs : List Ty} (h : t.elems? = some xs) : ofElems xs = t := by
  induction xs generalizing t with
  | nil => cases t <;> simp_all [elems?, ofElems]
  | cons x xs ih =>
    cases t with
    | hCons y rest =>
      simp only [elems?, Option.map_eq_some_iff, List.cons.injEq] at h
      obtain ⟨ys, hys, rfl, rfl⟩ := h
      rw [ofElems, ih hys]
    | _ => simp [elems?] at h

/-- The tuple of these components; without any it is the unit type. -/
def ofTuple : List Ty → Ty
  | [] => .prim .unit
  | x :: xs => .tuple (ofElems (x :: xs))

/-- The Peano number `n`. -/
def peano : Nat → Ty
  | 0 => .zero
  | n + 1 => .succ (peano n)

/-- A nominal type without parameters. -/
def simple (d : Decl) : Ty := .nominal d .hNil

/-- A nominal type applied to arguments. -/
def apply (d : Decl) (args : List Ty) : Ty := .nominal d (ofElems args)

/-- Whether values of a well-formed type have a size known in advance. -/
def hasSize : Ty → Bool
  | .prim .str => false
  | .slice _ => false
  | _ => true

/-- Whether a type is well-formed: all its arguments have a size, except what a pointer
    points to. -/
def isWellFormed : Ty → Bool
  | .pointer _ t => t.isWellFormed
  | .int t | .constStream t | .succ t | .named t | .fail t | .slice t | .array t _ | .tuple t
  | .nominal _ t | .memberOf t | .addN t => t.isWellFormed && t.hasSize
  | .dig s t | .applied s t | .idCons s t | .hCons s t | .list s t | .set s t | .constant s t
  | .equalTo s t => (s.isWellFormed && s.hasSize) && (t.isWellFormed && t.hasSize)
  | _ => true

/-- Whether a type is well-formed and its values have a size known in advance. -/
def isSized (t : Ty) : Bool := t.isWellFormed && t.hasSize

/-- An element list is sized if its elements are. -/
theorem isSized_ofElems {xs : List Ty} :
    (ofElems xs).isSized = true ↔ ∀ x ∈ xs, x.isSized = true := by
  induction xs with
  | nil => simp [ofElems, isSized, isWellFormed, hasSize]
  | cons x xs ih =>
    have hcons : (ofElems (x :: xs)).isSized = (x.isSized && (ofElems xs).isSized && true) := rfl
    rw [hcons, Bool.and_true, Bool.and_eq_true, ih, List.forall_mem_cons]

theorem isSized_apply {d : Decl} {args : List Ty} :
    (apply d args).isSized = true ↔ ∀ x ∈ args, x.isSized = true := by
  have happly : (apply d args).isSized = ((ofElems args).isSized && true) := rfl
  rw [happly, Bool.and_true, isSized_ofElems]

/-- Whether two booleans are the same, case by case. -/
def boolEq : Bool → Bool → Bool
  | true, true => true
  | true, false => false
  | false, true => false
  | false, false => true

theorem boolEq_eq_decide (a b : Bool) : boolEq a b = decide (a = b) := by
  cases a <;> cases b <;> rfl

/-- The boolean that a term stands for. -/
def bool? : Ty → Option Bool
  | .bool b => some b
  | _ => none

theorem eq_bool_of_bool? {t : Ty} {b : Bool} (h : t.bool? = some b) : t = .bool b := by
  cases t with
  | bool c => rw [Option.some.inj h]
  | _ => exact absurd h (by simp [bool?])

/-- The nibble that a term stands for. -/
def nibble? : Ty → Option Nibble
  | .nibble n => some n
  | _ => none

/-- The kind that a term stands for. -/
def kind? : Ty → Option Kind
  | .kind k => some k
  | _ => none

mutual

/-- Whether values of the type can be copied implicitly. -/
def isCopy : Ty → Bool
  | .bool _ | .nibble _ | .kind _ | .dEnd | .int _ | .hNil | .list .. | .set .. | .noError => true
  | .prim p => p != .str
  | .pointer p _ => p != .refMut && p != .box
  | .array t _ => t.isCopy
  | .tuple ts => ts.allCopy
  | .nominal d args =>
    match d.copying with
    | .never => false
    | .always => true
    | .byArguments => args.allCopy
  | .fn f => f == .alwaysTrue || f == .alwaysFalse || f == .negate
  | .combinator c => c == .plus || c == .addIfAbsent
  | _ => false

/-- Whether every type of an element list can be copied implicitly. -/
def allCopy : Ty → Bool
  | .hNil => true
  | .hCons x rest => x.isCopy && rest.allCopy
  | _ => false

end

end Ty

end KindSeq
