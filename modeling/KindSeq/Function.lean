/-
  KindSeq.Function

  Terms as functions. `mapping?` reads the function construct off a term, with
  the conditions under which it is one, and `combine` the step that a fold takes
  with a term.
-/

import KindSeq.Declarations
import KindSeq.Sequence.Set

namespace KindSeq

/-! ## Results stay in their kind -/

namespace Ty

theorem admits_ofIntDigits (ds : Digits) : Kind.int.admits (ofIntDigits ds) = true := by
  simp [Kind.admits]

theorem admits_of_add {a b c : Ty} (h : a.add b = some c) : Kind.int.admits c = true := by
  simp only [add, Option.bind_eq_bind, Option.bind_eq_some_iff] at h
  obtain ⟨x, _, y, _, s, _, hc⟩ := h
  obtain rfl := Option.some.inj hc
  exact admits_ofIntDigits s

theorem admits_of_neg {a c : Ty} (h : a.neg = some c) : Kind.int.admits c = true := by
  simp only [neg, Option.bind_eq_bind, Option.bind_eq_some_iff] at h
  obtain ⟨x, _, n, _, hc⟩ := h
  obtain rfl := Option.some.inj hc
  exact admits_ofIntDigits n

theorem admits_of_foldlM_add {xs : List Ty} {a c : Ty} (ha : Kind.int.admits a = true)
    (h : xs.foldlM add a = some c) : Kind.int.admits c = true := by
  induction xs generalizing a with
  | nil =>
    obtain rfl := Option.some.inj h
    exact ha
  | cons x xs ih =>
    simp only [List.foldlM_cons, Option.bind_eq_bind, Option.bind_eq_some_iff] at h
    obtain ⟨b, hb, hc⟩ := h
    exact ih (admits_of_add hb) hc

theorem admits_of_sum {s c : Ty} (h : s.sum = some c) : Kind.int.admits c = true := by
  simp only [sum, folded, Option.bind_eq_bind, Option.bind_eq_some_iff] at h
  obtain ⟨q, _, h⟩ := h
  split at h
  · obtain ⟨q', _, hc⟩ := Option.bind_eq_some_iff.mp h
    exact admits_of_foldlM_add (admits_ofIntDigits _) hc
  · exact absurd h (by simp)

theorem admits_option {x : Ty} (h : Kind.type.admits x = true) :
    Kind.type.admits (apply Decl.option [x]) = true := by
  obtain ⟨i, hi⟩ := Option.isSome_iff_exists.mp h
  obtain ⟨hsized, hid⟩ := valueId?_eq_some_iff.mp hi
  have hoption : (apply Decl.option [x]).isSized = true :=
    isSized_apply.mpr (List.forall_mem_singleton.mpr hsized)
  have hoptionId : (apply Decl.option [x]).id? =
      some (appliedId Decl.option.path (.idCons i .idNil)) := by
    simp [apply, ofElems, id?, ids?, hid, Decl.option]
  rw [Kind.admits, valueId?_eq_some_iff.mpr ⟨hoption, hoptionId⟩, Option.isSome_some]

end Ty

/-! ## Functions of the vocabulary -/

namespace Mapping

/-- A function into the integers that never fails where it is defined. -/
def ofOperation (op : Ty → Option Ty) (h : ∀ {x v}, op x = some v → Kind.int.admits v = true) :
    Mapping where
  target := .int
  apply x := (op x).map fun v => ⟨v, .clear⟩
  admits_value e := by
    obtain ⟨v, hv, rfl⟩ := Option.map_eq_some_iff.mp e
    exact h hv

/-- Passes values of the kind `k` on, with a slot that `report` fills. -/
def passOn (k : Kind) (report : Ty → Option Slot) : Mapping where
  target := k
  apply x := if k.admits x then (report x).map fun s => ⟨x, s⟩ else none
  admits_value e := by
    split at e
    · next hx =>
      obtain ⟨s, _, rfl⟩ := Option.map_eq_some_iff.mp e
      exact hx
    · exact absurd e (by simp)

/-- Fails on negative integers. -/
def checkNonNegative : Mapping :=
  passOn .int fun x => x.isNegative.map fun b => Slot.failIf b (.apply Decl.negative [x])

/-- Fails on every integer. -/
def failAll : Mapping := passOn .int fun x => some (.failed x)

/-- Fails on false. -/
def rejectFalse : Mapping :=
  passOn .bool fun x => x.bool?.map fun b => Slot.failIf (! b) (.simple Decl.falsy)

/-- Whether a type is the host's boolean type; fails if it is not. -/
def isBoolType : Mapping where
  target := .bool
  apply x := (Kind.type.eq x (.prim .bool)).map fun b =>
    ⟨.bool b, Slot.failIf (! b) (.apply Decl.notABool [x])⟩
  admits_value h := by
    obtain ⟨b, _, rfl⟩ := Option.map_eq_some_iff.mp h
    rfl

def addN (n : Ty) : Mapping := ofOperation (fun x => x.add n) Ty.admits_of_add

def negInt : Mapping := ofOperation Ty.neg Ty.admits_of_neg

def sumEach : Mapping := ofOperation Ty.sum Ty.admits_of_sum

def signOf : Mapping := ofTest Ty.isNegative

def asType : Mapping := passOn .type fun _ => some .clear

/-- Wraps a type in the host's option type. -/
def wrap : Mapping where
  target := .type
  apply x := if Kind.type.admits x then some ⟨.apply Decl.option [x], .clear⟩ else none
  admits_value e := by
    split at e
    · next hx =>
      obtain rfl := Option.some.inj e
      exact Ty.admits_option hx
    · exact absurd e (by simp)

end Mapping

/-- The function of a construct without parameters. -/
def Fn.mapping : Fn → Mapping
  | .alwaysTrue => .alwaysTrue
  | .alwaysFalse => .alwaysFalse
  | .negate => .negate
  | .checkNonNegative => .checkNonNegative
  | .failAll => .failAll
  | .isBoolType => .isBoolType
  | .rejectFalse => .rejectFalse
  | .negInt => .negInt
  | .signOf => .signOf
  | .wrap => .wrap
  | .asType => .asType
  | .sumEach => .sumEach

/-- The step of a combinator on an accumulator and an element. -/
def Combinator.step : Combinator → Ty → Ty → Option Ty
  | .plus, acc, x => acc.add x
  | .minus, acc, x => acc.sub x
  | .count, acc, _ => acc.add (Ty.intLit 1)
  | .double, acc, _ => acc.add acc
  | .collect, acc, x => acc.append x
  | .prepend, acc, x => some (.hCons x acc)
  | .both, acc, x => do
    let a ← acc.bool?
    let b ← x.bool?
    return .bool (a && b)
  | .either, acc, x => do
    let a ← acc.bool?
    let b ← x.bool?
    return .bool (a || b)
  | .join, acc, x => acc.concat x
  | .first, acc, x => do
    let a ← acc.slot?
    let b ← x.slot?
    return (a.earliest b).toTy
  | .addIfAbsent, acc, x => acc.insert x

namespace Ty

/-- The function construct that a term stands for. Its conditions hold for empty
    sequences too. -/
def mapping? : Ty → Option Mapping
  | .fn f => some f.mapping
  | .constant (.kind k) v => if h : k.admits v = true then some (.constant k v h) else none
  | .equalTo (.kind k) y => some (.equalTo k y)
  | .memberOf s => if s.sequence?.isSome then some (.memberOf s) else none
  | .addN n => some (.addN n)
  | _ => none

/-- The step that a term stands for; most terms have none. -/
def combine : Ty → Ty → Ty → Option Ty
  | .combinator c, acc, x => c.step acc x
  | _, _, _ => none

end Ty

end KindSeq
