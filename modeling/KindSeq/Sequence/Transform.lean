/-
  KindSeq.Sequence.Transform

  Functions on values and their element-wise application. A mapping names the
  kind that it maps into and is undefined where it does not apply; what it
  yields is a value of that kind and an error slot. Applying it to a list of
  elements keeps every value and reports the earliest error. The functions that
  the rest of the library is built from come last: the constants, boolean
  negation and comparison with a fixed value.
-/

import KindSeq.Sequence.Basic
import KindSeq.Sequence.Slot

namespace KindSeq

/-- What a function yields on one element. -/
structure Outcome where
  value : Ty
  error : Slot := .clear

/-- A function construct into the kind `target`. -/
structure Mapping where
  target : Kind
  /-- The function on one element, where it applies. -/
  apply : Ty → Option Outcome
  /-- Every value is of the target kind. -/
  admits_value : ∀ {x o}, apply x = some o → target.admits o.value = true

namespace Mapping

/-- The values of a list of elements and the earliest error among them. -/
def mapElems (f : Mapping) : List Ty → Option (List Ty × Slot)
  | [] => some ([], .clear)
  | x :: xs => do
    let o ← f.apply x
    let r ← f.mapElems xs
    return (o.value :: r.1, o.error.earliest r.2)

/-- A function into the booleans that never fails where it is defined. -/
def ofTest (test : Ty → Option Bool) : Mapping where
  target := .bool
  apply x := (test x).map fun b => ⟨.bool b, .clear⟩
  admits_value h := by
    obtain ⟨b, _, rfl⟩ := Option.map_eq_some_iff.mp h
    rfl

/-- True for every value of any kind. -/
def alwaysTrue : Mapping := ofTest fun _ => some true

/-- False for every value of any kind. -/
def alwaysFalse : Mapping := ofTest fun _ => some false

/-- Boolean negation. -/
def negate : Mapping := ofTest fun x => x.bool?.map (! ·)

/-- Comparison with `y` under the equality of the kind `k`. -/
def equalTo (k : Kind) (y : Ty) : Mapping := ofTest fun x => k.eq x y

/-- The value `v` of the kind `k` for every argument. -/
def constant (k : Kind) (v : Ty) (h : k.admits v = true) : Mapping where
  target := k
  apply _ := some ⟨v, .clear⟩
  admits_value e := by
    obtain rfl := Option.some.inj e
    exact h

end Mapping

end KindSeq
