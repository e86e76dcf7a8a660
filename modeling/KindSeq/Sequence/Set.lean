/-
  KindSeq.Sequence.Set

  Membership, insertion, deduplication and extensional equality. Membership
  compares every element with the candidate under the sequence's kind, so an
  empty sequence has a membership test for any sized type at all, and insertion
  into an empty set takes any.
-/

import KindSeq.Sequence.Fold

namespace KindSeq

namespace Ty

/-- Whether the sized type `x` is in the sequence `s`: whether any of the comparisons with
    its elements holds. All of them have to exist. -/
def isIn (s x : Ty) : Option Bool := do
  let q ← s.sequence?
  if x.isSized then do
    let flags ← (Mapping.equalTo q.kind x).mapElems q.elems
    any (.list (.kind .bool) (ofElems flags.1))
  else none

end Ty

/-- Membership in the sequence `s`. -/
def Mapping.memberOf (s : Ty) : Mapping := ofTest s.isIn

namespace Ty

/-- The set `s` with `x` at its end, or `s` itself if `x` is in it. -/
def insert : Ty → Ty → Option Ty
  | .set k e, x => do
    let present ← isIn (.set k e) x
    let longer ← e.append x
    return if present then .set k e else .set k longer
  | _, _ => none

/-- The set of the first occurrences in a sequence, in their order. -/
def toSet (s : Ty) : Option Ty := do
  let q ← s.sequence?
  s.folded (.set (.kind q.kind) .hNil) insert

/-- Whether every element of `s` is in `t`. -/
def isSubset (s t : Ty) : Option Bool := do
  let q ← s.sequence?
  let flags ← (Mapping.memberOf t).mapElems q.elems
  all (.list (.kind .bool) (ofElems flags.1))

/-- Whether two sequences of one kind have the same members. -/
def setEq (a b : Ty) : Option Bool := do
  let p ← a.sequence?
  let q ← b.sequence?
  if p.kind = q.kind then do
    let left ← a.isSubset b
    let right ← b.isSubset a
    return left && right
  else none

/-- A function applied to every element of a list or set whose elements are not
    checked: the mapped list, or the set of the mapped values, and the earliest
    error. -/
def transform (s : Ty) (f : Mapping) : Option (Ty × Slot) := do
  let q ← s.shape?
  let r ← f.mapElems q.elems
  let mapped := Ty.list (.kind f.target) (ofElems r.1)
  match q.form with
  | .list => return (mapped, r.2)
  | .set => do
    let out ← mapped.toSet
    return (out, r.2)

/-- The sequence of the mapped values. -/
def mapped (s : Ty) (f : Mapping) : Option Ty := (s.transform f).map (·.1)

/-- The error slot of the earliest failing element. -/
def mapError (s : Ty) (f : Mapping) : Option Ty := (s.transform f).map (·.2.toTy)

end Ty

end KindSeq
