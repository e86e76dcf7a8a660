/-
  KindSeq.Sequence.Basic

  Lists and sets tagged with a kind. `shape?` reads the form, the kind and the
  elements off a term without looking at the elements; `sequence?` also asks
  that every element is a value of the kind.
-/

import KindSeq.Identity

namespace KindSeq

/-- How a sequence holds its elements: in order, or once each. -/
inductive Form where
  | list
  | set
  deriving DecidableEq, Repr

/-- A form, a kind and elements. The elements need not be of the kind. -/
structure Sequence where
  form : Form
  kind : Kind
  elems : List Ty
  deriving DecidableEq

namespace Sequence

/-- The term that spells a sequence. -/
def toTy (s : Sequence) : Ty :=
  match s.form with
  | .list => .list (.kind s.kind) (Ty.ofElems s.elems)
  | .set => .set (.kind s.kind) (Ty.ofElems s.elems)

/-- Whether every element is a value of the sequence's kind. -/
def isWellKinded (s : Sequence) : Bool := s.elems.all s.kind.admits

end Sequence

namespace Ty

/-- The form, kind and elements of a term, whatever the elements are. -/
def shape? : Ty → Option Sequence
  | .list (.kind k) e => e.elems?.map (⟨.list, k, ·⟩)
  | .set (.kind k) e => e.elems?.map (⟨.set, k, ·⟩)
  | _ => none

/-- The sequence that a term stands for. -/
def sequence? (t : Ty) : Option Sequence := t.shape?.filter (·.isWellKinded)

@[simp] theorem shape?_toTy (s : Sequence) : s.toTy.shape? = some s := by
  obtain ⟨form, k, xs⟩ := s
  cases form <;> simp [Sequence.toTy, shape?]

theorem toTy_of_shape? {t : Ty} {s : Sequence} (h : t.shape? = some s) : s.toTy = t := by
  unfold shape? at h
  split at h
  · obtain ⟨xs, hxs, rfl⟩ := Option.map_eq_some_iff.mp h
    simp [Sequence.toTy, ofElems_of_elems? hxs]
  · obtain ⟨xs, hxs, rfl⟩ := Option.map_eq_some_iff.mp h
    simp [Sequence.toTy, ofElems_of_elems? hxs]
  · exact absurd h (by simp)

theorem sequence?_eq_some_iff {t : Ty} {s : Sequence} :
    t.sequence? = some s ↔ t = s.toTy ∧ ∀ x ∈ s.elems, s.kind.admits x = true := by
  rw [sequence?, Option.filter_eq_some_iff, Sequence.isWellKinded, List.all_eq_true]
  constructor
  · rintro ⟨hshape, hall⟩
    exact ⟨(toTy_of_shape? hshape).symm, hall⟩
  · rintro ⟨rfl, hall⟩
    exact ⟨shape?_toTy s, hall⟩

/-- A sequence is sized if its elements are. -/
theorem isSized_toTy {s : Sequence} : s.toTy.isSized = true ↔ ∀ x ∈ s.elems, x.isSized = true := by
  have htoTy : s.toTy.isSized = (true && (ofElems s.elems).isSized && true) := by
    obtain ⟨form, k, xs⟩ := s
    cases form with
    | list => rfl
    | set => rfl
  rw [htoTy, Bool.true_and, Bool.and_true, isSized_ofElems]

/-- The elements of an element list of kind `k`. -/
def elemsOf? (k : Kind) (e : Ty) : Option (List Ty) := e.elems?.filter (·.all k.admits)

/-- `x` put at the end of an element list. -/
def append (e x : Ty) : Option Ty := e.elems?.map fun xs => ofElems (xs ++ [x])

/-- The first list with its end replaced by `rest`, which can be anything. -/
def hconcat : Ty → Ty → Option Ty
  | .hNil, rest => some rest
  | .hCons x e, rest => (e.hconcat rest).map (.hCons x)
  | _, _ => none

/-- Element-wise equality under a kind. It reads both lists as far as the
    shorter one goes, and lists of different length differ. -/
def elemsEq (k : Kind) : Ty → Ty → Option Bool
  | .hNil, .hNil => some true
  | .hNil, .hCons _ _ => some false
  | .hCons _ _, .hNil => some false
  | .hCons a s, .hCons b t => do
    let x ← k.eq a b
    let y ← elemsEq k s t
    return x && y
  | _, _ => none

/-- Equality of two lists of one kind, in order. -/
def listEq : Ty → Ty → Option Bool
  | .list (.kind k) a, .list (.kind k') b => if k = k' then elemsEq k a b else none
  | _, _ => none

/-- Two lists of one kind, one behind the other. The elements are not checked. -/
def concat : Ty → Ty → Option Ty
  | .list (.kind k) a, .list (.kind k') b =>
    if k = k' then (a.hconcat b).map (.list (.kind k)) else none
  | _, _ => none

/-- Lists joined from the left; a single one is taken as it is. -/
def concatAll : List Ty → Option Ty
  | [] => none
  | s :: rest => rest.foldlM concat s

end Ty

end KindSeq
