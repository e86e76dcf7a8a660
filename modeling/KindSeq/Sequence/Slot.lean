/-
  KindSeq.Sequence.Slot

  Error slots: either clear, or holding a failure. The earliest failure of a
  list of slots is the one that is reported.
-/

import KindSeq.Term

namespace KindSeq

/-- A place for an error. -/
inductive Slot where
  | clear
  | failed (error : Ty)
  deriving DecidableEq

namespace Slot

/-- Whether the slot holds a failure. -/
def isError : Slot → Bool
  | .clear => false
  | .failed _ => true

/-- The first slot if it holds a failure, otherwise the second. -/
def earliest : Slot → Slot → Slot
  | .clear, s => s
  | .failed e, _ => .failed e

/-- The first failure of a list of slots. -/
def first : List Slot → Slot
  | [] => .clear
  | s :: rest => s.earliest (first rest)

/-- A failure with error `e` exactly if `b` holds. -/
def failIf (b : Bool) (e : Ty) : Slot := if b then .failed e else .clear

/-- The term that spells a slot. -/
def toTy : Slot → Ty
  | .clear => .noError
  | .failed e => .fail e

end Slot

namespace Ty

/-- The slot that a term stands for. -/
def slot? : Ty → Option Slot
  | .noError => some .clear
  | .fail e => some (.failed e)
  | _ => none

@[simp] theorem slot?_toTy (s : Slot) : s.toTy.slot? = some s := by
  cases s <;> rfl

/-- The first failure of an element list of slots. -/
def firstError (e : Ty) : Option Ty := do
  let xs ← e.elems?
  let slots ← xs.mapM slot?
  return (Slot.first slots).toTy

end Ty

end KindSeq
