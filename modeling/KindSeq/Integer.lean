/-
  KindSeq.Integer

  Integers as terms: `int` around a digit list. The digit lists of terms are
  read by `digits?` and written by `ofDigits`; arithmetic goes through that
  view, so it exists on a term exactly if it exists on the digits.
-/

import KindSeq.Digits
import KindSeq.Term

namespace KindSeq.Ty

/-- The digit list of a term; anything but a chain of nibbles has none. -/
def digits? : Ty → Option Digits
  | .dEnd => some []
  | .dig (.nibble d) rest => rest.digits?.map (d :: ·)
  | _ => none

/-- The term that spells a digit list. -/
def ofDigits : Digits → Ty
  | [] => .dEnd
  | d :: ds => .dig (.nibble d) (ofDigits ds)

@[simp] theorem digits?_ofDigits (ds : Digits) : (ofDigits ds).digits? = some ds := by
  induction ds with
  | nil => rfl
  | cons d ds ih => simp [ofDigits, digits?, ih]

theorem ofDigits_of_digits? {t : Ty} {ds : Digits} (h : t.digits? = some ds) :
    ofDigits ds = t := by
  induction ds generalizing t with
  | nil =>
    unfold digits? at h
    split at h <;> simp_all [ofDigits]
  | cons d ds ih =>
    unfold digits? at h
    split at h
    · simp at h
    · next e rest =>
      simp only [Option.map_eq_some_iff, List.cons.injEq] at h
      obtain ⟨es, hes, rfl, rfl⟩ := h
      rw [ofDigits, ih hes]
    · simp at h

/-- The digits of an integer term. -/
def intDigits? : Ty → Option Digits
  | .int d => d.digits?
  | _ => none

/-- The integer term with these digits. -/
def ofIntDigits (ds : Digits) : Ty := .int (ofDigits ds)

@[simp] theorem intDigits?_ofIntDigits (ds : Digits) : (ofIntDigits ds).intDigits? = some ds := by
  simp [ofIntDigits, intDigits?]

theorem ofIntDigits_of_intDigits? {t : Ty} {ds : Digits} (h : t.intDigits? = some ds) :
    ofIntDigits ds = t := by
  cases t with
  | int d => rw [ofIntDigits, ofDigits_of_digits? h]
  | _ => exact absurd h (by simp [intDigits?])

theorem isSized_ofDigits (ds : Digits) : (ofDigits ds).isSized = true := by
  induction ds with
  | nil => rfl
  | cons d ds ih =>
    have hcons : (ofDigits (d :: ds)).isSized = (true && (ofDigits ds).isSized && true) := rfl
    rw [hcons, ih]
    rfl

theorem isSized_ofIntDigits (ds : Digits) : (ofIntDigits ds).isSized = true := by
  have hint : (ofIntDigits ds).isSized = ((ofDigits ds).isSized && true) := rfl
  rw [hint, isSized_ofDigits, Bool.true_and]

/-- The sixteen-digit integer of a 64-bit value. -/
def intLit (v : Int) : Ty := ofIntDigits (Digits.ofInt v)

/-- The 64-bit value of an integer of any length. -/
def intValue? (t : Ty) : Option Int := t.intDigits?.map Digits.toInt

/-- Digit-wise equality; lists of different length differ. -/
def digitsEq (a b : Ty) : Option Bool := do
  let x ← a.digits?
  let y ← b.digits?
  return Digits.eq x y

def digitsAdd (a b : Ty) (carry : Bool) : Option Ty := do
  let x ← a.digits?
  let y ← b.digits?
  let s ← Digits.add x y carry
  return ofDigits s

def add (a b : Ty) : Option Ty := do
  let x ← a.intDigits?
  let y ← b.intDigits?
  let s ← Digits.add x y false
  return ofIntDigits s

def neg (a : Ty) : Option Ty := do
  let x ← a.intDigits?
  let n ← Digits.neg x
  return ofIntDigits n

def sub (a b : Ty) : Option Ty := do
  let n ← b.neg
  a.add n

/-- The sign of an integer with at least one digit. -/
def isNegative (a : Ty) : Option Bool := do
  let x ← a.intDigits?
  Digits.sign? x

end KindSeq.Ty
