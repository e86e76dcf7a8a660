/-
  KindSeq.Digits

  Little-endian digit lists of any length, read as unsigned numbers by `value`
  and, in 64 bits, as patterns by `bits` and as two's complement integers by
  `toInt`. Addition ripples a carry and drops the last one; it is defined for
  lists of one length.
-/

import KindSeq.Nibble

namespace KindSeq

/-- A little-endian list of nibbles. -/
abbrev Digits := List Nibble

namespace Digits

/-- The number that the digits write: the first digit counts ones. -/
def value : Digits → Nat
  | [] => 0
  | d :: ds => d.val + 16 * value ds

@[simp] theorem value_nil : value [] = 0 := rfl

@[simp] theorem value_cons (d : Nibble) (ds : Digits) :
    value (d :: ds) = d.val + 16 * value ds := rfl

/-- Digit-wise equality. Lists of different length differ, and all digits up to the end of
    the shorter list are compared. -/
def eq : Digits → Digits → Bool
  | [], [] => true
  | [], _ :: _ => false
  | _ :: _, [] => false
  | a :: as, b :: bs => Nibble.eq a b && eq as bs

/-- Comparing digit by digit decides whether two lists are one. -/
theorem eq_eq_decide (as bs : Digits) : eq as bs = decide (as = bs) := by
  induction as generalizing bs with
  | nil =>
    cases bs with
    | nil => rfl
    | cons b bs => rfl
  | cons a as ih =>
    cases bs with
    | nil => rfl
    | cons b bs =>
      rw [eq, ih, Nibble.eq, ← Bool.decide_and]
      simp only [List.cons.injEq]

/-- Digit-wise sum with an incoming carry. The last carry is dropped, and lists
    of different length have no sum. -/
def add : Digits → Digits → Bool → Option Digits
  | [], [], _ => some []
  | a :: as, b :: bs, c => (add as bs (Nibble.carry a b c)).map (Nibble.sum a b c :: ·)
  | _, _, _ => none

/-- Every digit complemented. -/
def complement (ds : Digits) : Digits := ds.map Nibble.complement

/-- As many zeros as there are digits. -/
def zeros (ds : Digits) : Digits := ds.map fun _ => Nibble.ofNat 0

/-- Two's complement negation: the complement plus one, at the same width. -/
def neg (ds : Digits) : Option Digits := add (complement ds) (zeros ds) true

/-- The difference, as the sum with the negated subtrahend. -/
def sub (a b : Digits) : Option Digits := do
  let n ← neg b
  add a n false

/-- The top bit of the most significant digit; the empty list has none. -/
def sign? (ds : Digits) : Option Bool := ds.getLast?.map Nibble.isHigh

/-- The lowest `width` digits of `n`. -/
def ofNat : (width : Nat) → (n : Nat) → Digits
  | 0, _ => []
  | w + 1, n => Nibble.ofNat n :: ofNat w (n / 16)

@[simp] theorem length_ofNat (w n : Nat) : (ofNat w n).length = w := by
  induction w generalizing n with
  | zero => rfl
  | succ w ih => simp [ofNat, ih]

/-- The sixteen digits of a 64-bit two's complement integer. -/
def ofInt (v : Int) : Digits := ofNat 16 (v % Int.pow 2 64).toNat

/-- The digits as a 64-bit pattern, the first digit lowest. What does not fit is
    shifted out. -/
def bits : Digits → UInt64
  | [] => 0
  | d :: ds => UInt64.ofNat d.val ||| bits ds <<< 4

/-- The 64-bit pattern, read in two's complement. -/
def toInt (ds : Digits) : Int := (bits ds).toInt64.toInt

end Digits

end KindSeq
