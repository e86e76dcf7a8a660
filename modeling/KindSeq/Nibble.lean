/-
  KindSeq.Nibble

  Four-bit digits, the alphabet of integers and of hash streams: addition with
  a carry on both sides, complement and top bit. The full-adder law
  `sum_add_carry` is what every statement about longer numbers rests on.
-/

namespace KindSeq

/-- A four-bit digit. -/
abbrev Nibble := Fin 16

namespace Nibble

/-- The low four bits of a number. -/
def ofNat (n : Nat) : Nibble := Fin.ofNat 16 n

@[simp] theorem ofNat_val (n : Nat) : (ofNat n).val = n % 16 := rfl

/-- The low nibble of `a + b + c`. -/
def sum (a b : Nibble) (c : Bool) : Nibble :=
  ofNat (a.val + b.val + c.toNat)

/-- Whether `a + b + c` no longer fits in a nibble. -/
def carry (a b : Nibble) (c : Bool) : Bool :=
  decide (16 ≤ a.val + b.val + c.toNat)

/-- The nibble with every bit flipped. -/
def complement (a : Nibble) : Nibble := a.rev

/-- The top bit. -/
def isHigh (a : Nibble) : Bool := decide (8 ≤ a.val)

/-- Whether two nibbles are the same. -/
def eq (a b : Nibble) : Bool := decide (a = b)

/-- The upper-case hexadecimal digit of a nibble. -/
def hexDigit (a : Nibble) : String :=
  match a.val with
  | 10 => "A"
  | 11 => "B"
  | 12 => "C"
  | 13 => "D"
  | 14 => "E"
  | 15 => "F"
  | n => toString n

/-- Sum and carry together lose nothing of `a + b + c`. -/
theorem sum_add_carry (a b : Nibble) (c : Bool) :
    (sum a b c).val + 16 * (carry a b c).toNat = a.val + b.val + c.toNat := by
  have ha := a.isLt
  have hb := b.isLt
  have hc := c.toNat_le
  by_cases h : 16 ≤ a.val + b.val + c.toNat
  · simp only [sum, carry, ofNat_val, h, decide_true, Bool.toNat_true]
    omega
  · simp only [sum, carry, ofNat_val, h, decide_false, Bool.toNat_false]
    omega

@[simp] theorem complement_val (a : Nibble) : (complement a).val = 15 - a.val := by
  have ha := a.isLt
  simp only [complement, Fin.val_rev]
  omega

end Nibble

end KindSeq
