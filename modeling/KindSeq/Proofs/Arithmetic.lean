/-
  KindSeq.Proofs.Arithmetic

  Digit arithmetic is arithmetic modulo a power of sixteen. The carry ripples
  from the least significant digit on, so the statement about addition is for
  every incoming carry: `add_eq` says that the digits of a sum are the lowest
  digits of the exact sum, and with it negation, subtraction and the 64-bit
  integers are a matter of reading numbers through `ofNat`.
-/

import Mathlib.Tactic.Ring
import KindSeq.Integer
import KindSeq.Proofs.NibbleTable

namespace KindSeq

namespace Nibble

/-- The low digit of `a + b + c` does not depend on what stands behind it. -/
theorem sum_eq_ofNat (a b : Nibble) (c : Bool) (m : Nat) :
    sum a b c = ofNat (a.val + b.val + c.toNat + 16 * m) := by
  apply Fin.ext
  rw [sum, ofNat_val, ofNat_val, Nat.add_mul_mod_self_left]

/-- The outgoing carry is what `a + b + c` has above its low digit. -/
theorem carry_toNat (a b : Nibble) (c : Bool) :
    (carry a b c).toNat = (a.val + b.val + c.toNat) / 16 := by
  have hsum : (sum a b c).val < 16 := (sum a b c).isLt
  have hlaw := sum_add_carry a b c
  omega

end Nibble

namespace Digits

/-! ## Reading and writing -/

theorem value_lt (ds : Digits) : value ds < 16 ^ ds.length := by
  induction ds with
  | nil => simp
  | cons d ds ih =>
    have hd := d.isLt
    simp only [value_cons, List.length_cons, Nat.pow_succ]
    omega

/-- Reading back keeps what fits in the width. -/
theorem value_ofNat (w n : Nat) : value (ofNat w n) = n % 16 ^ w := by
  induction w generalizing n with
  | zero => simp [ofNat, Nat.mod_one]
  | succ w ih =>
    simp only [ofNat, value_cons, Nibble.ofNat_val, ih]
    rw [Nat.pow_succ, Nat.mul_comm (16 ^ w) 16, Nat.mod_mul]

/-- The digits of a list are the digits of its number. -/
theorem ofNat_value (ds : Digits) : ofNat ds.length (value ds) = ds := by
  induction ds with
  | nil => rfl
  | cons d ds ih =>
    have hd : d.val < 16 := d.isLt
    have hlow : Nibble.ofNat (d.val + 16 * value ds) = d := by
      apply Fin.ext
      rw [Nibble.ofNat_val, Nat.add_mul_mod_self_left, Nat.mod_eq_of_lt hd]
    have hhigh : (d.val + 16 * value ds) / 16 = value ds := by omega
    rw [List.length_cons, value_cons, ofNat, hlow, hhigh, ih]

/-- A width sees a number only modulo its power of sixteen. -/
theorem ofNat_mod (w n : Nat) : ofNat w (n % 16 ^ w) = ofNat w n := by
  have h := ofNat_value (ofNat w n)
  rwa [length_ofNat, value_ofNat] at h

theorem ofNat_congr {w m n : Nat} (h : m % 16 ^ w = n % 16 ^ w) : ofNat w m = ofNat w n := by
  rw [← ofNat_mod w m, h, ofNat_mod]

/-! ## Addition -/

/-- The sum of two lists of one length, whatever carry comes in: the lowest
    digits of the exact sum. -/
theorem add_eq {a b : Digits} (h : a.length = b.length) (c : Bool) :
    add a b c = some (ofNat a.length (value a + value b + c.toNat)) := by
  -- The carry differs from digit to digit, so the induction is for every carry.
  induction a generalizing b c with
  | nil =>
    cases b with
    | nil => rfl
    | cons y bs => simp at h
  | cons x as ih =>
    cases b with
    | nil => simp at h
    | cons y bs =>
      have hlen : as.length = bs.length := by simpa using h
      have hexact : value (x :: as) + value (y :: bs) + c.toNat
          = x.val + y.val + c.toNat + 16 * (value as + value bs) := by
        simp only [value_cons]
        ring
      have hrest : (x.val + y.val + c.toNat + 16 * (value as + value bs)) / 16
          = value as + value bs + (Nibble.carry x y c).toNat := by
        rw [Nibble.carry_toNat]
        omega
      rw [hexact, List.length_cons, ofNat, hrest,
        ← Nibble.sum_eq_ofNat x y c (value as + value bs), add, ih hlen, Option.map_some]

theorem add_eq_none {a b : Digits} (h : a.length ≠ b.length) (c : Bool) : add a b c = none := by
  induction a generalizing b c with
  | nil =>
    cases b with
    | nil => exact absurd rfl h
    | cons y bs => rfl
  | cons x as ih =>
    cases b with
    | nil => rfl
    | cons y bs =>
      have hlen : as.length ≠ bs.length := by simpa using h
      rw [add, ih hlen, Option.map_none]

/-! ## Negation and subtraction -/

@[simp] theorem length_complement (ds : Digits) : (complement ds).length = ds.length := by
  simp [complement]

@[simp] theorem length_zeros (ds : Digits) : (zeros ds).length = ds.length := by
  simp [zeros]

@[simp] theorem value_zeros (ds : Digits) : value (zeros ds) = 0 := by
  induction ds with
  | nil => rfl
  | cons d ds ih =>
    rw [zeros, List.map_cons, value_cons]
    rw [zeros] at ih
    rw [ih]
    rfl

/-- A number and its complement fill the width with ones. -/
theorem value_complement_add (ds : Digits) :
    value (complement ds) + value ds + 1 = 16 ^ ds.length := by
  induction ds with
  | nil => rfl
  | cons d ds ih =>
    have hd : d.val < 16 := d.isLt
    rw [complement] at ih
    simp only [complement, List.map_cons, value_cons, Nibble.complement_val, List.length_cons,
      Nat.pow_succ]
    omega

/-- Complement plus one is the distance to the next power. -/
theorem neg_eq (ds : Digits) : neg ds = some (ofNat ds.length (16 ^ ds.length - value ds)) := by
  have hfill := value_complement_add ds
  have hsum : value (complement ds) + value (zeros ds) + true.toNat
      = 16 ^ ds.length - value ds := by
    rw [value_zeros, Bool.toNat_true]
    omega
  rw [neg, add_eq (by simp), hsum, length_complement]

theorem sub_eq {a b : Digits} (h : a.length = b.length) :
    sub a b = some (ofNat a.length (value a + (16 ^ b.length - value b))) := by
  have hlen : a.length = (ofNat b.length (16 ^ b.length - value b)).length := by
    rw [length_ofNat, h]
  have hmod : ofNat a.length (value a + value (ofNat b.length (16 ^ b.length - value b)) + false.toNat)
      = ofNat a.length (value a + (16 ^ b.length - value b)) := by
    apply ofNat_congr
    rw [value_ofNat, h, Bool.toNat_false, Nat.add_zero, Nat.add_mod_mod]
  rw [sub, neg_eq, Option.bind_eq_bind, Option.bind_some, add_eq hlen, hmod]

theorem sub_eq_none {a b : Digits} (h : a.length ≠ b.length) : sub a b = none := by
  rw [sub, neg_eq, Option.bind_eq_bind, Option.bind_some, add_eq_none]
  rwa [length_ofNat]

/-- Below the power that a width wraps at, the distance to it is the negative. -/
theorem cast_pow_sub_emod (ds : Digits) (m : Int) :
    (m + ((16 ^ ds.length - value ds : Nat) : Int)) % 16 ^ ds.length
      = (m - value ds) % 16 ^ ds.length := by
  have hlt : value ds ≤ 16 ^ ds.length := Nat.le_of_lt (value_lt ds)
  have hcast : ((16 ^ ds.length - value ds : Nat) : Int) = 16 ^ ds.length - value ds := by
    rw [Nat.cast_sub hlt]
    simp
  have hshift : m + (16 ^ ds.length - (value ds : Int)) = m - value ds + 16 ^ ds.length := by ring
  rw [hcast, hshift, Int.add_emod_right]

/-! ## 64-bit integers -/

theorem ofInt_eq (v : Int) : ofInt v = ofNat 16 (v % 2 ^ 64).toNat := rfl

@[simp] theorem length_ofInt (v : Int) : (ofInt v).length = 16 := length_ofNat 16 _

/-- The sixteen digits of an integer write it modulo `2 ^ 64`. -/
theorem value_ofInt (v : Int) : (value (ofInt v) : Int) = v % 2 ^ 64 := by
  have hnonneg : 0 ≤ v % 2 ^ 64 := Int.emod_nonneg v (by decide)
  have hlt : v % 2 ^ 64 < 2 ^ 64 := Int.emod_lt_of_pos v (by decide)
  have hfits : (v % 2 ^ 64).toNat % 16 ^ 16 = (v % 2 ^ 64).toNat := Nat.mod_eq_of_lt (by omega)
  rw [ofInt_eq, value_ofNat, hfits, Int.toNat_of_nonneg hnonneg]

theorem ofInt_congr {v w : Int} (h : v % 2 ^ 64 = w % 2 ^ 64) : ofInt v = ofInt w := by
  rw [ofInt_eq, h, ofInt_eq]

theorem ofNat_eq_ofInt {m : Nat} {v : Int} (h : (m : Int) % 2 ^ 64 = v % 2 ^ 64) :
    ofNat 16 m = ofInt v := by
  rw [ofInt_eq]
  apply ofNat_congr
  omega

/-- Shifting digits together keeps the number modulo `2 ^ 64`. -/
theorem toNat_bits (ds : Digits) : (bits ds).toNat = value ds % 2 ^ 64 := by
  induction ds with
  | nil => rfl
  | cons d ds ih =>
    have hd : d.val < 2 ^ 4 := d.isLt
    have hlow : (UInt64.ofNat d.val).toNat = d.val := by
      rw [UInt64.toNat_ofNat']
      omega
    have hhigh : (bits ds <<< 4).toNat = 2 ^ 4 * (value ds % 2 ^ 60) := by
      have hamount : (4 : UInt64).toNat % 64 = 4 := rfl
      rw [UInt64.toNat_shiftLeft, ih, hamount, Nat.shiftLeft_eq]
      omega
    -- The digit fills the four bits that the shift has freed, so "or" is a sum.
    rw [bits, UInt64.toNat_or, hlow, hhigh, Nat.or_comm, ← Nat.two_pow_add_eq_or_of_lt hd,
      value_cons]
    omega

theorem toInt_eq (ds : Digits) : toInt ds = (value ds : Int).bmod (2 ^ 64) := by
  have hread : toInt ds = ((bits ds).toNat : Int).bmod (2 ^ 64) :=
    (bits ds).toBitVec.toInt_eq_toNat_bmod
  have hcast : ((value ds % 2 ^ 64 : Nat) : Int) = (value ds : Int) % ((2 ^ 64 : Nat) : Int) :=
    Int.natCast_emod _ _
  rw [hread, toNat_bits, hcast, Int.emod_bmod]

/-- Read back as a signed integer, the sixteen digits of `v` are `v` wrapped at 64 bits. -/
theorem toInt_ofInt (v : Int) : toInt (ofInt v) = v.bmod (2 ^ 64) := by
  have hcast : v % 2 ^ 64 = v % ((2 ^ 64 : Nat) : Int) := by rw [Nat.cast_pow, Nat.cast_ofNat]
  rw [toInt_eq, value_ofInt, hcast, Int.emod_bmod]

theorem add_ofInt (v w : Int) : add (ofInt v) (ofInt w) false = some (ofInt (v + w)) := by
  have hv := value_ofInt v
  have hw := value_ofInt w
  have hsum : ofNat 16 (value (ofInt v) + value (ofInt w) + false.toNat) = ofInt (v + w) := by
    apply ofNat_eq_ofInt
    rw [Bool.toNat_false]
    omega
  rw [add_eq (by simp), length_ofInt, hsum]

theorem neg_ofInt (v : Int) : neg (ofInt v) = some (ofInt (-v)) := by
  have hv := value_ofInt v
  have hneg : ofNat 16 (16 ^ 16 - value (ofInt v)) = ofInt (-v) := by
    apply ofNat_eq_ofInt
    omega
  rw [neg_eq, length_ofInt, hneg]

end Digits

namespace Ty

/-! ## Integers as terms -/

theorem digitsAdd_ofDigits (a b : Digits) (c : Bool) :
    digitsAdd (ofDigits a) (ofDigits b) c = (Digits.add a b c).map ofDigits := by
  rw [digitsAdd, digits?_ofDigits, digits?_ofDigits, Option.map_eq_bind]
  rfl

theorem add_ofIntDigits (a b : Digits) :
    add (ofIntDigits a) (ofIntDigits b) = (Digits.add a b false).map ofIntDigits := by
  rw [add, intDigits?_ofIntDigits, intDigits?_ofIntDigits, Option.map_eq_bind]
  rfl

theorem neg_ofIntDigits (a : Digits) :
    neg (ofIntDigits a) = (Digits.neg a).map ofIntDigits := by
  rw [neg, intDigits?_ofIntDigits, Option.map_eq_bind]
  rfl

theorem sub_ofIntDigits (a b : Digits) :
    sub (ofIntDigits a) (ofIntDigits b) = (Digits.sub a b).map ofIntDigits := by
  rw [sub, neg_ofIntDigits, Digits.sub]
  cases Digits.neg b with
  | none => rfl
  | some n => exact add_ofIntDigits a n

/-- Literals of integers that agree modulo `2 ^ 64` are one type. -/
theorem intLit_congr {v w : Int} (h : v % 2 ^ 64 = w % 2 ^ 64) : intLit v = intLit w := by
  rw [intLit, Digits.ofInt_congr h, intLit]

theorem add_intLit (v w : Int) : add (intLit v) (intLit w) = some (intLit (v + w)) := by
  rw [intLit, intLit, add_ofIntDigits, Digits.add_ofInt, Option.map_some, intLit]

theorem neg_intLit (v : Int) : neg (intLit v) = some (intLit (-v)) := by
  rw [intLit, neg_ofIntDigits, Digits.neg_ofInt, Option.map_some, intLit]

theorem sub_intLit (v w : Int) : sub (intLit v) (intLit w) = some (intLit (v - w)) := by
  rw [sub, neg_intLit, Int.sub_eq_add_neg]
  exact add_intLit v (-w)

theorem intValue?_intLit (v : Int) : (intLit v).intValue? = some (v.bmod (2 ^ 64)) := by
  rw [intValue?, intLit, intDigits?_ofIntDigits, Option.map_some, Digits.toInt_ofInt]

/-- The result `r` is an integer of `n` digits that writes `v` modulo `16 ^ n`. -/
def IsIntMod (r : Option Ty) (n : Nat) (v : Int) : Prop :=
  ∃ s : Digits, r = some (ofIntDigits s) ∧ s.length = n ∧ (s.value : Int) = v % 16 ^ n

theorem isIntMod_ofNat {n m : Nat} {v : Int} (h : (m : Int) % 16 ^ n = v % 16 ^ n) :
    IsIntMod (some (ofIntDigits (Digits.ofNat n m))) n v := by
  refine ⟨Digits.ofNat n m, rfl, Digits.length_ofNat n m, ?_⟩
  rw [Digits.value_ofNat, ← h]
  simp

/-- Addition, negation and subtraction of integers of `n` digits are those of
    the integers modulo `16 ^ n`, whatever carry comes in; operands of different
    length have neither sum nor difference. On sixteen digits this is wrapping
    64-bit arithmetic. The sum is what the table of addition gives digit by digit, with
    exactly one row for each pair of nibbles and each carry. -/
theorem arithmetic_is_modular :
    (∀ (n : Nat) (a b : Digits), a.length = n → b.length = n →
      (∀ c : Bool, ∃ s : Digits, digitsAdd (ofDigits a) (ofDigits b) c = some (ofDigits s) ∧
        s.length = n ∧ s.value = (a.value + b.value + c.toNat) % 16 ^ n) ∧
      IsIntMod (add (ofIntDigits a) (ofIntDigits b)) n (a.value + b.value) ∧
      IsIntMod (neg (ofIntDigits a)) n (-a.value) ∧
      IsIntMod (sub (ofIntDigits a) (ofIntDigits b)) n (a.value - b.value)) ∧
    (∀ a b : Digits, a.length ≠ b.length →
      add (ofIntDigits a) (ofIntDigits b) = none ∧ sub (ofIntDigits a) (ofIntDigits b) = none) ∧
    (∀ x y : Int64,
      add (intLit x.toInt) (intLit y.toInt) = some (intLit (x + y).toInt) ∧
      neg (intLit x.toInt) = some (intLit (-x).toInt) ∧
      sub (intLit x.toInt) (intLit y.toInt) = some (intLit (x - y).toInt)) ∧
    (∀ (a b : Digits) (c : Bool),
      digitsAdd (ofDigits a) (ofDigits b) c = (Expansion.addByRows a b c).map ofDigits) ∧
    (Expansion.nibbleRows.map Expansion.NibbleRow.key).Nodup ∧
    (∀ (a b : Nibble) (c : Bool), ∃! r, r ∈ Expansion.nibbleRows ∧ r.key = (a, b, c)) := by
  refine ⟨?_, ?_, ?_, ?_, Expansion.nodup_keys_nibbleRows, Expansion.existsUnique_nibbleRow⟩
  · rintro n a b rfl hb
    refine ⟨fun c => ?_, ?_, ?_, ?_⟩
    · refine ⟨_, ?_, Digits.length_ofNat .., Digits.value_ofNat ..⟩
      rw [digitsAdd_ofDigits, Digits.add_eq hb.symm, Option.map_some]
    · rw [add_ofIntDigits, Digits.add_eq hb.symm, Option.map_some]
      apply isIntMod_ofNat
      simp
    · rw [neg_ofIntDigits, Digits.neg_eq, Option.map_some]
      apply isIntMod_ofNat
      have h := Digits.cast_pow_sub_emod a 0
      rwa [Int.zero_add, Int.zero_sub] at h
    · rw [sub_ofIntDigits, Digits.sub_eq hb.symm, Option.map_some]
      apply isIntMod_ofNat
      have h := Digits.cast_pow_sub_emod b a.value
      rw [hb]
      rwa [hb, ← Nat.cast_add] at h
  · intro a b hab
    constructor
    · rw [add_ofIntDigits, Digits.add_eq_none hab, Option.map_none]
    · rw [sub_ofIntDigits, Digits.sub_eq_none hab, Option.map_none]
  · intro x y
    refine ⟨?_, ?_, ?_⟩
    · rw [add_intLit, Int64.toInt_add]
      exact congrArg some (intLit_congr Int.bmod_emod.symm)
    · rw [neg_intLit, Int64.toInt_neg]
      exact congrArg some (intLit_congr Int.bmod_emod.symm)
    · rw [sub_intLit, Int64.toInt_sub]
      exact congrArg some (intLit_congr Int.bmod_emod.symm)
  · intro a b c
    rw [Expansion.addByRows_eq, digitsAdd_ofDigits]

/-- At two digits: `0xFF + 0x01` with a carry, `-0x01`, and `0x01 - 0xFF`; a
    single digit cannot be added to two. -/
theorem arithmetic_is_modular_at_wrap :
    (∃ s : Digits, digitsAdd (ofDigits [15, 15]) (ofDigits [1, 0]) true = some (ofDigits s) ∧
      s.length = 2 ∧ s.value = 1) ∧
    IsIntMod (neg (ofIntDigits [1, 0])) 2 (-1) ∧
    IsIntMod (sub (ofIntDigits [1, 0]) (ofIntDigits [15, 15])) 2 (1 - 255) ∧
    add (ofIntDigits [1]) (ofIntDigits [15, 15]) = none :=
  ⟨(arithmetic_is_modular.1 2 [15, 15] [1, 0] rfl rfl).1 true,
    (arithmetic_is_modular.1 2 [1, 0] [15, 15] rfl rfl).2.2.1,
    (arithmetic_is_modular.1 2 [1, 0] [15, 15] rfl rfl).2.2.2,
    (arithmetic_is_modular.2.1 [1] [15, 15] (by decide)).1⟩

end Ty

end KindSeq
