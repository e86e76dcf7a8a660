/-
  KindSeq.Proofs.IntegerEncoding

  Writing a 64-bit integer in digits and reading it back. The digits are the
  nibbles of the 64-bit pattern, one shift each (`ofInt_toInt`); reading joins
  them again by shifts (`toNat_bits`) and then looks at the sign. On sixteen
  digits neither direction loses anything, so an integer of that length is the
  literal of its value (`IsWord.exists_eq_intLit`). A longer list keeps its low
  digits only, since what is shifted out of 64 bits is gone.
-/

import Mathlib.Algebra.BigOperators.Fin
import KindSeq.Proofs.Aggregates
import KindSeq.Proofs.StreamComparison

namespace KindSeq

namespace Nibble

/-- Nibble `i` of a 64-bit pattern, by a shift or by a division. -/
theorem ofNat_shiftRight (w : UInt64) {i : Nat} (hi : i < 16) :
    ofNat (w >>> UInt64.ofNat (i * 4)).toNat = ofNat (w.toNat / 16 ^ i) := by
  have hamount : (UInt64.ofNat (i * 4)).toNat % 64 = 4 * i := by
    rw [UInt64.toNat_ofNat']
    omega
  have hpow : (2 : Nat) ^ (4 * i) = 16 ^ i := by rw [Nat.pow_mul]
  rw [UInt64.toNat_shiftRight, hamount, Nat.shiftRight_eq_div_pow, hpow]

end Nibble

namespace Digits

/-- The value of digits that are given by their places. -/
theorem value_ofFn {n : Nat} (f : Fin n → Nibble) :
    value (List.ofFn f) = ∑ i : Fin n, (f i).val * 16 ^ i.val := by
  induction n with
  | zero => rfl
  | succ n ih =>
    have hshift : ∀ i : Fin n,
        (f i.succ).val * 16 ^ i.succ.val = 16 * ((f i.succ).val * 16 ^ i.val) := by
      intro i
      rw [Fin.val_succ, Nat.pow_succ]
      ring
    rw [List.ofFn_succ, value_cons, ih, Fin.sum_univ_succ, Finset.mul_sum,
      Finset.sum_congr rfl fun i _ => hshift i, Fin.val_zero, Nat.pow_zero, Nat.mul_one]

/-- The value of digits, each counted at its own place. -/
theorem value_eq_sum (ds : Digits) :
    value ds = ∑ i : Fin ds.length, (ds.get i).val * 16 ^ i.val := by
  rw [← value_ofFn, List.ofFn_get]

/-- The digits of a 64-bit integer are the nibbles of its pattern. -/
theorem ofInt_toInt (v : Int64) :
    ofInt v.toInt =
      (List.range 16).map fun i => Nibble.ofNat (v.toUInt64 >>> UInt64.ofNat (i * 4)).toNat := by
  have hread : v.toInt = (v.toUInt64.toNat : Int).bmod (2 ^ 64) := v.toBitVec.toInt_eq_toNat_bmod
  have hmod : v.toInt % 2 ^ 64 = (v.toUInt64.toNat : Int) % 2 ^ 64 := by
    rw [hread]
    exact Int.bmod_emod
  have hlt : v.toUInt64.toNat < 2 ^ 64 := v.toUInt64.toNat_lt
  have hpattern : (v.toInt % 2 ^ 64).toNat = v.toUInt64.toNat := by omega
  rw [ofInt_eq, hpattern, ofNat_eq_map_range]
  apply List.map_congr_left
  intro i hi
  exact (Nibble.ofNat_shiftRight _ (List.mem_range.mp hi)).symm

end Digits

namespace Ty

/-- A 64-bit integer is read back from its literal. -/
theorem intValue?_intLit_toInt (v : Int64) : (intLit v.toInt).intValue? = some v.toInt := by
  have hfits : v.toInt.bmod (2 ^ 64) = v.toInt := v.toInt_bmod_size
  rw [intValue?_intLit, hfits]

theorem intDigits?_intLit (v : Int) : (intLit v).intDigits? = some (Digits.ofInt v) :=
  intDigits?_ofIntDigits _

/-- An integer of sixteen digits is the literal of a 64-bit integer. -/
theorem IsWord.exists_eq_intLit {a : Ty} (ha : a.IsWord) : ∃ v : Int64, a = intLit v.toInt := by
  obtain ⟨ds, hds, hlen⟩ := Option.map_eq_some_iff.mp ha
  obtain rfl := ofIntDigits_of_intDigits? hds
  exact ⟨(Digits.bits ds).toInt64, (intLit_toInt hlen).symm⟩

/-- A literal stands for one 64-bit integer only. -/
theorem intLit_toInt_inj {v w : Int64} (h : intLit v.toInt = intLit w.toInt) : v = w := by
  have hvalue := congrArg intValue? h
  rw [intValue?_intLit_toInt, intValue?_intLit_toInt, Option.some.injEq] at hvalue
  exact Int64.toInt_inj.mp hvalue

/-- Literals are equal under their kind if they stand for one integer. -/
theorem eq_intLit (v w : Int64) :
    Kind.int.eq (intLit v.toInt) (intLit w.toInt) = some (decide (v = w)) := by
  have hinj : Digits.ofInt v.toInt = Digits.ofInt w.toInt ↔ v = w := by
    constructor
    · intro h
      exact intLit_toInt_inj (by rw [intLit, h, intLit])
    · rintro rfl
      rfl
  rw [Kind.eq, intDigits?_intLit, intDigits?_intLit]
  simp [hinj, Digits.eq_eq_decide]

/-- Integers are written and read back without loss. A 64-bit integer has sixteen
    digits, the nibbles of its pattern from the lowest on, and its literal has its
    value; an integer of sixteen digits is the literal of its value. So two of them
    are equal under their kind exactly if their values are. The bit pattern of any
    digit list is the sum of its digits at their places, modulo `2 ^ 64`. -/
theorem integers_are_read_back :
    (∀ v : Int64, ∃ ds : Digits, (intLit v.toInt).intDigits? = some ds ∧ ds.length = 16 ∧
      ds = ((List.range 16).map fun i =>
        Nibble.ofNat (v.toUInt64 >>> UInt64.ofNat (i * 4)).toNat) ∧
      (intLit v.toInt).intValue? = some v.toInt) ∧
    (∀ ds : Digits, ds.length = 16 → ∃ v : Int64,
      (ofIntDigits ds).intValue? = some v.toInt ∧ intLit v.toInt = ofIntDigits ds) ∧
    (∀ a b : Ty, a.IsWord → b.IsWord → ∃ r, Kind.int.eq a b = some r ∧
      (r = true ↔ a.intValue? = b.intValue?)) ∧
    (∀ ds : Digits, (Digits.bits ds).toNat =
      (∑ i : Fin ds.length, (ds.get i).val * 16 ^ i.val) % 2 ^ 64) := by
  refine ⟨?_, ?_, ?_, ?_⟩
  · intro v
    exact ⟨_, intDigits?_intLit _, Digits.length_ofInt _, Digits.ofInt_toInt v,
      intValue?_intLit_toInt v⟩
  · intro ds hlen
    obtain ⟨v, hv⟩ := (isWord_ofIntDigits.mpr hlen).exists_eq_intLit
    rw [hv]
    exact ⟨v, intValue?_intLit_toInt v, rfl⟩
  · intro a b ha hb
    obtain ⟨v, rfl⟩ := ha.exists_eq_intLit
    obtain ⟨w, rfl⟩ := hb.exists_eq_intLit
    refine ⟨_, eq_intLit v w, ?_⟩
    rw [intValue?_intLit_toInt, intValue?_intLit_toInt, decide_eq_true_iff, Option.some.injEq,
      Int64.toInt_inj]
  · intro ds
    rw [Digits.toNat_bits, Digits.value_eq_sum]

/-- The smallest integer is written with a single bit, at the top, and differs from
    the largest one; a seventeenth digit is lost. -/
theorem integers_are_read_back_at_bounds :
    intLit (-9223372036854775808) = ofIntDigits (List.replicate 15 0 ++ [8]) ∧
    Kind.int.eq (intLit (-9223372036854775808)) (intLit 9223372036854775807) = some false ∧
    (Digits.bits (List.replicate 16 15 ++ [1])).toNat = 18446744073709551615 := by
  obtain ⟨-, hwrite, heq, hbits⟩ := integers_are_read_back
  refine ⟨?_, ?_, ?_⟩
  · obtain ⟨v, hv, hlit⟩ := hwrite (List.replicate 15 0 ++ [8]) rfl
    have hread : (ofIntDigits (List.replicate 15 0 ++ [8])).intValue? =
        some (-9223372036854775808) := by decide +kernel
    rw [← hlit, ← Option.some.inj (hread.symm.trans hv)]
  · obtain ⟨r, hr, hiff⟩ := heq (intLit (-9223372036854775808)) (intLit 9223372036854775807)
      (by decide +kernel) (by decide +kernel)
    rw [hr, Option.some.injEq, ← Bool.not_eq_true, hiff]
    decide +kernel
  · rw [hbits]
    decide +kernel

end Ty

end KindSeq
