/-
  KindSeq.Proofs.Negation

  Sign and negation at every width. The sign is read off the last digit, negation
  carries from the first one on; what joins the two ends is the value. The top bit of
  `n` digits is worth `8 * 16 ^ (n - 1)`, half of where the width wraps, so a list is
  negative exactly if its value reaches that half (`sign?_eq`), and negation reflects
  the values other than zero at it (`value_neg`). The two points that the reflection
  keeps are zero and the half itself, the least integer of the width.
-/

import KindSeq.Proofs.IntegerEncoding

namespace KindSeq

namespace Digits

/-! ## Values and signs -/

/-- The two's complement reading of digits at their own width. -/
def signed (ds : Digits) : Int := (value ds : Int).bmod (16 ^ ds.length)

/-- Sixteen digits are read in 64 bits. -/
theorem signed_eq_toInt {ds : Digits} (h : ds.length = 16) : signed ds = toInt ds := by
  rw [signed, toInt_eq, h]
  rfl

/-- Digits of one width are determined by their value. -/
theorem eq_of_value_eq {a b : Digits} (hlen : a.length = b.length) (h : value a = value b) :
    a = b := by
  rw [← ofNat_value a, hlen, h, ofNat_value]

theorem value_replicate_zero (n : Nat) : value (List.replicate n 0) = 0 := by
  induction n with
  | zero => rfl
  | succ n ih =>
    rw [List.replicate_succ, value_cons, ih]
    rfl

theorem eq_replicate_zero_iff {a : Digits} : a = List.replicate a.length 0 ↔ value a = 0 := by
  constructor
  · intro h
    rw [h, value_replicate_zero]
  · intro h
    apply eq_of_value_eq List.length_replicate.symm
    rw [h, value_replicate_zero]

/-- The top bit is worth half of the width. -/
theorem pow_eq_two_mul_half {n : Nat} (hn : 1 ≤ n) : 16 ^ n = 2 * (8 * 16 ^ (n - 1)) := by
  obtain ⟨m, rfl⟩ : ∃ m, n = m + 1 := ⟨n - 1, by omega⟩
  rw [Nat.add_sub_cancel, Nat.pow_succ]
  omega

/-- The last digit is high exactly if the value reaches half of the width. -/
theorem sign?_eq {ds : Digits} (h : ds ≠ []) :
    sign? ds = some (decide (8 * 16 ^ (ds.length - 1) ≤ value ds)) := by
  -- The digits before the last one are too small to matter, one power at a time.
  induction ds with
  | nil => exact absurd rfl h
  | cons d ds ih =>
    cases ds with
    | nil => simp [sign?, Nibble.isHigh]
    | cons e ds =>
      have hd : d.val < 16 := d.isLt
      have hlast : sign? (d :: e :: ds) = sign? (e :: ds) := by
        rw [sign?, List.getLast?_cons_cons, sign?]
      have hpow : 16 ^ ((d :: e :: ds).length - 1) = 16 * 16 ^ ((e :: ds).length - 1) := by
        simp only [List.length_cons, Nat.add_sub_cancel, Nat.pow_succ]
        omega
      have hreach : 8 * 16 ^ ((e :: ds).length - 1) ≤ value (e :: ds) ↔
          8 * 16 ^ ((d :: e :: ds).length - 1) ≤ value (d :: e :: ds) := by
        rw [hpow, value_cons d]
        omega
      rw [hlast, ih (by simp), decide_eq_decide.mpr hreach]

theorem signed_neg_iff {ds : Digits} (h : ds ≠ []) :
    signed ds < 0 ↔ 8 * 16 ^ (ds.length - 1) ≤ value ds := by
  have hhalf := pow_eq_two_mul_half (List.length_pos_of_ne_nil h)
  have hlt := value_lt ds
  rw [signed, Int.bmod_def, hhalf]
  rw [hhalf] at hlt
  generalize 8 * 16 ^ (ds.length - 1) = half at hlt ⊢
  have hmod : (value ds : Int) % ((2 * half : Nat) : Int) = value ds :=
    Int.emod_eq_of_lt (by omega) (by omega)
  rw [hmod]
  split <;> omega

theorem exists_sign? {ds : Digits} (h : ds ≠ []) :
    ∃ r, sign? ds = some r ∧ (r = true ↔ signed ds < 0) := by
  refine ⟨_, sign?_eq h, ?_⟩
  rw [decide_eq_true_iff, signed_neg_iff h]

/-! ## Negation -/

/-- Negation keeps zero and takes any other value from the power that the width wraps
    at. -/
theorem value_neg {a b : Digits} (h : neg a = some b) : b.length = a.length ∧
    (value a = 0 → value b = 0) ∧ (value a ≠ 0 → value b = 16 ^ a.length - value a) := by
  have hlt := value_lt a
  obtain rfl : ofNat a.length (16 ^ a.length - value a) = b :=
    Option.some.inj ((neg_eq a).symm.trans h)
  refine ⟨length_ofNat _ _, ?_, ?_⟩
  · intro hzero
    rw [value_ofNat, hzero, Nat.sub_zero, Nat.mod_self]
  · intro hne
    rw [value_ofNat, Nat.mod_eq_of_lt (by omega)]

theorem exists_neg (a : Digits) : ∃ b, neg a = some b := ⟨_, neg_eq a⟩

theorem neg_neg {a b : Digits} (h : neg a = some b) : neg b = some a := by
  obtain ⟨c, hc⟩ := exists_neg b
  obtain ⟨hlen, hzero, hdist⟩ := value_neg h
  obtain ⟨hlen', hzero', hdist'⟩ := value_neg hc
  have hlt := value_lt a
  have hvalue : value c = value a := by
    by_cases ha : value a = 0
    · rw [ha, hzero' (hzero ha)]
    · have hb := hdist ha
      have hc := hdist' (by omega)
      rw [hlen] at hc
      omega
  rw [hc, eq_of_value_eq (hlen'.trans hlen) hvalue]

theorem add_neg_self {a b : Digits} (h : neg a = some b) :
    add a b false = some (List.replicate a.length 0) := by
  obtain ⟨hlen, hzero, hdist⟩ := value_neg h
  have hlt := value_lt a
  have hwrap : (value a + value b) % 16 ^ a.length = 0 := by
    by_cases ha : value a = 0
    · rw [ha, hzero ha, Nat.zero_mod]
    · rw [hdist ha, Nat.add_sub_cancel' (by omega), Nat.mod_self]
  rw [add_eq hlen.symm, Bool.toNat_false, Nat.add_zero]
  congr 1
  apply eq_of_value_eq
  · rw [length_ofNat, List.length_replicate]
  · rw [value_ofNat, hwrap, value_replicate_zero]

/-- Negation keeps zero and the least integer of the width, and nothing else. -/
theorem neg_eq_self_iff {a : Digits} (h : a ≠ []) :
    neg a = some a ↔ value a = 0 ∨ value a = 8 * 16 ^ (a.length - 1) := by
  obtain ⟨b, hb⟩ := exists_neg a
  obtain ⟨hlen, hzero, hdist⟩ := value_neg hb
  have hhalf := pow_eq_two_mul_half (List.length_pos_of_ne_nil h)
  have hlt := value_lt a
  rw [hhalf] at hlt hdist
  have hself : b = a ↔ value b = value a := ⟨fun hab => by rw [hab], eq_of_value_eq hlen⟩
  rw [hb, Option.some.injEq, hself]
  by_cases ha : value a = 0
  · simp only [ha, hzero ha, true_or]
  · rw [hdist ha]
    omega

/-- Elsewhere negation changes the sign. -/
theorem sign?_neg {a b : Digits} {r : Bool} (h : neg a = some b) (hself : neg a ≠ some a)
    (hr : sign? a = some r) : sign? b = some (!r) := by
  have hne : a ≠ [] := by
    rintro rfl
    exact absurd rfl hself
  obtain ⟨hlen, -, hdist⟩ := value_neg h
  have hhalf := pow_eq_two_mul_half (List.length_pos_of_ne_nil hne)
  have hlt := value_lt a
  rw [hhalf] at hlt hdist
  rw [Ne, neg_eq_self_iff hne, not_or] at hself
  -- Away from zero and the half, the reflection swaps the two sides of the half.
  obtain ⟨hzero, hmin⟩ := hself
  have hbne : b ≠ [] := by
    apply List.ne_nil_of_length_pos
    rw [hlen]
    exact List.length_pos_of_ne_nil hne
  have hvalue := hdist hzero
  rw [sign?_eq hne, Option.some.injEq] at hr
  rw [sign?_eq hbne, hlen, ← hr, ← decide_not, Option.some.injEq, decide_eq_decide]
  omega

end Digits

namespace Ty

theorem isNegative_ofIntDigits (a : Digits) : isNegative (ofIntDigits a) = Digits.sign? a := by
  rw [isNegative, intDigits?_ofIntDigits]
  rfl

theorem ofIntDigits_inj {a b : Digits} : ofIntDigits a = ofIntDigits b ↔ a = b := by
  constructor
  · intro h
    have hdigits := congrArg intDigits? h
    rw [intDigits?_ofIntDigits, intDigits?_ofIntDigits] at hdigits
    exact Option.some.inj hdigits
  · rintro rfl
    rfl

/-- Sign and negation agree at every width. An integer of at least one digit has a
    sign, and is negative exactly if its two's complement reading is below zero, which
    on sixteen digits is its value. Its negative has the same width; negating twice gives
    it back, and the two add up to zero. It is its own negative exactly if it is zero or
    the least integer of the width; otherwise exactly one of the two is negative. Without
    digits there is a negative and no sign. -/
theorem sign_and_negation_agree :
    (∀ (n : Nat) (a : Digits), 1 ≤ n → a.length = n → ∃ (r : Bool) (b : Digits),
      isNegative (ofIntDigits a) = some r ∧ (r = true ↔ a.signed < 0) ∧
      neg (ofIntDigits a) = some (ofIntDigits b) ∧ b.length = n ∧
      neg (ofIntDigits b) = some (ofIntDigits a) ∧
      add (ofIntDigits a) (ofIntDigits b) = some (ofIntDigits (List.replicate n 0)) ∧
      (neg (ofIntDigits a) = some (ofIntDigits a) ↔
        a = List.replicate n 0 ∨ a.value = 8 * 16 ^ (n - 1)) ∧
      (neg (ofIntDigits a) ≠ some (ofIntDigits a) →
        isNegative (ofIntDigits b) = some (!r))) ∧
    (∀ a : Digits, a.length = 16 → ∃ r v, isNegative (ofIntDigits a) = some r ∧
      intValue? (ofIntDigits a) = some v ∧ (r = true ↔ v < 0)) ∧
    isNegative (ofIntDigits []) = none ∧ ∃ b, neg (ofIntDigits []) = some b := by
  refine ⟨?_, ?_, rfl, ⟨_, neg_ofIntDigits []⟩⟩
  · rintro n a hn rfl
    have ha : a ≠ [] := List.ne_nil_of_length_pos hn
    obtain ⟨r, hr, hneg⟩ := Digits.exists_sign? ha
    obtain ⟨b, hb⟩ := Digits.exists_neg a
    obtain ⟨hlen, -⟩ := Digits.value_neg hb
    have hself : neg (ofIntDigits a) = some (ofIntDigits a) ↔ Digits.neg a = some a := by
      rw [neg_ofIntDigits, hb, Option.map_some, Option.some.injEq, Option.some.injEq,
        ofIntDigits_inj]
    refine ⟨r, b, by rw [isNegative_ofIntDigits, hr], hneg, ?_, hlen, ?_, ?_, ?_, ?_⟩
    · rw [neg_ofIntDigits, hb, Option.map_some]
    · rw [neg_ofIntDigits, Digits.neg_neg hb, Option.map_some]
    · rw [add_ofIntDigits, Digits.add_neg_self hb, Option.map_some]
    · rw [hself, Digits.eq_replicate_zero_iff, Digits.neg_eq_self_iff ha]
    · intro hne
      rw [isNegative_ofIntDigits]
      exact Digits.sign?_neg hb (fun h => hne (hself.mpr h)) hr
  · intro a hlen
    have ha : a ≠ [] := List.ne_nil_of_length_pos (by omega)
    obtain ⟨r, hr, hneg⟩ := Digits.exists_sign? ha
    refine ⟨r, a.toInt, by rw [isNegative_ofIntDigits, hr], ?_, ?_⟩
    · rw [intValue?, intDigits?_ofIntDigits, Option.map_some]
    · rw [hneg, Digits.signed_eq_toInt hlen]

/-- At two digits, `0x01` and its negative `0xFF` have different signs, while `0x80`, the
    least integer, is its own negative and negative; at sixteen, minus one is negative. -/
theorem sign_and_negation_agree_at_bounds :
    (∃ b, neg (ofIntDigits [1, 0]) = some (ofIntDigits b) ∧
      isNegative (ofIntDigits [1, 0]) = some false ∧ isNegative (ofIntDigits b) = some true) ∧
    neg (ofIntDigits [0, 8]) = some (ofIntDigits [0, 8]) ∧
    isNegative (ofIntDigits [0, 8]) = some true ∧
    ∃ v, intValue? (ofIntDigits (List.replicate 16 15)) = some v ∧ v < 0 := by
  obtain ⟨hwidth, hword, -⟩ := sign_and_negation_agree
  refine ⟨?_, ?_, ?_⟩
  · obtain ⟨r, b, hr, -, hb, -, -, -, -, hother⟩ := hwidth 2 [1, 0] (by decide) rfl
    obtain rfl : false = r := Option.some.inj hr
    exact ⟨b, hb, rfl, hother (by decide)⟩
  · obtain ⟨r, b, -, -, -, -, -, -, hself, -⟩ := hwidth 2 [0, 8] (by decide) rfl
    exact hself.mpr (.inr (by decide))
  · obtain ⟨r, v, hr, hv, hneg⟩ := hword (List.replicate 16 15) rfl
    exact ⟨rfl, v, hv, hneg.mp (Option.some.inj hr).symm⟩

end Ty

end KindSeq
