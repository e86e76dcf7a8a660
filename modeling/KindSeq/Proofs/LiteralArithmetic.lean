/-
  KindSeq.Proofs.LiteralArithmetic

  Two arithmetics of integers meet here: literals are computed exactly and refused
  if they do not fit, types are computed digit by digit and wrap. On literals that
  are accepted by themselves, a sum, difference or negation stays far below 128
  bits, so the only thing that can go wrong is the last narrowing; and it leaves
  64 bits by less than one turn, so the type is off by exactly `2 ^ 64`
  (`AgreesWith.of_evalWide`).
-/

import KindSeq.Expansion.Integer
import KindSeq.Proofs.Arithmetic
import KindSeq.Proofs.LiteralEvaluation

namespace KindSeq.Expansion

open LitExpr

/-- The literal `e` agrees with the result `r` of an operation on types. -/
structure AgreesWith (e : LitExpr) (r : Option Ty) : Prop where
  /-- An accepted literal is the type that the operation yields. -/
  accepted : ∀ t, intType e = .ok t → r = some t
  /-- A rejected literal stands for an integer that does not fit in 64 bits; the
      operation still yields one, which is `2 ^ 64` away from it. -/
  rejected : ∀ err, intType e = .error err → ¬(-2 ^ 63 ≤ e.exact ∧ e.exact ≤ 2 ^ 63 - 1) ∧
    ∃ t w, r = some t ∧ t.intValue? = some w ∧ (w = e.exact + 2 ^ 64 ∨ w = e.exact - 2 ^ 64)

theorem intType_eq_ok_iff {e : LitExpr} {t : Ty} :
    intType e = .ok t ↔ ∃ v, e.evalWide = .ok v ∧ fitsWord v = true ∧ Ty.intLit v = t := by
  rw [intType]
  constructor
  · intro h
    cases he : e.eval with
    | error err =>
      rw [he] at h
      exact absurd h (by simp [Except.map])
    | ok v =>
      rw [he] at h
      obtain ⟨hv, hfits⟩ := eval_eq_ok_iff.mp he
      exact ⟨v, hv, hfits, Except.ok.inj h⟩
  · rintro ⟨v, hv, hfits, rfl⟩
    rw [eval_eq_ok_iff.mpr ⟨hv, hfits⟩]
    rfl

/-- What leaves 64 bits by less than one turn is wrapped once. -/
theorem bmod_of_not_fitsWord {v : Int} (hlo : -2 ^ 64 ≤ v) (hhi : v ≤ 2 ^ 64)
    (h : ¬(-2 ^ 63 ≤ v ∧ v ≤ 2 ^ 63 - 1)) :
    v.bmod (2 ^ 64) = v + 2 ^ 64 ∨ v.bmod (2 ^ 64) = v - 2 ^ 64 := by
  rw [Int.bmod_def]
  split <;> omega

/-- A literal with a value within one turn agrees with the type of that value. -/
theorem AgreesWith.of_evalWide {e : LitExpr} {v : Int} (hv : e.evalWide = .ok v)
    (hlo : -2 ^ 64 ≤ v) (hhi : v ≤ 2 ^ 64) : AgreesWith e (some (Ty.intLit v)) := by
  obtain ⟨-, -, hexact⟩ := evalWide_eq_ok_iff.mp hv
  constructor
  · intro t ht
    obtain ⟨w, hw, -, rfl⟩ := intType_eq_ok_iff.mp ht
    rw [Except.ok.inj (hv.symm.trans hw)]
  · intro err herr
    have hout : ¬(-2 ^ 63 ≤ v ∧ v ≤ 2 ^ 63 - 1) := by
      intro hin
      have hok : intType e = .ok (Ty.intLit v) :=
        intType_eq_ok_iff.mpr ⟨v, hv, fitsWord_iff.mpr hin, rfl⟩
      rw [hok] at herr
      exact absurd herr (by simp)
    rw [← hexact]
    exact ⟨hout, _, _, rfl, Ty.intValue?_intLit v, bmod_of_not_fitsWord hlo hhi hout⟩

/-- Literals and types agree on arithmetic. For accepted literals `d` and `e`, a sum,
    difference or negation that is accepted too is the type that the operation on
    their types yields; one that is rejected does not fit in 64 bits, and the
    operation on the types yields an integer that is off by exactly `2 ^ 64`. -/
theorem literal_and_type_arithmetic_agree {d e : LitExpr} {a b : Ty} (hd : intType d = .ok a)
    (he : intType e = .ok b) :
    AgreesWith (.binary .add (.paren d) (.paren e)) (a.add b) ∧
    AgreesWith (.binary .sub (.paren d) (.paren e)) (a.sub b) ∧
    AgreesWith (.neg (.paren d)) a.neg := by
  obtain ⟨v, hv, hfits, rfl⟩ := intType_eq_ok_iff.mp hd
  obtain ⟨w, hw, hfits', rfl⟩ := intType_eq_ok_iff.mp he
  obtain ⟨hvlo, hvhi⟩ := fitsWord_iff.mp hfits
  obtain ⟨hwlo, hwhi⟩ := fitsWord_iff.mp hfits'
  -- Operands of 64 bits need 65 bits at most, so evaluation gets to the narrowing.
  refine ⟨?_, ?_, ?_⟩
  · have hsum : fitsWide (v + w) = true := fitsWide_iff.mpr (by omega)
    rw [Ty.add_intLit]
    refine .of_evalWide ?_ (by omega) (by omega)
    exact evalWide_binary_eq_ok_iff.mpr ⟨v, w, _, hv, hw, rfl, hsum, rfl⟩
  · have hdiff : fitsWide (v - w) = true := fitsWide_iff.mpr (by omega)
    rw [Ty.sub_intLit]
    refine .of_evalWide ?_ (by omega) (by omega)
    exact evalWide_binary_eq_ok_iff.mpr ⟨v, w, _, hv, hw, rfl, hdiff, rfl⟩
  · have hneg : fitsWide (-v) = true := fitsWide_iff.mpr (by omega)
    rw [Ty.neg_intLit]
    refine .of_evalWide ?_ (by omega) (by omega)
    exact evalWide_neg_eq_ok_iff.mpr ⟨v, hv, hneg, rfl⟩

/-- The largest and the smallest integer: their sum is minus one either way, while the
    difference is refused as a literal and off by `2 ^ 64` as a type. -/
theorem literal_and_type_arithmetic_agree_at_bounds :
    intType (.integer 9223372036854775807) = .ok (Ty.intLit 9223372036854775807) ∧
    intType (.neg (.integer 9223372036854775808)) = .ok (Ty.intLit (-9223372036854775808)) ∧
    (Ty.intLit 9223372036854775807).add (Ty.intLit (-9223372036854775808)) =
      some (Ty.intLit (-1)) ∧
    ∃ t w, (Ty.intLit 9223372036854775807).sub (Ty.intLit (-9223372036854775808)) = some t ∧
      t.intValue? = some w ∧
      (w = 18446744073709551615 + 2 ^ 64 ∨ w = 18446744073709551615 - 2 ^ 64) := by
  have hmax : intType (.integer 9223372036854775807) =
      .ok (Ty.intLit 9223372036854775807) := rfl
  have hmin : intType (.neg (.integer 9223372036854775808)) =
      .ok (Ty.intLit (-9223372036854775808)) := rfl
  obtain ⟨hadd, hsub, -⟩ := literal_and_type_arithmetic_agree hmax hmin
  refine ⟨hmax, hmin, hadd.accepted _ rfl, ?_⟩
  exact (hsub.rejected (.outOfRange 18446744073709551615) rfl).2

end KindSeq.Expansion
