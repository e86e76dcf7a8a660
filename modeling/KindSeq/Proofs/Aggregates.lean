/-
  KindSeq.Proofs.Aggregates

  Sum, conjunction and disjunction in closed form. The fold behind a sum goes
  through 64-bit integers only, so it stops at the first element of another length
  and otherwise adds up the values (`sum_eq`); it does not see the order of the
  elements (`sum_eq_of_perm`). Conjunction and disjunction only ask whether a
  boolean is among the elements (`all_eq`, `any_eq`).
-/

import Mathlib.Algebra.BigOperators.Group.List.Basic
import KindSeq.Proofs.Arithmetic
import KindSeq.Proofs.Membership

namespace KindSeq.Ty

/-! ## Sums -/

/-- An integer of sixteen digits. -/
def IsWord (x : Ty) : Prop := x.intDigits?.map List.length = some 16

instance (x : Ty) : Decidable x.IsWord :=
  inferInstanceAs (Decidable (x.intDigits?.map List.length = some 16))

theorem isWord_ofIntDigits {ds : Digits} : (ofIntDigits ds).IsWord ↔ ds.length = 16 := by
  simp [IsWord]

/-- An integer of sixteen digits is the literal of its value. -/
theorem intLit_toInt {ds : Digits} (h : ds.length = 16) : intLit ds.toInt = ofIntDigits ds := by
  have hdigits : Digits.ofInt ds.toInt = ds := by
    have hvalue : (ds.value : Int) % 2 ^ 64 = ds.toInt % 2 ^ 64 := by
      rw [Digits.toInt_eq]
      exact Int.bmod_emod.symm
    rw [← Digits.ofNat_eq_ofInt hvalue, ← h, Digits.ofNat_value]
  rw [intLit, hdigits]

/-- One step: an integer of sixteen digits adds its value. -/
theorem add_of_isWord {x : Ty} (hx : x.IsWord) (v : Int) :
    ∃ w, x.intValue? = some w ∧ (intLit v).add x = some (intLit (v + w)) := by
  obtain ⟨ds, hds, hlen⟩ := Option.map_eq_some_iff.mp hx
  obtain rfl := ofIntDigits_of_intDigits? hds
  refine ⟨Digits.toInt ds, by simp [intValue?], ?_⟩
  rw [← intLit_toInt hlen, add_intLit]

theorem add_eq_none_of_not_isWord {x : Ty} (hx : ¬x.IsWord) (v : Int) :
    (intLit v).add x = none := by
  cases hds : x.intDigits? with
  | none => simp [add, hds, intLit]
  | some ds =>
    obtain rfl := ofIntDigits_of_intDigits? hds
    have hlen : (Digits.ofInt v).length ≠ ds.length := by
      rw [Digits.length_ofInt]
      exact fun h => hx (isWord_ofIntDigits.mpr h.symm)
    rw [intLit, add_ofIntDigits, Digits.add_eq_none hlen, Option.map_none]

/-- The run, from any 64-bit integer. -/
theorem foldlM_add_eq (v : Int) (xs : List Ty) :
    xs.foldlM add (intLit v) =
      if ∀ x ∈ xs, x.IsWord then some (intLit (v + (xs.filterMap intValue?).sum)) else none := by
  induction xs generalizing v with
  | nil => simp
  | cons x xs ih =>
    rw [List.foldlM_cons]
    by_cases hx : x.IsWord
    · obtain ⟨w, hw, hadd⟩ := add_of_isWord hx v
      rw [hadd, Option.bind_eq_bind, Option.bind_some, ih, List.filterMap_cons_some hw,
        List.sum_cons, Int.add_assoc]
      simp [hx]
    · rw [add_eq_none_of_not_isWord hx]
      simp [hx]

/-- A sequence of integers has a sum exactly if all of them have sixteen digits. -/
theorem sum_eq {s : Ty} {q : Sequence} (hs : s.sequence? = some q) (hk : q.kind = .int) :
    s.sum = if ∀ x ∈ q.elems, x.IsWord then
      some (intLit (q.elems.filterMap intValue?).sum) else none := by
  rw [sum, hs, Option.bind_eq_bind, Option.bind_some, if_pos hk, folded, hs, Option.bind_eq_bind,
    Option.bind_some, foldlM_add_eq, Int.zero_add]

theorem sum_eq_of_perm {s t : Ty} {p q : Sequence} (hs : s.sequence? = some p)
    (ht : t.sequence? = some q) (hp : p.kind = .int) (hq : q.kind = .int)
    (h : p.elems.Perm q.elems) : s.sum = t.sum := by
  have hwords : (∀ x ∈ p.elems, x.IsWord) ↔ ∀ x ∈ q.elems, x.IsWord := by
    simp only [h.mem_iff]
  have hvalues : (p.elems.filterMap intValue?).sum = (q.elems.filterMap intValue?).sum :=
    (h.filterMap intValue?).sum_eq
  rw [sum_eq hs hp, sum_eq ht hq, hvalues]
  simp only [hwords]

/-! ## Conjunction and disjunction -/

theorem exists_bools {xs : List Ty} (h : ∀ x ∈ xs, Kind.bool.admits x = true) :
    ∃ bs : List Bool, xs = bs.map .bool := by
  induction xs with
  | nil => exact ⟨[], rfl⟩
  | cons x xs ih =>
    obtain ⟨hx, hxs⟩ := List.forall_mem_cons.mp h
    obtain ⟨b, hb⟩ := Option.isSome_iff_exists.mp hx
    obtain ⟨bs, rfl⟩ := ih hxs
    exact ⟨b :: bs, by rw [List.map_cons, eq_bool_of_bool? hb]⟩

/-- The comparison with an image sees the elements only. -/
theorem equalsImage_of_bools {s : Ty} {form : Form} {bs : List Bool}
    (hs : s.sequence? = some ⟨form, .bool, bs.map .bool⟩) (f : Mapping) :
    s.equalsImage f = (ofBools bs).equalsImage f := by
  rw [equalsImage, equalsImage, hs, sequence?_ofBools]
  rfl

/-- All booleans are true if false is not among them. -/
theorem all_eq {s : Ty} {q : Sequence} (hs : s.sequence? = some q) (hk : q.kind = .bool) :
    s.all = some (decide (.bool false ∉ q.elems)) := by
  obtain ⟨form, k, xs⟩ := q
  obtain rfl : k = .bool := hk
  obtain ⟨-, hxs⟩ := sequence?_eq_some_iff.mp hs
  obtain ⟨bs, rfl⟩ := exists_bools hxs
  have hfalse : (∀ b ∈ bs, b = true) ↔ .bool false ∉ bs.map Ty.bool := by
    simp
  rw [all, equalsImage_of_bools hs, ← all, all_ofBools, Option.some.injEq, Bool.eq_iff_iff,
    List.all_eq_true, decide_eq_true_iff, hfalse]

/-- Some boolean is true if true is among them. -/
theorem any_eq {s : Ty} {q : Sequence} (hs : s.sequence? = some q) (hk : q.kind = .bool) :
    s.any = some (decide (.bool true ∈ q.elems)) := by
  obtain ⟨form, k, xs⟩ := q
  obtain rfl : k = .bool := hk
  obtain ⟨-, hxs⟩ := sequence?_eq_some_iff.mp hs
  obtain ⟨bs, rfl⟩ := exists_bools hxs
  have htrue : (∃ b ∈ bs, b = true) ↔ .bool true ∈ bs.map Ty.bool := by
    simp
  rw [any, equalsImage_of_bools hs, ← any, any_ofBools, Option.some.injEq, Bool.eq_iff_iff,
    List.any_eq_true, decide_eq_true_iff, htrue]

end KindSeq.Ty
