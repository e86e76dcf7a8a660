/-
  KindSeq.Proofs.SetEquality

  Equality of sets is extensional. It is computed as membership both ways; for
  values of one kind this says that the two sequences have the same members
  (`within_within_iff`), a relation that is an equivalence by its form. Between
  lists without repetition it is the same as a pairing of their positions
  (`sameMembers_iff_paired`): each element finds exactly one equal partner.
-/

import Mathlib.Data.Fintype.EquivFin
import KindSeq.Proofs.Deduplication

namespace KindSeq

/-! ## Having the same members -/

namespace Kind

variable {k : Kind} {xs ys : List Ty}

/-- Every element of the one list occurs in the other. -/
def Within (k : Kind) (xs ys : List Ty) : Prop := ∀ x ∈ xs, k.Occurs x ys

instance (k : Kind) (xs ys : List Ty) : Decidable (k.Within xs ys) :=
  inferInstanceAs (Decidable (∀ x ∈ xs, k.Occurs x ys))

theorem Within.occurs {z : Ty} (h : k.Within xs ys) (hz : k.Occurs z xs) : k.Occurs z ys := by
  obtain ⟨x, hx, hxz⟩ := hz
  exact (h x hx).of_eq hxz

/-- Values of a kind occur both ways exactly if the lists have the same members. -/
theorem within_within_iff (hxs : ∀ x ∈ xs, k.admits x = true)
    (hys : ∀ y ∈ ys, k.admits y = true) :
    k.Within xs ys ∧ k.Within ys xs ↔ k.SameMembers xs ys := by
  constructor
  · rintro ⟨hxy, hyx⟩ z
    exact ⟨hxy.occurs, hyx.occurs⟩
  · intro h
    constructor
    · intro x hx
      exact (h x).mp (occurs_of_mem hxs hx)
    · intro y hy
      exact (h y).mpr (occurs_of_mem hys hy)

/-- Elements that are equal pair by pair have the same members. -/
theorem sameMembers_of_forall₂
    (h : List.Forall₂ (fun x y => k.eq x y = some true) xs ys) : k.SameMembers xs ys := by
  induction h with
  | nil => exact fun z => Iff.rfl
  | @cons x y xs ys hxy _ ih =>
    intro z
    have hhead : k.eq x z = some true ↔ k.eq y z = some true :=
      ⟨eq_trans (eq_symm hxy), eq_trans hxy⟩
    rw [occurs_cons, occurs_cons, hhead, ih z]

/-! ## Pairing positions -/

/-- The positions of the lists can be paired off so that paired elements are equal. -/
def Paired (k : Kind) (xs ys : List Ty) : Prop :=
  ∃ σ : Fin xs.length ≃ Fin ys.length, ∀ i, k.eq (xs.get i) (ys.get (σ i)) = some true

theorem Paired.length_eq (h : k.Paired xs ys) : xs.length = ys.length := by
  obtain ⟨σ, -⟩ := h
  exact Fin.equiv_iff_eq.mp ⟨σ⟩

theorem Paired.sameMembers (h : k.Paired xs ys) : k.SameMembers xs ys := by
  obtain ⟨σ, hσ⟩ := h
  intro z
  constructor
  · rintro ⟨x, hx, hxz⟩
    obtain ⟨i, rfl⟩ := List.mem_iff_get.mp hx
    exact ⟨_, List.get_mem ys (σ i), eq_trans (eq_symm (hσ i)) hxz⟩
  · rintro ⟨y, hy, hyz⟩
    obtain ⟨j, rfl⟩ := List.mem_iff_get.mp hy
    have hj := hσ (σ.symm j)
    rw [Equiv.apply_symm_apply] at hj
    exact ⟨_, List.get_mem xs (σ.symm j), eq_trans hj hyz⟩

theorem Within.exists_position (h : k.Within xs ys) (i : Fin xs.length) :
    ∃ j : Fin ys.length, k.eq (xs.get i) (ys.get j) = some true := by
  obtain ⟨y, hy, hyx⟩ := h (xs.get i) (List.get_mem xs i)
  obtain ⟨j, rfl⟩ := List.mem_iff_get.mp hy
  exact ⟨j, eq_symm hyx⟩

/-- Lists without repetition that lie within each other can be paired off. -/
theorem paired_of_within (hxs : k.Distinct xs) (hys : k.Distinct ys) (hxy : k.Within xs ys)
    (hyx : k.Within ys xs) : k.Paired xs ys := by
  choose g hg using hxy.exists_position
  have hinjective : Function.Injective g := by
    -- Two positions with one partner hold equal elements.
    intro i i' hsame
    by_contra hne
    have hi' := hg i'
    rw [← hsame] at hi'
    exact hxs.eq_ne hne (eq_trans (hg i) (eq_symm hi'))
  have hsurjective : Function.Surjective g := by
    -- The partner of what `ys` holds at `j` has a partner in turn, which is `j`.
    intro j
    obtain ⟨i, hi⟩ := hyx.exists_position j
    refine ⟨i, ?_⟩
    by_contra hne
    exact hys.eq_ne hne (eq_symm (eq_trans hi (hg i)))
  exact ⟨Equiv.ofBijective g ⟨hinjective, hsurjective⟩, hg⟩

/-- Lists have the same members exactly if their first occurrences can be paired off. -/
theorem sameMembers_iff_paired (hxs : ∀ x ∈ xs, k.admits x = true)
    (hys : ∀ y ∈ ys, k.admits y = true) :
    k.SameMembers xs ys ↔ k.Paired (k.firsts [] xs) (k.firsts [] ys) := by
  constructor
  · intro h
    obtain ⟨hxy, hyx⟩ :=
      (within_within_iff (admits_of_mem_firsts hxs) (admits_of_mem_firsts hys)).mpr h.firsts
    exact paired_of_within (k.distinct_firsts [] xs) (k.distinct_firsts [] ys) hxy hyx
  · intro h
    exact ((k.sameMembers_firsts xs).trans h.sameMembers).trans (k.sameMembers_firsts ys).symm

end Kind

/-! ## Equality of sets -/

namespace Ty

theorem isSubset_eq {a b : Ty} {p q : Sequence} (ha : a.sequence? = some p)
    (hb : b.sequence? = some q) (hk : p.kind = q.kind) :
    a.isSubset b = some (decide (p.kind.Within p.elems q.elems)) := by
  obtain ⟨-, helems⟩ := sequence?_eq_some_iff.mp ha
  have hflags : (Mapping.memberOf b).mapElems p.elems =
      some (p.elems.map fun x => .bool (decide (p.kind.Occurs x q.elems)), .clear) := by
    refine Mapping.mapElems_ofTest fun x hx => ?_
    rw [hk]
    exact isIn_eq_occurs hb (hk ▸ helems x hx)
  rw [isSubset, ha, Option.bind_eq_bind, Option.bind_some, hflags, Option.bind_eq_bind,
    Option.bind_some, list_flags, all_ofBools, Option.some.injEq, Bool.eq_iff_iff,
    decide_eq_true_iff]
  simp [Kind.Within]

/-- Sequences of one kind can be compared, and are equal if they have the same
    members. -/
theorem exists_setEq {a b : Ty} {p q : Sequence} (ha : a.sequence? = some p)
    (hb : b.sequence? = some q) (hk : p.kind = q.kind) :
    ∃ r, a.setEq b = some r ∧ (r = true ↔ p.kind.SameMembers p.elems q.elems) := by
  obtain ⟨-, hps⟩ := sequence?_eq_some_iff.mp ha
  obtain ⟨-, hqs⟩ := sequence?_eq_some_iff.mp hb
  rw [← hk] at hqs
  refine ⟨decide (p.kind.Within p.elems q.elems) && decide (p.kind.Within q.elems p.elems), ?_, ?_⟩
  · rw [setEq, ha, Option.bind_eq_bind, Option.bind_some, hb, Option.bind_eq_bind,
      Option.bind_some, if_pos hk, isSubset_eq ha hb hk, isSubset_eq hb ha hk.symm, hk]
    rfl
  · rw [Bool.and_eq_true, decide_eq_true_iff, decide_eq_true_iff]
    exact Kind.within_within_iff hps hqs

theorem setEq_eq_none {a b : Ty} {p q : Sequence} (ha : a.sequence? = some p)
    (hb : b.sequence? = some q) (hk : p.kind ≠ q.kind) : a.setEq b = none := by
  rw [setEq, ha, Option.bind_eq_bind, Option.bind_some, hb, Option.bind_eq_bind,
    Option.bind_some, if_neg hk]

theorem setEq_eq_true_iff {a b : Ty} {p q : Sequence} (ha : a.sequence? = some p)
    (hb : b.sequence? = some q) :
    a.setEq b = some true ↔ p.kind = q.kind ∧ p.kind.SameMembers p.elems q.elems := by
  by_cases hk : p.kind = q.kind
  · obtain ⟨r, hr, hiff⟩ := exists_setEq ha hb hk
    rw [hr, Option.some.injEq, hiff]
    exact ⟨fun h => ⟨hk, h⟩, And.right⟩
  · rw [setEq_eq_none ha hb hk]
    exact ⟨fun h => absurd h (by simp), fun h => absurd h.1 hk⟩

/-- Having the same members is answering every membership test alike. -/
theorem sameMembers_iff_isIn {a b : Ty} {p q : Sequence} (ha : a.sequence? = some p)
    (hb : b.sequence? = some q) (hk : p.kind = q.kind) :
    p.kind.SameMembers p.elems q.elems ↔
      ∀ x, p.kind.admits x = true → ∃ m, a.isIn x = some m ∧ b.isIn x = some m := by
  constructor
  · intro h x hx
    refine ⟨_, isIn_eq_occurs ha hx, ?_⟩
    rw [isIn_eq_occurs hb (hk ▸ hx), ← hk, decide_eq_decide.mpr (h x)]
  · intro h z
    -- Nothing but values of the kind occurs in either.
    by_cases hz : p.kind.admits z = true
    · obtain ⟨m, ham, hbm⟩ := h z hz
      rw [isIn_eq_occurs ha hz, ← hbm, isIn_eq_occurs hb (hk ▸ hz), ← hk, Option.some.injEq,
        decide_eq_decide] at ham
      exact ham
    · have hnot : ∀ ys : List Ty, ¬p.kind.Occurs z ys := fun ys hocc => hz hocc.admits
      exact ⟨fun h => absurd h (hnot _), fun h => absurd h (hnot _)⟩

/-- Lists that are equal in order have the same members. -/
theorem sameMembers_of_listEq {a b : Ty} {p q : Sequence} (ha : a.sequence? = some p)
    (hb : b.sequence? = some q) (hk : p.kind = q.kind) (h : a.listEq b = some true) :
    p.kind.SameMembers p.elems q.elems := by
  obtain ⟨pform, k, xs⟩ := p
  obtain ⟨qform, l, ys⟩ := q
  obtain rfl : k = l := hk
  obtain ⟨rfl, hxs⟩ := sequence?_eq_some_iff.mp ha
  obtain ⟨rfl, hys⟩ := sequence?_eq_some_iff.mp hb
  cases pform with
  | set => exact absurd h (by simp [Sequence.toTy, listEq])
  | list =>
    cases qform with
    | set => exact absurd h (by simp [Sequence.toTy, listEq])
    | list =>
      obtain ⟨r, hr, hiff⟩ := exists_elemsEq hxs hys
      have hsame : elemsEq k (ofElems xs) (ofElems ys) = some true := by
        simpa [Sequence.toTy, listEq] using h
      exact Kind.sameMembers_of_forall₂ (hiff.mp (Option.some.inj (hr.symm.trans hsame)))

/-- Set equality of lists and sets of one kind always exists. It holds exactly if
    every value of the kind is in both or in neither, and exactly if the positions of
    the two deduplicated sets can be paired off, equal elements with equal ones, which
    makes these sets equally long. It is an equivalence; a sequence equals its own set,
    and lists equal in order are equal as sets. Between kinds it does not exist. -/
theorem setEq_is_extensional_equivalence {a b c : Ty} {p q r : Sequence}
    (ha : a.sequence? = some p) (hb : b.sequence? = some q) (hc : c.sequence? = some r) :
    (p.kind = q.kind → ∃ same sa sb xs ys,
      a.setEq b = some same ∧
      a.toSet = some sa ∧ sa.sequence? = some ⟨.set, p.kind, xs⟩ ∧
      b.toSet = some sb ∧ sb.sequence? = some ⟨.set, q.kind, ys⟩ ∧
      (same = true ↔
        ∀ x, p.kind.admits x = true → ∃ m, a.isIn x = some m ∧ b.isIn x = some m) ∧
      (same = true ↔ p.kind.Paired xs ys) ∧
      (same = true → xs.length = ys.length) ∧
      b.setEq a = some same ∧
      (a.listEq b = some true → same = true)) ∧
    a.setEq a = some true ∧
    (a.setEq b = some true → b.setEq c = some true → a.setEq c = some true) ∧
    (∃ sa, a.toSet = some sa ∧ a.setEq sa = some true) ∧
    (p.kind ≠ q.kind → a.setEq b = none) := by
  obtain ⟨-, hps⟩ := sequence?_eq_some_iff.mp ha
  obtain ⟨-, hqs⟩ := sequence?_eq_some_iff.mp hb
  refine ⟨fun hk => ?_, ?_, ?_, ?_, setEq_eq_none ha hb⟩
  · obtain ⟨same, hsame, hiff⟩ := exists_setEq ha hb hk
    obtain ⟨same', hsame', hiff'⟩ := exists_setEq hb ha hk.symm
    have hpaired : same = true ↔
        p.kind.Paired (p.kind.firsts [] p.elems) (q.kind.firsts [] q.elems) := by
      rw [hiff, ← hk]
      exact Kind.sameMembers_iff_paired hps (hk ▸ hqs)
    refine ⟨same, _, _, _, _, hsame, toSet_eq ha, sequence?_firsts hps, toSet_eq hb,
      sequence?_firsts hqs, ?_, hpaired, ?_, ?_, ?_⟩
    · rw [hiff, sameMembers_iff_isIn ha hb hk]
    · intro h
      exact (hpaired.mp h).length_eq
    · rw [hsame', Option.some.injEq, Bool.eq_iff_iff, hiff, hiff', ← hk]
      exact ⟨Kind.SameMembers.symm, Kind.SameMembers.symm⟩
    · intro h
      exact hiff.mpr (sameMembers_of_listEq ha hb hk h)
  · exact (setEq_eq_true_iff ha ha).mpr ⟨rfl, fun z => Iff.rfl⟩
  · intro hab hbc
    obtain ⟨hpq, hab⟩ := (setEq_eq_true_iff ha hb).mp hab
    obtain ⟨hqr, hbc⟩ := (setEq_eq_true_iff hb hc).mp hbc
    rw [← hpq] at hbc
    exact (setEq_eq_true_iff ha hc).mpr ⟨hpq.trans hqr, hab.trans hbc⟩
  · refine ⟨_, toSet_eq ha, (setEq_eq_true_iff ha (sequence?_firsts hps)).mpr ⟨rfl, ?_⟩⟩
    exact p.kind.sameMembers_firsts p.elems

/-- A list with a repetition and a set in another order are equal, and their elements
    can be paired off; a list of integers cannot be compared with one of booleans, even
    if that is empty. -/
theorem setEq_is_extensional_equivalence_at_reordering :
    (∃ sa sb xs ys,
      (Sequence.toTy ⟨.list, .int, [intLit 3, intLit (-1), intLit 3]⟩).toSet = some sa ∧
      sa.sequence? = some ⟨.set, .int, xs⟩ ∧
      (Sequence.toTy ⟨.set, .int, [intLit (-1), intLit 3]⟩).toSet = some sb ∧
      sb.sequence? = some ⟨.set, .int, ys⟩ ∧ Kind.int.Paired xs ys) ∧
    (Sequence.toTy ⟨.list, .int, [intLit 3, intLit (-1), intLit 3]⟩).setEq
      (Sequence.toTy ⟨.list, .bool, []⟩) = none := by
  have hlist : (Sequence.toTy ⟨.list, .int, [intLit 3, intLit (-1), intLit 3]⟩).sequence? =
      some ⟨.list, .int, [intLit 3, intLit (-1), intLit 3]⟩ := by decide +kernel
  have hset : (Sequence.toTy ⟨.set, .int, [intLit (-1), intLit 3]⟩).sequence? =
      some ⟨.set, .int, [intLit (-1), intLit 3]⟩ := by decide +kernel
  have hbools : (Sequence.toTy ⟨.list, .bool, []⟩).sequence? = some ⟨.list, .bool, []⟩ := rfl
  have hequal : (Sequence.toTy ⟨.list, .int, [intLit 3, intLit (-1), intLit 3]⟩).setEq
      (Sequence.toTy ⟨.set, .int, [intLit (-1), intLit 3]⟩) = some true := by decide +kernel
  constructor
  · obtain ⟨same, sa, sb, xs, ys, hsame, hsa, hxs, hsb, hys, -, hpaired, -⟩ :=
      (setEq_is_extensional_equivalence hlist hset hbools).1 rfl
    have htrue : same = true := Option.some.inj (hsame.symm.trans hequal)
    exact ⟨sa, sb, xs, ys, hsa, hxs, hsb, hys, hpaired.mp htrue⟩
  · exact (setEq_is_extensional_equivalence hlist hbools hset).2.2.2.2 (by decide)

end Ty

end KindSeq
