/-
  KindSeq.Proofs.SetObservables

  What can be observed of a set depends on its members only: not on the order in
  which they were put in, and not on how often. Sequences that are equal as sets
  have first occurrences that are permutations of each other, wherever equal
  values are one type (`SameMembers.firsts_perm`), and a sum does not see a
  permutation.
-/

import KindSeq.Proofs.Aggregates
import KindSeq.Proofs.SetEquality

namespace KindSeq

namespace Kind

/-! ## Permuted first occurrences -/

theorem Distinct.nodup {k : Kind} {xs : List Ty} (hxs : ∀ x ∈ xs, k.admits x = true)
    (h : k.Distinct xs) : xs.Nodup := by
  refine h.imp_of_mem fun {x y} hx _ hne hxy => ?_
  rw [← hxy] at hne
  exact hne (eq_self (hxs x hx))

/-- First occurrences of the same members are permutations of each other. -/
theorem SameMembers.firsts_perm {k : Kind} {xs ys : List Ty} (hd : k.Discrete (xs ++ ys))
    (hxs : ∀ x ∈ xs, k.admits x = true) (hys : ∀ y ∈ ys, k.admits y = true)
    (h : k.SameMembers xs ys) : (k.firsts [] xs).Perm (k.firsts [] ys) := by
  have hxs' : ∀ x ∈ k.firsts [] xs, k.admits x = true := admits_of_mem_firsts hxs
  have hys' : ∀ y ∈ k.firsts [] ys, k.admits y = true := admits_of_mem_firsts hys
  have hd' : k.Discrete (k.firsts [] xs ++ k.firsts [] ys) :=
    hd.mono ((k.firsts_sublist [] xs).append (k.firsts_sublist [] ys)).subset
  rw [List.perm_ext_iff_of_nodup ((k.distinct_firsts [] xs).nodup hxs')
    ((k.distinct_firsts [] ys).nodup hys')]
  intro z
  exact h.firsts.mem_iff hd' hxs' hys'

theorem SameMembers.eq_nil {k : Kind} {xs ys : List Ty} (hys : ∀ y ∈ ys, k.admits y = true)
    (h : k.SameMembers xs ys) (hxs : xs = []) : ys = [] := by
  rw [List.eq_nil_iff_forall_not_mem]
  intro y hy
  obtain ⟨x, hx, -⟩ := (h y).mpr (occurs_of_mem hys hy)
  rw [hxs] at hx
  exact List.not_mem_nil hx

end Kind

/-! ## Observations -/

namespace Ty

/-- Sequences with the same members answer every membership test alike, also one for
    a value of another kind. -/
theorem isIn_congr {a b : Ty} {p q : Sequence} (ha : a.sequence? = some p)
    (hb : b.sequence? = some q) (hk : p.kind = q.kind)
    (h : p.kind.SameMembers p.elems q.elems) (x : Ty) : a.isIn x = b.isIn x := by
  obtain ⟨-, hps⟩ := sequence?_eq_some_iff.mp ha
  obtain ⟨-, hqs⟩ := sequence?_eq_some_iff.mp hb
  rw [← hk] at hqs
  have hempty : p.elems = [] ↔ q.elems = [] := ⟨h.eq_nil hqs, h.symm.eq_nil hps⟩
  have hoccurs : decide (p.kind.Occurs x p.elems) = decide (p.kind.Occurs x q.elems) :=
    decide_eq_decide.mpr (h x)
  rw [isIn_eq ha, isIn_eq hb, ← hk, hoccurs]
  simp only [hempty]

/-- Sequences that are equal as sets cannot be told apart: the sets made of them are
    equally long and, for integers, have one sum or none; for booleans they agree on
    conjunction and disjunction; and a membership test exists for both or for
    neither, and answers alike. -/
theorem set_observables_depend_on_members {a b : Ty} {p q : Sequence}
    (ha : a.sequence? = some p) (hb : b.sequence? = some q) (h : a.setEq b = some true) :
    (∃ sa sb xs ys,
      a.toSet = some sa ∧ sa.sequence? = some ⟨.set, p.kind, xs⟩ ∧
      b.toSet = some sb ∧ sb.sequence? = some ⟨.set, q.kind, ys⟩ ∧
      xs.length = ys.length ∧ (p.kind = .int → sa.sum = sb.sum)) ∧
    (p.kind = .bool →
      (∃ r, a.all = some r ∧ b.all = some r) ∧ ∃ r, a.any = some r ∧ b.any = some r) ∧
    ∀ x, a.isIn x = b.isIn x := by
  obtain ⟨hk, hsame⟩ := (setEq_eq_true_iff ha hb).mp h
  obtain ⟨-, hps⟩ := sequence?_eq_some_iff.mp ha
  obtain ⟨-, hqs⟩ := sequence?_eq_some_iff.mp hb
  have hqs' : ∀ y ∈ q.elems, p.kind.admits y = true := by rwa [hk]
  have hd : p.kind ≠ .type → p.kind.Discrete (p.elems ++ q.elems) :=
    fun hne => Kind.discrete_of_separated fun htype => absurd htype hne
  refine ⟨?_, ?_, isIn_congr ha hb hk hsame⟩
  · refine ⟨_, _, _, _, toSet_eq ha, sequence?_firsts hps, toSet_eq hb, sequence?_firsts hqs,
      ?_, ?_⟩
    · rw [← hk]
      exact ((Kind.sameMembers_iff_paired hps hqs').mp hsame).length_eq
    · intro hint
      have hperm := hsame.firsts_perm (hd (by rw [hint]; decide)) hps hqs'
      rw [← hk]
      exact sum_eq_of_perm (sequence?_firsts hps) (sequence?_firsts hqs') hint hint hperm
  · intro hbool
    have hmem : ∀ z, z ∈ p.elems ↔ z ∈ q.elems :=
      fun z => hsame.mem_iff (hd (by rw [hbool]; decide)) hps hqs'
    constructor
    · refine ⟨_, all_eq ha hbool, ?_⟩
      rw [all_eq hb (hk ▸ hbool)]
      simp only [hmem]
    · refine ⟨_, any_eq ha hbool, ?_⟩
      rw [any_eq hb (hk ▸ hbool)]
      simp only [hmem]

/-- The sum of the set does not change with the order, a repetition or the form, and a
    boolean is refused by both sequences. -/
theorem set_observables_depend_on_members_at_repetition :
    (∃ sa sb, (Sequence.toTy ⟨.list, .int, [intLit 5, intLit (-2), intLit 5]⟩).toSet = some sa ∧
      (Sequence.toTy ⟨.set, .int, [intLit (-2), intLit 5]⟩).toSet = some sb ∧
      sa.sum = some (intLit 3) ∧ sb.sum = some (intLit 3)) ∧
    (Sequence.toTy ⟨.list, .int, [intLit 5, intLit (-2), intLit 5]⟩).isIn (.bool true) = none ∧
    (Sequence.toTy ⟨.set, .int, [intLit (-2), intLit 5]⟩).isIn (.bool true) = none := by
  obtain ⟨⟨sa, sb, xs, ys, hsa, -, hsb, -, -, hsum⟩, -, hin⟩ :=
    set_observables_depend_on_members
      (a := Sequence.toTy ⟨.list, .int, [intLit 5, intLit (-2), intLit 5]⟩)
      (b := Sequence.toTy ⟨.set, .int, [intLit (-2), intLit 5]⟩)
      (p := ⟨.list, .int, [intLit 5, intLit (-2), intLit 5]⟩)
      (q := ⟨.set, .int, [intLit (-2), intLit 5]⟩)
      (by decide +kernel) (by decide +kernel) (by decide +kernel)
  have hset : sb = Sequence.toTy ⟨.set, .int, [intLit (-2), intLit 5]⟩ :=
    Option.some.inj (hsb.symm.trans (by decide +kernel))
  have hthree : sb.sum = some (intLit 3) := by
    rw [hset]
    decide +kernel
  have hrefused :
      (Sequence.toTy ⟨.set, .int, [intLit (-2), intLit 5]⟩).isIn (.bool true) = none := by
    decide +kernel
  refine ⟨⟨sa, sb, hsa, hsb, ?_, hthree⟩, ?_, hrefused⟩
  · rw [hsum rfl, hthree]
  · rw [hin, hrefused]

end Ty

end KindSeq
