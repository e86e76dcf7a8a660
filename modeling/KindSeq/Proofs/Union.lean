/-
  KindSeq.Proofs.Union

  Sets are not concatenated; their union is the set of the concatenated lists
  (`Ty.union`). First occurrences of a concatenation are those of the first list and
  then those of the second that do not occur in the first (`firsts_append`), which is
  what folding the second list into the set of the first gives. It makes no difference
  whether the lists were deduplicated before (`firsts_firsts`), and the members are
  those of both lists (`isIn_union`), in whichever order they were joined.
-/

import KindSeq.Proofs.KindSoundness

namespace KindSeq

/-! ## First occurrences in two lists -/

namespace Kind

variable {k : Kind}

theorem firsts_append (k : Kind) (before xs ys : List Ty) :
    k.firsts before (xs ++ ys) = k.firsts before xs ++ k.firsts (before ++ xs) ys := by
  induction xs generalizing before with
  | nil => rw [List.nil_append, firsts, List.nil_append, List.append_nil]
  | cons x xs ih =>
    rw [List.cons_append, firsts, firsts, ih, List.append_assoc, List.singleton_append]
    by_cases hx : k.Occurs x before
    · rw [if_pos hx, if_pos hx]
    · rw [if_neg hx, if_neg hx, List.cons_append]

/-- A list that was deduplicated on its own has the same first occurrences behind
    another one. -/
theorem firsts_firsts {before before' : List Ty} (xs : List Ty)
    (hsub : ∀ z, k.Occurs z before' → k.Occurs z before) :
    k.firsts before (k.firsts before' xs) = k.firsts before xs := by
  -- What the inner run drops occurs in `before'`, so the outer one would drop it too.
  induction xs generalizing before before' with
  | nil => rfl
  | cons x xs ih =>
    rw [firsts]
    by_cases hx : k.Occurs x before'
    · have hx' : k.Occurs x before := hsub x hx
      have hsub' : ∀ z, k.Occurs z (before' ++ [x]) → k.Occurs z before := by
        intro z hz
        exact hsub z ((hx.sameMembers_append z).mpr hz)
      rw [if_pos hx, ih hsub', firsts, if_pos hx', firsts_congr hx'.sameMembers_append]
    · have hsub' : ∀ z, k.Occurs z (before' ++ [x]) → k.Occurs z (before ++ [x]) := by
        intro z
        rw [occurs_append, occurs_append]
        exact Or.imp_left (hsub z)
      rw [if_neg hx, firsts, firsts, ih hsub']

/-- Two lists can be deduplicated before they are joined. -/
theorem firsts_append_firsts (k : Kind) (xs ys : List Ty) :
    k.firsts [] (k.firsts [] xs ++ k.firsts [] ys) = k.firsts [] (xs ++ ys) := by
  have hnone : ∀ {before : List Ty} (z : Ty), k.Occurs z [] → k.Occurs z before := by
    rintro before z ⟨y, hy, -⟩
    exact absurd hy List.not_mem_nil
  rw [firsts_append, firsts_append, firsts_firsts xs hnone, List.nil_append, List.nil_append,
    firsts_firsts ys hnone, firsts_congr (k.sameMembers_firsts xs)]

theorem sameMembers_append_comm (xs ys : List Ty) : k.SameMembers (xs ++ ys) (ys ++ xs) := by
  intro z
  rw [occurs_append, occurs_append, or_comm]

theorem SameMembers.append {xs xs' ys ys' : List Ty} (hxs : k.SameMembers xs xs')
    (hys : k.SameMembers ys ys') : k.SameMembers (xs ++ ys) (xs' ++ ys') := by
  intro z
  rw [occurs_append, occurs_append, hxs z, hys z]

end Kind

/-! ## Union -/

namespace Ty

/-- The set of two lists joined: the union of what they hold. -/
def union (a b : Ty) : Option Ty := (a.concat b).bind toSet

variable {a b : Ty} {k : Kind} {xs ys : List Ty}

theorem exists_concat (ha : a.sequence? = some ⟨.list, k, xs⟩)
    (hb : b.sequence? = some ⟨.list, k, ys⟩) :
    ∃ c, a.concat b = some c ∧ c.sequence? = some ⟨.list, k, xs ++ ys⟩ := by
  obtain ⟨-, hxs⟩ := sequence?_eq_some_iff.mp ha
  obtain ⟨-, hys⟩ := sequence?_eq_some_iff.mp hb
  refine ⟨Sequence.toTy ⟨.list, k, xs ++ ys⟩, ?_, ?_⟩
  · rw [concat_eq ha hb, if_pos ⟨rfl, rfl, rfl⟩]
  · exact sequence?_eq_some_iff.mpr ⟨rfl, List.forall_mem_append.mpr ⟨hxs, hys⟩⟩

/-- The union of two lists of one kind exists: it holds the first occurrences of the
    lists joined. -/
theorem exists_union (ha : a.sequence? = some ⟨.list, k, xs⟩)
    (hb : b.sequence? = some ⟨.list, k, ys⟩) :
    ∃ u, a.union b = some u ∧ u.sequence? = some ⟨.set, k, k.firsts [] (xs ++ ys)⟩ := by
  obtain ⟨c, hc, hcs⟩ := exists_concat ha hb
  obtain ⟨-, hadmits⟩ := sequence?_eq_some_iff.mp hcs
  refine ⟨_, ?_, sequence?_firsts hadmits⟩
  rw [union, hc, Option.bind_some, toSet_eq hcs]

/-- Folding the second list into the set of the first one makes the union. -/
theorem folded_toSet (ha : a.sequence? = some ⟨.list, k, xs⟩)
    (hb : b.sequence? = some ⟨.list, k, ys⟩) :
    b.folded (Sequence.toTy ⟨.set, k, k.firsts [] xs⟩) (combinator .addIfAbsent).combine =
      some (Sequence.toTy ⟨.set, k, k.firsts [] (xs ++ ys)⟩) := by
  obtain ⟨-, hxs⟩ := sequence?_eq_some_iff.mp ha
  obtain ⟨-, hys⟩ := sequence?_eq_some_iff.mp hb
  rw [folded, hb, Option.bind_eq_bind, Option.bind_some, Kind.firsts_append, List.nil_append]
  -- What was kept of the first list has its members, so the fold can be read as if it
  -- had seen the whole of it.
  refine foldlM_insert (Kind.admits_of_mem_firsts hxs) hys fun z => ?_
  exact (k.sameMembers_firsts xs z).symm

/-- Sets of first occurrences are equal if the lists have the same members. -/
theorem setEq_of_firsts {u v : Ty} {zs zs' : List Ty}
    (hu : u.sequence? = some ⟨.set, k, k.firsts [] zs⟩)
    (hv : v.sequence? = some ⟨.set, k, k.firsts [] zs'⟩) (h : k.SameMembers zs zs') :
    u.setEq v = some true :=
  (setEq_eq_true_iff hu hv).mpr ⟨rfl, h.firsts⟩

/-- A value is in the union if it is in one of the lists. -/
theorem isIn_union {u x : Ty} (ha : a.sequence? = some ⟨.list, k, xs⟩)
    (hb : b.sequence? = some ⟨.list, k, ys⟩)
    (hu : u.sequence? = some ⟨.set, k, k.firsts [] (xs ++ ys)⟩) (hx : k.admits x = true) :
    ∃ p q, a.isIn x = some p ∧ b.isIn x = some q ∧ u.isIn x = some (p || q) := by
  refine ⟨_, _, isIn_eq_occurs ha hx, isIn_eq_occurs hb hx, ?_⟩
  have hmembers : k.Occurs x (k.firsts [] (xs ++ ys)) ↔ k.Occurs x xs ∨ k.Occurs x ys := by
    rw [← k.sameMembers_firsts (xs ++ ys) x, Kind.occurs_append]
  rw [isIn_eq_occurs hu hx, decide_eq_decide.mpr hmembers, Bool.decide_or]

/-- The set of two lists joined is the union. It exists for lists of one kind, and has
    as members those of either list. It is the type that folding the second list into
    the set of the first one gives, and the type that comes out if both lists are
    deduplicated before they are joined. The other order gives an equal set, and so do
    other lists in their place that are equal to them as sets. -/
theorem union_of_lists_is_set_union (ha : a.sequence? = some ⟨.list, k, xs⟩)
    (hb : b.sequence? = some ⟨.list, k, ys⟩) :
    ∃ u v sa sb, a.union b = some u ∧ b.union a = some v ∧
      a.toSet = some sa ∧ b.toSet = some sb ∧
      (∀ x, k.admits x = true →
        ∃ p q, a.isIn x = some p ∧ b.isIn x = some q ∧ u.isIn x = some (p || q)) ∧
      b.folded sa (combinator .addIfAbsent).combine = some u ∧
      (∃ us vs, sa.sequence? = some ⟨.set, k, us⟩ ∧ sb.sequence? = some ⟨.set, k, vs⟩ ∧
        (Sequence.toTy ⟨.list, k, us⟩).union (Sequence.toTy ⟨.list, k, vs⟩) = some u) ∧
      u.setEq v = some true ∧
      ∀ (a' b' : Ty) (k' l' : Kind) (xs' ys' : List Ty),
        a'.sequence? = some ⟨.list, k', xs'⟩ → b'.sequence? = some ⟨.list, l', ys'⟩ →
        a.setEq a' = some true → b.setEq b' = some true →
        ∃ u', a'.union b' = some u' ∧ u.setEq u' = some true := by
  obtain ⟨-, hxs⟩ := sequence?_eq_some_iff.mp ha
  obtain ⟨-, hys⟩ := sequence?_eq_some_iff.mp hb
  obtain ⟨u, hu, hus⟩ := exists_union ha hb
  obtain ⟨v, hv, hvs⟩ := exists_union hb ha
  obtain ⟨hterm, -⟩ := sequence?_eq_some_iff.mp hus
  refine ⟨u, v, _, _, hu, hv, toSet_eq ha, toSet_eq hb, fun x hx => isIn_union ha hb hus hx,
    ?_, ?_, setEq_of_firsts hus hvs (Kind.sameMembers_append_comm xs ys), ?_⟩
  · rw [hterm]
    exact folded_toSet ha hb
  · refine ⟨_, _, sequence?_firsts hxs, sequence?_firsts hys, ?_⟩
    have hlist : ∀ {zs : List Ty}, (∀ z ∈ zs, k.admits z = true) →
        (Sequence.toTy ⟨.list, k, k.firsts [] zs⟩).sequence? = some ⟨.list, k, k.firsts [] zs⟩ :=
      fun hzs => sequence?_eq_some_iff.mpr ⟨rfl, Kind.admits_of_mem_firsts hzs⟩
    obtain ⟨w, hw, hws⟩ := exists_union (hlist hxs) (hlist hys)
    obtain ⟨hterm', -⟩ := sequence?_eq_some_iff.mp hws
    rw [hw, hterm, hterm', Kind.firsts_append_firsts]
  · intro a' b' k' l' xs' ys' ha' hb' haa' hbb'
    obtain ⟨rfl, hsame⟩ := (setEq_eq_true_iff ha ha').mp haa'
    obtain ⟨rfl, hsame'⟩ := (setEq_eq_true_iff hb hb').mp hbb'
    obtain ⟨u', hu', hus'⟩ := exists_union ha' hb'
    exact ⟨u', hu', setEq_of_firsts hus hus' (hsame.append hsame')⟩

/-- Two lists of integers that share one, with a repetition in the first: the union has
    each once, in the order of the lists, and equals the union of other lists with the
    same members. -/
theorem union_of_lists_is_set_union_at_overlap :
    ∃ u u', (Sequence.toTy ⟨.list, .int, [intLit 3, intLit 1, intLit 3]⟩).union
        (Sequence.toTy ⟨.list, .int, [intLit 1, intLit (-4)]⟩) = some u ∧
      u = Sequence.toTy ⟨.set, .int, [intLit 3, intLit 1, intLit (-4)]⟩ ∧
      (Sequence.toTy ⟨.list, .int, [intLit 1, intLit 3]⟩).union
        (Sequence.toTy ⟨.list, .int, [intLit (-4), intLit 1, intLit 1]⟩) = some u' ∧
      u.setEq u' = some true := by
  have ha : (Sequence.toTy ⟨.list, .int, [intLit 3, intLit 1, intLit 3]⟩).sequence? =
      some ⟨.list, .int, [intLit 3, intLit 1, intLit 3]⟩ := by decide +kernel
  have hb : (Sequence.toTy ⟨.list, .int, [intLit 1, intLit (-4)]⟩).sequence? =
      some ⟨.list, .int, [intLit 1, intLit (-4)]⟩ := by decide +kernel
  obtain ⟨u, -, -, -, hu, -, -, -, -, -, -, -, hcongr⟩ := union_of_lists_is_set_union ha hb
  obtain ⟨u', hu', hequal⟩ := hcongr
    (Sequence.toTy ⟨.list, .int, [intLit 1, intLit 3]⟩)
    (Sequence.toTy ⟨.list, .int, [intLit (-4), intLit 1, intLit 1]⟩)
    .int .int [intLit 1, intLit 3] [intLit (-4), intLit 1, intLit 1]
    (by decide +kernel) (by decide +kernel) (by decide +kernel) (by decide +kernel)
  have hterm : u = Sequence.toTy ⟨.set, .int, [intLit 3, intLit 1, intLit (-4)]⟩ :=
    Option.some.inj (hu.symm.trans (by decide +kernel))
  exact ⟨u, u', hu, hterm, hu', hequal⟩

end Ty

end KindSeq
