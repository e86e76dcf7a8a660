/-
  KindSeq.Proofs.WrappingSum

  The sum of a sequence of integers is their exact sum, wrapped once at 64 bits, even
  though the fold behind it wraps at every step. It exists exactly if all elements have
  sixteen digits, the length of the zero that the fold starts from (`exists_sum_iff`,
  `sum_eq_intLit`).

  So the sum goes through what is exact on integers: it does not see the order of the
  elements, the sum of two lists joined is the sum of their sums (`sum_concat`), and
  negating every element negates it. For negation the two folds are run side by side,
  and each pair of accumulators are negatives of each other (`foldlM_add_neg`).
-/

import KindSeq.Proofs.EarliestError
import KindSeq.Proofs.IntegerEncoding
import KindSeq.Proofs.Union

namespace KindSeq.Ty

/-! ## Integers one by one -/

/-- A function that is defined on every element has a list of values. -/
theorem exists_map_eq_map_some {β : Type} {f : Ty → Option β} {xs : List Ty}
    (h : ∀ x ∈ xs, ∃ y, f x = some y) : ∃ ys : List β, xs.map f = ys.map some := by
  induction xs with
  | nil => exact ⟨[], rfl⟩
  | cons x xs ih =>
    obtain ⟨⟨y, hy⟩, hxs⟩ := List.forall_mem_cons.mp h
    obtain ⟨ys, hys⟩ := ih hxs
    exact ⟨y :: ys, by rw [List.map_cons, List.map_cons, hy, hys]⟩

/-- Every integer has a negative, and it has as many digits. -/
theorem exists_neg {x : Ty} (hx : Kind.int.admits x = true) :
    ∃ y, x.neg = some y ∧ (y.IsWord ↔ x.IsWord) := by
  obtain ⟨ds, hds⟩ := Option.isSome_iff_exists.mp hx
  obtain rfl := ofIntDigits_of_intDigits? hds
  refine ⟨_, by rw [neg_ofIntDigits, Digits.neg_eq, Option.map_some], ?_⟩
  rw [isWord_ofIntDigits, isWord_ofIntDigits, Digits.length_ofNat]

theorem exists_intValue? {x : Ty} (hx : Kind.int.admits x = true) : ∃ v, x.intValue? = some v := by
  obtain ⟨ds, hds⟩ := Option.isSome_iff_exists.mp hx
  exact ⟨Digits.toInt ds, by rw [intValue?, hds, Option.map_some]⟩

/-- One step of two sums: from negative accumulators, negative elements lead to
    negative accumulators, or both steps are undefined. -/
theorem add_neg_step {x y : Ty} (hx : Kind.int.admits x = true) (hy : x.neg = some y) (v : Int) :
    (∃ w, (intLit v).add x = some (intLit w) ∧ (intLit (-v)).add y = some (intLit (-w))) ∨
      ((intLit v).add x = none ∧ (intLit (-v)).add y = none) := by
  obtain ⟨z, hz, hword⟩ := exists_neg hx
  obtain rfl : z = y := Option.some.inj (hz.symm.trans hy)
  by_cases hx' : x.IsWord
  · left
    obtain ⟨w, rfl⟩ := hx'.exists_eq_intLit
    have hneg : z = intLit (-w.toInt) := Option.some.inj (hz.symm.trans (neg_intLit _))
    refine ⟨v + w.toInt, add_intLit _ _, ?_⟩
    rw [hneg, add_intLit, ← Int.neg_add]
  · right
    have hz' : ¬z.IsWord := fun h => hx' (hword.mp h)
    exact ⟨add_eq_none_of_not_isWord hx' v, add_eq_none_of_not_isWord hz' (-v)⟩

/-- The run of two sums over elements and their negatives. -/
theorem foldlM_add_neg {xs ys : List Ty} (hxs : ∀ x ∈ xs, Kind.int.admits x = true)
    (h : xs.map neg = ys.map some) (v : Int) :
    ys.foldlM add (intLit (-v)) = (xs.foldlM add (intLit v)).bind neg := by
  -- Both accumulators change with each element; what is kept is that they are negatives
  -- of each other, so the induction is for every value that they can have.
  induction xs generalizing ys v with
  | nil =>
    obtain rfl : ys = [] := List.map_eq_nil_iff.mp h.symm
    exact (neg_intLit v).symm
  | cons x xs ih =>
    cases ys with
    | nil => exact absurd h (by simp)
    | cons y ys =>
      obtain ⟨hx, hxs'⟩ := List.forall_mem_cons.mp hxs
      obtain ⟨hy, hys⟩ := List.cons.inj h
      rw [List.foldlM_cons, List.foldlM_cons, Option.bind_eq_bind]
      obtain ⟨w, hw, hw'⟩ | ⟨hnone, hnone'⟩ := add_neg_step hx hy v
      · rw [hw, hw', Option.bind_some, Option.bind_some]
        exact ih hxs' hys w
      · rw [hnone, hnone']
        rfl

/-! ## Sums of sequences -/

section Sums

variable {s t : Ty} {p q : Sequence}

theorem exists_sum_iff (hs : s.sequence? = some q) (hk : q.kind = .int) :
    (∃ r, s.sum = some r) ↔ ∀ x ∈ q.elems, x.IsWord := by
  rw [sum_eq hs hk]
  simp

/-- A sum is the literal of the 64-bit integer that agrees with the exact sum modulo
    `2 ^ 64`. -/
theorem sum_eq_intLit {vs : List Int} {r : Ty} (hs : s.sequence? = some q) (hk : q.kind = .int)
    (hvs : q.elems.map intValue? = vs.map some) (hr : s.sum = some r) :
    ∃ v : Int64, r = intLit v.toInt ∧ v.toInt % 2 ^ 64 = vs.sum % 2 ^ 64 := by
  have hvalues : q.elems.filterMap intValue? = vs := by
    have h := congrArg (List.filterMap id) hvs
    rw [List.filterMap_map, List.filterMap_map] at h
    have hself : vs.filterMap (id ∘ some) = vs := List.filterMap_some
    rwa [hself] at h
  -- Wrapping the exact sum once does not change the literal.
  have hmod : (Int64.ofInt vs.sum).toInt % 2 ^ 64 = vs.sum % 2 ^ 64 := by
    rw [Int64.toInt_ofInt]
    exact Int.bmod_emod
  have hwords := (exists_sum_iff hs hk).mp ⟨r, hr⟩
  rw [sum_eq hs hk, if_pos hwords, hvalues] at hr
  refine ⟨Int64.ofInt vs.sum, ?_, hmod⟩
  rw [← Option.some.inj hr]
  exact intLit_congr hmod.symm

/-- The sum of two lists joined is the sum of their sums, and exists if both do. -/
theorem sum_concat {c : Ty} {xs ys : List Ty} (hs : s.sequence? = some ⟨.list, .int, xs⟩)
    (ht : t.sequence? = some ⟨.list, .int, ys⟩) (hc : c.sequence? = some ⟨.list, .int, xs ++ ys⟩) :
    c.sum = s.sum.bind fun x => t.sum.bind fun y => x.add y := by
  rw [sum_eq hs rfl, sum_eq ht rfl, sum_eq hc rfl]
  -- An element of another length is in one of the parts, and takes the sum of that part away.
  have hwords : (∀ z ∈ xs ++ ys, z.IsWord) ↔ (∀ x ∈ xs, x.IsWord) ∧ ∀ y ∈ ys, y.IsWord :=
    List.forall_mem_append
  by_cases hxs : ∀ x ∈ xs, x.IsWord
  · by_cases hys : ∀ y ∈ ys, y.IsWord
    · rw [if_pos (hwords.mpr ⟨hxs, hys⟩), if_pos hxs, if_pos hys, Option.bind_some,
        Option.bind_some, add_intLit, List.filterMap_append, List.sum_append]
    · rw [if_neg fun h => hys (hwords.mp h).2, if_pos hxs, if_neg hys]
      rfl
  · rw [if_neg fun h => hxs (hwords.mp h).1, if_neg hxs]
    rfl

/-- The sum of negated elements is the negated sum. -/
theorem sum_of_map_neg (hs : s.sequence? = some q) (hk : q.kind = .int)
    (ht : t.sequence? = some p) (hp : p.kind = .int) (h : q.elems.map neg = p.elems.map some) :
    t.sum = s.sum.bind neg := by
  obtain ⟨-, hxs⟩ := sequence?_eq_some_iff.mp hs
  rw [hk] at hxs
  have hfold : ∀ {u : Ty} {w : Sequence}, u.sequence? = some w → w.kind = .int →
      u.sum = w.elems.foldlM add (intLit 0) := by
    intro u w hu hw
    rw [sum_eq hu hw, foldlM_add_eq, Int.zero_add]
  rw [hfold hs hk, hfold ht hp]
  exact foldlM_add_neg hxs h 0

/-- Mapping a list of integers by negation negates its elements one by one. -/
theorem mapped_negInt {k : Kind} {xs ys : List Ty} (hs : s.sequence? = some ⟨.list, k, xs⟩)
    (h : xs.map neg = ys.map some) :
    s.mapped .negInt = some (Sequence.toTy ⟨.list, .int, ys⟩) := by
  obtain ⟨rfl, -⟩ := sequence?_eq_some_iff.mp hs
  have houtcomes : xs.map Mapping.negInt.apply = (ys.map (Outcome.mk · .clear)).map some := by
    have hmap := congrArg (List.map (Option.map (Outcome.mk · .clear))) h
    rw [List.map_map, List.map_map] at hmap
    rw [List.map_map]
    exact hmap
  rw [mapped_of_outcomes (shape?_toTy _) houtcomes, List.map_map]
  have hvalues : ys.map (Outcome.value ∘ (Outcome.mk · .clear)) = ys := List.map_id ys
  rw [hvalues]
  rfl

/-- The sum of a sequence of integers wraps at 64 bits. It exists exactly if every
    element has sixteen digits, and is then the literal of the 64-bit integer that
    agrees with the exact sum of the values modulo `2 ^ 64`. It does not depend on the
    order of the elements or the form of the sequence. Joining lists adds their sums,
    and negating every element, as mapping a list by negation does, negates the sum;
    in both, one side is undefined if the other is. -/
theorem sum_wraps_exact_sum (hs : s.sequence? = some q) (hk : q.kind = .int) :
    (∃ vs : List Int, q.elems.map intValue? = vs.map some ∧
      ((∃ r, s.sum = some r) ↔ ∀ x ∈ q.elems, x.IsWord) ∧
      ∀ r, s.sum = some r →
        ∃ v : Int64, r = intLit v.toInt ∧ v.toInt % 2 ^ 64 = vs.sum % 2 ^ 64) ∧
    (∀ (t : Ty) (p : Sequence), t.sequence? = some p → p.kind = .int →
      q.elems.Perm p.elems → t.sum = s.sum) ∧
    (∀ (t : Ty) (ys : List Ty), q.form = .list → t.sequence? = some ⟨.list, .int, ys⟩ →
      ∃ c, s.concat t = some c ∧ c.sum = s.sum.bind fun x => t.sum.bind fun y => x.add y) ∧
    ∃ ys : List Ty, q.elems.map neg = ys.map some ∧
      (q.form = .list → s.mapped .negInt = some (Sequence.toTy ⟨.list, .int, ys⟩)) ∧
      ∀ form : Form, (Sequence.toTy ⟨form, .int, ys⟩).sum = s.sum.bind neg := by
  obtain ⟨form, k, xs⟩ := q
  obtain rfl : k = .int := hk
  obtain ⟨-, hxs⟩ := sequence?_eq_some_iff.mp hs
  obtain ⟨vs, hvs⟩ := exists_map_eq_map_some fun x hx => exists_intValue? (hxs x hx)
  refine ⟨⟨vs, hvs, exists_sum_iff hs rfl, fun r => sum_eq_intLit hs rfl hvs⟩, ?_, ?_, ?_⟩
  · intro t p ht hp hperm
    exact (sum_eq_of_perm hs ht rfl hp hperm).symm
  · rintro t ys hform ht
    obtain rfl : form = .list := hform
    obtain ⟨c, hc, hcs⟩ := exists_concat hs ht
    exact ⟨c, hc, sum_concat hs ht hcs⟩
  · have hneg : ∀ x ∈ xs, ∃ y, x.neg = some y := by
      intro x hx
      obtain ⟨y, hy, -⟩ := exists_neg (hxs x hx)
      exact ⟨y, hy⟩
    obtain ⟨ys, hys⟩ := exists_map_eq_map_some hneg
    refine ⟨ys, hys, ?_, fun form' => ?_⟩
    · intro hform
      obtain rfl : form = .list := hform
      exact mapped_negInt hs hys
    · -- Negatives of integers are integers, so they make a sequence in either form.
      have hadmits : ∀ y ∈ ys, Kind.int.admits y = true := by
        intro y hy
        have hmem : some y ∈ xs.map neg := hys ▸ List.mem_map_of_mem hy
        obtain ⟨x, -, hxy⟩ := List.mem_map.mp hmem
        exact admits_of_neg hxy
      exact sum_of_map_neg hs rfl (sequence?_eq_some_iff.mpr ⟨rfl, hadmits⟩) rfl hys

end Sums

/-- A sum that leaves the range at its second element and is back in it at the last; it
    is the same for a set in another order, and is negated with the elements. A sum with
    an element of one digit does not exist. -/
theorem sum_wraps_exact_sum_at_overflow :
    (Sequence.toTy ⟨.set, .int,
      [intLit (-7), intLit 9223372036854775807, intLit 2, intLit 5]⟩).sum =
        (Sequence.toTy ⟨.list, .int,
          [intLit 5, intLit 9223372036854775807, intLit 2, intLit (-7)]⟩).sum ∧
    (Sequence.toTy ⟨.list, .int,
      [intLit 5, intLit 9223372036854775807, intLit 2, intLit (-7)]⟩).sum =
        some (intLit 9223372036854775807) ∧
    (∃ m, (Sequence.toTy ⟨.list, .int,
        [intLit 5, intLit 9223372036854775807, intLit 2, intLit (-7)]⟩).mapped .negInt = some m ∧
      m.sum = some (intLit (-9223372036854775807))) ∧
    ¬∃ r, (Sequence.toTy ⟨.list, .int, [intLit 1, ofIntDigits [1]]⟩).sum = some r := by
  have hlist : (Sequence.toTy ⟨.list, .int,
        [intLit 5, intLit 9223372036854775807, intLit 2, intLit (-7)]⟩).sequence? =
      some ⟨.list, .int, [intLit 5, intLit 9223372036854775807, intLit 2, intLit (-7)]⟩ := by
    decide +kernel
  have hset : (Sequence.toTy ⟨.set, .int,
        [intLit (-7), intLit 9223372036854775807, intLit 2, intLit 5]⟩).sequence? =
      some ⟨.set, .int, [intLit (-7), intLit 9223372036854775807, intLit 2, intLit 5]⟩ := by
    decide +kernel
  have hshort : (Sequence.toTy ⟨.list, .int, [intLit 1, ofIntDigits [1]]⟩).sequence? =
      some ⟨.list, .int, [intLit 1, ofIntDigits [1]]⟩ := by decide +kernel
  have hsum : (Sequence.toTy ⟨.list, .int,
      [intLit 5, intLit 9223372036854775807, intLit 2, intLit (-7)]⟩).sum =
        some (intLit 9223372036854775807) := by decide +kernel
  obtain ⟨-, hperm, -, ys, -, hmapped, hneg⟩ := sum_wraps_exact_sum hlist rfl
  obtain ⟨⟨vs, -, hexists, -⟩, -⟩ := sum_wraps_exact_sum hshort rfl
  refine ⟨hperm _ _ hset rfl (by decide +kernel), hsum, ⟨_, hmapped rfl, ?_⟩, ?_⟩
  · rw [hneg, hsum, Option.bind_some, neg_intLit]
  · rw [hexists]
    decide +kernel

end KindSeq.Ty
