/-
  KindSeq.Proofs.Deduplication

  `toSet` keeps the first occurrence of every value. The specification is
  `Kind.firsts`: the elements that equal none of those before them, dropped ones
  included. The fold only compares with what it has kept so far; both agree
  because equality of a kind is transitive, so that a dropped element equals
  something only if a kept one does (`foldlM_insert`).
-/

import KindSeq.Proofs.Membership

namespace KindSeq

/-! ## First occurrences -/

namespace Kind

/-- The elements that equal no earlier one, where `before` are the elements that
    came before the list. -/
def firsts (k : Kind) (before : List Ty) : List Ty → List Ty
  | [] => []
  | x :: xs =>
    if k.Occurs x before then firsts k (before ++ [x]) xs
    else x :: firsts k (before ++ [x]) xs

/-- No two of the elements are equal. -/
def Distinct (k : Kind) (xs : List Ty) : Prop := xs.Pairwise fun x y => k.eq x y ≠ some true

theorem firsts_sublist (k : Kind) (before xs : List Ty) : (k.firsts before xs).Sublist xs := by
  induction xs generalizing before with
  | nil => exact List.Sublist.refl _
  | cons x xs ih =>
    rw [firsts]
    split
    · exact (ih _).cons x
    · exact (ih _).cons_cons x

theorem admits_of_mem_firsts {k : Kind} {before xs : List Ty}
    (hxs : ∀ x ∈ xs, k.admits x = true) : ∀ x ∈ k.firsts before xs, k.admits x = true :=
  fun x hx => hxs x ((k.firsts_sublist before xs).subset hx)

theorem not_occurs_of_mem_firsts {k : Kind} {before xs : List Ty} {y : Ty}
    (hy : y ∈ k.firsts before xs) : ¬k.Occurs y before := by
  induction xs generalizing before with
  | nil => exact absurd hy List.not_mem_nil
  | cons x xs ih =>
    have hlater : y ∈ k.firsts (before ++ [x]) xs → ¬k.Occurs y before := by
      intro hmem hocc
      exact ih hmem (occurs_append.mpr (Or.inl hocc))
    rw [firsts] at hy
    split at hy
    · exact hlater hy
    · next hx =>
      rcases List.mem_cons.mp hy with rfl | hmem
      · exact hx
      · exact hlater hmem

theorem distinct_firsts (k : Kind) (before xs : List Ty) : k.Distinct (k.firsts before xs) := by
  induction xs generalizing before with
  | nil => exact List.Pairwise.nil
  | cons x xs ih =>
    rw [firsts]
    split
    · exact ih _
    · -- What is kept after `x` does not occur among the elements up to `x`.
      refine List.Pairwise.cons (fun y hy hxy => ?_) (ih _)
      exact not_occurs_of_mem_firsts hy (occurs_append.mpr (Or.inr (occurs_singleton.mpr hxy)))

/-- Distinct elements are not equal, whichever comes first. -/
theorem Distinct.eq_ne {k : Kind} {xs : List Ty} (h : k.Distinct xs) {i j : Fin xs.length}
    (hij : i ≠ j) : k.eq (xs.get i) (xs.get j) ≠ some true := by
  have hbefore := List.pairwise_iff_getElem.mp h
  rcases Nat.lt_or_gt_of_ne (Fin.val_ne_of_ne hij) with hlt | hgt
  · exact hbefore i j i.isLt j.isLt hlt
  · intro heq
    exact hbefore j i j.isLt i.isLt hgt (eq_symm heq)

/-- Distinct elements are all kept. -/
theorem firsts_eq_self {k : Kind} {before xs : List Ty} (h : k.Distinct (before ++ xs)) :
    k.firsts before xs = xs := by
  induction xs generalizing before with
  | nil => rfl
  | cons x xs ih =>
    have hx : ¬k.Occurs x before := by
      rintro ⟨y, hy, hyx⟩
      exact (List.pairwise_append.mp h).2.2 y hy x List.mem_cons_self hyx
    rw [firsts, if_neg hx, ih (by rwa [List.append_assoc])]

/-- Only the members of what came before matter. -/
theorem firsts_congr {k : Kind} {before before' : List Ty}
    (h : k.SameMembers before before') (xs : List Ty) :
    k.firsts before xs = k.firsts before' xs := by
  induction xs generalizing before before' with
  | nil => rfl
  | cons x xs ih =>
    have hlater : k.firsts (before ++ [x]) xs = k.firsts (before' ++ [x]) xs := by
      apply ih
      intro z
      rw [occurs_append, occurs_append, h z]
    rw [firsts, firsts, hlater]
    by_cases hx : k.Occurs x before
    · rw [if_pos hx, if_pos ((h x).mp hx)]
    · rw [if_neg hx, if_neg fun hx' => hx ((h x).mpr hx')]

/-- What occurs in place of a value also occurs in place of its equals. -/
theorem Occurs.of_eq {k : Kind} {x z : Ty} {ys : List Ty} (hx : k.Occurs x ys)
    (hxz : k.eq x z = some true) : k.Occurs z ys := by
  obtain ⟨y, hy, hyx⟩ := hx
  exact ⟨y, hy, eq_trans hyx hxz⟩

/-- A value that occurs adds no member. -/
theorem Occurs.sameMembers_append {k : Kind} {x : Ty} {ys : List Ty} (hx : k.Occurs x ys) :
    k.SameMembers ys (ys ++ [x]) := by
  intro z
  rw [occurs_append, occurs_singleton]
  exact ⟨Or.inl, fun h => h.elim id hx.of_eq⟩

/-- Nothing is lost by keeping first occurrences only. -/
theorem occurs_append_firsts {k : Kind} {z : Ty} (before xs : List Ty) :
    k.Occurs z (before ++ k.firsts before xs) ↔ k.Occurs z (before ++ xs) := by
  induction xs generalizing before with
  | nil => rfl
  | cons x xs ih =>
    have ih := ih (before ++ [x])
    rw [List.append_assoc, List.append_assoc, List.singleton_append, List.singleton_append] at ih
    rw [firsts]
    split
    · next hx =>
      -- `x` is dropped, and what it equals occurs before it.
      rw [← ih, occurs_append, occurs_append, occurs_cons]
      constructor
      · rintro (h | h)
        · exact Or.inl h
        · exact Or.inr (Or.inr h)
      · rintro (h | h | h)
        · exact Or.inl h
        · exact Or.inl (hx.of_eq h)
        · exact Or.inr h
    · exact ih

theorem sameMembers_firsts (k : Kind) (xs : List Ty) : k.SameMembers xs (k.firsts [] xs) :=
  fun _ => (occurs_append_firsts [] xs).symm

theorem SameMembers.firsts {k : Kind} {xs ys : List Ty} (h : k.SameMembers xs ys) :
    k.SameMembers (k.firsts [] xs) (k.firsts [] ys) :=
  ((k.sameMembers_firsts xs).symm.trans h).trans (k.sameMembers_firsts ys)

/-- A list keeps its length exactly if its elements are distinct. -/
theorem length_firsts_eq_iff {k : Kind} {xs : List Ty} :
    (k.firsts [] xs).length = xs.length ↔ k.Distinct xs := by
  constructor
  · intro h
    rw [← (k.firsts_sublist [] xs).eq_of_length h]
    exact k.distinct_firsts [] xs
  · intro h
    rw [firsts_eq_self h]

end Kind

/-! ## The fold -/

namespace Ty

/-- Insertion takes a value of the kind, and anything into an empty set. -/
theorem insert_of_sequence? {s x : Ty} {k : Kind} {acc : List Ty}
    (hs : s.sequence? = some ⟨.set, k, acc⟩) :
    s.insert x = if acc = [] ∧ x.isSized = true ∨ k.admits x = true then
      some (Sequence.toTy ⟨.set, k, if k.Occurs x acc then acc else acc ++ [x]⟩) else none := by
  have hin := isIn_eq hs x
  obtain ⟨rfl, -⟩ := sequence?_eq_some_iff.mp hs
  rw [Sequence.toTy] at hin ⊢
  rw [insert, hin]
  by_cases hx : acc = [] ∧ x.isSized = true ∨ k.admits x = true
  · rw [if_pos hx, if_pos hx]
    by_cases hocc : k.Occurs x acc
    · simp [hocc, append, Sequence.toTy]
    · simp [hocc, append, Sequence.toTy]
  · rw [if_neg hx, if_neg hx]
    rfl

/-- One step: a value that occurs in a set is not added, any other is put at its
    end. -/
theorem insert_eq {k : Kind} {acc : List Ty} {x : Ty} (hacc : ∀ y ∈ acc, k.admits y = true)
    (hx : k.admits x = true) :
    (Sequence.toTy ⟨.set, k, acc⟩).insert x =
      some (Sequence.toTy ⟨.set, k, if k.Occurs x acc then acc else acc ++ [x]⟩) := by
  have hseq : (Sequence.toTy ⟨.set, k, acc⟩).sequence? = some ⟨.set, k, acc⟩ :=
    sequence?_eq_some_iff.mpr ⟨rfl, hacc⟩
  rw [insert_of_sequence? hseq, if_pos (Or.inr hx)]

/-- The run: if the values kept so far and the elements passed so far have the
    same members, the fold appends the first occurrences. -/
theorem foldlM_insert {k : Kind} {acc before xs : List Ty}
    (hacc : ∀ y ∈ acc, k.admits y = true) (hxs : ∀ x ∈ xs, k.admits x = true)
    (hsame : ∀ z, k.Occurs z acc ↔ k.Occurs z before) :
    xs.foldlM insert (Sequence.toTy ⟨.set, k, acc⟩) =
      some (Sequence.toTy ⟨.set, k, acc ++ k.firsts before xs⟩) := by
  -- A step compares with `acc`, the specification with `before`; that they have
  -- the same members is what each step has to restore.
  induction xs generalizing acc before with
  | nil =>
    rw [Kind.firsts, List.append_nil]
    rfl
  | cons x xs ih =>
    obtain ⟨hx, hxs⟩ := List.forall_mem_cons.mp hxs
    rw [List.foldlM_cons, insert_eq hacc hx, Option.bind_eq_bind, Option.bind_some, Kind.firsts]
    by_cases hocc : k.Occurs x before
    · rw [if_pos hocc, if_pos ((hsame x).mpr hocc)]
      refine ih hacc hxs fun z => ?_
      rw [hsame, hocc.sameMembers_append z]
    · have hnot : ¬k.Occurs x acc := fun h => hocc ((hsame x).mp h)
      have hacc' : ∀ y ∈ acc ++ [x], k.admits y = true := by
        rw [List.forall_mem_append, List.forall_mem_singleton]
        exact ⟨hacc, hx⟩
      rw [if_neg hocc, if_neg hnot, List.append_cons acc x (k.firsts (before ++ [x]) xs)]
      refine ih hacc' hxs fun z => ?_
      rw [Kind.occurs_append, Kind.occurs_append, hsame]

theorem toSet_eq {s : Ty} {q : Sequence} (h : s.sequence? = some q) :
    s.toSet = some (Sequence.toTy ⟨.set, q.kind, q.kind.firsts [] q.elems⟩) := by
  obtain ⟨-, hadmits⟩ := sequence?_eq_some_iff.mp h
  have hempty : Ty.set (.kind q.kind) .hNil = Sequence.toTy ⟨.set, q.kind, []⟩ := rfl
  rw [toSet, h, Option.bind_eq_bind, Option.bind_some, folded, h, Option.bind_eq_bind,
    Option.bind_some, hempty]
  exact foldlM_insert (fun y hy => absurd hy List.not_mem_nil) hadmits fun z => Iff.rfl

/-- First occurrences of values of a kind form a set of that kind. -/
theorem sequence?_firsts {k : Kind} {xs : List Ty} (hxs : ∀ x ∈ xs, k.admits x = true) :
    (Sequence.toTy ⟨.set, k, k.firsts [] xs⟩).sequence? = some ⟨.set, k, k.firsts [] xs⟩ := by
  rw [sequence?_eq_some_iff]
  exact ⟨rfl, Kind.admits_of_mem_firsts hxs⟩

/-- The set of a list or set has as its elements those that equal no earlier
    element, in their order. So no two of them are equal; a value of the kind is in
    the one exactly if it is in the other; no element is dropped exactly if they
    were distinct; and a second time changes nothing. -/
theorem toSet_keeps_first_occurrences {s : Ty} {q : Sequence} (h : s.sequence? = some q) :
    ∃ out, s.toSet = some out ∧
      out.sequence? = some ⟨.set, q.kind, q.kind.firsts [] q.elems⟩ ∧
      q.kind.Distinct (q.kind.firsts [] q.elems) ∧
      (∀ x, q.kind.admits x = true → ∃ r, s.isIn x = some r ∧ out.isIn x = some r) ∧
      (q.kind.firsts [] q.elems).length ≤ q.elems.length ∧
      ((q.kind.firsts [] q.elems).length = q.elems.length ↔ q.kind.Distinct q.elems) ∧
      out.toSet = some out := by
  obtain ⟨-, hadmits⟩ := sequence?_eq_some_iff.mp h
  have hout := sequence?_firsts hadmits
  have hdistinct := q.kind.distinct_firsts [] q.elems
  refine ⟨_, toSet_eq h, hout, hdistinct, ?_, ?_, Kind.length_firsts_eq_iff, ?_⟩
  · intro x hx
    refine ⟨_, isIn_eq_occurs h hx, ?_⟩
    have hsame : q.kind.Occurs x (q.kind.firsts [] q.elems) ↔ q.kind.Occurs x q.elems :=
      Kind.occurs_append_firsts [] q.elems
    rw [isIn_eq_occurs hout hx, decide_eq_decide.mpr hsame]
  · exact (q.kind.firsts_sublist [] q.elems).length_le
  · have hagain : q.kind.firsts [] (q.kind.firsts [] q.elems) = q.kind.firsts [] q.elems :=
      Kind.firsts_eq_self hdistinct
    rw [toSet_eq hout, hagain]

/-- A number repeated in a set that was spelled out is kept once, and the same
    number with fewer digits is another one. -/
theorem toSet_keeps_first_occurrences_at_duplicates :
    ∃ out, (Sequence.toTy ⟨.set, .int, [intLit 3, ofIntDigits [3], intLit 3, intLit (-1)]⟩).toSet
        = some out ∧
      out.sequence? = some ⟨.set, .int, [intLit 3, ofIntDigits [3], intLit (-1)]⟩ ∧
      out.toSet = some out := by
  obtain ⟨out, hout, hseq, -, -, -, -, hidem⟩ := toSet_keeps_first_occurrences
    (s := Sequence.toTy ⟨.set, .int, [intLit 3, ofIntDigits [3], intLit 3, intLit (-1)]⟩)
    (q := ⟨.set, .int, [intLit 3, ofIntDigits [3], intLit 3, intLit (-1)]⟩) (by decide +kernel)
  have hfirsts : Kind.int.firsts [] [intLit 3, ofIntDigits [3], intLit 3, intLit (-1)] =
      [intLit 3, ofIntDigits [3], intLit (-1)] := by
    decide +kernel
  rw [hfirsts] at hseq
  exact ⟨out, hout, hseq, hidem⟩

end Ty

end KindSeq
