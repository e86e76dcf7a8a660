/-
  KindSeq.Proofs.Insertion

  Laws of insertion into a set, which may have been spelled out with repetitions. What
  an insertion leaves behind is `Kind.added`: the elements themselves if the value
  occurs among them, and otherwise the elements with the value at the end. All laws
  come from the members of that list (`occurs_added`): the old ones and the equals of
  the value. The order of two insertions shows in the list but not in its members
  (`sameMembers_added_comm`).
-/

import KindSeq.Program.Query
import KindSeq.Proofs.SetEquality

namespace KindSeq

/-! ## One more element -/

namespace Kind

/-- The elements with a value at their end, unless it occurs among them. -/
def added (k : Kind) (acc : List Ty) (x : Ty) : List Ty :=
  if k.Occurs x acc then acc else acc ++ [x]

variable {k : Kind} {acc : List Ty} {x y : Ty}

theorem added_of_occurs (h : k.Occurs x acc) : k.added acc x = acc := if_pos h

theorem added_of_not_occurs (h : ¬k.Occurs x acc) : k.added acc x = acc ++ [x] := if_neg h

/-- The members are the old ones and the equals of the value. -/
theorem occurs_added {z : Ty} :
    k.Occurs z (k.added acc x) ↔ k.Occurs z acc ∨ k.eq x z = some true := by
  by_cases h : k.Occurs x acc
  · have hmembers := h.sameMembers_append z
    rw [occurs_append, occurs_singleton] at hmembers
    rw [added_of_occurs h]
    exact hmembers
  · rw [added_of_not_occurs h, occurs_append, occurs_singleton]

theorem occurs_added_self (hx : k.admits x = true) : k.Occurs x (k.added acc x) :=
  occurs_added.mpr (Or.inr (eq_self hx))

theorem admits_of_mem_added (hacc : ∀ y ∈ acc, k.admits y = true) (hx : k.admits x = true) :
    ∀ y ∈ k.added acc x, k.admits y = true := by
  by_cases h : k.Occurs x acc
  · rwa [added_of_occurs h]
  · rw [added_of_not_occurs h, List.forall_mem_append, List.forall_mem_singleton]
    exact ⟨hacc, hx⟩

theorem added_eq_self_iff : k.added acc x = acc ↔ k.Occurs x acc := by
  constructor
  · intro hsame
    by_contra h
    rw [added_of_not_occurs h] at hsame
    have hlength := congrArg List.length hsame
    rw [List.length_append, List.length_singleton] at hlength
    omega
  · exact added_of_occurs

/-- A value can be added once only. -/
theorem added_added_self (hx : k.admits x = true) :
    k.added (k.added acc x) x = k.added acc x :=
  added_of_occurs (occurs_added_self hx)

/-- The order in which two values are added does not change the members. -/
theorem sameMembers_added_comm :
    k.SameMembers (k.added (k.added acc x) y) (k.added (k.added acc y) x) := by
  intro z
  rw [occurs_added, occurs_added, occurs_added, occurs_added, or_right_comm]

/-- No member is added exactly if the value occurred. -/
theorem sameMembers_added_iff (hx : k.admits x = true) :
    k.SameMembers (k.added acc x) acc ↔ k.Occurs x acc := by
  constructor
  · intro h
    exact (h x).mp (occurs_added_self hx)
  · intro h
    rw [added_of_occurs h]
    exact fun z => Iff.rfl

end Kind

/-! ## Insertion -/

namespace Ty

variable {s x y : Ty} {k : Kind} {acc : List Ty}

theorem insert_eq_added (hs : s.sequence? = some ⟨.set, k, acc⟩) (hx : k.admits x = true) :
    s.insert x = some (Sequence.toTy ⟨.set, k, k.added acc x⟩) := by
  rw [insert_of_sequence? hs, if_pos (Or.inr hx)]
  rfl

theorem sequence?_added (hs : s.sequence? = some ⟨.set, k, acc⟩) (hx : k.admits x = true) :
    (Sequence.toTy ⟨.set, k, k.added acc x⟩).sequence? = some ⟨.set, k, k.added acc x⟩ := by
  obtain ⟨-, hacc⟩ := sequence?_eq_some_iff.mp hs
  exact sequence?_eq_some_iff.mpr ⟨rfl, Kind.admits_of_mem_added hacc hx⟩

/-- A set with a value has the members of the set and the equals of the value. -/
theorem isIn_added {inY same : Bool} (hs : s.sequence? = some ⟨.set, k, acc⟩)
    (hx : k.admits x = true) (hy : k.admits y = true) (hin : s.isIn y = some inY)
    (hsame : k.eq x y = some same) :
    (Sequence.toTy ⟨.set, k, k.added acc x⟩).isIn y = some (inY || same) := by
  rw [isIn_eq_occurs hs hy, Option.some.injEq] at hin
  rw [isIn_eq_occurs (sequence?_added hs hx) hy, ← hin, Option.some.injEq, Bool.eq_iff_iff,
    decide_eq_true_iff, Bool.or_eq_true, decide_eq_true_iff, Kind.occurs_added, hsame,
    Option.some.injEq]

/-- Insertion of values of the kind into a set always exists. It leaves the set as it
    is exactly if the value is in it, and otherwise puts the value at the end, which
    makes the set longer by one. A value is in the larger set if it was in the set or
    equals the new one. A second insertion of the value changes nothing; two insertions
    in either order give equal sets; and the larger set equals the set exactly if the
    value was in it. -/
theorem insertion_obeys_set_laws (hs : s.sequence? = some ⟨.set, k, acc⟩)
    (hx : k.admits x = true) (hy : k.admits y = true) :
    ∃ sx sy sxy syx inX inY same,
      s.insert x = some sx ∧ s.insert y = some sy ∧
      sx.insert y = some sxy ∧ sy.insert x = some syx ∧
      s.isIn x = some inX ∧ s.isIn y = some inY ∧ k.eq x y = some same ∧
      (sx = s ↔ inX = true) ∧
      (inX = false → sx.sequence? = some ⟨.set, k, acc ++ [x]⟩ ∧
        ∃ n, Query.len.answer? [s] = some (.len n) ∧
          Query.len.answer? [sx] = some (.len (n + 1))) ∧
      sx.isIn y = some (inY || same) ∧
      sx.insert x = some sx ∧
      sxy.setEq syx = some true ∧
      sx.setEq s = some inX := by
  obtain ⟨same, hsame⟩ := Kind.exists_eq hx hy
  have hin := isIn_eq_occurs hs hy
  have hsx := sequence?_added hs hx
  have hsy := sequence?_added hs hy
  refine ⟨_, _, _, _, _, _, same, insert_eq_added hs hx, insert_eq_added hs hy,
    insert_eq_added hsx hy, insert_eq_added hsy hx, isIn_eq_occurs hs hx, hin, hsame,
    ?_, ?_, isIn_added hs hx hy hin hsame, ?_, ?_, ?_⟩
  · obtain ⟨rfl, -⟩ := sequence?_eq_some_iff.mp hs
    rw [decide_eq_true_iff]
    constructor
    · intro hsets
      have hshape := congrArg shape? hsets
      simp only [shape?_toTy, Option.some.injEq, Sequence.mk.injEq, true_and] at hshape
      exact Kind.added_eq_self_iff.mp hshape
    · intro hocc
      rw [Kind.added_of_occurs hocc]
  · intro hnot
    rw [Kind.added_of_not_occurs (of_decide_eq_false hnot)] at hsx ⊢
    refine ⟨hsx, acc.length, ?_, ?_⟩
    · show (s.sequence?.map fun q => Answer.len q.elems.length) = _
      rw [hs, Option.map_some]
    · show ((Sequence.toTy ⟨.set, k, acc ++ [x]⟩).sequence?.map fun q =>
        Answer.len q.elems.length) = _
      rw [hsx, Option.map_some, List.length_append, List.length_singleton]
  · rw [insert_eq_added hsx hx, Kind.added_added_self hx]
  · have hxy := sequence?_added hsx hy
    have hyx := sequence?_added hsy hx
    exact (setEq_eq_true_iff hxy hyx).mpr ⟨rfl, Kind.sameMembers_added_comm⟩
  · obtain ⟨r, hr, hiff⟩ := exists_setEq hsx hs rfl
    rw [hr, Option.some.injEq, Bool.eq_iff_iff, hiff, decide_eq_true_iff]
    exact Kind.sameMembers_added_iff hx

/-- A set that was spelled with a repetition takes two new integers, and the order in
    which it takes them shows in its elements only. -/
theorem insertion_obeys_set_laws_at_repetition :
    ∃ sx sxy syx, (Sequence.toTy ⟨.set, .int, [intLit 2, intLit 2]⟩).insert (intLit 5) = some sx ∧
      sx.sequence? = some ⟨.set, .int, [intLit 2, intLit 2, intLit 5]⟩ ∧
      sx.insert (intLit (-1)) = some sxy ∧ sxy.setEq syx = some true ∧
      syx = Sequence.toTy ⟨.set, .int, [intLit 2, intLit 2, intLit (-1), intLit 5]⟩ ∧
      sx.setEq (Sequence.toTy ⟨.set, .int, [intLit 2, intLit 2]⟩) = some false := by
  have hset : (Sequence.toTy ⟨.set, .int, [intLit 2, intLit 2]⟩).sequence? =
      some ⟨.set, .int, [intLit 2, intLit 2]⟩ := by decide +kernel
  have hfive : Kind.int.admits (intLit 5) = true := by decide +kernel
  have hminus : Kind.int.admits (intLit (-1)) = true := by decide +kernel
  obtain ⟨sx, sy, sxy, syx, inX, inY, same, hsx, hsy, hsxy, hsyx, hinX, -, -, -, hnew, -, -,
    hcomm, hlarger⟩ := insertion_obeys_set_laws hset hfive hminus
  have habsent : inX = false := Option.some.inj (hinX.symm.trans (by decide +kernel))
  have hfirst : sy = Sequence.toTy ⟨.set, .int, [intLit 2, intLit 2, intLit (-1)]⟩ :=
    Option.some.inj (hsy.symm.trans (by decide +kernel))
  rw [hfirst] at hsyx
  have hsecond : syx = Sequence.toTy ⟨.set, .int, [intLit 2, intLit 2, intLit (-1), intLit 5]⟩ :=
    Option.some.inj (hsyx.symm.trans (by decide +kernel))
  rw [habsent] at hlarger
  exact ⟨sx, sxy, syx, hsx, (hnew habsent).1, hsxy, hcomm, hsecond, hlarger⟩

end Ty

end KindSeq
