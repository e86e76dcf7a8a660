/-
  KindSeq.Proofs.SetInvariant

  Sets stay sets. A set that was spelled out can repeat an element, but no run of
  set operations from an empty set ends in one that does: `Builds` is one
  operation, `Reachable` a run of them, and every operation keeps the elements
  distinct (`IsDistinctSet.builds`). Insertion is the delicate one, since it takes
  anything into an empty set; a set that holds a value of another kind is no
  sequence, and takes nothing more (`insert_eq_some_iff`).
-/

import Mathlib.Logic.Relation
import KindSeq.Proofs.Transformation

namespace KindSeq

namespace Ty

/-! ## What an insertion can do -/

/-- Only a set of its kind can be inserted into. -/
theorem sequence?_of_insert {s x t : Ty} (h : s.insert x = some t) :
    ∃ k acc, s.sequence? = some ⟨.set, k, acc⟩ := by
  cases s with
  | set k e =>
    obtain ⟨present, hin, -⟩ := Option.bind_eq_some_iff.mp h
    obtain ⟨⟨form, k', acc⟩, hq, -⟩ := Option.bind_eq_some_iff.mp hin
    obtain ⟨hshape, -⟩ := sequence?_eq_some_iff.mp hq
    cases form with
    | list => exact absurd hshape (by simp [Sequence.toTy])
    | set => exact ⟨k', acc, hq⟩
  | _ => exact absurd h (by simp [insert])

/-- What an insertion can do: the value is one of the kind, or sized and the set is empty;
    and it is put at the end unless it occurs. -/
theorem insert_eq_some_iff {s x t : Ty} :
    s.insert x = some t ↔ ∃ k acc, s.sequence? = some ⟨.set, k, acc⟩ ∧
      (acc = [] ∧ x.isSized = true ∨ k.admits x = true) ∧
      Sequence.toTy ⟨.set, k, if k.Occurs x acc then acc else acc ++ [x]⟩ = t := by
  constructor
  · intro h
    obtain ⟨k, acc, hs⟩ := sequence?_of_insert h
    rw [insert_of_sequence? hs] at h
    split at h
    · next hx => exact ⟨k, acc, hs, hx, Option.some.inj h⟩
    · exact absurd h (by simp)
  · rintro ⟨k, acc, hs, hx, rfl⟩
    rw [insert_of_sequence? hs, if_pos hx]

end Ty

/-! ## Runs of set operations -/

/-- One operation that ends in a set: insertion of anything that can be inserted, a
    fold of insertions over a sequence, the set of a sequence, or a mapped set. The
    last two do not look at the set they are applied after. -/
inductive Builds : Ty → Ty → Prop where
  | insert {s t : Ty} (x : Ty) (h : s.insert x = some t) : Builds s t
  | folded {s t : Ty} (l : Ty) (h : l.folded s Combinator.addIfAbsent.step = some t) : Builds s t
  | toSet {s t : Ty} (l : Ty) (h : l.toSet = some t) : Builds s t
  | mapped {s t : Ty} (k e : Ty) (f : Mapping) (h : (Ty.set k e).mapped f = some t) : Builds s t

/-- A run of operations from an empty set of some kind ends in `t`. -/
def Reachable (t : Ty) : Prop :=
  ∃ k : Kind, Relation.ReflTransGen Builds (.set (.kind k) .hNil) t

/-- The term is a set, and no two of its elements are equal under its kind. -/
def IsDistinctSet (t : Ty) : Prop := ∃ k xs, t = Sequence.toTy ⟨.set, k, xs⟩ ∧ k.Distinct xs

theorem Kind.Distinct.append_singleton {k : Kind} {xs : List Ty} {x : Ty} (h : k.Distinct xs)
    (hx : ¬k.Occurs x xs) : k.Distinct (xs ++ [x]) := by
  refine List.pairwise_append.mpr ⟨h, List.pairwise_singleton _ _, fun y hy z hz hyz => ?_⟩
  rw [List.mem_singleton.mp hz] at hyz
  exact hx ⟨y, hy, hyz⟩

namespace IsDistinctSet

theorem insert {s x t : Ty} (hs : IsDistinctSet s) (h : s.insert x = some t) :
    IsDistinctSet t := by
  obtain ⟨k, acc, hseq, -, rfl⟩ := Ty.insert_eq_some_iff.mp h
  obtain ⟨k', xs, rfl, hdistinct⟩ := hs
  obtain ⟨hsame, -⟩ := Ty.sequence?_eq_some_iff.mp hseq
  have hshape := congrArg Ty.shape? hsame
  simp only [Ty.shape?_toTy, Option.some.injEq, Sequence.mk.injEq, true_and] at hshape
  obtain ⟨rfl, rfl⟩ := hshape
  refine ⟨k', _, rfl, ?_⟩
  by_cases hocc : k'.Occurs x xs
  · rwa [if_pos hocc]
  · rw [if_neg hocc]
    exact hdistinct.append_singleton hocc

theorem foldlM_insert {xs : List Ty} {s t : Ty} (hs : IsDistinctSet s)
    (h : xs.foldlM Ty.insert s = some t) : IsDistinctSet t := by
  induction xs generalizing s with
  | nil =>
    obtain rfl := Option.some.inj h
    exact hs
  | cons x xs ih =>
    rw [List.foldlM_cons] at h
    obtain ⟨u, hu, ht⟩ := Option.bind_eq_some_iff.mp h
    exact ih (hs.insert hu) ht

theorem of_toSet {l t : Ty} (h : l.toSet = some t) : IsDistinctSet t := by
  obtain ⟨q, hq, -⟩ := Option.bind_eq_some_iff.mp h
  rw [Ty.toSet_eq hq] at h
  exact ⟨q.kind, _, (Option.some.inj h).symm, q.kind.distinct_firsts [] q.elems⟩

theorem of_mapped {k e t : Ty} {f : Mapping} (h : (Ty.set k e).mapped f = some t) :
    IsDistinctSet t := by
  obtain ⟨r, hr, -⟩ := Option.map_eq_some_iff.mp h
  obtain ⟨⟨form, k', xs⟩, hshape, -⟩ := Option.bind_eq_some_iff.mp hr
  obtain ⟨-, rfl⟩ := (Ty.mapped_eq_some_iff hshape).mp h
  have hterm := Ty.toTy_of_shape? hshape
  cases form with
  | list => exact absurd hterm (by simp [Sequence.toTy])
  | set => exact ⟨f.target, _, rfl, f.target.distinct_firsts [] _⟩

/-- One step: every operation keeps the elements distinct. -/
theorem builds {s t : Ty} (hs : IsDistinctSet s) (h : Builds s t) : IsDistinctSet t := by
  cases h with
  | insert x h => exact hs.insert h
  | folded l h =>
    obtain ⟨q, -, hfold⟩ := Option.bind_eq_some_iff.mp h
    exact hs.foldlM_insert hfold
  | toSet l h => exact of_toSet h
  | mapped k e f h => exact of_mapped h

/-- The run. -/
theorem of_reachable {t : Ty} (h : Reachable t) : IsDistinctSet t := by
  obtain ⟨k, hrun⟩ := h
  induction hrun with
  | refl => exact ⟨k, [], rfl, List.Pairwise.nil⟩
  | tail _ hstep ih => exact ih.builds hstep

end IsDistinctSet

/-- Whatever is inserted, folded in, deduplicated or mapped on the way from an empty
    set, no two positions of the set at the end hold elements that are equal under
    its kind. -/
theorem reachable_elements_are_distinct {t : Ty} (h : Reachable t) :
    ∃ k xs, t = Sequence.toTy ⟨.set, k, xs⟩ ∧
      ∀ i j : Fin xs.length, i ≠ j → k.eq (xs.get i) (xs.get j) ≠ some true := by
  obtain ⟨k, xs, ht, hdistinct⟩ := IsDistinctSet.of_reachable h
  exact ⟨k, xs, ht, fun i j hij => hdistinct.eq_ne hij⟩

/-- Integers are folded into an empty set, one of them twice, all of them are mapped
    to true, and false is inserted. -/
theorem reachable_elements_are_distinct_at_run :
    Reachable (Sequence.toTy ⟨.set, .bool, [.bool true, .bool false]⟩) ∧
    ∃ k xs, Sequence.toTy ⟨.set, .bool, [.bool true, .bool false]⟩ =
        Sequence.toTy ⟨.set, k, xs⟩ ∧
      ∀ i j : Fin xs.length, i ≠ j → k.eq (xs.get i) (xs.get j) ≠ some true := by
  have hrun : Reachable (Sequence.toTy ⟨.set, .bool, [.bool true, .bool false]⟩) := by
    refine ⟨.int, ?_⟩
    have hfolded : Builds (.set (.kind .int) .hNil)
        (Sequence.toTy ⟨.set, .int, [Ty.intLit 1, Ty.intLit 2]⟩) :=
      .folded (Sequence.toTy ⟨.list, .int, [Ty.intLit 1, Ty.intLit 2, Ty.intLit 1]⟩)
        (by decide +kernel)
    have hmapped : Builds (Sequence.toTy ⟨.set, .int, [Ty.intLit 1, Ty.intLit 2]⟩)
        (Sequence.toTy ⟨.set, .bool, [.bool true]⟩) :=
      .mapped (.kind .int) (Ty.ofElems [Ty.intLit 1, Ty.intLit 2]) .alwaysTrue (by decide +kernel)
    have hinsert : Builds (Sequence.toTy ⟨.set, .bool, [.bool true]⟩)
        (Sequence.toTy ⟨.set, .bool, [.bool true, .bool false]⟩) :=
      .insert (.bool false) (by decide +kernel)
    exact ((Relation.ReflTransGen.single hfolded).tail hmapped).tail hinsert
  exact ⟨hrun, reachable_elements_are_distinct hrun⟩

end KindSeq
