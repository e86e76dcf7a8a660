/-
  KindSeq.Proofs.SetMapping

  Mapping is well defined on sets: sequences that are equal as sets are mapped by the
  same functions, to sequences that are equal as sets. Where the names in types are
  told apart, equal elements are one type (`discrete_append_of_separated`), so both
  sequences hold the same types, and all that is asked of a mapped sequence depends on
  these alone: whether it exists (`applies_congr`), its members (`sameMembers_values`),
  and whether there was a failure (`isError_firstError_congr`). Which failure is
  reported is not among them; that one depends on the order.
-/

import KindSeq.Proofs.EarliestError

namespace KindSeq

/-! ## What depends on the elements alone -/

theorem Slot.isError_eq_false_iff {s : Slot} : s.isError = false ↔ s = .clear := by
  cases s with
  | clear => simp [isError]
  | failed e => simp [isError]

namespace Mapping

variable {f : Mapping} {xs ys : List Ty}

theorem firstError_eq_clear_iff :
    f.firstError xs = .clear ↔ ∀ x ∈ xs, (f.outcome x).error = .clear := by
  rw [firstError, Slot.first_eq_clear_iff, List.forall_mem_map]

section SameElements

variable (h : ∀ z, z ∈ xs ↔ z ∈ ys)

include h

theorem applies_congr : f.Applies xs ↔ f.Applies ys := by
  simp only [Applies, h]

theorem sameMembers_values : f.target.SameMembers (f.values xs) (f.values ys) := by
  intro z
  simp only [Kind.Occurs, values, List.mem_map, h]

theorem isError_firstError_congr : (f.firstError xs).isError = (f.firstError ys).isError := by
  rw [← Bool.not_inj_iff, Bool.eq_iff_iff]
  simp only [Bool.not_eq_true', Slot.isError_eq_false_iff, firstError_eq_clear_iff, h]

end SameElements

end Mapping

/-- A mapped sequence, list or set, has the values of the elements as its members. -/
theorem Sequence.sameMembers_image (q : Sequence) (f : Mapping) :
    f.target.SameMembers (q.image f).elems (f.values q.elems) := by
  obtain ⟨form, k, xs⟩ := q
  cases form with
  | list => exact fun z => Iff.rfl
  | set => exact (f.target.sameMembers_firsts (f.values xs)).symm

namespace Ty

/-- Of two sequences that are equal as sets, a function maps both or neither. What they
    are mapped to is equal as sets, and there is an error in both or in neither. The
    one can be a list and the other a set, in any order and with any repetitions.
    Elements of kind `type` are told apart by the names in them: the definitions that
    occur have to share their qualified names with nothing else there, and the hashes of
    the names have to be distinct. Nothing is asked of the values. -/
theorem mapping_is_well_defined_on_sets {a b : Ty} {p q : Sequence} (f : Mapping)
    (ha : a.sequence? = some p) (hb : b.sequence? = some q) (h : a.setEq b = some true)
    (hsep : p.kind = .type → Separated (ofElems p.elems) (ofElems q.elems)) :
    ((∃ m, a.mapped f = some m) ↔ ∃ n, b.mapped f = some n) ∧
    ∀ m n, a.mapped f = some m → b.mapped f = some n →
      m.setEq n = some true ∧
      ∃ x y r, a.mapError f = some x ∧ b.mapError f = some y ∧
        x.slot?.map Slot.isError = some r ∧ y.slot?.map Slot.isError = some r := by
  obtain ⟨hk, hsame⟩ := (setEq_eq_true_iff ha hb).mp h
  obtain ⟨rfl, hps⟩ := sequence?_eq_some_iff.mp ha
  obtain ⟨rfl, hqs⟩ := sequence?_eq_some_iff.mp hb
  have hmem : ∀ z, z ∈ p.elems ↔ z ∈ q.elems :=
    fun z => hsame.mem_iff (Kind.discrete_append_of_separated hsep) hps (by rwa [hk])
  have hp := shape?_toTy p
  have hq := shape?_toTy q
  constructor
  · rw [exists_mapped_iff hp, exists_mapped_iff hq]
    exact Mapping.applies_congr hmem
  · intro m n hm hn
    obtain ⟨happlies, rfl⟩ := (mapped_eq_some_iff hp).mp hm
    obtain ⟨happlies', rfl⟩ := (mapped_eq_some_iff hq).mp hn
    constructor
    · have hvalues : f.target.SameMembers (p.image f).elems (q.image f).elems :=
        ((p.sameMembers_image f).trans (Mapping.sameMembers_values hmem)).trans
          (q.sameMembers_image f).symm
      exact (setEq_eq_true_iff (Sequence.sequence?_image happlies)
        (Sequence.sequence?_image happlies')).mpr ⟨rfl, hvalues⟩
    · refine ⟨(f.firstError p.elems).toTy, (f.firstError q.elems).toTy,
        (f.firstError q.elems).isError, ?_, ?_, ?_, ?_⟩
      · rw [mapError_eq f hp, if_pos happlies]
      · rw [mapError_eq f hq, if_pos happlies']
      · rw [slot?_toTy, Option.map_some, Mapping.isError_firstError_congr hmem]
      · rw [slot?_toTy, Option.map_some]

/-- A list of three types, one given twice, and a set of them in another order: both are
    mapped to flags that are equal as sets, and both report an error, though not of the
    same type. -/
theorem mapping_is_well_defined_on_sets_at_types :
    ∃ m n, (Sequence.toTy ⟨.list, .type, [.prim .u8, .prim .bool, .prim .i8, .prim .bool]⟩).mapped
        .isBoolType = some m ∧
      (Sequence.toTy ⟨.set, .type, [.prim .i8, .prim .u8, .prim .bool]⟩).mapped
        .isBoolType = some n ∧
      m.setEq n = some true ∧
      (Sequence.toTy ⟨.list, .type, [.prim .u8, .prim .bool, .prim .i8, .prim .bool]⟩).mapError
        .isBoolType = some (.fail (apply Decl.notABool [.prim .u8])) ∧
      (Sequence.toTy ⟨.set, .type, [.prim .i8, .prim .u8, .prim .bool]⟩).mapError
        .isBoolType = some (.fail (apply Decl.notABool [.prim .i8])) := by
  have hsep : Separated (ofElems [.prim .u8, .prim .bool, .prim .i8, .prim .bool])
      (ofElems [.prim .i8, .prim .u8, .prim .bool]) :=
    separated_of_vocabulary (by decide +kernel) (by decide +kernel)
  obtain ⟨hexists, hequal⟩ := mapping_is_well_defined_on_sets .isBoolType
    (a := Sequence.toTy ⟨.list, .type, [.prim .u8, .prim .bool, .prim .i8, .prim .bool]⟩)
    (b := Sequence.toTy ⟨.set, .type, [.prim .i8, .prim .u8, .prim .bool]⟩)
    (p := ⟨.list, .type, [.prim .u8, .prim .bool, .prim .i8, .prim .bool]⟩)
    (q := ⟨.set, .type, [.prim .i8, .prim .u8, .prim .bool]⟩)
    (by decide +kernel) (by decide +kernel) (by decide +kernel) fun _ => hsep
  have hlist : (Sequence.toTy ⟨.list, .type, [.prim .u8, .prim .bool, .prim .i8,
      .prim .bool]⟩).mapped .isBoolType =
        some (Sequence.toTy ⟨.list, .bool,
          [.bool false, .bool true, .bool false, .bool true]⟩) := by
    decide +kernel
  obtain ⟨n, hn⟩ := hexists.mp ⟨_, hlist⟩
  obtain ⟨hsets, -⟩ := hequal _ n hlist hn
  exact ⟨_, n, hlist, hn, hsets, by decide +kernel, by decide +kernel⟩

/-- Lists of two definitions of one name are equal as sets, but a function for the one
    definition alone maps only the list of this one. -/
theorem mapping_separates_definitions_of_one_name :
    DistinctHashes ((ofElems [simple .unit]).identityNames ++
      (ofElems [simple .blockUnit]).identityNames) ∧
    (Sequence.toTy ⟨.list, .type, [simple .unit]⟩).setEq
      (Sequence.toTy ⟨.list, .type, [simple .blockUnit]⟩) = some true ∧
    (Sequence.toTy ⟨.list, .type, [simple .unit]⟩).mapped .onlyUnit =
      some (Sequence.toTy ⟨.list, .bool, [.bool true]⟩) ∧
    (Sequence.toTy ⟨.list, .type, [simple .blockUnit]⟩).mapped .onlyUnit = none := by
  decide +kernel

end Ty

end KindSeq
