/-
  KindSeq.Proofs.Transformation

  Element-wise application in closed form. A function maps a list of elements if
  it applies to every one of them; what it yields is the value of each element, in
  order, and the first error among them (`mapElems_eq`). Lists and sets are mapped
  through their elements, so the same condition decides whether they can be mapped
  (`mapped_eq`, `mapError_eq`).

  Where equal elements are one type, a function cannot tell an element that
  deduplication drops from the one it keeps. So the values and the first error of
  the first occurrences are those of the whole list, and deduplication can come
  before or after the mapping.
-/

import KindSeq.Function
import KindSeq.Proofs.Deduplication

namespace KindSeq

namespace Mapping

/-- What a function yields on an element to which it applies. -/
def outcome (f : Mapping) (x : Ty) : Outcome := (f.apply x).getD ⟨.hNil, .clear⟩

/-- The function applies to every element. -/
def Applies (f : Mapping) (xs : List Ty) : Prop := ∀ x ∈ xs, (f.apply x).isSome = true

instance (f : Mapping) (xs : List Ty) : Decidable (f.Applies xs) :=
  inferInstanceAs (Decidable (∀ x ∈ xs, (f.apply x).isSome = true))

/-- The values of the elements, in order. -/
def values (f : Mapping) (xs : List Ty) : List Ty := xs.map fun x => (f.outcome x).value

/-- The error of the first element that has one. -/
def firstError (f : Mapping) (xs : List Ty) : Slot :=
  Slot.first (xs.map fun x => (f.outcome x).error)

@[simp] theorem values_cons (f : Mapping) (x : Ty) (xs : List Ty) :
    f.values (x :: xs) = (f.outcome x).value :: f.values xs := rfl

@[simp] theorem firstError_cons (f : Mapping) (x : Ty) (xs : List Ty) :
    f.firstError (x :: xs) = (f.outcome x).error.earliest (f.firstError xs) := rfl

theorem applies_cons {f : Mapping} {x : Ty} {xs : List Ty} :
    f.Applies (x :: xs) ↔ (f.apply x).isSome = true ∧ f.Applies xs :=
  List.forall_mem_cons

theorem apply_eq_outcome {f : Mapping} {x : Ty} (h : (f.apply x).isSome = true) :
    f.apply x = some (f.outcome x) := by
  obtain ⟨o, ho⟩ := Option.isSome_iff_exists.mp h
  rw [outcome, ho, Option.getD_some]

/-- A function maps elements if it applies to all of them, and yields their values
    and the first error. -/
theorem mapElems_eq (f : Mapping) (xs : List Ty) :
    f.mapElems xs = if f.Applies xs then some (f.values xs, f.firstError xs) else none := by
  induction xs with
  | nil =>
    have hnil : f.Applies [] := fun x hx => absurd hx List.not_mem_nil
    rw [if_pos hnil]
    rfl
  | cons x xs ih =>
    rw [mapElems, ih]
    by_cases hx : (f.apply x).isSome = true
    · rw [apply_eq_outcome hx]
      by_cases hxs : f.Applies xs
      · rw [if_pos hxs, if_pos (applies_cons.mpr ⟨hx, hxs⟩)]
        rfl
      · rw [if_neg hxs, if_neg fun h => hxs (applies_cons.mp h).2]
        rfl
    · rw [Option.not_isSome_iff_eq_none.mp hx, if_neg fun h => hx (applies_cons.mp h).1]
      rfl

/-- Values of a function are of its target kind. -/
theorem admits_of_mem_values {f : Mapping} {xs : List Ty} (h : f.Applies xs) {v : Ty}
    (hv : v ∈ f.values xs) : f.target.admits v = true := by
  obtain ⟨x, hx, rfl⟩ := List.mem_map.mp hv
  exact f.admits_value (apply_eq_outcome (h x hx))

end Mapping

/-- A mapped list holds the values, a mapped set the first occurrences of the
    values. -/
def Sequence.image (q : Sequence) (f : Mapping) : Sequence where
  form := q.form
  kind := f.target
  elems :=
    match q.form with
    | .list => f.values q.elems
    | .set => f.target.firsts [] (f.values q.elems)

theorem Sequence.image_set (k : Kind) (xs : List Ty) (f : Mapping) :
    image ⟨.set, k, xs⟩ f = ⟨.set, f.target, f.target.firsts [] (f.values xs)⟩ := rfl

namespace Ty

/-- The values of elements are a list of the target kind. -/
theorem sequence?_values {f : Mapping} {xs : List Ty} (h : f.Applies xs) :
    (Sequence.toTy ⟨.list, f.target, f.values xs⟩).sequence? =
      some ⟨.list, f.target, f.values xs⟩ := by
  rw [sequence?_eq_some_iff]
  exact ⟨rfl, fun v hv => Mapping.admits_of_mem_values h hv⟩

theorem transform_eq {s : Ty} {q : Sequence} (f : Mapping) (hs : s.shape? = some q) :
    s.transform f =
      if f.Applies q.elems then some ((q.image f).toTy, f.firstError q.elems) else none := by
  obtain ⟨form, k, xs⟩ := q
  rw [transform, hs, Option.bind_eq_bind, Option.bind_some, Mapping.mapElems_eq]
  by_cases h : f.Applies xs
  · rw [if_pos h, if_pos h, Option.bind_eq_bind, Option.bind_some]
    cases form with
    | list => rfl
    | set =>
      have hset : (Ty.list (.kind f.target) (ofElems (f.values xs))).toSet =
          some (Sequence.toTy ⟨.set, f.target, f.target.firsts [] (f.values xs)⟩) :=
        toSet_eq (sequence?_values h)
      dsimp only
      rw [hset]
      rfl
  · rw [if_neg h, if_neg h]
    rfl

theorem mapped_eq {s : Ty} {q : Sequence} (f : Mapping) (hs : s.shape? = some q) :
    s.mapped f = if f.Applies q.elems then some (q.image f).toTy else none := by
  rw [mapped, transform_eq f hs]
  split
  · rfl
  · rfl

theorem mapError_eq {s : Ty} {q : Sequence} (f : Mapping) (hs : s.shape? = some q) :
    s.mapError f = if f.Applies q.elems then some (f.firstError q.elems).toTy else none := by
  rw [mapError, transform_eq f hs]
  split
  · rfl
  · rfl

theorem mapped_eq_some_iff {s m : Ty} {q : Sequence} {f : Mapping} (hs : s.shape? = some q) :
    s.mapped f = some m ↔ f.Applies q.elems ∧ (q.image f).toTy = m := by
  rw [mapped_eq f hs]
  simp

end Ty

/-! ## Mapping the first occurrences -/

namespace Kind

theorem Discrete.mem_before {k : Kind} {x : Ty} {before xs : List Ty}
    (hd : k.Discrete (before ++ x :: xs)) (hocc : k.Occurs x before) : x ∈ before :=
  hd.mem_of_occurs (List.subset_append_left before _)
    (List.mem_append_right before List.mem_cons_self) hocc

theorem Discrete.shift {k : Kind} {x : Ty} {before xs : List Ty}
    (hd : k.Discrete (before ++ x :: xs)) : k.Discrete ((before ++ [x]) ++ xs) := by
  rwa [List.append_assoc]

theorem mem_firsts_iff {k : Kind} {xs : List Ty} (hxs : ∀ x ∈ xs, k.admits x = true)
    (hd : k.Discrete xs) {x : Ty} : x ∈ k.firsts [] xs ↔ x ∈ xs := by
  have hsub : xs ++ k.firsts [] xs ⊆ xs :=
    List.append_subset.mpr ⟨List.Subset.refl xs, (k.firsts_sublist [] xs).subset⟩
  exact ((k.sameMembers_firsts xs).mem_iff (hd.mono hsub) hxs (admits_of_mem_firsts hxs)).symm

end Kind

namespace Mapping

/-- The first error is that of a first occurrence: what is dropped came before. -/
theorem firstError_firsts {f : Mapping} {k : Kind} {before xs : List Ty}
    (hd : k.Discrete (before ++ xs)) (hclear : ∀ b ∈ before, (f.outcome b).error = .clear) :
    f.firstError (k.firsts before xs) = f.firstError xs := by
  -- As long as no error was met, all that came before is clear, and so is what is
  -- dropped; behind the first error nothing matters.
  induction xs generalizing before with
  | nil => rfl
  | cons x xs ih =>
    have hnext : (f.outcome x).error = .clear →
        f.firstError (k.firsts (before ++ [x]) xs) = f.firstError xs := by
      intro hx
      refine ih hd.shift ?_
      rw [List.forall_mem_append, List.forall_mem_singleton]
      exact ⟨hclear, hx⟩
    rw [Kind.firsts]
    by_cases hocc : k.Occurs x before
    · have hx := hclear x (hd.mem_before hocc)
      rw [if_pos hocc, firstError_cons, hnext hx, hx]
      rfl
    · rw [if_neg hocc, firstError_cons, firstError_cons]
      cases hx : (f.outcome x).error with
      | clear => rw [hnext hx]
      | failed e => rfl

/-- The first occurrences among the values are values of first occurrences. -/
theorem firsts_values_firsts {f : Mapping} {k : Kind} {before xs seen : List Ty}
    (hd : k.Discrete (before ++ xs)) (hxs : f.Applies xs)
    (hseen : ∀ b ∈ before, f.target.Occurs (f.outcome b).value seen) :
    f.target.firsts seen (f.values (k.firsts before xs)) =
      f.target.firsts seen (f.values xs) := by
  -- The right side meets more values than the left one, all of them seen before.
  induction xs generalizing before seen with
  | nil => rfl
  | cons x xs ih =>
    obtain ⟨hx, hxs'⟩ := applies_cons.mp hxs
    have hself : f.target.eq (f.outcome x).value (f.outcome x).value = some true :=
      Kind.eq_self (f.admits_value (apply_eq_outcome hx))
    have hnext : f.target.firsts (seen ++ [(f.outcome x).value])
          (f.values (k.firsts (before ++ [x]) xs)) =
        f.target.firsts (seen ++ [(f.outcome x).value]) (f.values xs) := by
      refine ih hd.shift hxs' ?_
      rw [List.forall_mem_append, List.forall_mem_singleton]
      refine ⟨fun b hb => ?_, ?_⟩
      · exact Kind.occurs_append.mpr (Or.inl (hseen b hb))
      · exact Kind.occurs_append.mpr (Or.inr (Kind.occurs_singleton.mpr hself))
    rw [values_cons, Kind.firsts, Kind.firsts]
    by_cases hocc : k.Occurs x before
    · -- `x` is dropped on the left, and its value on the right.
      have hval := hseen x (hd.mem_before hocc)
      rw [if_pos hocc, if_pos hval, Kind.firsts_congr hval.sameMembers_append, hnext]
    · rw [if_neg hocc, values_cons, Kind.firsts, hnext]

end Mapping

namespace Ty

/-- Taking the set of a list and mapping can change places. A function maps the set
    of a list exactly if it maps the list; then the mapped set is the set of the
    mapped list, and both report the same error. Elements of kind `type` are told
    apart by the names in them: the definitions that occur have to share their qualified
    names with nothing else there, and the hashes of the names have to be distinct. -/
theorem toSet_commutes_with_mapped {l : Ty} {k : Kind} {xs : List Ty} (f : Mapping)
    (hl : l.sequence? = some ⟨.list, k, xs⟩)
    (hsep : k = .type → Separated (ofElems xs) (ofElems xs)) :
    ∃ s, l.toSet = some s ∧
      ((∃ m, s.mapped f = some m) ↔ ∃ m, l.mapped f = some m) ∧
      ∀ m, l.mapped f = some m → ∃ out e, m.toSet = some out ∧ s.mapped f = some out ∧
        l.mapError f = some e ∧ s.mapError f = some e := by
  obtain ⟨rfl, hxs⟩ := sequence?_eq_some_iff.mp hl
  have hd : k.Discrete xs := Kind.discrete_of_separated hsep
  have hnone : ∀ P : Ty → Prop, ∀ x ∈ ([] : List Ty), P x :=
    fun P x hx => absurd hx List.not_mem_nil
  have happlies : f.Applies (k.firsts [] xs) ↔ f.Applies xs := by
    constructor
    · intro h x hx
      exact h x ((Kind.mem_firsts_iff hxs hd).mpr hx)
    · intro h x hx
      exact h x ((Kind.mem_firsts_iff hxs hd).mp hx)
  have hlist := shape?_toTy ⟨.list, k, xs⟩
  have hset := shape?_toTy ⟨.set, k, k.firsts [] xs⟩
  refine ⟨_, toSet_eq hl, ?_, ?_⟩
  · simp only [mapped_eq_some_iff hlist, mapped_eq_some_iff hset, happlies, exists_and_left,
      exists_eq']
  · intro m hm
    obtain ⟨h, rfl⟩ := (mapped_eq_some_iff hlist).mp hm
    have hvalues : f.target.firsts [] (f.values (k.firsts [] xs)) =
        f.target.firsts [] (f.values xs) := Mapping.firsts_values_firsts hd h (hnone _)
    have herror : f.firstError (k.firsts [] xs) = f.firstError xs :=
      Mapping.firstError_firsts hd (hnone _)
    refine ⟨_, (f.firstError xs).toTy, toSet_eq (sequence?_values h), ?_, ?_, ?_⟩
    · rw [mapped_eq f hset, if_pos (happlies.mpr h), Sequence.image_set, hvalues]
    · rw [mapError_eq f hlist, if_pos h]
    · rw [mapError_eq f hset, if_pos (happlies.mpr h), herror]

/-- Of four types, one given twice, only the boolean type passes the test: the set
    of the list maps to both booleans, and reports the first type that fails. -/
theorem toSet_commutes_with_mapped_at_types :
    ∃ s, (Sequence.toTy ⟨.list, .type, [.prim .bool, apply Decl.option [.prim .u8], .prim .bool,
        apply Decl.vec [.prim .u8]]⟩).toSet = some s ∧
      s.mapped Mapping.isBoolType = some (Sequence.toTy ⟨.set, .bool, [.bool true, .bool false]⟩) ∧
      s.mapError Mapping.isBoolType =
        some (.fail (apply Decl.notABool [apply Decl.option [.prim .u8]])) := by
  have hsep : Separated
      (ofElems [.prim .bool, apply Decl.option [.prim .u8], .prim .bool,
        apply Decl.vec [.prim .u8]])
      (ofElems [.prim .bool, apply Decl.option [.prim .u8], .prim .bool,
        apply Decl.vec [.prim .u8]]) :=
    separated_of_vocabulary (by decide +kernel) (by decide +kernel)
  obtain ⟨s, hs, -, hmapped⟩ := toSet_commutes_with_mapped Mapping.isBoolType
    (l := Sequence.toTy ⟨.list, .type, [.prim .bool, apply Decl.option [.prim .u8], .prim .bool,
      apply Decl.vec [.prim .u8]]⟩) (k := .type) (by decide +kernel) fun _ => hsep
  obtain ⟨out, e, hout, hsout, he, hse⟩ := hmapped
    (Sequence.toTy ⟨.list, .bool, [.bool true, .bool false, .bool true, .bool false]⟩)
    (by decide +kernel)
  refine ⟨s, hs, ?_, ?_⟩
  · rw [hsout, ← hout]
    decide +kernel
  · rw [hse, ← he]
    decide +kernel

end Ty

/-- A function for one of two definitions of a name alone. -/
def Mapping.onlyUnit : Mapping :=
  .ofTest fun x => if x = .simple .unit then some true else none

namespace Ty

/-- A set keeps only the first of two definitions of one name. So a function for this one
    alone maps the set of a list of both, but not the list. -/
theorem toSet_drops_definitions_of_one_name :
    DistinctHashes ((ofElems [simple .unit, simple .blockUnit]).identityNames ++
      (ofElems [simple .unit, simple .blockUnit]).identityNames) ∧
    (Sequence.toTy ⟨.list, .type, [simple .unit, simple .blockUnit]⟩).toSet =
      some (Sequence.toTy ⟨.set, .type, [simple .unit]⟩) ∧
    (Sequence.toTy ⟨.set, .type, [simple .unit]⟩).mapped .onlyUnit =
      some (Sequence.toTy ⟨.set, .bool, [.bool true]⟩) ∧
    (Sequence.toTy ⟨.list, .type, [simple .unit, simple .blockUnit]⟩).mapped .onlyUnit =
      none := by
  decide +kernel

end Ty

end KindSeq
