/-
  KindSeq.Proofs.EarliestError

  Mapping a list keeps every value and reports the earliest error. Which error that
  is can be said in three ways that agree: the slot that the recursion over the
  elements carries back, the first failure of the list of all slots
  (`firstError_ofSlots`), and the slot of smallest index that holds a failure
  (`Slot.first_eq_failed_iff`).

  Elements can be cut anywhere, and the earlier part has precedence
  (`mapElems_append`). So mapping goes through concatenation: the values of the two
  parts stand behind each other, and the error is the earliest of both
  (`mapped_concat`, `mapError_concat`). Neither part has to hold an element list; if one
  does not, nothing exists on either side.
-/

import KindSeq.Program.Op
import KindSeq.Proofs.KindSoundness

namespace KindSeq

/-! ## The first failure of a list of slots -/

namespace Slot

theorem earliest_assoc (s t u : Slot) :
    (s.earliest t).earliest u = s.earliest (t.earliest u) := by
  cases s with
  | clear => rfl
  | failed e => rfl

theorem first_eq_clear_iff {ss : List Slot} : first ss = .clear ↔ ∀ s ∈ ss, s = .clear := by
  induction ss with
  | nil => simp [first]
  | cons s ss ih =>
    rw [first, List.forall_mem_cons, ← ih]
    cases s with
    | clear => simp [earliest]
    | failed e => simp [earliest]

/-- The first failure stands at the smallest index that holds one. -/
theorem first_eq_failed_iff {ss : List Slot} {p : Ty} :
    first ss = .failed p ↔
      ∃ i : Nat, ss[i]? = some (.failed p) ∧ ∀ j < i, ss[j]? = some .clear := by
  induction ss with
  | nil => simp [first]
  | cons s ss ih =>
    rw [first]
    cases s with
    | failed e =>
      -- A failure in front is found at once, and nothing behind it can be.
      constructor
      · intro h
        exact ⟨0, congrArg some h, fun j hj => absurd hj (Nat.not_lt_zero j)⟩
      · rintro ⟨i, hi, hbefore⟩
        cases i with
        | zero => exact Option.some.inj hi
        | succ i => exact absurd (hbefore 0 (Nat.zero_lt_succ i)) (by simp)
    | clear =>
      rw [earliest, ih]
      constructor
      · rintro ⟨i, hi, hbefore⟩
        refine ⟨i + 1, hi, fun j hj => ?_⟩
        cases j with
        | zero => rfl
        | succ j => exact hbefore j (Nat.lt_of_succ_lt_succ hj)
      · rintro ⟨i, hi, hbefore⟩
        cases i with
        | zero => exact absurd hi (by simp)
        | succ i => exact ⟨i, hi, fun j hj => hbefore (j + 1) (Nat.succ_lt_succ hj)⟩

theorem toTy_eq_noError_iff {s : Slot} : s.toTy = .noError ↔ s = .clear := by
  cases s with
  | clear => simp [toTy]
  | failed e => simp [toTy]

theorem toTy_eq_fail_iff {s : Slot} {p : Ty} : s.toTy = .fail p ↔ s = .failed p := by
  cases s with
  | clear => simp [toTy]
  | failed e => simp [toTy]

end Slot

namespace Ty

theorem mapM_slot?_toTy (ss : List Slot) : (ss.map Slot.toTy).mapM slot? = some ss := by
  induction ss with
  | nil => rfl
  | cons s ss ih =>
    rw [List.map_cons, List.mapM_cons, slot?_toTy, ih]
    rfl

/-- The reduction of a spelled list of slots finds its first failure. -/
theorem firstError_ofSlots (ss : List Slot) :
    (ofElems (ss.map Slot.toTy)).firstError = some (Slot.first ss).toTy := by
  rw [firstError, elems?_ofElems, Option.bind_eq_bind, Option.bind_some, mapM_slot?_toTy]
  rfl

end Ty

/-! ## Outcomes of elements -/

namespace Mapping

theorem applies_iff_exists {f : Mapping} {xs : List Ty} :
    f.Applies xs ↔ ∀ x ∈ xs, ∃ o, f.apply x = some o := by
  simp only [Applies, Option.isSome_iff_exists]

/-- Outcomes that are given for every element are those of the elements. -/
theorem eq_outcomes {f : Mapping} {xs : List Ty} {os : List Outcome}
    (h : xs.map f.apply = os.map some) : f.Applies xs ∧ os = xs.map f.outcome := by
  constructor
  · intro x hx
    have hmem : f.apply x ∈ os.map some := by
      rw [← h]
      exact List.mem_map_of_mem hx
    obtain ⟨o, -, ho⟩ := List.mem_map.mp hmem
    rw [← ho, Option.isSome_some]
  · have houtcomes := congrArg (List.map (·.getD ⟨.hNil, .clear⟩)) h
    rw [List.map_map, List.map_map] at houtcomes
    have hself : os.map ((·.getD ⟨.hNil, .clear⟩) ∘ some) = os := List.map_id os
    rw [← hself, ← houtcomes]
    rfl

/-- The values of a list in two parts are those of the parts, and the first part that
    has an error reports it. -/
theorem mapElems_append (f : Mapping) (xs ys : List Ty) :
    f.mapElems (xs ++ ys) = (f.mapElems xs).bind fun r => (f.mapElems ys).map fun t =>
      (r.1 ++ t.1, r.2.earliest t.2) := by
  induction xs with
  | nil =>
    rw [List.nil_append, mapElems, Option.bind_some]
    exact (Option.map_id' (x := f.mapElems ys)).symm
  | cons x xs ih =>
    -- Where the function does not apply, nothing is left on either side.
    rw [List.cons_append, mapElems, mapElems, ih]
    cases f.apply x with
    | none => rfl
    | some o =>
      cases f.mapElems xs with
      | none => rfl
      | some r =>
        cases f.mapElems ys with
        | none => rfl
        | some t => simp [Slot.earliest_assoc]

end Mapping

/-! ## Concatenation of lists that are mapped -/

namespace Ty

/-- Only an element list can stand in front, and its end is replaced. -/
theorem hconcat_eq (e rest : Ty) : e.hconcat rest = e.elems?.map (·.foldr hCons rest) := by
  induction e with
  | hNil => rfl
  | hCons x e _ ih =>
    rw [hconcat, ih, elems?, Option.map_map, Option.map_map]
    rfl
  | _ => rfl

theorem elems?_foldr_hCons (xs : List Ty) (rest : Ty) :
    (xs.foldr hCons rest).elems? = rest.elems?.map (xs ++ ·) := by
  induction xs with
  | nil => exact (Option.map_id' (x := rest.elems?)).symm
  | cons x xs ih =>
    rw [List.foldr_cons, elems?, ih, Option.map_map]
    rfl

/-- A list is transformed element by element, and only if it holds an element list. -/
theorem transform_list (f : Mapping) (k : Kind) (e : Ty) :
    (list (.kind k) e).transform f = e.elems?.bind fun xs => (f.mapElems xs).map fun r =>
      (.list (.kind f.target) (ofElems r.1), r.2) := by
  rw [transform, shape?]
  cases e.elems? with
  | none => rfl
  | some xs =>
    cases hr : f.mapElems xs with
    | none => simp [hr]
    | some r => simp [hr]

/-- A concatenation is transformed part by part: the values are concatenated, and the
    first part that has an error reports it. -/
theorem transform_concat (f : Mapping) (k : Kind) (e e' : Ty) :
    ((list (.kind k) e).concat (.list (.kind k) e')).bind (·.transform f) =
      ((list (.kind k) e).transform f).bind fun r =>
        ((list (.kind k) e').transform f).bind fun t =>
          (r.1.concat t.1).map fun c => (c, r.2.earliest t.2) := by
  rw [concat, if_pos rfl, hconcat_eq, transform_list, transform_list]
  -- The left side asks for both element lists before it maps, the right side maps the
  -- first before it asks for the second; what is missing is missing on both.
  cases e.elems? with
  | none => rfl
  | some xs =>
    rw [Option.map_some, Option.map_some, Option.bind_some, Option.bind_some, transform_list,
      elems?_foldr_hCons]
    cases e'.elems? with
    | none => cases f.mapElems xs <;> rfl
    | some ys =>
      rw [Option.map_some, Option.bind_some, Option.bind_some, Mapping.mapElems_append]
      cases f.mapElems xs with
      | none => rfl
      | some r =>
        cases f.mapElems ys with
        | none => rfl
        | some t => simp [concat, hconcat_ofElems]

/-- Transformed lists can be concatenated. -/
theorem exists_concat_of_transform {f : Mapping} {k l : Kind} {e e' : Ty} {r t : Ty × Slot}
    (hr : (list (.kind k) e).transform f = some r) (ht : (list (.kind l) e').transform f = some t) :
    ∃ c, r.1.concat t.1 = some c := by
  rw [transform_list] at hr ht
  obtain ⟨xs, -, hxs⟩ := Option.bind_eq_some_iff.mp hr
  obtain ⟨ys, -, hys⟩ := Option.bind_eq_some_iff.mp ht
  obtain ⟨u, -, rfl⟩ := Option.map_eq_some_iff.mp hxs
  obtain ⟨v, -, rfl⟩ := Option.map_eq_some_iff.mp hys
  exact ⟨_, by rw [concat, if_pos rfl, hconcat_ofElems, Option.map_some]⟩

/-- The values of a concatenation are those of its parts, one behind the other. -/
theorem mapped_concat (f : Mapping) (k : Kind) (e e' : Ty) :
    ((list (.kind k) e).concat (.list (.kind k) e')).bind (·.mapped f) =
      ((list (.kind k) e).mapped f).bind fun m =>
        ((list (.kind k) e').mapped f).bind fun n => m.concat n := by
  have htransform := congrArg (Option.map (·.1)) (transform_concat f k e e')
  simpa [mapped, Option.map_bind, Option.bind_map, Function.comp_def] using htransform

/-- The error of a concatenation is the earliest of its parts. -/
theorem mapError_concat (f : Mapping) (k : Kind) (e e' : Ty) :
    ((list (.kind k) e).concat (.list (.kind k) e')).bind (·.mapError f) =
      ((list (.kind k) e).mapError f).bind fun x =>
        ((list (.kind k) e').mapError f).bind fun y => Op.earliest.eval [x, y] := by
  have hleft : ((list (.kind k) e).concat (.list (.kind k) e')).bind (·.mapError f) =
      (((list (.kind k) e).concat (.list (.kind k) e')).bind (·.transform f)).map (·.2.toTy) := by
    rw [Option.map_bind]
    rfl
  rw [hleft, transform_concat, mapError, mapError]
  cases hr : (list (.kind k) e).transform f with
  | none => rfl
  | some r =>
    cases ht : (list (.kind k) e').transform f with
    | none => rfl
    | some t =>
      -- The concatenated values exist, and are dropped again.
      obtain ⟨c, hc⟩ := exists_concat_of_transform hr ht
      have hearliest : Op.earliest.eval [r.2.toTy, t.2.toTy] = some (r.2.earliest t.2).toTy := by
        show (r.2.toTy.slot?.bind fun x => t.2.toTy.slot?.bind fun y =>
          some (x.earliest y).toTy) = some (r.2.earliest t.2).toTy
        rw [slot?_toTy, slot?_toTy]
        rfl
      simp [hc, hearliest]

/-! ## What a list is transformed to -/

theorem exists_mapped_iff {s : Ty} {q : Sequence} {f : Mapping} (hs : s.shape? = some q) :
    (∃ m, s.mapped f = some m) ↔ f.Applies q.elems := by
  rw [mapped_eq f hs]
  simp

theorem exists_mapError_iff {s : Ty} {q : Sequence} {f : Mapping} (hs : s.shape? = some q) :
    (∃ e, s.mapError f = some e) ↔ f.Applies q.elems := by
  rw [mapError_eq f hs]
  simp

section Outcomes

variable {l : Ty} {k : Kind} {xs : List Ty} {f : Mapping} {os : List Outcome}
  (hl : l.shape? = some ⟨.list, k, xs⟩) (hos : xs.map f.apply = os.map some)

include hl hos

theorem mapped_of_outcomes :
    l.mapped f = some (Sequence.toTy ⟨.list, f.target, os.map Outcome.value⟩) := by
  obtain ⟨happlies, rfl⟩ := Mapping.eq_outcomes hos
  rw [mapped_eq f hl, if_pos happlies, List.map_map]
  rfl

theorem mapError_of_outcomes :
    l.mapError f = some (Slot.first (os.map Outcome.error)).toTy := by
  obtain ⟨happlies, rfl⟩ := Mapping.eq_outcomes hos
  rw [mapError_eq f hl, if_pos happlies, List.map_map]
  rfl

end Outcomes

/-- A function maps a list, whatever the elements are, exactly if it applies to every
    one of them; a term does so exactly if it stands for such a function. The mapped
    list holds the value of each element in order. The error is the first failure of
    the list of all error slots: none if no element fails, and otherwise that of the
    failing element of smallest index. Mapping a concatenation is concatenating what
    the parts map to, and its error is the earliest of theirs; each side exists if the
    other does, even for lists that are not made of elements. -/
theorem transform_keeps_values_and_earliest_error {l : Ty} {k : Kind} {xs : List Ty} (f : Mapping)
    (hl : l.shape? = some ⟨.list, k, xs⟩) :
    ((∃ m, l.mapped f = some m) ↔ ∀ x ∈ xs, ∃ o, f.apply x = some o) ∧
    ((∃ e, l.mapError f = some e) ↔ ∀ x ∈ xs, ∃ o, f.apply x = some o) ∧
    (∀ os : List Outcome, xs.map f.apply = os.map some →
      l.mapped f = some (Sequence.toTy ⟨.list, f.target, os.map Outcome.value⟩) ∧
      l.mapError f = (ofElems (os.map fun o => o.error.toTy)).firstError ∧
      (l.mapError f = some .noError ↔ ∀ o ∈ os, o.error = .clear) ∧
      ∀ p, l.mapError f = some (.fail p) ↔
        ∃ i : Nat, (os.map Outcome.error)[i]? = some (.failed p) ∧
          ∀ j < i, (os.map Outcome.error)[j]? = some .clear) ∧
    (∀ e e' : Ty,
      ((list (.kind k) e).concat (.list (.kind k) e')).bind (·.mapped f) =
        (((list (.kind k) e).mapped f).bind fun m =>
          ((list (.kind k) e').mapped f).bind fun n => m.concat n) ∧
      ((list (.kind k) e).concat (.list (.kind k) e')).bind (·.mapError f) =
        ((list (.kind k) e).mapError f).bind fun x =>
          ((list (.kind k) e').mapError f).bind fun y => Op.earliest.eval [x, y]) ∧
    ∀ t : Ty,
      ((∃ m, Op.mapped.eval [l, t] = some m) ↔
        ∃ g, t.mapping? = some g ∧ ∀ x ∈ xs, ∃ o, g.apply x = some o) ∧
      ((∃ e, Op.mapError.eval [l, t] = some e) ↔
        ∃ g, t.mapping? = some g ∧ ∀ x ∈ xs, ∃ o, g.apply x = some o) := by
  simp only [← Mapping.applies_iff_exists]
  refine ⟨exists_mapped_iff hl, exists_mapError_iff hl, ?_, ?_, ?_⟩
  · intro os hos
    have herror := mapError_of_outcomes hl hos
    have hslots : (os.map fun o => o.error.toTy) = (os.map Outcome.error).map Slot.toTy := by
      rw [List.map_map]
      rfl
    refine ⟨mapped_of_outcomes hl hos, ?_, ?_, ?_⟩
    · rw [hslots, firstError_ofSlots, herror]
    · rw [herror, Option.some.injEq, Slot.toTy_eq_noError_iff, Slot.first_eq_clear_iff,
        List.forall_mem_map]
    · intro p
      rw [herror, Option.some.injEq, Slot.toTy_eq_fail_iff, Slot.first_eq_failed_iff]
  · intro e e'
    exact ⟨mapped_concat f k e e', mapError_concat f k e e'⟩
  · intro t
    have hbind : ∀ h : Mapping → Option Ty,
        (∃ r, t.mapping?.bind h = some r) ↔ ∃ g, t.mapping? = some g ∧ ∃ r, h g = some r := by
      intro h
      simp only [Option.bind_eq_some_iff, ← exists_and_left]
      exact exists_comm
    constructor
    · show (∃ m, (t.mapping?.bind fun g => l.mapped g) = some m) ↔ _
      simp only [hbind, exists_mapped_iff hl]
    · show (∃ e, (t.mapping?.bind fun g => l.mapError g) = some e) ↔ _
      simp only [hbind, exists_mapError_iff hl]

/-- A list that is tagged for booleans but holds one-digit integers, the second and the
    third of them negative, keeps all three and reports the second. -/
theorem transform_keeps_values_and_earliest_error_at_digits :
    (Sequence.toTy ⟨.list, .bool, [ofIntDigits [1], ofIntDigits [9], ofIntDigits [15]]⟩).mapped
        .checkNonNegative =
      some (Sequence.toTy ⟨.list, .int, [ofIntDigits [1], ofIntDigits [9], ofIntDigits [15]]⟩) ∧
    (Sequence.toTy ⟨.list, .bool, [ofIntDigits [1], ofIntDigits [9], ofIntDigits [15]]⟩).mapError
        .checkNonNegative =
      some (.fail (apply Decl.negative [ofIntDigits [9]])) := by
  obtain ⟨-, -, houtcomes, -⟩ := transform_keeps_values_and_earliest_error .checkNonNegative
    (shape?_toTy ⟨.list, .bool, [ofIntDigits [1], ofIntDigits [9], ofIntDigits [15]]⟩)
  obtain ⟨hmapped, -, -, herror⟩ := houtcomes
    [⟨ofIntDigits [1], .clear⟩,
      ⟨ofIntDigits [9], .failed (apply Decl.negative [ofIntDigits [9]])⟩,
      ⟨ofIntDigits [15], .failed (apply Decl.negative [ofIntDigits [15]])⟩] rfl
  refine ⟨hmapped, (herror _).mpr ⟨1, rfl, fun j hj => ?_⟩⟩
  obtain rfl : j = 0 := Nat.lt_one_iff.mp hj
  rfl

end Ty

end KindSeq
