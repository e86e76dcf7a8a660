/-
  KindSeq.Proofs.Membership

  Membership in a sequence, read through its three stages. Comparing every
  element with the candidate gives a list of booleans (`mapElems_ofTest`), such
  a list is tested by comparing it with a constant list of its length
  (`all_ofBools`, `any_ofBools`), and the two together say that a value is in a
  sequence exactly if it occurs among the elements up to the equality of their
  kind (`isIn_eq_occurs`). A sized type of another kind can only be looked for in an
  empty sequence (`isIn_eq`).

  Lists are compared through what occurs in them (`SameMembers`). Where equal
  elements are one type (`Discrete`), that is the same as holding the same types.
-/

import KindSeq.Proofs.KindEquality
import KindSeq.Sequence.Set

namespace KindSeq

namespace Kind

/-- An element equals `x` under the kind. -/
def Occurs (k : Kind) (x : Ty) (ys : List Ty) : Prop := ∃ y ∈ ys, k.eq y x = some true

instance (k : Kind) (x : Ty) (ys : List Ty) : Decidable (k.Occurs x ys) :=
  inferInstanceAs (Decidable (∃ y ∈ ys, k.eq y x = some true))

@[simp] theorem occurs_singleton {k : Kind} {x y : Ty} :
    k.Occurs x [y] ↔ k.eq y x = some true := by
  simp [Occurs]

@[simp] theorem occurs_cons {k : Kind} {x y : Ty} {ys : List Ty} :
    k.Occurs x (y :: ys) ↔ k.eq y x = some true ∨ k.Occurs x ys := by
  simp [Occurs]

@[simp] theorem occurs_append {k : Kind} {x : Ty} {ys zs : List Ty} :
    k.Occurs x (ys ++ zs) ↔ k.Occurs x ys ∨ k.Occurs x zs := by
  simp [Occurs, or_and_right, exists_or]

theorem occurs_of_mem {k : Kind} {x : Ty} {xs : List Ty} (hxs : ∀ x ∈ xs, k.admits x = true)
    (hx : x ∈ xs) : k.Occurs x xs := ⟨x, hx, eq_self (hxs x hx)⟩

/-- Nothing but values of the kind occurs. -/
theorem Occurs.admits {k : Kind} {x : Ty} {ys : List Ty} (h : k.Occurs x ys) :
    k.admits x = true := by
  obtain ⟨y, -, hyx⟩ := h
  exact (admits_of_eq hyx).2

/-- What occurs in the one list occurs in the other. -/
def SameMembers (k : Kind) (xs ys : List Ty) : Prop := ∀ z, k.Occurs z xs ↔ k.Occurs z ys

theorem SameMembers.symm {k : Kind} {xs ys : List Ty} (h : k.SameMembers xs ys) :
    k.SameMembers ys xs := fun z => (h z).symm

theorem SameMembers.trans {k : Kind} {xs ys zs : List Ty} (h : k.SameMembers xs ys)
    (h' : k.SameMembers ys zs) : k.SameMembers xs zs := fun z => (h z).trans (h' z)

/-! ## Elements that are told apart -/

/-- Elements that are equal under the kind are one type. -/
def Discrete (k : Kind) (xs : List Ty) : Prop :=
  ∀ x ∈ xs, ∀ y ∈ xs, k.eq x y = some true → x = y

theorem Discrete.mono {k : Kind} {xs ys : List Ty} (hd : k.Discrete ys) (hsub : xs ⊆ ys) :
    k.Discrete xs := fun x hx y hy => hd x (hsub hx) y (hsub hy)

/-- Booleans and integers of two lists are told apart, and types if the names in them
    are. -/
theorem discrete_append_of_separated {k : Kind} {xs ys : List Ty}
    (hsep : k = .type → Ty.Separated (Ty.ofElems xs) (Ty.ofElems ys)) : k.Discrete (xs ++ ys) := by
  have hheads : ∀ z ∈ xs ++ ys, z.heads ⊆ (Ty.ofElems xs).heads ++ (Ty.ofElems ys).heads := by
    intro z hz
    rcases List.mem_append.mp hz with hx | hy
    · exact List.subset_append_of_subset_left _ (Ty.heads_subset_ofElems hx)
    · exact List.subset_append_of_subset_right _ (Ty.heads_subset_ofElems hy)
  intro x hx y hy hxy
  exact eq_of_eq_true (fun hk => (hsep hk).of_subset (hheads x hx) (hheads y hy)) hxy

theorem discrete_of_separated {k : Kind} {xs : List Ty}
    (hsep : k = .type → Ty.Separated (Ty.ofElems xs) (Ty.ofElems xs)) : k.Discrete xs :=
  (discrete_append_of_separated hsep).mono (List.subset_append_left xs xs)

theorem Discrete.mem_of_occurs {k : Kind} {x : Ty} {ys zs : List Ty} (hd : k.Discrete zs)
    (hsub : ys ⊆ zs) (hx : x ∈ zs) (hocc : k.Occurs x ys) : x ∈ ys := by
  obtain ⟨y, hy, hyx⟩ := hocc
  have hsame : y = x := hd y (hsub hy) x hx hyx
  rwa [← hsame]

theorem SameMembers.subset {k : Kind} {xs ys : List Ty} (hd : k.Discrete (xs ++ ys))
    (hxs : ∀ x ∈ xs, k.admits x = true) (h : k.SameMembers xs ys) : xs ⊆ ys := by
  intro x hx
  have hocc : k.Occurs x ys := (h x).mp (occurs_of_mem hxs hx)
  exact hd.mem_of_occurs (List.subset_append_right xs ys) (List.mem_append_left ys hx) hocc

/-- Members that are told apart are the same types. -/
theorem SameMembers.mem_iff {k : Kind} {xs ys : List Ty} (hd : k.Discrete (xs ++ ys))
    (hxs : ∀ x ∈ xs, k.admits x = true) (hys : ∀ y ∈ ys, k.admits y = true)
    (h : k.SameMembers xs ys) {z : Ty} : z ∈ xs ↔ z ∈ ys := by
  have hd' : k.Discrete (ys ++ xs) := hd.mono List.perm_append_comm.subset
  constructor
  · intro hz
    exact h.subset hd hxs hz
  · intro hz
    exact h.symm.subset hd' hys hz

end Kind

/-! ## Lists of booleans -/

namespace Mapping

/-- A test that answers on every element gives the list of answers and no error. -/
theorem mapElems_ofTest {test : Ty → Option Bool} {answer : Ty → Bool} {xs : List Ty}
    (h : ∀ x ∈ xs, test x = some (answer x)) :
    (ofTest test).mapElems xs = some (xs.map fun x => .bool (answer x), .clear) := by
  induction xs with
  | nil => rfl
  | cons x xs ih =>
    obtain ⟨hx, hxs⟩ := List.forall_mem_cons.mp h
    have happly : (ofTest test).apply x = some ⟨.bool (answer x), .clear⟩ := by
      simp [ofTest, hx]
    rw [mapElems, happly, ih hxs]
    rfl

end Mapping

namespace Ty

/-- The list of these booleans. -/
def ofBools (bs : List Bool) : Ty := .list (.kind .bool) (ofElems (bs.map .bool))

theorem list_flags (xs : List Ty) (flag : Ty → Bool) :
    Ty.list (.kind .bool) (ofElems (xs.map fun x => .bool (flag x))) = ofBools (xs.map flag) := by
  rw [ofBools, List.map_map]
  rfl

theorem sequence?_ofBools (bs : List Bool) :
    (ofBools bs).sequence? = some ⟨.list, .bool, bs.map .bool⟩ := by
  rw [sequence?_eq_some_iff]
  refine ⟨rfl, fun x hx => ?_⟩
  obtain ⟨b, -, rfl⟩ := List.mem_map.mp hx
  rfl

theorem elemsEq_const (bs : List Bool) (c : Bool) :
    elemsEq .bool (ofElems (bs.map .bool)) (ofElems (bs.map fun _ => .bool c)) =
      some (bs.all (· == c)) := by
  induction bs with
  | nil => rfl
  | cons b bs ih =>
    have hhead : Kind.bool.eq (.bool b) (.bool c) = some (b == c) := by
      rw [beq_eq_decide, ← boolEq_eq_decide]
      rfl
    rw [List.map_cons, List.map_cons, ofElems, ofElems, elemsEq, hhead, ih, List.all_cons]
    rfl

/-- Booleans equal their image under a constant if all of them are that constant. -/
theorem equalsImage_ofBools (bs : List Bool) (c : Bool) :
    (ofBools bs).equalsImage (.ofTest fun _ => some c) = some (bs.all (· == c)) := by
  have himage : (Mapping.ofTest fun _ => some c).mapElems (bs.map Ty.bool) =
      some ((bs.map Ty.bool).map fun _ => .bool c, .clear) :=
    Mapping.mapElems_ofTest fun _ _ => rfl
  rw [equalsImage, sequence?_ofBools, Option.bind_eq_bind, Option.bind_some, if_pos rfl, himage,
    Option.bind_eq_bind, Option.bind_some, List.map_map]
  exact elemsEq_const bs c

theorem all_ofBools (bs : List Bool) : (ofBools bs).all = some (bs.all fun b => b) := by
  rw [all, Mapping.alwaysTrue, equalsImage_ofBools]
  simp

theorem any_ofBools (bs : List Bool) : (ofBools bs).any = some (bs.any fun b => b) := by
  rw [any, Mapping.alwaysFalse, equalsImage_ofBools]
  simp [List.all_eq_not_any_not]

/-! ## Membership -/

/-- A value is in a sequence of its kind if it occurs among the elements. -/
theorem isIn_eq_occurs {s x : Ty} {q : Sequence} (hs : s.sequence? = some q)
    (hx : q.kind.admits x = true) : s.isIn x = some (decide (q.kind.Occurs x q.elems)) := by
  obtain ⟨-, helems⟩ := sequence?_eq_some_iff.mp hs
  have hflags : (Mapping.equalTo q.kind x).mapElems q.elems =
      some (q.elems.map fun y => .bool (decide (q.kind.eq y x = some true)), .clear) := by
    refine Mapping.mapElems_ofTest fun y hy => ?_
    obtain ⟨r, hr⟩ := Kind.exists_eq (helems y hy) hx
    simp [hr]
  rw [isIn, hs, Option.bind_eq_bind, Option.bind_some, if_pos (Kind.isSized_of_admits hx), hflags,
    Option.bind_eq_bind, Option.bind_some, list_flags, any_ofBools, Option.some.injEq,
    Bool.eq_iff_iff, decide_eq_true_iff]
  simp [Kind.Occurs]

/-- Elements cannot be compared with what is no value of the kind. -/
theorem mapElems_equalTo_eq_none {k : Kind} {x y : Ty} (hx : ¬ k.admits x = true) (ys : List Ty) :
    (Mapping.equalTo k x).mapElems (y :: ys) = none := by
  have hundefined : k.eq y x = none := by
    rw [Option.eq_none_iff_forall_ne_some]
    intro r hr
    exact hx (Kind.admits_of_eq hr).2
  have happly : (Mapping.equalTo k x).apply y = none := by
    simp [Mapping.equalTo, Mapping.ofTest, hundefined]
  rw [Mapping.mapElems, happly]
  rfl

/-- Membership can be tested for a value of the sequence's kind, and in an empty
    sequence for any sized type. -/
theorem isIn_eq {s : Ty} {q : Sequence} (hs : s.sequence? = some q) (x : Ty) :
    s.isIn x = if q.elems = [] ∧ x.isSized = true ∨ q.kind.admits x = true then
      some (decide (q.kind.Occurs x q.elems)) else none := by
  by_cases hx : q.kind.admits x = true
  · rw [if_pos (Or.inr hx), isIn_eq_occurs hs hx]
  · obtain ⟨form, k, ys⟩ := q
    rw [isIn, hs, Option.bind_eq_bind, Option.bind_some]
    by_cases hsized : x.isSized = true
    · rw [if_pos hsized]
      cases ys with
      | nil =>
        rw [if_pos (Or.inl ⟨rfl, hsized⟩)]
        exact any_ofBools []
      | cons y ys =>
        rw [mapElems_equalTo_eq_none hx, if_neg (by simpa using hx)]
        rfl
    · rw [if_neg hsized, if_neg]
      rintro (⟨-, h⟩ | h)
      · exact hsized h
      · exact hx h

end Ty

end KindSeq
