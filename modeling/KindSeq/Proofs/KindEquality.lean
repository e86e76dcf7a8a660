/-
  KindSeq.Proofs.KindEquality

  The equality of a kind compares views of the values: the boolean, the digits, or
  what can be seen of the identity. So it exists for any two values of the kind
  and is an equivalence there; and where the names in types are told apart, it
  decides whether two values are one type. Lists follow element by element.
-/

import KindSeq.Expansion.Implementation
import KindSeq.Proofs.IdentityInjectivity
import KindSeq.Sequence.Basic

namespace KindSeq

/-! ## What the equality of a kind sees -/

namespace Kind

/-- What the equality of a kind sees of a value. -/
inductive View where
  | bool (b : Bool)
  | int (ds : Digits)
  | type (tree : IdTree)
  deriving DecidableEq

/-- The view of a term as a value of a kind. -/
def view? : Kind → Ty → Option View
  | .bool, t => t.bool?.map .bool
  | .int, t => t.intDigits?.map .int
  | .type, t => (t.valueId?.bind Ty.idTree?).map .type

/-- The values of a kind are the terms with a view. -/
theorem admits_iff_exists_view? {k : Kind} {t : Ty} :
    k.admits t = true ↔ ∃ v, k.view? t = some v := by
  rw [← Option.isSome_iff_exists]
  cases k with
  | bool => simp [admits, view?]
  | int => simp [admits, view?]
  | type =>
    rw [admits, view?, Option.isSome_map]
    cases hi : t.valueId? with
    | none => simp
    | some i =>
      obtain ⟨x, hx⟩ := (Ty.wellSorted_of_id? (Ty.id?_of_valueId? hi)).exists_idTree?
      simp [hx]

/-- Values of a kind are sized. -/
theorem isSized_of_admits {k : Kind} {t : Ty} (h : k.admits t = true) : t.isSized = true := by
  cases k with
  | bool =>
    obtain ⟨b, hb⟩ := Option.isSome_iff_exists.mp h
    rw [Ty.eq_bool_of_bool? hb]
    rfl
  | int =>
    obtain ⟨ds, hds⟩ := Option.isSome_iff_exists.mp h
    rw [← Ty.ofIntDigits_of_intDigits? hds]
    exact Ty.isSized_ofIntDigits ds
  | type =>
    obtain ⟨i, hi⟩ := Option.isSome_iff_exists.mp h
    exact (Ty.valueId?_eq_some_iff.mp hi).1

/-- The equality of a kind is equality of views. -/
theorem eq_of_view? {k : Kind} {a b : Ty} {v w : View} (ha : k.view? a = some v)
    (hb : k.view? b = some w) : k.eq a b = some (decide (v = w)) := by
  cases k with
  | bool =>
    obtain ⟨x, hx, rfl⟩ := Option.map_eq_some_iff.mp ha
    obtain ⟨y, hy, rfl⟩ := Option.map_eq_some_iff.mp hb
    simp [eq, hx, hy, Ty.boolEq_eq_decide]
  | int =>
    obtain ⟨x, hx, rfl⟩ := Option.map_eq_some_iff.mp ha
    obtain ⟨y, hy, rfl⟩ := Option.map_eq_some_iff.mp hb
    simp [eq, hx, hy, Digits.eq_eq_decide]
  | type =>
    obtain ⟨x, hx, rfl⟩ := Option.map_eq_some_iff.mp ha
    obtain ⟨y, hy, rfl⟩ := Option.map_eq_some_iff.mp hb
    obtain ⟨i, hi, hix⟩ := Option.bind_eq_some_iff.mp hx
    obtain ⟨j, hj, hjy⟩ := Option.bind_eq_some_iff.mp hy
    have hsi := Ty.wellSorted_of_id? (Ty.id?_of_valueId? hi)
    have hsj := Ty.wellSorted_of_id? (Ty.id?_of_valueId? hj)
    rw [eq, hi, hj]
    simpa using hsi.idEq_eq hsj hix hjy

theorem admits_of_eq {k : Kind} {a b : Ty} {r : Bool} (h : k.eq a b = some r) :
    k.admits a = true ∧ k.admits b = true := by
  cases k
  all_goals
    obtain ⟨x, hx, h⟩ := Option.bind_eq_some_iff.mp h
    obtain ⟨y, hy, h⟩ := Option.bind_eq_some_iff.mp h
    simp [admits, hx, hy]

/-- Values are equal under a kind if they have one view. -/
theorem eq_eq_true_iff {k : Kind} {a b : Ty} :
    k.eq a b = some true ↔ ∃ v, k.view? a = some v ∧ k.view? b = some v := by
  constructor
  · intro h
    obtain ⟨ha, hb⟩ := admits_of_eq h
    obtain ⟨v, hv⟩ := admits_iff_exists_view?.mp ha
    obtain ⟨w, hw⟩ := admits_iff_exists_view?.mp hb
    rw [eq_of_view? hv hw, Option.some.injEq, decide_eq_true_eq] at h
    exact ⟨v, hv, h ▸ hw⟩
  · rintro ⟨v, ha, hb⟩
    rw [eq_of_view? ha hb, decide_eq_true rfl]

theorem eq_symm {k : Kind} {a b : Ty} (h : k.eq a b = some true) : k.eq b a = some true := by
  obtain ⟨v, ha, hb⟩ := eq_eq_true_iff.mp h
  exact eq_eq_true_iff.mpr ⟨v, hb, ha⟩

theorem eq_trans {k : Kind} {a b c : Ty} (hab : k.eq a b = some true)
    (hbc : k.eq b c = some true) : k.eq a c = some true := by
  obtain ⟨v, ha, hb⟩ := eq_eq_true_iff.mp hab
  obtain ⟨w, hb', hc⟩ := eq_eq_true_iff.mp hbc
  obtain rfl : v = w := Option.some.inj (hb.symm.trans hb')
  exact eq_eq_true_iff.mpr ⟨v, ha, hc⟩

/-- Values of one kind can be compared. -/
theorem exists_eq {k : Kind} {a b : Ty} (ha : k.admits a = true) (hb : k.admits b = true) :
    ∃ r, k.eq a b = some r := by
  obtain ⟨v, hv⟩ := admits_iff_exists_view?.mp ha
  obtain ⟨w, hw⟩ := admits_iff_exists_view?.mp hb
  exact ⟨_, eq_of_view? hv hw⟩

theorem eq_self {k : Kind} {a : Ty} (ha : k.admits a = true) : k.eq a a = some true := by
  obtain ⟨v, hv⟩ := admits_iff_exists_view?.mp ha
  rw [eq_of_view? hv hv, decide_eq_true rfl]

end Kind

/-! ## Equality decides identity -/

namespace Kind

/-- Equal values are one type, if the names in types are told apart. -/
theorem eq_of_eq_true {k : Kind} {a b : Ty} (hsep : k = .type → Ty.Separated a b)
    (h : k.eq a b = some true) : a = b := by
  cases k with
  | bool =>
    simp only [eq, Option.bind_eq_bind, Option.bind_eq_some_iff] at h
    obtain ⟨x, hx, y, hy, hxy⟩ := h
    have hsame : Ty.boolEq x y = true := Option.some.inj hxy
    rw [Ty.boolEq_eq_decide, decide_eq_true_eq] at hsame
    rw [Ty.eq_bool_of_bool? hx, Ty.eq_bool_of_bool? hy, hsame]
  | int =>
    simp only [eq, Option.bind_eq_bind, Option.bind_eq_some_iff] at h
    obtain ⟨x, hx, y, hy, hxy⟩ := h
    have hsame : Digits.eq x y = true := Option.some.inj hxy
    rw [Digits.eq_eq_decide, decide_eq_true_eq] at hsame
    rw [← Ty.ofIntDigits_of_intDigits? hx, ← Ty.ofIntDigits_of_intDigits? hy, hsame]
  | type =>
    simp only [eq, Option.bind_eq_bind, Option.bind_eq_some_iff] at h
    obtain ⟨i, hi, j, hj, hij⟩ := h
    exact Ty.eq_of_idEq_of_separated (hsep rfl) (Ty.id?_of_valueId? hi) (Ty.id?_of_valueId? hj) hij

end Kind

namespace Ty

theorem isSized_of_sequence? {s : Ty} {q : Sequence} (hs : s.sequence? = some q) :
    s.isSized = true := by
  obtain ⟨rfl, hq⟩ := sequence?_eq_some_iff.mp hs
  exact isSized_toTy.mpr fun x hx => Kind.isSized_of_admits (hq x hx)

/-- Element lists of one kind can be compared, and are equal element by element. -/
theorem exists_elemsEq {k : Kind} {xs ys : List Ty} (hxs : ∀ x ∈ xs, k.admits x = true)
    (hys : ∀ y ∈ ys, k.admits y = true) :
    ∃ r, elemsEq k (ofElems xs) (ofElems ys) = some r ∧
      (r = true ↔ List.Forall₂ (fun x y => k.eq x y = some true) xs ys) := by
  induction xs generalizing ys with
  | nil =>
    cases ys with
    | nil => exact ⟨true, rfl, by simp⟩
    | cons y ys => exact ⟨false, rfl, by simp⟩
  | cons x xs ih =>
    cases ys with
    | nil => exact ⟨false, rfl, by simp⟩
    | cons y ys =>
      rw [List.forall_mem_cons] at hxs hys
      obtain ⟨p, hp⟩ := Kind.exists_eq hxs.1 hys.1
      obtain ⟨q, hq, hiff⟩ := ih hxs.2 hys.2
      refine ⟨p && q, both_eq_some_iff.mpr ⟨p, hp, q, hq, rfl⟩, ?_⟩
      rw [Bool.and_eq_true, hiff, List.forall₂_cons, hp, Option.some.injEq]

theorem heads_subset_ofElems {x : Ty} {xs : List Ty} (hx : x ∈ xs) :
    x.heads ⊆ (ofElems xs).heads := by
  induction xs with
  | nil => exact absurd hx List.not_mem_nil
  | cons y ys ih =>
    rw [ofElems, heads]
    rcases List.mem_cons.mp hx with rfl | hys
    · exact List.subset_append_left _ _
    · exact List.subset_append_of_subset_right _ (ih hys)

/-- Elements that are equal pair by pair are the same elements. -/
theorem eq_of_forall₂_eq {k : Kind} {xs ys : List Ty}
    (hsep : k = .type → Separated (ofElems xs) (ofElems ys))
    (h : List.Forall₂ (fun x y => k.eq x y = some true) xs ys) : xs = ys := by
  induction h with
  | nil => rfl
  | @cons x y xs ys hxy _ ih =>
    have hhead : x = y := by
      refine Kind.eq_of_eq_true (fun hk => (hsep hk).mono ?_ ?_) hxy
      · exact heads_subset_ofElems List.mem_cons_self
      · exact heads_subset_ofElems List.mem_cons_self
    have htail : xs = ys := by
      refine ih fun hk => (hsep hk).mono ?_ ?_
      · exact List.subset_append_right _ _
      · exact List.subset_append_right _ _
    rw [hhead, htail]

/-- The equality of a kind decides whether two values are one type. It exists for
    any two values of the kind; it holds for one boolean and for one digit list. It
    holds for one type, if the definitions that occur share their qualified names with
    nothing else there and no two of these names share a hash. Hence the equality of
    two lists of one kind exists, and decides whether they are one type. For types
    of the vocabulary nothing has to be assumed. -/
theorem kindEq_decides_identity :
    (∀ (k : Kind) (a b : Ty), k.admits a = true → k.admits b = true →
      ∃ r, k.eq a b = some r ∧ ((k = .type → Separated a b) → (r = true ↔ a = b))) ∧
    (∀ (a b : Ty) (k : Kind) (xs ys : List Ty), a.sequence? = some ⟨.list, k, xs⟩ →
      b.sequence? = some ⟨.list, k, ys⟩ →
      ∃ r, listEq a b = some r ∧
        ((k = .type → Separated (ofElems xs) (ofElems ys)) → (r = true ↔ a = b))) ∧
    (∀ a b : Ty, a.heads ⊆ Head.vocabulary → b.heads ⊆ Head.vocabulary → Separated a b) := by
  refine ⟨?_, ?_, fun a b => separated_of_vocabulary⟩
  · intro k a b ha hb
    obtain ⟨r, hr⟩ := Kind.exists_eq ha hb
    refine ⟨r, hr, fun hsep => ⟨?_, ?_⟩⟩
    · rintro rfl
      exact Kind.eq_of_eq_true hsep hr
    · rintro rfl
      exact Option.some.inj (hr.symm.trans (Kind.eq_self ha))
  · intro a b k xs ys ha hb
    obtain ⟨rfl, hxs⟩ := sequence?_eq_some_iff.mp ha
    obtain ⟨rfl, hys⟩ := sequence?_eq_some_iff.mp hb
    obtain ⟨r, hr, hiff⟩ := exists_elemsEq hxs hys
    refine ⟨r, by simpa [Sequence.toTy, listEq] using hr, fun hsep => ?_⟩
    rw [hiff]
    constructor
    · intro h
      rw [eq_of_forall₂_eq hsep h]
    · intro h
      have hsame : xs = ys := by
        have hshape := congrArg shape? h
        simpa using hshape
      subst hsame
      exact List.forall₂_same.mpr fun x hx => Kind.eq_self (hxs x hx)

/-- The same three names in another nesting make another type, and a list of the
    one is not a list of the other. -/
theorem kindEq_decides_identity_at_nesting :
    Kind.type.eq (apply Decl.option [apply Decl.vec [.prim .u8]])
      (apply Decl.vec [apply Decl.option [.prim .u8]]) = some false ∧
    listEq (.list (.kind .type) (ofElems [apply Decl.option [apply Decl.vec [.prim .u8]]]))
      (.list (.kind .type) (ofElems [apply Decl.vec [apply Decl.option [.prim .u8]]]))
        = some false := by
  obtain ⟨hvalues, hlists, hvocabulary⟩ := kindEq_decides_identity
  constructor
  · obtain ⟨r, hr, hiff⟩ := hvalues .type (apply Decl.option [apply Decl.vec [.prim .u8]])
      (apply Decl.vec [apply Decl.option [.prim .u8]]) (by decide +kernel) (by decide +kernel)
    have hsep := hvocabulary (apply Decl.option [apply Decl.vec [.prim .u8]])
      (apply Decl.vec [apply Decl.option [.prim .u8]]) (by decide +kernel) (by decide +kernel)
    rw [hr, Option.some.injEq, ← Bool.not_eq_true, hiff fun _ => hsep]
    decide
  · obtain ⟨r, hr, hiff⟩ := hlists
      (.list (.kind .type) (ofElems [apply Decl.option [apply Decl.vec [.prim .u8]]]))
      (.list (.kind .type) (ofElems [apply Decl.vec [apply Decl.option [.prim .u8]]]))
      .type [apply Decl.option [apply Decl.vec [.prim .u8]]]
      [apply Decl.vec [apply Decl.option [.prim .u8]]] (by decide +kernel) (by decide +kernel)
    have hsep := hvocabulary (ofElems [apply Decl.option [apply Decl.vec [.prim .u8]]])
      (ofElems [apply Decl.vec [apply Decl.option [.prim .u8]]]) (by decide +kernel)
      (by decide +kernel)
    rw [hr, Option.some.injEq, ← Bool.not_eq_true, hiff fun _ => hsep]
    decide

end Ty

/-- A second definition of the name of `Decl.unit`, in a block of the same module: a
    qualified name is that of the module and the definition's own. -/
def Decl.blockUnit : Decl := { unit with copying := .always }

namespace Ty

/-- Distinct hashes of distinct names are not enough. Two definitions of one name in one
    module have the identity that is derived for this name: both are values, no two names
    in them share a hash, and they are equal under their kind, as lists of them are. But
    they are not one type. -/
theorem kindEq_confuses_definitions_of_one_name :
    DistinctHashes ((simple .unit).identityNames ++ (simple .blockUnit).identityNames) ∧
    (simple .unit).valueId? =
      ((Expansion.Derivation.nominal "Unit").implementation "shapes").id? [] ∧
    (simple .blockUnit).valueId? =
      ((Expansion.Derivation.nominal "Unit").implementation "shapes").id? [] ∧
    Kind.type.admits (simple .unit) = true ∧ Kind.type.admits (simple .blockUnit) = true ∧
    simple .unit ≠ simple .blockUnit ∧
    Kind.type.eq (simple .unit) (simple .blockUnit) = some true ∧
    listEq (Sequence.toTy ⟨.list, .type, [simple .unit]⟩)
      (Sequence.toTy ⟨.list, .type, [simple .blockUnit]⟩) = some true := by
  decide +kernel

end Ty

end KindSeq
