/-
  KindSeq.Proofs.KindSoundness

  Kinds are respected. An operation on sequences signals an error only by not being
  defined, so soundness has two halves: what an operation yields is a sequence of the
  right kind and length (`Preservation`), and on operands of the right kind it yields
  something (`Progress`). Each half is read off a closed form of the operation:
  `concat_eq` for concatenation, `mapped_eq` for mapping, `isIn_eq` and
  `insert_of_sequence?` for membership and insertion.

  The last section is about values of another kind. Membership never looks at the
  kind of the candidate itself, only at the comparisons with the elements, so an empty
  sequence refuses nothing.
-/

import KindSeq.Proofs.SetObservables
import KindSeq.Proofs.Transformation

namespace KindSeq

namespace Ty

/-! ## Concatenation -/

theorem hconcat_ofElems (xs ys : List Ty) :
    (ofElems xs).hconcat (ofElems ys) = some (ofElems (xs ++ ys)) := by
  induction xs with
  | nil => rfl
  | cons x xs ih => rw [ofElems, hconcat, ih, Option.map_some, List.cons_append, ofElems]

/-- Two sequences can be concatenated if they are lists of one kind. -/
theorem concat_eq {a b : Ty} {p q : Sequence} (ha : a.sequence? = some p)
    (hb : b.sequence? = some q) :
    a.concat b = if p.form = .list ∧ q.form = .list ∧ p.kind = q.kind then
      some (Sequence.toTy ⟨.list, p.kind, p.elems ++ q.elems⟩) else none := by
  obtain ⟨pform, k, xs⟩ := p
  obtain ⟨qform, l, ys⟩ := q
  obtain ⟨rfl, -⟩ := sequence?_eq_some_iff.mp ha
  obtain ⟨rfl, -⟩ := sequence?_eq_some_iff.mp hb
  -- A set on either side is refused before the kinds are compared.
  cases pform with
  | set => rfl
  | list =>
    cases qform with
    | set => rfl
    | list =>
      by_cases hk : k = l
      · simp [Sequence.toTy, concat, hk, hconcat_ofElems]
      · simp [Sequence.toTy, concat, hk]

/-- Lists of one kind are compared by their elements, and nothing else is. -/
theorem listEq_eq {a b : Ty} {p q : Sequence} (ha : a.sequence? = some p)
    (hb : b.sequence? = some q) :
    a.listEq b = if p.form = .list ∧ q.form = .list ∧ p.kind = q.kind then
      elemsEq p.kind (ofElems p.elems) (ofElems q.elems) else none := by
  obtain ⟨pform, k, xs⟩ := p
  obtain ⟨qform, l, ys⟩ := q
  obtain ⟨rfl, -⟩ := sequence?_eq_some_iff.mp ha
  obtain ⟨rfl, -⟩ := sequence?_eq_some_iff.mp hb
  cases pform with
  | set => rfl
  | list =>
    cases qform with
    | set => rfl
    | list => simp [Sequence.toTy, listEq]

theorem exists_listEq {a b : Ty} {p q : Sequence} (ha : a.sequence? = some p)
    (hb : b.sequence? = some q) (hk : p.kind = q.kind) (hp : p.form = .list)
    (hq : q.form = .list) : ∃ r, a.listEq b = some r := by
  obtain ⟨-, hps⟩ := sequence?_eq_some_iff.mp ha
  obtain ⟨-, hqs⟩ := sequence?_eq_some_iff.mp hb
  obtain ⟨r, hr, -⟩ := exists_elemsEq hps (hk ▸ hqs)
  rw [listEq_eq ha hb, if_pos ⟨hp, hq, hk⟩]
  exact ⟨r, hr⟩

end Ty

/-! ## Images of sequences -/

namespace Kind

/-- First occurrences of values of a kind are none only if there are no values. -/
theorem firsts_eq_nil_iff {k : Kind} {xs : List Ty} (hxs : ∀ x ∈ xs, k.admits x = true) :
    k.firsts [] xs = [] ↔ xs = [] := by
  constructor
  · exact (k.sameMembers_firsts xs).symm.eq_nil hxs
  · rintro rfl
    rfl

end Kind

namespace Sequence

/-- What a function yields on the elements of a sequence is a sequence of its target
    kind. -/
theorem sequence?_image {q : Sequence} {f : Mapping} (h : f.Applies q.elems) :
    (q.image f).toTy.sequence? = some (q.image f) := by
  obtain ⟨form, k, xs⟩ := q
  cases form with
  | list => exact Ty.sequence?_values h
  | set => exact Ty.sequence?_firsts fun v hv => Mapping.admits_of_mem_values h hv

theorem length_image_of_list {q : Sequence} {f : Mapping} (hq : q.form = .list) :
    (q.image f).elems.length = q.elems.length := by
  simp [image, hq, Mapping.values]

/-- Values can coincide, so a mapped set can be shorter, but it does not vanish. -/
theorem length_image_of_set {q : Sequence} {f : Mapping} (hq : q.form = .set)
    (h : f.Applies q.elems) : (q.image f).elems.length ≤ q.elems.length ∧
      ((q.image f).elems = [] → q.elems = []) := by
  have hfirsts : (q.image f).elems = f.target.firsts [] (f.values q.elems) := by
    simp [image, hq]
  have hvalues : (f.values q.elems).length = q.elems.length := List.length_map _
  rw [hfirsts]
  constructor
  · rw [← hvalues]
    exact (f.target.firsts_sublist [] _).length_le
  · intro hnil
    have hempty : f.values q.elems = [] :=
      (Kind.firsts_eq_nil_iff fun v hv => Mapping.admits_of_mem_values h hv).mp hnil
    exact List.map_eq_nil_iff.mp hempty

end Sequence

/-! ## Which functions map which sequences -/

namespace Mapping

theorem applies_ofTest {test : Ty → Option Bool} {xs : List Ty}
    (h : ∀ x ∈ xs, ∃ r, test x = some r) : (ofTest test).Applies xs := by
  intro x hx
  obtain ⟨r, hr⟩ := h x hx
  simp [ofTest, hr]

theorem applies_equalTo {k : Kind} {y : Ty} {xs : List Ty} (hxs : ∀ x ∈ xs, k.admits x = true)
    (hy : k.admits y = true) : (equalTo k y).Applies xs :=
  applies_ofTest fun x hx => Kind.exists_eq (hxs x hx) hy

theorem applies_memberOf {s : Ty} {q : Sequence} {xs : List Ty} (hs : s.sequence? = some q)
    (hxs : ∀ x ∈ xs, q.kind.admits x = true) : (memberOf s).Applies xs :=
  applies_ofTest fun x hx => ⟨_, Ty.isIn_eq_occurs hs (hxs x hx)⟩

end Mapping

namespace Ty

/-- The term `f` stands for a function that maps the sequence `s`. -/
def Maps (f s : Ty) : Prop := ∃ g m, f.mapping? = some g ∧ s.mapped g = some m

theorem maps_of_applies {f s : Ty} {g : Mapping} {q : Sequence} (hs : s.sequence? = some q)
    (hf : f.mapping? = some g) (h : g.Applies q.elems) : f.Maps s := by
  obtain ⟨rfl, -⟩ := sequence?_eq_some_iff.mp hs
  exact ⟨g, _, hf, (mapped_eq_some_iff (shape?_toTy q)).mpr ⟨h, rfl⟩⟩

/-- Conjunction and disjunction are refused by everything but sequences of booleans. -/
theorem sequence?_of_equalsImage {s : Ty} {f : Mapping} {r : Bool}
    (h : s.equalsImage f = some r) : ∃ q, s.sequence? = some q ∧ q.kind = .bool := by
  obtain ⟨q, hq, h⟩ := Option.bind_eq_some_iff.mp h
  split at h
  · next hk => exact ⟨q, hq, hk⟩
  · exact absurd h (by simp)

theorem exists_all_iff {s : Ty} :
    (∃ r, s.all = some r) ↔ ∃ q, s.sequence? = some q ∧ q.kind = .bool := by
  constructor
  · rintro ⟨r, hr⟩
    exact sequence?_of_equalsImage hr
  · rintro ⟨q, hq, hk⟩
    exact ⟨_, all_eq hq hk⟩

theorem exists_any_iff {s : Ty} :
    (∃ r, s.any = some r) ↔ ∃ q, s.sequence? = some q ∧ q.kind = .bool := by
  constructor
  · rintro ⟨r, hr⟩
    obtain ⟨_, himage, -⟩ := Option.map_eq_some_iff.mp hr
    exact sequence?_of_equalsImage himage
  · rintro ⟨q, hq, hk⟩
    exact ⟨_, any_eq hq hk⟩

/-! ## Preservation and progress -/

/-- What operations on the sequences `a` and `b` yield, wherever they yield something. -/
structure Preservation (a b : Ty) (p q : Sequence) : Prop where
  concat : ∀ c, a.concat b = some c → p.kind = q.kind ∧
    ∃ zs, c.sequence? = some ⟨.list, p.kind, zs⟩ ∧ zs.length = p.elems.length + q.elems.length
  mapped_list : p.form = .list → ∀ f m, a.mapped f = some m →
    ∃ ys, m.sequence? = some ⟨.list, f.target, ys⟩ ∧ ys.length = p.elems.length
  mapped_set : p.form = .set → ∀ f m, a.mapped f = some m →
    ∃ ys, m.sequence? = some ⟨.set, f.target, ys⟩ ∧ ys.length ≤ p.elems.length ∧
      (ys = [] → p.elems = [])
  toSet : ∀ s, a.toSet = some s → ∃ ys, s.sequence? = some ⟨.set, p.kind, ys⟩

/-- Which operations on the sequences `a` and `b` yield something. -/
structure Progress (a b : Ty) (p q : Sequence) : Prop where
  concat : p.kind = q.kind → p.form = .list → q.form = .list → ∃ c, a.concat b = some c
  listEq : p.kind = q.kind → p.form = .list → q.form = .list → ∃ r, a.listEq b = some r
  setEq : p.kind = q.kind → ∃ r, a.setEq b = some r
  toSet : ∃ s, a.toSet = some s
  isIn : ∀ x, p.kind.admits x = true → ∃ r, a.isIn x = some r
  insert : p.form = .set → ∀ x, p.kind.admits x = true → ∃ s, a.insert x = some s
  alwaysTrue : Maps (.fn .alwaysTrue) a
  alwaysFalse : Maps (.fn .alwaysFalse) a
  constant : ∀ k v, k.admits v = true → Maps (.constant (.kind k) v) a
  equalTo : ∀ y, p.kind.admits y = true → Maps (.equalTo (.kind p.kind) y) a
  memberOf : p.kind = q.kind → Maps (.memberOf b) a

theorem Preservation.of_sequence? {a b : Ty} {p q : Sequence} (ha : a.sequence? = some p)
    (hb : b.sequence? = some q) : Preservation a b p q := by
  obtain ⟨hterm, hps⟩ := sequence?_eq_some_iff.mp ha
  obtain ⟨-, hqs⟩ := sequence?_eq_some_iff.mp hb
  have hshape : a.shape? = some p := by rw [hterm, shape?_toTy]
  refine ⟨?_, ?_, ?_, ?_⟩
  · -- Concatenation checks the kinds only; that the elements are of them is known.
    intro c hc
    rw [concat_eq ha hb] at hc
    split at hc
    · next h =>
      obtain ⟨-, -, hk⟩ := h
      obtain rfl := Option.some.inj hc
      refine ⟨hk, p.elems ++ q.elems, ?_, List.length_append⟩
      rw [sequence?_eq_some_iff]
      exact ⟨rfl, List.forall_mem_append.mpr ⟨hps, hk ▸ hqs⟩⟩
    · exact absurd hc (by simp)
  · intro hform f m hm
    obtain ⟨happlies, rfl⟩ := (mapped_eq_some_iff hshape).mp hm
    refine ⟨(p.image f).elems, ?_, Sequence.length_image_of_list hform⟩
    rw [Sequence.sequence?_image happlies, ← hform]
    rfl
  · intro hform f m hm
    obtain ⟨happlies, rfl⟩ := (mapped_eq_some_iff hshape).mp hm
    refine ⟨(p.image f).elems, ?_, Sequence.length_image_of_set hform happlies⟩
    rw [Sequence.sequence?_image happlies, ← hform]
    rfl
  · intro s hs
    obtain rfl := Option.some.inj ((toSet_eq ha).symm.trans hs)
    exact ⟨_, sequence?_firsts hps⟩

theorem Progress.of_sequence? {a b : Ty} {p q : Sequence} (ha : a.sequence? = some p)
    (hb : b.sequence? = some q) : Progress a b p q := by
  obtain ⟨-, hps⟩ := sequence?_eq_some_iff.mp ha
  -- Every function below is settled by where it applies.
  have hmaps : ∀ {f : Ty} {g : Mapping}, f.mapping? = some g → g.Applies p.elems → f.Maps a :=
    maps_of_applies ha
  exact {
    concat := fun hk hp hq => ⟨_, by rw [concat_eq ha hb, if_pos ⟨hp, hq, hk⟩]⟩
    listEq := exists_listEq ha hb
    setEq := fun hk => (exists_setEq ha hb hk).imp fun _ h => h.1
    toSet := ⟨_, toSet_eq ha⟩
    isIn := fun x hx => ⟨_, isIn_eq_occurs ha hx⟩
    insert := by
      intro hform x hx
      obtain ⟨form, k, xs⟩ := p
      obtain rfl : form = .set := hform
      exact ⟨_, by rw [insert_of_sequence? ha, if_pos (Or.inr hx)]⟩
    alwaysTrue := hmaps rfl (Mapping.applies_ofTest fun _ _ => ⟨true, rfl⟩)
    alwaysFalse := hmaps rfl (Mapping.applies_ofTest fun _ _ => ⟨false, rfl⟩)
    constant := fun k v hv => hmaps (dif_pos hv) fun _ _ => rfl
    equalTo := fun y hy => hmaps rfl (Mapping.applies_equalTo hps hy)
    memberOf := by
      intro hk
      have hmapping : (Ty.memberOf b).mapping? = some (.memberOf b) := by simp [mapping?, hb]
      exact hmaps hmapping (Mapping.applies_memberOf hb (hk ▸ hps)) }

/-- Sequences are kind sound. What concatenation, mapping and deduplication yield is a
    sequence of the right kind and length; and operations on sequences of one kind, the
    tests for values of that kind and the built-in functions always yield something.
    Conjunction and disjunction do so for sequences of booleans and nothing else. -/
theorem sequences_are_kind_sound {a b : Ty} {p q : Sequence} (ha : a.sequence? = some p)
    (hb : b.sequence? = some q) :
    Preservation a b p q ∧ Progress a b p q ∧
    ∀ t : Ty, ((∃ r, t.all = some r) ↔ ∃ s, t.sequence? = some s ∧ s.kind = .bool) ∧
      ((∃ r, t.any = some r) ↔ ∃ s, t.sequence? = some s ∧ s.kind = .bool) :=
  ⟨.of_sequence? ha hb, .of_sequence? ha hb, fun _ => ⟨exists_all_iff, exists_any_iff⟩⟩

/-- A set of two integers keeps an element when it is mapped to true, and is mapped by
    membership in a list; it has no conjunction. -/
theorem sequences_are_kind_sound_at_integers :
    (∃ m ys, (Sequence.toTy ⟨.set, .int, [intLit 1, intLit 2]⟩).mapped .alwaysTrue = some m ∧
      m.sequence? = some ⟨.set, .bool, ys⟩ ∧ ys.length ≤ 2 ∧ ys ≠ []) ∧
    Maps (.memberOf (Sequence.toTy ⟨.list, .int, [intLit 2]⟩))
      (Sequence.toTy ⟨.set, .int, [intLit 1, intLit 2]⟩) ∧
    ¬∃ r, (Sequence.toTy ⟨.set, .int, [intLit 1, intLit 2]⟩).all = some r := by
  have hset : (Sequence.toTy ⟨.set, .int, [intLit 1, intLit 2]⟩).sequence? =
      some ⟨.set, .int, [intLit 1, intLit 2]⟩ := by decide +kernel
  have hlist : (Sequence.toTy ⟨.list, .int, [intLit 2]⟩).sequence? =
      some ⟨.list, .int, [intLit 2]⟩ := by decide +kernel
  obtain ⟨hpres, hprog, hbool⟩ := sequences_are_kind_sound hset hlist
  refine ⟨?_, hprog.memberOf rfl, ?_⟩
  · obtain ⟨f, m, hf, hm⟩ := hprog.alwaysTrue
    obtain rfl : Mapping.alwaysTrue = f := Option.some.inj hf
    obtain ⟨ys, hys, hlen, hnil⟩ := hpres.mapped_set rfl _ m hm
    exact ⟨m, ys, hm, hys, hlen, fun h => absurd (hnil h) (by simp)⟩
  · rw [(hbool _).1, hset]
    rintro ⟨s, hs, hk⟩
    obtain rfl := Option.some.inj hs
    exact absurd hk (by decide)

/-! ## Values of another kind -/

/-- A set with a value added is a sequence of its kind only if the value is of the kind. -/
theorem sequence?_insert_iff {s x t : Ty} {k : Kind} {acc : List Ty}
    (hs : s.sequence? = some ⟨.set, k, acc⟩) (h : s.insert x = some t) :
    (∃ ys, t.sequence? = some ⟨.set, k, ys⟩) ↔ k.admits x = true := by
  obtain ⟨-, hacc⟩ := sequence?_eq_some_iff.mp hs
  rw [insert_of_sequence? hs] at h
  split at h
  · obtain rfl := Option.some.inj h
    by_cases hocc : k.Occurs x acc
    · -- Only a value of the kind can occur, and then nothing is added.
      rw [if_pos hocc]
      exact ⟨fun _ => hocc.admits, fun _ => ⟨acc, sequence?_eq_some_iff.mpr ⟨rfl, hacc⟩⟩⟩
    · rw [if_neg hocc]
      constructor
      · -- The value stands at the end of the set, where the kind is asked of it.
        rintro ⟨ys, hys⟩
        obtain ⟨hterm, hadmits⟩ := sequence?_eq_some_iff.mp hys
        have hsame : acc ++ [x] = ys := by simpa using congrArg shape? hterm
        exact hadmits x (hsame ▸ List.mem_append_right acc List.mem_cons_self)
      · intro hx
        refine ⟨acc ++ [x], sequence?_eq_some_iff.mpr ⟨rfl, ?_⟩⟩
        rw [List.forall_mem_append, List.forall_mem_singleton]
        exact ⟨hacc, hx⟩
  · exact absurd h (by simp)

/-- A value of another kind is refused by all sequences but the empty ones. Membership
    can be tested, and a value inserted into a set, exactly if the value is of the kind
    or is any sized type and there is no element to compare it with; and the set with the
    value is a sequence of the kind only if the value is one. -/
theorem foreign_values_are_refused_unless_empty {s : Ty} {q : Sequence}
    (hs : s.sequence? = some q) (x : Ty) :
    ((∃ r, s.isIn x = some r) ↔
      q.elems = [] ∧ x.isSized = true ∨ q.kind.admits x = true) ∧
    (q.form = .set →
      ((∃ t, s.insert x = some t) ↔
        q.elems = [] ∧ x.isSized = true ∨ q.kind.admits x = true) ∧
      ∀ t, s.insert x = some t →
        ((∃ ys, t.sequence? = some ⟨.set, q.kind, ys⟩) ↔ q.kind.admits x = true)) := by
  constructor
  · rw [isIn_eq hs]
    simp
  · intro hform
    obtain ⟨form, k, acc⟩ := q
    obtain rfl : form = .set := hform
    constructor
    · rw [insert_of_sequence? hs]
      simp
    · intro t ht
      exact sequence?_insert_iff hs ht

/-- A boolean is refused by a set of one integer. -/
theorem foreign_values_are_refused_unless_empty_at_singleton :
    (Sequence.toTy ⟨.set, .int, [intLit 1]⟩).sequence? = some ⟨.set, .int, [intLit 1]⟩ ∧
    (¬∃ r, (Sequence.toTy ⟨.set, .int, [intLit 1]⟩).isIn (.bool true) = some r) ∧
    ¬∃ t, (Sequence.toTy ⟨.set, .int, [intLit 1]⟩).insert (.bool true) = some t := by
  have hset : (Sequence.toTy ⟨.set, .int, [intLit 1]⟩).sequence? =
      some ⟨.set, .int, [intLit 1]⟩ := by decide +kernel
  have hforeign : ¬([intLit 1] = [] ∧ (Ty.bool true).isSized = true ∨
      Kind.int.admits (.bool true) = true) := by decide
  obtain ⟨hin, hinsert⟩ := foreign_values_are_refused_unless_empty hset (.bool true)
  exact ⟨hset, fun h => hforeign (hin.mp h), fun h => hforeign ((hinsert rfl).1.mp h)⟩

/-- The empty set of integers answers for a boolean, and takes it in; what comes out is
    no sequence any more. -/
theorem empty_set_takes_foreign_value :
    (Sequence.toTy ⟨.set, .int, []⟩).sequence? = some ⟨.set, .int, []⟩ ∧
    Kind.int.admits (.bool true) = false ∧
    (Sequence.toTy ⟨.set, .int, []⟩).isIn (.bool true) = some false ∧
    (Sequence.toTy ⟨.set, .int, []⟩).insert (.bool true) =
      some (Sequence.toTy ⟨.set, .int, [.bool true]⟩) ∧
    (Sequence.toTy ⟨.set, .int, [.bool true]⟩).sequence? = none := by
  decide +kernel

end Ty

end KindSeq
