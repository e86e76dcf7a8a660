/-
  KindSeq.Proofs.IdentityAgreement

  Every value of a kind is also a type, and can be compared as one. The two
  comparisons share no step: booleans are compared by a table and integers digit by
  digit, types by the hashes of names and the streams of digits. They agree all the
  same (`Kind.type_eq_of_admits`), with no assumption on hashes, because the only
  names involved are those of the library itself. Element lists follow, and with
  them sequences as types (`type_eq_toTy`): their identities hold the form and the
  kind as names, and then the elements.

  So nothing changes when a sequence of booleans or integers is taken for a sequence
  of types (`SameAsTypes`).
-/

import KindSeq.Proofs.KindSoundness

namespace KindSeq

/-! ## Identities of booleans and integers -/

namespace Ty

theorem valueId?_bool (b : Bool) : (bool b).valueId? = some (nameId (Head.bool b).name) := by
  cases b with
  | false => rfl
  | true => rfl

theorem valueId?_ofIntDigits (ds : Digits) :
    (ofIntDigits ds).valueId? = some (appliedId Head.int.name (digitIds ds)) := by
  rw [valueId?, if_pos (isSized_ofIntDigits ds), ofIntDigits, id?, digits?_ofDigits]
  rfl

/-- The identities of digits decide whether two digit lists are one. -/
theorem idEq_digitIds (ds es : Digits) :
    idEq (digitIds ds) (digitIds es) = some (decide (ds = es)) := by
  obtain ⟨r, hr⟩ := (WellSorted.digitIds ds).exists_idEq (WellSorted.digitIds es)
  have hiff : r = true ↔ ds = es := by
    constructor
    · rintro rfl
      exact eq_of_idEq_digitIds hr
    · rintro rfl
      cases r with
      | true => rfl
      | false => exact absurd hr (idEq_self_ne_false _)
  rw [hr, Option.some.injEq, Bool.eq_iff_iff, decide_eq_true_iff, hiff]

theorem idEq_nameId_self (name : String) : idEq (nameId name) (nameId name) = some true :=
  idEq_nameId_iff.mpr rfl

/-- Applications of one constructor are compared by their arguments. -/
theorem idEq_appliedId_self (name : String) (is js : Ty) :
    idEq (appliedId name is) (appliedId name js) = idEq is js := by
  rw [appliedId, appliedId, idEq, idEq_nameId_self]
  cases idEq is js <;> rfl

theorem type_eq_bool (b c : Bool) : Kind.type.eq (bool b) (bool c) = some (decide (b = c)) := by
  have hnames : Kind.type.eq (bool b) (bool c) =
      idEq (nameId (Head.bool b).name) (nameId (Head.bool c).name) := by
    rw [Kind.eq, valueId?_bool, valueId?_bool]
    rfl
  rw [hnames, idEq_nameId, Option.some.injEq, decide_eq_decide]
  constructor
  · intro h
    exact Head.bool.inj (Head.eq_of_hash (Head.mem_vocabulary rfl) (Head.mem_vocabulary rfl) h)
  · rintro rfl
    rfl

theorem type_eq_ofIntDigits (ds es : Digits) :
    Kind.type.eq (ofIntDigits ds) (ofIntDigits es) = some (decide (ds = es)) := by
  rw [Kind.eq, valueId?_ofIntDigits, valueId?_ofIntDigits, Option.bind_eq_bind, Option.bind_some,
    Option.bind_some, idEq_appliedId_self, idEq_digitIds]

end Ty

namespace Kind

/-- Every value of a kind is a type with an identity. -/
theorem type_admits {k : Kind} {a : Ty} (ha : k.admits a = true) : Kind.type.admits a = true := by
  cases k with
  | bool =>
    obtain ⟨b, hb⟩ := Option.isSome_iff_exists.mp ha
    rw [Ty.eq_bool_of_bool? hb, admits, Ty.valueId?_bool]
    rfl
  | int =>
    obtain ⟨ds, hds⟩ := Option.isSome_iff_exists.mp ha
    rw [← Ty.ofIntDigits_of_intDigits? hds, admits, Ty.valueId?_ofIntDigits]
    rfl
  | type => exact ha

/-- Compared as types, values of a kind are equal exactly if they are so under their
    own kind. -/
theorem type_eq_of_admits {k : Kind} {a b : Ty} (ha : k.admits a = true)
    (hb : k.admits b = true) : Kind.type.eq a b = k.eq a b := by
  cases k with
  | bool =>
    obtain ⟨x, hx⟩ := Option.isSome_iff_exists.mp ha
    obtain ⟨y, hy⟩ := Option.isSome_iff_exists.mp hb
    obtain rfl := Ty.eq_bool_of_bool? hx
    obtain rfl := Ty.eq_bool_of_bool? hy
    rw [Ty.type_eq_bool, ← Ty.boolEq_eq_decide]
    rfl
  | int =>
    obtain ⟨ds, hds⟩ := Option.isSome_iff_exists.mp ha
    obtain ⟨es, hes⟩ := Option.isSome_iff_exists.mp hb
    obtain rfl := Ty.ofIntDigits_of_intDigits? hds
    obtain rfl := Ty.ofIntDigits_of_intDigits? hes
    rw [Ty.type_eq_ofIntDigits, eq, hds, hes, ← Digits.eq_eq_decide]
    rfl
  | type => rfl

/-! ## Members, compared as types -/

section AsTypes

variable {k : Kind} {xs ys : List Ty} (hxs : ∀ x ∈ xs, k.admits x = true)

include hxs

theorem type_occurs_iff {z : Ty} (hz : k.admits z = true) :
    Kind.type.Occurs z xs ↔ k.Occurs z xs := by
  constructor
  · rintro ⟨x, hx, hxz⟩
    exact ⟨x, hx, by rwa [← type_eq_of_admits (hxs x hx) hz]⟩
  · rintro ⟨x, hx, hxz⟩
    exact ⟨x, hx, by rwa [type_eq_of_admits (hxs x hx) hz]⟩

theorem type_within_iff (hys : ∀ y ∈ ys, k.admits y = true) :
    Kind.type.Within xs ys ↔ k.Within xs ys := by
  constructor
  · intro h x hx
    exact (type_occurs_iff hys (hxs x hx)).mp (h x hx)
  · intro h x hx
    exact (type_occurs_iff hys (hxs x hx)).mpr (h x hx)

theorem type_sameMembers_iff (hys : ∀ y ∈ ys, k.admits y = true) :
    Kind.type.SameMembers xs ys ↔ k.SameMembers xs ys := by
  have hxs' : ∀ x ∈ xs, Kind.type.admits x = true := fun x hx => type_admits (hxs x hx)
  have hys' : ∀ y ∈ ys, Kind.type.admits y = true := fun y hy => type_admits (hys y hy)
  rw [← within_within_iff hxs' hys', ← within_within_iff hxs hys, type_within_iff hxs hys,
    type_within_iff hys hxs]

/-- The same elements are first occurrences. -/
theorem type_firsts {before : List Ty} (hbefore : ∀ x ∈ before, k.admits x = true) :
    Kind.type.firsts before xs = k.firsts before xs := by
  induction xs generalizing before with
  | nil => rfl
  | cons x xs ih =>
    obtain ⟨hx, hxs⟩ := List.forall_mem_cons.mp hxs
    have hlater : Kind.type.firsts (before ++ [x]) xs = k.firsts (before ++ [x]) xs := by
      apply ih hxs
      rw [List.forall_mem_append, List.forall_mem_singleton]
      exact ⟨hbefore, hx⟩
    rw [firsts, firsts, hlater]
    simp only [type_occurs_iff hbefore hx]

end AsTypes

end Kind

/-! ## Element lists -/

namespace Ty

theorem exists_ids? {k : Kind} {xs : List Ty} (hxs : ∀ x ∈ xs, k.admits x = true) :
    ∃ is, (ofElems xs).ids? = some is := by
  induction xs with
  | nil => exact ⟨.idNil, rfl⟩
  | cons x xs ih =>
    obtain ⟨hx, hxs⟩ := List.forall_mem_cons.mp hxs
    obtain ⟨i, hi⟩ := Option.isSome_iff_exists.mp (Kind.type_admits hx)
    obtain ⟨is, his⟩ := ih hxs
    exact ⟨.idCons i is, by simp [ofElems, ids?, id?_of_valueId? hi, his]⟩

theorem ids?_cons_eq_some {x i is : Ty} {xs : List Ty}
    (h : (ofElems (x :: xs)).ids? = some is) (hx : x.valueId? = some i) :
    ∃ js, (ofElems xs).ids? = some js ∧ is = .idCons i js := by
  simp only [ofElems, ids?, id?_of_valueId? hx, Option.bind_eq_bind, Option.bind_some,
    Option.bind_eq_some_iff] at h
  obtain ⟨js, hjs, heq⟩ := h
  exact ⟨js, hjs, (Option.some.inj heq).symm⟩

/-- The identities of two element lists are compared as the elements are. -/
theorem idEq_ids {k : Kind} {xs ys : List Ty} {is js : Ty} (hxs : ∀ x ∈ xs, k.admits x = true)
    (hys : ∀ y ∈ ys, k.admits y = true) (his : (ofElems xs).ids? = some is)
    (hjs : (ofElems ys).ids? = some js) :
    idEq is js = elemsEq k (ofElems xs) (ofElems ys) := by
  induction xs generalizing ys is js with
  | nil =>
    obtain rfl := Option.some.inj his
    cases ys with
    | nil =>
      obtain rfl := Option.some.inj hjs
      rfl
    | cons y ys =>
      obtain ⟨j, hj⟩ := Option.isSome_iff_exists.mp (Kind.type_admits (hys y List.mem_cons_self))
      obtain ⟨_, -, rfl⟩ := ids?_cons_eq_some hjs hj
      rfl
  | cons x xs ih =>
    rw [List.forall_mem_cons] at hxs
    obtain ⟨i, hi⟩ := Option.isSome_iff_exists.mp (Kind.type_admits hxs.1)
    obtain ⟨is', his', rfl⟩ := ids?_cons_eq_some his hi
    cases ys with
    | nil =>
      obtain rfl := Option.some.inj hjs
      rfl
    | cons y ys =>
      rw [List.forall_mem_cons] at hys
      obtain ⟨j, hj⟩ := Option.isSome_iff_exists.mp (Kind.type_admits hys.1)
      obtain ⟨js', hjs', rfl⟩ := ids?_cons_eq_some hjs hj
      have hhead : idEq i j = k.eq x y := by
        rw [← Kind.type_eq_of_admits hxs.1 hys.1, Kind.eq, hi, hj]
        rfl
      rw [idEq, ofElems, ofElems, elemsEq, hhead, ih hxs.2 hys.2 his' hjs']

/-- Element lists are equal under their kind exactly if they are so as types. -/
theorem elemsEq_type {k : Kind} {xs ys : List Ty} (hxs : ∀ x ∈ xs, k.admits x = true)
    (hys : ∀ y ∈ ys, k.admits y = true) :
    elemsEq .type (ofElems xs) (ofElems ys) = elemsEq k (ofElems xs) (ofElems ys) := by
  obtain ⟨is, his⟩ := exists_ids? hxs
  obtain ⟨js, hjs⟩ := exists_ids? hys
  rw [← idEq_ids hxs hys his hjs]
  exact (idEq_ids (fun x hx => Kind.type_admits (hxs x hx))
    (fun y hy => Kind.type_admits (hys y hy)) his hjs).symm

end Ty

/-! ## Sequences as types -/

/-- The constructor that a form is spelled with. -/
def Form.head : Form → Head
  | .list => .list
  | .set => .set

theorem Form.isNominal_head (f : Form) : f.head.isNominal = false := by
  cases f with
  | list => rfl
  | set => rfl

theorem Form.eq_of_hash {f g : Form}
    (h : Hash.ofString f.head.name = Hash.ofString g.head.name) : f = g := by
  have hhead : f.head = g.head :=
    Head.eq_of_hash (Head.mem_vocabulary f.isNominal_head) (Head.mem_vocabulary g.isNominal_head) h
  cases f with
  | list =>
    cases g with
    | list => rfl
    | set => exact absurd hhead (by decide)
  | set =>
    cases g with
    | list => exact absurd hhead (by decide)
    | set => rfl

theorem Kind.eq_of_hash {k l : Kind} (h : Hash.ofString k.path = Hash.ofString l.path) :
    k = l :=
  Head.kind.inj (Head.eq_of_hash (Head.mem_vocabulary rfl) (Head.mem_vocabulary rfl) h)

namespace Ty

theorem valueId?_of_sequence? {s is : Ty} {q : Sequence} (hs : s.sequence? = some q)
    (his : (ofElems q.elems).ids? = some is) :
    s.valueId? = some (appliedId q.form.head.name (.idCons (nameId q.kind.path) is)) := by
  refine valueId?_eq_some_iff.mpr ⟨isSized_of_sequence? hs, ?_⟩
  obtain ⟨form, k, xs⟩ := q
  obtain ⟨rfl, -⟩ := sequence?_eq_some_iff.mp hs
  cases form with
  | list => simp [Sequence.toTy, id?, his, Form.head, Head.name]
  | set => simp [Sequence.toTy, id?, his, Form.head, Head.name]

/-- Sequences, compared as types, are equal if they agree in form, in kind and
    element by element. -/
theorem type_eq_toTy {a b : Ty} {p q : Sequence} (ha : a.sequence? = some p)
    (hb : b.sequence? = some q) :
    Kind.type.eq a b = if p.form = q.form ∧ p.kind = q.kind then
      elemsEq p.kind (ofElems p.elems) (ofElems q.elems) else some false := by
  obtain ⟨rfl, hps⟩ := sequence?_eq_some_iff.mp ha
  obtain ⟨rfl, hqs⟩ := sequence?_eq_some_iff.mp hb
  obtain ⟨is, his⟩ := exists_ids? hps
  obtain ⟨js, hjs⟩ := exists_ids? hqs
  have heq : Kind.type.eq p.toTy q.toTy =
      idEq (appliedId p.form.head.name (.idCons (nameId p.kind.path) is))
        (appliedId q.form.head.name (.idCons (nameId q.kind.path) js)) := by
    rw [Kind.eq, valueId?_of_sequence? ha his, valueId?_of_sequence? hb hjs]
    rfl
  by_cases hsame : p.form = q.form ∧ p.kind = q.kind
  · obtain ⟨hform, hkind⟩ := hsame
    rw [← hkind] at hqs
    rw [if_pos ⟨hform, hkind⟩, heq, hform, hkind, idEq_appliedId_self, idEq, idEq_nameId_self,
      ← hkind, ← idEq_ids hps hqs his hjs]
    cases idEq is js <;> rfl
  · rw [if_neg hsame]
    -- An answer exists; if it were `true`, both names would have the same hash.
    obtain ⟨r, hr⟩ := Kind.exists_eq (k := .type) (a := p.toTy) (b := q.toTy)
      (Option.isSome_iff_exists.mpr ⟨_, valueId?_of_sequence? ha his⟩)
      (Option.isSome_iff_exists.mpr ⟨_, valueId?_of_sequence? hb hjs⟩)
    cases r with
    | false => exact hr
    | true =>
      rw [heq, idEq_appliedId_iff, idEq_idCons_iff, idEq_nameId_iff] at hr
      exact absurd ⟨Form.eq_of_hash hr.1, Kind.eq_of_hash hr.2.1⟩ hsame

end Ty

/-! ## Sequences of types -/

/-- The same elements as a sequence of types. -/
def Sequence.asTypes (q : Sequence) : Sequence := { q with kind := .type }

namespace Ty

theorem sequence?_asTypes {a : Ty} {p : Sequence} (ha : a.sequence? = some p) :
    p.asTypes.toTy.sequence? = some p.asTypes := by
  obtain ⟨-, hps⟩ := sequence?_eq_some_iff.mp ha
  exact sequence?_eq_some_iff.mpr ⟨rfl, fun x hx => Kind.type_admits (hps x hx)⟩

/-- A membership test that exists gives the same answer among types. -/
theorem isIn_asTypes {a x : Ty} {p : Sequence} {r : Bool} (ha : a.sequence? = some p)
    (h : a.isIn x = some r) : p.asTypes.toTy.isIn x = some r := by
  obtain ⟨-, hps⟩ := sequence?_eq_some_iff.mp ha
  rw [isIn_eq ha] at h
  rw [isIn_eq (sequence?_asTypes ha)]
  split at h
  case isFalse => exact absurd h (by simp)
  case isTrue hdefined =>
    rw [← h]
    rcases hdefined with ⟨hempty, hsized⟩ | hx
    · simp [Kind.Occurs, Sequence.asTypes, hempty, hsized]
    · have hdefined : p.asTypes.elems = [] ∧ x.isSized = true ∨
          p.asTypes.kind.admits x = true := Or.inr (Kind.type_admits hx)
      rw [if_pos hdefined, Option.some.injEq, decide_eq_decide]
      exact Kind.type_occurs_iff hps hx

theorem setEq_asTypes {a b : Ty} {p q : Sequence} (ha : a.sequence? = some p)
    (hb : b.sequence? = some q) (hk : p.kind = q.kind) :
    ∃ r, a.setEq b = some r ∧ p.asTypes.toTy.setEq q.asTypes.toTy = some r := by
  obtain ⟨-, hps⟩ := sequence?_eq_some_iff.mp ha
  obtain ⟨-, hqs⟩ := sequence?_eq_some_iff.mp hb
  rw [← hk] at hqs
  obtain ⟨r, hr, hiff⟩ := exists_setEq ha hb hk
  obtain ⟨r', hr', hiff'⟩ := exists_setEq (sequence?_asTypes ha) (sequence?_asTypes hb) rfl
  have hsame : r' = r := by
    rw [Bool.eq_iff_iff, hiff, hiff']
    exact Kind.type_sameMembers_iff hps hqs
  exact ⟨r, hr, hsame ▸ hr'⟩

theorem listEq_asTypes {a b : Ty} {p q : Sequence} (ha : a.sequence? = some p)
    (hb : b.sequence? = some q) (hk : p.kind = q.kind) :
    p.asTypes.toTy.listEq q.asTypes.toTy = a.listEq b := by
  obtain ⟨-, hps⟩ := sequence?_eq_some_iff.mp ha
  obtain ⟨-, hqs⟩ := sequence?_eq_some_iff.mp hb
  rw [← hk] at hqs
  have helems : elemsEq .type (ofElems p.elems) (ofElems q.elems) =
      elemsEq p.kind (ofElems p.elems) (ofElems q.elems) := elemsEq_type hps hqs
  rw [listEq_eq ha hb, listEq_eq (sequence?_asTypes ha) (sequence?_asTypes hb)]
  simp only [Sequence.asTypes, hk, helems]

/-- The answers about two sequences of one kind, and those about the same elements
    as sequences of types. -/
structure SameAsTypes (a b : Ty) (p q : Sequence) : Prop where
  isSequence : p.asTypes.toTy.sequence? = some p.asTypes
  isIn : ∀ x, p.kind.admits x = true → ∃ r, a.isIn x = some r ∧ p.asTypes.toTy.isIn x = some r
  isIn_of_some : ∀ x r, a.isIn x = some r → p.asTypes.toTy.isIn x = some r
  setEq : ∃ r, a.setEq b = some r ∧ p.asTypes.toTy.setEq q.asTypes.toTy = some r
  listEq : p.form = .list → q.form = .list →
    ∃ r, a.listEq b = some r ∧ p.asTypes.toTy.listEq q.asTypes.toTy = some r
  toSet : ∃ s t xs, a.toSet = some s ∧ s.sequence? = some ⟨.set, p.kind, xs⟩ ∧
    p.asTypes.toTy.toSet = some t ∧ t.sequence? = some ⟨.set, .type, xs⟩

theorem sameAsTypes {a b : Ty} {p q : Sequence} (ha : a.sequence? = some p)
    (hb : b.sequence? = some q) (hk : p.kind = q.kind) : SameAsTypes a b p q := by
  obtain ⟨-, hps⟩ := sequence?_eq_some_iff.mp ha
  have hfirsts : Kind.type.firsts [] p.elems = p.kind.firsts [] p.elems :=
    Kind.type_firsts hps fun x hx => absurd hx List.not_mem_nil
  refine ⟨sequence?_asTypes ha, ?_, ?_, setEq_asTypes ha hb hk, ?_, ?_⟩
  · intro x hx
    exact ⟨_, isIn_eq_occurs ha hx, isIn_asTypes ha (isIn_eq_occurs ha hx)⟩
  · intro x r hr
    exact isIn_asTypes ha hr
  · intro hp hq
    obtain ⟨r, hr⟩ := exists_listEq ha hb hk hp hq
    exact ⟨r, hr, (listEq_asTypes ha hb hk).trans hr⟩
  · refine ⟨_, _, p.kind.firsts [] p.elems, toSet_eq ha, sequence?_firsts hps,
      toSet_eq (sequence?_asTypes ha), ?_⟩
    rw [← hfirsts]
    exact sequence?_firsts fun x hx => Kind.type_admits (hps x hx)

/-- Values of a kind can be compared as types, with the answer of their own kind.
    Lists and sets of values can be compared as types too: two of one form and kind
    are equal exactly if their elements are in order, which for lists is their own
    equality, and any other two differ. So a sequence behaves no differently if its
    elements are taken for types. -/
theorem type_equality_refines_kinds :
    (∀ (k : Kind) (a b : Ty), k.admits a = true → k.admits b = true →
      ∃ r, Kind.type.eq a b = some r ∧ k.eq a b = some r) ∧
    (∀ (a b : Ty) (p q : Sequence), a.sequence? = some p → b.sequence? = some q →
      (p.form = q.form → p.kind = q.kind →
        ∃ r, Kind.type.eq a b = some r ∧
          elemsEq p.kind (ofElems p.elems) (ofElems q.elems) = some r ∧
          (p.form = .list → a.listEq b = some r)) ∧
      (p.form ≠ q.form ∨ p.kind ≠ q.kind → Kind.type.eq a b = some false) ∧
      (p.kind = q.kind → SameAsTypes a b p q)) := by
  constructor
  · intro k a b ha hb
    obtain ⟨r, hr⟩ := Kind.exists_eq ha hb
    exact ⟨r, (Kind.type_eq_of_admits ha hb).trans hr, hr⟩
  · intro a b p q ha hb
    obtain ⟨-, hps⟩ := sequence?_eq_some_iff.mp ha
    obtain ⟨-, hqs⟩ := sequence?_eq_some_iff.mp hb
    refine ⟨fun hform hkind => ?_, fun hdiff => ?_, sameAsTypes ha hb⟩
    · obtain ⟨r, hr, -⟩ := exists_elemsEq hps (hkind ▸ hqs)
      have htype : Kind.type.eq a b = some r := by
        rw [type_eq_toTy ha hb, if_pos ⟨hform, hkind⟩, hr]
      refine ⟨r, htype, hr, fun hlist => ?_⟩
      rw [listEq_eq ha hb, if_pos ⟨hlist, hform ▸ hlist, hkind⟩, hr]
    · rw [type_eq_toTy ha hb, if_neg]
      rintro ⟨hform, hkind⟩
      exact hdiff.elim (absurd hform) (absurd hkind)

/-- A digit more makes another integer, also among types; a list with a repetition
    equals itself and no set, and can be taken for a list of types. -/
theorem type_equality_refines_kinds_at_integers :
    (∃ r, Kind.type.eq (ofIntDigits [1]) (ofIntDigits [1, 0]) = some r ∧
      Kind.int.eq (ofIntDigits [1]) (ofIntDigits [1, 0]) = some r) ∧
    (∃ r, Kind.type.eq (Sequence.toTy ⟨.list, .int, [intLit 3, intLit (-1), intLit 3]⟩)
        (Sequence.toTy ⟨.list, .int, [intLit 3, intLit (-1), intLit 3]⟩) = some r ∧
      (Sequence.toTy ⟨.list, .int, [intLit 3, intLit (-1), intLit 3]⟩).listEq
        (Sequence.toTy ⟨.list, .int, [intLit 3, intLit (-1), intLit 3]⟩) = some r) ∧
    Kind.type.eq (Sequence.toTy ⟨.list, .int, [intLit 3, intLit (-1), intLit 3]⟩)
      (Sequence.toTy ⟨.set, .int, [intLit (-1), intLit 3]⟩) = some false ∧
    SameAsTypes (Sequence.toTy ⟨.list, .int, [intLit 3, intLit (-1), intLit 3]⟩)
      (Sequence.toTy ⟨.set, .int, [intLit (-1), intLit 3]⟩)
      ⟨.list, .int, [intLit 3, intLit (-1), intLit 3]⟩ ⟨.set, .int, [intLit (-1), intLit 3]⟩ := by
  have hlist : (Sequence.toTy ⟨.list, .int, [intLit 3, intLit (-1), intLit 3]⟩).sequence? =
      some ⟨.list, .int, [intLit 3, intLit (-1), intLit 3]⟩ := by decide +kernel
  have hset : (Sequence.toTy ⟨.set, .int, [intLit (-1), intLit 3]⟩).sequence? =
      some ⟨.set, .int, [intLit (-1), intLit 3]⟩ := by decide +kernel
  obtain ⟨hkinds, hsequences⟩ := type_equality_refines_kinds
  obtain ⟨-, hdiffer, hsame⟩ := hsequences _ _ _ _ hlist hset
  refine ⟨hkinds .int _ _ (by decide) (by decide), ?_, hdiffer (Or.inl (by decide)), hsame rfl⟩
  obtain ⟨r, htype, -, hlistEq⟩ := (hsequences _ _ _ _ hlist hlist).1 rfl rfl
  exact ⟨r, htype, hlistEq rfl⟩

end Ty

end KindSeq
