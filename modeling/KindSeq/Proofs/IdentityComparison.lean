/-
  KindSeq.Proofs.IdentityComparison

  Comparison of identity trees. What a comparison sees of a tree is its shape
  and the first sixteen nibbles of each name, collected in an `IdTree`. Two
  trees compare as equal exactly if they show the same `IdTree`, so the
  comparison is an equivalence with no assumption on hashes. Whether it exists
  at all is a matter of sorts: an identity can be compared with an identity and
  a list of identities with a list of identities, and the identities of types
  are built that way.
-/

import KindSeq.Proofs.StreamComparison
import KindSeq.Proofs.TypeIdentity

namespace KindSeq

/-- What a comparison sees of an identity tree. -/
inductive IdTree where
  /-- The first sixteen nibbles of a name's stream. -/
  | name (nibbles : List Nibble)
  | applied (ctor args : IdTree)
  | nil
  | cons (head tail : IdTree)
  deriving DecidableEq

namespace Ty

/-- Whether a term is built from names, applications and lists of identities,
    whatever the names hold. -/
def isIdTree : Ty → Bool
  | .named _ => true
  | .applied c xs => c.isIdTree && xs.isIdTree
  | .idNil => true
  | .idCons h t => h.isIdTree && t.isIdTree
  | _ => false

/-- What the names of an identity tree hold, from left to right. -/
def leaves : Ty → List Ty
  | .named s => [s]
  | .applied c xs => c.leaves ++ xs.leaves
  | .idCons h t => h.leaves ++ t.leaves
  | _ => []

/-- What a comparison sees of a term; nothing if a name holds no stream. -/
def idTree? : Ty → Option IdTree
  | .named s => s.stream?.map fun x => .name (x.take 16)
  | .applied c xs => do
    let t ← c.idTree?
    let ts ← xs.idTree?
    return .applied t ts
  | .idNil => some .nil
  | .idCons h t => do
    let i ← h.idTree?
    let is ← t.idTree?
    return .cons i is
  | _ => none

/-! ## Trees and their terms -/

@[simp] theorem idTree?_named_eq_some {s : Ty} {x : IdTree} :
    (named s).idTree? = some x ↔ ∃ y, s.stream? = some y ∧ .name (y.take 16) = x :=
  Option.map_eq_some_iff

@[simp] theorem idTree?_applied_eq_some {c xs : Ty} {x : IdTree} :
    (applied c xs).idTree? = some x ↔
      ∃ t, c.idTree? = some t ∧ ∃ ts, xs.idTree? = some ts ∧ .applied t ts = x := by
  show (c.idTree?.bind fun t => xs.idTree?.bind fun ts => some (.applied t ts)) = some x ↔ _
  simp only [Option.bind_eq_some_iff, Option.some.injEq]

@[simp] theorem idTree?_idNil : idNil.idTree? = some .nil := rfl

@[simp] theorem idTree?_idCons_eq_some {h t : Ty} {x : IdTree} :
    (idCons h t).idTree? = some x ↔
      ∃ i, h.idTree? = some i ∧ ∃ is, t.idTree? = some is ∧ .cons i is = x := by
  show (h.idTree?.bind fun i => t.idTree?.bind fun is => some (.cons i is)) = some x ↔ _
  simp only [Option.bind_eq_some_iff, Option.some.injEq]

/-- The terms that show a tree, and what they show. -/
theorem idTree?_cases {a : Ty} {x : IdTree} (h : a.idTree? = some x) :
    (∃ s y, a = named s ∧ s.stream? = some y ∧ .name (y.take 16) = x) ∨
    (∃ c xs t ts, a = applied c xs ∧ c.idTree? = some t ∧ xs.idTree? = some ts ∧
      .applied t ts = x) ∨
    (a = idNil ∧ .nil = x) ∨
    ∃ e es i is, a = idCons e es ∧ e.idTree? = some i ∧ es.idTree? = some is ∧
      .cons i is = x := by
  cases a with
  | named s =>
    obtain ⟨y, hy, hx⟩ := idTree?_named_eq_some.mp h
    exact Or.inl ⟨s, y, rfl, hy, hx⟩
  | applied c xs =>
    obtain ⟨t, ht, ts, hts, hx⟩ := idTree?_applied_eq_some.mp h
    exact Or.inr (Or.inl ⟨c, xs, t, ts, rfl, ht, hts, hx⟩)
  | idNil => exact Or.inr (Or.inr (Or.inl ⟨rfl, Option.some.inj h⟩))
  | idCons e es =>
    obtain ⟨i, hi, is, his, hx⟩ := idTree?_idCons_eq_some.mp h
    exact Or.inr (Or.inr (Or.inr ⟨e, es, i, is, rfl, hi, his, hx⟩))
  | _ => exact absurd h (Option.some_ne_none x).symm

/-! The root of the tree that a term shows fixes the root of the term. -/

theorem eq_named_of_idTree? {a : Ty} {ns : List Nibble} (h : a.idTree? = some (.name ns)) :
    ∃ s, a = named s ∧ ∃ y, s.stream? = some y ∧ y.take 16 = ns := by
  rcases idTree?_cases h with ⟨s, y, ha, hy, hx⟩ | ⟨_, _, _, _, _, _, _, hx⟩ | ⟨_, hx⟩ |
    ⟨_, _, _, _, _, _, _, hx⟩
  · exact ⟨s, ha, y, hy, IdTree.name.inj hx⟩
  all_goals cases hx

theorem eq_applied_of_idTree? {a : Ty} {t ts : IdTree} (h : a.idTree? = some (.applied t ts)) :
    ∃ c xs, a = applied c xs ∧ c.idTree? = some t ∧ xs.idTree? = some ts := by
  rcases idTree?_cases h with ⟨_, _, _, _, hx⟩ | ⟨c, xs, t', ts', ha, ht, hts, hx⟩ | ⟨_, hx⟩ |
    ⟨_, _, _, _, _, _, _, hx⟩
  all_goals cases hx
  exact ⟨c, xs, ha, ht, hts⟩

theorem eq_idNil_of_idTree? {a : Ty} (h : a.idTree? = some .nil) : a = idNil := by
  rcases idTree?_cases h with ⟨_, _, _, _, hx⟩ | ⟨_, _, _, _, _, _, _, hx⟩ | ⟨ha, _⟩ |
    ⟨_, _, _, _, _, _, _, hx⟩
  case inr.inr.inl => exact ha
  all_goals cases hx

theorem eq_idCons_of_idTree? {a : Ty} {i is : IdTree} (h : a.idTree? = some (.cons i is)) :
    ∃ e es, a = idCons e es ∧ e.idTree? = some i ∧ es.idTree? = some is := by
  rcases idTree?_cases h with ⟨_, _, _, _, hx⟩ | ⟨_, _, _, _, _, _, _, hx⟩ | ⟨_, hx⟩ |
    ⟨e, es, i', is', ha, hi, his, hx⟩
  all_goals cases hx
  exact ⟨e, es, ha, hi, his⟩

/-- A tree can be seen exactly if every name holds a stream. -/
theorem isSome_idTree?_iff {a : Ty} (ha : a.isIdTree = true) :
    a.idTree?.isSome = true ↔ ∀ s ∈ a.leaves, s.stream?.isSome = true := by
  fun_induction isIdTree a with
  | case1 s => simp [idTree?, leaves]
  | case2 c xs ihc ihxs =>
    obtain ⟨hc, hxs⟩ := Bool.and_eq_true _ _ |>.mp ha
    rw [leaves, List.forall_mem_append, ← ihc hc, ← ihxs hxs]
    simp [Option.isSome_iff_exists]
  | case3 => simp [leaves]
  | case4 h t ihh iht =>
    obtain ⟨hh, ht⟩ := Bool.and_eq_true _ _ |>.mp ha
    rw [leaves, List.forall_mem_append, ← ihh hh, ← iht ht]
    simp [Option.isSome_iff_exists]
  | case5 => exact absurd ha (by simp)

/-! ## Comparison -/

/-- Names are compared by sixteen nibbles of what they hold. -/
theorem idEq_named (s t : Ty) :
    idEq (named s) (named t) =
      s.stream?.bind fun x => t.stream?.map fun y => decide (x.take 16 = y.take 16) :=
  streamEq_depth s t

/-- Two results are joined by a conjunction that needs both of them. -/
theorem both_eq_some_iff {x y : Option Bool} {r : Bool} :
    (do let p ← x; let q ← y; return p && q) = some r ↔
      ∃ p, x = some p ∧ ∃ q, y = some q ∧ (p && q) = r := by
  simp [Option.bind_eq_some_iff]

theorem false_or_false_of_both {x y : Option Bool}
    (h : (do let p ← x; let q ← y; return p && q) = some false) :
    x = some false ∨ y = some false := by
  obtain ⟨p, rfl, q, rfl, hpq⟩ := both_eq_some_iff.mp h
  rcases Bool.and_eq_false_iff.mp hpq with rfl | rfl
  · exact Or.inl rfl
  · exact Or.inr rfl

/-- Terms that compare as equal show the same tree. -/
theorem exists_idTree?_of_idEq {a b : Ty} (h : idEq a b = some true) :
    ∃ x, a.idTree? = some x ∧ b.idTree? = some x := by
  fun_induction idEq a b with
  | case1 s t =>
    rw [streamEq_depth, Option.bind_eq_some_iff] at h
    obtain ⟨x, hx, h⟩ := h
    obtain ⟨y, hy, hxy⟩ := Option.map_eq_some_iff.mp h
    refine ⟨.name (x.take 16), by simp [hx], ?_⟩
    simp [hy, of_decide_eq_true hxy]
  | case2 s c xs => exact absurd h (by simp)
  | case3 c xs s => exact absurd h (by simp)
  | case4 c xs d ys ihc ihxs =>
    obtain ⟨p, hp, q, hq, hpq⟩ := both_eq_some_iff.mp h
    obtain ⟨rfl, rfl⟩ := Bool.and_eq_true _ _ |>.mp hpq
    obtain ⟨t, hc, hd⟩ := ihc hp
    obtain ⟨ts, hxs, hys⟩ := ihxs hq
    exact ⟨.applied t ts, by simp [hc, hxs], by simp [hd, hys]⟩
  | case5 => exact ⟨.nil, rfl, rfl⟩
  | case6 e es => exact absurd h (by simp)
  | case7 e es => exact absurd h (by simp)
  | case8 e es e' es' ihe ihes =>
    obtain ⟨p, hp, q, hq, hpq⟩ := both_eq_some_iff.mp h
    obtain ⟨rfl, rfl⟩ := Bool.and_eq_true _ _ |>.mp hpq
    obtain ⟨i, he, he'⟩ := ihe hp
    obtain ⟨is, hes, hes'⟩ := ihes hq
    exact ⟨.cons i is, by simp [he, hes], by simp [he', hes']⟩
  | case9 => exact absurd h (by simp)

/-- Terms that show the same tree compare as equal. -/
theorem idEq_of_idTree? {a b : Ty} {x : IdTree} (ha : a.idTree? = some x)
    (hb : b.idTree? = some x) : idEq a b = some true := by
  -- The tree fixes the roots of both terms, so the induction is on the tree.
  induction x generalizing a b with
  | name ns =>
    obtain ⟨s, rfl, y, hy, rfl⟩ := eq_named_of_idTree? ha
    obtain ⟨t, rfl, z, hz, hzy⟩ := eq_named_of_idTree? hb
    simp [idEq_named, hy, hz, hzy]
  | applied t ts iht ihts =>
    obtain ⟨c, xs, rfl, hc, hxs⟩ := eq_applied_of_idTree? ha
    obtain ⟨d, ys, rfl, hd, hys⟩ := eq_applied_of_idTree? hb
    exact both_eq_some_iff.mpr ⟨true, iht hc hd, true, ihts hxs hys, rfl⟩
  | nil =>
    obtain rfl := eq_idNil_of_idTree? ha
    obtain rfl := eq_idNil_of_idTree? hb
    rfl
  | cons i is ihi ihis =>
    obtain ⟨e, es, rfl, he, hes⟩ := eq_idCons_of_idTree? ha
    obtain ⟨e', es', rfl, he', hes'⟩ := eq_idCons_of_idTree? hb
    exact both_eq_some_iff.mpr ⟨true, ihi he he', true, ihis hes hes', rfl⟩

theorem idEq_eq_true_iff {a b : Ty} :
    idEq a b = some true ↔ ∃ x, a.idTree? = some x ∧ b.idTree? = some x :=
  ⟨exists_idTree?_of_idEq, fun ⟨_, ha, hb⟩ => idEq_of_idTree? ha hb⟩

theorem idEq_comm (a b : Ty) : idEq a b = idEq b a := by
  fun_induction idEq a b with
  | case1 s t =>
    rw [streamEq_depth, idEq_named]
    cases s.stream? <;> cases t.stream? <;> simp [eq_comm]
  | case2 s c xs => rfl
  | case3 c xs s => rfl
  | case4 c xs d ys ihc ihxs => rw [ihc, ihxs, idEq]
  | case5 => rfl
  | case6 e es => rfl
  | case7 e es => rfl
  | case8 e es e' es' ihe ihes => rw [ihe, ihes, idEq]
  | case9 a b h1 h2 h3 h4 h5 h6 h7 h8 =>
    -- No rule fits the pair, so none fits it the other way round.
    fun_cases idEq b a with
    | case1 t s => exact (h1 s t rfl rfl).elim
    | case2 t c xs => exact (h3 c xs t rfl rfl).elim
    | case3 d ys s => exact (h2 s d ys rfl rfl).elim
    | case4 d ys c xs => exact (h4 c xs d ys rfl rfl).elim
    | case5 => exact (h5 rfl rfl).elim
    | case6 e es => exact (h7 e es rfl rfl).elim
    | case7 e es => exact (h6 e es rfl rfl).elim
    | case8 e' es' e es => exact (h8 e es e' es' rfl rfl).elim
    | case9 => rfl

theorem idEq_trans {a b c : Ty} (hab : idEq a b = some true) (hbc : idEq b c = some true) :
    idEq a c = some true := by
  obtain ⟨x, ha, hb⟩ := exists_idTree?_of_idEq hab
  obtain ⟨y, hb', hc⟩ := exists_idTree?_of_idEq hbc
  obtain rfl : x = y := Option.some.inj (hb.symm.trans hb')
  exact idEq_of_idTree? ha hc

/-- A term never differs from itself. -/
theorem idEq_self_ne_false (a : Ty) : idEq a a ≠ some false := by
  intro h
  induction a with
  | named s =>
    rw [idEq_named, Option.bind_eq_some_iff] at h
    obtain ⟨x, hx, h⟩ := h
    simp [hx] at h
  | applied c xs ihc ihxs => exact (false_or_false_of_both h).elim ihc ihxs
  | idNil => exact absurd h (by simp [idEq])
  | idCons e es ihe ihes => exact (false_or_false_of_both h).elim ihe ihes
  | _ => exact absurd h (by simp [idEq])

/-! ## Sorts -/

end Ty

/-- Trees in which an identity stands wherever one is expected, and a list of
    identities wherever a list is. -/
inductive WellSorted : IdSort → Ty → Prop where
  | named {s : Ty} {x : NibbleStream} (h : s.stream? = some x) : WellSorted .single (.named s)
  | applied {c xs : Ty} (hc : WellSorted .single c) (hxs : WellSorted .several xs) :
      WellSorted .single (.applied c xs)
  | idNil : WellSorted .several .idNil
  | idCons {e es : Ty} (he : WellSorted .single e) (hes : WellSorted .several es) :
      WellSorted .several (.idCons e es)

namespace WellSorted

/-- Trees of one sort can be compared. -/
theorem exists_idEq {σ : IdSort} {a b : Ty} (ha : WellSorted σ a) (hb : WellSorted σ b) :
    ∃ r, a.idEq b = some r := by
  induction ha generalizing b with
  | named hs =>
    cases hb with
    | named ht => exact ⟨_, by rw [Ty.idEq_named, hs, ht]; rfl⟩
    | applied hc hxs => exact ⟨false, rfl⟩
  | applied hc hxs ihc ihxs =>
    cases hb with
    | named ht => exact ⟨false, rfl⟩
    | applied hd hys =>
      obtain ⟨p, hp⟩ := ihc hd
      obtain ⟨q, hq⟩ := ihxs hys
      exact ⟨p && q, Ty.both_eq_some_iff.mpr ⟨p, hp, q, hq, rfl⟩⟩
  | idNil =>
    cases hb with
    | idNil => exact ⟨true, rfl⟩
    | idCons he hes => exact ⟨false, rfl⟩
  | idCons he hes ihe ihes =>
    cases hb with
    | idNil => exact ⟨false, rfl⟩
    | idCons he' hes' =>
      obtain ⟨p, hp⟩ := ihe he'
      obtain ⟨q, hq⟩ := ihes hes'
      exact ⟨p && q, Ty.both_eq_some_iff.mpr ⟨p, hp, q, hq, rfl⟩⟩

theorem exists_idTree? {σ : IdSort} {a : Ty} (ha : WellSorted σ a) : ∃ x, a.idTree? = some x := by
  obtain ⟨r, hr⟩ := ha.exists_idEq ha
  cases r with
  | false => exact absurd hr (Ty.idEq_self_ne_false a)
  | true =>
    obtain ⟨x, hx, _⟩ := Ty.exists_idTree?_of_idEq hr
    exact ⟨x, hx⟩

/-- Comparison of trees of one sort is equality of what they show. -/
theorem idEq_eq {σ : IdSort} {a b : Ty} {x y : IdTree} (ha : WellSorted σ a) (hb : WellSorted σ b)
    (hx : a.idTree? = some x) (hy : b.idTree? = some y) : a.idEq b = some (decide (x = y)) := by
  obtain ⟨r, hr⟩ := ha.exists_idEq hb
  have hiff : r = true ↔ x = y := by
    have htrue : a.idEq b = some true ↔ ∃ z, a.idTree? = some z ∧ b.idTree? = some z :=
      Ty.idEq_eq_true_iff
    rw [hr, hx, hy] at htrue
    simpa [eq_comm] using htrue
  rw [hr, Option.some.injEq, Bool.eq_iff_iff, decide_eq_true_iff]
  exact hiff

theorem nameId (name : String) : WellSorted .single (Ty.nameId name) :=
  .named (Ty.stream?_ofStream _)

theorem appliedId {is : Ty} (name : String) (h : WellSorted .several is) :
    WellSorted .single (Ty.appliedId name is) :=
  .applied (nameId name) h

theorem digitIds (ds : Digits) : WellSorted .several (Ty.digitIds ds) := by
  induction ds with
  | nil => exact .idNil
  | cons d ds ih => exact .idCons (.named rfl) ih

end WellSorted

namespace Ty

/-- The identity of a type is one identity, and an element list has a list of
    identities. -/
theorem Identified.wellSorted {σ : IdSort} {t i : Ty} (h : Identified σ t i) : WellSorted σ i := by
  induction h with
  | bool b => exact .nameId _
  | noError => exact .nameId _
  | kind k => exact .nameId _
  | prim p => exact .nameId _
  | int ds => exact .appliedId _ (.digitIds ds)
  | pointer p _ ih => exact .appliedId _ (.idCons ih .idNil)
  | slice _ ih => exact .appliedId _ (.idCons ih .idNil)
  | array _ _ ih =>
    exact .appliedId _ (.idCons ih (.idCons (.appliedId _ (.digitIds _)) .idNil))
  | tuple _ ih => exact .appliedId _ ih
  | fail _ ih => exact .appliedId _ (.idCons ih .idNil)
  | list k _ ih => exact .appliedId _ (.idCons (.nameId _) ih)
  | set k _ ih => exact .appliedId _ (.idCons (.nameId _) ih)
  | nominal d => exact .nameId _
  | generic d _ ih => exact .appliedId _ ih
  | hNil => exact .idNil
  | hCons _ _ ihx ihrest => exact .idCons ihx ihrest

theorem wellSorted_of_id? {t i : Ty} (h : t.id? = some i) : WellSorted .single i :=
  ((identified_of_id? t).1 i h).wellSorted

/-- Comparison of identity trees is an equivalence, whatever the hashes are. It
    is symmetric in its existence and in its value; a tree can be compared with
    itself exactly if every name in it holds a stream, and then equals itself;
    equality is transitive; a comparison that exists holds exactly if both trees
    have one shape and the same first sixteen nibbles at corresponding names. The
    identities of any two types can be compared. -/
theorem idEq_is_equivalence :
    (∀ a b : Ty, idEq a b = idEq b a) ∧
    (∀ a : Ty, a.isIdTree = true →
      ((idEq a a).isSome = true ↔ ∀ s ∈ a.leaves, s.stream?.isSome = true) ∧
      ∀ r, idEq a a = some r → r = true) ∧
    (∀ a b c : Ty, idEq a b = some true → idEq b c = some true → idEq a c = some true) ∧
    (∀ (a b : Ty) (r : Bool), idEq a b = some r →
      (r = true ↔ ∃ x, a.idTree? = some x ∧ b.idTree? = some x)) ∧
    (∀ a b i j : Ty, a.id? = some i → b.id? = some j → ∃ r, idEq i j = some r) := by
  refine ⟨idEq_comm, ?_, fun a b c => idEq_trans, ?_, ?_⟩
  · intro a ha
    have htrue : ∀ r, idEq a a = some r → r = true := by
      intro r hr
      cases r with
      | false => exact absurd hr (idEq_self_ne_false a)
      | true => rfl
    refine ⟨?_, htrue⟩
    rw [← isSome_idTree?_iff ha, Option.isSome_iff_exists, Option.isSome_iff_exists]
    constructor
    · rintro ⟨r, hr⟩
      obtain rfl := htrue r hr
      obtain ⟨x, hx, _⟩ := exists_idTree?_of_idEq hr
      exact ⟨x, hx⟩
    · rintro ⟨x, hx⟩
      exact ⟨true, idEq_of_idTree? hx hx⟩
  · intro a b r hr
    rw [← idEq_eq_true_iff, hr, Option.some.injEq]
  · intro a b i j hi hj
    exact (wellSorted_of_id? hi).exists_idEq (wellSorted_of_id? hj)

/-- A digit's stream shows the same nibbles as the hash stream that repeats the
    digit, and a type can be compared with a slice of it. -/
theorem idEq_is_equivalence_at_digit :
    idEq (named (.constStream (.nibble 3))) (named (.constStream (.nibble 3))) = some true ∧
    (∃ x, (named (.constStream (.nibble 3))).idTree? = some x ∧
      (named (.hashStream (Vector.replicate 16 3))).idTree? = some x) ∧
    (idEq (applied (named .dEnd) .idNil) (applied (named .dEnd) .idNil)).isSome ≠ true ∧
    (∃ r, idEq (nameId "u8") (appliedId "core::primitive::slice" (.idCons (nameId "u8") .idNil))
      = some r) := by
  refine ⟨?_, ?_, ?_, ?_⟩
  · exact idEq_is_equivalence.2.2.1 _ (named (.hashStream (Vector.replicate 16 3))) _
      (by decide +kernel) (by decide +kernel)
  · exact (idEq_is_equivalence.2.2.2.1 _ _ true (by decide +kernel)).mp rfl
  · rw [Ne, (idEq_is_equivalence.2.1 (applied (named .dEnd) .idNil) rfl).1]
    simp [leaves, stream?]
  · exact idEq_is_equivalence.2.2.2.2 (.prim .u8) (.slice (.prim .u8)) _ _ rfl rfl

end Ty

end KindSeq
