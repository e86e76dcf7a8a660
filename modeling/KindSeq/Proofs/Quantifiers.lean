/-
  KindSeq.Proofs.Quantifiers

  Conjunction and disjunction as quantifiers over the elements of a sequence of
  booleans. Neither is a fold: both compare the sequence with its image under a
  constant function. What they say of it depends on one thing only, which of the two
  booleans are among the elements (`all_eq`, `any_eq`), and so every law here is a law
  about that. Sequences that hold the same booleans agree (`all_any_of_mem_iff`), and
  sequences that hold each other's negations are dual (`any_all_of_mem_not_iff`).

  Deduplication keeps what is among the elements, and negation swaps it, for lists
  and for sets: a negated set is deduplicated once more, which is not seen.
-/

import KindSeq.Proofs.FlagCollapse
import KindSeq.Proofs.Union

namespace KindSeq

namespace Mapping

/-- Negation maps every sequence of booleans. -/
theorem applies_negate {xs : List Ty} (hxs : ∀ x ∈ xs, Kind.bool.admits x = true) :
    negate.Applies xs := by
  refine applies_ofTest fun x hx => ?_
  obtain ⟨b, hb⟩ := Option.isSome_iff_exists.mp (hxs x hx)
  exact ⟨! b, by rw [hb, Option.map_some]⟩

/-- A boolean is among the negated elements if its negation is among the elements. -/
theorem mem_values_negate {xs : List Ty} (hxs : ∀ x ∈ xs, Kind.bool.admits x = true) (b : Bool) :
    .bool b ∈ negate.values xs ↔ .bool (! b) ∈ xs := by
  obtain ⟨bs, rfl⟩ := Ty.exists_bools hxs
  have hvalues : negate.values (bs.map Ty.bool) = bs.map fun c => .bool (! c) := by
    rw [values, List.map_map]
    rfl
  rw [hvalues, List.mem_map, List.mem_map]
  constructor
  · rintro ⟨c, hc, hcb⟩
    have hb : (! c) = b := Ty.bool.inj hcb
    exact ⟨c, hc, by rw [← hb, Bool.not_not]⟩
  · rintro ⟨c, hc, hcb⟩
    have hb : c = ! b := Ty.bool.inj hcb
    exact ⟨c, hc, by rw [hb, Bool.not_not]⟩

end Mapping

namespace Ty

section Booleans

variable {s t : Ty} {p q : Sequence}

/-! ## Which booleans are among the elements -/

/-- Elements of a sequence of booleans are true or false. -/
theorem eq_true_or_eq_false (hs : s.sequence? = some q) (hk : q.kind = .bool) :
    ∀ x ∈ q.elems, x = .bool true ∨ x = .bool false := by
  intro x hx
  obtain ⟨-, hadmits⟩ := sequence?_eq_some_iff.mp hs
  rw [hk] at hadmits
  obtain ⟨b, hb⟩ := Option.isSome_iff_exists.mp (hadmits x hx)
  rw [eq_bool_of_bool? hb]
  cases b with
  | false => exact Or.inr rfl
  | true => exact Or.inl rfl

theorem all_eq_true_iff (hs : s.sequence? = some q) (hk : q.kind = .bool) :
    s.all = some true ↔ ∀ x ∈ q.elems, x = .bool true := by
  rw [all_eq hs hk, Option.some.injEq, decide_eq_true_iff]
  constructor
  · intro hfalse x hx
    rcases eq_true_or_eq_false hs hk x hx with htrue | rfl
    · exact htrue
    · exact absurd hx hfalse
  · intro htrue hfalse
    exact absurd (htrue _ hfalse) (by simp)

theorem any_eq_true_iff (hs : s.sequence? = some q) (hk : q.kind = .bool) :
    s.any = some true ↔ ∃ x ∈ q.elems, x = .bool true := by
  rw [any_eq hs hk, Option.some.injEq, decide_eq_true_iff, exists_eq_right]

/-- Sequences that hold the same booleans have one conjunction and one disjunction. -/
theorem all_any_of_mem_iff (hs : s.sequence? = some q) (hk : q.kind = .bool)
    (ht : t.sequence? = some p) (hp : p.kind = .bool)
    (h : ∀ b : Bool, .bool b ∈ p.elems ↔ .bool b ∈ q.elems) : t.all = s.all ∧ t.any = s.any := by
  constructor
  · rw [all_eq ht hp, all_eq hs hk, decide_eq_decide.mpr (not_congr (h false))]
  · rw [any_eq ht hp, any_eq hs hk, decide_eq_decide.mpr (h true)]

/-- Sequences that hold the negations of each other's booleans are dual. -/
theorem any_all_of_mem_not_iff (hs : s.sequence? = some q) (hk : q.kind = .bool)
    (ht : t.sequence? = some p) (hp : p.kind = .bool)
    (h : ∀ b : Bool, .bool b ∈ p.elems ↔ .bool (! b) ∈ q.elems) :
    s.any = t.all.map (! ·) ∧ s.all = t.any.map (! ·) := by
  have hfalse : .bool false ∈ p.elems ↔ .bool true ∈ q.elems := h false
  have htrue : .bool true ∈ p.elems ↔ .bool false ∈ q.elems := h true
  constructor
  · rw [any_eq hs hk, all_eq ht hp, Option.map_some, decide_not, Bool.not_not,
      decide_eq_decide.mpr hfalse]
  · rw [all_eq hs hk, any_eq ht hp, Option.map_some, decide_not, decide_eq_decide.mpr htrue]

/-! ## Laws -/

/-- Negated through a mapping, a sequence of either form is dual to itself. -/
theorem exists_mapped_negate (hs : s.sequence? = some q) (hk : q.kind = .bool) :
    ∃ m, s.mapped .negate = some m ∧ s.any = m.all.map (! ·) ∧ s.all = m.any.map (! ·) := by
  obtain ⟨hterm, hxs⟩ := sequence?_eq_some_iff.mp hs
  rw [hk] at hxs
  have happlies := Mapping.applies_negate hxs
  have hshape : s.shape? = some q := by rw [hterm, shape?_toTy]
  refine ⟨(q.image .negate).toTy, (mapped_eq_some_iff hshape).mpr ⟨happlies, rfl⟩, ?_⟩
  refine any_all_of_mem_not_iff hs hk (Sequence.sequence?_image happlies) rfl fun b => ?_
  -- A set collapses equal flags, but it still holds them.
  rw [Sequence.mem_image_iff rfl happlies, Mapping.mem_values_negate hxs]

theorem exists_toSet_all_any (hs : s.sequence? = some q) (hk : q.kind = .bool) :
    ∃ u, s.toSet = some u ∧ u.all = s.all ∧ u.any = s.any := by
  obtain ⟨-, hxs⟩ := sequence?_eq_some_iff.mp hs
  -- Booleans are told apart without a look at names.
  have hne : q.kind ≠ .type := by
    rw [hk]
    decide
  have hdiscrete : q.kind.Discrete q.elems :=
    Kind.discrete_of_separated fun htype => absurd htype hne
  refine ⟨_, toSet_eq hs, all_any_of_mem_iff hs hk (sequence?_firsts hxs) hk fun b => ?_⟩
  exact Kind.mem_firsts_iff hxs hdiscrete

theorem exists_concat_all_any {xs ys : List Ty} (hs : s.sequence? = some ⟨.list, .bool, xs⟩)
    (ht : t.sequence? = some ⟨.list, .bool, ys⟩) :
    ∃ c x y x' y', s.concat t = some c ∧ s.all = some x ∧ t.all = some y ∧
      c.all = some (x && y) ∧ s.any = some x' ∧ t.any = some y' ∧ c.any = some (x' || y') := by
  obtain ⟨c, hc, hcs⟩ := exists_concat hs ht
  -- False is missing from both lists together if it is missing from each.
  have hfalse : .bool false ∉ xs ++ ys ↔ .bool false ∉ xs ∧ .bool false ∉ ys := by
    rw [List.mem_append, not_or]
  refine ⟨c, _, _, _, _, hc, all_eq hs rfl, all_eq ht rfl, ?_, any_eq hs rfl, any_eq ht rfl, ?_⟩
  · rw [all_eq hcs rfl, decide_eq_decide.mpr hfalse, Bool.decide_and]
  · rw [any_eq hcs rfl, decide_eq_decide.mpr List.mem_append, Bool.decide_or]

end Booleans

/-- Conjunction and disjunction exist for the sequences of booleans and for nothing
    else. The one is true if every element is, the other if some element is. Mapped by
    negation, a sequence has them exchanged and negated, whether it is a list or a set.
    Taking the set changes neither. Those of two lists joined are the conjunction and the
    disjunction of theirs. -/
theorem all_and_any_are_quantifiers (s : Ty) :
    ((∃ r, s.all = some r) ↔ ∃ q, s.sequence? = some q ∧ q.kind = .bool) ∧
    ((∃ r, s.any = some r) ↔ ∃ q, s.sequence? = some q ∧ q.kind = .bool) ∧
    ∀ q, s.sequence? = some q → q.kind = .bool →
      (s.all = some true ↔ ∀ x ∈ q.elems, x = .bool true) ∧
      (s.any = some true ↔ ∃ x ∈ q.elems, x = .bool true) ∧
      (∃ m, Op.mapped.eval [s, .fn .negate] = some m ∧
        s.any = m.all.map (! ·) ∧ s.all = m.any.map (! ·)) ∧
      (∃ u, s.toSet = some u ∧ u.all = s.all ∧ u.any = s.any) ∧
      ∀ (t : Ty) (ys : List Ty), q.form = .list → t.sequence? = some ⟨.list, .bool, ys⟩ →
        ∃ c x y x' y', s.concat t = some c ∧ s.all = some x ∧ t.all = some y ∧
          c.all = some (x && y) ∧ s.any = some x' ∧ t.any = some y' ∧
          c.any = some (x' || y') := by
  refine ⟨exists_all_iff, exists_any_iff, fun q hs hk => ?_⟩
  refine ⟨all_eq_true_iff hs hk, any_eq_true_iff hs hk, exists_mapped_negate hs hk,
    exists_toSet_all_any hs hk, fun t ys hform ht => ?_⟩
  obtain ⟨form, k, xs⟩ := q
  obtain rfl : form = .list := hform
  obtain rfl : k = .bool := hk
  exact exists_concat_all_any hs ht

/-- A set of booleans that was spelled with a repetition, negated to a set of two; and a
    list of integers, which has no conjunction even if it is empty. -/
theorem all_and_any_are_quantifiers_at_repetition :
    (∃ m, Op.mapped.eval [Sequence.toTy ⟨.set, .bool, [.bool true, .bool false, .bool true]⟩,
        .fn .negate] = some m ∧
      m = Sequence.toTy ⟨.set, .bool, [.bool false, .bool true]⟩ ∧
      (Sequence.toTy ⟨.set, .bool, [.bool true, .bool false, .bool true]⟩).any =
        m.all.map (! ·)) ∧
    (Sequence.toTy ⟨.set, .bool, [.bool true, .bool false, .bool true]⟩).all ≠ some true ∧
    ¬∃ r, (list (.kind .int) .hNil).all = some r := by
  have hset : (Sequence.toTy ⟨.set, .bool, [.bool true, .bool false, .bool true]⟩).sequence? =
      some ⟨.set, .bool, [.bool true, .bool false, .bool true]⟩ := by decide +kernel
  obtain ⟨-, -, hlaws⟩ := all_and_any_are_quantifiers
    (Sequence.toTy ⟨.set, .bool, [.bool true, .bool false, .bool true]⟩)
  obtain ⟨hall, -, ⟨m, hm, hany, -⟩, -⟩ := hlaws _ hset rfl
  obtain ⟨hexists, -⟩ := all_and_any_are_quantifiers (list (.kind .int) .hNil)
  refine ⟨⟨m, hm, Option.some.inj (hm.symm.trans (by decide +kernel)), hany⟩, ?_, ?_⟩
  · rw [Ne, hall]
    decide
  · rw [hexists]
    rintro ⟨q, hq, hk⟩
    obtain ⟨rfl⟩ : some ⟨.list, .int, []⟩ = some q := hq
    exact absurd hk (by decide)

end Ty

end KindSeq
