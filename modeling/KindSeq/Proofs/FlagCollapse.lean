/-
  KindSeq.Proofs.FlagCollapse

  A test on a sequence gives a flag for every element. Membership and inclusion
  work on the list of these flags; the same tests, spelled as a mapping that is then
  aggregated, work on the mapped sequence, and a mapped set holds each flag at most
  once. Conjunction and disjunction do not see the difference, because they only ask
  whether a boolean is among the elements (`all_image`, `any_image`). So inclusion is
  the conjunction and membership the disjunction of the mapped flags
  (`isSubset_eq_all`, `isIn_eq_any`), whatever the form of the sequence.

  The spelled-out tests are type expressions (`Expr.setEqByFlags`,
  `Expr.isInByFlags`), and are evaluated as such.
-/

import KindSeq.Program.Expr
import KindSeq.Proofs.IdentityAgreement

namespace KindSeq

/-! ## Flags -/

namespace Sequence

/-- A mapped sequence holds the flags of the elements, a mapped set once each. -/
theorem mem_image_iff {q : Sequence} {f : Mapping} {v : Ty} (hf : f.target = .bool)
    (h : f.Applies q.elems) : v ∈ (q.image f).elems ↔ v ∈ f.values q.elems := by
  -- Booleans are told apart without a look at names.
  have hd : f.target.Discrete (f.values q.elems) := by
    rw [hf]
    exact Kind.discrete_of_separated fun hk => absurd hk (by decide)
  obtain ⟨form, k, xs⟩ := q
  cases form with
  | list => rfl
  | set => exact Kind.mem_firsts_iff (fun v hv => Mapping.admits_of_mem_values h hv) hd

/-- A mapped set of flags has at most two of them. -/
theorem length_image_le_two {q : Sequence} {f : Mapping} (hq : q.form = .set)
    (hf : f.target = .bool) (h : f.Applies q.elems) : (q.image f).elems.length ≤ 2 := by
  have helems : (q.image f).elems = f.target.firsts [] (f.values q.elems) := by
    simp [image, hq]
  have hadmits : ∀ v ∈ (q.image f).elems, f.target.admits v = true := by
    rw [helems]
    exact Kind.admits_of_mem_firsts fun v hv => Mapping.admits_of_mem_values h hv
  have hnodup : (q.image f).elems.Nodup := by
    rw [helems] at hadmits ⊢
    exact (f.target.distinct_firsts [] _).nodup hadmits
  have hbools : (q.image f).elems ⊆ [.bool true, .bool false] := by
    intro v hv
    have hv' := hadmits v hv
    rw [hf] at hv'
    obtain ⟨b, hb⟩ := Option.isSome_iff_exists.mp hv'
    rw [Ty.eq_bool_of_bool? hb]
    cases b <;> simp
  exact (List.subperm_of_subset hnodup hbools).length_le

end Sequence

namespace Ty

/-- Conjunction does not see whether equal flags were collapsed. -/
theorem all_image {q : Sequence} {f : Mapping} (hf : f.target = .bool)
    (h : f.Applies q.elems) :
    (q.image f).toTy.all = (Sequence.toTy ⟨.list, f.target, f.values q.elems⟩).all := by
  rw [all_eq (Sequence.sequence?_image h) hf, all_eq (sequence?_values h) hf, Option.some.injEq,
    decide_eq_decide, Sequence.mem_image_iff hf h]

/-- Disjunction does not see whether equal flags were collapsed. -/
theorem any_image {q : Sequence} {f : Mapping} (hf : f.target = .bool)
    (h : f.Applies q.elems) :
    (q.image f).toTy.any = (Sequence.toTy ⟨.list, f.target, f.values q.elems⟩).any := by
  rw [any_eq (Sequence.sequence?_image h) hf, any_eq (sequence?_values h) hf, Option.some.injEq,
    decide_eq_decide, Sequence.mem_image_iff hf h]

/-- Inclusion is the conjunction of the mapped membership flags. -/
theorem isSubset_eq_all {a b : Ty} {p : Sequence} (ha : a.sequence? = some p)
    (h : (Mapping.memberOf b).Applies p.elems) :
    a.isSubset b = (p.image (.memberOf b)).toTy.all := by
  rw [all_image rfl h, isSubset, ha, Option.bind_eq_bind, Option.bind_some, Mapping.mapElems_eq,
    if_pos h]
  rfl

/-- Membership is the disjunction of the mapped comparison flags. -/
theorem isIn_eq_any {s x : Ty} {q : Sequence} (hs : s.sequence? = some q)
    (hx : x.isSized = true) (h : (Mapping.equalTo q.kind x).Applies q.elems) :
    s.isIn x = (q.image (.equalTo q.kind x)).toTy.any := by
  rw [any_image rfl h, isIn, hs, Option.bind_eq_bind, Option.bind_some, if_pos hx,
    Mapping.mapElems_eq, if_pos h]
  rfl

theorem isSized_memberOf {s : Ty} : (memberOf s).isSized = s.isSized :=
  Bool.and_true s.isSized

theorem isSized_equalTo {k : Kind} {x : Ty} : (equalTo (.kind k) x).isSized = x.isSized :=
  Bool.and_true x.isSized

/-- What the test `f` says of a sequence: one flag for each element, which a mapped
    list keeps, and of which a mapped set holds at most two. -/
def FlagsOf (s : Ty) (q : Sequence) (f : Mapping) : Prop :=
  ∃ flags m ys, f.mapElems q.elems = some (flags, .clear) ∧ flags.length = q.elems.length ∧
    s.mapped f = some m ∧ m.sequence? = some ⟨q.form, .bool, ys⟩ ∧
    (q.form = .list → ys = flags) ∧ (q.form = .set → ys.length ≤ 2)

theorem flagsOf_ofTest {s : Ty} {q : Sequence} {test : Ty → Option Bool}
    (hs : s.sequence? = some q) (h : (Mapping.ofTest test).Applies q.elems) :
    s.FlagsOf q (.ofTest test) := by
  obtain ⟨rfl, -⟩ := sequence?_eq_some_iff.mp hs
  have hflags : (Mapping.ofTest test).mapElems q.elems =
      some (q.elems.map fun x => .bool ((test x).getD false), .clear) := by
    refine Mapping.mapElems_ofTest fun x hx => ?_
    obtain ⟨o, ho⟩ := Option.isSome_iff_exists.mp (h x hx)
    obtain ⟨b, hb, -⟩ := Option.map_eq_some_iff.mp ho
    rw [hb, Option.getD_some]
  have hvalues := hflags
  rw [Mapping.mapElems_eq, if_pos h, Option.some.injEq, Prod.mk.injEq] at hvalues
  refine ⟨_, _, (q.image (.ofTest test)).elems, hflags, List.length_map _,
    (mapped_eq_some_iff (shape?_toTy q)).mpr ⟨h, rfl⟩, Sequence.sequence?_image h, ?_, ?_⟩
  · intro hlist
    rw [← hvalues.1]
    simp [Sequence.image, hlist]
  · intro hset
    exact Sequence.length_image_le_two hset rfl h

end Ty

/-! ## Evaluation -/

namespace Expr

variable {env : Env} {op : Op} {e e' : Expr} {t t' r : Ty}

theorem applyOp_eq_ok {ts : List Ty} (hsized : ∀ t ∈ ts, t.isSized = true)
    (hop : op.eval ts = some r) : applyOp op ts = .ok r := by
  have hall : (op.takesUnsized || ts.all Ty.isSized) = true := by
    rw [List.all_eq_true.mpr hsized, Bool.or_true]
  rw [applyOp, if_pos hall, hop]

theorem eval_unary (he : e.eval env = .ok t) (ht : t.isSized = true)
    (hop : op.eval [t] = some r) : (apply op [e]).eval env = .ok r := by
  have hargs : evalAll env [e] = .ok [t] := by
    rw [evalAll, he]
    rfl
  rw [eval, hargs]
  exact applyOp_eq_ok (by simpa using ht) hop

theorem eval_binary (he : e.eval env = .ok t) (he' : e'.eval env = .ok t')
    (ht : t.isSized = true) (ht' : t'.isSized = true) (hop : op.eval [t, t'] = some r) :
    (apply op [e, e']).eval env = .ok r := by
  have hargs : evalAll env [e, e'] = .ok [t, t'] := by
    rw [evalAll, evalAll, he, he']
    rfl
  rw [eval, hargs]
  exact applyOp_eq_ok (by simpa using ⟨ht, ht'⟩) hop

/-- A mapped sequence, as an expression. -/
theorem eval_mapped {s : Ty} {q : Sequence} {f : Mapping} (he : e.eval env = .ok s)
    (he' : e'.eval env = .ok t') (ht' : t'.isSized = true) (hs : s.sequence? = some q)
    (hf : t'.mapping? = some f) (h : f.Applies q.elems) :
    (apply .mapped [e, e']).eval env = .ok (q.image f).toTy := by
  have hsized := Ty.isSized_of_sequence? hs
  obtain ⟨rfl, -⟩ := Ty.sequence?_eq_some_iff.mp hs
  refine eval_binary he he' hsized ht' ?_
  show (t'.mapping?.bind fun m => q.toTy.mapped m) = some (q.image f).toTy
  rw [hf, Option.bind_some, Ty.mapped_eq f (Ty.shape?_toTy q), if_pos h]

/-- Whether every element of `l` is in `r`, by the flags that membership maps `l` to. -/
def isSubsetByFlags (l r : Expr) : Expr :=
  .apply .all [.apply .mapped [l, .apply .memberOf [r]]]

/-- Whether `l` and `r` have the same members, by inclusion both ways. -/
def setEqByFlags (l r : Expr) : Expr :=
  .apply .and [isSubsetByFlags l r, isSubsetByFlags r l]

/-- Whether `e` is in `s`, by the flags that comparison with it maps `s` to. -/
def isInByFlags (k : Kind) (s e : Expr) : Expr :=
  .apply .any [.apply .mapped [s, .apply .equalTo [.term (.kind k), e]]]

/-- The inclusion that is spelled through flags is inclusion. -/
theorem eval_isSubsetByFlags {a b : Ty} {p q : Sequence} {c : Bool} (he : e.eval env = .ok a)
    (he' : e'.eval env = .ok b) (ha : a.sequence? = some p) (hb : b.sequence? = some q)
    (hk : p.kind = q.kind) (hc : a.isSubset b = some c) :
    (isSubsetByFlags e e').eval env = .ok (.bool c) := by
  obtain ⟨-, hps⟩ := Ty.sequence?_eq_some_iff.mp ha
  have happlies : (Mapping.memberOf b).Applies p.elems :=
    Mapping.applies_memberOf hb (hk ▸ hps)
  have hmember : (apply .memberOf [e']).eval env = .ok (.memberOf b) :=
    eval_unary he' (Ty.isSized_of_sequence? hb) rfl
  have hmapping : (Ty.memberOf b).mapping? = some (.memberOf b) := by
    rw [Ty.mapping?, hb]
    rfl
  have hsized : (Ty.memberOf b).isSized = true :=
    Ty.isSized_memberOf.trans (Ty.isSized_of_sequence? hb)
  have hmapped := eval_mapped he hmember hsized ha hmapping happlies
  refine eval_unary hmapped (Ty.isSized_of_sequence? (Sequence.sequence?_image happlies)) ?_
  show Op.flag (p.image (.memberOf b)).toTy.all = some (.bool c)
  rw [← Ty.isSubset_eq_all ha happlies, hc]
  rfl

theorem eval_setEqByFlags {a b : Ty} {p q : Sequence} {c : Bool} (he : e.eval env = .ok a)
    (he' : e'.eval env = .ok b) (ha : a.sequence? = some p) (hb : b.sequence? = some q)
    (hk : p.kind = q.kind) (hc : a.setEq b = some c) :
    (setEqByFlags e e').eval env = .ok (.bool c) := by
  have hleft := Ty.isSubset_eq ha hb hk
  have hright := Ty.isSubset_eq hb ha hk.symm
  refine eval_binary (eval_isSubsetByFlags he he' ha hb hk hleft)
    (eval_isSubsetByFlags he' he hb ha hk.symm hright) rfl rfl ?_
  rw [Ty.setEq, ha, Option.bind_eq_bind, Option.bind_some, hb, Option.bind_eq_bind,
    Option.bind_some, if_pos hk, hleft, hright] at hc
  exact congrArg (Option.map Ty.bool) hc

/-- The membership that is spelled through flags is membership. -/
theorem eval_isInByFlags {s x : Ty} {q : Sequence} {c : Bool} (he : e.eval env = .ok s)
    (he' : e'.eval env = .ok x) (hs : s.sequence? = some q) (hx : q.kind.admits x = true)
    (hc : s.isIn x = some c) : (isInByFlags q.kind e e').eval env = .ok (.bool c) := by
  obtain ⟨-, hqs⟩ := Ty.sequence?_eq_some_iff.mp hs
  have happlies : (Mapping.equalTo q.kind x).Applies q.elems := Mapping.applies_equalTo hqs hx
  have hequal : (apply .equalTo [.term (.kind q.kind), e']).eval env =
      .ok (.equalTo (.kind q.kind) x) :=
    eval_binary rfl he' rfl (Kind.isSized_of_admits hx) rfl
  have hsized : (Ty.equalTo (.kind q.kind) x).isSized = true :=
    Ty.isSized_equalTo.trans (Kind.isSized_of_admits hx)
  have hmapped := eval_mapped he hequal hsized hs rfl happlies
  refine eval_unary hmapped (Ty.isSized_of_sequence? (Sequence.sequence?_image happlies)) ?_
  show Op.flag (q.image (.equalTo q.kind x)).toTy.any = some (.bool c)
  rw [← Ty.isIn_eq_any hs (Kind.isSized_of_admits hx) happlies, hc]
  rfl

/-- Set equality of two sequences of one kind is inclusion both ways, each spelled as
    the conjunction of mapped membership flags. Membership of a value of the kind is
    the disjunction of the flags that comparison with it maps the sequence to. Both
    hold for lists and sets alike, although a mapped set holds at most two flags and
    the operations themselves keep one for every element. -/
theorem set_operations_agree_with_flags {env : Env} {l r : Expr} {a b : Ty} {p q : Sequence}
    (hl : l.eval env = .ok a) (hr : r.eval env = .ok b) (ha : a.sequence? = some p)
    (hb : b.sequence? = some q) :
    (p.kind = q.kind → ∃ c, (apply .setEq [l, r]).eval env = .ok (.bool c) ∧
      (setEqByFlags l r).eval env = .ok (.bool c) ∧
      a.FlagsOf p (.memberOf b) ∧ b.FlagsOf q (.memberOf a)) ∧
    (∀ (e : Expr) (x : Ty), e.eval env = .ok x → p.kind.admits x = true →
      ∃ c, (apply .isIn [l, e]).eval env = .ok (.bool c) ∧
        (isInByFlags p.kind l e).eval env = .ok (.bool c) ∧
        a.FlagsOf p (.equalTo p.kind x)) := by
  obtain ⟨-, hps⟩ := Ty.sequence?_eq_some_iff.mp ha
  obtain ⟨-, hqs⟩ := Ty.sequence?_eq_some_iff.mp hb
  have hasized := Ty.isSized_of_sequence? ha
  constructor
  · intro hk
    obtain ⟨c, hc, -⟩ := Ty.exists_setEq ha hb hk
    refine ⟨c, ?_, eval_setEqByFlags hl hr ha hb hk hc, ?_, ?_⟩
    · exact eval_binary hl hr hasized (Ty.isSized_of_sequence? hb) (congrArg Op.flag hc)
    · exact Ty.flagsOf_ofTest ha (Mapping.applies_memberOf hb (hk ▸ hps))
    · exact Ty.flagsOf_ofTest hb (Mapping.applies_memberOf ha (hk ▸ hqs))
  · intro e x he hx
    have hc := Ty.isIn_eq_occurs ha hx
    refine ⟨_, ?_, eval_isInByFlags hl he ha hx hc, ?_⟩
    · exact eval_binary hl he hasized (Kind.isSized_of_admits hx) (congrArg Op.flag hc)
    · exact Ty.flagsOf_ofTest ha (Mapping.applies_equalTo hps hx)

/-- A set of three integers, which gives two flags, compared with a list that repeats
    one of them, and searched for that one. -/
theorem set_operations_agree_with_flags_at_integers :
    (∃ c, (apply .setEq [term (Sequence.toTy ⟨.set, .int, [.intLit 3, .intLit (-1), .intLit 0]⟩),
        term (Sequence.toTy ⟨.list, .int, [.intLit 3, .intLit 3]⟩)]).eval [] = .ok (.bool c) ∧
      (setEqByFlags (term (Sequence.toTy ⟨.set, .int, [.intLit 3, .intLit (-1), .intLit 0]⟩))
        (term (Sequence.toTy ⟨.list, .int, [.intLit 3, .intLit 3]⟩))).eval [] = .ok (.bool c)) ∧
    (∃ c, (apply .isIn [term (Sequence.toTy ⟨.set, .int, [.intLit 3, .intLit (-1), .intLit 0]⟩),
        term (.intLit 3)]).eval [] = .ok (.bool c) ∧
      (isInByFlags .int (term (Sequence.toTy ⟨.set, .int, [.intLit 3, .intLit (-1), .intLit 0]⟩))
        (term (.intLit 3))).eval [] = .ok (.bool c)) := by
  have hset : (Sequence.toTy ⟨.set, .int, [.intLit 3, .intLit (-1), .intLit 0]⟩).sequence? =
      some ⟨.set, .int, [.intLit 3, .intLit (-1), .intLit 0]⟩ := by decide +kernel
  have hlist : (Sequence.toTy ⟨.list, .int, [.intLit 3, .intLit 3]⟩).sequence? =
      some ⟨.list, .int, [.intLit 3, .intLit 3]⟩ := by decide +kernel
  have heval : ∀ t : Ty, (term t).eval [] = .ok t := fun t => rfl
  obtain ⟨hsetEq, hisIn⟩ := set_operations_agree_with_flags (heval _) (heval _) hset hlist
  obtain ⟨c, hc, hflags, -⟩ := hsetEq rfl
  obtain ⟨d, hd, hdflags, -⟩ := hisIn _ _ (heval (.intLit 3)) (by decide +kernel)
  exact ⟨⟨c, hc, hflags⟩, ⟨d, hd, hdflags⟩⟩

end Expr

end KindSeq
