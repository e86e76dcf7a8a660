/-
  KindSeq.Proofs.LeftFold

  Folds with an arbitrary partial step. A fold goes through a chain of accumulators,
  from the seed on, one step for each element (`Accumulates`). It has a value if the
  chain goes to the end of the elements, and that value is the last accumulator
  (`foldlM_eq_some_iff`); it has none if the chain stops at a step that is undefined
  (`foldlM_eq_none_iff`). Nothing is asked of the step or of the accumulators, which
  can be any types and need not stay in a kind.

  Folding two lists that were concatenated is folding the first and then, from where
  it ended, the second. The step that appends makes the chain of all prefixes behind
  the seed, so it ends with the whole list (`foldlM_append`).
-/

import KindSeq.Proofs.Union

namespace KindSeq.Ty

variable {step : Ty → Ty → Option Ty} {seed r x : Ty} {xs : List Ty} {n : Nat} {acc : Nat → Ty}

/-! ## Chains of accumulators -/

/-- `acc` starts with the seed and takes the step with each of the first `n` elements. -/
def Accumulates (step : Ty → Ty → Option Ty) (seed : Ty) (xs : List Ty) (n : Nat)
    (acc : Nat → Ty) : Prop :=
  acc 0 = seed ∧ ∀ i < n, ∀ x, xs[i]? = some x → step (acc i) x = some (acc (i + 1))

/-- The chain `acc` with one accumulator in front of it. -/
def startingAt (seed : Ty) (acc : Nat → Ty) : Nat → Ty
  | 0 => seed
  | i + 1 => acc i

/-- The first step, and the chain behind it. -/
theorem accumulates_cons_iff :
    Accumulates step seed (x :: xs) (n + 1) acc ↔
      acc 0 = seed ∧ step seed x = some (acc 1) ∧
        Accumulates step (acc 1) xs n fun i => acc (i + 1) := by
  constructor
  · rintro ⟨hseed, hsteps⟩
    have hfirst : step (acc 0) x = some (acc 1) := hsteps 0 (Nat.zero_lt_succ n) x rfl
    rw [hseed] at hfirst
    refine ⟨hseed, hfirst, rfl, fun i hi y hy => ?_⟩
    exact hsteps (i + 1) (Nat.succ_lt_succ hi) y hy
  · rintro ⟨hseed, hfirst, -, hsteps⟩
    refine ⟨hseed, fun i hi y hy => ?_⟩
    cases i with
    | zero =>
      have hxy : x = y := Option.some.inj hy
      rw [hseed, ← hxy]
      exact hfirst
    | succ i => exact hsteps i (Nat.lt_of_succ_lt_succ hi) y hy

/-- A chain behind the first step makes a chain from the seed. -/
theorem Accumulates.startingAt {m : Ty} (hm : step seed x = some m)
    (h : Accumulates step m xs n acc) :
    Accumulates step seed (x :: xs) (n + 1) (startingAt seed acc) := by
  obtain ⟨rfl, hsteps⟩ := h
  exact accumulates_cons_iff.mpr ⟨rfl, hm, rfl, hsteps⟩

/-- A fold has a value if the chain goes through all elements. -/
theorem foldlM_eq_some_iff :
    xs.foldlM step seed = some r ↔
      ∃ acc, Accumulates step seed xs xs.length acc ∧ acc xs.length = r := by
  -- Behind the first step the fold goes on from another seed.
  induction xs generalizing seed with
  | nil =>
    constructor
    · intro h
      have hseed : seed = r := Option.some.inj h
      exact ⟨fun _ => seed, ⟨rfl, fun i hi => absurd hi (Nat.not_lt_zero i)⟩, hseed⟩
    · rintro ⟨acc, ⟨hseed, -⟩, hr⟩
      rw [← hseed, ← hr]
      rfl
  | cons x xs ih =>
    rw [List.foldlM_cons, Option.bind_eq_bind, Option.bind_eq_some_iff]
    constructor
    · rintro ⟨m, hm, h⟩
      obtain ⟨acc, hacc, hr⟩ := ih.mp h
      exact ⟨startingAt seed acc, hacc.startingAt hm, hr⟩
    · rintro ⟨acc, hacc, hr⟩
      obtain ⟨-, hfirst, hrest⟩ := accumulates_cons_iff.mp hacc
      exact ⟨acc 1, hfirst, ih.mpr ⟨_, hrest, hr⟩⟩

/-- A fold has no value if the chain stops at some element. -/
theorem foldlM_eq_none_iff :
    xs.foldlM step seed = none ↔
      ∃ acc i x, Accumulates step seed xs i acc ∧ xs[i]? = some x ∧ step (acc i) x = none := by
  induction xs generalizing seed with
  | nil => simp
  | cons x xs ih =>
    rw [List.foldlM_cons, Option.bind_eq_bind]
    constructor
    · intro h
      cases hm : step seed x with
      | none =>
        -- The chain stops where it starts.
        exact ⟨fun _ => seed, 0, x, ⟨rfl, fun i hi => absurd hi (Nat.not_lt_zero i)⟩, rfl, hm⟩
      | some m =>
        rw [hm, Option.bind_some] at h
        obtain ⟨acc, i, y, hacc, hy, hnone⟩ := ih.mp h
        exact ⟨startingAt seed acc, i + 1, y, hacc.startingAt hm, hy, hnone⟩
    · rintro ⟨acc, i, y, hacc, hy, hnone⟩
      cases i with
      | zero =>
        have hxy : x = y := Option.some.inj hy
        rw [hacc.1, ← hxy] at hnone
        rw [hnone, Option.bind_none]
      | succ i =>
        obtain ⟨-, hfirst, hrest⟩ := accumulates_cons_iff.mp hacc
        rw [hfirst, Option.bind_some]
        exact ih.mpr ⟨_, i, y, hrest, hy, hnone⟩

/-! ## Folds over sequences -/

theorem folded_eq {s : Ty} {q : Sequence} (hs : s.sequence? = some q) (seed : Ty)
    (step : Ty → Ty → Option Ty) : s.folded seed step = q.elems.foldlM step seed := by
  rw [folded, hs, Option.bind_eq_bind, Option.bind_some]

/-- Folding a concatenation goes on with the second list where the first one ended. -/
theorem folded_concat {a b c : Ty} {k : Kind} {xs ys : List Ty}
    (ha : a.sequence? = some ⟨.list, k, xs⟩) (hb : b.sequence? = some ⟨.list, k, ys⟩)
    (hc : c.sequence? = some ⟨.list, k, xs ++ ys⟩) (seed : Ty) (step : Ty → Ty → Option Ty) :
    c.folded seed step = (a.folded seed step).bind fun m => b.folded m step := by
  have hsecond : (fun m => b.folded m step) = fun m => ys.foldlM step m :=
    funext fun m => folded_eq hb m step
  rw [folded_eq hc, folded_eq ha, hsecond, List.foldlM_append, Option.bind_eq_bind]

/-- Appending one element after the other puts all of them behind the seed. -/
theorem foldlM_append {h : Ty} {hs : List Ty} (hh : h.elems? = some hs) (xs : List Ty) :
    xs.foldlM append h = some (ofElems (hs ++ xs)) := by
  -- The seed grows with each step, so the induction is for every seed.
  induction xs generalizing h hs with
  | nil =>
    rw [List.append_nil, ofElems_of_elems? hh]
    rfl
  | cons x xs ih =>
    have happend : h.append x = some (ofElems (hs ++ [x])) := by
      rw [append, hh, Option.map_some]
    rw [List.foldlM_cons, happend, Option.bind_eq_bind, Option.bind_some,
      ih (elems?_ofElems (hs ++ [x])), List.append_assoc, List.singleton_append]

/-- From an element list on, appending the elements of a sequence concatenates them. -/
theorem folded_append {s h : Ty} {q : Sequence} {hs : List Ty} (hq : s.sequence? = some q)
    (hh : h.elems? = some hs) :
    ∃ r, h.hconcat (ofElems q.elems) = some r ∧ s.folded h append = some r := by
  refine ⟨ofElems (hs ++ q.elems), ?_, ?_⟩
  · rw [← ofElems_of_elems? hh, hconcat_ofElems]
  · rw [folded_eq hq, foldlM_append hh]

/-- Folds go from left to right, for every seed and every partial step. The fold of two
    concatenated lists has a value exactly if the first list folds to some type and the
    second folds on from there, and it is the same value. A sequence folds to the last
    of a chain of accumulators that takes one step for each element, and to nothing
    exactly if such a chain meets an undefined step. With appending as the step,
    the elements are rebuilt from the empty list, and concatenated to any other. -/
theorem folding_splits_over_concatenation (seed : Ty) (step : Ty → Ty → Option Ty) :
    (∀ (a b : Ty) (k : Kind) (xs ys : List Ty), a.sequence? = some ⟨.list, k, xs⟩ →
      b.sequence? = some ⟨.list, k, ys⟩ →
      ∃ c, a.concat b = some c ∧ ∀ r, c.folded seed step = some r ↔
        ∃ m, a.folded seed step = some m ∧ b.folded m step = some r) ∧
    ∀ (s : Ty) (q : Sequence), s.sequence? = some q →
      (∀ r, s.folded seed step = some r ↔
        ∃ acc, Accumulates step seed q.elems q.elems.length acc ∧ acc q.elems.length = r) ∧
      (s.folded seed step = none ↔
        ∃ acc i x, Accumulates step seed q.elems i acc ∧ q.elems[i]? = some x ∧
          step (acc i) x = none) ∧
      s.folded .hNil append = some (ofElems q.elems) ∧
      ∀ (h : Ty) (hs : List Ty), h.elems? = some hs →
        ∃ r, h.hconcat (ofElems q.elems) = some r ∧ s.folded h append = some r := by
  constructor
  · intro a b k xs ys ha hb
    obtain ⟨c, hc, hcs⟩ := exists_concat ha hb
    refine ⟨c, hc, fun r => ?_⟩
    rw [folded_concat ha hb hcs, Option.bind_eq_some_iff]
  · intro s q hs
    have hempty : Ty.hNil.elems? = some [] := rfl
    rw [folded_eq hs]
    refine ⟨fun r => foldlM_eq_some_iff, foldlM_eq_none_iff, ?_, ?_⟩
    · rw [folded_eq hs, foldlM_append hempty, List.nil_append]
    · intro h hs' hh
      exact folded_append hs hh

/-- A sum that meets an integer of one digit in the second list is undefined for both
    lists joined; and the first list is rebuilt behind an element. -/
theorem folding_splits_over_concatenation_at_sum :
    (∃ c, (Sequence.toTy ⟨.list, .int, [intLit 1, intLit 2]⟩).concat
        (Sequence.toTy ⟨.list, .int, [intLit 5, ofIntDigits [3]]⟩) = some c ∧
      c.folded (intLit 10) add = none) ∧
    (Sequence.toTy ⟨.list, .int, [intLit 1, intLit 2]⟩).folded (.hCons .noError .hNil) append =
      some (.hCons .noError (.hCons (intLit 1) (.hCons (intLit 2) .hNil))) := by
  have ha : (Sequence.toTy ⟨.list, .int, [intLit 1, intLit 2]⟩).sequence? =
      some ⟨.list, .int, [intLit 1, intLit 2]⟩ := by decide +kernel
  have hb : (Sequence.toTy ⟨.list, .int, [intLit 5, ofIntDigits [3]]⟩).sequence? =
      some ⟨.list, .int, [intLit 5, ofIntDigits [3]]⟩ := by decide +kernel
  obtain ⟨hsplit, hfold⟩ := folding_splits_over_concatenation (intLit 10) add
  constructor
  · obtain ⟨c, hc, hvalue⟩ := hsplit _ _ _ _ _ ha hb
    refine ⟨c, hc, ?_⟩
    rw [Option.eq_none_iff_forall_ne_some]
    intro r hr
    obtain ⟨m, hm, hmr⟩ := (hvalue r).mp hr
    have hthirteen : some m = some (intLit 13) := hm.symm.trans (by decide +kernel)
    have hstop : (Sequence.toTy ⟨.list, .int, [intLit 5, ofIntDigits [3]]⟩).folded
        (intLit 13) add = none := by decide +kernel
    rw [Option.some.inj hthirteen, hstop] at hmr
    exact absurd hmr (by simp)
  · obtain ⟨-, -, -, happend⟩ := hfold _ _ ha
    obtain ⟨r, hr, hr'⟩ := happend (.hCons .noError .hNil) [.noError] rfl
    rw [hr', ← hr]
    rfl

end KindSeq.Ty
