/-
  KindSeq.Proofs.Concatenation

  Concatenation as a partial operation on all types. It reads the kinds of both
  operands and the shape of the first element list, and nothing else
  (`concat_eq_some_iff`). Whichever two of three operands are joined first, the
  first and the second have to hold element lists and the third can hold anything;
  so both bracketings exist, or neither does (`concat_assoc`).

  A bracketing is a tree with operands at its leaves. Its value is that of the
  operands joined from the left (`Bracketing.eval_eq_concatAll`), and one is missing
  if the other is. For lists of one kind it is never missing, and holds the elements
  of all operands in order (`exists_concatAll`).
-/

import KindSeq.Program.Query
import KindSeq.Proofs.EarliestError
import KindSeq.Proofs.Union

namespace KindSeq

namespace Ty

/-! ## Two operands -/

/-- Concatenation exists for lists of one kind if the first holds an element list. -/
theorem concat_eq_some_iff {a b c : Ty} :
    a.concat b = some c ↔ ∃ (k : Kind) (xs : List Ty) (e : Ty),
      a = .list (.kind k) (ofElems xs) ∧ b = .list (.kind k) e ∧
        c = .list (.kind k) (xs.foldr hCons e) := by
  constructor
  · intro h
    unfold concat at h
    split at h
    · next k d l e =>
      split at h
      · next hk =>
        obtain rfl := hk
        rw [hconcat_eq, Option.map_map] at h
        obtain ⟨xs, hxs, rfl⟩ := Option.map_eq_some_iff.mp h
        exact ⟨k, xs, e, by rw [ofElems_of_elems? hxs], rfl, rfl⟩
      · exact absurd h (by simp)
    · exact absurd h (by simp)
  · rintro ⟨k, xs, e, rfl, rfl, rfl⟩
    rw [concat, if_pos rfl, hconcat_eq, elems?_ofElems, Option.map_some, Option.map_some]

theorem foldr_hCons_ofElems (xs ys : List Ty) :
    xs.foldr hCons (ofElems ys) = ofElems (xs ++ ys) := by
  have h := hconcat_ofElems xs ys
  rw [hconcat_eq, elems?_ofElems, Option.map_some] at h
  exact Option.some.inj h

/-- Elements in front of something make an element list only if it is one. -/
theorem exists_of_foldr_hCons {xs zs : List Ty} {e : Ty} (h : xs.foldr hCons e = ofElems zs) :
    ∃ ys, e = ofElems ys ∧ zs = xs ++ ys := by
  have helems : e.elems?.map (xs ++ ·) = some zs := by
    rw [← elems?_foldr_hCons, h, elems?_ofElems]
  obtain ⟨ys, hys, rfl⟩ := Option.map_eq_some_iff.mp helems
  exact ⟨ys, (ofElems_of_elems? hys).symm, rfl⟩

/-- An empty list on either side changes nothing. -/
theorem concat_empty {l : Ty} {k : Kind} {xs : List Ty} (hl : l.shape? = some ⟨.list, k, xs⟩) :
    (list (.kind k) .hNil).concat l = some l ∧ l.concat (.list (.kind k) .hNil) = some l := by
  have hterm : l = .list (.kind k) (ofElems xs) := (toTy_of_shape? hl).symm
  constructor
  · exact concat_eq_some_iff.mpr ⟨k, [], ofElems xs, rfl, hterm, hterm⟩
  · refine concat_eq_some_iff.mpr ⟨k, xs, .hNil, hterm, rfl, ?_⟩
    have hend : xs.foldr hCons .hNil = ofElems xs := by
      have h := foldr_hCons_ofElems xs []
      rwa [List.append_nil] at h
    rw [hend, hterm]

theorem concat_eq_none_of_ne {k l : Kind} (h : k ≠ l) (e e' : Ty) :
    (list (.kind k) e).concat (.list (.kind l) e') = none := by
  rw [concat, if_neg h]

/-- Sets are refused on both sides, whatever stands on the other. -/
theorem concat_set_eq_none (k e t : Ty) :
    (set k e).concat t = none ∧ t.concat (.set k e) = none := by
  constructor
  · rw [Option.eq_none_iff_forall_ne_some]
    intro c hc
    obtain ⟨_, _, _, hset, -, -⟩ := concat_eq_some_iff.mp hc
    exact absurd hset (by simp)
  · rw [Option.eq_none_iff_forall_ne_some]
    intro c hc
    obtain ⟨_, _, _, -, hset, -⟩ := concat_eq_some_iff.mp hc
    exact absurd hset (by simp)

/-- Both bracketings of three operands exist together, and agree. -/
theorem concat_assoc (a b c : Ty) :
    (a.concat b).bind (·.concat c) = (b.concat c).bind a.concat := by
  apply Option.ext
  intro d
  rw [Option.bind_eq_some_iff, Option.bind_eq_some_iff]
  constructor
  · rintro ⟨m, hab, hmc⟩
    obtain ⟨k, xs, e, rfl, rfl, rfl⟩ := concat_eq_some_iff.mp hab
    obtain ⟨l, zs, e', hm, rfl, rfl⟩ := concat_eq_some_iff.mp hmc
    -- The first two joined are an element list, so the second is one.
    obtain ⟨hkind, hfold⟩ := Ty.list.inj hm
    obtain rfl := Ty.kind.inj hkind
    obtain ⟨ys, rfl, rfl⟩ := exists_of_foldr_hCons hfold
    refine ⟨_, concat_eq_some_iff.mpr ⟨k, ys, e', rfl, rfl, rfl⟩, ?_⟩
    exact concat_eq_some_iff.mpr ⟨k, xs, _, rfl, rfl, by rw [List.foldr_append]⟩
  · rintro ⟨m, hbc, ham⟩
    -- Here the first two are asked for element lists one after the other.
    obtain ⟨k, ys, e, rfl, rfl, rfl⟩ := concat_eq_some_iff.mp hbc
    obtain ⟨l, xs, e', rfl, hm, rfl⟩ := concat_eq_some_iff.mp ham
    obtain ⟨hkind, rfl⟩ := Ty.list.inj hm
    obtain rfl := Ty.kind.inj hkind
    refine ⟨_, concat_eq_some_iff.mpr ⟨k, xs, _, rfl, rfl, rfl⟩, ?_⟩
    rw [foldr_hCons_ofElems]
    exact concat_eq_some_iff.mpr ⟨k, xs ++ ys, e, rfl, rfl, by rw [List.foldr_append]⟩

/-! ## Any number of operands -/

/-- An operand can be put in front before or after the others are joined. -/
theorem foldlM_concat (a b : Ty) (ts : List Ty) :
    (a.concat b).bind (fun c => ts.foldlM concat c) = (ts.foldlM concat b).bind a.concat := by
  induction ts generalizing b with
  | nil => exact Option.bind_fun_some _
  | cons t ts ih =>
    have hleft : (a.concat b).bind (fun c => (t :: ts).foldlM concat c) =
        ((a.concat b).bind (·.concat t)).bind fun c => ts.foldlM concat c := by
      rw [Option.bind_assoc]
      rfl
    -- The next operand moves to the right of `b`, where the induction takes over.
    rw [hleft, concat_assoc, Option.bind_assoc, List.foldlM_cons, Option.bind_eq_bind,
      Option.bind_assoc]
    exact congrArg _ (funext ih)

/-- Two rows of operands can be joined on their own first. -/
theorem concatAll_append {ts us : List Ty} (hts : ts ≠ []) (hus : us ≠ []) :
    concatAll (ts ++ us) = (concatAll ts).bind fun a => (concatAll us).bind a.concat := by
  obtain ⟨t, ts, rfl⟩ := List.exists_cons_of_ne_nil hts
  obtain ⟨u, us, rfl⟩ := List.exists_cons_of_ne_nil hus
  rw [List.cons_append, concatAll, concatAll, concatAll, List.foldlM_append, Option.bind_eq_bind]
  exact congrArg _ (funext fun a => foldlM_concat a u us)

/-- A run over lists of one kind goes through, and collects their elements. -/
theorem exists_foldlM_concat {k : Kind} {ts : List Ty} {xss : List (List Ty)}
    (h : List.Forall₂ (fun t xs => t.sequence? = some ⟨.list, k, xs⟩) ts xss)
    {a : Ty} {xs : List Ty} (ha : a.sequence? = some ⟨.list, k, xs⟩) :
    ∃ c, ts.foldlM concat a = some c ∧ c.sequence? = some ⟨.list, k, xs ++ xss.flatten⟩ := by
  induction h generalizing a xs with
  | nil => exact ⟨a, rfl, by rwa [List.flatten_nil, List.append_nil]⟩
  | @cons t ys ts xss ht _ ih =>
    obtain ⟨m, hm, hms⟩ := exists_concat ha ht
    obtain ⟨c, hc, hcs⟩ := ih hms
    refine ⟨c, ?_, ?_⟩
    · rw [List.foldlM_cons, hm, Option.bind_eq_bind, Option.bind_some, hc]
    · rw [hcs, List.flatten_cons, List.append_assoc]

/-- Lists of one kind, at least one of them, can be joined. -/
theorem exists_concatAll {k : Kind} {ts : List Ty} {xss : List (List Ty)} (hts : ts ≠ [])
    (h : List.Forall₂ (fun t xs => t.sequence? = some ⟨.list, k, xs⟩) ts xss) :
    ∃ c, concatAll ts = some c ∧ c.sequence? = some ⟨.list, k, xss.flatten⟩ := by
  cases h with
  | nil => exact absurd rfl hts
  | cons ht htail => exact exists_foldlM_concat htail ht

/-- The length of a sequence, as it is asked for. -/
theorem len_of_sequence? {s : Ty} {q : Sequence} (hs : s.sequence? = some q) :
    Query.len.answer? [s] = some (.len q.elems.length) := by
  show (s.sequence?.map fun q => Answer.len q.elems.length) = some (.len q.elems.length)
  rw [hs, Option.map_some]

end Ty

/-! ## Bracketings -/

/-- A way to join operands two at a time. -/
inductive Bracketing where
  | operand (t : Ty)
  | join (l r : Bracketing)

namespace Bracketing

/-- The operands from left to right. -/
def operands : Bracketing → List Ty
  | operand t => [t]
  | join l r => l.operands ++ r.operands

/-- What is left when every pair has been joined, the inner ones first. -/
def eval : Bracketing → Option Ty
  | operand t => some t
  | join l r => do
    let a ← l.eval
    let b ← r.eval
    a.concat b

theorem operands_ne_nil (j : Bracketing) : j.operands ≠ [] := by
  induction j with
  | operand t => exact List.cons_ne_nil t []
  | join l r ihl _ => exact List.append_ne_nil_of_left_ne_nil ihl r.operands

/-- Brackets do not matter, for any operands. -/
theorem eval_eq_concatAll (j : Bracketing) : j.eval = Ty.concatAll j.operands := by
  induction j with
  | operand t => rfl
  | join l r ihl ihr =>
    rw [eval, operands, Ty.concatAll_append l.operands_ne_nil r.operands_ne_nil, ihl, ihr]
    rfl

end Bracketing

namespace Ty

/-- Concatenation is associative on all types, including those where it does not exist:
    both bracketings of three operands exist or neither does. The empty list of a kind
    is an identity for the lists of that kind that are made of elements. Two lists of
    one kind give a list with the elements of both in order and the sum of their
    lengths. Any number of operands joined from the left gives what every other
    bracketing of them gives, and for lists of one kind that is a list. Lists of
    different kinds are refused, and so is a set on either side. -/
theorem concatenation_is_associative_and_partial :
    (∀ a b c : Ty, (a.concat b).bind (·.concat c) = (b.concat c).bind a.concat) ∧
    (∀ (l : Ty) (k : Kind) (xs : List Ty), l.shape? = some ⟨.list, k, xs⟩ →
      (list (.kind k) .hNil).concat l = some l ∧ l.concat (.list (.kind k) .hNil) = some l) ∧
    (∀ (a b : Ty) (k : Kind) (xs ys : List Ty), a.sequence? = some ⟨.list, k, xs⟩ →
      b.sequence? = some ⟨.list, k, ys⟩ →
      ∃ c m n, a.concat b = some c ∧ c.sequence? = some ⟨.list, k, xs ++ ys⟩ ∧
        Query.len.answer? [a] = some (.len m) ∧ Query.len.answer? [b] = some (.len n) ∧
        Query.len.answer? [c] = some (.len (m + n))) ∧
    (∀ j : Bracketing, j.eval = Op.concatLists.eval j.operands ∧
      ∀ (k : Kind) (xss : List (List Ty)),
        List.Forall₂ (fun t xs => t.sequence? = some ⟨.list, k, xs⟩) j.operands xss →
        ∃ c, j.eval = some c ∧ c.sequence? = some ⟨.list, k, xss.flatten⟩) ∧
    (∀ (k l : Kind) (e e' : Ty), k ≠ l →
      (list (.kind k) e).concat (.list (.kind l) e') = none) ∧
    (∀ k e t : Ty, (set k e).concat t = none ∧ t.concat (.set k e) = none) := by
  refine ⟨concat_assoc, fun l k xs hl => concat_empty hl, ?_, ?_,
    fun k l e e' h => concat_eq_none_of_ne h e e', concat_set_eq_none⟩
  · intro a b k xs ys ha hb
    obtain ⟨c, hc, hcs⟩ := exists_concat ha hb
    have hlen := len_of_sequence? hcs
    rw [List.length_append] at hlen
    exact ⟨c, xs.length, ys.length, hc, hcs, len_of_sequence? ha, len_of_sequence? hb, hlen⟩
  · intro j
    refine ⟨j.eval_eq_concatAll, fun k xss h => ?_⟩
    obtain ⟨c, hc, hcs⟩ := exists_concatAll j.operands_ne_nil h
    exact ⟨c, by rw [j.eval_eq_concatAll, hc], hcs⟩

/-- Three lists of booleans, the middle one empty, joined from the right; a list that
    ends in a type which is no element list can be the last of three operands, but not
    the second; and a list of integers or a set cannot follow. -/
theorem concatenation_is_associative_and_partial_at_booleans :
    (∃ c, (Bracketing.join (.operand (ofBools [true])) (.join (.operand (ofBools []))
        (.operand (ofBools [false, true])))).eval = some c ∧
      c.sequence? = some ⟨.list, .bool, [.bool true, .bool false, .bool true]⟩) ∧
    (((ofBools [true]).concat (ofBools [false])).bind
        (·.concat (.list (.kind .bool) (.hCons (.bool true) .noError))) =
      some (.list (.kind .bool) (.hCons (.bool true) (.hCons (.bool false)
        (.hCons (.bool true) .noError))))) ∧
    (((ofBools [true]).concat (.list (.kind .bool) (.hCons (.bool true) .noError))).bind
      (·.concat (ofBools [false])) = none) ∧
    (ofBools [true]).concat (.list (.kind .int) .hNil) = none ∧
    (ofBools [true]).concat (.set (.kind .bool) .hNil) = none := by
  obtain ⟨hassoc, -, -, hbrackets, hkinds, hsets⟩ := concatenation_is_associative_and_partial
  refine ⟨?_, ?_, ?_, hkinds .bool .int _ _ (by decide), (hsets _ _ _).2⟩
  · exact (hbrackets _).2 .bool [[.bool true], [], [.bool false, .bool true]]
      (.cons (sequence?_ofBools _) (.cons (sequence?_ofBools _)
        (.cons (sequence?_ofBools _) .nil)))
  · rw [hassoc]
    decide +kernel
  · rw [hassoc]
    decide +kernel

end Ty

end KindSeq
