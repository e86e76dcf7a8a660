/-
  KindSeq.Proofs.NibbleTable

  The tables of nibbles say what the operations say. A row of addition holds the low
  nibble of the sum and the outgoing carry (`nibbleRow_eq`), and every pair of nibbles
  with every carry has exactly one row (`existsUnique_nibbleRow`), at one place only
  (`nodup_keys_nibbleRows`). So the row that is found is the row that is meant
  (`rowOf?_eq`), and adding digit lists row by row is adding them (`addByRows_eq`).
  Comparing digit lists through the table of equality is the same story
  (`eqByRows_eq`).
-/

import Mathlib.Data.List.Nodup
import Mathlib.Data.List.ProdSigma
import KindSeq.Expansion.NibbleTable

namespace KindSeq.Expansion

/-! ## Addition -/

/-- A row holds the sum and the carry of what it is for. -/
theorem nibbleRow_eq (a b : Nibble) (c : Bool) :
    nibbleRow a b c = ⟨a, b, c, Nibble.sum a b c, Nibble.carry a b c⟩ := by
  have hlow : (a.val + b.val + c.toNat) &&& 15 = (a.val + b.val + c.toNat) % 16 :=
    Nat.and_two_pow_sub_one_eq_mod _ 4
  have hsum : Nibble.ofNat ((a.val + b.val + c.toNat) &&& 15) = Nibble.sum a b c := by
    apply Fin.ext
    rw [Nibble.ofNat_val, hlow, Nat.mod_mod, Nibble.sum, Nibble.ofNat_val]
  rw [nibbleRow, hsum]
  rfl

theorem nibbleRow_mem (a b : Nibble) (c : Bool) : nibbleRow a b c ∈ nibbleRows := by
  have hcarry : c ∈ [false, true] := by cases c <;> decide
  rw [nibbleRows, List.mem_flatMap]
  refine ⟨a, List.mem_finRange a, List.mem_flatMap.mpr ⟨b, List.mem_finRange b, ?_⟩⟩
  exact List.mem_map_of_mem hcarry

/-- A row of the table is fixed by what it is for. -/
theorem eq_nibbleRow_of_mem {r : NibbleRow} (hr : r ∈ nibbleRows) :
    r = nibbleRow r.left r.right r.carryIn := by
  obtain ⟨a, -, hb⟩ := List.mem_flatMap.mp hr
  obtain ⟨b, -, hc⟩ := List.mem_flatMap.mp hb
  obtain ⟨c, -, rfl⟩ := List.mem_map.mp hc
  rfl

theorem existsUnique_nibbleRow (a b : Nibble) (c : Bool) :
    ∃! r, r ∈ nibbleRows ∧ r.key = (a, b, c) := by
  refine ⟨nibbleRow a b c, ⟨nibbleRow_mem a b c, rfl⟩, ?_⟩
  rintro r ⟨hr, hkey⟩
  simp only [NibbleRow.key, Prod.mk.injEq] at hkey
  obtain ⟨rfl, rfl, rfl⟩ := hkey
  exact eq_nibbleRow_of_mem hr

/-- No two rows are for the same nibbles and carry. -/
theorem nodup_keys_nibbleRows : (nibbleRows.map NibbleRow.key).Nodup := by
  have hkeys : nibbleRows.map NibbleRow.key =
      (List.finRange 16).product ((List.finRange 16).product [false, true]) := by
    simp only [nibbleRows, List.product, List.map_flatMap, List.map_map]
    rfl
  rw [hkeys]
  have hcarries : [false, true].Nodup := by decide
  exact (List.nodup_finRange 16).product ((List.nodup_finRange 16).product hcarries)

theorem rowOf?_eq (a b : Nibble) (c : Bool) : rowOf? a b c = some (nibbleRow a b c) := by
  cases hfound : rowOf? a b c with
  | none =>
    have hnone := List.find?_eq_none.mp hfound (nibbleRow a b c) (nibbleRow_mem a b c)
    exact absurd (decide_eq_true rfl) hnone
  | some r =>
    rw [rowOf?] at hfound
    have hmem := List.mem_of_find?_eq_some hfound
    have hkey := List.find?_some hfound
    rw [decide_eq_true_eq] at hkey
    rw [(existsUnique_nibbleRow a b c).unique ⟨hmem, hkey⟩ ⟨nibbleRow_mem a b c, rfl⟩]

/-- Adding row by row is adding, whatever carry comes in. -/
theorem addByRows_eq (as bs : Digits) (c : Bool) : addByRows as bs c = Digits.add as bs c := by
  induction as generalizing bs c with
  | nil =>
    cases bs with
    | nil => rfl
    | cons b bs => rfl
  | cons a as ih =>
    cases bs with
    | nil => rfl
    | cons b bs =>
      rw [addByRows, Digits.add, rowOf?_eq, nibbleRow_eq, Option.bind_eq_bind, Option.bind_some,
        Option.bind_eq_bind, ih, Option.map_eq_bind]
      rfl

/-! ## Equality -/

theorem mem_distinctPairs_iff {l : List Nibble} (hl : l.Nodup) {a b : Nibble} :
    (a, b) ∈ distinctPairs l ↔ a ∈ l ∧ b ∈ l ∧ a ≠ b := by
  induction l with
  | nil => simp [distinctPairs]
  | cons x xs ih =>
    obtain ⟨hx, hxs⟩ := List.nodup_cons.mp hl
    simp only [distinctPairs, List.mem_append, List.mem_flatMap, List.mem_cons, Prod.mk.injEq,
      List.not_mem_nil, or_false, ih hxs]
    constructor
    · rintro (⟨y, hy, ⟨rfl, rfl⟩ | ⟨rfl, rfl⟩⟩ | ⟨ha, hb, hne⟩)
      · exact ⟨Or.inl rfl, Or.inr hy, fun h => hx (h ▸ hy)⟩
      · exact ⟨Or.inr hy, Or.inl rfl, fun h => hx (h ▸ hy)⟩
      · exact ⟨Or.inr ha, Or.inr hb, hne⟩
    · rintro ⟨rfl | ha, rfl | hb, hne⟩
      · exact absurd rfl hne
      · exact Or.inl ⟨b, hb, Or.inl ⟨rfl, rfl⟩⟩
      · exact Or.inl ⟨a, ha, Or.inr ⟨rfl, rfl⟩⟩
      · exact Or.inr ⟨ha, hb, hne⟩

theorem lookup_map_of_mem {ps : List (Nibble × Nibble)} {p : Nibble × Nibble} (hp : p ∈ ps)
    (v : Bool) : (ps.map fun q => (q, v)).lookup p = some v := by
  induction ps with
  | nil => exact absurd hp List.not_mem_nil
  | cons q ps ih =>
    rw [List.map_cons, List.lookup_cons]
    by_cases hpq : p = q
    · rw [beq_iff_eq.mpr hpq]
    · rw [beq_false_of_ne hpq]
      exact ih ((List.mem_cons.mp hp).resolve_left hpq)

theorem lookup_map_of_not_mem {ps : List (Nibble × Nibble)} {p : Nibble × Nibble} (hp : p ∉ ps)
    (v : Bool) : (ps.map fun q => (q, v)).lookup p = none := by
  rw [List.lookup_eq_none_iff, List.forall_mem_map]
  intro q hq
  have hpq : p ≠ q := fun h => hp (h ▸ hq)
  exact bne_iff_ne.mpr hpq

/-- A pair of nibbles has a row, which says whether they are the same. -/
theorem lookup_equalityRows (a b : Nibble) :
    equalityRows.lookup (a, b) = some (Nibble.eq a b) := by
  have hsame : (a, b) ∈ (List.finRange 16).map (fun n => (n, n)) ↔ a = b := by
    simp [eq_comm]
  have hother : (a, b) ∈ distinctPairs (List.finRange 16) ↔ a ≠ b := by
    simp [mem_distinctPairs_iff (List.nodup_finRange 16)]
  have hrows : equalityRows = ((List.finRange 16).map fun n => (n, n)).map (fun p => (p, true)) ++
      (distinctPairs (List.finRange 16)).map fun p => (p, false) := by
    rw [equalityRows, List.map_map]
    rfl
  rw [hrows, List.lookup_append, Nibble.eq]
  by_cases hab : a = b
  · rw [lookup_map_of_mem (hsame.mpr hab), decide_eq_true hab, Option.some_or]
  · rw [lookup_map_of_not_mem (mt hsame.mp hab), lookup_map_of_mem (hother.mpr hab),
      decide_eq_false hab, Option.none_or]

/-- Comparing row by row is comparing. -/
theorem eqByRows_eq (as bs : Digits) : eqByRows as bs = some (Digits.eq as bs) := by
  induction as generalizing bs with
  | nil =>
    cases bs with
    | nil => rfl
    | cons b bs => rfl
  | cons a as ih =>
    cases bs with
    | nil => rfl
    | cons b bs =>
      rw [eqByRows, Digits.eq, lookup_equalityRows, ih]
      rfl

end KindSeq.Expansion
