/-
  KindSeq.Proofs.NameStreams

  The hash stream of a name does not depend on how it is built. There are two
  loops over the bytes of a name and two ways to take a nibble out of the hash;
  the loops agree byte by byte (`walk_eq_foldl`), and a nibble taken by its
  position is the low part of the shifted hash as long as the shift stays below 64
  bits (`nibbleAt_eq`). So either source of a name leads to the same sixteen
  numbers (`NameSource.numbers_eq`), which are nibbles and write the hash in
  digits.
-/

import KindSeq.Expansion.Routing
import KindSeq.Proofs.IdentityInjectivity
import KindSeq.Proofs.IntegerEncoding

namespace KindSeq

namespace Nibble

theorem toNat_ofNat_val (d : Nibble) : (UInt8.ofNat d.val).toNat = d.val := by
  revert d
  decide

theorem ofNat_val_lt (d : Nibble) : UInt8.ofNat d.val < 16 := by
  rw [UInt8.lt_iff_toNat_lt, toNat_ofNat_val]
  exact d.isLt

end Nibble

namespace Hash

/-! ## Two loops over the bytes -/

theorem toList_loop (bs : ByteArray) (i : Nat) (acc : List UInt8) :
    ByteArray.toList.loop bs i acc = acc.reverse ++ bs.data.toList.drop i := by
  fun_induction ByteArray.toList.loop bs i acc with
  | case1 i acc hi ih =>
    have hlen : i < bs.data.toList.length := hi
    have hget : bs.get! i = bs.data.toList[i] := getElem!_pos bs.data i hi
    rw [ih, List.drop_eq_getElem_cons hlen, hget]
    simp
  | case2 i acc hi =>
    have hlen : bs.data.toList.length ≤ i := Nat.le_of_not_lt hi
    rw [List.drop_eq_nil_of_le hlen, List.append_nil]

theorem toList_eq_data (bs : ByteArray) : bs.toList = bs.data.toList := toList_loop bs 0 []

/-- Walking on from position `i` is folding over the bytes that are left. -/
theorem walk_eq_foldl (bs : ByteArray) {n i : Nat} (h : UInt64) (hn : bs.size ≤ i + n) :
    walk bs n i h = (bs.data.toList.drop i).foldl step h := by
  induction n generalizing i h with
  | zero =>
    have hlen : bs.data.toList.length ≤ i := hn
    rw [walk, List.drop_eq_nil_of_le hlen, List.foldl_nil]
  | succ n ih =>
    rw [walk]
    split
    · next hi =>
      have hlen : i < bs.data.toList.length := hi
      rw [List.drop_eq_getElem_cons hlen, List.foldl_cons]
      exact ih _ (by omega)
    · next hi =>
      have hlen : bs.data.toList.length ≤ i := Nat.le_of_not_lt hi
      rw [List.drop_eq_nil_of_le hlen, List.foldl_nil]

/-- Walking over the bytes by position gives the hash of the byte string. -/
theorem walk_eq_ofBytes (bs : ByteArray) : walk bs bs.size 0 offsetBasis = ofBytes bs.toList := by
  rw [walk_eq_foldl _ _ (Nat.le_of_eq (Nat.zero_add _).symm), List.drop_zero, ofBytes,
    toList_eq_data]

/-- Both loops give one hash. -/
theorem ofStringByIndex_eq (s : String) : ofStringByIndex s = ofString s :=
  walk_eq_ofBytes s.toUTF8

/-! ## One nibble, by its position -/

/-- Taking a nibble by its position works for the sixteen that there are. Behind
    them the shift is too wide, and from 64 on its amount is no byte. -/
theorem nibbleAt_eq (s : String) (n : UInt8) :
    nibbleAt s n =
      if n < 16 then .ok (nibble (ofString s) n.toNat)
      else .error (if n < 64 then .shiftRight else .multiply) := by
  have hsmall : n < 16 ↔ n.toNat < 16 := UInt8.lt_iff_toNat_lt
  have hbyte : n < 64 ↔ n.toNat < 64 := UInt8.lt_iff_toNat_lt
  rw [nibbleAt, ofStringByIndex_eq]
  by_cases h16 : n.toNat < 16
  · have hnibble : Nibble.ofNat (ofString s >>> (n.toNat * 4).toUInt64).toNat =
        nibble (ofString s) n.toNat := by
      rw [nibble_eq]
      exact Nibble.ofNat_shiftRight _ h16
    rw [if_pos (by omega), if_pos (by omega), if_pos (hsmall.mpr h16), hnibble]
  · rw [if_neg fun h => h16 (hsmall.mp h)]
    by_cases h64 : n.toNat < 64
    · rw [if_pos (by omega), if_neg (by omega), if_pos (hbyte.mpr h64)]
    · rw [if_neg (by omega), if_neg fun h => h64 (hbyte.mp h)]

theorem nibbleAt_ofNat (s : String) (i : Fin 16) :
    nibbleAt s (UInt8.ofNat i.val) = .ok (nibble (ofString s) i.val) := by
  rw [nibbleAt_eq, if_pos (Nibble.ofNat_val_lt i), Nibble.toNat_ofNat_val]

/-- A nibble of a hash as a number: the shifted hash, masked. -/
theorem ofNat_nibble (h : UInt64) {i : Nat} (hi : i < 16) :
    UInt8.ofNat (nibble h i).val = ((h >>> UInt64.ofNat (i * 4)) &&& 15).toUInt8 := by
  have hmask : (15 : UInt64).toNat = 2 ^ 4 - 1 := rfl
  apply UInt8.toNat_inj.mp
  rw [nibble_eq, ← Nibble.ofNat_shiftRight h hi, Nibble.ofNat_val, UInt64.toNat_toUInt8,
    UInt64.toNat_and, hmask, Nat.and_two_pow_sub_one_eq_mod, UInt8.toNat_ofNat']

/-! ## The numbers of a stream -/

/-- The nibbles of the hash of a name, as numbers. -/
def numbers (s : String) : Vector UInt8 16 :=
  Vector.ofFn fun i => UInt8.ofNat (nibble (ofString s) i.val).val

theorem get_numbers (s : String) (i : Fin 16) :
    (numbers s).get i = UInt8.ofNat (nibble (ofString s) i.val).val :=
  Vector.getElem_ofFn i.isLt

theorem map_nibbles (s : String) :
    (nibbles (ofString s)).map (fun n => UInt8.ofNat n.val) = numbers s := by
  rw [nibbles, Vector.map_ofFn]
  rfl

theorem lt_of_mem_numbers {s : String} {n : UInt8} (hn : n ∈ numbers s) : n < 16 := by
  obtain ⟨i, rfl⟩ := Vector.mem_ofFn.mp hn
  exact Nibble.ofNat_val_lt _

/-- The numbers of a stream, each at its place, add up to the hash. -/
theorem sum_numbers (s : String) :
    ∑ i : Fin 16, ((numbers s).get i).toNat * 16 ^ i.val = (ofString s).toNat := by
  have hdigits : List.ofFn (fun i : Fin 16 => nibble (ofString s) i.val) =
      Digits.ofNat 16 (ofString s).toNat := by
    rw [Digits.ofNat_eq_map_range, ← List.map_coe_finRange_eq_range, List.map_map, List.ofFn_eq_map]
    exact List.map_congr_left fun i _ => nibble_eq _ i.val
  have hlt : (ofString s).toNat < 16 ^ 16 := (ofString s).toNat_lt
  simp only [get_numbers, Nibble.toNat_ofNat_val]
  rw [← Digits.value_ofFn, hdigits, Digits.value_ofNat, Nat.mod_eq_of_lt hlt]

end Hash

namespace Expansion.NameSource

/-- The arguments that a literal expands to are the numbers of its stream. -/
theorem args_literal (s : String) : (literal s).args = (Hash.numbers s).map .number := by
  rw [args, ← Hash.map_nibbles, Vector.map_map]
  rfl

/-- A literal and an expression of one name lead to the same numbers, and neither fails. -/
theorem numbers_eq (value : String → String) (source : NameSource) :
    source.numbers value = .ok (Hash.numbers (source.name value)) := by
  have hargs : ∀ i : Fin 16, (source.args.get i).eval value =
      .ok (UInt8.ofNat (Hash.nibble (Hash.ofString (source.name value)) i.val).val) := by
    intro i
    cases source with
    | literal s =>
      have harg : ((Hash.numbers s).map StreamArg.number).get i = .number ((Hash.numbers s).get i) :=
        Vector.getElem_map _ i.isLt
      rw [args_literal, harg, StreamArg.eval, Hash.get_numbers, name]
    | expression e =>
      have harg : (expression e).args.get i = .nibbleOf e (UInt8.ofNat i.val) :=
        Vector.getElem_ofFn i.isLt
      rw [harg, StreamArg.eval, Hash.nibbleAt_ofNat, name]
      rfl
  simp only [numbers, hargs]
  exact Vector.ofFnM_pure (m := Except Hash.Fault)

end Expansion.NameSource

namespace Ty

open Expansion

theorem routing_eq (s : String) : routing s = hashStream (Hash.numbers s) := by
  rw [routing, ofStream, Hash.map_nibbles]

theorem stream?_numbers (s : String) :
    (hashStream (Hash.numbers s)).stream? = some (.cycle (Hash.nibbles (Hash.ofString s))) := by
  rw [← routing_eq, routing, stream?_ofStream]

/-- Streams of names can be compared, and are equal if the names have one hash. -/
theorem exists_idEq_numbers (s t : String) :
    ∃ r, idEq (named (hashStream (Hash.numbers s))) (named (hashStream (Hash.numbers t))) = some r ∧
      (r = true ↔ Hash.ofString s = Hash.ofString t) := by
  rw [← routing_eq, ← routing_eq]
  exact ⟨_, idEq_nameId s t, decide_eq_true_iff⟩

/-- A name has one stream, however it is built. The two loops over its bytes give one
    hash. The numbers that a literal expands to are those that are taken out of the
    hash by their position: the shifted hash, masked. All of them are below 16, so
    that they always form a stream, and as digits they write the hash. There is no
    nibble behind the sixteenth, where the arithmetic of the position overflows.
    Hence the identities of two names, whatever their sources, are equal exactly if
    the names have one hash. What expressions evaluate to is `value`. -/
theorem name_streams_agree (value : String → String) (s t : String) :
    Hash.ofString s = Hash.ofStringByIndex s ∧
    (∃ ns : Vector UInt8 16,
      (∀ source : NameSource, source.name value = s → source.numbers value = .ok ns) ∧
      (NameSource.literal s).args.toList.map StreamArg.tokens =
        ns.toList.map (fun n => toString n.toNat ++ "u8") ∧
      routing s = hashStream ns ∧
      (∀ i : Fin 16, ∃ d, Hash.nibbleAt s (UInt8.ofNat i.val) = .ok d ∧
        ns.get i = UInt8.ofNat d.val ∧
        ns.get i = ((Hash.ofString s >>> UInt64.ofNat (i.val * 4)) &&& 15).toUInt8) ∧
      (∀ n ∈ ns, n < 16) ∧ (hashStream ns).stream?.isSome = true ∧
      ∑ i : Fin 16, (ns.get i).toNat * 16 ^ i.val = (Hash.ofString s).toNat) ∧
    (∀ n : UInt8, 16 ≤ n →
      Hash.nibbleAt s n = .error (if n < 64 then .shiftRight else .multiply)) ∧
    (∀ p q : NameSource, p.name value = s → q.name value = t →
      ∃ xs ys r, p.numbers value = .ok xs ∧ q.numbers value = .ok ys ∧
        idEq (named (hashStream xs)) (named (hashStream ys)) = some r ∧
        (r = true ↔ Hash.ofString s = Hash.ofString t)) := by
  refine ⟨(Hash.ofStringByIndex_eq s).symm, ⟨Hash.numbers s, ?_⟩, ?_, ?_⟩
  · refine ⟨?_, ?_, routing_eq s, ?_, ?_, ?_, ?_⟩
    · rintro source rfl
      exact source.numbers_eq value
    · rw [NameSource.args_literal, Vector.toList_map, List.map_map]
      rfl
    · intro i
      refine ⟨_, Hash.nibbleAt_ofNat s i, Hash.get_numbers s i, ?_⟩
      rw [Hash.get_numbers, Hash.ofNat_nibble _ i.isLt]
    · intro n hn
      exact Hash.lt_of_mem_numbers hn
    · rw [stream?_numbers, Option.isSome_some]
    · exact Hash.sum_numbers s
  · intro n hn
    rw [Hash.nibbleAt_eq, if_neg (UInt8.not_lt.mpr hn)]
  · rintro p q rfl rfl
    obtain ⟨r, hr, hiff⟩ := exists_idEq_numbers (p.name value) (q.name value)
    exact ⟨_, _, r, p.numbers_eq value, q.numbers_eq value, hr, hiff⟩

/-- There is no seventeenth nibble, and none at position 64 either. Two names that
    differ in a letter differ, also if one of them is computed. -/
theorem name_streams_agree_at_letter :
    Hash.nibbleAt "u8" 16 = .error .shiftRight ∧
    Hash.nibbleAt "u8" 64 = .error .multiply ∧
    ∃ xs ys, (NameSource.literal "u8").numbers (fun _ => "i8") = .ok xs ∧
      (NameSource.expression "NAME").numbers (fun _ => "i8") = .ok ys ∧
      idEq (named (hashStream xs)) (named (hashStream ys)) = some false := by
  obtain ⟨-, -, hbehind, hsources⟩ := name_streams_agree (fun _ => "i8") "u8" "i8"
  have hhash : Hash.ofString "u8" ≠ Hash.ofString "i8" := by decide +kernel
  obtain ⟨xs, ys, r, hxs, hys, hr, hiff⟩ := hsources (.literal "u8") (.expression "NAME") rfl rfl
  refine ⟨hbehind 16 (by decide), hbehind 64 (by decide), xs, ys, hxs, hys, ?_⟩
  rw [hr, Option.some.injEq, ← Bool.not_eq_true, hiff]
  exact hhash

end Ty

end KindSeq
