/-
  KindSeq.Proofs.NameCollisions

  When names share a hash. A round of the hash loses nothing: the multiplier is odd, so
  multiplying can be undone, and what was mixed in can be mixed out (`step_left_inj`,
  `step_right_inj`).
  Hence a common suffix neither makes two hashes equal nor different
  (`ofBytes_append_eq_iff`), and a single byte that differs is never made up for by
  what follows (`ofBytes_ne_of_byte_ne`). Two types whose qualified names differ in one
  byte have different identities, whatever their arguments.
-/

import KindSeq.Proofs.NameStreams

namespace KindSeq

namespace Hash

/-! ## One round -/

/-- The inverse of the multiplier. -/
def primeInverse : UInt64 := 0xce965057aff6957b

theorem prime_mul_primeInverse : prime * primeInverse = 1 := by decide

/-- Multiplying can be taken back, which leaves the byte mixed in. -/
theorem step_mul_primeInverse (h : UInt64) (b : UInt8) :
    step h b * primeInverse = h ^^^ b.toUInt64 := by
  rw [step, UInt64.mul_assoc, prime_mul_primeInverse, UInt64.mul_one]

theorem step_left_inj {h k : UInt64} {b : UInt8} : step h b = step k b ↔ h = k := by
  constructor
  · intro heq
    have hmixed : h ^^^ b.toUInt64 = k ^^^ b.toUInt64 := by
      rw [← step_mul_primeInverse, heq, step_mul_primeInverse]
    exact (UInt64.xor_left_inj _).mp hmixed
  · rintro rfl
    rfl

/-- Different bytes lead to different states. -/
theorem step_right_inj {h : UInt64} {b c : UInt8} : step h b = step h c ↔ b = c := by
  constructor
  · intro heq
    have hmixed : h ^^^ b.toUInt64 = h ^^^ c.toUInt64 := by
      rw [← step_mul_primeInverse, heq, step_mul_primeInverse]
    exact UInt8.toUInt64_inj.mp ((UInt64.xor_right_inj h).mp hmixed)
  · rintro rfl
    rfl

/-! ## All rounds -/

theorem foldl_step_left_inj {h k : UInt64} (w : List UInt8) :
    w.foldl step h = w.foldl step k ↔ h = k := by
  induction w generalizing h k with
  | nil => rfl
  | cons b w ih => rw [List.foldl_cons, List.foldl_cons, ih, step_left_inj]

theorem ofBytes_append (u w : List UInt8) : ofBytes (u ++ w) = w.foldl step (ofBytes u) :=
  List.foldl_append

/-- A common suffix neither creates nor hides a collision. -/
theorem ofBytes_append_eq_iff {u v w : List UInt8} :
    ofBytes (u ++ w) = ofBytes (v ++ w) ↔ ofBytes u = ofBytes v := by
  rw [ofBytes_append, ofBytes_append, foldl_step_left_inj]

theorem ofBytes_ne_of_byte_ne {b c : UInt8} (hbc : b ≠ c) (u w : List UInt8) :
    ofBytes (u ++ [b] ++ w) ≠ ofBytes (u ++ [c] ++ w) := by
  intro h
  rw [ofBytes_append_eq_iff, ofBytes_append, ofBytes_append] at h
  exact hbc (step_right_inj.mp h)

/-! ## Names -/

/-- The bytes of a name. -/
def bytes (name : String) : List UInt8 := name.toUTF8.toList

theorem ofString_eq_ofBytes (name : String) : ofString name = ofBytes (bytes name) := rfl

theorem bytes_append (s x : String) : bytes (s ++ x) = bytes s ++ bytes x := by
  have happend : (s ++ x).toUTF8 = s.toUTF8 ++ x.toUTF8 := String.toByteArray_append
  rw [bytes, bytes, bytes, happend, toList_eq_data, toList_eq_data, toList_eq_data,
    ByteArray.data_append, Array.toList_append]

/-- Byte strings of one length that differ in one place. -/
def DifferInOneByte (xs ys : List UInt8) : Prop :=
  ∃ u w b c, b ≠ c ∧ xs = u ++ [b] ++ w ∧ ys = u ++ [c] ++ w

theorem ofString_ne_of_differInOneByte {s t : String} (h : DifferInOneByte (bytes s) (bytes t)) :
    ofString s ≠ ofString t := by
  obtain ⟨u, w, b, c, hbc, hs, ht⟩ := h
  rw [ofString_eq_ofBytes, ofString_eq_ofBytes, hs, ht]
  exact ofBytes_ne_of_byte_ne hbc u w

theorem ofString_append_eq_iff {s t x : String} :
    ofString (s ++ x) = ofString (t ++ x) ↔ ofString s = ofString t := by
  rw [ofString_eq_ofBytes, ofString_eq_ofBytes, bytes_append, bytes_append,
    ofBytes_append_eq_iff, ofString_eq_ofBytes, ofString_eq_ofBytes]

end Hash

namespace Ty

/-- Types with names of different hashes have different identities. -/
theorem idEq_eq_false_of_hash_ne {a b i j : Ty} {f g : Head} (ha : a.id? = some i)
    (hb : b.id? = some j) (hf : a.heads.head? = some f) (hg : b.heads.head? = some g)
    (hhash : Hash.ofString f.name ≠ Hash.ofString g.name) : idEq i j = some false := by
  obtain ⟨r, hr⟩ := (wellSorted_of_id? ha).exists_idEq (wellSorted_of_id? hb)
  cases r with
  | false => exact hr
  | true =>
    obtain ⟨f', g', hf', hg', heq⟩ :=
      ((identified_of_id? a).1 i ha).exists_heads_of_idEq ((identified_of_id? b).1 j hb) hr
    rw [hf, Option.some.injEq] at hf'
    rw [hg, Option.some.injEq] at hg'
    rw [← hf', ← hg'] at heq
    exact absurd heq hhash

/-- The hash of a name never confuses two names that differ in one byte, and a common
    suffix neither creates nor hides a collision; both loops over the bytes give this
    hash. So the identities of such names differ, a suffix does not change how two names
    compare, and two types whose constructors are named so differ under the identities
    and under the equality of kind `type`. -/
theorem one_byte_tells_names_apart :
    (∀ (u w : List UInt8) (b c : UInt8), b ≠ c →
      Hash.ofBytes (u ++ [b] ++ w) ≠ Hash.ofBytes (u ++ [c] ++ w)) ∧
    (∀ u v w : List UInt8, Hash.ofBytes (u ++ w) = Hash.ofBytes (v ++ w) ↔
      Hash.ofBytes u = Hash.ofBytes v) ∧
    (∀ bs : ByteArray, Hash.walk bs bs.size 0 Hash.offsetBasis = Hash.ofBytes bs.toList) ∧
    (∀ s t x : String,
      idEq (nameId (s ++ x)) (nameId (t ++ x)) = idEq (nameId s) (nameId t)) ∧
    (∀ s t : String, Hash.DifferInOneByte (Hash.bytes s) (Hash.bytes t) →
      Hash.ofString s ≠ Hash.ofString t ∧ Hash.ofStringByIndex s ≠ Hash.ofStringByIndex t ∧
      idEq (nameId s) (nameId t) = some false) ∧
    ∀ (a b i j : Ty) (f g : Head), a.id? = some i → b.id? = some j →
      a.heads.head? = some f → b.heads.head? = some g →
      Hash.DifferInOneByte (Hash.bytes f.name) (Hash.bytes g.name) →
        idEq i j = some false ∧
        (a.isSized = true → b.isSized = true → Kind.type.eq a b = some false) := by
  refine ⟨?_, ?_, ?_, ?_, ?_, ?_⟩
  · intro u w b c hbc
    exact Hash.ofBytes_ne_of_byte_ne hbc u w
  · intro u v w
    exact Hash.ofBytes_append_eq_iff
  · exact Hash.walk_eq_ofBytes
  · intro s t x
    rw [idEq_nameId, idEq_nameId]
    simp only [Hash.ofString_append_eq_iff]
  · intro s t h
    have hne := Hash.ofString_ne_of_differInOneByte h
    refine ⟨hne, ?_, ?_⟩
    · rw [Hash.ofStringByIndex_eq, Hash.ofStringByIndex_eq]
      exact hne
    · rw [idEq_nameId, decide_eq_false hne]
  · intro a b i j f g ha hb hf hg h
    have hfalse := idEq_eq_false_of_hash_ne ha hb hf hg (Hash.ofString_ne_of_differInOneByte h)
    refine ⟨hfalse, ?_⟩
    intro hsizedA hsizedB
    have hvalueA : a.valueId? = some i := by rw [valueId?, if_pos hsizedA, ha]
    have hvalueB : b.valueId? = some j := by rw [valueId?, if_pos hsizedB, hb]
    show (a.valueId?.bind fun x => b.valueId?.bind fun y => x.idEq y) = some false
    rw [hvalueA, hvalueB]
    exact hfalse

/-- `u8` and `i8` differ in their first byte. The same type in the modules `shapes` and
    `shaped`, with an argument, differs in the last letter of the module. -/
theorem one_byte_tells_names_apart_at_modules :
    Kind.type.eq (.prim .u8) (.prim .i8) = some false ∧
    Kind.type.eq (apply ⟨"shapes::Tagged", true, none, .never⟩ [.prim .u8])
      (apply ⟨"shaped::Tagged", true, none, .never⟩ [.prim .u8]) = some false := by
  obtain ⟨-, -, -, -, -, htypes⟩ := one_byte_tells_names_apart
  have hdigits : Hash.DifferInOneByte (Hash.bytes "u8") (Hash.bytes "i8") :=
    ⟨[], [56], 117, 105, by decide, by decide +kernel, by decide +kernel⟩
  have hmodules :
      Hash.DifferInOneByte (Hash.bytes "shapes::Tagged") (Hash.bytes "shaped::Tagged") :=
    ⟨[115, 104, 97, 112, 101], [58, 58, 84, 97, 103, 103, 101, 100], 115, 100, by decide,
      by decide +kernel, by decide +kernel⟩
  refine ⟨(htypes (.prim .u8) (.prim .i8) _ _ _ _ rfl rfl rfl rfl hdigits).2 rfl rfl, ?_⟩
  exact (htypes (apply ⟨"shapes::Tagged", true, none, .never⟩ [.prim .u8])
    (apply ⟨"shaped::Tagged", true, none, .never⟩ [.prim .u8]) _ _ _ _ rfl rfl rfl rfl
    hmodules).2 rfl rfl

end Ty

end KindSeq
