/-
  KindSeq.Proofs.StreamComparison

  Comparing two streams to a depth is comparing that many of their nibbles. The
  rotation of a hash stream is read through `nth`, so one induction over the
  depth serves both forms of streams. A hash stream shows its whole hash in the
  first sixteen nibbles, which are the digits of the hash as a number.
-/

import Mathlib.Tactic.Ring
import KindSeq.Proofs.Arithmetic
import KindSeq.Stream

namespace KindSeq

namespace NibbleStream

theorem nth_zero (s : NibbleStream) : s.nth 0 = s.head := by
  cases s with
  | const n => rfl
  | cycle ns => rfl

/-- Dropping the first nibble moves every other one place to the front. -/
theorem nth_tail (s : NibbleStream) (i : Nat) : s.tail.nth i = s.nth (i + 1) := by
  cases s with
  | const n => rfl
  | cycle ns =>
    -- The rotated vector is read one place on, modulo its length.
    have hidx : Nibble.ofNat ((Nibble.ofNat i).val + 1) = Nibble.ofNat (i + 1) := by
      apply Fin.ext
      rw [Nibble.ofNat_val, Nibble.ofNat_val, Nibble.ofNat_val, Nat.mod_add_mod]
    rw [tail, nth, nth, ← hidx]
    exact Vector.getElem_ofFn (Nibble.ofNat i).isLt

/-- The first `n` nibbles. -/
def take (n : Nat) (s : NibbleStream) : List Nibble := (List.range n).map s.nth

theorem take_succ (n : Nat) (s : NibbleStream) : s.take (n + 1) = s.head :: s.tail.take n := by
  have htail : s.nth ∘ Nat.succ = s.tail.nth := by
    funext i
    exact (nth_tail s i).symm
  rw [take, List.range_succ_eq_map, List.map_cons, List.map_map, htail, nth_zero, take]

/-- Agreement to the depth `n` is equality of the first `n` nibbles. -/
theorem agree_peano (a b : NibbleStream) (n : Nat) :
    a.agree b (Ty.peano n) = some (decide (a.take n = b.take n)) := by
  induction n generalizing a b with
  | zero => rfl
  | succ n ih =>
    rw [Ty.peano, agree, take_succ, take_succ, ih]
    by_cases h : a.head = b.head
    · simp [h]
    · simp [h]

theorem take_const (n : Nat) (d : Nibble) : (const d).take n = List.replicate n d := by
  rw [List.eq_replicate_iff]
  simp [take, nth]

end NibbleStream

namespace Digits

/-- The digits of a number, each by itself. -/
theorem ofNat_eq_map_range (w n : Nat) :
    ofNat w n = (List.range w).map fun i => Nibble.ofNat (n / 16 ^ i) := by
  induction w generalizing n with
  | zero => rfl
  | succ w ih =>
    have hshift : ∀ i, n / 16 / 16 ^ i = n / 16 ^ (i + 1) := by
      intro i
      rw [Nat.div_div_eq_div_mul, Nat.pow_succ, Nat.mul_comm 16]
    rw [List.range_succ_eq_map, List.map_cons, List.map_map, ofNat, ih]
    simp [Function.comp_def, hshift]

end Digits

namespace Hash

theorem nibble_eq (h : UInt64) (i : Nat) : nibble h i = Nibble.ofNat (h.toNat / 16 ^ i) := by
  rw [nibble, Nat.shiftRight_eq_div_pow, Nat.pow_mul]

/-- The first round of a hash stream is the hash, written in digits. -/
theorem take_cycle_nibbles (h : UInt64) :
    (NibbleStream.cycle (nibbles h)).take 16 = Digits.ofNat 16 h.toNat := by
  rw [Digits.ofNat_eq_map_range, NibbleStream.take]
  apply List.map_congr_left
  intro i hi
  have hi : i < 16 := List.mem_range.mp hi
  have hidx : (Nibble.ofNat i).val = i := by rw [Nibble.ofNat_val, Nat.mod_eq_of_lt hi]
  have hget : (nibbles h).get (Nibble.ofNat i) = nibble h (Nibble.ofNat i).val :=
    Vector.getElem_ofFn (Nibble.ofNat i).isLt
  rw [NibbleStream.nth, hget, hidx, nibble_eq]

/-- Hash streams that agree for one round carry the same hash. -/
theorem take_cycle_nibbles_inj {h k : UInt64} :
    (NibbleStream.cycle (nibbles h)).take 16 = (NibbleStream.cycle (nibbles k)).take 16 ↔ h = k := by
  constructor
  · intro heq
    rw [take_cycle_nibbles, take_cycle_nibbles] at heq
    have hval := congrArg Digits.value heq
    rw [Digits.value_ofNat, Digits.value_ofNat] at hval
    have hh : h.toNat < 16 ^ 16 := h.toNat_lt
    have hk : k.toNat < 16 ^ 16 := k.toNat_lt
    rw [Nat.mod_eq_of_lt hh, Nat.mod_eq_of_lt hk] at hval
    exact UInt64.toNat_inj.mp hval
  · rintro rfl
    rfl

end Hash

namespace Ty

/-- A term that spells a stream stands for it. -/
@[simp] theorem stream?_ofStream (s : NibbleStream) : (ofStream s).stream? = some s := by
  cases s with
  | const n => rfl
  | cycle ns =>
    have hback : ∀ d : Nibble, Nibble.ofNat (UInt8.ofNat d.val).toNat = d := by decide
    have hsmall : ∀ d : Nibble, UInt8.ofNat d.val < 16 := by decide
    have hall : (ns.map fun n => UInt8.ofNat n.val).all (· < 16) = true := by
      simp [hsmall]
    have hmap : (ns.map fun n => UInt8.ofNat n.val).map (fun n => Nibble.ofNat n.toNat) = ns := by
      rw [Vector.map_map]
      exact Vector.map_id'' hback ns
    simp only [ofStream, stream?, hall, hmap, if_true]

/-- To the depth `n`, streams are compared by `n` nibbles. -/
theorem streamEq_peano (s t : Ty) (n : Nat) :
    streamEq s t (peano n) =
      s.stream?.bind fun x => t.stream?.map fun y => decide (x.take n = y.take n) := by
  rw [streamEq]
  simp only [NibbleStream.agree_peano, Option.map_eq_bind]
  rfl

/-- To the depth of an identity, streams are compared by sixteen nibbles. -/
theorem streamEq_depth (s t : Ty) :
    streamEq s t NibbleStream.depth =
      s.stream?.bind fun x => t.stream?.map fun y => decide (x.take 16 = y.take 16) :=
  streamEq_peano s t 16

end Ty

end KindSeq
