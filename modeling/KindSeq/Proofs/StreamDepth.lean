/-
  KindSeq.Proofs.StreamDepth

  A comparison of two streams to the depth `n` looks at their first `n` nibbles and at
  nothing else. `Streams` says which terms are streams and which nibble stands at each
  place, without heads and tails; the induction over the depth, which rotates both
  streams at each step, is in `NibbleStream.agree_peano`. Since a stream repeats itself
  after sixteen nibbles (`nth_mod`), a depth of sixteen or more sees all of it.
-/

import KindSeq.Proofs.StreamComparison

namespace KindSeq

namespace NibbleStream

/-- A stream repeats itself after one round of a hash. -/
theorem nth_mod (s : NibbleStream) (i : Nat) : s.nth (i % 16) = s.nth i := by
  cases s with
  | const n => rfl
  | cycle ns =>
    have hidx : Nibble.ofNat (i % 16) = Nibble.ofNat i := Fin.ext (Nat.mod_mod i 16)
    rw [nth, nth, hidx]

theorem take_eq_take_iff {a b : NibbleStream} {n : Nat} :
    a.take n = b.take n ↔ ∀ i < n, a.nth i = b.nth i := by
  simp only [take, List.map_inj_left, List.mem_range]

/-- Behind the first round there is nothing new to compare. -/
theorem take_eq_take_iff_of_le {a b : NibbleStream} {n : Nat} (hn : 16 ≤ n) :
    a.take n = b.take n ↔ a.take 16 = b.take 16 := by
  rw [take_eq_take_iff, take_eq_take_iff]
  constructor
  · intro h i hi
    exact h i (by omega)
  · intro h i _
    have hround : i % 16 < 16 := Nat.mod_lt i (by omega)
    rw [← nth_mod a, ← nth_mod b]
    exact h (i % 16) hround

end NibbleStream

namespace Ty

/-- The terms that are streams, each with its nibbles. Sixteen numbers are read in
    rotation. -/
inductive Streams : Ty → (Nat → Nibble) → Prop where
  | const (d : Nibble) : Streams (.constStream (.nibble d)) fun _ => d
  | cycle {ns : Vector UInt8 16} (hns : ∀ i : Fin 16, ns.get i < 16) :
      Streams (.hashStream ns) fun i => Nibble.ofNat ns[i % 16].toNat

theorem all_lt_iff {ns : Vector UInt8 16} :
    ns.all (· < 16) = true ↔ ∀ i : Fin 16, ns.get i < 16 := by
  rw [Vector.all_eq_true]
  simp only [decide_eq_true_eq]
  constructor
  · intro h i
    exact h i.val i.isLt
  · intro h i hi
    exact h ⟨i, hi⟩

theorem stream?_hashStream_eq_some {ns : Vector UInt8 16} {s : NibbleStream} :
    (hashStream ns).stream? = some s ↔
      (∀ i : Fin 16, ns.get i < 16) ∧ s = .cycle (ns.map fun n => Nibble.ofNat n.toNat) := by
  rw [stream?, ← all_lt_iff]
  split
  · next h => simp [h, eq_comm]
  · next h => simp [h]

theorem streams_iff {t : Ty} {f : Nat → Nibble} :
    t.Streams f ↔ ∃ s, t.stream? = some s ∧ s.nth = f := by
  have hnth : ∀ ns : Vector UInt8 16,
      (NibbleStream.cycle (ns.map fun n => Nibble.ofNat n.toNat)).nth =
        fun i => Nibble.ofNat ns[i % 16].toNat := by
    intro ns
    funext i
    exact Vector.getElem_map _ (Nibble.ofNat i).isLt
  constructor
  · rintro (d | hns)
    · exact ⟨.const d, rfl, rfl⟩
    · exact ⟨_, stream?_hashStream_eq_some.mpr ⟨hns, rfl⟩, hnth _⟩
  · rintro ⟨s, hs, rfl⟩
    cases t with
    | constStream n =>
      cases n with
      | nibble d =>
        obtain rfl := Option.some.inj hs
        exact .const d
      | _ => exact absurd hs (by simp [stream?])
    | hashStream ns =>
      obtain ⟨hns, rfl⟩ := stream?_hashStream_eq_some.mp hs
      rw [hnth]
      exact .cycle hns
    | _ => exact absurd hs (by simp [stream?])

/-- Streams can be compared to every depth, and are so by as many nibbles. -/
theorem Streams.exists_streamEq {a b : Ty} {f g : Nat → Nibble} (ha : a.Streams f)
    (hb : b.Streams g) (n : Nat) :
    ∃ r, streamEq a b (peano n) = some r ∧ (r = true ↔ ∀ i < n, f i = g i) := by
  obtain ⟨x, hx, rfl⟩ := streams_iff.mp ha
  obtain ⟨y, hy, rfl⟩ := streams_iff.mp hb
  refine ⟨decide (x.take n = y.take n), ?_, ?_⟩
  · rw [streamEq, hx, hy]
    exact NibbleStream.agree_peano x y n
  · rw [decide_eq_true_iff, NibbleStream.take_eq_take_iff]

theorem exists_streams_of_streamEq {a b depth : Ty} {r : Bool}
    (h : streamEq a b depth = some r) : ∃ f g, a.Streams f ∧ b.Streams g := by
  obtain ⟨x, hx, hrest⟩ := Option.bind_eq_some_iff.mp h
  obtain ⟨y, hy, -⟩ := Option.bind_eq_some_iff.mp hrest
  exact ⟨x.nth, y.nth, streams_iff.mpr ⟨x, hx, rfl⟩, streams_iff.mpr ⟨y, hy, rfl⟩⟩

theorem streamEq_eq_true_iff {a b : Ty} {n : Nat} :
    streamEq a b (peano n) = some true ↔
      ∃ f g, a.Streams f ∧ b.Streams g ∧ ∀ i < n, f i = g i := by
  constructor
  · intro h
    obtain ⟨f, g, ha, hb⟩ := exists_streams_of_streamEq h
    obtain ⟨r, hr, hiff⟩ := ha.exists_streamEq hb n
    rw [h, Option.some.injEq] at hr
    exact ⟨f, g, ha, hb, hiff.mp hr.symm⟩
  · rintro ⟨f, g, ha, hb, hfg⟩
    obtain ⟨r, hr, hiff⟩ := ha.exists_streamEq hb n
    rw [hr, hiff.mpr hfg]

/-- A depth of one round or more is as good as the depth of identities. -/
theorem streamEq_peano_of_le (a b : Ty) {n : Nat} (hn : 16 ≤ n) :
    streamEq a b (peano n) = streamEq a b NibbleStream.depth := by
  rw [NibbleStream.depth, streamEq_peano, streamEq_peano]
  simp only [NibbleStream.take_eq_take_iff_of_le hn]

/-- To one round, hash streams are compared by all of their numbers. -/
theorem streamEq_hashStream_iff {ns ms : Vector UInt8 16} (hns : ∀ i : Fin 16, ns.get i < 16)
    (hms : ∀ i : Fin 16, ms.get i < 16) :
    streamEq (hashStream ns) (hashStream ms) (peano 16) = some true ↔ ns = ms := by
  obtain ⟨r, hr, hiff⟩ := (Streams.cycle hns).exists_streamEq (.cycle hms) 16
  rw [hr, Option.some.injEq, hiff]
  constructor
  · intro h
    apply Vector.ext
    intro i hi
    have hn : ns[i].toNat < 16 := UInt8.lt_iff_toNat_lt.mp (hns ⟨i, hi⟩)
    have hm : ms[i].toNat < 16 := UInt8.lt_iff_toNat_lt.mp (hms ⟨i, hi⟩)
    have hval := congrArg Fin.val (h i hi)
    simp only [Nibble.ofNat_val, Nat.mod_eq_of_lt hi] at hval
    rw [Nat.mod_eq_of_lt hn, Nat.mod_eq_of_lt hm] at hval
    exact UInt8.toNat_inj.mp hval
  · rintro rfl i _
    rfl

/-- Comparing to the depth `n` is comparing `n` nibbles. A comparison exists exactly for
    two streams, of either form, and is true if their nibbles agree at every place below
    `n`. So it stays true at smaller depths, a depth of sixteen or more gives what
    the depth of identities gives, and there two hash streams agree exactly if all of
    their numbers do. -/
theorem streams_are_compared_to_depth :
    (∀ (a b : Ty) (f g : Nat → Nibble), a.Streams f → b.Streams g → ∀ n,
      ∃ r, streamEq a b (peano n) = some r ∧ (r = true ↔ ∀ i < n, f i = g i)) ∧
    (∀ (a b : Ty) (n : Nat), (streamEq a b (peano n)).isSome = true ↔
      ∃ f g, a.Streams f ∧ b.Streams g) ∧
    (∀ (a b : Ty) (m n : Nat), m ≤ n → streamEq a b (peano n) = some true →
      streamEq a b (peano m) = some true) ∧
    (∀ (a b : Ty) (n : Nat), 16 ≤ n →
      streamEq a b (peano n) = streamEq a b NibbleStream.depth) ∧
    ∀ ns ms : Vector UInt8 16, (∀ i : Fin 16, ns.get i < 16) → (∀ i : Fin 16, ms.get i < 16) →
      (streamEq (hashStream ns) (hashStream ms) (peano 16) = some true ↔
        ∀ i : Fin 16, ns.get i = ms.get i) := by
  refine ⟨?_, ?_, ?_, ?_, ?_⟩
  · intro a b f g ha hb n
    exact ha.exists_streamEq hb n
  · intro a b n
    constructor
    · intro h
      obtain ⟨r, hr⟩ := Option.isSome_iff_exists.mp h
      exact exists_streams_of_streamEq hr
    · rintro ⟨f, g, ha, hb⟩
      obtain ⟨r, hr, -⟩ := ha.exists_streamEq hb n
      rw [hr, Option.isSome_some]
  · intro a b m n hmn h
    obtain ⟨f, g, ha, hb, hfg⟩ := streamEq_eq_true_iff.mp h
    exact streamEq_eq_true_iff.mpr ⟨f, g, ha, hb, fun i hi => hfg i (by omega)⟩
  · intro a b n hn
    exact streamEq_peano_of_le a b hn
  · intro ns ms hns hms
    rw [streamEq_hashStream_iff hns hms]
    constructor
    · rintro rfl i
      rfl
    · intro h
      exact Vector.ext fun i hi => h ⟨i, hi⟩

/-- Two hash streams that differ in their last number only agree to the depth 15, and at
    no depth from 16 on. A constant stream agrees with a hash stream up to the first
    number that differs. -/
theorem streams_are_compared_to_depth_at_last_number :
    streamEq (hashStream #v[1, 2, 3, 4, 5, 6, 7, 8, 9, 10, 11, 12, 13, 14, 15, 0])
      (hashStream #v[1, 2, 3, 4, 5, 6, 7, 8, 9, 10, 11, 12, 13, 14, 15, 1]) (peano 15) =
        some true ∧
    (∀ n, 16 ≤ n →
      streamEq (hashStream #v[1, 2, 3, 4, 5, 6, 7, 8, 9, 10, 11, 12, 13, 14, 15, 0])
        (hashStream #v[1, 2, 3, 4, 5, 6, 7, 8, 9, 10, 11, 12, 13, 14, 15, 1]) (peano n) ≠
          some true) ∧
    streamEq (constStream (nibble 3))
      (hashStream #v[3, 3, 3, 4, 3, 3, 3, 3, 3, 3, 3, 3, 3, 3, 3, 3]) (peano 3) = some true ∧
    streamEq (constStream (nibble 3))
      (hashStream #v[3, 3, 3, 4, 3, 3, 3, 3, 3, 3, 3, 3, 3, 3, 3, 3]) (peano 4) = some false := by
  obtain ⟨hstreams, -, hmono, -, hall⟩ := streams_are_compared_to_depth
  have hzero : ∀ i, Vector.get
      (#v[1, 2, 3, 4, 5, 6, 7, 8, 9, 10, 11, 12, 13, 14, 15, 0] : Vector UInt8 16) i < 16 := by
    decide
  have hone : ∀ i, Vector.get
      (#v[1, 2, 3, 4, 5, 6, 7, 8, 9, 10, 11, 12, 13, 14, 15, 1] : Vector UInt8 16) i < 16 := by
    decide
  have hmixed : ∀ i, Vector.get
      (#v[3, 3, 3, 4, 3, 3, 3, 3, 3, 3, 3, 3, 3, 3, 3, 3] : Vector UInt8 16) i < 16 := by
    decide
  have hconst := hstreams _ _ _ _ (.const 3) (.cycle hmixed)
  refine ⟨?_, ?_, ?_, ?_⟩
  · obtain ⟨r, hr, hiff⟩ := hstreams _ _ _ _ (.cycle hzero) (.cycle hone) 15
    rw [hr, hiff.mpr (by decide)]
  · intro n hn h
    have hfull := hmono _ _ 16 n hn h
    exact absurd ((hall _ _ hzero hone).mp hfull 15) (by decide)
  · obtain ⟨r, hr, hiff⟩ := hconst 3
    rw [hr, hiff.mpr (by decide)]
  · obtain ⟨r, hr, hiff⟩ := hconst 4
    rw [hr, Option.some.injEq, ← Bool.not_eq_true, hiff]
    decide

end Ty

end KindSeq
