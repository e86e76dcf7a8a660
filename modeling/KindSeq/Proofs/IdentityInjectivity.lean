/-
  KindSeq.Proofs.IdentityInjectivity

  Types with equal identities are one type, if the names in them are told apart.
  That takes two things. Constructors of one name have to be one constructor: the
  built-in ones are, but nothing keeps two definitions from sharing a name, say in
  two blocks of one module, so this is assumed of the definitions that occur
  (`DistinctNames`). And names of one hash have to be one name (`DistinctHashes`).
  The arguments follow by induction over both types at once. Types of the
  vocabulary need no assumption (`separated_of_vocabulary`).
-/

import Mathlib.Data.List.Nodup
import KindSeq.Declarations
import KindSeq.Proofs.Arithmetic
import KindSeq.Proofs.IdentityComparison

namespace KindSeq

/-! ## Names of constructors -/

namespace Head

/-- The constructors that are no nominal types. -/
def builtins : List Head :=
  [.bool true, .bool false, .noError, .kind .bool, .kind .int, .kind .type,
    .prim .bool, .prim .char, .prim .i8, .prim .i16, .prim .i32, .prim .i64, .prim .i128,
    .prim .isize, .prim .u8, .prim .u16, .prim .u32, .prim .u64, .prim .u128, .prim .usize,
    .prim .f32, .prim .f64, .prim .unit, .prim .str,
    .int, .pointer .ref, .pointer .refMut, .pointer .rawConst, .pointer .rawMut, .pointer .box,
    .slice, .array, .tuple, .fail, .list, .set]

/-- Whether a constructor is a nominal type. -/
def isNominal : Head → Bool
  | .nominal _ => true
  | _ => false

theorem mem_builtins {h : Head} (hh : h.isNominal = false) : h ∈ builtins := by
  cases h with
  | nominal d => exact absurd hh (by simp [isNominal])
  | bool b => revert b; decide
  | kind k => cases k <;> decide
  | prim p => cases p <;> decide
  | pointer p => cases p <;> decide
  | _ => decide

/-- The built-in constructors and the nominal types that programs use. -/
def vocabulary : List Head :=
  builtins ++ [Decl.option, Decl.result, Decl.phantom, Decl.vec, Decl.string, Decl.meters,
    Decl.seconds, Decl.unit, Decl.otherMeters, Decl.tagged, Decl.otherTagged, Decl.pair,
    Decl.hidden, Decl.falsy, Decl.negative, Decl.notABool].map .nominal

/-- The names of the vocabulary are different, and so are their hashes. -/
theorem nodup_hashes_vocabulary : (vocabulary.map fun h => Hash.ofString h.name).Nodup := by
  decide +kernel

theorem eq_of_hash {g h : Head} (hg : g ∈ vocabulary) (hh : h ∈ vocabulary)
    (heq : Hash.ofString g.name = Hash.ofString h.name) : g = h :=
  List.inj_on_of_nodup_map nodup_hashes_vocabulary hg hh heq

theorem mem_vocabulary {h : Head} (hh : h.isNominal = false) : h ∈ vocabulary :=
  List.mem_append_left _ (mem_builtins hh)

end Head

/-- No other constructor has the name of a definition. -/
def DistinctNames (hs : List Head) : Prop :=
  ∀ f ∈ hs, f.isNominal = true → ∀ g ∈ hs, g.name = f.name → g = f

instance (hs : List Head) : Decidable (DistinctNames hs) :=
  inferInstanceAs (Decidable (∀ f ∈ hs, f.isNominal = true → ∀ g ∈ hs, g.name = f.name → g = f))

theorem DistinctNames.mono {hs hs' : List Head} (h : DistinctNames hs') (hsub : hs ⊆ hs') :
    DistinctNames hs := fun f hf hnominal g hg => h f (hsub hf) hnominal g (hsub hg)

/-- Constructors of one name are one constructor, if this holds of definitions. -/
theorem DistinctNames.eq_of_name_eq {hs : List Head} (h : DistinctNames hs) {f g : Head}
    (hf : f ∈ hs) (hg : g ∈ hs) (hname : f.name = g.name) : f = g := by
  cases hfn : f.isNominal with
  | true => exact (h f hf hfn g hg hname.symm).symm
  | false =>
    cases hgn : g.isNominal with
    | true => exact h g hg hgn f hf hname
    | false =>
      exact Head.eq_of_hash (Head.mem_vocabulary hfn) (Head.mem_vocabulary hgn)
        (congrArg Hash.ofString hname)

/-- No two of these names share a hash. -/
def DistinctHashes (names : List String) : Prop :=
  ∀ m ∈ names, ∀ n ∈ names, Hash.ofString m = Hash.ofString n → m = n

instance (names : List String) : Decidable (DistinctHashes names) :=
  inferInstanceAs (Decidable (∀ m ∈ names, ∀ n ∈ names, Hash.ofString m = Hash.ofString n → m = n))

theorem DistinctHashes.mono {names names' : List String} (h : DistinctHashes names')
    (hsub : names ⊆ names') : DistinctHashes names :=
  fun m hm n hn => h m (hsub hm) n (hsub hn)

/-! ## Identities of one name, list and constructor -/

namespace Ty

theorem idEq_nameId_iff {m n : String} :
    idEq (nameId m) (nameId n) = some true ↔ Hash.ofString m = Hash.ofString n := by
  rw [nameId, nameId, idEq_named, routing, routing, stream?_ofStream, stream?_ofStream]
  simp only [Option.bind_some, Option.map_some, Option.some.injEq, decide_eq_true_eq]
  exact Hash.take_cycle_nibbles_inj

/-- Names can always be compared, and are so by their hashes. -/
theorem idEq_nameId (m n : String) :
    idEq (nameId m) (nameId n) = some (decide (Hash.ofString m = Hash.ofString n)) := by
  obtain ⟨r, hr⟩ := (WellSorted.nameId m).exists_idEq (WellSorted.nameId n)
  rw [hr, Option.some.injEq, Bool.eq_iff_iff, decide_eq_true_iff, ← idEq_nameId_iff, hr,
    Option.some.injEq]

theorem idEq_applied_iff {c d xs ys : Ty} :
    idEq (applied c xs) (applied d ys) = some true ↔
      idEq c d = some true ∧ idEq xs ys = some true := by
  rw [idEq, both_eq_some_iff]
  simp

theorem idEq_idCons_iff {e f es fs : Ty} :
    idEq (idCons e es) (idCons f fs) = some true ↔
      idEq e f = some true ∧ idEq es fs = some true := by
  rw [idEq, both_eq_some_iff]
  simp

theorem idEq_appliedId_iff {m n : String} {xs ys : Ty} :
    idEq (appliedId m xs) (appliedId n ys) = some true ↔
      Hash.ofString m = Hash.ofString n ∧ idEq xs ys = some true := by
  rw [appliedId, appliedId, idEq_applied_iff, idEq_nameId_iff]

/-- The identities of digits tell digit lists apart, their length included. -/
theorem eq_of_idEq_digitIds {ds es : Digits} (h : idEq (digitIds ds) (digitIds es) = some true) :
    ds = es := by
  induction ds generalizing es with
  | nil =>
    cases es with
    | nil => rfl
    | cons e es => exact absurd h (by simp [digitIds, idEq])
  | cons d ds ih =>
    cases es with
    | nil => exact absurd h (by simp [digitIds, idEq])
    | cons e es =>
      rw [digitIds, digitIds, idEq_idCons_iff] at h
      obtain ⟨hhead, htail⟩ := h
      have hde : d = e := by
        simpa [idEq_named, stream?, NibbleStream.take_const] using hhead
      rw [hde, ih htail]

/-- Lengths of arrays with an identity are told apart by their digits. -/
theorem arrayLength_inj {m n : Nat} (hm : m ≤ maxArray) (hn : n ≤ maxArray)
    (h : Digits.ofInt m = Digits.ofInt n) : m = n := by
  have hvalue : (m : Int) % 2 ^ 64 = (n : Int) % 2 ^ 64 := by
    rw [← Digits.value_ofInt, ← Digits.value_ofInt, h]
  simp only [maxArray] at hm hn
  omega

namespace Identified

/-- An identity starts with the name of the type's own constructor. -/
theorem exists_head {t i : Ty} (h : Identified .single t i) :
    ∃ g, t.heads.head? = some g ∧ (i = nameId g.name ∨ ∃ is, i = appliedId g.name is) := by
  cases h with
  | bool b => exact ⟨_, rfl, Or.inl rfl⟩
  | noError => exact ⟨_, rfl, Or.inl rfl⟩
  | kind k => exact ⟨_, rfl, Or.inl rfl⟩
  | prim p => exact ⟨_, rfl, Or.inl rfl⟩
  | nominal d => exact ⟨_, rfl, Or.inl rfl⟩
  | _ => exact ⟨_, rfl, Or.inr ⟨_, rfl⟩⟩

/-- Types whose identities are equal have constructors of one hash. -/
theorem exists_heads_of_idEq {a b i j : Ty} (ha : Identified .single a i)
    (hb : Identified .single b j) (h : idEq i j = some true) :
    ∃ f g, a.heads.head? = some f ∧ b.heads.head? = some g ∧
      Hash.ofString f.name = Hash.ofString g.name := by
  obtain ⟨f, hf, hi⟩ := ha.exists_head
  obtain ⟨g, hg, hj⟩ := hb.exists_head
  refine ⟨f, g, hf, hg, ?_⟩
  rcases hi with rfl | ⟨is, rfl⟩
  · rcases hj with rfl | ⟨js, rfl⟩
    · exact idEq_nameId_iff.mp h
    · exact absurd h (by simp [nameId, appliedId, idEq])
  · rcases hj with rfl | ⟨js, rfl⟩
    · exact absurd h (by simp [nameId, appliedId, idEq])
    · exact (idEq_appliedId_iff.mp h).1

section Injectivity

variable {H : Head → Prop}
  (hH : ∀ f g, H f → H g → Hash.ofString f.name = Hash.ofString g.name → f = g)

include hH

theorem head?_eq_of_idEq {a b i j : Ty} (ha : Identified .single a i)
    (hb : Identified .single b j) (hHa : ∀ f ∈ a.heads, H f) (hHb : ∀ g ∈ b.heads, H g)
    (h : idEq i j = some true) : a.heads.head? = b.heads.head? := by
  obtain ⟨f, g, hf, hg, hhash⟩ := ha.exists_heads_of_idEq hb h
  have hfg : f = g :=
    hH f g (hHa f (List.mem_of_mem_head? hf)) (hHb g (List.mem_of_mem_head? hg)) hhash
  rw [hf, hg, hfg]

/-- If the hash tells the constructors of two types apart, equal identities are
    identities of one type. -/
theorem eq_of_idEq {σ : IdSort} {a b i j : Ty} (ha : Identified σ a i) (hb : Identified σ b j)
    (hHa : ∀ f ∈ a.heads, H f) (hHb : ∀ g ∈ b.heads, H g) (h : idEq i j = some true) : a = b := by
  -- The constructors agree by their hashes, which fixes the rule that made the
  -- other identity; what is left are the arguments.
  induction ha generalizing b j with
  | bool c =>
    have hhead := head?_eq_of_idEq hH (.bool c) hb hHa hHb h
    cases hb <;> cases hhead
    rfl
  | noError =>
    have hhead := head?_eq_of_idEq hH .noError hb hHa hHb h
    cases hb <;> cases hhead
    rfl
  | kind k =>
    have hhead := head?_eq_of_idEq hH (.kind k) hb hHa hHb h
    cases hb <;> cases hhead
    rfl
  | prim p =>
    have hhead := head?_eq_of_idEq hH (.prim p) hb hHa hHb h
    cases hb <;> cases hhead
    rfl
  | int ds =>
    have hhead := head?_eq_of_idEq hH (.int ds) hb hHa hHb h
    cases hb with
    | int es => rw [eq_of_idEq_digitIds (idEq_appliedId_iff.mp h).2]
    | _ => cases hhead
  | pointer p hi ih =>
    have hhead := head?_eq_of_idEq hH (.pointer p hi) hb hHa hHb h
    cases hb with
    | pointer q hj =>
      cases hhead
      have harg := (idEq_idCons_iff.mp (idEq_appliedId_iff.mp h).2).1
      rw [ih hj (List.forall_mem_cons.mp hHa).2 (List.forall_mem_cons.mp hHb).2 harg]
    | _ => cases hhead
  | slice hi ih =>
    have hhead := head?_eq_of_idEq hH (.slice hi) hb hHa hHb h
    cases hb with
    | slice hj =>
      have harg := (idEq_idCons_iff.mp (idEq_appliedId_iff.mp h).2).1
      rw [ih hj (List.forall_mem_cons.mp hHa).2 (List.forall_mem_cons.mp hHb).2 harg]
    | _ => cases hhead
  | fail hi ih =>
    have hhead := head?_eq_of_idEq hH (.fail hi) hb hHa hHb h
    cases hb with
    | fail hj =>
      have harg := (idEq_idCons_iff.mp (idEq_appliedId_iff.mp h).2).1
      rw [ih hj (List.forall_mem_cons.mp hHa).2 (List.forall_mem_cons.mp hHb).2 harg]
    | _ => cases hhead
  | array hm hi ih =>
    have hhead := head?_eq_of_idEq hH (.array hm hi) hb hHa hHb h
    cases hb with
    | array hn hj =>
      rw [idEq_appliedId_iff, idEq_idCons_iff, idEq_idCons_iff, idEq_appliedId_iff] at h
      obtain ⟨-, helem, ⟨-, hlen⟩, -⟩ := h
      rw [heads, List.forall_mem_cons, List.forall_mem_cons] at hHa hHb
      rw [ih hj hHa.2.2 hHb.2.2 helem, arrayLength_inj hm hn (eq_of_idEq_digitIds hlen)]
    | _ => cases hhead
  | tuple hi ih =>
    have hhead := head?_eq_of_idEq hH (.tuple hi) hb hHa hHb h
    cases hb with
    | tuple hj =>
      have hargs := (idEq_appliedId_iff.mp h).2
      rw [ih hj (List.forall_mem_cons.mp hHa).2 (List.forall_mem_cons.mp hHb).2 hargs]
    | _ => cases hhead
  | list k hi ih =>
    have hhead := head?_eq_of_idEq hH (.list k hi) hb hHa hHb h
    cases hb with
    | list l hj =>
      rw [idEq_appliedId_iff, idEq_idCons_iff, idEq_nameId_iff] at h
      obtain ⟨-, hkind, helems⟩ := h
      rw [heads, heads, List.forall_mem_cons, List.forall_mem_append,
        List.forall_mem_singleton] at hHa hHb
      cases hH _ _ hHa.2.1 hHb.2.1 hkind
      rw [ih hj hHa.2.2 hHb.2.2 helems]
    | _ => cases hhead
  | set k hi ih =>
    have hhead := head?_eq_of_idEq hH (.set k hi) hb hHa hHb h
    cases hb with
    | set l hj =>
      rw [idEq_appliedId_iff, idEq_idCons_iff, idEq_nameId_iff] at h
      obtain ⟨-, hkind, helems⟩ := h
      rw [heads, heads, List.forall_mem_cons, List.forall_mem_append,
        List.forall_mem_singleton] at hHa hHb
      cases hH _ _ hHa.2.1 hHb.2.1 hkind
      rw [ih hj hHa.2.2 hHb.2.2 helems]
    | _ => cases hhead
  | nominal d =>
    have hhead := head?_eq_of_idEq hH (.nominal d) hb hHa hHb h
    cases hb with
    | nominal e =>
      cases hhead
      rfl
    | generic e hj => exact absurd h (by simp [nameId, appliedId, idEq])
    | _ => cases hhead
  | generic d hi ih =>
    have hhead := head?_eq_of_idEq hH (.generic d hi) hb hHa hHb h
    cases hb with
    | nominal e => exact absurd h (by simp [nameId, appliedId, idEq])
    | generic e hj =>
      cases hhead
      have hargs := (idEq_appliedId_iff.mp h).2
      rw [ih hj (List.forall_mem_cons.mp hHa).2 (List.forall_mem_cons.mp hHb).2 hargs]
    | _ => cases hhead
  | hNil =>
    cases hb with
    | hNil => rfl
    | hCons hy hrest => exact absurd h (by simp [idEq])
  | hCons hx hrest ihx ihrest =>
    cases hb with
    | hNil => exact absurd h (by simp [idEq])
    | hCons hy hrest' =>
      obtain ⟨hhead, htail⟩ := idEq_idCons_iff.mp h
      rw [heads, List.forall_mem_append] at hHa hHb
      rw [ihx hy hHa.1 hHb.1 hhead, ihrest hrest' hHa.2 hHb.2 htail]

end Injectivity

end Identified

end Ty

/-! ## Separated types -/

namespace Ty

/-- What it takes to tell two terms apart by their names: definitions that occur in them
    share their name with nothing else there, and the names have different hashes. -/
structure Separated (a b : Ty) : Prop where
  distinctNames : DistinctNames (a.heads ++ b.heads)
  distinctHashes : DistinctHashes (a.identityNames ++ b.identityNames)

instance (a b : Ty) : Decidable (Separated a b) :=
  decidable_of_iff (DistinctNames (a.heads ++ b.heads) ∧
      DistinctHashes (a.identityNames ++ b.identityNames))
    ⟨fun h => ⟨h.1, h.2⟩, fun h => ⟨h.distinctNames, h.distinctHashes⟩⟩

/-- Types of the vocabulary are separated. -/
theorem separated_of_vocabulary {a b : Ty} (ha : a.heads ⊆ Head.vocabulary)
    (hb : b.heads ⊆ Head.vocabulary) : Separated a b := by
  have hsub : a.heads ++ b.heads ⊆ Head.vocabulary := List.append_subset.mpr ⟨ha, hb⟩
  refine ⟨?_, ?_⟩
  · intro f hf _ g hg hname
    exact Head.eq_of_hash (hsub hg) (hsub hf) (congrArg Hash.ofString hname)
  · simp only [DistinctHashes, identityNames, ← List.map_append, List.forall_mem_map]
    intro f hf g hg heq
    rw [Head.eq_of_hash (hsub hf) (hsub hg) heq]

/-- What is made of the constructors of separated terms is separated. -/
theorem Separated.of_subset {a b c d : Ty} (h : Separated a b)
    (hc : c.heads ⊆ a.heads ++ b.heads) (hd : d.heads ⊆ a.heads ++ b.heads) : Separated c d where
  distinctNames := h.distinctNames.mono (List.append_subset.mpr ⟨hc, hd⟩)
  distinctHashes := by
    refine h.distinctHashes.mono ?_
    simp only [identityNames, ← List.map_append]
    exact List.map_subset _ (List.append_subset.mpr ⟨hc, hd⟩)

theorem Separated.mono {a b c d : Ty} (h : Separated a b) (hc : c.heads ⊆ a.heads)
    (hd : d.heads ⊆ b.heads) : Separated c d :=
  h.of_subset (List.subset_append_of_subset_left _ hc) (List.subset_append_of_subset_right _ hd)

/-- Constructors in separated terms are told apart by their hashes. -/
theorem Separated.head_eq_of_hash_eq {a b : Ty} (h : Separated a b) {f g : Head}
    (hf : f ∈ a.heads ++ b.heads) (hg : g ∈ a.heads ++ b.heads)
    (heq : Hash.ofString f.name = Hash.ofString g.name) : f = g := by
  have hname : ∀ e ∈ a.heads ++ b.heads, e.name ∈ a.identityNames ++ b.identityNames := by
    intro e he
    rw [identityNames, identityNames, ← List.map_append]
    exact List.mem_map_of_mem he
  have hnames : f.name = g.name :=
    h.distinctHashes f.name (hname f hf) g.name (hname g hg) heq
  exact h.distinctNames.eq_of_name_eq hf hg hnames

theorem eq_of_idEq_of_separated {a b i j : Ty} (hsep : Separated a b)
    (hi : a.id? = some i) (hj : b.id? = some j) (h : idEq i j = some true) : a = b := by
  have ha := (identified_of_id? a).1 i hi
  have hb := (identified_of_id? b).1 j hj
  exact ha.eq_of_idEq (fun f g => hsep.head_eq_of_hash_eq) hb
    (fun f hf => List.mem_append_left _ hf) (fun g hg => List.mem_append_right _ hg) h

end Ty

end KindSeq
