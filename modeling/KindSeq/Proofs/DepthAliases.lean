/-
  KindSeq.Proofs.DepthAliases

  The aliases of comparison depths form a chain. `Unfolds` says what a name means under
  a list of aliases, whatever their order: its alias is replaced by its body until no
  alias is left. Decimal names are different for different depths
  (`depthName_injective`), so each name has one alias and the alias of depth `k` can
  refer to that of depth `k - 1` only; by induction along the chain it means the Peano
  number `k` and nothing else (`unfolds_depthAliases_iff`). A comparison to that depth
  looks at `k` nibbles. Which texts ask for aliases is told apart from this
  (`expandDepths_eq_ok_iff`).
-/

import Mathlib.Data.List.Nodup
import Mathlib.Data.List.Range
import KindSeq.Expansion.Depth
import KindSeq.Proofs.DecimalNumerals
import KindSeq.Proofs.StreamDepth

namespace KindSeq.Expansion

/-! ## Names -/

/-- Different depths have different names: the number is read back from the name. -/
theorem depthName_injective : Function.Injective depthName := by
  intro m n h
  have hlist := congrArg String.toList h
  rw [depthName, depthName, String.toList_append, String.toList_append] at hlist
  have hdigits : toString m = toString n := String.toList_inj.mp (List.append_cancel_left hlist)
  exact Source.eq_of_toString_eq hdigits

/-- The alias of a depth. -/
def depthAlias : Nat → DepthAlias
  | 0 => zeroAlias
  | k + 1 => succAlias k

theorem name_depthAlias (k : Nat) : (depthAlias k).name = depthName k := by
  cases k with
  | zero => rfl
  | succ k => rfl

theorem depthAliases_eq (max : Nat) :
    depthAliases max = (List.range (max + 1)).map depthAlias := by
  rw [depthAliases, List.range_succ_eq_map, List.map_cons, List.map_map]
  rfl

theorem mem_depthAliases_iff {max : Nat} {a : DepthAlias} :
    a ∈ depthAliases max ↔ ∃ k ≤ max, a = depthAlias k := by
  simp only [depthAliases_eq, List.mem_map, List.mem_range, Nat.lt_succ_iff, eq_comm]

/-- The names are those of the depths up to the maximum, in order. -/
theorem map_name_depthAliases (max : Nat) :
    (depthAliases max).map DepthAlias.name = (List.range (max + 1)).map depthName := by
  rw [depthAliases_eq, List.map_map]
  exact List.map_congr_left fun k _ => name_depthAlias k

theorem nodup_names_depthAliases (max : Nat) :
    ((depthAliases max).map DepthAlias.name).Nodup := by
  rw [map_name_depthAliases]
  exact List.Nodup.map depthName_injective List.nodup_range

/-- Every alias behind the first adds a step to the one before it. -/
theorem isChain_depthAliases (max : Nat) :
    (depthAliases max).IsChain fun a b => b.body = .succ a.name := by
  rw [depthAliases_eq, List.isChain_map, List.isChain_range_succ]
  intro k _
  rw [name_depthAlias]
  rfl

/-- The text of the aliases: the first is `Z`, and every other one applies `S` to the name
    of the depth before it. -/
theorem map_tokens_depthAliases (max : Nat) :
    (depthAliases max).map DepthAlias.tokens =
      ("#[doc=" ++ zeroAlias.doc ++ "]pubtypeD0=Z;") :: (List.range max).map fun k =>
        "#[doc=" ++ (succAlias k).doc ++ "]pubtype" ++ depthName (k + 1) ++ "=" ++
          ("S<" ++ depthName k ++ ">") ++ ";" := by
  have hzero : zeroAlias.tokens = "#[doc=" ++ zeroAlias.doc ++ "]pubtypeD0=Z;" := by decide +kernel
  rw [depthAliases, List.map_cons, List.map_map, hzero]
  rfl

/-! ## Meanings -/

/-- What a name means under a list of aliases. -/
inductive Unfolds (as : List DepthAlias) : String → Ty → Prop where
  | zero {a : DepthAlias} (ha : a ∈ as) (hbody : a.body = .zero) : Unfolds as a.name .zero
  | succ {a : DepthAlias} {before : String} {t : Ty} (ha : a ∈ as) (hbody : a.body = .succ before)
      (hbefore : Unfolds as before t) : Unfolds as a.name (.succ t)

theorem unfolds_depthName {max k : Nat} (hk : k ≤ max) :
    Unfolds (depthAliases max) (depthName k) (Ty.peano k) := by
  have hmem : depthAlias k ∈ depthAliases max := mem_depthAliases_iff.mpr ⟨k, hk, rfl⟩
  induction k with
  | zero => exact .zero hmem rfl
  | succ k ih =>
    have hk : k ≤ max := by omega
    exact .succ hmem rfl (ih hk (mem_depthAliases_iff.mpr ⟨k, hk, rfl⟩))

/-- A name that means something is that of a depth, and means this depth. -/
theorem exists_of_unfolds {max : Nat} {name : String} {t : Ty}
    (h : Unfolds (depthAliases max) name t) : ∃ k ≤ max, name = depthName k ∧ t = Ty.peano k := by
  induction h with
  | zero ha hbody =>
    obtain ⟨k, hk, rfl⟩ := mem_depthAliases_iff.mp ha
    cases k with
    | zero => exact ⟨0, hk, rfl, rfl⟩
    | succ k => exact absurd hbody DepthBody.noConfusion
  | succ ha hbody _ ih =>
    obtain ⟨k, hk, rfl⟩ := mem_depthAliases_iff.mp ha
    cases k with
    | zero => exact absurd hbody DepthBody.noConfusion
    | succ k =>
      obtain ⟨j, -, hname, rfl⟩ := ih
      -- The alias refers to the name of depth `k`, so this is the depth `j`.
      obtain rfl := depthName_injective ((DepthBody.succ.inj hbody).trans hname)
      exact ⟨k + 1, hk, rfl, rfl⟩

theorem unfolds_depthAliases_iff {max : Nat} {name : String} {t : Ty} :
    Unfolds (depthAliases max) name t ↔ ∃ k ≤ max, name = depthName k ∧ t = Ty.peano k := by
  constructor
  · exact exists_of_unfolds
  · rintro ⟨k, hk, rfl, rfl⟩
    exact unfolds_depthName hk

/-! ## The maximum -/

theorem aliasesUpTo_eq_ok_iff {n : Nat} {alone : Bool} {as : List DepthAlias} :
    aliasesUpTo n alone = .ok as ↔
      1 ≤ n ∧ n < 2 ^ 64 ∧ alone = true ∧ as = depthAliases n := by
  have hpow : Nat.pow 2 64 = 2 ^ 64 := rfl
  rw [aliasesUpTo, hpow]
  constructor
  · intro h
    split at h
    · exact absurd h (by simp)
    · split at h
      · exact absurd h (by simp)
      · split at h
        · next halone => exact ⟨by omega, by omega, halone, (Except.ok.inj h).symm⟩
        · exact absurd h (by simp)
  · rintro ⟨hpos, hsmall, rfl, rfl⟩
    rw [if_neg (by omega), if_neg (by omega), if_pos rfl]

/-- Aliases of depths form a chain. A number asks for aliases if it is positive, fits in a
    word and stands alone, and then for all aliases up to it. The aliases are named after the
    depths from zero to the maximum, each once; the first stands for zero and every other
    one adds a step to the alias just before it. So the name of depth `k` has one meaning,
    the number `k`, other names have none, and a comparison of two streams to the depth of
    this name looks at their first `k` nibbles. The depth of identities is the sixteenth.
    The tokens spell each alias as a type of its name, `Z` or `S` of the name before. -/
theorem depth_aliases_form_chain :
    (∀ (n : Nat) (alone : Bool) (as : List DepthAlias), aliasesUpTo n alone = .ok as ↔
      1 ≤ n ∧ n < 2 ^ 64 ∧ alone = true ∧ as = depthAliases n) ∧
    ∀ max : Nat, 1 ≤ max →
      ((depthAliases max).map DepthAlias.tokens =
        ("#[doc=" ++ zeroAlias.doc ++ "]pubtypeD0=Z;") :: (List.range max).map fun k =>
          "#[doc=" ++ (succAlias k).doc ++ "]pubtype" ++ depthName (k + 1) ++ "=" ++
            ("S<" ++ depthName k ++ ">") ++ ";") ∧
      (depthAliases max).map DepthAlias.name = (List.range (max + 1)).map depthName ∧
      ((depthAliases max).map DepthAlias.name).Nodup ∧
      (∃ first, (depthAliases max).head? = some first ∧ first.body = .zero) ∧
      ((depthAliases max).IsChain fun a b => b.body = .succ a.name) ∧
      (∀ (name : String) (t : Ty), Unfolds (depthAliases max) name t ↔
        ∃ k ≤ max, name = depthName k ∧ t = Ty.peano k) ∧
      (∀ (k : Nat) (t : Ty), k ≤ max → Unfolds (depthAliases max) (depthName k) t →
        ∀ (a b : Ty) (f g : Nat → Nibble), a.Streams f → b.Streams g →
          ∃ r, Ty.streamEq a b t = some r ∧ (r = true ↔ ∀ i < k, f i = g i)) ∧
      (16 ≤ max → Unfolds (depthAliases max) (depthName 16) NibbleStream.depth) := by
  refine ⟨fun n alone as => aliasesUpTo_eq_ok_iff, ?_⟩
  intro max _
  refine ⟨map_tokens_depthAliases max, map_name_depthAliases max, nodup_names_depthAliases max,
    ⟨zeroAlias, rfl, rfl⟩, isChain_depthAliases max, fun _ _ => unfolds_depthAliases_iff, ?_,
    unfolds_depthName⟩
  intro k t _ ht a b f g ha hb
  obtain ⟨j, -, hname, rfl⟩ := exists_of_unfolds ht
  obtain rfl := depthName_injective hname
  exact ha.exists_streamEq hb k

/-- With sixteen aliases the last one is the depth of identities, and there is no
    seventeenth. The fifteenth does not see that two streams differ in the last of their
    numbers. -/
theorem depth_aliases_form_chain_at_sixteen :
    Unfolds (depthAliases 16) "D16" NibbleStream.depth ∧
    (∀ t, ¬ Unfolds (depthAliases 16) "D17" t) ∧
    aliasesUpTo 16 true = .ok (depthAliases 16) ∧
    ∃ t, Unfolds (depthAliases 16) "D15" t ∧
      Ty.streamEq (.hashStream #v[1, 2, 3, 4, 5, 6, 7, 8, 9, 10, 11, 12, 13, 14, 15, 0])
        (.hashStream #v[1, 2, 3, 4, 5, 6, 7, 8, 9, 10, 11, 12, 13, 14, 15, 1]) t =
          some true := by
  obtain ⟨haliases, hchain⟩ := depth_aliases_form_chain
  obtain ⟨-, -, -, -, -, hunfolds, hstreams, hdepth⟩ := hchain 16 (by decide)
  have hsixteen := (haliases 16 true _).mpr ⟨by decide, by decide, rfl, rfl⟩
  refine ⟨hdepth (by decide), ?_, hsixteen, ?_⟩
  · intro t h
    obtain ⟨k, hk, hname, -⟩ := (hunfolds "D17" t).mp h
    have hseventeen : depthName 17 = depthName k := hname
    have := depthName_injective hseventeen
    omega
  · have hmeaning := (hunfolds "D15" (Ty.peano 15)).mpr ⟨15, by decide, rfl, rfl⟩
    have hzero : ∀ i, Vector.get
        (#v[1, 2, 3, 4, 5, 6, 7, 8, 9, 10, 11, 12, 13, 14, 15, 0] : Vector UInt8 16) i < 16 := by
      decide
    have hone : ∀ i, Vector.get
        (#v[1, 2, 3, 4, 5, 6, 7, 8, 9, 10, 11, 12, 13, 14, 15, 1] : Vector UInt8 16) i < 16 := by
      decide
    obtain ⟨r, hr, hiff⟩ :=
      hstreams 15 _ (by decide) hmeaning _ _ _ _ (.cycle hzero) (.cycle hone)
    refine ⟨_, hmeaning, ?_⟩
    rw [hr, hiff.mpr (by decide)]

/-! ## Source text -/

theorem aliasesOf_eq_ok_iff {ts : List Source.Tree} {as : List DepthAlias} :
    aliasesOf ts = .ok as ↔ ∃ max spelling suffix, ts = [.literal spelling] ∧
      Source.Spelling.integer? spelling = some (max, suffix) ∧ 1 ≤ max ∧ max < 2 ^ 64 ∧
      as = depthAliases max := by
  constructor
  · intro h
    unfold aliasesOf at h
    split at h
    · exact absurd h (by simp)
    · exact absurd h (by simp)
    · next spelling rest =>
      split at h
      · exact absurd h (by simp)
      · next n suffix hinteger =>
        obtain ⟨hpos, hsmall, halone, rfl⟩ := aliasesUpTo_eq_ok_iff.mp h
        rw [List.isEmpty_iff.mp halone]
        exact ⟨n, spelling, suffix, rfl, hinteger, hpos, hsmall, rfl⟩
    · exact absurd h (by simp)
  · rintro ⟨max, spelling, suffix, rfl, hinteger, hpos, hsmall, rfl⟩
    rw [aliasesOf, hinteger]
    exact aliasesUpTo_eq_ok_iff.mpr ⟨hpos, hsmall, rfl, rfl⟩

/-- A text expands if it spells a positive number of a word, and then to all aliases up
    to this number. -/
theorem expandDepths_eq_ok_iff {src text : String} :
    expandDepths src = some (.ok text) ↔ ∃ max spelling suffix,
      Source.lex? src = some [.literal spelling] ∧
      Source.Spelling.integer? spelling = some (max, suffix) ∧ 1 ≤ max ∧ max < 2 ^ 64 ∧
      text = String.join ((depthAliases max).map DepthAlias.tokens) := by
  rw [expandDepths, Option.map_eq_some_iff]
  constructor
  · rintro ⟨ts, hlex, h⟩
    cases haliases : aliasesOf ts with
    | error err =>
      rw [haliases] at h
      exact absurd h (by simp [Except.map])
    | ok as =>
      obtain ⟨max, spelling, suffix, rfl, hinteger, hpos, hsmall, rfl⟩ :=
        aliasesOf_eq_ok_iff.mp haliases
      rw [haliases] at h
      exact ⟨max, spelling, suffix, hlex, hinteger, hpos, hsmall, (Except.ok.inj h).symm⟩
  · rintro ⟨max, spelling, suffix, hlex, hinteger, hpos, hsmall, rfl⟩
    refine ⟨_, hlex, ?_⟩
    rw [aliasesOf_eq_ok_iff.mpr ⟨max, spelling, suffix, rfl, hinteger, hpos, hsmall, rfl⟩]
    rfl

/-- The decimal form of a number expands to the aliases up to it. -/
theorem expandDepths_toString {max : Nat} (hpos : 1 ≤ max) (hsmall : max < 2 ^ 64) :
    expandDepths (toString max) =
      some (.ok (String.join ((depthAliases max).map DepthAlias.tokens))) :=
  expandDepths_eq_ok_iff.mpr ⟨max, toString max, "", Source.lex?_toString max,
    Source.integer?_toString max, hpos, hsmall, rfl⟩

end KindSeq.Expansion
