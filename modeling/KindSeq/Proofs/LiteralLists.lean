/-
  KindSeq.Proofs.LiteralLists

  Lists of integer literals. They are evaluated from the left and given up at the first
  rejection, so a list is a type exactly if each literal is one (`intsType_eq_ok_iff`), and
  otherwise its error is that of the first literal that is none
  (`intsType_eq_error_iff`). Both are statements about positions: the types of the
  literals are the elements, in the same order, and what stands behind the first rejection
  is not looked at.

  The expansion to tokens goes the same way: what a list of literals expands to is a text
  that spells its type, or that raises its error (`expands_intsType`). How a text becomes a
  list of literals is told apart from this: it is read one literal at a time, each up to its
  comma (`parseExprs?_of_commaSeparated`).
-/

import KindSeq.Proofs.Concatenation
import KindSeq.Proofs.LiteralArithmetic

namespace KindSeq.Expansion

open LitExpr

/-! ## Values from the left -/

theorem intValues_eq_ok_iff {es : List LitExpr} {vs : List Int} :
    intValues es = .ok vs ↔ es.map eval = vs.map .ok := by
  induction es generalizing vs with
  | nil => simp [intValues, eq_comm]
  | cons e es ih =>
    rw [intValues, bind_eq_ok_iff, List.map_cons]
    constructor
    · rintro ⟨v, hv, hrest⟩
      obtain ⟨ws, hws, h⟩ := bind_eq_ok_iff.mp hrest
      obtain rfl := Except.ok.inj h
      rw [hv, ih.mp hws, List.map_cons]
    · intro h
      cases vs with
      | nil => exact absurd h (by simp)
      | cons v ws =>
        obtain ⟨hv, hws⟩ := List.cons.inj h
        exact ⟨v, hv, bind_eq_ok_iff.mpr ⟨ws, ih.mpr hws, rfl⟩⟩

/-- `err` is the rejection of the first literal that is rejected. -/
def FirstRejection (es : List LitExpr) (err : LiteralError) : Prop :=
  ∃ before e after, es = before ++ e :: after ∧ (∀ d ∈ before, ∃ t, intType d = .ok t) ∧
    intType e = .error err

theorem firstRejection_cons_iff {e : LitExpr} {es : List LitExpr} {err : LiteralError} :
    FirstRejection (e :: es) err ↔
      intType e = .error err ∨ (∃ t, intType e = .ok t) ∧ FirstRejection es err := by
  constructor
  · rintro ⟨before, d, after, hsplit, hbefore, hd⟩
    cases before with
    | nil =>
      obtain ⟨rfl, -⟩ := List.cons.inj hsplit
      exact .inl hd
    | cons b rest =>
      obtain ⟨rfl, rfl⟩ := List.cons.inj hsplit
      obtain ⟨hb, hrest⟩ := List.forall_mem_cons.mp hbefore
      exact .inr ⟨hb, rest, d, after, rfl, hrest, hd⟩
  · rintro (he | ⟨he, before, d, after, rfl, hbefore, hd⟩)
    · exact ⟨[], e, es, rfl, by simp, he⟩
    · exact ⟨e :: before, d, after, rfl, List.forall_mem_cons.mpr ⟨he, hbefore⟩, hd⟩

theorem intType_eq_ok_iff_eval {e : LitExpr} {t : Ty} :
    intType e = .ok t ↔ ∃ v, e.eval = .ok v ∧ Ty.intLit v = t := by
  simp only [intType_eq_ok_iff, eval_eq_ok_iff, and_assoc]

theorem intType_eq_error_iff {e : LitExpr} {err : LiteralError} :
    intType e = .error err ↔ e.eval = .error err := by
  rw [intType]
  cases e.eval with
  | error err' => simp [Except.map]
  | ok v => simp [Except.map]

theorem intValues_eq_error_iff {es : List LitExpr} {err : LiteralError} :
    intValues es = .error err ↔ FirstRejection es err := by
  induction es with
  | nil => simp [intValues, FirstRejection]
  | cons e es ih =>
    -- A literal that is accepted leaves the error to those behind it.
    have hrest : ∀ v, (do return v :: (← intValues es)) = Except.error err ↔
        intValues es = .error err := by
      intro v
      rw [bind_eq_error_iff]
      simp [pure, Except.pure]
    have haccepted : (∃ t, intType e = .ok t) ↔ ∃ v, e.eval = .ok v := by
      simp [intType_eq_ok_iff_eval]
    rw [intValues, bind_eq_error_iff, firstRejection_cons_iff, intType_eq_error_iff, haccepted]
    simp only [hrest, ih, exists_and_right]

/-! ## Lists of types -/

theorem map_intType_eq_iff {es : List LitExpr} {xs : List Ty} :
    es.map intType = xs.map .ok ↔ ∃ vs, intValues es = .ok vs ∧ xs = vs.map Ty.intLit := by
  simp only [intValues_eq_ok_iff]
  induction es generalizing xs with
  | nil => simp [eq_comm]
  | cons e es ih =>
    constructor
    · intro h
      cases xs with
      | nil => exact absurd h (by simp)
      | cons x xs =>
        obtain ⟨hx, hxs⟩ := List.cons.inj h
        obtain ⟨v, hv, rfl⟩ := intType_eq_ok_iff_eval.mp hx
        obtain ⟨vs, hvs, rfl⟩ := ih.mp hxs
        exact ⟨v :: vs, by rw [List.map_cons, List.map_cons, hv, hvs], rfl⟩
    · rintro ⟨vs, h, rfl⟩
      cases vs with
      | nil => exact absurd h (by simp)
      | cons v vs =>
        obtain ⟨hv, hvs⟩ := List.cons.inj h
        rw [List.map_cons, intType_eq_ok_iff_eval.mpr ⟨v, hv, rfl⟩, ih.mpr ⟨vs, hvs, rfl⟩]
        rfl

/-- A list of literals that is accepted is a list with the type of each literal in its
    place. -/
theorem intsType_eq_ok_iff {es : List LitExpr} {t : Ty} :
    intsType es = .ok t ↔
      ∃ xs, es.map intType = xs.map .ok ∧ t = Sequence.toTy ⟨.list, .int, xs⟩ := by
  rw [intsType, bind_eq_ok_iff]
  constructor
  · rintro ⟨vs, hvs, h⟩
    exact ⟨_, map_intType_eq_iff.mpr ⟨vs, hvs, rfl⟩, (Except.ok.inj h).symm⟩
  · rintro ⟨xs, hxs, rfl⟩
    obtain ⟨vs, hvs, rfl⟩ := map_intType_eq_iff.mp hxs
    exact ⟨vs, hvs, rfl⟩

theorem intsType_eq_error_iff {es : List LitExpr} {err : LiteralError} :
    intsType es = .error err ↔ FirstRejection es err := by
  rw [intsType, bind_eq_error_iff, intValues_eq_error_iff]
  simp [pure, Except.pure]

/-- The types of literals are integers, so they make a sequence. -/
theorem sequence?_of_map_intType {es : List LitExpr} {xs : List Ty}
    (h : es.map intType = xs.map .ok) :
    (Sequence.toTy ⟨.list, .int, xs⟩).sequence? = some ⟨.list, .int, xs⟩ := by
  refine Ty.sequence?_eq_some_iff.mpr ⟨rfl, ?_⟩
  obtain ⟨vs, -, rfl⟩ := map_intType_eq_iff.mp h
  intro x hx
  obtain ⟨v, -, rfl⟩ := List.mem_map.mp hx
  exact Ty.admits_ofIntDigits _

/-- A list of literals has a type if each of them has. -/
theorem exists_intsType_iff {es : List LitExpr} :
    (∃ t, intsType es = .ok t) ↔ ∀ e ∈ es, ∃ t, intType e = .ok t := by
  constructor
  · rintro ⟨t, ht⟩ e he
    obtain ⟨xs, hxs, -⟩ := intsType_eq_ok_iff.mp ht
    have hmem : intType e ∈ xs.map Except.ok := hxs ▸ List.mem_map_of_mem he
    obtain ⟨x, -, hx⟩ := List.mem_map.mp hmem
    exact ⟨x, hx.symm⟩
  · intro h
    cases ht : intsType es with
    | ok t => exact ⟨t, rfl⟩
    | error err =>
      -- The literal that is rejected first would be accepted.
      obtain ⟨before, e, after, rfl, -, he⟩ := intsType_eq_error_iff.mp ht
      obtain ⟨t, hok⟩ := h e (by simp)
      exact absurd (hok.symm.trans he) (by simp)

theorem intsType_append {ds es : List LitExpr} {a b : Ty} (ha : intsType ds = .ok a)
    (hb : intsType es = .ok b) : ∃ c, a.concat b = some c ∧ intsType (ds ++ es) = .ok c := by
  obtain ⟨xs, hxs, rfl⟩ := intsType_eq_ok_iff.mp ha
  obtain ⟨ys, hys, rfl⟩ := intsType_eq_ok_iff.mp hb
  refine ⟨Sequence.toTy ⟨.list, .int, xs ++ ys⟩, ?_, ?_⟩
  · rw [Ty.concat_eq (sequence?_of_map_intType hxs) (sequence?_of_map_intType hys),
      if_pos ⟨rfl, rfl, rfl⟩]
  · refine intsType_eq_ok_iff.mpr ⟨xs ++ ys, ?_, rfl⟩
    rw [List.map_append, hxs, hys, List.map_append]

/-! ## Tokens -/

/-- The tokens of the types that literals expand to: a path, and the tokens of the
    arguments in angle brackets. -/
inductive Spells : Ty → String → Prop where
  | nibble (d : Nibble) :
    Spells (.nibble d) ("::tola_kinds::primitives::nibble::X" ++ Nibble.hexDigit d)
  | dEnd : Spells .dEnd "::tola_kinds::kind::int::DEnd"
  | dig {d ds : Ty} {s r : String} : Spells d s → Spells ds r →
    Spells (.dig d ds) ("::tola_kinds::kind::int::Dig<" ++ s ++ "," ++ r ++ ">")
  | int {ds : Ty} {s : String} : Spells ds s →
    Spells (.int ds) ("::tola_kinds::kind::int::Int<" ++ s ++ ">")
  | kind (k : Kind) : Spells (.kind k) ("::" ++ k.path)
  | hNil : Spells .hNil "::tola_kinds::seq::HNil"
  | hCons {x e : Ty} {s r : String} : Spells x s → Spells e r →
    Spells (.hCons x e) ("::tola_kinds::seq::HCons<" ++ s ++ "," ++ r ++ ">")
  | list {k e : Ty} {s r : String} : Spells k s → Spells e r →
    Spells (.list k e) ("::tola_kinds::seq::List<" ++ s ++ "," ++ r ++ ">")

/-- The tokens of a result: those of a type, or those that make the compiler stop with the
    message of a rejection. -/
inductive Expands : Except LiteralError Ty → String → Prop where
  | type {t : Ty} {s : String} : Spells t s → Expands (.ok t) s
  | error (err : LiteralError) : Expands (.error err) (errorTokens err.message)

theorem spells_digitTokens (ds : Digits) : Spells (Ty.ofDigits ds) (digitTokens ds) := by
  induction ds with
  | nil => exact .dEnd
  | cons d ds ih =>
    have htokens : digitTokens (d :: ds) =
        "::tola_kinds::kind::int::Dig<::tola_kinds::primitives::nibble::X" ++ Nibble.hexDigit d ++
          "," ++ digitTokens ds ++ ">" := rfl
    have hpath : "::tola_kinds::kind::int::Dig<" ++ "::tola_kinds::primitives::nibble::X" =
        "::tola_kinds::kind::int::Dig<::tola_kinds::primitives::nibble::X" := by decide
    have hdigit : "::tola_kinds::kind::int::Dig<" ++ "::tola_kinds::primitives::nibble::X" ++
        Nibble.hexDigit d = "::tola_kinds::kind::int::Dig<" ++
          ("::tola_kinds::primitives::nibble::X" ++ Nibble.hexDigit d) := String.append_assoc
    rw [htokens, ← hpath, hdigit]
    exact .dig (.nibble d) ih

theorem spells_intTokens (v : Int) : Spells (Ty.intLit v) (intTokens v) :=
  .int (spells_digitTokens _)

theorem spells_elemTokens (vs : List Int) :
    Spells (Ty.ofElems (vs.map Ty.intLit)) (elemTokens vs) := by
  induction vs with
  | nil => exact .hNil
  | cons v vs ih => exact .hCons (spells_intTokens v) ih

theorem spells_intsTokens (vs : List Int) :
    Spells (Sequence.toTy ⟨.list, .int, vs.map Ty.intLit⟩) (intsTokens vs) := by
  have htokens : intsTokens vs = "::tola_kinds::seq::List<::tola_kinds::kind::IntKind," ++
      elemTokens vs ++ ">" := rfl
  have hpath : "::tola_kinds::seq::List<" ++ ("::" ++ Kind.int.path) ++ "," =
      "::tola_kinds::seq::List<::tola_kinds::kind::IntKind," := by decide
  rw [htokens, ← hpath]
  exact .list (.kind .int) (spells_elemTokens vs)

theorem expands_intType (e : LitExpr) : Expands (intType e) (tokensOf intTokens e.eval) := by
  rw [intType]
  cases e.eval with
  | error err => exact .error err
  | ok v => exact .type (spells_intTokens v)

theorem expands_intsType (es : List LitExpr) :
    Expands (intsType es) (tokensOf intsTokens (intValues es)) := by
  rw [intsType]
  cases intValues es with
  | error err => exact .error err
  | ok vs => exact .type (spells_intsTokens vs)

/-- A list of literals is accepted as a whole or not at all. It has a type exactly if each
    of its literals has; the type is then a list of integers as long as the list of literals,
    with the type of each literal in its place. Otherwise its error is that of the first
    literal that is rejected. Joining two lists that are accepted joins their types. The
    tokens of a list of literals spell its type or its error, as those of a single literal
    do. -/
theorem literal_lists_are_all_or_nothing :
    (∀ es : List LitExpr,
      ((∃ t, intsType es = .ok t) ↔ ∀ e ∈ es, ∃ t, intType e = .ok t) ∧
      (∀ t, intsType es = .ok t → ∃ xs : List Ty, t.sequence? = some ⟨.list, .int, xs⟩ ∧
        Query.len.answer? [t] = some (.len es.length) ∧ es.map intType = xs.map .ok) ∧
      ∀ err, intsType es = .error err ↔ FirstRejection es err) ∧
    (∀ (ds es : List LitExpr) (a b : Ty), intsType ds = .ok a → intsType es = .ok b →
      ∃ c, a.concat b = some c ∧ intsType (ds ++ es) = .ok c) ∧
    (∀ es : List LitExpr, Expands (intsType es) (tokensOf intsTokens (intValues es))) ∧
    ∀ e : LitExpr, Expands (intType e) (tokensOf intTokens e.eval) := by
  refine ⟨?_, ?_, expands_intsType, expands_intType⟩
  · intro es
    refine ⟨exists_intsType_iff, ?_, fun err => intsType_eq_error_iff⟩
    intro t ht
    obtain ⟨xs, hxs, rfl⟩ := intsType_eq_ok_iff.mp ht
    have hseq := sequence?_of_map_intType hxs
    have hlen : xs.length = es.length := by
      have h := congrArg List.length hxs
      rw [List.length_map, List.length_map] at h
      exact h.symm
    refine ⟨xs, hseq, ?_, hxs⟩
    rw [Ty.len_of_sequence? hseq, hlen]
  · intro ds es a b ha hb
    exact intsType_append ha hb

/-- The list of `1` and `-2` is accepted, and its tokens spell it. In that of `1`, `4 / 2` and
    a name both the second and the third literal are rejected, and the second is reported. -/
theorem literal_lists_are_all_or_nothing_at_division :
    (∃ t, intsType [.integer 1, .neg (.integer 2)] = .ok t ∧
      Query.len.answer? [t] = some (.len 2) ∧
      Spells t (tokensOf intsTokens (intValues [.integer 1, .neg (.integer 2)]))) ∧
    intsType [.integer 1, .binary .div (.integer 4) (.integer 2), .other .plain] =
      .error .unsupportedOperator := by
  obtain ⟨hlists, -, htokens, -⟩ := literal_lists_are_all_or_nothing
  constructor
  · obtain ⟨hiff, hok, -⟩ := hlists [.integer 1, .neg (.integer 2)]
    obtain ⟨t, ht⟩ := hiff.mpr
      (List.forall_mem_cons.mpr ⟨⟨_, rfl⟩, List.forall_mem_singleton.mpr ⟨_, rfl⟩⟩)
    obtain ⟨xs, -, hlen, -⟩ := hok t ht
    have hexpands := htokens [.integer 1, .neg (.integer 2)]
    rw [ht] at hexpands
    cases hexpands with
    | type hspells => exact ⟨t, ht, hlen, hspells⟩
  · exact ((hlists _).2.2 _).mpr ⟨[.integer 1], .binary .div (.integer 4) (.integer 2), _, rfl,
      List.forall_mem_singleton.mpr ⟨_, rfl⟩, rfl⟩

end KindSeq.Expansion

/-! ## Source text -/

namespace KindSeq.Source

namespace TreeParser

/-- A parser that succeeds hands its answer and its cursor to what follows. -/
theorem bind_of_eq_some {α β : Type} {p : TreeParser α} {f : α → TreeParser β} {a : α}
    {c c' : Cursor} (h : p c = some (a, c')) : (p >>= f) c = f a c' := by
  show (p c).bind (fun r => f r.1 r.2) = f a c'
  rw [h, Option.bind_some]

theorem atEnd_bind_of_ne_nil {β : Type} {f : Bool → TreeParser β} {c : Cursor}
    (h : c.rest ≠ []) : (atEnd >>= f) c = f false c := by
  show f c.rest.isEmpty c = f false c
  rw [List.isEmpty_eq_false_iff.mpr h]

theorem expect_comma (joint : Bool) (rest echo : List Tree) :
    expect (.op ",") ⟨.punct ',' joint :: rest, echo⟩ =
      some ((), ⟨rest, .punct ',' joint :: echo⟩) := rfl

end TreeParser

/-- Trees that `p` reads as expressions with commas between them, and one behind the last
    or not. Whatever has been echoed before, each expression ends at its comma. -/
inductive CommaSeparated (p : TreeParser LitExpr) : List Tree → List LitExpr → Prop where
  | nil : CommaSeparated p [] []
  | last {ts : List Tree} {e : LitExpr} : ts ≠ [] →
    (∀ echo, ∃ echo', p ⟨ts, echo⟩ = some (e, ⟨[], echo'⟩)) → CommaSeparated p ts [e]
  | cons {item rest : List Tree} {joint : Bool} {e : LitExpr} {es : List LitExpr} :
    (∀ echo, ∃ echo', p ⟨item ++ .punct ',' joint :: rest, echo⟩ =
      some (e, ⟨.punct ',' joint :: rest, echo'⟩)) →
    CommaSeparated p rest es → CommaSeparated p (item ++ .punct ',' joint :: rest) (e :: es)

/-- Trees separated by commas are read one expression after the other. -/
theorem CommaSeparated.items {all ts : List Tree} {es : List LitExpr} {n : Nat}
    (h : CommaSeparated (Grammar.rules (Grammar.depthFor all) (.expr true)) ts es)
    (hn : ts.length < n) (echo : List Tree) :
    ∃ echo', parseExprs?.items all n ⟨ts, echo⟩ = some (es, ⟨[], echo'⟩) := by
  -- Each comma takes a tree away, so the bound on the steps outlasts the trees.
  induction h generalizing n echo with
  | nil =>
    obtain ⟨m, rfl⟩ : ∃ m, n = m + 1 := ⟨n - 1, by omega⟩
    exact ⟨echo, rfl⟩
  | last hne hitem =>
    obtain ⟨m, rfl⟩ : ∃ m, n = m + 1 := ⟨n - 1, by omega⟩
    obtain ⟨echo', hread⟩ := hitem echo
    refine ⟨echo', ?_⟩
    rw [parseExprs?.items, TreeParser.atEnd_bind_of_ne_nil hne, if_neg Bool.false_ne_true,
      TreeParser.bind_of_eq_some hread]
    rfl
  | @cons item rest joint e es hitem hrest ih =>
    obtain ⟨m, rfl⟩ : ∃ m, n = m + 1 := ⟨n - 1, by omega⟩
    obtain ⟨echo', hread⟩ := hitem echo
    have hlen : rest.length < m := by
      rw [List.length_append, List.length_cons] at hn
      omega
    obtain ⟨echo'', hitems⟩ := ih hlen (.punct ',' joint :: echo')
    refine ⟨echo'', ?_⟩
    rw [parseExprs?.items, TreeParser.atEnd_bind_of_ne_nil (by simp), if_neg Bool.false_ne_true,
      TreeParser.bind_of_eq_some hread, TreeParser.atEnd_bind_of_ne_nil (by simp),
      if_neg Bool.false_ne_true, TreeParser.bind_of_eq_some (TreeParser.expect_comma ..),
      TreeParser.bind_of_eq_some hitems]
    rfl

/-- A text whose trees are separated by commas is the list of their expressions. -/
theorem parseExprs?_of_commaSeparated {src : String} {ts : List Tree} {es : List LitExpr}
    (hlex : lex? src = some ts)
    (h : CommaSeparated (Grammar.rules (Grammar.depthFor ts) (.expr true)) ts es) :
    parseExprs? src = some es := by
  obtain ⟨echo, hitems⟩ := h.items (Nat.lt_succ_self ts.length) []
  rw [parseExprs?, hlex, Option.bind_eq_bind, Option.bind_some, TreeParser.parseAll?, hitems]

/-- `1, -2,` is a list of two expressions in spite of its last comma. -/
example : parseExprs? "1, -2," = some [.integer 1, .neg (.integer 2)] := by
  decide +kernel

end KindSeq.Source

namespace KindSeq.Expansion

/-- A text that is read as a list of literals stands for the type of the list in a program,
    and expands to tokens that spell this type or its error. -/
theorem intsLit_of_parseExprs? {src : String} {es : List LitExpr}
    (h : Source.parseExprs? src = some es) :
    (∀ env, Expr.eval env (.intsLit src) = (intsType es).mapError .literal) ∧
      ∃ s, expandInts src = some s ∧ Expands (intsType es) s := by
  refine ⟨fun env => ?_, _, ?_, expands_intsType es⟩
  · show Expr.ofLiteral intsType (Source.parseExprs? src) = _
    rw [h, Expr.ofLiteral]
  · rw [expandInts, h, Option.map_some]

/-- So does a text that is read as one literal. -/
theorem intLit_of_parseExpr? {src : String} {e : LitExpr} (h : Source.parseExpr? src = some e) :
    (∀ env, Expr.eval env (.intLit src) = (intType e).mapError .literal) ∧
      ∃ s, expandInt src = some s ∧ Expands (intType e) s := by
  refine ⟨fun env => ?_, _, ?_, expands_intType e⟩
  · show Expr.ofLiteral intType (Source.parseExpr? src) = _
    rw [h, Expr.ofLiteral]
  · rw [expandInt, h, Option.map_some]

end KindSeq.Expansion
