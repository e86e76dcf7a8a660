/-
  KindSeq.Proofs.Inspection

  What inspection shows of a sequence. Every sequence can be inspected and shows one value
  for each element (`exists_reflect`). Booleans, and integers of sixteen digits, can be told
  apart by their values, and their values by their texts.

  The text of a sequence is written by a loop that puts a separator before each element but
  the first. The texts of booleans and integers hold no comma, so the first comma of the
  text ends the first element, and the elements can be read back one by one
  (`render_eq_render_iff`).
-/

import KindSeq.Proofs.DecimalNumerals
import KindSeq.Proofs.LiteralLists
import KindSeq.Proofs.WrappingSum

namespace KindSeq

/-! ## Texts of elements -/

namespace Reflected

/-- Whether a value is a boolean or an integer, and no type. -/
def isPlain : Reflected → Bool
  | .bool _ => true
  | .int _ => true
  | .type _ => false

theorem eq_bool_or_eq_int {x : Reflected} (hx : x.isPlain = true) :
    (∃ b, x = .bool b) ∨ ∃ v, x = .int v := by
  cases x with
  | bool b => exact .inl ⟨b, rfl⟩
  | int v => exact .inr ⟨v, rfl⟩
  | type name => exact absurd hx Bool.false_ne_true

/-- The text of an integer is made of digits, with a minus sign or not. -/
theorem isDigit_of_mem_text {v : Int} {c : Char} (h : c ∈ (text (.int v)).toList) :
    c = '-' ∨ c.isDigit = true := by
  rw [text, Int.toString_eq_repr, Int.repr_eq_if] at h
  split at h
  · exact .inr (Source.isDigit_of_mem_repr h)
  · rw [String.toList_append, List.mem_append] at h
    obtain hsign | hdigit := h
    · exact .inl (List.mem_singleton.mp hsign)
    · exact .inr (Source.isDigit_of_mem_repr hdigit)

theorem comma_not_mem_text {x : Reflected} (hx : x.isPlain = true) : ',' ∉ x.text.toList := by
  obtain ⟨b, rfl⟩ | ⟨v, rfl⟩ := eq_bool_or_eq_int hx
  · cases b <;> decide
  · intro h
    exact absurd (isDigit_of_mem_text h) (by decide)

theorem text_ne_empty {x : Reflected} (hx : x.isPlain = true) : x.text ≠ "" := by
  obtain ⟨b, rfl⟩ | ⟨v, rfl⟩ := eq_bool_or_eq_int hx
  · cases b <;> decide
  · rw [text, Int.toString_eq_repr, Int.repr_eq_if]
    split
    · exact Nat.repr_ne_empty
    · simp

theorem text_bool_ne_text_int (b : Bool) (v : Int) : text (.bool b) ≠ text (.int v) := by
  intro h
  -- Both words have an `e`, and integers have no letters.
  have he : 'e' ∈ (text (.int v)).toList := by
    rw [← h]
    cases b <;> decide
  exact absurd (isDigit_of_mem_text he) (by decide)

/-- Booleans and integers are told apart by their texts. -/
theorem eq_of_text_eq {x y : Reflected} (hx : x.isPlain = true) (hy : y.isPlain = true)
    (h : x.text = y.text) : x = y := by
  obtain ⟨b, rfl⟩ | ⟨v, rfl⟩ := eq_bool_or_eq_int hx
  · obtain ⟨c, rfl⟩ | ⟨w, rfl⟩ := eq_bool_or_eq_int hy
    · revert h
      cases b <;> cases c <;> decide
    · exact absurd h (text_bool_ne_text_int b w)
  · obtain ⟨c, rfl⟩ | ⟨w, rfl⟩ := eq_bool_or_eq_int hy
    · exact absurd h.symm (text_bool_ne_text_int c v)
    · rw [Source.eq_of_toString_int_eq h]

end Reflected

/-! ## The loop -/

namespace Rendering

/-- What is written for elements behind the first one. -/
def following (items : List Reflected) : List Char :=
  items.flatMap fun x => ", ".toList ++ x.text.toList

theorem toList_foldl_push (out : String) (items : List Reflected) :
    (items.foldl push ⟨out, false⟩).out.toList = out.toList ++ following items := by
  induction items generalizing out with
  | nil => simp [following]
  | cons x items ih =>
    have hstep : push ⟨out, false⟩ x = ⟨out ++ ", " ++ x.text, false⟩ := rfl
    rw [List.foldl_cons, hstep, ih]
    simp [following]

/-- The first element of plain ones ends at the first comma behind it. -/
theorem takeWhile_text {x : Reflected} (hx : x.isPlain = true) (items : List Reflected) :
    (x.text.toList ++ following items).takeWhile (· ≠ ',') = x.text.toList := by
  have hall : ∀ c ∈ x.text.toList, (decide (c ≠ ',')) = true := by
    intro c hc
    rw [decide_eq_true_iff]
    rintro rfl
    exact Reflected.comma_not_mem_text hx hc
  rw [List.takeWhile_append_of_pos hall]
  cases items with
  | nil => simp [following]
  | cons y ys => simp [following]

/-- Two texts that start with plain elements agree on the first one and on what follows. -/
theorem eq_of_text_append_eq {x y : Reflected} {xs ys : List Reflected} (hx : x.isPlain = true)
    (hy : y.isPlain = true)
    (h : x.text.toList ++ following xs = y.text.toList ++ following ys) :
    x = y ∧ following xs = following ys := by
  have htext : x.text.toList = y.text.toList := by
    rw [← takeWhile_text hx xs, h, takeWhile_text hy ys]
  obtain rfl := Reflected.eq_of_text_eq hx hy (String.toList_inj.mp htext)
  exact ⟨rfl, List.append_cancel_left h⟩

theorem following_inj {xs ys : List Reflected} (hxs : ∀ x ∈ xs, x.isPlain = true)
    (hys : ∀ y ∈ ys, y.isPlain = true) (h : following xs = following ys) : xs = ys := by
  induction xs generalizing ys with
  | nil =>
    cases ys with
    | nil => rfl
    | cons y ys => exact absurd h (by simp [following])
  | cons x xs ih =>
    cases ys with
    | nil => exact absurd h (by simp [following])
    | cons y ys =>
      -- Past the separator this is the text of a first element, which can be split off.
      obtain ⟨hx, hxs'⟩ := List.forall_mem_cons.mp hxs
      obtain ⟨hy, hys'⟩ := List.forall_mem_cons.mp hys
      have hcons : ∀ (z : Reflected) (zs : List Reflected),
          following (z :: zs) = ", ".toList ++ (z.text.toList ++ following zs) := by
        intro z zs
        rw [following, List.flatMap_cons, List.append_assoc, following]
      rw [hcons, hcons] at h
      obtain ⟨rfl, hrest⟩ := eq_of_text_append_eq hx hy (List.append_cancel_left h)
      rw [ih hxs' hys' hrest]

/-- What is written between the brackets. -/
def body : List Reflected → List Char
  | [] => []
  | x :: items => x.text.toList ++ following items

theorem body_inj {xs ys : List Reflected} (hxs : ∀ x ∈ xs, x.isPlain = true)
    (hys : ∀ y ∈ ys, y.isPlain = true) (h : body xs = body ys) : xs = ys := by
  -- Elements have texts that are not empty, so no element is written only if there is none.
  have hne : ∀ {z : Reflected} {zs : List Reflected}, z.isPlain = true → body (z :: zs) ≠ [] := by
    intro z zs hz hnil
    obtain ⟨htext, -⟩ := List.append_eq_nil_iff.mp hnil
    exact Reflected.text_ne_empty hz (String.toList_eq_nil_iff.mp htext)
  cases xs with
  | nil =>
    cases ys with
    | nil => rfl
    | cons y ys => exact absurd h.symm (hne (List.forall_mem_cons.mp hys).1)
  | cons x xs =>
    cases ys with
    | nil => exact absurd h (hne (List.forall_mem_cons.mp hxs).1)
    | cons y ys =>
      obtain ⟨hx, hxs'⟩ := List.forall_mem_cons.mp hxs
      obtain ⟨hy, hys'⟩ := List.forall_mem_cons.mp hys
      obtain ⟨rfl, hrest⟩ := eq_of_text_append_eq hx hy h
      rw [following_inj hxs' hys' hrest]

end Rendering

namespace Sequence

open Rendering in
theorem toList_render (form : Form) (items : List Reflected) :
    (render form items).toList =
      form.opening.toList ++ (body items ++ form.closing.toList) := by
  cases items with
  | nil => exact String.toList_append
  | cons x items =>
    have hfirst : push ⟨form.opening, true⟩ x = ⟨form.opening ++ x.text, false⟩ := rfl
    rw [render, List.foldl_cons, hfirst, String.toList_append, toList_foldl_push,
      String.toList_append, body, List.append_assoc, List.append_assoc, List.append_assoc]

/-- Sequences of booleans and integers are told apart by their texts. -/
theorem render_eq_render_iff {form : Form} {xs ys : List Reflected}
    (hxs : ∀ x ∈ xs, x.isPlain = true) (hys : ∀ y ∈ ys, y.isPlain = true) :
    render form xs = render form ys ↔ xs = ys := by
  constructor
  · intro h
    have hlist := congrArg String.toList h
    rw [toList_render, toList_render] at hlist
    have hbody := List.append_cancel_right (List.append_cancel_left hlist)
    exact Rendering.body_inj hxs hys hbody
  · rintro rfl
    rfl

/-- Lists and sets open with different brackets. -/
theorem render_list_ne_render_set (xs ys : List Reflected) :
    render .list xs ≠ render .set ys := by
  intro h
  have hlist := congrArg (fun text => text.toList.head?) h
  rw [toList_render, toList_render] at hlist
  exact absurd (Option.some.inj hlist) (by decide)

/-! ## Elements -/

/-- A function that has a value on each element has the list of these values. -/
theorem mapM_eq_some {α β : Type} {f : α → Option β} {xs : List α} {ys : List β}
    (h : xs.map f = ys.map some) : xs.mapM f = some ys := by
  calc xs.mapM f = (xs.map f).mapM id := by rw [List.mapM_map, Function.id_comp]
    _ = ys.mapM fun y => pure (id y) := by
        rw [h, List.mapM_map]
        rfl
    _ = some ys := by rw [List.mapM_pure, List.map_id, Option.pure_def]

/-- The elements that have a value are those of the kind. -/
theorem isSome_reflect (k : Kind) (x : Ty) : (k.reflect x).isSome = k.admits x := by
  cases k with
  | bool | int | type => simp [Kind.reflect, Kind.admits, Ty.intValue?]

/-- Every sequence can be inspected, and has a value for each element. -/
theorem exists_reflect {q : Sequence} (h : ∀ x ∈ q.elems, q.kind.admits x = true) :
    ∃ items, q.reflect = some items ∧ items.length = q.elems.length := by
  have hvalues : ∀ x ∈ q.elems, ∃ r, q.kind.reflect x = some r := by
    intro x hx
    rw [← Option.isSome_iff_exists, isSome_reflect]
    exact h x hx
  obtain ⟨items, hitems⟩ := Ty.exists_map_eq_map_some hvalues
  have hlen := congrArg List.length hitems
  rw [List.length_map, List.length_map] at hlen
  exact ⟨items, mapM_eq_some hitems, hlen.symm⟩

/-- The sequence is one of booleans, or of integers that have sixteen digits each. -/
def IsReadable (q : Sequence) : Prop :=
  q.kind = .bool ∨ q.kind = .int ∧ ∀ x ∈ q.elems, x.IsWord

theorem IsReadable.kind_ne_type {q : Sequence} (h : q.IsReadable) : q.kind ≠ .type := by
  obtain hk | ⟨hk, -⟩ := h <;> simp [hk]

theorem exists_words {xs : List Ty} (h : ∀ x ∈ xs, x.IsWord) :
    ∃ vs : List Int64, xs = vs.map fun v => Ty.intLit v.toInt := by
  induction xs with
  | nil => exact ⟨[], rfl⟩
  | cons x xs ih =>
    obtain ⟨hx, hxs⟩ := List.forall_mem_cons.mp h
    obtain ⟨v, rfl⟩ := hx.exists_eq_intLit
    obtain ⟨vs, rfl⟩ := ih hxs
    exact ⟨v :: vs, rfl⟩

theorem reflect_bools (form : Form) (bs : List Bool) :
    reflect ⟨form, .bool, bs.map .bool⟩ = some (bs.map .bool) := by
  apply mapM_eq_some
  rw [List.map_map, List.map_map]
  rfl

theorem reflect_words (form : Form) (vs : List Int64) :
    reflect ⟨form, .int, vs.map fun v => Ty.intLit v.toInt⟩ =
      some (vs.map fun v => .int v.toInt) := by
  apply mapM_eq_some
  rw [List.map_map, List.map_map]
  apply List.map_congr_left
  intro v _
  show (Ty.intLit v.toInt).intValue?.map Reflected.int = some (.int v.toInt)
  rw [Ty.intValue?_intLit_toInt, Option.map_some]

/-- Elements of readable sequences are told apart by their values, and these are plain. -/
theorem exists_reflect_reflect {p q : Sequence} (hp : p.IsReadable) (hq : q.IsReadable)
    (hk : p.kind = q.kind) (hps : ∀ x ∈ p.elems, p.kind.admits x = true)
    (hqs : ∀ y ∈ q.elems, q.kind.admits y = true) :
    ∃ is js, p.reflect = some is ∧ q.reflect = some js ∧ (∀ x ∈ is, x.isPlain = true) ∧
      (∀ y ∈ js, y.isPlain = true) ∧ (is = js ↔ p.elems = q.elems) := by
  obtain ⟨f, k, xs⟩ := p
  obtain ⟨g, l, ys⟩ := q
  obtain rfl : k = l := hk
  obtain rfl | ⟨rfl, hxs⟩ := hp
  · obtain ⟨bs, rfl⟩ := Ty.exists_bools hps
    obtain ⟨cs, rfl⟩ := Ty.exists_bools hqs
    refine ⟨_, _, reflect_bools f bs, reflect_bools g cs, List.forall_mem_map.mpr fun _ _ => rfl,
      List.forall_mem_map.mpr fun _ _ => rfl, ?_⟩
    rw [List.map_inj_right fun _ _ => Reflected.bool.inj,
      List.map_inj_right fun _ _ => Ty.bool.inj]
  · obtain hbool | ⟨-, hys⟩ := hq
    · exact absurd hbool (by simp)
    obtain ⟨vs, rfl⟩ := exists_words hxs
    obtain ⟨ws, rfl⟩ := exists_words hys
    refine ⟨_, _, reflect_words f vs, reflect_words g ws, List.forall_mem_map.mpr fun _ _ => rfl,
      List.forall_mem_map.mpr fun _ _ => rfl, ?_⟩
    rw [List.map_inj_right fun _ _ h => Int64.toInt_inj.mp (Reflected.int.inj h),
      List.map_inj_right fun _ _ => Ty.intLit_toInt_inj]

end Sequence

namespace Ty

/-! ## Inspection -/

/-- Inspection of `s` shows these values in order, and this text. -/
def Inspects (s : Ty) (items : List Reflected) (text : String) : Prop :=
  ∃ k, Query.seq.answer? [s] = some (.seq k items text)

theorem inspects_of_reflect {s : Ty} {q : Sequence} {items : List Reflected}
    (hs : s.sequence? = some q) (h : q.reflect = some items) :
    s.Inspects items (Sequence.render q.form items) := by
  refine ⟨q.kind, ?_⟩
  show (s.sequence?.bind fun q => q.reflect.bind fun items =>
    some (Answer.seq q.kind items (Sequence.render q.form items))) = _
  rw [hs, Option.bind_some, h, Option.bind_some]

/-- Lists of booleans or of integers are equal if they have the same elements. -/
theorem listEq_eq_true_iff {s t : Ty} {p q : Sequence} (hs : s.sequence? = some p)
    (ht : t.sequence? = some q) (hp : p.form = .list) (hq : q.form = .list)
    (hk : p.kind = q.kind) (htype : p.kind ≠ .type) :
    s.listEq t = some true ↔ p.elems = q.elems := by
  obtain ⟨f, k, xs⟩ := p
  obtain ⟨g, l, ys⟩ := q
  obtain rfl : f = .list := hp
  obtain rfl : g = .list := hq
  obtain rfl : k = l := hk
  obtain ⟨-, hxs⟩ := sequence?_eq_some_iff.mp hs
  obtain ⟨-, hys⟩ := sequence?_eq_some_iff.mp ht
  obtain ⟨r, hr, hiff⟩ := exists_elemsEq hxs hys
  rw [listEq_eq hs ht, if_pos ⟨rfl, rfl, rfl⟩, hr, Option.some.injEq, hiff]
  constructor
  · intro h
    exact eq_of_forall₂_eq (fun hk => absurd hk htype) h
  · intro h
    obtain rfl : xs = ys := h
    exact List.forall₂_same.mpr fun x hx => Kind.eq_self (hxs x hx)

end Ty

namespace LitExpr

/-- The literal of an integer: its absolute value, behind a minus sign if it is negative. -/
def ofInt : Int → LitExpr
  | .ofNat n => .integer n
  | .negSucc n => .neg (.integer (n + 1))

theorem eval_ofInt (v : Int64) : (ofInt v.toInt).eval = .ok v.toInt := by
  -- The least integer has an absolute value beyond 64 bits, which 128 bits have room for.
  have hlo := v.le_toInt
  have hhi := v.toInt_lt
  generalize v.toInt = w at hlo hhi ⊢
  have hword : fitsWord w = true := fitsWord_iff.mpr ⟨hlo, by omega⟩
  rw [eval_eq_ok_iff]
  refine ⟨?_, hword⟩
  cases w with
  | ofNat n =>
    rw [Int.ofNat_eq_natCast] at hhi
    have hwide : fitsWide n = true := fitsWide_iff.mpr ⟨by omega, by omega⟩
    exact evalWide_integer_eq_ok_iff.mpr ⟨hwide, rfl⟩
  | negSucc n =>
    have hwide : fitsWide (n + 1 : Nat) = true := fitsWide_iff.mpr ⟨by omega, by omega⟩
    have hneg : fitsWide (-(n + 1 : Nat)) = true := fitsWide_iff.mpr ⟨by omega, by omega⟩
    exact evalWide_neg_eq_ok_iff.mpr
      ⟨(n + 1 : Nat), evalWide_integer_eq_ok_iff.mpr ⟨hwide, rfl⟩, hneg, rfl⟩

end LitExpr

namespace Ty

open Expansion in
/-- A list of literals shows the integers that they stand for. -/
theorem inspects_intsType {es : List LitExpr} {vs : List Int64}
    (h : es.map LitExpr.eval = vs.map fun v => .ok v.toInt) :
    ∃ t text, intsType es = .ok t ∧ t.Inspects (vs.map fun v => .int v.toInt) text := by
  have hvalues : intValues es = .ok (vs.map Int64.toInt) := by
    rw [intValues_eq_ok_iff, h, List.map_map]
    rfl
  have htypes : es.map intType = (vs.map fun v => intLit v.toInt).map .ok := by
    refine map_intType_eq_iff.mpr ⟨_, hvalues, ?_⟩
    rw [List.map_map]
    rfl
  have hseq := sequence?_of_map_intType htypes
  exact ⟨_, _, intsType_eq_ok_iff.mpr ⟨_, htypes, rfl⟩,
    inspects_of_reflect hseq (Sequence.reflect_words .list vs)⟩

/-- Inspection is faithful. Literals of any 64-bit integers make a list that shows exactly
    these integers in order. Every sequence can be inspected and shows as many values as it
    has elements. The text of a list is never that of a set. For two sequences of booleans, or
    of integers of sixteen digits, the texts of lists are equal exactly if the lists are, and
    the texts of sets exactly if they hold the same elements in the same order. -/
theorem inspection_is_faithful :
    (∀ vs : List Int64,
      (∃ es : List LitExpr, es.map LitExpr.eval = vs.map fun v => .ok v.toInt) ∧
      ∀ es : List LitExpr, es.map LitExpr.eval = (vs.map fun v => .ok v.toInt) →
        ∃ t text, Expansion.intsType es = .ok t ∧
          t.Inspects (vs.map fun v => .int v.toInt) text) ∧
    (∀ (s : Ty) (q : Sequence), s.sequence? = some q → ∃ items text,
      s.Inspects items text ∧ Query.len.answer? [s] = some (.len items.length)) ∧
    ∀ (s t : Ty) (p q : Sequence), s.sequence? = some p → t.sequence? = some q →
      ∃ is js u v, s.Inspects is u ∧ t.Inspects js v ∧
        (p.form = .list → q.form = .set → u ≠ v) ∧
        (p.kind = q.kind → p.IsReadable → q.IsReadable →
          (p.form = .list → q.form = .list → (u = v ↔ s.listEq t = some true)) ∧
          (p.form = .set → q.form = .set → (u = v ↔ p.elems = q.elems))) := by
  refine ⟨?_, ?_, ?_⟩
  · intro vs
    refine ⟨⟨vs.map fun v => .ofInt v.toInt, ?_⟩, fun es => inspects_intsType⟩
    rw [List.map_map]
    exact List.map_congr_left fun v _ => LitExpr.eval_ofInt v
  · intro s q hs
    obtain ⟨-, hadmits⟩ := sequence?_eq_some_iff.mp hs
    obtain ⟨items, hitems, hlen⟩ := Sequence.exists_reflect hadmits
    refine ⟨items, _, inspects_of_reflect hs hitems, ?_⟩
    rw [len_of_sequence? hs, hlen]
  · intro s t p q hs ht
    obtain ⟨-, hps⟩ := sequence?_eq_some_iff.mp hs
    obtain ⟨-, hqs⟩ := sequence?_eq_some_iff.mp ht
    obtain ⟨is, his, -⟩ := Sequence.exists_reflect hps
    obtain ⟨js, hjs, -⟩ := Sequence.exists_reflect hqs
    refine ⟨is, js, _, _, inspects_of_reflect hs his, inspects_of_reflect ht hjs, ?_, ?_⟩
    · intro hp hq
      rw [hp, hq]
      exact Sequence.render_list_ne_render_set is js
    · intro hk hp hq
      -- The values are those found above; readable ones are told apart by their texts.
      obtain ⟨is', js', his', hjs', hxs, hys, hiff⟩ :=
        Sequence.exists_reflect_reflect hp hq hk hps hqs
      obtain rfl : is = is' := Option.some.inj (his.symm.trans his')
      obtain rfl : js = js' := Option.some.inj (hjs.symm.trans hjs')
      refine ⟨fun hpf hqf => ?_, fun hpf hqf => ?_⟩
      · rw [listEq_eq_true_iff hs ht hpf hqf hk hp.kind_ne_type, hpf, hqf,
          Sequence.render_eq_render_iff hxs hys, hiff]
      · rw [hpf, hqf, Sequence.render_eq_render_iff hxs hys, hiff]

/-- The smallest integer is shown as it was written. Lists of two booleans in different
    orders are unequal and have different texts, and so have the empty list and the empty
    set. -/
theorem inspection_is_faithful_at_orders :
    (∃ t text, Expansion.intsType [.neg (.integer 9223372036854775808), .integer 7] = .ok t ∧
      t.Inspects [.int (-9223372036854775808), .int 7] text) ∧
    (∃ is js u v, (Sequence.toTy ⟨.list, .bool, [.bool true, .bool false]⟩).Inspects is u ∧
      (Sequence.toTy ⟨.list, .bool, [.bool false, .bool true]⟩).Inspects js v ∧ u ≠ v) ∧
    ∃ is js u v, (Sequence.toTy ⟨.list, .int, []⟩).Inspects is u ∧
      (Sequence.toTy ⟨.set, .bool, []⟩).Inspects js v ∧ u ≠ v := by
  obtain ⟨hints, -, htexts⟩ := inspection_is_faithful
  refine ⟨?_, ?_, ?_⟩
  · exact (hints [-9223372036854775808, 7]).2
      [.neg (.integer 9223372036854775808), .integer 7] (by decide +kernel)
  · obtain ⟨is, js, u, v, hu, hv, -, hiff⟩ :=
      htexts (Sequence.toTy ⟨.list, .bool, [.bool true, .bool false]⟩)
        (Sequence.toTy ⟨.list, .bool, [.bool false, .bool true]⟩) _ _ rfl rfl
    refine ⟨is, js, u, v, hu, hv, ?_⟩
    have hne : (Sequence.toTy ⟨.list, .bool, [.bool true, .bool false]⟩).listEq
        (Sequence.toTy ⟨.list, .bool, [.bool false, .bool true]⟩) ≠ some true := by decide +kernel
    exact mt ((hiff rfl (.inl rfl) (.inl rfl)).1 rfl rfl).mp hne
  · obtain ⟨is, js, u, v, hu, hv, hne, -⟩ :=
      htexts (Sequence.toTy ⟨.list, .int, []⟩) (Sequence.toTy ⟨.set, .bool, []⟩) _ _ rfl rfl
    exact ⟨is, js, u, v, hu, hv, hne rfl rfl⟩

end Ty

end KindSeq
