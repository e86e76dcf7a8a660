/-
  KindSeq.Proofs.DecimalNumerals

  Decimal numerals in source text. A text of digits is one token, a literal
  (`lex?_numeral`): no digit starts a blank, a comment, a bracket or a string, and
  a number without a point or an exponent is tried as a float in vain and then read
  as an integer. Its value is the number that the digits write
  (`integer?_numeral`), so every number is read back from its decimal form. That tells
  numbers apart by their texts, and integers likewise (`eq_of_toString_int_eq`).
-/

import KindSeq.Source.Spelling

namespace KindSeq.Source

/-- A digit is one of ten characters, so what holds of these holds of every digit. -/
theorem forall_digits {p : Char → Prop} (h : ∀ n : Fin 10, p (Char.ofNat (n.val + 48))) {c : Char}
    (hc : c.isDigit = true) : p c := by
  obtain ⟨hlow, hhigh⟩ := Char.isDigit_iff_toNat.mp hc
  have hlow : 48 ≤ c.toNat := hlow
  have hhigh : c.toNat ≤ 57 := hhigh
  have hback : Char.ofNat (c.toNat - 48 + 48) = c := by
    rw [Nat.sub_add_cancel hlow, Char.ofNat_toNat]
  rw [← hback]
  exact h ⟨c.toNat - 48, by omega⟩

namespace Lexer

variable {c : Char} {s : List Char}

/-! ## What a digit does not start -/

theorem after?_eq_none {d : Char} {t : List Char} (hd : d.isDigit = false)
    (hc : c.isDigit = true) : after? (d :: t) (c :: s) = none := by
  have hne : d ≠ c := by
    rintro rfl
    exact absurd hc (by simp [hd])
  rw [after?, if_neg hne]

/-- No text of digits starts with a mark whose second character is no digit. -/
theorem after?_pair_eq_none {a d : Char} (hd : d.isDigit = false)
    (hs : ∀ c ∈ s, c.isDigit = true) : after? [a, d] s = none := by
  match s with
  | [] => rfl
  | [c] =>
    rw [after?]
    split <;> rfl
  | c :: e :: s =>
    have he : e.isDigit = true := hs e (by simp)
    rw [after?]
    split
    · exact after?_eq_none hd he
    · rfl

theorem starts_eq_false {t : String} (ht : t.toList.head?.any (! Char.isDigit ·) = true)
    (hc : c.isDigit = true) : starts t (c :: s) = false := by
  rw [starts]
  match t.toList, ht with
  | d :: _, ht =>
    have hd : d.isDigit = false := by simpa using ht
    rw [after?_eq_none hd hc, Option.isSome_none]

theorem skipComment?_digit (hc : c.isDigit = true) : skipComment? (c :: s) = none := by
  have hline : starts "//" (c :: s) = false := starts_eq_false (by decide) hc
  have hempty : starts "/**/" (c :: s) = false := starts_eq_false (by decide) hc
  have hblock : starts "/*" (c :: s) = false := starts_eq_false (by decide) hc
  simp [skipComment?, hline, hempty, hblock]

theorem docComment?_digit (hc : c.isDigit = true) : docComment? (c :: s) = none := by
  have hinner : starts "//!" (c :: s) = false := starts_eq_false (by decide) hc
  have hinnerBlock : starts "/*!" (c :: s) = false := starts_eq_false (by decide) hc
  have houter : starts "///" (c :: s) = false := starts_eq_false (by decide) hc
  have houterBlock : starts "/**" (c :: s) = false := starts_eq_false (by decide) hc
  simp [docComment?, hinner, hinnerBlock, houter, houterBlock]

theorem skipBlanks_digit (n : Nat) (hc : c.isDigit = true) : skipBlanks n (c :: s) = c :: s := by
  have hblank : isBlank c = false := forall_digits (p := (isBlank · = false)) (by decide) hc
  cases n with
  | zero => rfl
  | succ n =>
    rw [skipBlanks, skipComment?_digit hc]
    simp [hblank]

/-! ## Numbers -/

/-- Without a point or an exponent a number is no float. -/
theorem floatDigits?_numeral (n : Nat) (hs : ∀ c ∈ s, c.isDigit = true) :
    floatDigits? n false s = none := by
  induction n generalizing s with
  | zero => rfl
  | succ n ih =>
    cases s with
    | nil => rfl
    | cons c s =>
      obtain ⟨hc, hs⟩ := List.forall_mem_cons.mp hs
      rw [floatDigits?, hc]
      exact ih hs

theorem baseDigits?_numeral (empty : Bool) (hs : ∀ c ∈ s, c.isDigit = true)
    (hne : s = [] → empty = false) : baseDigits? 10 empty s = some [] := by
  induction s generalizing empty with
  | nil => rw [baseDigits?, hne rfl, if_neg Bool.false_ne_true]
  | cons c s ih =>
    obtain ⟨hc, hs⟩ := List.forall_mem_cons.mp hs
    have hlt : hexValue c < 10 := forall_digits (p := (hexValue · < 10)) (by decide) hc
    rw [baseDigits?, if_pos hc, if_pos hlt]
    exact ih false hs fun _ => rfl

theorem intDigits?_numeral (hs : ∀ c ∈ s, c.isDigit = true) (hne : s ≠ []) :
    intDigits? s = some [] := by
  have hbase : ∀ d : Char, d.isDigit = false → (after? ['0', d] s).isSome = false := by
    intro d hd
    rw [after?_pair_eq_none hd hs, Option.isSome_none]
  have hx : starts "0x" s = false := hbase 'x' (by decide)
  have ho : starts "0o" s = false := hbase 'o' (by decide)
  have hb : starts "0b" s = false := hbase 'b' (by decide)
  rw [intDigits?, hx, ho, hb]
  exact baseDigits?_numeral true hs fun h => absurd h hne

theorem number?_numeral (hs : ∀ c ∈ s, c.isDigit = true) (hne : s ≠ []) :
    number? s = some [] := by
  obtain ⟨c, t, rfl⟩ := List.exists_cons_of_ne_nil hne
  have hc : c.isDigit = true := hs c (by simp)
  have hhead : (c :: t).head?.any Char.isDigit = true := hc
  rw [number?, if_pos hhead, floatDigits?_numeral _ hs, intDigits?_numeral hs hne]
  rfl

/-- A mark that does not start with a digit starts no string here. -/
theorem stringLiteral?_digit (k : StringKind) {cookedMark rawMark : String}
    (hcooked : cookedMark.toList.head?.any (! Char.isDigit ·) = true)
    (hraw : rawMark.toList.head?.any (! Char.isDigit ·) = true) (hc : c.isDigit = true) :
    k.literal? cookedMark rawMark (c :: s) = none := by
  have hnone : ∀ {t : String}, t.toList.head?.any (! Char.isDigit ·) = true →
      after? t.toList (c :: s) = none := by
    intro t ht
    rw [← Option.not_isSome_iff_eq_none, Bool.not_eq_true]
    exact starts_eq_false ht hc
  rw [StringKind.literal?, hnone hcooked, hnone hraw]

theorem literal?_numeral (hs : ∀ c ∈ s, c.isDigit = true) (hne : s ≠ []) :
    literal? s = some [] := by
  have hnumber := number?_numeral hs hne
  obtain ⟨c, t, rfl⟩ := List.exists_cons_of_ne_nil hne
  have hc : c.isDigit = true := hs c (by simp)
  rw [literal?, stringLiteral?_digit _ (by decide) (by decide) hc,
    stringLiteral?_digit _ (by decide) (by decide) hc,
    stringLiteral?_digit _ (by decide) (by decide) hc, after?_eq_none (by decide) hc,
    after?_eq_none (by decide) hc, hnumber]
  rfl

theorem leaf?_numeral (hs : ∀ c ∈ s, c.isDigit = true) (hne : s ≠ []) :
    leaf? s = some (.literal (String.ofList s), []) := by
  have hall : consumed s [] = s := by rw [consumed, List.length_nil, Nat.sub_zero, List.take_length]
  rw [leaf?, literal?_numeral hs hne]
  simp only [hall]

end Lexer

open Lexer

/-- A text of digits is one literal. -/
theorem lex?_numeral {s : List Char} (hs : ∀ c ∈ s, c.isDigit = true) (hne : s ≠ []) :
    lex? (String.ofList s) = some [.literal (String.ofList s)] := by
  have hleaf := leaf?_numeral hs hne
  obtain ⟨c, t, rfl⟩ := List.exists_cons_of_ne_nil hne
  have hc : c.isDigit = true := hs c (by simp)
  have hmark : c ≠ '\ufeff' := forall_digits (p := (· ≠ '\ufeff')) (by decide) hc
  have hopening : Delim.ofOpening? c = none :=
    forall_digits (p := (Delim.ofOpening? · = none)) (by decide) hc
  have hclosing : Delim.ofClosing? c = none :=
    forall_digits (p := (Delim.ofClosing? · = none)) (by decide) hc
  rw [lex?, String.toList_ofList]
  simp only [List.head?_cons, Option.some.injEq, hmark, if_false]
  rw [build, skipBlanks_digit _ hc, docComment?_digit hc]
  simp only [hopening, hclosing, hleaf, Option.bind_some]
  rfl

namespace Spelling

theorem digitsValue?_numeral {s : List Char} (value : Nat) (empty : Bool)
    (hs : ∀ c ∈ s, c.isDigit = true) (hne : s = [] → empty = false) :
    digitsValue? 10 value empty s = some (Nat.ofDigitChars 10 s value, []) := by
  induction s generalizing value empty with
  | nil => rw [digitsValue?, hne rfl, if_neg Bool.false_ne_true, Nat.ofDigitChars_nil]
  | cons c s ih =>
    obtain ⟨hc, hs⟩ := List.forall_mem_cons.mp hs
    have hlt : hexValue c < 10 := forall_digits (p := (hexValue · < 10)) (by decide) hc
    have hvalue : hexValue c = c.toNat - '0'.toNat := by rw [hexValue, if_pos hc]
    rw [digitsValue?, hc, Bool.true_or, if_pos rfl, if_pos hlt, Nat.ofDigitChars_cons, ← hvalue]
    exact ih _ false hs fun _ => rfl

/-- A text of digits spells the number that they write, with no suffix. -/
theorem integer?_numeral {s : List Char} (hs : ∀ c ∈ s, c.isDigit = true) (hne : s ≠ []) :
    integer? (String.ofList s) = some (Nat.ofDigitChars 10 s 0, "") := by
  have hhead : s.head?.any Char.isDigit = true := by
    obtain ⟨c, t, rfl⟩ := List.exists_cons_of_ne_nil hne
    exact hs c (by simp)
  rw [integer?, String.toList_ofList]
  simp only [after?_pair_eq_none (show 'x'.isDigit = false by decide) hs,
    after?_pair_eq_none (show 'o'.isDigit = false by decide) hs,
    after?_pair_eq_none (show 'b'.isDigit = false by decide) hs, hhead, if_true,
    digitsValue?_numeral 0 true hs fun h => absurd h hne]
  rfl

end Spelling

/-! ## Numbers in decimal form -/

theorem isDigit_of_mem_toDigits {n : Nat} : ∀ c ∈ Nat.toDigits 10 n, c.isDigit = true :=
  fun _ hc => Nat.isDigit_of_mem_toDigits (by decide) (by decide) hc

/-- The decimal form of a number is one literal. -/
theorem lex?_toString (n : Nat) : lex? (toString n) = some [.literal (toString n)] := by
  rw [Nat.toString_eq_ofList_toDigits]
  exact lex?_numeral isDigit_of_mem_toDigits Nat.toDigits_ne_nil

/-- A number is read back from its decimal form. -/
theorem integer?_toString (n : Nat) : Spelling.integer? (toString n) = some (n, "") := by
  rw [Nat.toString_eq_ofList_toDigits,
    Spelling.integer?_numeral isDigit_of_mem_toDigits Nat.toDigits_ne_nil,
    Nat.ofDigitChars_ten_toDigits]

/-- So numbers are told apart by their decimal forms. -/
theorem eq_of_toString_eq {m n : Nat} (h : toString m = toString n) : m = n := by
  have hread := integer?_toString m
  rw [h, integer?_toString, Option.some.injEq, Prod.mk.injEq] at hread
  exact hread.1.symm

theorem isDigit_of_mem_repr {n : Nat} {c : Char} (h : c ∈ n.repr.toList) : c.isDigit = true := by
  rw [Nat.repr_eq_ofList_toDigits, String.toList_ofList] at h
  exact isDigit_of_mem_toDigits c h

theorem sign_append_ne_repr (s : String) (n : Nat) : "-" ++ s ≠ n.repr := by
  intro h
  have hsign : '-' ∈ n.repr.toList := by
    rw [← h, String.toList_append]
    exact List.mem_append_left _ (by decide)
  exact absurd (isDigit_of_mem_repr hsign) (by decide)

/-- Integers are told apart by their sign and the decimal forms of their sizes. -/
theorem eq_of_toString_int_eq {v w : Int} (h : toString v = toString w) : v = w := by
  rw [Int.toString_eq_repr, Int.toString_eq_repr, Int.repr_eq_if, Int.repr_eq_if] at h
  by_cases hv : 0 ≤ v
  · by_cases hw : 0 ≤ w
    · rw [if_pos hv, if_pos hw] at h
      have hsize : v.toNat = w.toNat := eq_of_toString_eq h
      omega
    · rw [if_pos hv, if_neg hw] at h
      exact absurd h.symm (sign_append_ne_repr _ _)
  · by_cases hw : 0 ≤ w
    · rw [if_neg hv, if_pos hw] at h
      exact absurd h (sign_append_ne_repr _ _)
    · rw [if_neg hv, if_neg hw] at h
      have hsize : (-v).toNat = (-w).toNat := eq_of_toString_eq ((String.append_right_inj _).mp h)
      omega

end KindSeq.Source
