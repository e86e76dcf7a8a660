/-
  KindSeq.Proofs.LiteralEvaluation

  Literals are evaluated exactly. The specification is arithmetic without bounds:
  `isArithmetic` says which expressions have a value and `exact` which one it is.
  Evaluation works in 128 bits and gives up at the first result that does not fit,
  so it ends with a value exactly if the exact value of every sub-expression fits
  (`evalWide_eq_ok_iff`), and the value is then the exact one. Only the result of
  the whole has to fit in 64 bits (`eval_eq_ok_iff`).
-/

import Mathlib.Algebra.Ring.Int.Defs
import KindSeq.Literal

namespace KindSeq.LitExpr

/-! ## Arithmetic without bounds -/

/-- Whether an expression is built from integers with minus signs, parentheses,
    `+`, `-` and `*` only. -/
def isArithmetic : LitExpr → Bool
  | .integer _ => true
  | .neg e => e.isArithmetic
  | .paren e => e.isArithmetic
  | .binary op l r =>
    (op == .add || op == .sub || op == .mul) && l.isArithmetic && r.isArithmetic
  | .literal => false
  | .other _ => false

/-- The integer that an arithmetic expression stands for; any other form counts as
    zero. -/
def exact : LitExpr → Int
  | .integer n => n
  | .neg e => -e.exact
  | .paren e => e.exact
  | .binary .add l r => l.exact + r.exact
  | .binary .sub l r => l.exact - r.exact
  | .binary .mul l r => l.exact * r.exact
  | _ => 0

/-- The sub-expressions of an expression, itself among them. -/
def subexprs : LitExpr → List LitExpr
  | .neg e => .neg e :: e.subexprs
  | .paren e => .paren e :: e.subexprs
  | .binary op l r => .binary op l r :: (l.subexprs ++ r.subexprs)
  | e => [e]

theorem self_mem_subexprs (e : LitExpr) : e ∈ e.subexprs := by
  cases e <;> simp [subexprs]

/-- The operators of arithmetic are those that the evaluator has an operation for. -/
theorem isArithmetic_binary {op : BinaryOp} {l r : LitExpr} :
    (binary op l r).isArithmetic = true ↔
      (∃ f, operation? op = some f) ∧ l.isArithmetic = true ∧ r.isArithmetic = true := by
  cases op <;> simp [isArithmetic, operation?]

theorem exact_binary {op : BinaryOp} {f : Int → Int → Int} (h : operation? op = some f)
    (l r : LitExpr) : (binary op l r).exact = f l.exact r.exact := by
  cases op
  case add | sub | mul =>
    obtain rfl := Option.some.inj h
    rfl
  -- No other operator has an operation.
  all_goals exact absurd h (by simp [operation?])

/-! ## Bounds -/

theorem fitsWide_iff {v : Int} : fitsWide v = true ↔ -2 ^ 127 ≤ v ∧ v ≤ 2 ^ 127 - 1 := by
  have hpow : Int.pow 2 127 = 2 ^ 127 := rfl
  rw [fitsWide, decide_eq_true_iff, hpow]
  omega

theorem fitsWord_iff {v : Int} : fitsWord v = true ↔ -2 ^ 63 ≤ v ∧ v ≤ 2 ^ 63 - 1 := by
  have hpow : Int.pow 2 63 = 2 ^ 63 := rfl
  rw [fitsWord, decide_eq_true_iff, hpow]
  omega

theorem checked_eq_ok_iff {v w : Int} : checked w = .ok v ↔ fitsWide w = true ∧ v = w := by
  rw [checked]
  split
  · next h => simp [h, eq_comm]
  · next h => simp [h]

/-! ## Evaluation -/

/-- A computation in two stages succeeds if both do. -/
theorem bind_eq_ok_iff {ε α β : Type} {x : Except ε α} {f : α → Except ε β} {b : β} :
    (x >>= f) = .ok b ↔ ∃ a, x = .ok a ∧ f a = .ok b := by
  cases x with
  | error e => simp [bind, Except.bind]
  | ok a => simp [bind, Except.bind]

/-- A computation in two stages fails in the first, or past it in the second. -/
theorem bind_eq_error_iff {ε α β : Type} {x : Except ε α} {f : α → Except ε β} {err : ε} :
    (x >>= f) = .error err ↔ x = .error err ∨ ∃ a, x = .ok a ∧ f a = .error err := by
  cases x with
  | error e => simp [bind, Except.bind]
  | ok a => simp [bind, Except.bind]

theorem evalWide_integer_eq_ok_iff {n : Nat} {v : Int} :
    (integer n).evalWide = .ok v ↔ fitsWide n = true ∧ v = n := by
  rw [evalWide]
  split
  · next h => simp [h, eq_comm]
  · next h => simp [h]

theorem evalWide_neg_eq_ok_iff {e : LitExpr} {v : Int} :
    (neg e).evalWide = .ok v ↔ ∃ x, e.evalWide = .ok x ∧ fitsWide (-x) = true ∧ v = -x := by
  simp only [evalWide, bind_eq_ok_iff, checked_eq_ok_iff]

theorem evalWide_binary_eq_ok_iff {op : BinaryOp} {l r : LitExpr} {v : Int} :
    (binary op l r).evalWide = .ok v ↔ ∃ x y f, l.evalWide = .ok x ∧ r.evalWide = .ok y ∧
      operation? op = some f ∧ fitsWide (f x y) = true ∧ v = f x y := by
  simp only [evalWide, bind_eq_ok_iff]
  cases operation? op with
  | none => simp
  | some f => simp [checked_eq_ok_iff]

/-- In 128 bits an expression has a value exactly if it is arithmetic and the exact
    value of no sub-expression leaves them; it is then the exact value. -/
theorem evalWide_eq_ok_iff {e : LitExpr} {v : Int} :
    e.evalWide = .ok v ↔
      e.isArithmetic = true ∧ (∀ d ∈ e.subexprs, fitsWide d.exact = true) ∧ v = e.exact := by
  -- An operand has a value of its own, so the induction is for every value.
  induction e generalizing v with
  | integer n =>
    rw [evalWide_integer_eq_ok_iff]
    simp [isArithmetic, subexprs, exact]
  | literal => simp [evalWide, isArithmetic]
  | other form => simp [evalWide, isArithmetic]
  | paren e ih =>
    -- The parentheses add themselves to the sub-expressions, with the value of `e`.
    have hself : (∀ d ∈ e.subexprs, fitsWide d.exact = true) → fitsWide e.exact = true :=
      fun h => h e e.self_mem_subexprs
    rw [evalWide, ih, subexprs, List.forall_mem_cons, isArithmetic, exact]
    constructor
    · rintro ⟨harith, hsub, rfl⟩
      exact ⟨harith, ⟨hself hsub, hsub⟩, rfl⟩
    · rintro ⟨harith, ⟨-, hsub⟩, rfl⟩
      exact ⟨harith, hsub, rfl⟩
  | neg e ih =>
    rw [evalWide_neg_eq_ok_iff, subexprs, List.forall_mem_cons, isArithmetic, exact]
    constructor
    · rintro ⟨x, hx, hfits, rfl⟩
      obtain ⟨harith, hsub, rfl⟩ := ih.mp hx
      exact ⟨harith, ⟨hfits, hsub⟩, rfl⟩
    · rintro ⟨harith, ⟨hfits, hsub⟩, rfl⟩
      exact ⟨e.exact, ih.mpr ⟨harith, hsub, rfl⟩, hfits, rfl⟩
  | binary op l r ihl ihr =>
    rw [evalWide_binary_eq_ok_iff, subexprs, List.forall_mem_cons, List.forall_mem_append,
      isArithmetic_binary]
    constructor
    · rintro ⟨x, y, f, hx, hy, hop, hfits, rfl⟩
      obtain ⟨hl, hsubl, rfl⟩ := ihl.mp hx
      obtain ⟨hr, hsubr, rfl⟩ := ihr.mp hy
      rw [exact_binary hop]
      exact ⟨⟨⟨f, hop⟩, hl, hr⟩, ⟨hfits, hsubl, hsubr⟩, rfl⟩
    · -- Both operands have values that fit, so the operator is reached.
      rintro ⟨⟨⟨f, hop⟩, hl, hr⟩, ⟨hfits, hsubl, hsubr⟩, rfl⟩
      rw [exact_binary hop] at hfits ⊢
      exact ⟨l.exact, r.exact, f, ihl.mpr ⟨hl, hsubl, rfl⟩, ihr.mpr ⟨hr, hsubr, rfl⟩, hop,
        hfits, rfl⟩

theorem eval_eq_ok_iff {e : LitExpr} {v : Int} :
    e.eval = .ok v ↔ e.evalWide = .ok v ∧ fitsWord v = true := by
  rw [eval, bind_eq_ok_iff]
  constructor
  · rintro ⟨w, hw, h⟩
    split at h
    · next hfits =>
      obtain rfl := Except.ok.inj h
      exact ⟨hw, hfits⟩
    · exact absurd h (by simp)
  · rintro ⟨hv, hfits⟩
    exact ⟨v, hv, by rw [if_pos hfits]⟩

/-- A literal is accepted with the value `v` exactly if it is built from integers,
    minus signs, parentheses, `+`, `-` and `*`, the exact value of each of its
    sub-expressions fits in 128 bits, its own in 64 bits, and `v` is that value.
    So what is accepted never wraps, however large the values on the way. -/
theorem eval_is_exact (e : LitExpr) (v : Int) :
    e.eval = .ok v ↔ e.isArithmetic = true ∧
      (∀ d ∈ e.subexprs, -2 ^ 127 ≤ d.exact ∧ d.exact ≤ 2 ^ 127 - 1) ∧
      (-2 ^ 63 ≤ e.exact ∧ e.exact ≤ 2 ^ 63 - 1) ∧ v = e.exact := by
  rw [eval_eq_ok_iff, evalWide_eq_ok_iff]
  simp only [fitsWide_iff, ← fitsWord_iff]
  constructor
  · rintro ⟨⟨harith, hsub, rfl⟩, hfits⟩
    exact ⟨harith, hsub, hfits, rfl⟩
  · rintro ⟨harith, hsub, hfits, rfl⟩
    exact ⟨⟨harith, hsub, rfl⟩, hfits⟩

-- An operand may leave 64 bits if the result comes back.
example : (binary .sub (.integer 9223372036854775808) (.integer 1)).eval =
    .ok 9223372036854775807 := rfl

end KindSeq.LitExpr
