/-
  KindSeq.Proofs.LiteralRejection

  Why a literal is rejected. Several things can be wrong with an expression at once; the
  one that is reported is the first in the order of evaluation, which visits the operands
  of a node before the node and the left one before the right (`postorder`). What can be
  wrong at a node alone is said by `fault?`, through exact values and not through the
  evaluator: nodes before the first fault have no fault of their own, so up to there the
  exact values are those that evaluation computes (`evalWide_eq`).

  Only if no node is at fault does the range of the result matter, and the message of that
  rejection is the only one that holds a number, so no other message can be taken for it
  (`message_eq_outOfRange_iff`).
-/

import KindSeq.Proofs.DecimalNumerals
import KindSeq.Proofs.LiteralEvaluation

namespace KindSeq

namespace LitExpr

/-! ## Nodes and their faults -/

/-- The operands of a node, from left to right. -/
def operands : LitExpr → List LitExpr
  | .neg e => [e]
  | .paren e => [e]
  | .binary _ l r => [l, r]
  | _ => []

/-- The nodes of an expression in the order of evaluation. -/
def postorder : LitExpr → List LitExpr
  | .neg e => e.postorder ++ [.neg e]
  | .paren e => e.postorder ++ [.paren e]
  | .binary op l r => l.postorder ++ (r.postorder ++ [.binary op l r])
  | e => [e]

/-- What is wrong at a node if its operands have their exact values. -/
def fault? : LitExpr → Option LiteralError
  | .integer n => if (n : Int) ≤ 2 ^ 127 - 1 then none else some .tooLarge
  | .literal => some .notInteger
  | .other _ => some .notConstant
  | .paren _ => none
  | .neg e => if fitsWide (neg e).exact then none else some .overflow
  | .binary op l r =>
    if op = .add ∨ op = .sub ∨ op = .mul then
      if fitsWide (binary op l r).exact then none else some .overflow
    else some .unsupportedOperator

/-- No node knows about 64 bits. -/
theorem fault?_ne_outOfRange (d : LitExpr) (v : Int) : d.fault? ≠ some (.outOfRange v) := by
  cases d with
  | literal | other | paren => simp [fault?]
  | integer n =>
    rw [fault?]
    split <;> simp
  | neg e =>
    rw [fault?]
    split <;> simp
  | binary op l r =>
    rw [fault?]
    split
    · split <;> simp
    · simp

/-- `d` is the first node of `e` at which something is wrong, namely `err`. -/
def FirstFault (e d : LitExpr) (err : LiteralError) : Prop :=
  ∃ before after, e.postorder = before ++ d :: after ∧ (∀ c ∈ before, c.fault? = none) ∧
    d.fault? = some err

theorem findSome?_fault?_eq_some_iff {e : LitExpr} {err : LiteralError} :
    e.postorder.findSome? fault? = some err ↔ ∃ d, e.FirstFault d err := by
  rw [List.findSome?_eq_some_iff]
  constructor
  · rintro ⟨before, d, after, hsplit, hd, hbefore⟩
    exact ⟨d, before, after, hsplit, hbefore, hd⟩
  · rintro ⟨d, before, after, hsplit, hbefore, hd⟩
    exact ⟨before, d, after, hsplit, hd, hbefore⟩

/-! ## Evaluation up to the first fault -/

/-- The result of a search for faults, where there is a value if it finds none. -/
def outcome (v : Int) : Option LiteralError → Except LiteralError Int
  | some err => .error err
  | none => .ok v

theorem outcome_eq_error_iff {v : Int} {o : Option LiteralError} {err : LiteralError} :
    outcome v o = .error err ↔ o = some err := by
  cases o with
  | none => simp [outcome]
  | some err' => simp [outcome]

theorem outcome_eq_ok_iff {v w : Int} {o : Option LiteralError} :
    outcome v o = .ok w ↔ o = none ∧ v = w := by
  cases o with
  | none => simp [outcome]
  | some err' => simp [outcome]

/-- A fault in the first stage hides what comes later. -/
theorem outcome_bind {v w : Int} {o o' : Option LiteralError} {f : Int → Except LiteralError Int}
    (h : f v = outcome w o') : (outcome v o >>= f) = outcome w (o.or o') := by
  cases o with
  | none => exact h
  | some err => rfl

theorem checked_eq (v : Int) :
    checked v = outcome v (if fitsWide v then none else some .overflow) := by
  rw [checked]
  split <;> rfl

theorem operation?_isSome_iff {op : BinaryOp} :
    (∃ f, operation? op = some f) ↔ op = .add ∨ op = .sub ∨ op = .mul := by
  cases op <;> simp [operation?]

/-- What an operator makes of the exact values of its operands. -/
theorem apply_operation?_eq (op : BinaryOp) (l r : LitExpr) :
    (match operation? op with
      | some f => checked (f l.exact r.exact)
      | none => .error .unsupportedOperator) =
      outcome (binary op l r).exact (binary op l r).fault? := by
  cases hop : operation? op with
  | none =>
    have hother : ¬(op = .add ∨ op = .sub ∨ op = .mul) := by
      rw [← operation?_isSome_iff, hop]
      simp
    rw [fault?, if_neg hother]
    rfl
  | some f =>
    have harith : op = .add ∨ op = .sub ∨ op = .mul := operation?_isSome_iff.mp ⟨f, hop⟩
    rw [fault?, if_pos harith, exact_binary hop]
    exact checked_eq _

/-- Evaluation in 128 bits ends with the fault of the first node that has one, and with
    the exact value if no node has. -/
theorem evalWide_eq (e : LitExpr) :
    e.evalWide = outcome e.exact (e.postorder.findSome? fault?) := by
  induction e with
  | integer n =>
    have hfits : fitsWide n = true ↔ (n : Int) ≤ 2 ^ 127 - 1 := by
      rw [fitsWide_iff]
      omega
    have hself : (integer n).postorder = [integer n] := rfl
    rw [evalWide, hself, List.findSome?_singleton, fault?]
    by_cases hn : (n : Int) ≤ 2 ^ 127 - 1
    · rw [if_pos hn, if_pos (hfits.mpr hn)]
      rfl
    · rw [if_neg hn, if_neg fun h => hn (hfits.mp h)]
      rfl
  | literal => rfl
  | other form => rfl
  | paren e ih =>
    rw [evalWide, ih, postorder, List.findSome?_append, List.findSome?_singleton, fault?,
      Option.or_none, exact]
  | neg e ih =>
    rw [evalWide, ih, postorder, List.findSome?_append, List.findSome?_singleton]
    exact outcome_bind (checked_eq _)
  | binary op l r ihl ihr =>
    -- The right operand is reached only past the left one, the operator only past both.
    rw [evalWide, ihl, ihr, postorder, List.findSome?_append, List.findSome?_append,
      List.findSome?_singleton]
    exact outcome_bind (outcome_bind (apply_operation?_eq op l r))

theorem evalWide_eq_error_iff {e : LitExpr} {err : LiteralError} :
    e.evalWide = .error err ↔ ∃ d, e.FirstFault d err := by
  rw [evalWide_eq, outcome_eq_error_iff, findSome?_fault?_eq_some_iff]

theorem evalWide_eq_exact_iff {e : LitExpr} :
    e.evalWide = .ok e.exact ↔ ∀ c ∈ e.postorder, c.fault? = none := by
  rw [evalWide_eq, outcome_eq_ok_iff, List.findSome?_eq_none_iff]
  simp

/-! ## Operands come first -/

/-- An element of two lists joined stands in the first or in the second. -/
theorem append_eq_split {l r before after : List LitExpr} {d : LitExpr}
    (h : l ++ r = before ++ d :: after) :
    (∃ rest, l = before ++ d :: rest) ∨
      ∃ rest, before = l ++ rest ∧ r = rest ++ d :: after := by
  obtain ⟨rest, hbefore, hr⟩ | ⟨rest, hl, hafter⟩ := List.append_eq_append_iff.mp h
  · exact .inr ⟨rest, hbefore, hr⟩
  · cases rest with
    | nil => exact .inr ⟨[], by simpa using hl.symm, hafter.symm⟩
    | cons c rest =>
      obtain ⟨rfl, -⟩ := List.cons.inj hafter
      exact .inl ⟨rest, hl⟩

theorem singleton_eq_split {e d : LitExpr} {before after : List LitExpr}
    (h : [e] = before ++ d :: after) : before = [] ∧ d = e := by
  cases before with
  | nil => exact ⟨rfl, (List.cons.inj h).1.symm⟩
  | cons c rest => exact absurd (List.cons.inj h).2 (by simp)

/-- The nodes of the operands of a node all come before it. -/
theorem postorder_subset_before {e c d : LitExpr} {before after : List LitExpr}
    (h : e.postorder = before ++ d :: after) (hc : c ∈ d.operands) : c.postorder ⊆ before := by
  -- Where `d` is the whole expression, the nodes before it are those of its operands;
  -- elsewhere it is a node of an operand, and what precedes it there precedes it here.
  induction e generalizing before after with
  | integer | literal | other =>
    obtain ⟨-, rfl⟩ := singleton_eq_split h
    exact absurd hc List.not_mem_nil
  | paren e ih | neg e ih =>
    obtain ⟨rest, hinner⟩ | ⟨rest, rfl, hroot⟩ := append_eq_split h
    · exact ih hinner
    · obtain ⟨rfl, rfl⟩ := singleton_eq_split hroot
      obtain rfl : c = e := List.mem_singleton.mp hc
      rw [List.append_nil]
      exact fun _ => id
  | binary op l r ihl ihr =>
    obtain ⟨rest, hleft⟩ | ⟨rest, rfl, hbehind⟩ := append_eq_split h
    · exact ihl hleft
    obtain ⟨rest', hright⟩ | ⟨rest', rfl, hroot⟩ := append_eq_split hbehind
    · exact List.Subset.trans (ihr hright) (List.subset_append_right _ _)
    · obtain ⟨rfl, rfl⟩ := singleton_eq_split hroot
      rw [List.append_nil]
      obtain rfl | hc := List.mem_cons.mp hc
      · exact List.subset_append_left _ _
      · obtain rfl : c = r := List.mem_singleton.mp hc
        exact List.subset_append_right _ _

/-- Up to the first fault everything is evaluated, so the operands of the node at fault
    have their exact values. -/
theorem FirstFault.evalWide_operand {e c d : LitExpr} {err : LiteralError}
    (h : e.FirstFault d err) (hc : c ∈ d.operands) : c.evalWide = .ok c.exact := by
  obtain ⟨before, after, hsplit, hbefore, -⟩ := h
  rw [evalWide_eq_exact_iff]
  intro b hb
  exact hbefore b (postorder_subset_before hsplit hc hb)

end LitExpr

/-! ## Messages -/

namespace LiteralError

theorem take_message_outOfRange (v : Int) :
    (message (.outOfRange v)).toList.take 9 = "integer `".toList := by
  have hlen : "integer `".toList.length = 9 := rfl
  rw [message, String.append_assoc, String.toList_append, List.take_left' hlen]

/-- The message of a value out of range is that of no other error, and of no other value. -/
theorem message_eq_outOfRange_iff {err : LiteralError} {v : Int} :
    err.message = (outOfRange v).message ↔ err = .outOfRange v := by
  constructor
  · intro h
    cases err with
    | outOfRange w =>
      rw [message, message, String.append_left_inj, String.append_right_inj] at h
      rw [Source.eq_of_toString_int_eq h]
    | tooLarge | notInteger | notConstant | unsupportedOperator | overflow =>
      have hstart := congrArg (fun m => m.toList.take 9) h
      rw [take_message_outOfRange] at hstart
      exact absurd hstart (by decide)
  · rintro rfl
    rfl

end LiteralError

namespace LitExpr

/-- Evaluation in 64 bits fails where that in 128 bits does, or with its value. -/
theorem eval_eq_error_iff {e : LitExpr} {err : LiteralError} :
    e.eval = .error err ↔ (∃ d, e.FirstFault d err) ∨
      (∀ c ∈ e.postorder, c.fault? = none) ∧ fitsWord e.exact = false ∧
        err = .outOfRange e.exact := by
  rw [← evalWide_eq_error_iff, ← evalWide_eq_exact_iff, eval, bind_eq_error_iff]
  -- Past the first stage the value is the exact one, and the narrowing is all that is left.
  refine or_congr_right ⟨?_, ?_⟩
  · rintro ⟨v, hv, h⟩
    obtain ⟨-, -, rfl⟩ := evalWide_eq_ok_iff.mp hv
    split at h
    · exact absurd h (by simp)
    · next hfits => exact ⟨hv, Bool.eq_false_iff.mpr hfits, (Except.error.inj h).symm⟩
  · rintro ⟨hv, hfits, rfl⟩
    exact ⟨e.exact, hv, by simp [hfits]⟩

/-- The expression is rejected with the message `m`. -/
def RejectedWith (e : LitExpr) (m : String) : Prop :=
  ∃ err, e.eval = .error err ∧ err.message = m

/-- What a rejected literal reports is the first thing that evaluation meets. If a node is
    at fault, it is the fault of the first such node, operands before their operator and
    left before right; the operands of that node have their exact values, so an operator is
    blamed only if both its operands can be evaluated. The message that a value does not fit
    in 64 bits is reported exactly if the whole expression has a value in 128 bits and that
    value, the exact one, is the number in the message and does not fit. -/
theorem rejection_reports_first_fault (e : LitExpr) :
    (∀ m, e.RejectedWith m ↔
      (∃ d err, e.FirstFault d err ∧ err.message = m) ∨
      (∀ c ∈ e.postorder, c.fault? = none) ∧ ¬(-2 ^ 63 ≤ e.exact ∧ e.exact ≤ 2 ^ 63 - 1) ∧
        (LiteralError.outOfRange e.exact).message = m) ∧
    (∀ d err, e.FirstFault d err → ∀ c ∈ d.operands, c.evalWide = .ok c.exact) ∧
    ∀ v : Int, e.RejectedWith ("integer `" ++ toString v ++ "` does not fit in 64 bits") ↔
      e.evalWide = .ok v ∧ v = e.exact ∧ ¬(-2 ^ 63 ≤ v ∧ v ≤ 2 ^ 63 - 1) := by
  refine ⟨?_, ?_, ?_⟩
  · intro m
    simp only [RejectedWith, eval_eq_error_iff, ← fitsWord_iff, Bool.not_eq_true]
    constructor
    · rintro ⟨err, ⟨d, hd⟩ | ⟨hclear, hout, rfl⟩, hm⟩
      · exact .inl ⟨d, err, hd, hm⟩
      · exact .inr ⟨hclear, hout, hm⟩
    · rintro (⟨d, err, hd, hm⟩ | ⟨hclear, hout, hm⟩)
      · exact ⟨err, .inl ⟨d, hd⟩, hm⟩
      · exact ⟨_, .inr ⟨hclear, hout, rfl⟩, hm⟩
  · intro d err hd c hc
    exact hd.evalWide_operand hc
  · intro v
    -- The message decides the error, and no node reports that error.
    constructor
    · rintro ⟨err, herr, hm⟩
      obtain rfl := LiteralError.message_eq_outOfRange_iff.mp hm
      obtain ⟨d, before, after, -, -, hd⟩ | ⟨hclear, hout, hv⟩ := eval_eq_error_iff.mp herr
      · exact absurd hd (d.fault?_ne_outOfRange v)
      · obtain rfl : v = e.exact := LiteralError.outOfRange.inj hv
        rw [← fitsWord_iff, Bool.not_eq_true]
        exact ⟨evalWide_eq_exact_iff.mpr hclear, rfl, hout⟩
    · rintro ⟨hv, rfl, hout⟩
      rw [← fitsWord_iff, Bool.not_eq_true] at hout
      exact ⟨.outOfRange e.exact, eval_eq_error_iff.mpr
        (.inr ⟨evalWide_eq_exact_iff.mp hv, hout, rfl⟩), rfl⟩

/-- In `4 / 2 + x` the division is reported and the name is not, in `4 / x` the name is and
    the division is not; in `2 * 9223372036854775807` nothing is wrong before the end. -/
theorem rejection_reports_first_fault_at_division :
    (binary .add (binary .div (integer 4) (integer 2)) (other .plain)).RejectedWith
      "unsupported operator in integer literal" ∧
    (integer 2).evalWide = .ok 2 ∧
    (binary .div (integer 4) (other .plain)).RejectedWith
      "expected a constant integer expression" ∧
    (binary .mul (integer 2) (integer 9223372036854775807)).RejectedWith
      "integer `18446744073709551614` does not fit in 64 bits" := by
  have hdiv : (binary .add (binary .div (integer 4) (integer 2)) (other .plain)).FirstFault
      (binary .div (integer 4) (integer 2)) .unsupportedOperator :=
    ⟨[integer 4, integer 2], _, rfl, by simp [fault?], rfl⟩
  have hname : (binary .div (integer 4) (other .plain)).FirstFault (other .plain) .notConstant :=
    ⟨[integer 4], _, rfl, by simp [fault?], rfl⟩
  obtain ⟨hreport, hoperands, -⟩ :=
    rejection_reports_first_fault (binary .add (binary .div (integer 4) (integer 2)) (other .plain))
  obtain ⟨hreport', -, -⟩ :=
    rejection_reports_first_fault (binary .div (integer 4) (other .plain))
  obtain ⟨-, -, hrange⟩ :=
    rejection_reports_first_fault (binary .mul (integer 2) (integer 9223372036854775807))
  refine ⟨?_, ?_, ?_, ?_⟩
  · exact (hreport _).mpr (.inl ⟨_, _, hdiv, rfl⟩)
  · exact hoperands _ _ hdiv (integer 2) (by simp [operands])
  · exact (hreport' _).mpr (.inl ⟨_, _, hname, rfl⟩)
  · exact (hrange 18446744073709551614).mpr ⟨rfl, rfl, by decide⟩

end LitExpr

end KindSeq
