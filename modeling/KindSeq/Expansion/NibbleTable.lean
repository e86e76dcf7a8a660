/-
  KindSeq.Expansion.NibbleTable

  The tables of nibbles. Addition has one row for each pair of nibbles and each
  incoming carry, which gives the low nibble of the sum and the outgoing carry;
  equality has one row for each pair. Digit lists are added by looking up one
  row per digit.
-/

import KindSeq.Digits

namespace KindSeq.Expansion

/-- The name of a nibble. -/
def nibbleName (n : Nibble) : String := "X" ++ Nibble.hexDigit n

/-- The name of a carry. -/
def carryName (c : Bool) : String := if c then "True" else "False"

/-! ## Addition -/

/-- One row of the table of addition. -/
structure NibbleRow where
  left : Nibble
  right : Nibble
  carryIn : Bool
  sum : Nibble
  carryOut : Bool
  deriving DecidableEq, Repr

/-- The row of two nibbles and an incoming carry. -/
def nibbleRow (a b : Nibble) (c : Bool) : NibbleRow :=
  let total := a.val + b.val + c.toNat
  { left := a, right := b, carryIn := c
    sum := Nibble.ofNat (total &&& 15), carryOut := decide (15 < total) }

/-- All rows: by the left nibble, then the right one, then the carry. -/
def nibbleRows : List NibbleRow :=
  (List.finRange 16).flatMap fun a =>
    (List.finRange 16).flatMap fun b => [false, true].map fun c => nibbleRow a b c

namespace NibbleRow

/-- What a row is for. -/
def key (r : NibbleRow) : Nibble × Nibble × Bool := (r.left, r.right, r.carryIn)

/-- The tokens of a row behind its keyword. -/
def tokens (r : NibbleRow) : String :=
  "NibbleAdd<" ++ nibbleName r.right ++ "," ++ carryName r.carryIn ++ ">for" ++ nibbleName r.left
    ++ "\x7btypeSum=" ++ nibbleName r.sum ++ ";typeCarry=" ++ carryName r.carryOut ++ ";\x7d"

end NibbleRow

/-- The tokens of `count` rows from row `first` on, as far as there are any. -/
def nibbleTable (first count : Nat) : List String :=
  ((nibbleRows.drop first).take count).map NibbleRow.tokens

/-- The row for two nibbles and an incoming carry. -/
def rowOf? (a b : Nibble) (c : Bool) : Option NibbleRow :=
  nibbleRows.find? fun r => decide (r.key = (a, b, c))

/-- The sum of two digit lists, looked up digit by digit. -/
def addByRows : Digits → Digits → Bool → Option Digits
  | [], [], _ => some []
  | a :: as, b :: bs, c => do
    let r ← rowOf? a b c
    let rest ← addByRows as bs r.carryOut
    return r.sum :: rest
  | _, _, _ => none

/-! ## Equality -/

/-- The pairs of different elements of a list without repetitions, in both orders. -/
def distinctPairs : List Nibble → List (Nibble × Nibble)
  | [] => []
  | a :: bs => bs.flatMap (fun b => [(a, b), (b, a)]) ++ distinctPairs bs

/-- The rows of equality: a nibble equals itself, and no other. -/
def equalityRows : List ((Nibble × Nibble) × Bool) :=
  (List.finRange 16).map (fun a => ((a, a), true)) ++
    (distinctPairs (List.finRange 16)).map fun p => (p, false)

/-- Whether two digit lists are the same, looked up digit by digit. -/
def eqByRows : Digits → Digits → Option Bool
  | [], [] => some true
  | [], _ :: _ => some false
  | _ :: _, [] => some false
  | a :: as, b :: bs => do
    let x ← equalityRows.lookup (a, b)
    let y ← eqByRows as bs
    return x && y

end KindSeq.Expansion
