/-
  KindSeq.Source.Character

  Classes of characters in source text: blanks, the letters of identifiers, and
  the characters that a string literal shows as they are.
-/

import KindSeq.Source.Character.Letter
import KindSeq.Source.Character.Printed

namespace KindSeq.Source

/-- Whether a code point lies in one of the ranges. -/
def inRanges (ranges : List (Nat × Nat)) (n : Nat) : Bool :=
  ranges.any fun r => decide (r.1 ≤ n) && decide (n ≤ r.2)

/-- Whether a code point lies in a range of one of the tables. -/
def inTables (tables : List (List (Nat × Nat))) (n : Nat) : Bool := tables.any (inRanges · n)

/-- Whether a character can start an identifier. -/
def isIdentStart (c : Char) : Bool :=
  if c.toNat < 128 then c.isAlpha || c == '_'
  else inTables [startRangesA, startRangesB, startRangesC] c.toNat

/-- Whether a character can continue an identifier. -/
def isIdentContinue (c : Char) : Bool :=
  if c.toNat < 128 then c.isAlphanum || c == '_'
  else isIdentStart c || inTables [continueRangesA, continueRangesB] c.toNat

/-- Whether a text is an identifier. -/
def isIdentText : List Char → Bool
  | [] => false
  | c :: cs => isIdentStart c && cs.all isIdentContinue

/-- Whether a character is white space. -/
def isSpace (c : Char) : Bool :=
  let n := c.toNat
  (9 ≤ n && n ≤ 13) || n == 0x20 || n == 0x85 || n == 0xa0 || n == 0x1680
    || (0x2000 ≤ n && n ≤ 0x200a) || n == 0x2028 || n == 0x2029 || n == 0x202f
    || n == 0x205f || n == 0x3000

/-- Whether a character separates tokens: white space, and the two marks of
    writing direction. -/
def isBlank (c : Char) : Bool := isSpace c || c == '\u200e' || c == '\u200f'

/-- Whether a character is shown as it is: it takes up a place of its own, and
    is no control character and no separator but the space. -/
def isPrinted (c : Char) : Bool :=
  let n := c.toNat
  if n < 128 then 32 ≤ n && n ≤ 126
  else ! inTables [extendRangesA, extendRangesB] n
    && ! inTables [hiddenRangesA, hiddenRangesB, hiddenRangesC, hiddenRangesD] n

end KindSeq.Source
