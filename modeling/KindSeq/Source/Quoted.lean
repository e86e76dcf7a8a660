/-
  KindSeq.Source.Quoted

  String literals for texts: the quotes, and escapes for the characters that
  would not show as they are.
-/

import KindSeq.Source.Character

namespace KindSeq.Source

/-- A character by its code point, in hexadecimal digits between braces. -/
def codePointEscape (c : Char) : List Char :=
  ['\\', 'u', '\x7b'] ++ Nat.toDigits 16 c.toNat ++ ['\x7d']

/-- The spelling of a character in a string literal. -/
def escaped : Char → List Char
  | '\n' => ['\\', 'n']
  | '\r' => ['\\', 'r']
  | '\t' => ['\\', 't']
  | '\\' => ['\\', '\\']
  | '"' => ['\\', '"']
  | c => if isPrinted c then [c] else codePointEscape c

/-- The spelling of a text in a string literal. The null character has a short
    spelling, unless a digit follows that could be taken for a part of it. -/
def escapedText : List Char → List Char
  | [] => []
  | c :: cs =>
    if c = '\x00' then
      let octal := cs.head?.any fun d => '0' ≤ d && d ≤ '7'
      (if octal then ['\\', 'x', '0', '0'] else ['\\', '0']) ++ escapedText cs
    else escaped c ++ escapedText cs

/-- The string literal for a text. -/
def quoted (text : List Char) : String := String.ofList (['"'] ++ escapedText text ++ ['"'])

end KindSeq.Source
