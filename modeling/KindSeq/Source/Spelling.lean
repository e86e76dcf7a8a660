/-
  KindSeq.Source.Spelling

  The values of literals, read off their spelling: integers in four bases, with
  separators and any suffix, and the contents of strings.
-/

import KindSeq.Source.Lexer

namespace KindSeq.Source.Spelling

open Lexer (after? hexValue isHex hexPair? unicodeEscape? skipContinuation)

/-! ## Integers -/

/-- Whether an exponent follows, so that the number is no integer: a sign, or a
    digit with nothing or a suffix behind it. `s` is what follows the letter. -/
def isExponent : (valued : Bool) → List Char → Bool
  | valued, [] => valued
  | valued, c :: s =>
    if c = '_' then isExponent valued s
    else if c = '+' || c = '-' then true
    else if c.isDigit then isExponent true s
    else valued && isIdentText (c :: s)

/-- The value of digits in a base, and what follows them; none if the number is
    no integer. -/
def digitsValue? (base : Nat) : (value : Nat) → (empty : Bool) → List Char →
    Option (Nat × List Char)
  | value, empty, c :: s =>
    if c.isDigit || (isHex c && 10 < base) then
      if hexValue c < base then digitsValue? base (base * value + hexValue c) false s else none
    else if c = '_' then digitsValue? base value empty s
    else if c = '.' && base = 10 then none
    else if (c = 'e' || c = 'E') && base = 10 && isExponent false s then none
    else if empty then none else some (value, c :: s)
  | value, empty, [] => if empty then none else some (value, [])

/-- The value and the suffix of an integer literal. -/
def integer? (text : String) : Option (Nat × String) :=
  let s := text.toList
  let digits :=
    match after? ['0', 'x'] s, after? ['0', 'o'] s, after? ['0', 'b'] s with
    | some rest, _, _ => digitsValue? 16 0 true rest
    | _, some rest, _ => digitsValue? 8 0 true rest
    | _, _, some rest => digitsValue? 2 0 true rest
    | _, _, _ => if s.head?.any Char.isDigit then digitsValue? 10 0 true s else none
  match digits with
  | some (n, rest) => if rest.isEmpty || isIdentText rest then some (n, String.ofList rest) else none
  | none => none

/-- Whether a literal is a number that is no integer. -/
def isFloat (text : String) : Bool :=
  text.toList.head?.any Char.isDigit && (integer? text).isNone

/-! ## Strings -/

/-- The characters of a string up to its closing quote, with escapes resolved and
    line ends unified. The bound is the length of the text. -/
def cookedValue? : (bound : Nat) → List Char → Option (List Char)
  | 0, _ => none
  | n + 1, s =>
    match s with
    | '"' :: _ => some []
    | '\r' :: '\n' :: rest => (cookedValue? n rest).map ('\n' :: ·)
    | '\\' :: '\n' :: rest => (skipContinuation ('\n' :: rest)).bind (cookedValue? n)
    | '\\' :: '\r' :: rest => (skipContinuation ('\r' :: rest)).bind (cookedValue? n)
    | '\\' :: 'x' :: rest =>
      (hexPair? true rest).bind fun r => (cookedValue? n r.2).map (Char.ofNat r.1 :: ·)
    | '\\' :: 'u' :: rest =>
      (unicodeEscape? rest).bind fun r => (cookedValue? n r.2).map (r.1 :: ·)
    | '\\' :: 'n' :: rest => (cookedValue? n rest).map ('\n' :: ·)
    | '\\' :: 'r' :: rest => (cookedValue? n rest).map ('\r' :: ·)
    | '\\' :: 't' :: rest => (cookedValue? n rest).map ('\t' :: ·)
    | '\\' :: '0' :: rest => (cookedValue? n rest).map ('\x00' :: ·)
    | '\\' :: c :: rest => (cookedValue? n rest).map (c :: ·)
    | c :: rest => (cookedValue? n rest).map (c :: ·)
    | [] => none

/-- The characters of a raw string up to the last quote of its spelling. -/
def rawValue (s : List Char) : List Char :=
  let body := (s.dropWhile (· == '#')).drop 1
  ((body.reverse.dropWhile (· != '"')).drop 1).reverse

/-- The contents of a string literal of text. -/
def string? (text : String) : Option String :=
  match text.toList with
  | '"' :: s => (cookedValue? (s.length + 1) s).map String.ofList
  | 'r' :: s => some (String.ofList (rawValue s))
  | _ => none

end KindSeq.Source.Spelling
