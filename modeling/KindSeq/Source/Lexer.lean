/-
  KindSeq.Source.Lexer

  From source text to token trees. Comments and blanks separate tokens, except
  that a documentation comment stands for the attribute that it abbreviates.
  A reader returns what is left after the part that it has recognised.
-/

import KindSeq.Source.Quoted
import KindSeq.Source.Token

namespace KindSeq.Source.Lexer

/-- What is left of `s` behind the text `t`. -/
def after? : List Char → List Char → Option (List Char)
  | [], s => some s
  | c :: t, d :: s => if c = d then after? t s else none
  | _ :: _, [] => none

/-- Whether `s` starts with the text `t`. -/
def starts (t : String) (s : List Char) : Bool := (after? t.toList s).isSome

/-- The part of `s` in front of `rest`, which ends it. -/
def consumed (s rest : List Char) : List Char := s.take (s.length - rest.length)

/-! ## Comments and blanks -/

/-- What is left behind a line, from its end on; a carriage return before the
    end belongs to it. -/
def skipLine : List Char → List Char
  | [] => []
  | '\n' :: s => '\n' :: s
  | '\r' :: '\n' :: s => '\n' :: s
  | _ :: s => skipLine s

/-- The text of a line. -/
def lineText : List Char → List Char
  | [] => []
  | '\n' :: _ => []
  | '\r' :: '\n' :: _ => []
  | c :: s => c :: lineText s

/-- What is left behind a block comment with `depth` comments open. -/
def skipBlock : (depth : Nat) → List Char → Option (List Char)
  | depth, '/' :: '*' :: s => skipBlock (depth + 1) s
  | depth, '*' :: '/' :: s => if depth ≤ 1 then some s else skipBlock (depth - 1) s
  | depth, _ :: s => skipBlock depth s
  | _, [] => none

/-- What is left behind one comment that is no documentation. -/
def skipComment? (s : List Char) : Option (List Char) :=
  if starts "//" s && (! starts "///" s || starts "////" s) && ! starts "//!" s then
    some (skipLine s)
  else if starts "/**/" s then some (s.drop 4)
  else if starts "/*" s && (! starts "/**" s || starts "/***" s) && ! starts "/*!" s then
    skipBlock 0 s
  else none

/-- What is left behind blanks and comments. The bound is the length of the text. -/
def skipBlanks : (bound : Nat) → List Char → List Char
  | 0, s => s
  | n + 1, s =>
    match skipComment? s with
    | some rest => skipBlanks n rest
    | none =>
      match s with
      | c :: rest => if isBlank c then skipBlanks n rest else s
      | [] => []

/-- Whether every carriage return stands before a line feed. -/
def crBeforeLf : List Char → Bool
  | [] => true
  | '\r' :: '\n' :: s => crBeforeLf s
  | '\r' :: _ => false
  | _ :: s => crBeforeLf s

/-- A documentation comment: its text, whether it is about what encloses it, and
    what is left. -/
def docComment? (s : List Char) : Option (List Char × Bool × List Char) :=
  let block (inner : Bool) : Option (List Char × Bool × List Char) := do
    let rest ← skipBlock 0 s
    let body := (consumed s rest).drop 3
    return (body.take (body.length - 2), inner, rest)
  let found :=
    if starts "//!" s then some (lineText (s.drop 3), true, skipLine (s.drop 3))
    else if starts "/*!" s then block true
    else if starts "///" s && ! starts "////" s then
      some (lineText (s.drop 3), false, skipLine (s.drop 3))
    else if starts "/**" s && ! starts "/***" s then block false
    else none
  found.filter fun r => crBeforeLf r.1

/-- The attribute that a documentation comment stands for. -/
def docAttribute (text : List Char) (inner : Bool) : List Tree :=
  let bang := if inner then [Tree.punct '!' false] else []
  [.punct '#' false] ++ bang
    ++ [.group .bracket [.ident "doc", .punct '=' false, .literal (quoted text)]]

/-! ## Words -/

/-- What is left behind a word. -/
def word? : List Char → Option (List Char)
  | c :: s => if isIdentStart c then some (s.dropWhile isIdentContinue) else none
  | [] => none

/-- What is left behind a suffix, which a literal need not have. -/
def suffix (s : List Char) : List Char := (word? s).getD s

/-- Starts of literals that are no words, though they begin with a letter. -/
def literalStarts : List String :=
  ["r\"", "r#\"", "r##", "b\"", "b'", "br\"", "br#", "c\"", "cr\"", "cr#"]

/-- A word, plain or raw: what is left. The path words have no raw form. -/
def anyWord? (s : List Char) : Option (List Char) :=
  if starts "r#" s then
    (word? (s.drop 2)).filter fun rest =>
      ! ["_", "super", "self", "Self", "crate"].contains
        (String.ofList (consumed (s.drop 2) rest))
  else word? s

/-- A word that is not the start of a literal. -/
def ident? (s : List Char) : Option (List Char) :=
  if literalStarts.any (starts · s) then none else anyWord? s

/-! ## Literals -/

def isHex (c : Char) : Bool :=
  c.isDigit || ('a' ≤ c && c ≤ 'f') || ('A' ≤ c && c ≤ 'F')

/-- The value of a hexadecimal digit. -/
def hexValue (c : Char) : Nat :=
  if c.isDigit then c.toNat - '0'.toNat
  else if 'a' ≤ c && c ≤ 'f' then c.toNat - 'a'.toNat + 10
  else c.toNat - 'A'.toNat + 10

/-- Two hexadecimal digits; a character has at most seven bits. -/
def hexPair? (ascii : Bool) : List Char → Option (Nat × List Char)
  | a :: b :: s =>
    let n := 16 * hexValue a + hexValue b
    if isHex a && isHex b && (! ascii || n < 128) then some (n, s) else none
  | _ => none

/-- The digits of a Unicode escape up to its closing brace: at most six, with
    separators behind the first. -/
def unicodeDigits? : (count value : Nat) → List Char → Option (Nat × List Char)
  | count, value, c :: s =>
    if isHex c then
      if count < 6 then unicodeDigits? (count + 1) (16 * value + hexValue c) s else none
    else if c = '_' && 0 < count then unicodeDigits? count value s
    else if c = '\x7d' && 0 < count then some (value, s)
    else none
  | _, _, [] => none

/-- A Unicode escape behind its letter: a code point that is no surrogate. -/
def unicodeEscape? : List Char → Option (Char × List Char)
  | '\x7b' :: s =>
    match unicodeDigits? 0 0 s with
    | some (n, rest) => if h : n.isValidChar then some (Char.ofNatAux n h, rest) else none
    | none => none
  | _ => none

/-- The blanks behind a backslash at the end of a line. A carriage return stands
    before a line feed only, and the text goes on behind the blanks. -/
def skipContinuation : List Char → Option (List Char)
  | '\r' :: '\n' :: s => skipContinuation s
  | '\r' :: _ => none
  | ' ' :: s => skipContinuation s
  | '\t' :: s => skipContinuation s
  | '\n' :: s => skipContinuation s
  | [] => none
  | s => some s

/-- What kinds of strings there are: text, bytes, and text that ends at a null. -/
inductive StringKind where
  | text
  | bytes
  | nullEnded
  deriving DecidableEq

namespace StringKind

/-- Whether a character can stand in a string as it is. -/
def allows : StringKind → Char → Bool
  | .text, _ => true
  | .bytes, c => c.toNat < 128
  | .nullEnded, c => c != '\x00'

/-- What is left behind an escape, from the letter on. -/
def escape? (k : StringKind) : List Char → Option (List Char)
  | 'x' :: s =>
    match hexPair? (k = .text) s with
    | some (n, rest) => if k = .nullEnded && n = 0 then none else some rest
    | none => none
  | 'u' :: s =>
    match k, unicodeEscape? s with
    | .bytes, _ => none
    | .text, some (_, rest) => some rest
    | .nullEnded, some (c, rest) => if c = '\x00' then none else some rest
    | _, none => none
  | '0' :: s => if k = .nullEnded then none else some s
  | c :: s => if ['n', 'r', 't', '\\', '\'', '"'].contains c then some s else none
  | [] => none

/-- What is left behind the body of a string and its closing quote. -/
def cooked (k : StringKind) : (bound : Nat) → List Char → Option (List Char)
  | 0, _ => none
  | n + 1, s =>
    match s with
    | '"' :: rest => some rest
    | '\r' :: '\n' :: rest => k.cooked n rest
    | '\r' :: _ => none
    | '\\' :: '\n' :: rest => (skipContinuation ('\n' :: rest)).bind (k.cooked n)
    | '\\' :: '\r' :: rest => (skipContinuation ('\r' :: rest)).bind (k.cooked n)
    | '\\' :: rest => (k.escape? rest).bind (k.cooked n)
    | c :: rest => if k.allows c then k.cooked n rest else none
    | [] => none

/-- What is left behind the body of a raw string that is closed by a quote and
    `hashes` marks. -/
def raw (k : StringKind) (hashes : Nat) : List Char → Option (List Char)
  | '"' :: s =>
    if (s.take hashes).length = hashes && (s.take hashes).all (· == '#') then some (s.drop hashes)
    else k.raw hashes s
  | '\r' :: '\n' :: s => k.raw hashes s
  | '\r' :: _ => none
  | c :: s => if k.allows c then k.raw hashes s else none
  | [] => none

/-- What is left behind a raw string, from the marks before its quote on. -/
def rawFrom (k : StringKind) (s : List Char) : Option (List Char) :=
  let marks := s.takeWhile (· == '#')
  match s.dropWhile (· == '#') with
  | '"' :: rest => if marks.length ≤ 255 then k.raw marks.length rest else none
  | _ => none

/-- What is left behind a string and its suffix. -/
def literal? (k : StringKind) (cookedMark rawMark : String) (s : List Char) :
    Option (List Char) :=
  match after? cookedMark.toList s with
  | some body => (k.cooked (body.length + 1) body).map suffix
  | none =>
    match after? rawMark.toList s with
    | some body => (k.rawFrom body).map suffix
    | none => none

end StringKind

/-- What is left behind one character or escape and the closing quote. -/
def quotedChar? (k : StringKind) (s : List Char) : Option (List Char) :=
  let rest :=
    match s with
    | '\\' :: s => k.escape? s
    | c :: s => if k.allows c then some s else none
    | [] => none
  match rest with
  | some ('\'' :: rest) => some (suffix rest)
  | _ => none

/-- What is left behind the digits of an exponent: its value has a digit, and a
    sign comes first. -/
def exponent? : (signed valued : Bool) → List Char → Option (List Char)
  | signed, valued, c :: s =>
    if c = '+' || c = '-' then
      if valued then some (c :: s) else if signed then none else exponent? true valued s
    else if c.isDigit then exponent? signed true s
    else if c = '_' then exponent? signed valued s
    else if valued then some (c :: s) else none
  | _, valued, [] => if valued then some [] else none

/-- What is left behind a number with a point or an exponent, before its suffix.
    The bound is the length of the text. -/
def floatDigits? : (bound : Nat) → (dot : Bool) → List Char → Option (List Char)
  | 0, _, _ => none
  | n + 1, dot, s =>
    match s with
    | [] => if dot then some [] else none
    | c :: rest =>
      if c.isDigit || c = '_' then floatDigits? n dot rest
      else if c = '.' && ! dot then
        if rest.head?.any fun d => d = '.' || isIdentStart d then none else floatDigits? n true rest
      else if c = 'e' || c = 'E' then
        match exponent? false false rest with
        | some rest => some rest
        | none => if dot then some s else none
      else if dot then some s else none

/-- What is left behind the digits of an integer in a base. -/
def baseDigits? (base : Nat) : (empty : Bool) → List Char → Option (List Char)
  | empty, c :: s =>
    if c.isDigit then
      if hexValue c < base then baseDigits? base false s else none
    else if c = '_' then
      if empty && base = 10 then none else baseDigits? base empty s
    else if isHex c && hexValue c < base then baseDigits? base false s
    else if empty then none else some (c :: s)
  | empty, [] => if empty then none else some []

/-- What is left behind the digits of an integer and the mark of its base. -/
def intDigits? (s : List Char) : Option (List Char) :=
  if starts "0x" s then baseDigits? 16 true (s.drop 2)
  else if starts "0o" s then baseDigits? 8 true (s.drop 2)
  else if starts "0b" s then baseDigits? 2 true (s.drop 2)
  else baseDigits? 10 true s

/-- What is left behind the suffix of a number, which no letter may follow. -/
def numberEnd? (s : List Char) : Option (List Char) :=
  let rest := suffix s
  if rest.head?.any isIdentContinue then none else some rest

/-- What is left behind a number. -/
def number? (s : List Char) : Option (List Char) :=
  if s.head?.any Char.isDigit then
    ((floatDigits? (s.length + 1) false s).bind numberEnd?).or ((intDigits? s).bind numberEnd?)
  else none

/-- What is left behind a literal. -/
def literal? (s : List Char) : Option (List Char) :=
  ((StringKind.text.literal? "\"" "r" s).or (StringKind.bytes.literal? "b\"" "br" s)).or
  ((StringKind.nullEnded.literal? "c\"" "cr" s).or
  (((after? ['b', '\''] s).bind (quotedChar? .bytes)).or
  (((after? ['\''] s).bind (quotedChar? .text)).or
  (number? s))))

/-! ## Punctuation -/

/-- Whether a text starts with a punctuation character that starts no comment. -/
def isPunct (s : List Char) : Bool :=
  ! starts "//" s && ! starts "/*" s && s.head?.any ("~!@#$%^&*-=+|;:,<.>/?'".toList.contains ·)

/-- A punctuation character and what is left. A quote is one in front of the
    word of a lifetime only. -/
def punct? : List Char → Option (Tree × List Char)
  | '\'' :: s =>
    match anyWord? s with
    | some rest =>
      if rest.head? = some '\'' || (rest.head? = some '#' && ! starts "r#" s) then none
      else some (.punct '\'' true, s)
    | none => none
  | c :: s => if isPunct (c :: s) then some (.punct c (isPunct s), s) else none
  | [] => none

/-- The error mark, which is read as a literal. -/
def errorMark : String := "(/*ERROR*/)"

/-- A token that is no bracket, and what is left. -/
def leaf? (s : List Char) : Option (Tree × List Char) :=
  match literal? s with
  | some rest => some (.literal (String.ofList (consumed s rest)), rest)
  | none =>
    match punct? s with
    | some r => some r
    | none =>
      match ident? s with
      | some rest => some (.ident (String.ofList (consumed s rest)), rest)
      | none =>
        if starts errorMark s then some (.literal errorMark, s.drop errorMark.length) else none

/-! ## Trees -/

/-- Reads trees into the open groups: `done` holds those of the innermost one,
    last first, and `stack` the brackets and the trees around it. -/
def build : (bound : Nat) → (stack : List (Delim × List Tree)) → (done : List Tree) →
    List Char → Option (List Tree)
  | 0, _, _, _ => none
  | n + 1, stack, done, s =>
    let s := skipBlanks s.length s
    match docComment? s with
    | some (text, inner, rest) => build n stack ((docAttribute text inner).reverse ++ done) rest
    | none =>
      match s with
      | [] => if stack.isEmpty then some done.reverse else none
      | c :: rest =>
        match Delim.ofOpening? c, Delim.ofClosing? c with
        | some d, _ =>
          if starts errorMark s then
            (leaf? s).bind fun r => build n stack (r.1 :: done) r.2
          else build n ((d, done) :: stack) [] rest
        | none, some d =>
          match stack with
          | (d', outer) :: stack =>
            if d = d' then build n stack (.group d done.reverse :: outer) rest else none
          | [] => none
        | none, none => (leaf? s).bind fun r => build n stack (r.1 :: done) r.2

end Lexer

/-- The token trees of a source text; none if it has no tokens. A byte order mark
    at its start is skipped. -/
def lex? (src : String) : Option (List Tree) :=
  let s := if src.toList.head? = some '\ufeff' then src.toList.drop 1 else src.toList
  Lexer.build (s.length + 1) [] [] s

end KindSeq.Source
