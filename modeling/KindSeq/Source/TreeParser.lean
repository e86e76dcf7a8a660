/-
  KindSeq.Source.TreeParser

  A small recursive-descent toolkit over token trees. A parser either fails or
  moves on, and it echoes what it reads, so that a construct can be written out
  again as it was understood. Looking ahead changes nothing.
-/

import KindSeq.Source.Spelling

namespace KindSeq.Source

/-- What is left to read, and what has been read, last first. -/
structure Cursor where
  rest : List Tree
  echo : List Tree := []

/-- A parser of token trees. -/
abbrev TreeParser := StateT Cursor Option

/-- Words that are no names. -/
def keywords : List String :=
  ["_", "abstract", "as", "async", "await", "become", "box", "break", "const", "continue",
   "crate", "do", "dyn", "else", "enum", "extern", "false", "final", "fn", "for", "if", "impl",
   "in", "let", "loop", "macro", "match", "mod", "move", "mut", "override", "priv", "pub", "ref",
   "return", "Self", "self", "static", "struct", "super", "trait", "true", "try", "type",
   "typeof", "unsafe", "unsized", "use", "virtual", "where", "while", "yield"]

/-- What can be looked for in front of the cursor. -/
inductive Mark where
  /-- Punctuation characters that belong together. -/
  | op (text : String)
  /-- This word. -/
  | word (text : String)
  /-- Any word that is no keyword. -/
  | name
  /-- Any word. -/
  | anyWord
  | lifetime
  /-- A literal, with a minus sign before a number or not. -/
  | literal
  /-- An integer literal, with a minus sign or not. -/
  | integer
  | group (d : Delim)

namespace Mark

/-- Whether punctuation characters spell a text, each but the last directly
    before the next. -/
def spells : List Char → List Tree → Bool
  | [c], .punct d _ :: _ => c == d && d != '\''
  | c :: cs, .punct d joint :: ts => c == d && joint && d != '\'' && spells cs ts
  | _, _ => false

/-- Whether the trees start with the mark. -/
def holds : Mark → List Tree → Bool
  | .op text, ts => spells text.toList ts
  | .word text, .ident t :: _ => t == text
  | .name, .ident t :: _ => ! keywords.contains t
  | .anyWord, .ident _ :: _ => true
  | .lifetime, .punct '\'' true :: .ident _ :: _ => true
  | .literal, .literal _ :: _ => true
  | .literal, .ident t :: _ => t == "true" || t == "false"
  | .literal, .punct '-' _ :: .literal t :: _ => t.toList.head?.any Char.isDigit
  | .integer, .literal t :: _ => (Spelling.integer? t).isSome
  | .integer, .punct '-' _ :: .literal t :: _ => (Spelling.integer? t).isSome
  | .group d, .group d' _ :: _ => d == d'
  | _, _ => false

end Mark

namespace TreeParser

/-- The trees behind the first one; a lifetime counts as one. -/
def behind : List Tree → List Tree
  | .punct '\'' true :: .ident _ :: ts => ts
  | _ :: ts => ts
  | [] => []

/-- Whether the mark is next. -/
def sees (m : Mark) : TreeParser Bool := return m.holds (← get).rest

/-- Whether the mark is second. -/
def sees2 (m : Mark) : TreeParser Bool := return m.holds (behind (← get).rest)

/-- Whether the mark is third. -/
def sees3 (m : Mark) : TreeParser Bool := return m.holds (behind (behind (← get).rest))

/-- Whether one of the marks is next. -/
def seesAny (ms : List Mark) : TreeParser Bool := return ms.any (·.holds (← get).rest)

/-- Whether nothing is left. -/
def atEnd : TreeParser Bool := return (← get).rest.isEmpty

/-- The next tree, echoed. -/
def next : TreeParser Tree := do
  match (← get) with
  | ⟨t :: rest, echo⟩ => set (Cursor.mk rest (t :: echo)); return t
  | ⟨[], _⟩ => failure

/-- `n` trees, echoed. -/
def skip : Nat → TreeParser Unit
  | 0 => return ()
  | n + 1 => do let _ ← next; skip n

/-- Reads a mark. -/
def expect (m : Mark) : TreeParser Unit := do
  if ← sees m then
    match m with
    | .op text => skip text.length
    | .lifetime => skip 2
    | .literal | .integer => if ← sees (.op "-") then skip 2 else skip 1
    | _ => skip 1
  else failure

/-- Reads a mark if it is next. -/
def accept (m : Mark) : TreeParser Bool := do
  if ← sees m then expect m; return true else return false

/-- The text of the next word, which is no keyword. -/
def name : TreeParser String := do
  match (← get).rest with
  | .ident t :: _ => expect .name; return t
  | _ => failure

/-- Runs a parser inside the next group, which it has to read to its end. -/
def within {α : Type} (d : Delim) (p : TreeParser α) : TreeParser α := do
  match (← get) with
  | ⟨.group d' inner :: rest, echo⟩ =>
    if d = d' then
      match p ⟨inner, []⟩ with
      | some (a, ⟨[], inner⟩) => set (Cursor.mk rest (.group d inner.reverse :: echo)); return a
      | _ => failure
    else failure
  | _ => failure

/-- What a parser would answer here; nothing is read. -/
def ahead {α : Type} (p : TreeParser α) : TreeParser α := do
  let here ← get
  let a ← p
  set here
  return a

/-- Runs a parser and keeps its echo apart. -/
def apart {α : Type} (p : TreeParser α) : TreeParser (α × List Tree) := do
  let echo := (← get).echo
  modify fun c => { c with echo := [] }
  let a ← p
  let own := (← get).echo.reverse
  modify fun c => { c with echo }
  return (a, own)

/-- Runs a parser without an echo. -/
def silently {α : Type} (p : TreeParser α) : TreeParser α := do
  let (a, _) ← apart p
  return a

/-- Adds trees to the echo. -/
def write (ts : List Tree) : TreeParser Unit :=
  modify fun c => { c with echo := ts.reverse ++ c.echo }

/-- Runs a parser and keeps a copy of its echo. -/
def recorded {α : Type} (p : TreeParser α) : TreeParser (α × List Tree) := do
  let (a, own) ← apart p
  write own
  return (a, own)

/-- Runs a parser and gives the trees that it has read, as they are spelled. -/
def spelled {α : Type} (p : TreeParser α) : TreeParser (α × List Tree) := do
  let before := (← get).rest
  let a ← p
  let after := (← get).rest
  return (a, before.take (before.length - after.length))

/-- Runs a parser. If its answer is of the kind that is not analysed, what it has
    read is echoed as it is spelled. -/
def keeping {α : Type} (kept : α → Bool) (p : TreeParser α) : TreeParser α := do
  let ((a, own), trees) ← spelled (apart p)
  write (if kept a then trees else own)
  return a

/-- Runs a step until it says that it was the last, at most `n` times. -/
def loop (step : TreeParser Bool) : (n : Nat) → TreeParser Unit
  | 0 => failure
  | n + 1 => do if ← step then loop step n

/-- Runs a step until it says that it was the last. A step that goes on reads
    something, so the trees that are left bound the number of steps. -/
def repeating (step : TreeParser Bool) : TreeParser Unit := do
  loop step ((← get).rest.length + 2)

/-- Items with a separator between them, and one behind the last or not, up to a
    stop. -/
def separated (sep : Mark) (stop : TreeParser Bool) (item : TreeParser Unit) : TreeParser Unit :=
  repeating do
    if ← stop then return false
    item
    if ← stop then return false
    expect sep
    return true

/-- Items separated by commas up to the end, with one behind the last or not. -/
def commas (item : TreeParser Unit) : TreeParser Unit := separated (.op ",") atEnd item

/-- A group of any brackets. -/
def anyGroup : TreeParser Delim := do
  match (← next) with
  | .group d _ => return d
  | _ => failure

/-- Runs a parser on all of the trees. -/
def parseAll? {α : Type} (p : TreeParser α) (ts : List Tree) : Option α :=
  match p ⟨ts, []⟩ with
  | some (a, ⟨[], _⟩) => some a
  | _ => none

end TreeParser

end KindSeq.Source
