/-
  KindSeq.Source.Grammar.Expr

  Expressions. Operators are read by precedence climbing; of the operands only
  literals, negation and parentheses are kept.
-/

import KindSeq.Source.Grammar.Pattern
import KindSeq.Source.Grammar.Type

namespace KindSeq.Source.Grammar

open TreeParser

/-! ## Operators -/

/-- Binding strengths from loose to tight. -/
def precedence : BinaryOp → Nat
  | .compound => 1
  | .or => 3
  | .and => 4
  | .compare => 6
  | .bitOr => 7
  | .bitXor => 8
  | .bitAnd => 9
  | .shl | .shr => 10
  | .add | .sub => 11
  | .mul | .div | .rem => 12

/-- The binding strength of assignment, of ranges, of comparison and of casts. -/
def assignLevel : Nat := 1

def rangeLevel : Nat := 2

def compareLevel : Nat := 6

def castLevel : Nat := 13

/-- The spellings of binary operators. A longer one is tried before its start. -/
def operators : List (String × BinaryOp) :=
  [("+=", .compound), ("-=", .compound), ("*=", .compound), ("/=", .compound), ("%=", .compound),
   ("^=", .compound), ("&=", .compound), ("|=", .compound), ("<<=", .compound),
   (">>=", .compound), ("&&", .and), ("||", .or), ("<<", .shl), (">>", .shr), ("==", .compare),
   ("<=", .compare), ("!=", .compare), (">=", .compare), ("+", .add), ("-", .sub), ("*", .mul),
   ("/", .div), ("%", .rem), ("^", .bitXor), ("&", .bitAnd), ("|", .bitOr), ("<", .compare),
   (">", .compare)]

/-- The next binary operator. -/
def seesOperator : TreeParser (Option (String × BinaryOp)) := do
  let rest := (← get).rest
  return operators.find? fun o => (Mark.op o.1).holds rest

/-- Whether an assignment comes next. -/
def seesAssign : TreeParser Bool := return (← sees (.op "=")) && !(← sees (.op "=>"))

/-- The binding strength of what comes next. -/
def nextLevel : TreeParser Nat := do
  match ← seesOperator with
  | some (_, op) => return precedence op
  | none =>
    if ← seesAssign then return assignLevel
    else if ← sees (.op "..") then return rangeLevel
    else if ← sees (.word "as") then return castLevel
    else return 0

/-- A right operand of an operator of the given strength. -/
def operand (self : Rules) (braces : Bool) (level : Nat) : TreeParser LitExpr := do
  let right ← self (.unary braces)
  self (.extend right braces level)

/-- What belongs to a right operand. -/
def extend (self : Rules) (right : LitExpr) (braces : Bool) (above : Nat) : TreeParser LitExpr := do
  let level ← nextLevel
  if above < level || (level = above && above = assignLevel) then
    let before := (← get).rest.length
    let longer ← self (.climb right braces level)
    if (← get).rest.length = before then return longer else self (.extend longer braces above)
  else return right

/-- Whether a range without an end stops here. -/
def rangeStops (braces : Bool) : TreeParser Bool := do
  return (← atEnd)
    || ((← sees (.op ".")) && !(← sees (.op "..")))
    || (!braces && (← sees (.group .brace)))
    || (← seesAny [.op ",", .op ";", .op "?", .op "=>", .op "=", .op "+", .op "/", .op "%",
          .op "^", .op ">", .op "<=", .op "!=", .op "-=", .op "*=", .op "&=", .op "|=", .op "<<=",
          .word "as"])

/-- A range behind its start. -/
def rangeEnd (self : Rules) (braces : Bool) : TreeParser LitExpr := do
  let closed ← rangeLimits false
  if !closed && (← rangeStops braces) then return .other .range
  else
    let _ ← operand self braces rangeLevel
    return .other .range

/-- Whether what follows a cast would bind tighter than it. -/
def seesTrailer : TreeParser Bool := do
  return ((← sees (.op ".")) && !(← sees (.op "..")))
    || (← seesAny [.op "?", .group .bracket, .group .paren])

/-- Whether an expression is a comparison, which no other one can follow. -/
def isComparison : LitExpr → Bool
  | .binary .compare _ _ => true
  | _ => false

/-- The operators behind an operand. -/
def climb (self : Rules) (left : LitExpr) (braces : Bool) (base : Nat) : TreeParser LitExpr := do
  if left = .other .range then return left
  match ← seesOperator with
  | some (text, op) =>
    if precedence op < base then return left
    if op = .compare && isComparison left then failure
    expect (.op text)
    let right ← operand self braces (precedence op)
    self (.climb (.binary op left right) braces base)
  | none =>
    if base ≤ assignLevel && (← seesAssign) then
      expect (.op "=")
      let _ ← operand self braces assignLevel
      self (.climb (.other .plain) braces base)
    else if base ≤ rangeLevel && (← sees (.op "..")) then
      let range ← rangeEnd self braces
      self (.climb range braces base)
    else if base ≤ castLevel && (← sees (.word "as")) then
      expect (.word "as")
      self.narrowType
      if ← seesTrailer then failure
      self (.climb (.other .plain) braces base)
    else return left

/-! ## Operands -/

/-- A literal. -/
def literal : TreeParser LitExpr := do
  match ← next with
  | .literal t =>
    match Spelling.integer? t with
    | some (n, _) => return .integer n
    | none => return .literal
  | _ => return .literal

/-- Calls of arguments in parentheses. -/
def callArguments (self : Rules) : TreeParser Unit := within .paren (commas self.expr)

/-- Indices that are spelled as one number, written out with points between
    them; the answer is whether a further point belongs to it. -/
def joinedIndices : TreeParser Bool := do
  match ← silently next with
  | .literal t =>
    let parts := t.splitOn "."
    let open' := parts.getLast? = some ""
    match (if open' then parts.dropLast else parts).mapM indexValue? with
    | some indices =>
      let point := Tree.punct '.' false
      write ([point].intercalate (indices.map ([indexTree ·])))
      if open' then write [point]
      return open'
    | none => failure
  | _ => failure

/-- What follows the point of a field or a method. -/
def memberAccess (self : Rules) : TreeParser Unit := do
  if ← accept (.word "await") then return ()
  else
    let named ← member
    if named && (← sees (.op "::")) then
      let _ ← self .arguments
      callArguments self
    else if named && (← sees (.group .paren)) then callArguments self

/-- Calls, fields, indices and question marks behind an operand. -/
def trailers (self : Rules) (e : LitExpr) : TreeParser LitExpr := do
  if ← sees (.group .paren) then
    callArguments self
    self (.trailers (.other .plain))
  else if (← sees (.op ".")) && !(← sees (.op "..")) && e != .other .range then
    skip 1
    let float : Bool :=
      match (← get).rest with
      | .literal t :: _ => Spelling.isFloat t
      | _ => false
    if float then
      if ← joinedIndices then memberAccess self
    else memberAccess self
    self (.trailers (.other .plain))
  else if ← sees (.group .bracket) then
    within .bracket self.expr
    self (.trailers (.other .plain))
  else if (← sees (.op "?")) && e != .other .range then
    skip 1
    self (.trailers (.other .plain))
  else return e

/-- Parentheses or a tuple. -/
def parenOrTuple (self : Rules) : TreeParser LitExpr :=
  within .paren do
    if ← atEnd then return .other .plain
    let first ← self (.expr true)
    if ← atEnd then return .paren first
    expect (.op ",")
    commas self.expr
    return .other .plain

/-- An array of elements or of copies. -/
def array (self : Rules) : TreeParser LitExpr :=
  within .bracket do
    if ← atEnd then return .other .plain
    self.expr
    if ← accept (.op ";") then self.expr
    else if !(← atEnd) then
      expect (.op ",")
      commas self.expr
    return .other .plain

/-- A field of a structure expression. -/
def fieldValue (self : Rules) : TreeParser Unit := do
  attributes self
  let named ← member
  if !named || (← sees (.op ":")) then
    expect (.op ":")
    self.expr

/-- The inside of a structure expression. -/
def structBody (self : Rules) : TreeParser Unit :=
  repeating do
    if ← atEnd then return false
    if ← accept (.op "..") then
      if !(← atEnd) then self.expr
      return false
    fieldValue self
    if ← atEnd then return false
    expect (.op ",")
    return true

/-- A path, a macro call or a structure. -/
def pathOperand (self : Rules) (braces : Bool) : TreeParser LitExpr := do
  let form ← qualifiedPath self true
  if ← seesMacro form then
    let d ← macroCall
    return .other (if d = .brace then .bracedMacro else .plain)
  else if braces && (← sees (.group .brace)) then
    within .brace (structBody self)
    return .other .plain
  else return .other .plain

/-- One parameter of a closure. A pattern that is not analysed loses its
    attributes, unless a type follows. -/
def closureParam (self : Rules) : TreeParser Unit := do
  let (_, attributes) ← apart (attributes self)
  let (form, text) ← apart (self .pattern)
  let typed ← sees (.op ":")
  unless form = .kept && !typed do write attributes
  write text
  if typed then
    skip 1
    self.type

/-- A closure. -/
def closure (self : Rules) (braces : Bool) : TreeParser LitExpr := do
  let _ ← boundLifetimes self
  for w in ["const", "static", "async", "move"] do
    let _ ← accept (.word w)
  expect (.op "|")
  separated (.op ",") (sees (.op "|")) (closureParam self)
  expect (.op "|")
  if ← accept (.op "->") then
    self.type
    self.block
  else
    let _ ← self (.expr braces)
  return .other .plain

/-- Whether an expression can start here. -/
def seesExpr : TreeParser Bool := do
  return ((← sees .anyWord) && !(← sees (.word "as")))
    || (← seesAny [.group .paren, .group .bracket, .group .brace, .literal, .op "..", .op "::",
          .lifetime, .op "#"])
    || ((← sees (.op "!")) && !(← sees (.op "!=")))
    || ((← sees (.op "-")) && !(← seesAny [.op "-=", .op "->"]))
    || ((← sees (.op "*")) && !(← sees (.op "*=")))
    || ((← sees (.op "|")) && !(← sees (.op "|=")))
    || ((← sees (.op "&")) && !(← sees (.op "&=")))
    || ((← sees (.op "<")) && !(← seesAny [.op "<=", .op "<<="]))

/-- A condition and a block, and what follows an `else`. -/
def conditional (self : Rules) : TreeParser Unit :=
  repeating do
    expect (.word "if")
    self.condition
    self.block
    if ← accept (.word "else") then
      if ← sees (.word "if") then return true
      else
        self.block
        return false
    else return false

/-- One arm of a match. -/
def matchArm (self : Rules) : TreeParser Unit := do
  attributes self
  self.patterns
  if ← accept (.word "if") then self.expr
  expect (.op "=>")
  let body ← self (.statementExpr [])
  if body = .other .block || (← atEnd) then
    let _ ← accept (.op ",")
  else expect (.op ",")

/-- The arms of a match. -/
def matchArms (self : Rules) : TreeParser Unit := do
  innerAttributes self
  repeating do
    if ← atEnd then return false
    matchArm self
    return true

/-- Loops, blocks and other forms that a keyword starts and a block ends. The
    block of a condition or of a try has no attributes of its own. -/
def blockForm (self : Rules) : TreeParser Unit := do
  if ← sees (.word "if") then conditional self
  else if ← accept (.word "try") then self.block
  else if ← accept (.word "match") then
    self.condition
    within .brace (matchArms self)
  else
    if ← accept (.word "while") then self.condition
    else if ← accept (.word "for") then
      self.patterns
      expect (.word "in")
      self.condition
    else if ← seesAny [.word "loop", .word "unsafe", .word "const"] then skip 1
    attributedBlock self

/-- A loop or a block behind a label. -/
def labelled (self : Rules) : TreeParser LitExpr := do
  expect .lifetime
  expect (.op ":")
  if ← seesAny [.word "while", .word "for", .word "loop", .group .brace] then
    blockForm self
    return .other .block
  else failure

/-- Whether parameters of a closure come next, which a loop does not have. -/
def seesClosureParams : TreeParser Bool := return (← sees (.word "for")) && (← seesParamsBehind)

/-- Whether a closure comes next. -/
def seesClosure : TreeParser Bool := do
  return (← seesAny [.op "|", .word "move", .word "static"])
    || (← seesClosureParams)
    || ((← sees (.word "const")) && !(← sees2 (.group .brace)))
    || ((← sees (.word "async")) && ((← sees2 (.op "|")) || (← sees2 (.word "move"))))

/-- Whether an asynchronous block comes next. -/
def seesAsyncBlock : TreeParser Bool := do
  return (← sees (.word "async"))
    && ((← sees2 (.group .brace)) || ((← sees2 (.word "move")) && (← sees3 (.group .brace))))

/-- The value of a jump, if one comes next. -/
def jumpValue (self : Rules) : TreeParser LitExpr := do
  if ← seesExpr then self.expr
  return .other .plain

/-- A jump out of a loop, with a label and a value or not. Where `braces` does not
    hold, a brace does not start the value. -/
def breakOperand (self : Rules) (braces : Bool) : TreeParser LitExpr := do
  expect (.word "break")
  if (← sees .lifetime) && (← sees2 (.op ":")) then failure
  let _ ← accept .lifetime
  if braces || !(← sees (.group .brace)) then jumpValue self else return .other .plain

/-- An operand without operators. -/
def operandAtom (self : Rules) (braces : Bool) : TreeParser LitExpr := do
  if ← sees .literal then literal
  else if ← seesAsyncBlock then
    skip 1
    let _ ← accept (.word "move")
    self.block
    return .other .plain
  else if (← sees (.word "try")) && (← sees2 (.group .brace)) then
    blockForm self
    return .other .block
  else if ← seesClosure then closure self braces
  else if ← seesBuiltin then
    builtinForm
    return .other .kept
  else if (← seesAny ([.name, .op "::", .op "<"] ++ pathWords))
      || ((← sees (.word "try")) && ((← sees2 (.op "!")) || (← sees2 (.op "::")))) then
    pathOperand self braces
  else if ← sees (.group .paren) then parenOrTuple self
  else if ← sees (.word "break") then breakOperand self braces
  else if ← accept (.word "continue") then
    let _ ← accept .lifetime
    return .other .plain
  else if ← accept (.word "return") then jumpValue self
  else if ← accept (.word "become") then
    self.expr
    return .other .kept
  else if ← sees (.group .bracket) then array self
  else if ← accept (.word "let") then
    self.patterns
    expect (.op "=")
    let left ← self (.unary braces)
    let _ ← self (.climb left braces compareLevel)
    return .other .plain
  else if ← seesAny [.word "if", .word "while", .word "for", .word "loop", .word "match",
      .word "unsafe", .word "const", .group .brace] then
    blockForm self
    return .other .block
  else if ← accept (.word "yield") then jumpValue self
  else if ← sees (.op "..") then rangeEnd self braces
  else if ← accept (.word "_") then return .other .plain
  else if ← sees .lifetime then labelled self
  else failure

/-- An operand with the operators before and behind it. A range that starts with
    its points has no attributes. -/
def unary (self : Rules) (braces : Bool) : TreeParser LitExpr :=
  keeping (· = .other .kept) do
    let attributed ← sees (.op "#")
    attributes self
    if ← accept (.op "&") then
      if (← sees (.word "raw")) && ((← sees2 (.word "mut")) || (← sees2 (.word "const"))) then skip 2
      else
        let _ ← accept (.word "mut")
      let _ ← self (.unary braces)
      return .other .plain
    else if ← accept (.op "-") then
      let e ← self (.unary braces)
      return .neg e
    else if ← seesAny [.op "*", .op "!"] then
      skip 1
      let _ ← self (.unary braces)
      return .other .plain
    else
      let atom ← operandAtom self braces
      let e ← self (.trailers atom)
      if attributed && e = .other .range then failure
      return e

/-- An expression. -/
def expr (self : Rules) (braces : Bool) : TreeParser LitExpr := do
  let left ← self (.unary braces)
  self (.climb left braces 0)

/-- Whether a form comes next that ends with its block in the place of a
    statement. -/
def seesBlockForm : TreeParser Bool := do
  return (← seesAny [.word "if", .word "while", .word "loop", .word "match", .word "unsafe",
      .group .brace])
    || ((← sees (.word "for")) && !(← seesClosureParams))
    || ((← seesAny [.word "try", .word "const"]) && (← sees2 (.group .brace)))

/-- An expression in the place of a statement or of a match arm: a block at its
    start ends it, unless a point or a question mark follows. Attributes belong to
    its first operand, and are dropped if that is not analysed. -/
def statementExpr (self : Rules) (before : List Tree) : TreeParser LitExpr := do
  let (_, own) ← apart (attributes self)
  let (first, text) ← apart do
    if ← seesBlockForm then
      blockForm self
      return .other .block
    else if ← sees .lifetime then labelled self
    else self (.unary true)
  unless first = .other .kept do write (before ++ own)
  write text
  if first = .other .block then
    if ((← sees (.op ".")) && !(← sees (.op ".."))) || (← sees (.op "?")) then
      let e ← self (.trailers first)
      self (.climb e true 0)
    else return first
  else self (.climb first true 0)

end KindSeq.Source.Grammar
