/-
  KindSeq.Expansion.Depth

  Names for comparison depths: an alias for zero, and for every further depth up
  to a maximum one that adds a step to the alias before it.
-/

import KindSeq.Source.Spelling

namespace KindSeq.Expansion

/-- What an alias of a depth stands for. -/
inductive DepthBody where
  | zero
  /-- One more than another alias. -/
  | succ (before : String)
  deriving DecidableEq, Repr

/-- An alias of a depth. -/
structure DepthAlias where
  name : String
  body : DepthBody
  /-- The attribute that documents it. -/
  doc : String
  deriving DecidableEq, Repr

/-- The name of the alias of depth `n`. -/
def depthName (n : Nat) : String := "D" ++ toString n

/-- The alias of depth zero. -/
def zeroAlias : DepthAlias where
  name := depthName 0
  body := .zero
  doc := "r\" Compare nothing; every pair of streams is equal at this depth.\""

/-- The alias of depth `n + 1`. -/
def succAlias (n : Nat) : DepthAlias where
  name := depthName (n + 1)
  body := .succ (depthName n)
  doc := "\"Compare " ++ toString (n + 1) ++ " nibble(s).\""

/-- The aliases up to a maximum, in the order in which they are defined. -/
def depthAliases (max : Nat) : List DepthAlias := zeroAlias :: (List.range max).map succAlias

namespace DepthAlias

/-- The tokens of an alias. -/
def tokens (a : DepthAlias) : String :=
  let body :=
    match a.body with
    | .zero => "Z"
    | .succ n => "S<" ++ n ++ ">"
  "#[doc=" ++ a.doc ++ "]pubtype" ++ a.name ++ "=" ++ body ++ ";"

end DepthAlias

/-- Why a maximum is rejected. -/
inductive DepthError where
  | missing
  | notInteger
  /-- The number has a minus sign. -/
  | invalidDigit
  | tooLarge
  | zero
  | trailing
  deriving DecidableEq, Repr

/-- The wording of a rejection. -/
def DepthError.message : DepthError → String
  | .missing => "unexpected end of input, expected integer literal"
  | .notInteger => "expected integer literal"
  | .invalidDigit => "invalid digit found in string"
  | .tooLarge => "number too large to fit in target type"
  | .zero => "depth must be at least 1"
  | .trailing => "unexpected token"

/-- The aliases that a number asks for, which is positive and fits in a machine word.
    `alone` says that nothing follows it. -/
def aliasesUpTo (n : Nat) (alone : Bool) : Except DepthError (List DepthAlias) :=
  if Nat.pow 2 64 ≤ n then .error .tooLarge
  else if n = 0 then .error .zero
  else if alone then .ok (depthAliases n)
  else .error .trailing

open Source in
/-- The aliases that trees ask for by a single integer. -/
def aliasesOf : List Tree → Except DepthError (List DepthAlias)
  | [] => .error .missing
  | .punct '-' _ :: .literal t :: _ =>
    .error (if (Spelling.integer? t).isSome then .invalidDigit else .notInteger)
  | .literal t :: rest =>
    match Spelling.integer? t with
    | none => .error .notInteger
    | some (n, _) => aliasesUpTo n rest.isEmpty
  | _ => .error .notInteger

/-- The expansion of a maximum. -/
def expandDepths (src : String) : Option (Except DepthError String) :=
  (Source.lex? src).map fun ts =>
    (aliasesOf ts).map fun as => String.join (as.map DepthAlias.tokens)

end KindSeq.Expansion
