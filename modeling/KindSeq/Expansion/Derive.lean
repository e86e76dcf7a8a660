/-
  KindSeq.Expansion.Derive

  Identities of user types, derived from their definition. The expansion hands
  the name, the type parameters and their bounds on; parameters that are no
  types cannot be part of an identity.
-/

import KindSeq.Expansion.Integer

namespace KindSeq.Expansion

open Source Source.Grammar

/-- Why no identity can be derived. -/
inductive DeriveError where
  | lifetimeParam
  | constParam
  deriving DecidableEq, Repr

/-- The wording of an error. -/
def DeriveError.message : DeriveError → String
  | .lifetimeParam => "TypeValue cannot be derived for types with lifetime parameters"
  | .constParam => "TypeValue cannot be derived for types with const parameters"

/-- A type parameter as it is declared again: attributes and the default belong to
    the definition only. -/
def redeclared (p : TypeParam) : TypeParam := { p with attributes := [], default? := none }

/-- The parameters, if all are types; otherwise what is wrong with the first one
    that is none. -/
def typeParams : List Param → Except DeriveError (List TypeParam)
  | [] => .ok []
  | .lifetime :: _ => .error .lifetimeParam
  | .const :: _ => .error .constParam
  | .type p :: ps => do
    let rest ← typeParams ps
    return redeclared p :: rest

/-- What a definition hands on, so that its identity can be implemented. -/
inductive Derivation where
  /-- A type without parameters. -/
  | nominal (name : String)
  /-- A type with parameters: the arguments of the type, the parameters whose
      identities its identity lists, the declared parameters, and the predicates of
      the where clause. -/
  | generic (name : String) (selfArgs idArgs : List String) (params : List TypeParam)
      (predicates : List (List Tree))

/-- The derivation of a definition. The where clause of a type without parameters is
    not handed on. -/
def derive (d : TypeItem) : Except DeriveError Derivation := do
  let params ← typeParams d.params
  let names := params.map (·.name)
  return if params.isEmpty then .nominal d.name
    else .generic d.name names names params d.predicates

/-! ## Tokens -/

/-- A type parameter with what it has of attributes, bounds and a default. -/
def paramTokens (p : TypeParam) : String :=
  let bounds := if p.bounds.isEmpty then "" else ":" ++ Tree.texts p.bounds
  let default := (p.default?.map fun ts => "=" ++ Tree.texts ts).getD ""
  Tree.texts p.attributes ++ p.name ++ bounds ++ default

/-- What a derivation hands on, as the arguments of a macro. -/
def Derivation.arguments : Derivation → String
  | .nominal name => name ++ "," ++ quoted name.toList
  | .generic name selfArgs idArgs params predicates =>
    name ++ "<" ++ ",".intercalate selfArgs ++ ">," ++ quoted name.toList ++ ",["
      ++ ",".intercalate idArgs ++ "],[" ++ ",".intercalate (params.map paramTokens) ++ "],["
      ++ String.join (predicates.map fun p => Tree.texts p ++ ",") ++ "]"

/-- The tokens of a derivation. -/
def Derivation.tokens (r : Derivation) : String :=
  "::tola_kinds::__impl_type_value!(" ++ r.arguments ++ ");"

/-- The tokens that a definition expands to. -/
def definitionTokens (d : TypeItem) : String :=
  match derive d with
  | .ok r => r.tokens
  | .error e => errorTokens e.message

/-- The expansion of a type definition. -/
def expandDefinition (src : String) : Option String :=
  (parseDefinition? src).map definitionTokens

end KindSeq.Expansion
