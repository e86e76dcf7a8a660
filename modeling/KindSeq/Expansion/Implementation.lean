/-
  KindSeq.Expansion.Implementation

  The identity that a derivation implements. An implementation declares the
  parameters of the definition again, is for the type applied to them, and lists
  the identities of its parameters by their names. So the identity of the type
  with arguments is found by position first and by name then.
-/

import KindSeq.Expansion.Derive
import KindSeq.Identity

namespace KindSeq.Expansion

open Source Source.Grammar

/-- An implementation of an identity. -/
structure Implementation where
  /-- The qualified name of the type. -/
  path : String
  /-- The arguments of the type that it is for. -/
  selfArgs : List String
  /-- The parameters that it declares. -/
  params : List TypeParam
  /-- The predicates that it takes over. -/
  predicates : List (List Tree)
  /-- The parameters that need an identity themselves. -/
  identified : List String
  /-- The parameters whose identities are listed; without parameters there is no list. -/
  idArgs : Option (List String)

/-- The implementation that a derivation leads to, in the module `parent`. -/
def Derivation.implementation (parent : String) : Derivation → Implementation
  | .nominal name =>
    { path := parent ++ "::" ++ name, selfArgs := [], params := [], predicates := []
      identified := [], idArgs := none }
  | .generic name selfArgs idArgs params predicates =>
    { path := parent ++ "::" ++ name, selfArgs, params, predicates
      identified := idArgs, idArgs := some idArgs }

/-- The identity list of parameters that stand for types. -/
def idList (meaning : String → Option Ty) : List String → Option Ty
  | [] => some .idNil
  | n :: ns => do
    let t ← meaning n
    let i ← t.id?
    let is ← idList meaning ns
    return .idCons i is

namespace Implementation

/-- What a parameter stands for if the type has these arguments. -/
def argument? (m : Implementation) (args : List Ty) (name : String) : Option Ty :=
  (m.selfArgs.zip args).lookup name

/-- Whether the implementation is for the type with these arguments. -/
def appliesTo (m : Implementation) (args : List Ty) : Bool :=
  args.length == m.selfArgs.length
    && m.identified.all fun n => ((m.argument? args n).bind Ty.id?).isSome

/-- The identity of the type with these arguments. -/
def id? (m : Implementation) (args : List Ty) : Option Ty :=
  if m.appliesTo args then
    match m.idArgs with
    | none => some (Ty.nameId m.path)
    | some ns => (idList (m.argument? args) ns).map (Ty.appliedId m.path)
  else none

end Implementation

end KindSeq.Expansion
