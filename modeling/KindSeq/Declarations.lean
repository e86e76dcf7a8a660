/-
  KindSeq.Declarations

  Nominal types that programs use: those of the host language's standard
  library, and a small vocabulary of user definitions with and without an
  identity.
-/

import KindSeq.Term

namespace KindSeq.Decl

/-! ## Standard library -/

def option : Decl where
  path := "core::option::Option"
  copying := .byArguments

def result : Decl where
  path := "core::result::Result"
  copying := .byArguments

def phantom : Decl where
  path := "core::marker::PhantomData"
  copying := .always

def vec : Decl where path := "alloc::vec::Vec"

def string : Decl where path := "alloc::string::String"

/-! ## User definitions -/

def meters : Decl where path := "shapes::Meters"

def seconds : Decl where path := "shapes::Seconds"

def unit : Decl where path := "shapes::Unit"

/-- A second type of the same name, in another module. -/
def otherMeters : Decl where path := "shapes::other::Meters"

def tagged : Decl where path := "shapes::Tagged"

def otherTagged : Decl where path := "shapes::other::Tagged"

/-- A pair whose first component has to be copyable. -/
def pair : Decl where
  path := "shapes::Pair"
  lastDefault := some .u8

/-- A type without an identity. -/
def hidden : Decl where
  path := "shapes::Opaque"
  identified := false

/-! ## Errors -/

def falsy : Decl where
  path := "shapes::Falsy"
  identified := false

def negative : Decl where
  path := "shapes::Negative"
  identified := false

def notABool : Decl where
  path := "shapes::NotABool"
  identified := false

end KindSeq.Decl
