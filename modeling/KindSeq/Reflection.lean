/-
  KindSeq.Reflection

  Sequences as values of the host: the elements one by one, and the text of the
  whole, in brackets for lists and in braces for sets.
-/

import KindSeq.Name
import KindSeq.Sequence.Basic

namespace KindSeq

/-- The label of a kind. -/
def Kind.label : Kind → String
  | .bool => "bool"
  | .int => "int64"
  | .type => "type"

/-- An element as a value of the host. -/
inductive Reflected where
  | bool (b : Bool)
  | int (v : Int)
  /-- A type, by its name. -/
  | type (name : String)
  deriving DecidableEq, Repr

namespace Reflected

/-- The text of an element. -/
def text : Reflected → String
  | .bool true => "true"
  | .bool false => "false"
  | .int v => toString v
  | .type name => name

end Reflected

/-- An element of a kind as a value of the host. -/
def Kind.reflect : Kind → Ty → Option Reflected
  | .bool, t => t.bool?.map .bool
  | .int, t => t.intValue?.map .int
  | .type, t => t.valueId?.map fun _ => .type t.name

namespace Form

/-- What stands before the elements. -/
def opening : Form → String
  | .list => "["
  | .set => "\x7b"

/-- What stands behind the elements. -/
def closing : Form → String
  | .list => "]"
  | .set => "\x7d"

end Form

/-- A text that elements are added to: what is written already, and whether the first
    element is still to come. -/
structure Rendering where
  out : String
  first : Bool

/-- One more element, with a separator before it unless it is the first. -/
def Rendering.push (r : Rendering) (x : Reflected) : Rendering :=
  { out := (if r.first then r.out else r.out ++ ", ") ++ x.text, first := false }

namespace Sequence

/-- The elements in order. -/
def reflect (s : Sequence) : Option (List Reflected) := s.elems.mapM s.kind.reflect

/-- The text of a sequence with these elements. -/
def render (form : Form) (items : List Reflected) : String :=
  (items.foldl Rendering.push ⟨form.opening, true⟩).out ++ form.closing

end Sequence

end KindSeq
