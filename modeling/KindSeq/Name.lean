/-
  KindSeq.Name

  The names of types in full: qualified paths with their arguments in angle
  brackets. A last argument equal to its default is left out.
-/

import KindSeq.Identity

namespace KindSeq

/-- The qualified path of a function construct. -/
def Fn.path : Fn → String
  | .alwaysTrue => "tola_kinds::seq::transform::AlwaysTrue"
  | .alwaysFalse => "tola_kinds::seq::transform::AlwaysFalse"
  | .negate => "tola_kinds::seq::transform::Negate"
  | .checkNonNegative => "shapes::CheckNonNegative"
  | .failAll => "shapes::FailAll"
  | .isBoolType => "shapes::IsBoolType"
  | .rejectFalse => "shapes::RejectFalse"
  | .negInt => "shapes::NegInt"
  | .signOf => "shapes::SignOf"
  | .wrap => "shapes::Wrap"
  | .asType => "shapes::AsType"
  | .sumEach => "shapes::SumEach"

/-- The qualified path of a combinator. -/
def Combinator.path : Combinator → String
  | .plus => "tola_kinds::seq::fold::Plus"
  | .addIfAbsent => "tola_kinds::seq::set::AddIfAbsent"
  | .count => "shapes::Count"
  | .collect => "shapes::Collect"
  | .prepend => "shapes::Prepend"
  | .double => "shapes::Double"
  | .minus => "shapes::Minus"
  | .both => "shapes::AndC"
  | .either => "shapes::OrC"
  | .join => "shapes::ConcatC"
  | .first => "shapes::FirstC"

/-- The name of a pointer type, from that of its target. -/
def Pointer.name : Pointer → String → String
  | .ref, target => "&" ++ target
  | .refMut, target => "&mut " ++ target
  | .rawConst, target => "*const " ++ target
  | .rawMut, target => "*mut " ++ target
  | .box, target => "alloc::boxed::Box<" ++ target ++ ">"

namespace Ty

/-- A path with its arguments. -/
def withArguments (path : String) (args : List String) : String :=
  if args.isEmpty then path else path ++ "<" ++ ", ".intercalate args ++ ">"

mutual

/-- The name of a type. -/
def name : Ty → String
  | .bool true => "tola_kinds::primitives::bool::True"
  | .bool false => "tola_kinds::primitives::bool::False"
  | .nibble n => "tola_kinds::primitives::nibble::X" ++ Nibble.hexDigit n
  | .kind k => k.path
  | .prim p => p.name
  | .dEnd => "tola_kinds::kind::int::DEnd"
  | .dig n rest => withArguments "tola_kinds::kind::int::Dig" [n.name, rest.name]
  | .int d => withArguments "tola_kinds::kind::int::Int" [d.name]
  | .constStream n => withArguments "tola_kinds::primitives::stream::ConstStream" [n.name]
  | .hashStream ns =>
    withArguments "tola_kinds::primitives::stream::HashStream16"
      (ns.toList.map fun n => toString n.toNat)
  | .zero => "tola_kinds::primitives::stream::Z"
  | .succ n => withArguments "tola_kinds::primitives::stream::S" [n.name]
  | .named s => withArguments "tola_kinds::kind::identity::Named" [s.name]
  | .applied c xs => withArguments "tola_kinds::kind::identity::Applied" [c.name, xs.name]
  | .idNil => "tola_kinds::kind::identity::IdNil"
  | .idCons h t => withArguments "tola_kinds::kind::identity::IdCons" [h.name, t.name]
  | .hNil => "tola_kinds::seq::list::HNil"
  | .hCons h t => withArguments "tola_kinds::seq::list::HCons" [h.name, t.name]
  | .list k .hNil => withArguments "tola_kinds::seq::list::List" [k.name]
  | .list k e => withArguments "tola_kinds::seq::list::List" [k.name, e.name]
  | .set k .hNil => withArguments "tola_kinds::seq::set::Set" [k.name]
  | .set k e => withArguments "tola_kinds::seq::set::Set" [k.name, e.name]
  | .noError => "tola_kinds::seq::error::NoError"
  | .fail e => withArguments "tola_kinds::seq::error::Fail" [e.name]
  | .pointer p t => p.name t.name
  | .slice t => "[" ++ t.name ++ "]"
  | .array t n => "[" ++ t.name ++ "; " ++ toString n ++ "]"
  | .tuple (.hCons t .hNil) => "(" ++ t.name ++ ",)"
  | .tuple ts => "(" ++ ", ".intercalate (ts.names none) ++ ")"
  | .nominal d args => withArguments d.path (args.names d.lastDefault)
  | .fn f => f.path
  | .constant k v => withArguments "tola_kinds::seq::transform::Constant" [k.name, v.name]
  | .equalTo k y => withArguments "tola_kinds::seq::transform::EqualTo" [k.name, y.name]
  | .memberOf s => withArguments "tola_kinds::seq::set::MemberOf" [s.name]
  | .addN n => withArguments "shapes::AddN" [n.name]
  | .combinator c => c.path

/-- The names of an element list, without a last element equal to its default. -/
def names (lastDefault : Option Prim) : Ty → List String
  | .hCons x .hNil => if lastDefault.map .prim = some x then [] else [x.name]
  | .hCons x rest => x.name :: rest.names lastDefault
  | _ => []

end

/-- The part of a path behind its last separator. -/
def lastSegment (path : String) : String := (path.splitOn "::").getLastD path

/-- The debugging text of a type's only value, for the types that have one. -/
def debug? : Ty → Option String
  | .int d => d.digits?.map fun ds => "int!(" ++ toString (Digits.toInt ds) ++ ")"
  | .prim .unit => some "()"
  | .bool b => some (lastSegment (name (.bool b)))
  | .nibble n => some (lastSegment (name (.nibble n)))
  | .kind k => some (lastSegment k.path)
  | .dEnd => some "DEnd"
  | .hNil => some "HNil"
  | .noError => some "NoError"
  | .fn f => if f = .alwaysTrue ∨ f = .alwaysFalse ∨ f = .negate then some (lastSegment f.path) else none
  | .combinator c => if c = .plus ∨ c = .addIfAbsent then some (lastSegment c.path) else none
  | _ => none

end Ty

end KindSeq
