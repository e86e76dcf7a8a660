/-
  KindSeq.Stream

  Endless streams of nibbles: one nibble for ever, or sixteen in rotation.
  Streams are compared to a depth given by a Peano term.
-/

import KindSeq.Hash
import KindSeq.Term

namespace KindSeq

/-- An endless stream of nibbles. -/
inductive NibbleStream where
  | const (n : Nibble)
  | cycle (ns : Vector Nibble 16)
  deriving DecidableEq

namespace NibbleStream

/-- The first nibble. -/
def head : NibbleStream → Nibble
  | .const n => n
  | .cycle ns => ns[0]

/-- The stream after its first nibble. -/
def tail : NibbleStream → NibbleStream
  | .const n => .const n
  | .cycle ns => .cycle (Vector.ofFn fun i : Fin 16 => ns.get (Nibble.ofNat (i.val + 1)))

/-- Nibble `i`, counted from zero. -/
def nth : NibbleStream → Nat → Nibble
  | .const n, _ => n
  | .cycle ns, i => ns.get (Nibble.ofNat i)

/-- Whether two streams agree as deep as a Peano term says. The part of the
    depth behind the first difference is not read. -/
def agree (a b : NibbleStream) : Ty → Option Bool
  | .zero => some true
  | .succ n => if a.head = b.head then agree a.tail b.tail n else some false
  | _ => none

/-- The depth to which identities are compared: one round of a hash. -/
def depth : Ty := Ty.peano 16

end NibbleStream

namespace Ty

/-- The stream that a term stands for. Sixteen numbers are one if all are nibbles. -/
def stream? : Ty → Option NibbleStream
  | .constStream (.nibble n) => some (.const n)
  | .hashStream ns =>
    if ns.all (· < 16) then some (.cycle (ns.map fun n => Nibble.ofNat n.toNat)) else none
  | _ => none

/-- The term that spells a stream. -/
def ofStream : NibbleStream → Ty
  | .const n => .constStream (.nibble n)
  | .cycle ns => .hashStream (ns.map fun n => UInt8.ofNat n.val)

/-- The hash stream of a qualified name. -/
def routing (name : String) : Ty := ofStream (.cycle (Hash.nibbles (Hash.ofString name)))

/-- Agreement of two streams to a depth. -/
def streamEq (a b depth : Ty) : Option Bool := do
  let x ← a.stream?
  let y ← b.stream?
  x.agree y depth

end Ty

end KindSeq
