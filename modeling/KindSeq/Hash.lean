/-
  KindSeq.Hash

  FNV-1a with 64 bits, the hash behind every nominal identity, and its split
  into sixteen nibbles, least significant first. There are two ways to a nibble:
  all sixteen at once from the finished hash (`nibbles`), and one at a time by
  position with checked byte arithmetic (`nibbleAt`), which has no value past
  the last nibble.
-/

import KindSeq.Nibble

namespace KindSeq

namespace Hash

/-- The state before the first byte. -/
def offsetBasis : UInt64 := 0xcbf29ce484222325

/-- The multiplier of every round. -/
def prime : UInt64 := 0x100000001b3

/-- One round: mix in a byte, then multiply. -/
def step (h : UInt64) (b : UInt8) : UInt64 := (h ^^^ b.toUInt64) * prime

/-- The hash of a byte string. -/
def ofBytes (bs : List UInt8) : UInt64 := bs.foldl step offsetBasis

/-- The hash of a text, over its UTF-8 bytes. -/
def ofString (s : String) : UInt64 := ofBytes s.toUTF8.toList

/-- The hash continued from position `i`, for at most `n` more bytes. -/
def walk (bs : ByteArray) : (n i : Nat) → UInt64 → UInt64
  | 0, _, h => h
  | n + 1, i, h => if hi : i < bs.size then walk bs n (i + 1) (step h bs[i]) else h

/-- The hash of a text, walking its bytes by position. -/
def ofStringByIndex (s : String) : UInt64 :=
  walk s.toUTF8 s.toUTF8.size 0 offsetBasis

/-- Nibble `i` of a hash, counted from the least significant. -/
def nibble (h : UInt64) (i : Nat) : Nibble := Nibble.ofNat (h.toNat >>> (4 * i))

/-- All sixteen nibbles of a hash. -/
def nibbles (h : UInt64) : Vector Nibble 16 := Vector.ofFn fun i => nibble h i.val

/-- How taking a nibble by its position can fail. -/
inductive Fault where
  /-- Four times the position is not a byte. -/
  | multiply
  /-- The shift is not below the width of the hash. -/
  | shiftRight
  deriving DecidableEq, Repr

/-- The wording of a fault. -/
def Fault.message : Fault → String
  | .multiply => "attempt to multiply with overflow"
  | .shiftRight => "attempt to shift right with overflow"

/-- Nibble `n` of the hash of a text, with the shift amount computed as a byte. -/
def nibbleAt (s : String) (n : UInt8) : Except Fault Nibble :=
  let amount := n.toNat * 4
  if amount < 256 then
    if amount < 64 then .ok (Nibble.ofNat (ofStringByIndex s >>> amount.toUInt64).toNat)
    else .error .shiftRight
  else .error .multiply

end Hash

end KindSeq
