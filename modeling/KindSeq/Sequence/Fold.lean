/-
  KindSeq.Sequence.Fold

  Left folds over the elements of a sequence with a partial step, and the
  aggregates: the wrapping sum of integers, and conjunction and disjunction of
  booleans. The last two compare the elements with their image under a constant
  function: all are true if they equal the all-true list of their length, and
  some is true if they differ from the all-false one.
-/

import KindSeq.Sequence.Transform

namespace KindSeq.Ty

/-- The left fold of a partial step over the elements of a sequence. An empty
    sequence gives the seed. -/
def folded (s seed : Ty) (step : Ty → Ty → Option Ty) : Option Ty := do
  let q ← s.sequence?
  q.elems.foldlM step seed

/-- The sum of a sequence of integers, wrapping at 64 bits. -/
def sum (s : Ty) : Option Ty := do
  let q ← s.sequence?
  if q.kind = .int then s.folded (intLit 0) add else none

/-- Whether a sequence of booleans equals its image under `f`. -/
def equalsImage (s : Ty) (f : Mapping) : Option Bool := do
  let q ← s.sequence?
  if q.kind = .bool then do
    let image ← f.mapElems q.elems
    elemsEq .bool (ofElems q.elems) (ofElems image.1)
  else none

/-- Whether every element of a sequence of booleans is true. -/
def all (s : Ty) : Option Bool := s.equalsImage Mapping.alwaysTrue

/-- Whether some element of a sequence of booleans is true. -/
def any (s : Ty) : Option Bool := (s.equalsImage Mapping.alwaysFalse).map (! ·)

end KindSeq.Ty
