/-
  KindSeq.Proofs.TypeIdentity

  How the identity of a type is put together. Every type with an identity has a
  `Head`, the constructor whose qualified name its identity carries, and
  `Identified` has one rule per constructor for the identity that a type can
  have, or the identities that an element list can have. Whatever `id?` and
  `ids?` give follows these rules, so that statements about both functions are a
  single induction.
-/

import KindSeq.Identity

namespace KindSeq

/-- Constructors of types that have an identity. -/
inductive Head where
  | bool (b : Bool)
  | noError
  | kind (k : Kind)
  | prim (p : Prim)
  | int
  | pointer (p : Pointer)
  | slice
  | array
  | tuple
  | fail
  | list
  | set
  | nominal (d : Decl)
  deriving DecidableEq

/-- The qualified name that stands for a constructor. -/
def Head.name : Head → String
  | .bool true => "tola_kinds::True"
  | .bool false => "tola_kinds::False"
  | .noError => "tola_kinds::NoError"
  | .kind k => k.path
  | .prim p => p.name
  | .int => "tola_kinds::Int"
  | .pointer p => p.identityName
  | .slice => "core::primitive::slice"
  | .array => "core::primitive::array"
  | .tuple => "core::primitive::tuple"
  | .fail => "tola_kinds::Fail"
  | .list => "tola_kinds::List"
  | .set => "tola_kinds::Set"
  | .nominal d => d.path

/-- The two sorts of identity trees: one identity, or a list of identities. -/
inductive IdSort where
  | single
  | several

namespace Ty

/-- The constructors that occur in a type, the type's own first. The length of
    an array is an integer. -/
def heads : Ty → List Head
  | .bool b => [.bool b]
  | .noError => [.noError]
  | .kind k => [.kind k]
  | .prim p => [.prim p]
  | .int _ => [.int]
  | .pointer p t => .pointer p :: t.heads
  | .slice t => .slice :: t.heads
  | .array t _ => .array :: .int :: t.heads
  | .tuple ts => .tuple :: ts.heads
  | .fail e => .fail :: e.heads
  | .list k e => .list :: (k.heads ++ e.heads)
  | .set k e => .set :: (k.heads ++ e.heads)
  | .nominal d args => .nominal d :: args.heads
  | .hCons x rest => x.heads ++ rest.heads
  | _ => []

/-- The qualified names that occur in a type. -/
def identityNames (t : Ty) : List String := t.heads.map Head.name

/-- The identity of a single type, or the identities of an element list. -/
inductive Identified : IdSort → Ty → Ty → Prop where
  | bool (b : Bool) : Identified .single (.bool b) (nameId (Head.bool b).name)
  | noError : Identified .single .noError (nameId Head.noError.name)
  | kind (k : Kind) : Identified .single (.kind k) (nameId (Head.kind k).name)
  | prim (p : Prim) : Identified .single (.prim p) (nameId (Head.prim p).name)
  | int (ds : Digits) :
      Identified .single (ofIntDigits ds) (appliedId Head.int.name (digitIds ds))
  | pointer {t i : Ty} (p : Pointer) (h : Identified .single t i) :
      Identified .single (.pointer p t) (appliedId (Head.pointer p).name (.idCons i .idNil))
  | slice {t i : Ty} (h : Identified .single t i) :
      Identified .single (.slice t) (appliedId Head.slice.name (.idCons i .idNil))
  | array {t i : Ty} {n : Nat} (hn : n ≤ maxArray) (h : Identified .single t i) :
      Identified .single (.array t n) (appliedId Head.array.name
        (.idCons i (.idCons (appliedId Head.int.name (digitIds (Digits.ofInt n))) .idNil)))
  | tuple {ts is : Ty} (h : Identified .several ts is) :
      Identified .single (.tuple ts) (appliedId Head.tuple.name is)
  | fail {e i : Ty} (h : Identified .single e i) :
      Identified .single (.fail e) (appliedId Head.fail.name (.idCons i .idNil))
  | list {e is : Ty} (k : Kind) (h : Identified .several e is) :
      Identified .single (.list (.kind k) e)
        (appliedId Head.list.name (.idCons (nameId (Head.kind k).name) is))
  | set {e is : Ty} (k : Kind) (h : Identified .several e is) :
      Identified .single (.set (.kind k) e)
        (appliedId Head.set.name (.idCons (nameId (Head.kind k).name) is))
  | nominal (d : Decl) : Identified .single (.nominal d .hNil) (nameId (Head.nominal d).name)
  | generic {x rest is : Ty} (d : Decl) (h : Identified .several (.hCons x rest) is) :
      Identified .single (.nominal d (.hCons x rest)) (appliedId (Head.nominal d).name is)
  | hNil : Identified .several .hNil .idNil
  | hCons {x rest i is : Ty} (hx : Identified .single x i) (hrest : Identified .several rest is) :
      Identified .several (.hCons x rest) (.idCons i is)

/-- What `id?` and `ids?` give follows the rules. -/
theorem identified_of_id? (t : Ty) :
    (∀ i, t.id? = some i → Identified .single t i) ∧
      (∀ is, t.ids? = some is → Identified .several t is) := by
  -- The two functions call each other, so one induction proves both halves.
  induction t with
  | bool b =>
    refine ⟨fun i h => ?_, by simp [ids?]⟩
    cases b <;> cases h <;> exact .bool _
  | noError =>
    refine ⟨fun i h => ?_, by simp [ids?]⟩
    cases h
    exact .noError
  | kind k =>
    refine ⟨fun i h => ?_, by simp [ids?]⟩
    cases h
    exact .kind k
  | prim p =>
    refine ⟨fun i h => ?_, by simp [ids?]⟩
    cases h
    exact .prim p
  | int d =>
    refine ⟨fun i h => ?_, by simp [ids?]⟩
    obtain ⟨ds, hds, rfl⟩ := Option.map_eq_some_iff.mp h
    obtain rfl := ofDigits_of_digits? hds
    exact .int ds
  | pointer p t ih =>
    refine ⟨fun i h => ?_, by simp [ids?]⟩
    obtain ⟨e, he, rfl⟩ := Option.map_eq_some_iff.mp h
    exact .pointer p (ih.1 e he)
  | slice t ih =>
    refine ⟨fun i h => ?_, by simp [ids?]⟩
    obtain ⟨e, he, rfl⟩ := Option.map_eq_some_iff.mp h
    exact .slice (ih.1 e he)
  | fail t ih =>
    refine ⟨fun i h => ?_, by simp [ids?]⟩
    obtain ⟨e, he, rfl⟩ := Option.map_eq_some_iff.mp h
    exact .fail (ih.1 e he)
  | array t n ih =>
    refine ⟨fun i h => ?_, by simp [ids?]⟩
    rw [id?] at h
    split at h
    · next hn =>
      obtain ⟨e, he, rfl⟩ := Option.map_eq_some_iff.mp h
      exact .array hn (ih.1 e he)
    · exact absurd h (by simp)
  | tuple ts ih =>
    refine ⟨fun i h => ?_, by simp [ids?]⟩
    rw [id?] at h
    split at h
    · obtain ⟨es, hes, rfl⟩ := Option.map_eq_some_iff.mp h
      exact .tuple (ih.2 es hes)
    · exact absurd h (by simp)
  | nominal d args ih =>
    refine ⟨fun i h => ?_, by simp [ids?]⟩
    cases args with
    | hNil =>
      rw [id?] at h
      split at h
      · cases h
        exact .nominal d
      · exact absurd h (by simp)
    | hCons x rest =>
      rw [id?] at h
      · split at h
        · obtain ⟨es, hes, rfl⟩ := Option.map_eq_some_iff.mp h
          exact .generic d (ih.2 es hes)
        · exact absurd h (by simp)
      · exact Ty.noConfusion
    | _ => exact absurd h (by simp [id?, ids?])
  | list k e ihk ihe =>
    refine ⟨fun i h => ?_, by simp [ids?]⟩
    cases k with
    | kind k =>
      obtain ⟨es, hes, rfl⟩ := Option.map_eq_some_iff.mp h
      exact .list k (ihe.2 es hes)
    | _ => exact absurd h (by simp [id?])
  | set k e ihk ihe =>
    refine ⟨fun i h => ?_, by simp [ids?]⟩
    cases k with
    | kind k =>
      obtain ⟨es, hes, rfl⟩ := Option.map_eq_some_iff.mp h
      exact .set k (ihe.2 es hes)
    | _ => exact absurd h (by simp [id?])
  | hNil =>
    refine ⟨by simp [id?], fun is h => ?_⟩
    cases h
    exact .hNil
  | hCons x rest ihx ihrest =>
    refine ⟨by simp [id?], fun is h => ?_⟩
    simp only [ids?, Option.bind_eq_bind, Option.bind_eq_some_iff] at h
    obtain ⟨i, hi, js, hjs, hcons⟩ := h
    cases hcons
    exact .hCons (ihx.1 i hi) (ihrest.2 js hjs)
  | _ => exact ⟨by simp [id?], by simp [ids?]⟩

end Ty

end KindSeq
