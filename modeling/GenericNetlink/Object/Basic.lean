import GenericNetlink.Fault
import GenericNetlink.Object.Attributed

/-!
# Objects

An object is an attributed record with a type tag. Payloads of several kinds
live in one type `P`; `Carries P α` says that `α` is one of the kinds, and
`payload` gets at a payload of the kind it asks for or fails.
-/

namespace GenericNetlink

open Text

/-- A type of objects. The number tells apart types that share a name. -/
structure TypeTag where
  id : Nat
  name : String
  deriving DecidableEq

structure Object (P : Type) extends Attributed P where
  tag : TypeTag
  deriving DecidableEq

class Carries (P α : Type) where
  kind : String
  wrap : α → P
  read? : P → Option α
  read?_wrap : ∀ a, read? (wrap a) = some a
  wrap_of_read? : ∀ {p a}, read? p = some a → wrap a = p

namespace Object

variable {P : Type}

instance [Inspect P] : Inspect (Object P) where
  shown o := .record "NlObject"
    [("type", .quoted o.tag.name), ("mask", .bare (hex o.mask.toNat)),
      ("data", Inspect.shown o.data)] true

def sameType (a b : Object P) : Bool := a.tag == b.tag

def withContents (o : Object P) (contents : Attributed P) : Object P := ⟨contents, o.tag⟩

/-- A new object: a blank payload without attributes, as the constructor leaves it. -/
def fresh (blank : P) (construct : Option (Attributed P → Attributed P)) (tag : TypeTag) :
    Object P :=
  let a : Attributed P := ⟨0, blank⟩
  ⟨(construct.map (· a)).getD a, tag⟩

def payload (α : Type) [Carries P α] (o : Object P) : Except Fault (Attributed α) :=
  match (Carries.read? o.data : Option α) with
  | some data => .ok ⟨o.mask, data⟩
  | none => .error (.payloadMismatch (Carries.kind P α) o.tag.name)

def contentsOf {α : Type} [Carries P α] (a : Attributed α) : Attributed P := a.map Carries.wrap

def modify {α : Type} [Carries P α] (o : Object P) (f : Attributed α → Attributed α) :
    Except Fault (Object P) := do
  let a ← o.payload α
  return o.withContents (contentsOf (f a))

theorem payload_withContents {α : Type} [Carries P α] (o : Object P) (a : Attributed α) :
    (o.withContents (contentsOf a)).payload α = .ok a := by
  simp [payload, withContents, contentsOf, Attributed.map, Carries.read?_wrap]

theorem contentsOf_payload {α : Type} [Carries P α] {o : Object P} {a : Attributed α}
    (h : o.payload α = .ok a) : contentsOf a = o.toAttributed := by
  unfold payload at h
  split at h
  · rename_i data hd
    cases h
    simp [contentsOf, Attributed.map, Carries.wrap_of_read? hd]
  · cases h

theorem payload_cases (α : Type) [Carries P α] (o : Object P) :
    (∃ a : Attributed α, o.payload α = .ok a ∧ contentsOf a = o.toAttributed) ∨
    o.payload α = .error (.payloadMismatch (Carries.kind P α) o.tag.name) := by
  cases h : o.payload α with
  | ok a => exact .inl ⟨a, rfl, contentsOf_payload h⟩
  | error fault =>
    unfold payload at h
    split at h
    · cases h
    · exact .inr h.symm

end Object

end GenericNetlink
