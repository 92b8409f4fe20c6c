/-!
# Attributed records

A record whose attributes may each be absent: a payload together with a mask of
presence bits. Storing a value and marking it present go together; marking it
absent keeps the stored value but hides it. Readers look through the mask.
-/

namespace GenericNetlink

abbrev Mask := BitVec 32

theorem and_not_eq_zero_iff {m n : Mask} :
    m &&& ~~~n = 0 ↔ ∀ k, m.getLsbD k = true → n.getLsbD k = true := by
  constructor
  · intro h k hk
    have hz := congrArg (·.getLsbD k) h
    simpa [hk, BitVec.lt_of_getLsbD hk] using hz
  · intro h
    refine BitVec.eq_of_getLsbD_eq fun k hk => ?_
    cases hm : m.getLsbD k with
    | false => simp [hm]
    | true => simp [hm, hk, h k hm]

structure Attributed (α : Type) where
  mask : Mask
  data : α
  deriving DecidableEq

namespace Attributed

variable {α β : Type}

def has (a : Attributed α) (attrs : Mask) : Bool := a.mask &&& attrs == attrs

def set (a : Attributed α) (attr : Mask) (store : α → α) : Attributed α :=
  ⟨a.mask ||| attr, store a.data⟩

def get? (a : Attributed α) (attr : Mask) (load : α → β) : Option β :=
  if a.has attr then some (load a.data) else none

/-- Mark `attrs` absent. The stored values are kept, but no longer readable. -/
def unset (a : Attributed α) (attrs : Mask) : Attributed α :=
  { a with mask := a.mask &&& ~~~attrs }

def withData (a : Attributed α) (data : α) : Attributed α := { a with data }

def map (f : α → β) (a : Attributed α) : Attributed β := ⟨a.mask, f a.data⟩

@[simp] theorem mask_set (a : Attributed α) (attr : Mask) (store : α → α) :
    (a.set attr store).mask = a.mask ||| attr := rfl

@[simp] theorem data_set (a : Attributed α) (attr : Mask) (store : α → α) :
    (a.set attr store).data = store a.data := rfl

@[simp] theorem mask_unset (a : Attributed α) (attrs : Mask) :
    (a.unset attrs).mask = a.mask &&& ~~~attrs := rfl

theorem has_iff (a : Attributed α) (attrs : Mask) :
    a.has attrs = true ↔ ∀ i, attrs.getLsbD i = true → a.mask.getLsbD i = true := by
  simp only [has, beq_iff_eq]
  constructor
  · intro h i hi
    have := congrArg (fun m : Mask => m.getLsbD i) h
    simp only [BitVec.getLsbD_and] at this
    rw [hi] at this
    simpa using this
  · intro h
    apply BitVec.eq_of_getLsbD_eq
    intro i _
    have := h i
    simp only [BitVec.getLsbD_and]
    revert this
    cases attrs.getLsbD i <;> cases a.mask.getLsbD i <;> simp

theorem get?_set_self (a : Attributed α) (attr : Mask) (store : α → α) (load : α → β) :
    (a.set attr store).get? attr load = some (load (store a.data)) := by
  have h : (a.set attr store).has attr = true := by
    rw [has_iff]
    intro i hi
    simp [hi]
  simp [get?, h]

@[simp] theorem isSome_get? (a : Attributed α) (attr : Mask) (load : α → β) :
    (a.get? attr load).isSome = a.has attr := by
  cases h : a.has attr <;> simp [get?, h]

/-- Readers see one thing in two records if both or none have the attribute, with
one value if they have it. -/
theorem get?_eq_get?_iff {a b : Attributed α} {attr : Mask} {load : α → β} :
    a.get? attr load = b.get? attr load ↔
      a.has attr = b.has attr ∧ (a.has attr = true → load a.data = load b.data) := by
  cases ha : a.has attr <;> cases hb : b.has attr <;> simp [get?, ha, hb]

end Attributed

end GenericNetlink
