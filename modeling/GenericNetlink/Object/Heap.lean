import GenericNetlink.Object.Generic
import GenericNetlink.Registry

/-!
# Lifetimes

Objects held by named variables, with a journal of every allocation and every
release. An object is released when its variable is assigned anew or dropped,
when it is the destination of a copy that failed, and when it is asked for as a
kind of payload that it is not.
-/

namespace GenericNetlink

/-- What the journal of a heap records. A release shows the object as it was then. -/
inductive Event (P : Type)
  | allocated (tag : TypeTag)
  | released (o : Object P)

structure Heap (P : Type) where
  live : Registry String (Object P)
  journal : List (Event P)

namespace Heap

variable {P : Type}

def empty : Heap P := ⟨.empty, []⟩

def find? (h : Heap P) (name : String) : Option (Object P) := h.live.get? name

def record (h : Heap P) (e : Event P) : Heap P := { h with journal := h.journal ++ [e] }

def drop (h : Heap P) (name : String) : Heap P :=
  match h.find? name with
  | none => h
  | some o => { h with live := h.live.erase name }.record (.released o)

/-- Let a variable hold an object that was allocated for it. What it held before
is released after that. -/
def adopt (h : Heap P) (name : String) (o : Object P) : Heap P :=
  let h := (h.record (.allocated o.tag)).drop name
  { h with live := h.live.insert name o }

def discard (h : Heap P) (o : Object P) : Heap P :=
  (h.record (.allocated o.tag)).record (.released o)

def update (h : Heap P) (name : String) (contents : Attributed P) : Heap P :=
  match h.find? name with
  | none => h
  | some o => { h with live := h.live.insert name (o.withContents contents) }

def alloc (tables : Catalog P) (h : Heap P) (name : String) (tag : TypeTag) : Heap P :=
  h.adopt name (.alloc tables tag)

/-- Copy the object of one variable into another. A copy that fails leaves the
other variable alone and releases the destination, if there was one already. -/
def clone (tables : Catalog P) (h : Heap P) (src dst : String) : Except Fault Unit × Heap P :=
  match h.find? src with
  | none => (.ok (), h)
  | some o =>
    match o.attemptClone tables with
    | .error fault => (.error fault, h)
    | .ok (.ok (), copy) => (.ok (), h.adopt dst copy)
    | .ok (.error fault, leftover) => (.error fault, h.discard leftover)

/-- Ask for the object of a variable as one of kind `α`, for good: an object of
another kind is released. -/
def downcast (α : Type) [Carries P α] (h : Heap P) (name : String) : Except Fault Unit × Heap P :=
  match h.find? name with
  | none => (.ok (), h)
  | some o =>
    match o.payload α with
    | .ok _ => (.ok (), h)
    | .error fault => (.error fault, h.drop name)

def allocated (h : Heap P) : List TypeTag :=
  h.journal.filterMap fun
    | .allocated tag => some tag
    | .released _ => none

def released (h : Heap P) : List (Object P) :=
  h.journal.filterMap fun
    | .allocated _ => none
    | .released o => some o

def observed (tables : Catalog P) (h : Heap P) : List (Object P) :=
  h.released.filter fun o => (tables o.tag).observesRelease

def observedReleases (tables : Catalog P) (h : Heap P) : List (String × Mask) :=
  (h.observed tables).map fun o => (o.tag.name, o.mask)

def holdings (h : Heap P) (tag : TypeTag) : Nat := h.live.countValues (·.tag == tag)

theorem find?_drop (h : Heap P) (name k : String) :
    (h.drop name).find? k = if k = name then none else h.find? k := by
  unfold drop
  split
  · rename_i hn
    split
    · rename_i hk
      rw [hk, hn]
    · rfl
  · exact h.live.get?_erase name k

@[simp] theorem allocated_record_allocated (h : Heap P) (tag : TypeTag) :
    (h.record (.allocated tag)).allocated = h.allocated ++ [tag] := List.filterMap_append

@[simp] theorem allocated_record_released (h : Heap P) (o : Object P) :
    (h.record (.released o)).allocated = h.allocated :=
  List.filterMap_append.trans (List.append_nil _)

@[simp] theorem released_record_allocated (h : Heap P) (tag : TypeTag) :
    (h.record (.allocated tag)).released = h.released :=
  List.filterMap_append.trans (List.append_nil _)

@[simp] theorem released_record_released (h : Heap P) (o : Object P) :
    (h.record (.released o)).released = h.released ++ [o] := List.filterMap_append

theorem holdings_erase (h : Heap P) (name : String) (tag : TypeTag) :
    ({ h with live := h.live.erase name } : Heap P).holdings tag +
      (h.find? name).toList.countP (·.tag == tag) = h.holdings tag :=
  h.live.countValues_erase name (·.tag == tag)

theorem holdings_insert (h : Heap P) (name : String) (o : Object P) (tag : TypeTag) :
    ({ h with live := h.live.insert name o } : Heap P).holdings tag +
      (h.find? name).toList.countP (·.tag == tag) =
      h.holdings tag + [o].countP (·.tag == tag) :=
  h.live.countValues_insert name o (·.tag == tag)

theorem drop_cases (h : Heap P) (name : String) :
    (h.find? name = none ∧ h.drop name = h) ∨
    (∃ o, h.find? name = some o ∧
      h.drop name = { h with live := h.live.erase name }.record (.released o)) := by
  unfold drop
  split
  · exact .inl ⟨‹_›, rfl⟩
  · exact .inr ⟨_, ‹_›, rfl⟩

end Heap

end GenericNetlink
