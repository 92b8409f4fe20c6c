import GenericNetlink.Object.Heap

/-!
# Runs over a heap

The calls that make, change, copy and release the objects of a session, and what each
of them makes and releases by the rules of lifetimes.
-/

namespace GenericNetlink.Heap

inductive Call (P : Type) : Type 1
  | alloc (name : String) (tag : TypeTag)
  | adopt (name : String) (o : Object P)
  | update (name : String) (contents : Attributed P)
  | drop (name : String)
  | clone (src dst : String)
  | downcast (α : Type) (carries : Carries P α) (name : String)

variable {P : Type} (tables : Catalog P)

def perform (h : Heap P) : Call P → Except Fault Unit × Heap P
  | .alloc name tag => (.ok (), h.alloc tables name tag)
  | .adopt name o => (.ok (), h.adopt name o)
  | .update name contents => (.ok (), h.update name contents)
  | .drop name => (.ok (), h.drop name)
  | .clone src dst => h.clone tables src dst
  | .downcast α _ name => h.downcast α name

def run (calls : List (Call P)) : Heap P :=
  calls.foldl (fun h call => (h.perform tables call).2) empty

def made (h : Heap P) : Call P → List TypeTag
  | .alloc _ tag => [(Object.alloc tables tag).tag]
  | .adopt _ o => [o.tag]
  | .clone src _ =>
    match h.find? src with
    | some o =>
      if (tables o.tag).clone.isSome then [(Object.alloc tables o.tag).tag] else []
    | none => []
  | .update .. | .drop _ | .downcast .. => []

/-- The objects whose lives a call ends, as they are then: what a variable held that
is assigned anew or dropped, the destination of a copy that failed, and what was asked
for as a kind of payload that it is not. -/
def ended (h : Heap P) : Call P → List (Object P)
  | .alloc name _ | .adopt name _ | .drop name => (h.find? name).toList
  | .update .. => []
  | .clone src dst =>
    match h.find? src with
    | none => []
    | some o =>
      match (tables o.tag).clone with
      | none => []
      | some hook =>
        let fresh := Object.alloc tables o.tag
        match hook fresh o with
        | (.ok (), _) => (h.find? dst).toList
        | (.error _, contents) => [fresh.withContents contents]
  | .downcast α _ name =>
    match h.find? name with
    | none => []
    | some o =>
      match o.payload α with
      | .ok _ => []
      | .error _ => [o]

section
variable {tables} {h : Heap P} {src dst : String} {o : Object P}

theorem clone_of_no_hook (hs : h.find? src = some o) (hc : (tables o.tag).clone = none) :
    h.clone tables src dst = (.error (Object.missing o.tag "clone"), h) := by
  simp only [clone, hs, Object.attemptClone, hc]

variable {hook : CloneHook P} {contents : Attributed P}

theorem clone_of_success (hs : h.find? src = some o) (hc : (tables o.tag).clone = some hook)
    (hk : hook (.alloc tables o.tag) o = (.ok (), contents)) :
    h.clone tables src dst =
      (.ok (), h.adopt dst ((Object.alloc tables o.tag).withContents contents)) := by
  simp only [clone, hs, Object.attemptClone, hc, hk]

theorem clone_of_fault {fault : Fault} (hs : h.find? src = some o)
    (hc : (tables o.tag).clone = some hook)
    (hk : hook (.alloc tables o.tag) o = (.error fault, contents)) :
    h.clone tables src dst =
      (.error fault, h.discard ((Object.alloc tables o.tag).withContents contents)) := by
  simp only [clone, hs, Object.attemptClone, hc, hk]

end

theorem clone_cases (h : Heap P) (src dst : String) :
    (h.find? src = none ∧ h.clone tables src dst = (.ok (), h)) ∨
    (∃ o, h.find? src = some o ∧ (tables o.tag).clone = none ∧
      h.clone tables src dst = (.error (Object.missing o.tag "clone"), h)) ∨
    (∃ o hook contents, h.find? src = some o ∧ (tables o.tag).clone = some hook ∧
      hook (.alloc tables o.tag) o = (.ok (), contents) ∧
      h.clone tables src dst =
        (.ok (), h.adopt dst ((Object.alloc tables o.tag).withContents contents))) ∨
    (∃ o hook fault contents, h.find? src = some o ∧ (tables o.tag).clone = some hook ∧
      hook (.alloc tables o.tag) o = (.error fault, contents) ∧
      h.clone tables src dst =
        (.error fault, h.discard ((Object.alloc tables o.tag).withContents contents))) := by
  cases hs : h.find? src with
  | none => exact .inl ⟨rfl, by simp only [clone, hs]⟩
  | some o =>
    refine .inr ?_
    cases hc : (tables o.tag).clone with
    | none => exact .inl ⟨o, rfl, hc, clone_of_no_hook hs hc⟩
    | some hook =>
      refine .inr ?_
      cases hk : hook (.alloc tables o.tag) o with
      | mk outcome contents =>
        cases outcome with
        | ok => exact .inl ⟨o, hook, contents, rfl, hc, hk, clone_of_success hs hc hk⟩
        | error fault => exact .inr ⟨o, hook, fault, contents, rfl, hc, hk, clone_of_fault hs hc hk⟩

theorem downcast_of_fault {α : Type} [Carries P α] {h : Heap P} {name : String} {o : Object P}
    {fault : Fault} (hn : h.find? name = some o) (hp : o.payload α = .error fault) :
    h.downcast α name = (.error fault, h.drop name) := by
  simp only [downcast, hn, hp]

theorem downcast_cases (α : Type) [Carries P α] (h : Heap P) (name : String) :
    (h.find? name = none ∧ h.downcast α name = (.ok (), h)) ∨
    (∃ o a, h.find? name = some o ∧ o.payload α = .ok a ∧ h.downcast α name = (.ok (), h)) ∨
    (∃ o fault, h.find? name = some o ∧ o.payload α = .error fault ∧
      h.downcast α name = (.error fault, h.drop name)) := by
  cases hn : h.find? name with
  | none => exact .inl ⟨rfl, by simp only [downcast, hn]⟩
  | some o =>
    refine .inr ?_
    cases hp : o.payload α with
    | ok a => exact .inl ⟨o, a, rfl, hp, by simp only [downcast, hn, hp]⟩
    | error fault => exact .inr ⟨o, fault, rfl, hp, downcast_of_fault hn hp⟩

end GenericNetlink.Heap
