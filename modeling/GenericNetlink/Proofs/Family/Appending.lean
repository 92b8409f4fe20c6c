import GenericNetlink.Family.History

/-!
# Appending to a hidden list

Marking a list absent hides it and keeps it stored; appending adds to what is stored and
marks the list present. So an append shows the stored list, which is the visible one with
an item more exactly if nothing was hidden (`ShowsAll`). A history hides nothing unless
it marks the list absent or copies a family that hides something.
-/

namespace GenericNetlink

namespace Attributed

section
variable {α β : Type} (a : Attributed α) (attr : Mask) (load : α → List β)

def visible : List β := (a.get? attr load).getD []

theorem visible_eq_stored_iff :
    a.visible attr load = load a.data ↔ a.has attr = true ∨ load a.data = [] := by
  cases h : a.has attr with
  | false => simp [visible, get?, h, eq_comm]
  | true => simp [visible, get?, h]

variable {store : α → α} {x : β} (hs : load (store a.data) = load a.data ++ [x])
include hs

theorem visible_append : (a.set attr store).visible attr load = load a.data ++ [x] := by
  rw [visible, get?_set_self, hs]
  rfl

theorem visible_append_iff :
    (a.set attr store).visible attr load = a.visible attr load ++ [x] ↔
      a.has attr = true ∨ load a.data = [] := by
  rw [a.visible_append attr load hs, List.append_left_inj, eq_comm, visible_eq_stored_iff]

end

end Attributed

namespace Family

inductive ListAttr
  | groups
  | ops

def ListAttr.attr : ListAttr → Attr
  | groups => .groups
  | ops => .ops

def ListAttr.IsEmpty (l : ListAttr) (r : Record) : Prop :=
  match l with
  | groups => r.groups = []
  | ops => r.ops = []

/-- Nothing is stored in the list that is not visible. -/
def ShowsAll (f : Family) (l : ListAttr) : Prop := f.has l.attr.bit = true ∨ l.IsEmpty f.data

/-- The call hides nothing of the list: it does not mark it absent, nor copy a family
that hides something of it. -/
def Call.KeepsShown (l : ListAttr) : Call → Prop
  | .unset attrs => attrs.getLsbD l.attr.index = false
  | .copyFrom source => source.ShowsAll l
  | _ => True

variable {f : Family} {l : ListAttr}

theorem empty_showsAll (l : ListAttr) : empty.ShowsAll l := by
  cases l <;> exact .inr rfl

theorem ShowsAll.set (h : f.ShowsAll l) (attrs : Mask) (store : Record → Record)
    (hs : l.IsEmpty f.data → l.IsEmpty (store f.data)) : ShowsAll (f.set attrs store) l := by
  obtain h | h := h
  · refine .inl ?_
    rw [has_bit_set, h, Bool.true_or]
  · exact .inr (hs h)

theorem showsAll_set_self (store : Record → Record) : ShowsAll (f.set l.attr.bit store) l := by
  refine .inl ?_
  rw [has_bit_set, Attr.getLsbD_bit, decide_eq_true rfl, Bool.or_true]

theorem ShowsAll.unset (h : f.ShowsAll l) {attrs : Mask}
    (ha : attrs.getLsbD l.attr.index = false) : ShowsAll (Attributed.unset f attrs) l := by
  obtain h | h := h
  · refine .inl ?_
    rw [has_bit_unset, h, ha]
    rfl
  · exact .inr h

theorem ShowsAll.perform (h : f.ShowsAll l) {call : Call} (hc : call.KeepsShown l) :
    (f.perform call).ShowsAll l := by
  cases call with
  | addGroup id name =>
    cases l with
    | groups => exact showsAll_set_self (l := .groups) _
    | ops => exact h.set _ _ fun he => he
  | addOp id flags =>
    cases l with
    | groups => exact h.set _ _ fun he => he
    | ops => exact showsAll_set_self (l := .ops) _
  | unset attrs => exact h.unset hc
  | resetData => exact .inr (by cases l <;> rfl)
  | copyFrom source => exact hc
  | _ => cases l <;> exact h.set _ _ fun he => he

theorem ShowsAll.run {calls : List Call} (h : f.ShowsAll l)
    (hc : ∀ call ∈ calls, call.KeepsShown l) : (f.run calls).ShowsAll l := by
  induction calls generalizing f with
  | nil => exact h
  | cons call rest ih =>
    refine ih (h.perform (hc call List.mem_cons_self)) fun c hm => ?_
    exact hc c (List.mem_cons_of_mem call hm)

-- ---------------------------------------------------------------------------
-- Appending
-- ---------------------------------------------------------------------------

theorem groups_addGroup_iff (f : Family) (id : UInt32) (name : String) :
    (f.addGroup id name).groups = f.groups ++ [⟨id, name⟩] ↔ f.ShowsAll .groups :=
  f.visible_append_iff Attr.groups.bit (·.groups) rfl

theorem ops_addOp_iff (f : Family) (id : UInt32) (flags : OpFlags) :
    (f.addOp id flags).ops = f.ops ++ [⟨id, flags⟩] ↔ f.ShowsAll .ops :=
  f.visible_append_iff Attr.ops.bit (·.ops) rfl

/-- An append shows the list that was stored, with the new item at its end. That is the
visible list with the item at its end exactly if the list was present or nothing was
stored, as it is after any history of a new family that hides nothing of the list. -/
theorem append_extends_visible_iff (f : Family) :
    (∀ id name,
      (f.addGroup id name).groups = f.data.groups ++ [⟨id, name⟩] ∧
      ((f.addGroup id name).groups = f.groups ++ [⟨id, name⟩] ↔
        f.has Attr.groups.bit = true ∨ f.data.groups = [])) ∧
    (∀ id flags,
      (f.addOp id flags).ops = f.data.ops ++ [⟨id, flags⟩] ∧
      ((f.addOp id flags).ops = f.ops ++ [⟨id, flags⟩] ↔
        f.has Attr.ops.bit = true ∨ f.data.ops = [])) ∧
    ∀ calls : List Call,
      ((∀ call ∈ calls, call.KeepsShown .groups) → ∀ id name,
        ((empty.run calls).addGroup id name).groups =
          (empty.run calls).groups ++ [⟨id, name⟩]) ∧
      ((∀ call ∈ calls, call.KeepsShown .ops) → ∀ id flags,
        ((empty.run calls).addOp id flags).ops = (empty.run calls).ops ++ [⟨id, flags⟩]) := by
  refine ⟨fun id name => ⟨?_, f.groups_addGroup_iff id name⟩,
    fun id flags => ⟨?_, f.ops_addOp_iff id flags⟩, fun calls => ⟨fun hc id name => ?_,
      fun hc id flags => ?_⟩⟩
  · exact f.visible_append Attr.groups.bit (·.groups) rfl
  · exact f.visible_append Attr.ops.bit (·.ops) rfl
  · exact (groups_addGroup_iff _ id name).mpr ((empty_showsAll .groups).run hc)
  · exact (ops_addOp_iff _ id flags).mpr ((empty_showsAll .ops).run hc)

/-- A group that is no longer readable becomes so again by appending another one, and
likewise a command. -/
theorem hidden_items_return :
    let f : Family := Attributed.unset (empty.addGroup 1 "a") Attr.groups.bit
    let g : Family := Attributed.unset (empty.addOp 1 ⟨2⟩) Attr.ops.bit
    (f.groups = [] ∧ (f.addGroup 2 "b").groups = [⟨1, "a"⟩, ⟨2, "b"⟩]) ∧
    (g.ops = [] ∧ (g.addOp 2 ⟨4⟩).ops = [⟨1, ⟨2⟩⟩, ⟨2, ⟨4⟩⟩]) := by
  decide

end Family

end GenericNetlink
