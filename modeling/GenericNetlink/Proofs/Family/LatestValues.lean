import GenericNetlink.Family.History
import GenericNetlink.Proofs.Family.PresenceDistance

/-!
# What a history leaves of a family

Whether a family has an attribute and which value it stores for it are changed by
different calls, and a getter sees the value through both. So a history is read twice: by
the calls that mark an attribute for its presence, and by those that store a value for
the value. Either way the last one decides. What is done for some attributes does not
show in the others.
-/

namespace GenericNetlink.Family

section
variable {β : Type} {leaves : Call → Option β}

def lastLeft (leaves : Call → Option β) (initial : β) (calls : List Call) : β :=
  (calls.reverse.findSome? leaves).getD initial

theorem lastLeft_cons (initial : β) (call : Call) (rest : List Call) :
    lastLeft leaves initial (call :: rest) = lastLeft leaves ((leaves call).getD initial) rest := by
  rw [lastLeft, List.reverse_cons, List.findSome?_append, List.findSome?_singleton, lastLeft]
  cases rest.reverse.findSome? leaves <;> rfl

/-- If each call replaces what is seen of a family by what it leaves, a history replaces
it by what was left last. -/
theorem view_run (view : Family → β)
    (hstep : ∀ f call, view (perform f call) = (leaves call).getD (view f)) (f : Family)
    (calls : List Call) : view (f.run calls) = lastLeft leaves (view f) calls := by
  induction calls generalizing f with
  | nil => rfl
  | cons call rest ih =>
    rw [lastLeft_cons, ← hstep]
    exact ih (f.perform call)

theorem lastLeft_eq_true_iff {leaves : Call → Option Bool} {calls : List Call} :
    lastLeft leaves false calls = true ↔ ∃ before call after, calls = before ++ call :: after ∧
      leaves call = some true ∧ ∀ later ∈ after, leaves later = none := by
  have hfind : lastLeft leaves false calls = true ↔ calls.reverse.findSome? leaves = some true := by
    rw [lastLeft]
    cases calls.reverse.findSome? leaves <;> simp
  -- The last call that leaves something is the first one from the end.
  rw [hfind, List.findSome?_eq_some_iff]
  constructor
  · rintro ⟨after, call, before, heq, hcall, hafter⟩
    refine ⟨before.reverse, call, after.reverse, ?_, hcall, by simpa using hafter⟩
    rw [← calls.reverse_reverse, heq]
    simp
  · rintro ⟨before, call, after, rfl, hcall, hafter⟩
    exact ⟨after.reverse, call, before.reverse, by simp, hcall, by simpa using hafter⟩

end

-- ---------------------------------------------------------------------------
-- Presence
-- ---------------------------------------------------------------------------

def Call.attrs? : Call → Option Mask
  | .setId _ => some Attr.id.bit
  | .setName _ => some Attr.name.bit
  | .setVersion _ => some Attr.version.bit
  | .setHdrsize _ => some Attr.hdrsize.bit
  | .setMaxattr _ => some Attr.maxattr.bit
  | .addGroup .. => some Attr.groups.bit
  | .addOp .. => some Attr.ops.bit
  | .unset attrs | .mark attrs => some attrs
  | .resetData | .copyFrom _ => none

/-- How a call leaves presence bit `k`, if it affects it. All calls for attributes but
`unset` mark them present. -/
def Call.marks? (k : Nat) (call : Call) : Option Bool :=
  match call with
  | .copyFrom source => some (source.mask.getLsbD k)
  | .unset attrs => if attrs.getLsbD k then some false else none
  | call => if call.attrs?.any (·.getLsbD k) then some true else none

theorem getLsbD_set (f : Family) (attrs : Mask) (store : Record → Record) (k : Nat) :
    (f.set attrs store).mask.getLsbD k =
      (if attrs.getLsbD k then some true else none).getD (f.mask.getLsbD k) := by
  rw [Attributed.mask_set, BitVec.getLsbD_or]
  cases attrs.getLsbD k with
  | false => exact Bool.or_false _
  | true => exact Bool.or_true _

theorem getLsbD_unset (f : Family) (attrs : Mask) (k : Nat) :
    (Attributed.unset f attrs).mask.getLsbD k =
      (if attrs.getLsbD k then some false else none).getD (f.mask.getLsbD k) := by
  rw [Attributed.mask_unset, BitVec.getLsbD_and, BitVec.getLsbD_not]
  cases ha : attrs.getLsbD k with
  | false =>
    cases hf : f.mask.getLsbD k with
    | false => rfl
    | true => simp [BitVec.lt_of_getLsbD hf]
  | true => simp

theorem getLsbD_perform (f : Family) (call : Call) (k : Nat) :
    (f.perform call).mask.getLsbD k = (call.marks? k).getD (f.mask.getLsbD k) := by
  cases call with
  | unset attrs => exact getLsbD_unset f attrs k
  | resetData => rfl
  | copyFrom source => rfl
  | _ => exact getLsbD_set f _ _ k

theorem getLsbD_run (f : Family) (calls : List Call) (k : Nat) :
    (f.run calls).mask.getLsbD k = lastLeft (Call.marks? k) (f.mask.getLsbD k) calls :=
  view_run (fun f => f.mask.getLsbD k) (fun f call => getLsbD_perform f call k) f calls

-- ---------------------------------------------------------------------------
-- Values
-- ---------------------------------------------------------------------------

inductive ScalarAttr
  | id
  | name
  | version
  | hdrsize
  | maxattr

namespace ScalarAttr

def attr : ScalarAttr → Attr
  | id => .id
  | name => .name
  | version => .version
  | hdrsize => .hdrsize
  | maxattr => .maxattr

abbrev Value : ScalarAttr → Type
  | name => String
  | _ => UInt32

def load : (a : ScalarAttr) → Record → a.Value
  | id, r => r.id
  | name, r => r.name
  | version, r => r.version
  | hdrsize, r => r.hdrsize
  | maxattr, r => r.maxattr

end ScalarAttr

def Call.stores? : Call → (a : ScalarAttr) → Option a.Value
  | .setId id, .id => some id
  | .setName name, .name => some name
  | .setVersion version, .version => some version
  | .setHdrsize hdrsize, .hdrsize => some hdrsize
  | .setMaxattr maxattr, .maxattr => some maxattr
  | .resetData, a => some (a.load .blank)
  | .copyFrom source, a => some (a.load source.data)
  | _, _ => none

theorem load_perform (f : Family) (call : Call) (a : ScalarAttr) :
    a.load (f.perform call).data = (call.stores? a).getD (a.load f.data) := by
  cases call <;> cases a <;> rfl

def ScalarAttr.stored (a : ScalarAttr) (calls : List Call) : a.Value :=
  lastLeft (Call.stores? · a) (a.load .blank) calls

theorem get?_run (a : ScalarAttr) (calls : List Call) :
    Attributed.get? (empty.run calls) a.attr.bit a.load =
      if (empty.run calls).has a.attr.bit then some (a.stored calls) else none := by
  have hload : a.load (empty.run calls).data = a.stored calls :=
    view_run (fun f => a.load f.data) (fun f call => load_perform f call a) empty calls
  rw [Attributed.get?, hload]

theorem getD_get?_run (a : ScalarAttr) (calls : List Call) (default : a.Value) :
    (Attributed.get? (empty.run calls) a.attr.bit a.load).getD default =
      if (empty.run calls).has a.attr.bit then a.stored calls else default := by
  rw [get?_run]
  split <;> rfl

section
variable {f g : Family} {call : Call} {attrs : Mask} {a : Attr}

theorem sameReading_of_sameValue (hhas : f.has a.bit = g.has a.bit)
    (hv : a.SameValue f.data g.data) : a.SameReading f g := by
  cases hg : g.has a.bit with
  | true => exact (sameReading_iff (hhas.trans hg) hg).mpr hv
  | false =>
    have hf := hhas.trans hg
    cases a <;>
      simp [Attr.SameReading, id, id?, name?, version, version?, hdrsize, hdrsize?, maxattr,
        maxattr?, groups, ops, Attributed.get?, hf, hg]

theorem marks?_eq_none (hc : call.attrs? = some attrs) {k : Nat} (hk : attrs.getLsbD k = false) :
    call.marks? k = none := by
  cases call with
  | unset attrs =>
    cases hc
    exact if_neg (by simp [hk])
  | resetData => rfl
  | copyFrom source => cases hc
  | _ =>
    cases hc
    exact if_neg (by simp [Call.attrs?, hk])

theorem sameValue_perform (hc : call.attrs? = some attrs) (ha : attrs.getLsbD a.index = false) :
    a.SameValue (f.perform call).data f.data := by
  cases call with
  | resetData => cases hc
  | copyFrom source => cases hc
  | unset attrs => cases a <;> exact rfl
  | mark attrs => cases a <;> exact rfl
  | _ =>
    cases hc
    rw [Attr.getLsbD_bit] at ha
    cases a <;> first | exact rfl | cases ha

theorem unaffected_perform (hc : call.attrs? = some attrs) (f : Family) :
    (∀ k, attrs.getLsbD k = false → (f.perform call).mask.getLsbD k = f.mask.getLsbD k) ∧
    ∀ a : Attr, attrs.getLsbD a.index = false → a.SameReading (f.perform call) f := by
  have hbits : ∀ k, attrs.getLsbD k = false →
      (f.perform call).mask.getLsbD k = f.mask.getLsbD k := by
    intro k hk
    rw [getLsbD_perform, marks?_eq_none hc hk]
    rfl
  refine ⟨hbits, fun a ha => sameReading_of_sameValue ?_ (sameValue_perform hc ha)⟩
  rw [has_bit, has_bit, hbits _ ha]

end

/-- However a new family is changed: a presence bit is set exactly if the last call that
affects it left it set. A getter gives the value that was stored last, by a setter, by a
copy or by a reset, or the one that the family was made with if none was, where the
attribute is present, and its default elsewhere. A call for some attributes, on any
family, changes neither presence nor reading of any other. -/
theorem latest_values_read (calls : List Call) :
    let f := empty.run calls
    (∀ k, f.mask.getLsbD k = true ↔ ∃ before call after, calls = before ++ call :: after ∧
      call.marks? k = some true ∧ ∀ later ∈ after, later.marks? k = none) ∧
    (f.id = (if f.has Attr.id.bit then ScalarAttr.id.stored calls else .ofNat generateId) ∧
      f.name? = (if f.has Attr.name.bit then some (ScalarAttr.name.stored calls) else none) ∧
      f.version = (if f.has Attr.version.bit then ScalarAttr.version.stored calls else 0) ∧
      f.hdrsize = (if f.has Attr.hdrsize.bit then ScalarAttr.hdrsize.stored calls else 0) ∧
      f.maxattr = (if f.has Attr.maxattr.bit then ScalarAttr.maxattr.stored calls else 0)) ∧
    ∀ (g : Family) (call : Call) (attrs : Mask), call.attrs? = some attrs →
      (∀ k, attrs.getLsbD k = false → (g.perform call).mask.getLsbD k = g.mask.getLsbD k) ∧
      ∀ a : Attr, attrs.getLsbD a.index = false → a.SameReading (g.perform call) g := by
  intro f
  refine ⟨fun k => ?_, ⟨getD_get?_run .id calls _, get?_run .name calls,
    getD_get?_run .version calls _, getD_get?_run .hdrsize calls _,
    getD_get?_run .maxattr calls _⟩, fun g _ _ hc => unaffected_perform hc g⟩
  have hnone : empty.mask.getLsbD k = false := BitVec.getLsbD_zero
  rw [getLsbD_run, hnone, lastLeft_eq_true_iff]

/-- A value that was copied while hidden shows when its attribute is marked. -/
example :
    let source := Attributed.unset (empty.setId 7) Attr.id.bit
    let f := empty.run [.setId 3, .copyFrom source, .setName "a", .mark Attr.id.bit]
    f.id = 7 ∧ f.name? = some "a" ∧ (f.run [.resetData]).id = 0 := by decide

end GenericNetlink.Family
