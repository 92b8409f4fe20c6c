import GenericNetlink.Family.ControlAttr
import GenericNetlink.Family.OpFlags

/-!
# Families

A generic netlink family as the control family describes it: id, name, version,
header size, highest attribute number, commands and multicast groups. Each of
the seven attributes may be absent. Setters store a value and mark it present;
getters see present values only and give a default for absent ones.
-/

namespace GenericNetlink

open Text

namespace Family

structure Group where
  id : UInt32
  name : String
  deriving DecidableEq

structure Op where
  id : UInt32
  flags : OpFlags
  deriving DecidableEq

/-- The stored values of a family, present or not. -/
structure Record where
  id : UInt32
  name : String
  version : UInt32
  hdrsize : UInt32
  maxattr : UInt32
  ops : List Op
  groups : List Group
  deriving DecidableEq

def Record.blank : Record := ⟨0, "", 0, 0, 0, [], []⟩

instance : Inspect Group where
  shown g := .record "FamilyGroup" [("id", .nat g.id.toNat), ("name", .quoted g.name)] true

instance : Inspect Op where
  shown op := .record "FamilyOp"
    [("id", .nat op.id.toNat), ("flags", Inspect.shown op.flags)] true

instance : Inspect Record where
  shown r := .record "GenlFamilyData"
    [("id", .nat r.id.toNat), ("name", .quoted r.name), ("version", .nat r.version.toNat),
      ("hdrsize", .nat r.hdrsize.toNat), ("maxattr", .nat r.maxattr.toNat),
      ("ops", .list (r.ops.map Inspect.shown)), ("groups", .list (r.groups.map Inspect.shown))] true

-- ---------------------------------------------------------------------------
-- Attributes
-- ---------------------------------------------------------------------------

inductive Attr
  | id
  | name
  | version
  | hdrsize
  | maxattr
  | groups
  | ops
  deriving DecidableEq

namespace Attr

def all : List Attr := [id, name, version, hdrsize, maxattr, groups, ops]

def bit : Attr → Mask
  | id => 0x01
  | name => 0x02
  | version => 0x04
  | hdrsize => 0x08
  | maxattr => 0x10
  | groups => 0x20
  | ops => 0x40

def index : Attr → Nat
  | id => 0
  | name => 1
  | version => 2
  | hdrsize => 3
  | maxattr => 4
  | groups => 5
  | ops => 6

def label : Attr → String
  | id => "id"
  | name => "name"
  | version => "version"
  | hdrsize => "hdrsize"
  | maxattr => "maxattr"
  | groups => "groups"
  | ops => "ops"

def control : Attr → ControlAttr
  | id => .familyId
  | name => .familyName
  | version => .version
  | hdrsize => .hdrSize
  | maxattr => .maxAttr
  | groups => .mcastGroups
  | ops => .ops

/-- In the order of their numbers on the wire. -/
def inControlOrder : List Attr := [id, name, version, hdrsize, maxattr, ops, groups]

def ofBit? (mask : Mask) : Option Attr := all.find? (·.bit = mask)

def knownBits : Mask := 0x7f

theorem mem_all (a : Attr) : a ∈ all := by cases a <;> decide

theorem ofBit?_bit (a : Attr) : ofBit? a.bit = some a := by cases a <;> decide

theorem bit_eq (a : Attr) : a.bit = BitVec.twoPow 32 a.index := by cases a <;> decide

theorem index_lt (a : Attr) : a.index < 32 := by cases a <;> decide

theorem index_injective {a b : Attr} (h : a.index = b.index) : a = b := by
  cases a <;> cases b <;> first | rfl | cases h

theorem getLsbD_bit (a : Attr) (k : Nat) : a.bit.getLsbD k = decide (a.index = k) := by
  rw [bit_eq, BitVec.getLsbD_twoPow, decide_eq_true a.index_lt, Bool.true_and]

theorem and_bit_ne_zero (m : Mask) (a : Attr) : (m &&& a.bit != 0) = m.getLsbD a.index := by
  rw [bit_eq, BitVec.and_twoPow]
  cases m.getLsbD a.index with
  | false => rfl
  | true => cases a <;> decide

def maskOf (p : Attr → Bool) : Mask := (all.filter p).foldl (fun m a => m ||| a.bit) 0

theorem getLsbD_foldl_bit (attrs : List Attr) (m : Mask) (k : Nat) :
    (attrs.foldl (fun m a => m ||| a.bit) m).getLsbD k =
      (m.getLsbD k || attrs.any (·.index = k)) := by
  induction attrs generalizing m with
  | nil => simp
  | cons a rest ih =>
    rw [List.foldl_cons, ih, BitVec.getLsbD_or, getLsbD_bit, List.any_cons, Bool.or_assoc]

theorem any_and_index (p : Attr → Bool) (a : Attr) :
    (all.any fun b => p b && decide (b.index = a.index)) = p a := by
  cases hp : p a with
  | true =>
    rw [List.any_eq_true]
    exact ⟨a, a.mem_all, by simp [hp]⟩
  | false =>
    rw [List.any_eq_false]
    intro b _ hb
    rw [Bool.and_eq_true, decide_eq_true_eq] at hb
    rw [index_injective hb.2, hp] at hb
    cases hb.1

def Unknown (k : Nat) : Prop := ∀ a : Attr, a.index ≠ k

theorem any_and_unknown (p : Attr → Bool) {k : Nat} (h : Unknown k) :
    (all.any fun a => p a && decide (a.index = k)) = false := by
  rw [List.any_eq_false]
  intro a _ ha
  rw [Bool.and_eq_true, decide_eq_true_eq] at ha
  exact h a ha.2

theorem getLsbD_maskOf (p : Attr → Bool) (k : Nat) :
    (maskOf p).getLsbD k = all.any fun a => p a && decide (a.index = k) := by
  simp [maskOf, getLsbD_foldl_bit, List.any_filter]

@[simp] theorem getLsbD_maskOf_index (p : Attr → Bool) (a : Attr) :
    (maskOf p).getLsbD a.index = p a := by
  rw [getLsbD_maskOf, any_and_index]

theorem getLsbD_maskOf_unknown (p : Attr → Bool) {k : Nat} (h : Unknown k) :
    (maskOf p).getLsbD k = false := by
  rw [getLsbD_maskOf, any_and_unknown p h]

theorem mask_ext {m n : Mask} (hk : ∀ a : Attr, m.getLsbD a.index = n.getLsbD a.index)
    (hu : ∀ k, Unknown k → m.getLsbD k = n.getLsbD k) : m = n := by
  refine BitVec.eq_of_getLsbD_eq fun k _ => ?_
  by_cases h : Unknown k
  · exact hu k h
  · obtain ⟨a, ha⟩ := Classical.not_forall.mp h
    rw [← Classical.not_not.mp ha]
    exact hk a

theorem knownBits_eq_maskOf : knownBits = maskOf fun _ => true := by decide

@[simp] theorem getLsbD_knownBits_index (a : Attr) : knownBits.getLsbD a.index = true := by
  rw [knownBits_eq_maskOf, getLsbD_maskOf_index]

theorem getLsbD_knownBits_unknown {k : Nat} (h : Unknown k) : knownBits.getLsbD k = false := by
  rw [knownBits_eq_maskOf, getLsbD_maskOf_unknown _ h]

theorem control_inControlOrder :
    inControlOrder.map (·.control.number) = [1, 2, 3, 4, 5, 6, 7] := by decide

end Attr

end Family

def Family.ControlAttr.ofBit? (mask : Mask) : Option ControlAttr :=
  (Attr.ofBit? mask).map (·.control)

abbrev Family := Attributed Family.Record

namespace Family

def empty : Family := ⟨0, .blank⟩

theorem has_bit (f : Family) (a : Attr) : f.has a.bit = f.mask.getLsbD a.index := by
  rw [Attributed.has, Attr.bit_eq, BitVec.and_twoPow]
  cases f.mask.getLsbD a.index with
  | true => simp
  | false => cases a <;> decide

theorem has_bit_set (f : Family) (attrs : Mask) (store : Record → Record) (a : Attr) :
    Attributed.has (f.set attrs store) a.bit = (f.has a.bit || attrs.getLsbD a.index) := by
  rw [has_bit, has_bit, Attributed.mask_set, BitVec.getLsbD_or]

theorem has_bit_unset (f : Family) (attrs : Mask) (a : Attr) :
    Attributed.has (f.unset attrs) a.bit = (f.has a.bit && !attrs.getLsbD a.index) := by
  rw [has_bit, has_bit, Attributed.mask_unset, BitVec.getLsbD_and, BitVec.getLsbD_not,
    decide_eq_true a.index_lt, Bool.true_and]

-- ---------------------------------------------------------------------------
-- Setters
-- ---------------------------------------------------------------------------

def setId (f : Family) (id : UInt32) : Family := f.set Attr.id.bit ({ · with id })

/-- Forget the id, so that the kernel chooses one. -/
def unsetId (f : Family) : Family := f.unset Attr.id.bit

def setName (f : Family) (name : String) : Family := f.set Attr.name.bit ({ · with name })

def setVersion (f : Family) (version : UInt32) : Family :=
  f.set Attr.version.bit ({ · with version })

def setHdrsize (f : Family) (hdrsize : UInt32) : Family :=
  f.set Attr.hdrsize.bit ({ · with hdrsize })

def setMaxattr (f : Family) (maxattr : UInt32) : Family :=
  f.set Attr.maxattr.bit ({ · with maxattr })

/-- Append a multicast group to those stored; duplicates are kept. -/
def addGroup (f : Family) (id : UInt32) (name : String) : Family :=
  f.set Attr.groups.bit fun r => { r with groups := r.groups ++ [⟨id, name⟩] }

def addOp (f : Family) (id : UInt32) (flags : OpFlags) : Family :=
  f.set Attr.ops.bit fun r => { r with ops := r.ops ++ [⟨id, flags⟩] }

/-- Put all stored values back to their defaults; presence stays. -/
def resetData (f : Family) : Family := f.withData .blank

-- ---------------------------------------------------------------------------
-- Getters
-- ---------------------------------------------------------------------------

def id? (f : Family) : Option UInt32 := f.get? Attr.id.bit (·.id)

def id (f : Family) : UInt32 := f.id?.getD (.ofNat generateId)

def name? (f : Family) : Option String := f.get? Attr.name.bit (·.name)

def version? (f : Family) : Option UInt32 := f.get? Attr.version.bit (·.version)

def version (f : Family) : UInt32 := f.version?.getD 0

def hdrsize? (f : Family) : Option UInt32 := f.get? Attr.hdrsize.bit (·.hdrsize)

def hdrsize (f : Family) : UInt32 := f.hdrsize?.getD 0

def maxattr? (f : Family) : Option UInt32 := f.get? Attr.maxattr.bit (·.maxattr)

def maxattr (f : Family) : UInt32 := f.maxattr?.getD 0

def groups (f : Family) : List Group := (f.get? Attr.groups.bit (·.groups)).getD []

def ops (f : Family) : List Op := (f.get? Attr.ops.bit (·.ops)).getD []

def groupByName? (f : Family) (name : String) : Option Group := f.groups.find? (·.name = name)

def hasOp (f : Family) (id : UInt32) : Bool := f.ops.any (·.id = id)

def controlAttrs (f : Family) : List ControlAttr :=
  let needed := (Attr.all.filter fun a => f.has a.bit).filterMap fun a => ControlAttr.ofBit? a.bit
  needed.mergeSort fun a b => a.number ≤ b.number

theorem controlAttrs_eq (f : Family) :
    f.controlAttrs = (Attr.inControlOrder.filter fun a => f.has a.bit).map (·.control) := by
  have hneeded : (Attr.all.filter fun a => f.has a.bit).filterMap
      (fun a => ControlAttr.ofBit? a.bit) =
        (Attr.all.filter fun a => f.has a.bit).map (·.control) := by
    simp only [ControlAttr.ofBit?, Attr.ofBit?_bit, Option.map_some, List.filterMap_eq_map']
  have hordered : (Attr.inControlOrder.map (·.control.number)).Pairwise (· ≤ ·) := by
    rw [Attr.control_inControlOrder]
    decide
  have hsorted : ((Attr.inControlOrder.filter fun a => f.has a.bit).map (·.control)).Pairwise
      (·.number ≤ ·.number) :=
    List.pairwise_map.mpr ((List.pairwise_map.mp hordered).filter _)
  have hperm : Attr.all.Perm Attr.inControlOrder := by decide
  rw [controlAttrs, hneeded]
  -- Both sides are sorted, and numbers tell control attributes apart.
  refine ((List.mergeSort_perm _ _).trans ((hperm.filter _).map _)).eq_of_pairwise ?_
    (ControlAttr.sorted_mergeSort _) hsorted
  exact fun _ _ _ _ hab hba => ControlAttr.number_injective (Nat.le_antisymm hab hba)

example : ((empty.setId 7).unsetId).id = 0 ∧ ((empty.setId 7).unsetId).data.id = 7 := by decide
example : ((empty.addGroup 1 "g").addOp 3 ⟨6⟩).controlAttrs = [.ops, .mcastGroups] := by
  rw [controlAttrs_eq]
  decide

end Family

end GenericNetlink
