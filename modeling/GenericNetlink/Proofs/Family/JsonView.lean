import GenericNetlink.Output.Print
import GenericNetlink.Proofs.Family.Comparison
import Mathlib.Data.List.Forall2

/-!
# Documents show what is visible

The document of a family has at most one member for each attribute: those of
scalars if they are present, those of the two lists always. Two families have one
document if and only if each attribute looks the same in both, and so it hides
just what readers do not see, and the unknown flags of commands.
-/

namespace GenericNetlink.Family

open Json (Builder KeysOrdered)

def Op.named (op : Op) : Op := { op with flags := op.flags.truncate }

theorem Op.toJson_eq (op : Op) :
    op.toJson = .obj [("flags", .str op.flags.names), ("id", .int op.id.toNat)] := rfl

theorem Group.toJson_eq (group : Group) :
    group.toJson = .obj [("id", .int group.id.toNat), ("name", .str group.name)] := rfl

theorem number_injective : Function.Injective fun n : UInt32 => Json.int n.toNat := by
  intro n m h
  exact UInt32.toNat_inj.mp (Int.ofNat.inj (Json.int.inj h))

theorem Op.toJson_eq_iff {op other : Op} : op.toJson = other.toJson ↔ op.named = other.named := by
  obtain ⟨id, flags⟩ := op
  obtain ⟨otherId, otherFlags⟩ := other
  have hid := number_injective.eq_iff (a := id) (b := otherId)
  rw [Op.toJson_eq, Op.toJson_eq, Json.obj.injEq]
  simp only [List.cons.injEq, Prod.mk.injEq, Json.str.injEq, hid, true_and, Op.named,
    Op.mk.injEq, OpFlags.names_eq_iff, and_comm]

theorem Group.toJson_injective : Function.Injective Group.toJson := by
  rintro ⟨id, name⟩ ⟨otherId, otherName⟩ h
  have hid := number_injective.eq_iff (a := id) (b := otherId)
  rw [Group.toJson_eq, Group.toJson_eq, Json.obj.injEq] at h
  simpa only [List.cons.injEq, Prod.mk.injEq, Json.str.injEq, hid, true_and, and_true,
    Group.mk.injEq] using h

theorem map_toJson_ops {ops others : List Op} :
    ops.map Op.toJson = others.map Op.toJson ↔ ops.map Op.named = others.map Op.named := by
  rw [← List.forall₂_eq_eq_eq, ← List.forall₂_eq_eq_eq]
  simp only [List.forall₂_map_left_iff, List.forall₂_map_right_iff, Op.toJson_eq_iff]

/-- What the document of a family says of an attribute, if it says anything. -/
def Attr.json? (f : Family) : Attr → Option Json
  | .id => f.id?.map fun id => .int id.toNat
  | .name => f.name?.map .str
  | .version => f.version?.map fun version => .int version.toNat
  | .hdrsize => f.hdrsize?.map fun hdrsize => .int hdrsize.toNat
  | .maxattr => f.maxattr?.map fun maxattr => .int maxattr.toNat
  | .groups => some (.arr (f.groups.map Group.toJson))
  | .ops => some (.arr (f.ops.map Op.toJson))

def Attr.scalars : List Attr := [id, name, version, hdrsize, maxattr]

theorem Attr.scalar_or_list (a : Attr) : a ∈ scalars ∨ a = groups ∨ a = ops := by
  cases a <;> decide

theorem Attr.label_injective {a b : Attr} (h : a.label = b.label) : a = b := by
  revert h
  cases a <;> cases b <;> decide

theorem Attr.mem_inControlOrder (a : Attr) : a ∈ inControlOrder := by cases a <;> decide

def members (f : Family) : List (String × Option Json) :=
  Attr.inControlOrder.map fun a => (a.label, a.json? f)

theorem nodup_members (f : Family) : (f.members.map Prod.fst).Nodup := by
  rw [members, List.map_map]
  exact (by decide : (Attr.inControlOrder.map Attr.label).Nodup)

theorem toJson_eq (f : Family) : f.toJson = (Builder.empty.addAll f.members).build := by
  simp only [toJson, Builder.uint?_eq_add?, Builder.string?_eq_add?, Option.map_map]
  -- What is left is the table of members, added in wire order.
  rfl

theorem mem_members {f : Family} {key : String} {value : Option Json} :
    (key, value) ∈ f.members ↔ ∃ a : Attr, key = a.label ∧ value = a.json? f := by
  rw [members, List.mem_map]
  constructor
  · rintro ⟨a, -, h⟩
    obtain ⟨rfl, rfl⟩ := Prod.mk.inj h
    exact ⟨a, rfl, rfl⟩
  · rintro ⟨a, rfl, rfl⟩
    exact ⟨a, a.mem_inControlOrder, rfl⟩

theorem mem_document {f : Family} {key : String} {value : Json} :
    (key, value) ∈ (Builder.empty.addAll f.members).members ↔
      ∃ a : Attr, key = a.label ∧ a.json? f = some value := by
  rw [Builder.mem_addAll f.nodup_members, mem_members]
  simp only [eq_comm]

theorem get?_toJson (f : Family) (a : Attr) : f.toJson.get? a.label = a.json? f := by
  have hordered : KeysOrdered (Builder.empty.addAll f.members).members :=
    Builder.keysOrdered_addAll List.Pairwise.nil f.members
  refine Option.ext fun value => ?_
  rw [toJson_eq]
  refine (AssocList.lookup_eq_some_iff_mem hordered.nodup_keys).trans (mem_document.trans ?_)
  constructor
  · rintro ⟨b, hb, hv⟩
    rwa [Attr.label_injective hb]
  · exact fun hv => ⟨a, rfl, hv⟩

theorem toJson_eq_iff_json? {f g : Family} :
    f.toJson = g.toJson ↔ ∀ a : Attr, a.json? f = a.json? g := by
  constructor
  · intro h a
    rw [← get?_toJson, h, get?_toJson]
  · intro h
    rw [toJson_eq, toJson_eq, members, members]
    simp only [h]

theorem Attr.isSome_json? (f : Family) {a : Attr} (h : a ∈ scalars) :
    (a.json? f).isSome = f.has a.bit := by
  cases a with
  | groups | ops => exact absurd h (by decide)
  | _ => exact (Option.isSome_map ..).trans (f.isSome_get? ..)

example : ((empty.setVersion 0).toJson.get? "version").isSome ∧
    (empty.toJson.get? "version").isNone := by decide

theorem Attr.json?_eq_iff {f g : Family} {a : Attr} (h : a ∈ scalars) :
    a.json? f = a.json? g ↔
      f.has a.bit = g.has a.bit ∧ (f.has a.bit = true → a.SameValue f.data g.data) := by
  cases a with
  | groups | ops => exact absurd h (by decide)
  | name =>
    have hinj : Function.Injective Json.str := fun _ _ => Json.str.inj
    exact (Option.map_injective hinj).eq_iff.trans Attributed.get?_eq_get?_iff
  | _ => exact (Option.map_injective number_injective).eq_iff.trans Attributed.get?_eq_get?_iff

theorem Attr.json?_groups_eq_iff {f g : Family} :
    Attr.groups.json? f = Attr.groups.json? g ↔ f.groups = g.groups := by
  simp [Attr.json?, Group.toJson_injective.list_map.eq_iff]

theorem Attr.json?_ops_eq_iff {f g : Family} :
    Attr.ops.json? f = Attr.ops.json? g ↔ f.ops.map Op.named = g.ops.map Op.named := by
  simp [Attr.json?, map_toJson_ops]

-- ---------------------------------------------------------------------------
-- Documents and readers
-- ---------------------------------------------------------------------------

theorem toJson_eq_iff_same_view {f g : Family} :
    f.toJson = g.toJson ↔
      (∀ a ∈ Attr.scalars, f.has a.bit = g.has a.bit ∧
        (f.has a.bit = true → a.SameValue f.data g.data)) ∧
      f.groups = g.groups ∧ f.ops.map Op.named = g.ops.map Op.named := by
  rw [toJson_eq_iff_json?]
  constructor
  · intro h
    exact ⟨fun a ha => (Attr.json?_eq_iff ha).mp (h a), Attr.json?_groups_eq_iff.mp (h .groups),
      Attr.json?_ops_eq_iff.mp (h .ops)⟩
  · rintro ⟨hscalars, hgroups, hops⟩ a
    obtain ha | rfl | rfl := a.scalar_or_list
    · exact (Attr.json?_eq_iff ha).mpr (hscalars a ha)
    · exact Attr.json?_groups_eq_iff.mpr hgroups
    · exact Attr.json?_ops_eq_iff.mpr hops

theorem mem_document_iff {f : Family} {key : String} {value : Json} :
    (key, value) ∈ (Builder.empty.addAll f.members).members ↔
      (∃ a ∈ Attr.scalars, key = a.label ∧ a.json? f = some value) ∨
      (key, value) = ("groups", .arr (f.groups.map Group.toJson)) ∨
      (key, value) = ("ops", .arr (f.ops.map Op.toJson)) := by
  rw [mem_document]
  constructor
  · rintro ⟨a, rfl, hv⟩
    obtain ha | rfl | rfl := a.scalar_or_list
    · exact .inl ⟨a, ha, rfl, hv⟩
    · exact .inr (.inl (congrArg (Prod.mk "groups") (Option.some.inj hv.symm)))
    · exact .inr (.inr (congrArg (Prod.mk "ops") (Option.some.inj hv.symm)))
  · rintro (⟨a, -, hkey, hv⟩ | h | h)
    · exact ⟨a, hkey, hv⟩
    · obtain ⟨rfl, rfl⟩ := Prod.mk.inj h
      exact ⟨.groups, rfl, rfl⟩
    · obtain ⟨rfl, rfl⟩ := Prod.mk.inj h
      exact ⟨.ops, rfl, rfl⟩

/-- Two families have one document if and only if readers see the same in both, the
unknown flags of commands aside. The document has each scalar that is present, both
lists, and nothing else, each key once. -/
theorem toJson_faithful (f g : Family) :
    (f.toJson = g.toJson ↔
      (∀ a ∈ Attr.scalars, f.has a.bit = g.has a.bit ∧
        (f.has a.bit = true → a.SameValue f.data g.data)) ∧
      f.groups = g.groups ∧ f.ops.map Op.named = g.ops.map Op.named) ∧
    ∃ members, f.toJson = .obj members ∧ KeysOrdered members ∧
      (∀ key value, (key, value) ∈ members ↔
        (∃ a ∈ Attr.scalars, key = a.label ∧ a.json? f = some value) ∨
        (key, value) = ("groups", .arr (f.groups.map Group.toJson)) ∨
        (key, value) = ("ops", .arr (f.ops.map Op.toJson))) ∧
      ∀ a ∈ Attr.scalars, (a.json? f).isSome = f.has a.bit :=
  ⟨toJson_eq_iff_same_view, (Builder.empty.addAll f.members).members, f.toJson_eq,
    Builder.keysOrdered_addAll List.Pairwise.nil f.members, fun _ _ => mem_document_iff,
    fun _ ha => Attr.isSome_json? f ha⟩

end GenericNetlink.Family
