import GenericNetlink.Output.Print
import GenericNetlink.Proofs.Family.Comparison
import GenericNetlink.Sample.Payload

/-!
# Absent values are invisible

A family may still store a value for an attribute that it no longer has. Families
that have the same attributes with the same values are `Alike`, whatever they
store beside that. Every observer reads a family through the seven getters, so
that it cannot tell alike families apart.

Objects show their whole mask, bits of no attribute included: generic code cannot
tell objects with one mask and alike families apart (`SameView`).
-/

namespace GenericNetlink.Family

structure Alike (f g : Family) : Prop where
  has : ∀ a : Attr, f.has a.bit = g.has a.bit
  value : ∀ a : Attr, f.has a.bit = true → a.SameValue f.data g.data

theorem Attr.SameValue.differs {a : Attr} {x y : Record} (h : a.SameValue x y) (z : Record) :
    a.differs x z = a.differs y z := by
  cases a <;> exact congrArg (· != _) h

namespace Alike

variable {f g : Family}

theorem get? {α : Type} {load : Record → α} (h : Alike f g) (a : Attr)
    (hl : a.SameValue f.data g.data → load f.data = load g.data) :
    f.get? a.bit load = g.get? a.bit load := by
  unfold Attributed.get?
  rw [← h.has a]
  split
  · rename_i ha
    rw [hl (h.value a ha)]
  · rfl

theorem id? (h : Alike f g) : f.id? = g.id? := h.get? .id fun e => e

theorem name? (h : Alike f g) : f.name? = g.name? := h.get? .name fun e => e

theorem version? (h : Alike f g) : f.version? = g.version? := h.get? .version fun e => e

theorem hdrsize? (h : Alike f g) : f.hdrsize? = g.hdrsize? := h.get? .hdrsize fun e => e

theorem maxattr? (h : Alike f g) : f.maxattr? = g.maxattr? := h.get? .maxattr fun e => e

theorem groups (h : Alike f g) : f.groups = g.groups := by
  rw [Family.groups, Family.groups, h.get? .groups fun e => e]

theorem ops (h : Alike f g) : f.ops = g.ops := by
  rw [Family.ops, Family.ops, h.get? .ops fun e => e]

theorem controlAttrs (h : Alike f g) : f.controlAttrs = g.controlAttrs := by
  simp only [Family.controlAttrs, h.has]

theorem summary (h : Alike f g) : f.summary = g.summary := by
  rw [Family.summary, h.id?, h.name?, h.version?, ← Family.summary]

theorem sizes (h : Alike f g) : f.sizes = g.sizes := by
  rw [Family.sizes, h.hdrsize?, h.maxattr?, ← Family.sizes]

theorem writeLine (h : Alike f g) : f.writeLine = g.writeLine := by
  funext d
  rw [Family.writeLine, h.summary, ← Family.writeLine]

theorem writeDetails (h : Alike f g) : f.writeDetails = g.writeDetails := by
  funext d
  simp only [Family.writeDetails, Family.writeSizes, h.writeLine, h.sizes, h.ops, h.groups]

theorem write (h : Alike f g) : f.write = g.write := by
  funext verbosity d
  cases verbosity with
  | line => exact congrFun h.writeLine d
  | details => exact congrFun h.writeDetails d
  | stats => exact congrFun h.writeDetails d

theorem dump (h : Alike f g) : f.dump = g.dump := by
  funext verbosity
  rw [Family.dump, h.write, ← Family.dump]

theorem toJson (h : Alike f g) : f.toJson = g.toJson := by
  simp only [Family.toJson, h.id?, h.name?, h.version?, h.hdrsize?, h.maxattr?, h.ops, h.groups]

theorem printed (h : Alike f g) (encoder : Json.Encoder) :
    GenericNetlink.printed encoder f = GenericNetlink.printed encoder g := by
  funext format options
  cases format with
  | text => exact congrFun h.dump options.verbosity
  | json => exact congrArg (encoder.document options.pretty) h.toJson

theorem diff (h : Alike f g) : f.diff = g.diff := by
  funext k attrs flags
  refine Attr.mask_ext (fun a => ?_) fun i hi => ?_
  · rw [getLsbD_diff_index, getLsbD_diff_index, ← has_bit f, ← has_bit g, ← h.has a]
    cases ha : f.has a.bit with
    | false => rfl
    | true => rw [(h.value a ha).differs]
  · rw [getLsbD_diff_unknown _ _ _ _ hi, getLsbD_diff_unknown _ _ _ _ hi]

theorem diff_from (h : Alike f g) (k : Family) : k.diff f = k.diff g := by
  funext attrs flags
  rw [k.diff_comm, h.diff, diff_comm]

end Alike

-- ---------------------------------------------------------------------------
-- Observers
-- ---------------------------------------------------------------------------

/-- Nothing that is asked of either family by itself, or of it and a third one,
tells the two apart. -/
structure Indistinguishable (f g : Family) : Prop where
  id : f.id = g.id ∧ f.id? = g.id?
  name : f.name? = g.name?
  version : f.version = g.version ∧ f.version? = g.version?
  hdrsize : f.hdrsize = g.hdrsize ∧ f.hdrsize? = g.hdrsize?
  maxattr : f.maxattr = g.maxattr ∧ f.maxattr? = g.maxattr?
  groups : f.groups = g.groups
  ops : f.ops = g.ops
  groupByName : ∀ name, f.groupByName? name = g.groupByName? name
  hasOp : ∀ id, f.hasOp id = g.hasOp id
  controlAttrs : f.controlAttrs = g.controlAttrs
  write : ∀ verbosity d, f.write verbosity d = g.write verbosity d
  dump : ∀ verbosity, f.dump verbosity = g.dump verbosity
  json : f.toJson = g.toJson
  print : ∀ (s : Sink) encoder format options,
    s.print encoder f format options = s.print encoder g format options
  diff : ∀ k attrs flags, f.diff k attrs flags = g.diff k attrs flags
  diffFrom : ∀ (k : Family) attrs flags, k.diff f attrs flags = k.diff g attrs flags

theorem Alike.indistinguishable {f g : Family} (h : Alike f g) : Indistinguishable f g where
  id := ⟨congrArg (·.getD (.ofNat generateId)) h.id?, h.id?⟩
  name := h.name?
  version := ⟨congrArg (·.getD 0) h.version?, h.version?⟩
  hdrsize := ⟨congrArg (·.getD 0) h.hdrsize?, h.hdrsize?⟩
  maxattr := ⟨congrArg (·.getD 0) h.maxattr?, h.maxattr?⟩
  groups := h.groups
  ops := h.ops
  groupByName name := by rw [groupByName?, h.groups, ← groupByName?]
  hasOp id := by rw [hasOp, h.ops, ← hasOp]
  controlAttrs := h.controlAttrs
  write verbosity d := congrFun (congrFun h.write verbosity) d
  dump := congrFun h.dump
  json := h.toJson
  print s encoder format options :=
    congrArg s.write (congrFun (congrFun (h.printed encoder) format) options)
  diff k attrs flags := congrFun (congrFun (congrFun h.diff k) attrs) flags
  diffFrom k attrs flags := congrFun (congrFun (h.diff_from k) attrs) flags

-- ---------------------------------------------------------------------------
-- Objects
-- ---------------------------------------------------------------------------

structure SameView (f g : Family) : Prop where
  mask : f.mask = g.mask
  value : ∀ a : Attr, f.has a.bit = true → a.SameValue f.data g.data

theorem SameView.alike {f g : Family} (h : SameView f g) : Alike f g where
  has a := by rw [Attributed.has, h.mask, ← Attributed.has]
  value := h.value

section
variable {P : Type} [Carries P Record]

/-- The compare hook of a table, if it has one, is that of families. -/
def ComparesFamilies (t : Table P) : Prop := ∀ hook, t.compare = some hook → hook = compareHook

/-- The dump hooks of a table, where it has any, are among those of families. -/
def DumpsFamilies (t : Table P) : Prop :=
  ∀ verbosity hook, t.dumpHook verbosity = some hook → ∃ level, hook = dumpHook level

theorem table_comparesFamilies : ComparesFamilies (table (P := P)) :=
  fun _ h => (Option.some.inj h).symm

theorem table_dumpsFamilies : DumpsFamilies (table (P := P)) := by
  intro verbosity _ h
  cases verbosity <;> exact ⟨_, (Option.some.inj h).symm⟩

variable {tables : Catalog P} {o p : Object P} {f g : Family}

theorem payload_mask (ho : o.payload Record = .ok f) : f.mask = o.mask := by
  unfold Object.payload at ho
  split at ho <;> cases ho
  rfl

theorem compareHook_congr (ho : o.payload Record = .ok f) (hp : p.payload Record = .ok g)
    (h : Alike f g) (r : Object P) (attrs : Mask) (flags : CompareFlags) :
    compareHook o r attrs flags = compareHook p r attrs flags ∧
    compareHook r o attrs flags = compareHook r p attrs flags := by
  -- An operand of another kind is refused, whatever the other one is.
  cases hr : r.payload Record with
  | error fault =>
    simp only [compareHook, Hook.comparing, ho, hp, hr]
    exact ⟨rfl, rfl⟩
  | ok k =>
    rw [compareHook_ok ho hr, compareHook_ok hp hr, compareHook_ok hr ho, compareHook_ok hr hp,
      h.diff, h.diff_from]
    exact ⟨rfl, rfl⟩

theorem compare_congr (hs : o.tag = p.tag) (ho : o.payload Record = .ok f)
    (hp : p.payload Record = .ok g) (ht : ComparesFamilies (tables o.tag)) (h : Alike f g)
    (r : Object P) (attrs : Mask) (flags : CompareFlags) :
    Object.compare tables o r attrs flags = Object.compare tables p r attrs flags ∧
    Object.compare tables r o attrs flags = Object.compare tables r p attrs flags := by
  have hook := compareHook_congr ho hp h r attrs flags
  constructor
  · refine Object.compare_congr tables hs rfl ?_
    intro _ _ hc
    rw [ht _ hc]
    exact hook.1
  -- Now the table is that of `r`, but the hook is only called if it is that of `o` too.
  · refine Object.compare_congr tables rfl hs ?_
    intro hr _ hc
    rw [hr] at hc
    rw [ht _ hc]
    exact hook.2

theorem identical_congr (hs : o.tag = p.tag) (ho : o.payload Record = .ok f)
    (hp : p.payload Record = .ok g) (ht : ComparesFamilies (tables o.tag)) (h : SameView f g)
    (r : Object P) :
    Object.identical tables o r = Object.identical tables p r ∧
    Object.identical tables r o = Object.identical tables r p := by
  have hm : o.mask = p.mask := by rw [← payload_mask ho, ← payload_mask hp, h.mask]
  have hc := compare_congr hs ho hp ht h.alike r
  simp only [Object.identical, Object.sameType, ← hs, ← hm, hc]
  exact ⟨trivial, trivial⟩

theorem object_dump_congr (hs : o.tag = p.tag) (ho : o.payload Record = .ok f)
    (hp : p.payload Record = .ok g) (ht : DumpsFamilies (tables o.tag)) (h : Alike f g)
    (d : Dumper) : Object.dump tables o d = Object.dump tables p d := by
  simp only [Object.dump, ← hs]
  cases hd : (tables o.tag).dumpHook d.verbosity with
  | none => rfl
  | some hook =>
    obtain ⟨level, rfl⟩ := ht _ _ hd
    simp only [dumpHook, Hook.dumping, ho, hp, h.write]

end

/-- Families with one mask that agree on the values of the attributes in it cannot be
told apart. As objects of one type they cannot either, as far as the hooks of the type
are those of families. -/
theorem absent_values_invisible {f g : Family} (hm : f.mask = g.mask)
    (hv : ∀ a : Attr, f.has a.bit = true → a.SameValue f.data g.data) :
    Indistinguishable f g ∧
    ∀ {P : Type} [Carries P Record] (tables : Catalog P) (o p : Object P),
      o.tag = p.tag → o.payload Record = .ok f → p.payload Record = .ok g →
      (DumpsFamilies (tables o.tag) → ∀ d, Object.dump tables o d = Object.dump tables p d) ∧
      (ComparesFamilies (tables o.tag) → ∀ r : Object P,
        (∀ attrs flags,
          Object.compare tables o r attrs flags = Object.compare tables p r attrs flags ∧
          Object.compare tables r o attrs flags = Object.compare tables r p attrs flags) ∧
        Object.identical tables o r = Object.identical tables p r ∧
        Object.identical tables r o = Object.identical tables r p) := by
  have h : SameView f g := ⟨hm, hv⟩
  refine ⟨h.alike.indistinguishable, ?_⟩
  intro P _ tables o p hs ho hp
  refine ⟨fun ht => object_dump_congr hs ho hp ht h.alike, fun ht r =>
    ⟨?_, identical_congr hs ho hp ht h r⟩⟩
  exact compare_congr hs ho hp ht h.alike r

def withStaleId (id : UInt32) : Family := ((empty.setName "nlctrl").setId id).unsetId

/-- Stored ids differ, and neither the families nor their objects show it. -/
theorem stale_ids_invisible :
    withStaleId 7 ≠ withStaleId 9 ∧ Indistinguishable (withStaleId 7) (withStaleId 9) ∧
    (∀ d, Object.dump (fun _ => table) ((withStaleId 7).toObject : Object Payload) d =
      Object.dump (fun _ => table) ((withStaleId 9).toObject : Object Payload) d) ∧
    ∀ r : Object Payload,
      Object.identical (fun _ => table) (withStaleId 7).toObject r =
        Object.identical (fun _ => table) (withStaleId 9).toObject r := by
  have h := absent_values_invisible (f := withStaleId 7) (g := withStaleId 9) (by decide)
    (by intro a; cases a <;> decide)
  have ho := h.2 (P := Payload) (fun _ => table) (withStaleId 7).toObject
    (withStaleId 9).toObject rfl (payload_toObject _) (payload_toObject _)
  exact ⟨by decide, h.1, ho.1 table_dumpsFamilies, fun r => (ho.2 table_comparesFamilies r).2.1⟩

def storedValuesTable : Table Payload := {
  table with
  compare := some (Hook.comparing fun (f g : Family) _ _ =>
    if f.data = g.data then 0 else BitVec.allOnes 32)
  line := some (Hook.dumping fun (f : Family) d =>
    d.startLine (Text.decimal f.data.id.toNat ++ "\n"))
}

/-- Hooks of other tables do tell families apart by values that are absent. -/
theorem stored_values_shown :
    let tables : Catalog Payload := fun _ => storedValuesTable
    let f : Object Payload := (withStaleId 7).toObject
    let g : Object Payload := (withStaleId 9).toObject
    (withStaleId 7).mask = (withStaleId 9).mask ∧
    (∀ a : Attr, (withStaleId 7).has a.bit = true →
      a.SameValue (withStaleId 7).data (withStaleId 9).data) ∧
    f.tag = g.tag ∧
    Object.compare tables f g 1 .none = .ok 1 ∧ Object.compare tables g g 1 .none = .ok 0 ∧
    Object.identical tables f g = false ∧ Object.identical tables g g = true ∧
    Object.dumpText tables f .line = .ok "7\n" ∧ Object.dumpText tables g .line = .ok "9\n" :=
  ⟨by decide, by intro a; cases a <;> decide, rfl, rfl, rfl, rfl, rfl, rfl, rfl⟩

end GenericNetlink.Family
