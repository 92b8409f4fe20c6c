import GenericNetlink.Proofs.Family.Visibility

/-!
# The difference of families as a distance

With presence reported, a comparison answers with the attributes on which two families do
not agree (`getLsbD_diff_presence`). Agreeing is an equivalence, and the laws of a
distance with sets of attributes as values are read off it. Families without any
difference are alike, so that no observer tells them apart, and conversely.
-/

namespace GenericNetlink.Family

variable {f g h : Family} {a : Attr}

def Attr.SameReading (a : Attr) (f g : Family) : Prop :=
  match a with
  | .id => f.id = g.id
  | .name => f.name? = g.name?
  | .version => f.version = g.version
  | .hdrsize => f.hdrsize = g.hdrsize
  | .maxattr => f.maxattr = g.maxattr
  | .groups => f.groups = g.groups
  | .ops => f.ops = g.ops

structure Attr.Agrees (a : Attr) (f g : Family) : Prop where
  has : f.has a.bit = g.has a.bit
  reading : f.has a.bit = true → a.SameReading f g

namespace Attr

theorem SameReading.refl (a : Attr) (f : Family) : a.SameReading f f := by
  cases a <;> exact rfl

theorem SameReading.symm (h : a.SameReading f g) : a.SameReading g f := by
  cases a <;> exact Eq.symm h

theorem SameReading.trans (hfg : a.SameReading f g) (hgh : a.SameReading g h) :
    a.SameReading f h := by
  cases a <;> exact Eq.trans hfg hgh

theorem Agrees.refl (a : Attr) (f : Family) : a.Agrees f f := ⟨rfl, fun _ => .refl a f⟩

theorem Agrees.symm (h : a.Agrees f g) : a.Agrees g f :=
  ⟨h.has.symm, fun hg => (h.reading (h.has.trans hg)).symm⟩

theorem Agrees.trans (hfg : a.Agrees f g) (hgh : a.Agrees g h) : a.Agrees f h :=
  ⟨hfg.has.trans hgh.has,
    fun hf => (hfg.reading hf).trans (hgh.reading (hfg.has.symm.trans hf))⟩

end Attr

theorem sameReading_iff (hf : f.has a.bit = true) (hg : g.has a.bit = true) :
    a.SameReading f g ↔ a.SameValue f.data g.data := by
  cases a <;>
    simp [Attr.SameReading, Attr.SameValue, id, id?, name?, version, version?, hdrsize, hdrsize?,
      maxattr, maxattr?, groups, ops, Attributed.get?, hf, hg]

theorem alike_iff : Alike f g ↔ ∀ a : Attr, a.Agrees f g := by
  constructor
  · intro halike a
    refine ⟨halike.has a, fun hf => ?_⟩
    exact (sameReading_iff hf ((halike.has a).symm.trans hf)).mpr (halike.value a hf)
  · intro hagree
    refine ⟨fun a => (hagree a).has, fun a hf => ?_⟩
    exact (sameReading_iff hf ((hagree a).has.symm.trans hf)).mp ((hagree a).reading hf)

/-- With presence reported, an attribute is reported if it is asked for and the families
do not agree on it. -/
theorem getLsbD_diff_presence (f g : Family) (attrs : Mask) (a : Attr) :
    (f.diff g attrs .presence).getLsbD a.index = true ↔
      attrs.getLsbD a.index = true ∧ ¬a.Agrees f g := by
  rw [getLsbD_diff_index, ← has_bit, ← has_bit, Bool.and_eq_true]
  refine and_congr_right fun _ => ?_
  by_cases hs : f.has a.bit = g.has a.bit
  · cases hf : f.has a.bit with
    | false =>
      have hagree : a.Agrees f g := ⟨hs, fun h => absurd h (by simp [hf])⟩
      simp [hagree, ← hs, hf]
    | true =>
      have hg : g.has a.bit = true := hs.symm.trans hf
      have hagree : a.Agrees f g ↔ a.differs f.data g.data = false := by
        rw [Attr.differs_eq_false_iff, ← sameReading_iff hf hg]
        exact ⟨fun h => h.reading hf, fun h => ⟨hs, fun _ => h⟩⟩
      simp [hagree, hg]
  · have hagree : ¬a.Agrees f g := fun h => hs h.has
    simp [hagree, hs, CompareFlags.presence, CompareFlags.reportsPresence]

theorem diff_presence_eq_zero_iff (attrs : Mask) :
    f.diff g attrs .presence = 0 ↔ ∀ a : Attr, attrs.getLsbD a.index = true → a.Agrees f g := by
  constructor
  · intro hz a ha
    refine Classical.byContradiction fun hn => ?_
    have hr := (getLsbD_diff_presence f g attrs a).mpr ⟨ha, hn⟩
    rw [hz] at hr
    exact absurd hr (by simp)
  · intro hagree
    refine Attr.mask_ext (fun a => ?_) fun k hk => ?_
    · rw [Bool.eq_iff_iff, getLsbD_diff_presence]
      simpa using hagree a
    · simp [getLsbD_diff_unknown _ _ _ _ hk]

theorem diff_eq_zero_iff :
    f.diff g (BitVec.allOnes 32) .presence = 0 ↔ ∀ a : Attr, a.Agrees f g := by
  rw [diff_presence_eq_zero_iff]
  refine forall_congr' fun a => forall_prop_of_true ?_
  rw [BitVec.getLsbD_allOnes, decide_eq_true a.index_lt]

theorem diff_triangle (f g h : Family) (attrs : Mask) :
    f.diff h attrs .presence &&&
      ~~~(f.diff g attrs .presence ||| g.diff h attrs .presence) = 0 := by
  have hsub : ∀ a : Attr, (f.diff h attrs .presence).getLsbD a.index = true →
      (f.diff g attrs .presence ||| g.diff h attrs .presence).getLsbD a.index = true := by
    intro a hr
    obtain ⟨ha, hn⟩ := (getLsbD_diff_presence f h attrs a).mp hr
    rw [BitVec.getLsbD_or, Bool.or_eq_true, getLsbD_diff_presence, getLsbD_diff_presence]
    by_cases hfg : a.Agrees f g
    · exact .inr ⟨ha, fun hgh => hn (hfg.trans hgh)⟩
    · exact .inl ⟨ha, hfg⟩
  refine Attr.mask_ext (fun a => ?_) fun k hk => ?_
  · rw [BitVec.getLsbD_and]
    cases hr : (f.diff h attrs .presence).getLsbD a.index with
    | false => simp
    | true => simp [hsub a hr]
  · simp [getLsbD_diff_unknown _ _ _ _ hk]

theorem indistinguishable_iff : Indistinguishable f g ↔ Alike f g := by
  constructor
  · intro hobs
    -- A family that `f` cannot be told from does not differ from it, as it does not from itself.
    have hz : f.diff g (BitVec.allOnes 32) .presence = 0 := by rw [hobs.diff, diff_self]
    exact alike_iff.mpr (diff_eq_zero_iff.mp hz)
  · exact Alike.indistinguishable

/-- With presence reported, the differences of families are a distance: there is none
between a family and itself, it is the same both ways, and it is covered by the
distances to and from any third family. It is empty exactly if both families have the
same attributes and read the same for them, and then all that is rendered of them is the
same, and nothing tells them apart. -/
theorem diff_presence_distance (f g h : Family) (attrs : Mask) :
    f.diff f attrs .presence = 0 ∧
    (f.diff g attrs .presence = g.diff f attrs .presence ∧
      ∀ flags, f.diff g attrs flags = g.diff f attrs flags) ∧
    f.diff h attrs .presence &&&
      ~~~(f.diff g attrs .presence ||| g.diff h attrs .presence) = 0 ∧
    (f.diff g (BitVec.allOnes 32) .presence = 0 ↔
      ∀ a : Attr, f.has a.bit = g.has a.bit ∧ (f.has a.bit = true → a.SameReading f g)) ∧
    (f.diff g (BitVec.allOnes 32) .presence = 0 →
      (∀ verbosity, f.dump verbosity = g.dump verbosity) ∧ f.toJson = g.toJson ∧
      f.controlAttrs = g.controlAttrs) ∧
    (f.diff g (BitVec.allOnes 32) .presence = 0 ↔ Indistinguishable f g) := by
  have hzero : f.diff g (BitVec.allOnes 32) .presence = 0 ↔ Alike f g :=
    diff_eq_zero_iff.trans alike_iff.symm
  refine ⟨f.diff_self attrs .presence,
    ⟨f.diff_comm g attrs .presence, f.diff_comm g attrs⟩, f.diff_triangle g h attrs,
    diff_eq_zero_iff.trans (forall_congr' fun a => ?_), fun hz => ?_,
    hzero.trans indistinguishable_iff.symm⟩
  · exact ⟨fun ha => ⟨ha.has, ha.reading⟩, fun ha => ⟨ha.1, ha.2⟩⟩
  · have halike := hzero.mp hz
    exact ⟨congrFun halike.dump, halike.toJson, halike.controlAttrs⟩

/-- Without presence the way over a family that lacks the attribute reports nothing. -/
example :
    let f := empty.setId 1
    let h := empty.setId 2
    f.diff h (BitVec.allOnes 32) .none = Attr.id.bit ∧
      f.diff empty (BitVec.allOnes 32) .none ||| empty.diff h (BitVec.allOnes 32) .none = 0 := by
  decide

end GenericNetlink.Family
