import GenericNetlink.Family.Table

/-!
# The exact meaning of a comparison

`diff_eq` gives the answer of comparing two families as one formula on masks: of
the attributes asked for, those that both have with different values, and, if
presence is to be reported, those that one of them has. The policy laws of
comparisons are read off that formula, one bit at a time.
-/

namespace GenericNetlink.Family

def Attr.SameValue (a : Attr) (x y : Record) : Prop :=
  match a with
  | .id => x.id = y.id
  | .name => x.name = y.name
  | .version => x.version = y.version
  | .hdrsize => x.hdrsize = y.hdrsize
  | .maxattr => x.maxattr = y.maxattr
  | .groups => x.groups = y.groups
  | .ops => x.ops = y.ops

instance (a : Attr) (x y : Record) : Decidable (a.SameValue x y) := by
  cases a <;> unfold Attr.SameValue <;> infer_instance

theorem Attr.differs_eq_false_iff {a : Attr} {x y : Record} :
    a.differs x y = false ↔ a.SameValue x y := by
  cases a <;> simp [Attr.differs, Attr.SameValue]

def differing (x y : Record) : Mask := Attr.maskOf fun a => !decide (a.SameValue x y)

theorem getLsbD_differing_index (x y : Record) (a : Attr) :
    (differing x y).getLsbD a.index = a.differs x y := by
  rw [differing, Attr.getLsbD_maskOf_index]
  cases h : a.differs x y with
  | false => rw [decide_eq_true (Attr.differs_eq_false_iff.mp h), Bool.not_true]
  | true =>
    have hn : ¬a.SameValue x y := fun hs => by
      rw [Attr.differs_eq_false_iff.mpr hs] at h
      cases h
    rw [decide_eq_false hn, Bool.not_false]

def oneSided (f g : Family) : Mask := (f.mask ^^^ g.mask) &&& Attr.knownBits

section
variable (f g : Family) (attrs : Mask) (flags : CompareFlags)

theorem diff_eq :
    f.diff g attrs flags =
      attrs &&& ((f.mask &&& g.mask &&& differing f.data g.data) |||
        if flags.reportsPresence then oneSided f g else 0) := by
  refine Attr.mask_ext (fun a => ?_) fun k hk => ?_
  · rw [getLsbD_diff_index, BitVec.getLsbD_and, BitVec.getLsbD_or, BitVec.getLsbD_and,
      BitVec.getLsbD_and, getLsbD_differing_index]
    cases flags.reportsPresence <;> simp [oneSided]
  · rw [getLsbD_diff_unknown _ _ _ _ hk]
    cases flags.reportsPresence <;>
      simp [oneSided, differing, Attr.getLsbD_maskOf_unknown _ hk,
        Attr.getLsbD_knownBits_unknown hk]

theorem diff_and_not_known : f.diff g attrs flags &&& ~~~(attrs &&& Attr.knownBits) = 0 := by
  refine Attr.mask_ext (fun a => ?_) fun k hk => ?_
  · rw [BitVec.getLsbD_and, getLsbD_diff_index]
    cases h : attrs.getLsbD a.index <;> simp [h]
  · simp [getLsbD_diff_unknown _ _ _ _ hk]

theorem diff_and (n : Mask) : f.diff g (attrs &&& n) flags = f.diff g attrs flags &&& n := by
  simp only [diff_eq]
  generalize f.mask &&& g.mask &&& differing f.data g.data ||| _ = reported
  rw [BitVec.and_assoc, BitVec.and_comm n, BitVec.and_assoc]

theorem diff_and_self : f.diff g attrs flags &&& attrs = f.diff g attrs flags := by
  rw [← diff_and, BitVec.and_self]

theorem diff_presence :
    f.diff g attrs .presence = f.diff g attrs .none ||| (attrs &&& oneSided f g) := by
  rw [diff_eq, diff_eq]
  refine BitVec.eq_of_getLsbD_eq fun k _ => ?_
  simp only [CompareFlags.presence, CompareFlags.none, CompareFlags.reportsPresence,
    BitVec.getLsbD_and, BitVec.getLsbD_or]
  cases attrs.getLsbD k <;> simp

/-- Where nothing is reported with presence, nothing is reported at all. -/
theorem diff_eq_zero_of_presence (h : f.diff g attrs .presence = 0) : f.diff g attrs flags = 0 := by
  cases hr : flags.reportsPresence with
  | true =>
    rw [diff_eq] at h ⊢
    rw [hr]
    exact h
  | false =>
    rw [diff_presence] at h
    obtain ⟨h, -⟩ := BitVec.or_eq_zero_iff.mp h
    rw [diff_eq] at h ⊢
    rw [hr]
    exact h

theorem diff_none_and_oneSided :
    f.diff g attrs .none &&& (attrs &&& oneSided f g) = 0 := by
  rw [diff_eq]
  refine BitVec.eq_of_getLsbD_eq fun k _ => ?_
  simp only [oneSided, CompareFlags.none, CompareFlags.reportsPresence, BitVec.getLsbD_and,
    BitVec.getLsbD_or, BitVec.getLsbD_xor]
  cases f.mask.getLsbD k <;> cases g.mask.getLsbD k <;> simp

theorem diff_lowest_flag : f.diff g attrs ⟨flags.bits &&& 1⟩ = f.diff g attrs flags := by
  have h : CompareFlags.reportsPresence ⟨flags.bits &&& 1⟩ = flags.reportsPresence := by
    simp [CompareFlags.reportsPresence]
  rw [diff_eq, diff_eq, h]

end

section
variable {P : Type} [Carries P Record] {tables : Catalog P} {o p : Object P} {f g : Family}

theorem compareHook_ok (ho : o.payload Record = .ok f) (hp : p.payload Record = .ok g)
    (attrs : Mask) (flags : CompareFlags) :
    compareHook o p attrs flags = .ok (f.diff g attrs flags) := by
  simp only [compareHook, Hook.comparing, ho, hp]
  rfl

theorem payloads_of_compareHook {attrs diff : Mask} {flags : CompareFlags}
    (h : compareHook o p attrs flags = .ok diff) :
    ∃ f g : Family, o.payload Record = .ok f ∧ p.payload Record = .ok g := by
  simp only [compareHook, Hook.comparing] at h
  cases ho : o.payload Record with
  | error fault =>
    rw [ho] at h
    cases h
  | ok f =>
    cases hp : p.payload Record with
    | error fault =>
      rw [ho, hp] at h
      cases h
    | ok g => exact ⟨f, g, rfl, rfl⟩

theorem compare_ok (hs : o.tag = p.tag) (ho : o.payload Record = .ok f)
    (hp : p.payload Record = .ok g) (ht : (tables o.tag).compare = some compareHook)
    (attrs : Mask) (flags : CompareFlags) :
    Object.compare tables o p attrs flags = .ok (f.diff g attrs flags) := by
  rw [Object.compare_of_hook hs ht, compareHook_ok ho hp]
  show Except.ok (f.diff g attrs flags &&& attrs) = _
  rw [diff_and_self]

end

/-- A comparison reports, of the attributes asked for, those that both families
have with different values, and those that one of them has if the lowest flag is
set; generic code gives the same answer. -/
theorem diff_exact {P : Type} [Carries P Record] (f g : Family) (attrs : Mask)
    (flags : CompareFlags) :
    f.diff g attrs flags =
      attrs &&& ((f.mask &&& g.mask &&& differing f.data g.data) |||
        if flags.bits.getLsbD 0 then (f.mask ^^^ g.mask) &&& 0x7f else 0) ∧
    f.diff g attrs flags &&& ~~~(attrs &&& 0x7f) = 0 ∧
    f.diff g attrs ⟨flags.bits &&& 1⟩ = f.diff g attrs flags ∧
    (∀ n, f.diff g (attrs &&& n) flags = f.diff g attrs flags &&& n) ∧
    (f.diff g attrs .presence = f.diff g attrs .none ||| (attrs &&& oneSided f g) ∧
      f.diff g attrs .none &&& (attrs &&& oneSided f g) = 0) ∧
    ∀ (tables : Catalog P) (o p : Object P),
      o.tag = p.tag → o.payload Record = .ok f → p.payload Record = .ok g →
      (tables o.tag).compare = some compareHook →
      Object.compare tables o p attrs flags = .ok (f.diff g attrs flags) :=
  ⟨diff_eq f g attrs flags, diff_and_not_known f g attrs flags, diff_lowest_flag f g attrs flags,
    diff_and f g attrs flags, ⟨diff_presence f g attrs, diff_none_and_oneSided f g attrs⟩,
    fun _ _ _ hs ho hp ht => compare_ok hs ho hp ht attrs flags⟩

end GenericNetlink.Family
