import GenericNetlink.Proofs.Family.PresenceDistance
import GenericNetlink.Sample.Payload

/-!
# Identity of objects

Objects are identical if they are of one type, have the same identifying attributes, and
compare without difference on these (`identical_iff_compare`). On a table that compares
families that is an equivalence of families, which looks at the identifying attributes
only (`SameIdentity`). Identifying bits of no attribute count by their presence. Whatever
cannot be compared is not identical to anything.
-/

namespace GenericNetlink

namespace Family

structure SameIdentity (ids : Mask) (f g : Family) : Prop where
  mask : f.mask &&& ids = g.mask &&& ids
  value : ∀ a : Attr, ids.getLsbD a.index = true → f.has a.bit = true → a.SameValue f.data g.data

variable {ids : Mask} {f g h : Family}

theorem has_of_mask_eq (hm : f.mask &&& ids = g.mask &&& ids) {a : Attr}
    (ha : ids.getLsbD a.index = true) : f.has a.bit = g.has a.bit := by
  have hbit := congrArg (·.getLsbD a.index) hm
  simpa [ha, has_bit] using hbit

theorem sameIdentity_iff :
    SameIdentity ids f g ↔ f.mask &&& ids = g.mask &&& ids ∧
      ∀ a : Attr, ids.getLsbD a.index = true → a.Agrees f g := by
  constructor
  · rintro ⟨hm, hv⟩
    refine ⟨hm, fun a ha => ⟨has_of_mask_eq hm ha, fun hf => ?_⟩⟩
    exact (sameReading_iff hf ((has_of_mask_eq hm ha).symm.trans hf)).mpr (hv a ha hf)
  · rintro ⟨hm, hagree⟩
    refine ⟨hm, fun a ha hf => ?_⟩
    obtain ⟨hhas, hread⟩ := hagree a ha
    exact (sameReading_iff hf (hhas.symm.trans hf)).mp (hread hf)

namespace SameIdentity

theorem refl (ids : Mask) (f : Family) : SameIdentity ids f f :=
  sameIdentity_iff.mpr ⟨rfl, fun a _ => .refl a f⟩

theorem symm (hfg : SameIdentity ids f g) : SameIdentity ids g f := by
  obtain ⟨hm, hagree⟩ := sameIdentity_iff.mp hfg
  exact sameIdentity_iff.mpr ⟨hm.symm, fun a ha => (hagree a ha).symm⟩

theorem trans (hfg : SameIdentity ids f g) (hgh : SameIdentity ids g h) :
    SameIdentity ids f h := by
  obtain ⟨hm, hagree⟩ := sameIdentity_iff.mp hfg
  obtain ⟨hm', hagree'⟩ := sameIdentity_iff.mp hgh
  exact sameIdentity_iff.mpr ⟨hm.trans hm', fun a ha => (hagree a ha).trans (hagree' a ha)⟩

end SameIdentity

end Family

namespace Object

open Family (Record Attr SameIdentity)

section
variable {P : Type} {tables : Catalog P} {a b : Object P}

theorem not_identical_of_tag_ne (h : a.tag ≠ b.tag) : identical tables a b = false :=
  not_identical_of_compare fun hc => h (compare_ok_cases hc).1

theorem not_identical_of_no_hook (h : (tables a.tag).compare = none) :
    identical tables a b = false := by
  refine not_identical_of_compare fun hc => ?_
  obtain ⟨-, _, _, hk, -⟩ := compare_ok_cases hc
  cases h.symm.trans hk

theorem not_identical_of_hook_refusing {hook : CompareHook P} {fault : Fault}
    (h : (tables a.tag).compare = some hook)
    (hr : hook a b (tables a.tag).idAttrs .presence = .error fault) :
    identical tables a b = false := by
  refine not_identical_of_compare fun hc => ?_
  obtain ⟨-, _, _, hk, hok, -⟩ := compare_ok_cases hc
  obtain rfl := Option.some.inj (h.symm.trans hk)
  cases hr.symm.trans hok

end

-- ---------------------------------------------------------------------------
-- Tables that compare families
-- ---------------------------------------------------------------------------

section
variable {P : Type} [Carries P Record] {tables : Catalog P} {a b c : Object P} {f g : Family}

theorem payloads_of_identical (ht : (tables a.tag).compare = some Family.compareHook)
    (hi : identical tables a b = true) :
    ∃ f g : Family, a.payload Record = .ok f ∧ b.payload Record = .ok g := by
  obtain ⟨-, -, hc⟩ := identical_iff_compare.mp hi
  obtain ⟨-, _, _, hk, hok, -⟩ := compare_ok_cases hc
  obtain rfl := Option.some.inj (ht.symm.trans hk)
  exact Family.payloads_of_compareHook hok

theorem identical_iff_sameIdentity (ht : (tables a.tag).compare = some Family.compareHook)
    (ha : a.payload Record = .ok f) (hb : b.payload Record = .ok g) :
    identical tables a b = true ↔
      a.tag = b.tag ∧ SameIdentity (tables a.tag).idAttrs f g := by
  rw [identical_iff_compare, ← Family.payload_mask ha, ← Family.payload_mask hb,
    Family.sameIdentity_iff]
  refine and_congr_right fun hs => and_congr_right fun _ => ?_
  rw [Family.compare_ok hs ha hb ht, Except.ok.injEq, Family.diff_presence_eq_zero_iff]

theorem identical_symm (ht : (tables a.tag).compare = some Family.compareHook)
    (hi : identical tables a b = true) : identical tables b a = true := by
  obtain ⟨f, g, ha, hb⟩ := payloads_of_identical ht hi
  obtain ⟨hs, hfg⟩ := (identical_iff_sameIdentity ht ha hb).mp hi
  rw [hs] at ht hfg
  exact (identical_iff_sameIdentity ht hb ha).mpr ⟨hs.symm, hfg.symm⟩

theorem identical_trans (ht : (tables a.tag).compare = some Family.compareHook)
    (hab : identical tables a b = true) (hbc : identical tables b c = true) :
    identical tables a c = true := by
  obtain ⟨f, g, ha, hb⟩ := payloads_of_identical ht hab
  obtain ⟨hs, hfg⟩ := (identical_iff_sameIdentity ht ha hb).mp hab
  have ht' := ht
  rw [hs] at ht'
  obtain ⟨_, k, hb', hc⟩ := payloads_of_identical ht' hbc
  obtain ⟨hs', hgk⟩ := (identical_iff_sameIdentity ht' hb hc).mp hbc
  rw [← hs] at hgk
  exact (identical_iff_sameIdentity ht ha hc).mpr ⟨hs.trans hs', hfg.trans hgk⟩

theorem identical_congr (ht : (tables a.tag).compare = some Family.compareHook)
    (hab : identical tables a b = true) (c : Object P) :
    identical tables a c = identical tables b c ∧
    identical tables c a = identical tables c b := by
  have hs : a.tag = b.tag := (identical_iff_compare.mp hab).1
  have hba := identical_symm ht hab
  have ht' := ht
  rw [hs] at ht'
  refine ⟨Bool.eq_iff_iff.mpr ⟨identical_trans ht' hba, identical_trans ht hab⟩, ?_⟩
  -- Transitivity from `c` on needs its table to compare families, as that of `a` does.
  by_cases hc : c.tag = a.tag
  · rw [← hc] at ht
    exact Bool.eq_iff_iff.mpr ⟨fun h => identical_trans ht h hab, fun h => identical_trans ht h hba⟩
  · rw [not_identical_of_tag_ne hc, not_identical_of_tag_ne (hs ▸ hc)]

theorem compare_of_identical (ht : (tables a.tag).compare = some Family.compareHook)
    (hi : identical tables a b = true) (flags : CompareFlags) :
    compare tables a b (tables a.tag).idAttrs flags = .ok 0 := by
  obtain ⟨f, g, ha, hb⟩ := payloads_of_identical ht hi
  obtain ⟨hs, -, hz⟩ := identical_iff_compare.mp hi
  rw [Family.compare_ok hs ha hb ht, Except.ok.injEq] at hz
  rw [Family.compare_ok hs ha hb ht, Family.diff_eq_zero_of_presence _ _ _ _ hz]

structure ComparedAsFamily (tables : Catalog P) (o : Object P) : Prop where
  hook : (tables o.tag).compare = some Family.compareHook
  family : ∃ f : Family, o.payload Record = .ok f

theorem identical_equivalence (tables : Catalog P) :
    Equivalence fun a b : { o : Object P // ComparedAsFamily tables o } =>
      identical tables a.1 b.1 = true where
  refl a := by
    obtain ⟨f, hf⟩ := a.2.family
    exact (identical_iff_sameIdentity a.2.hook hf hf).mpr ⟨rfl, .refl _ f⟩
  symm {a _} := identical_symm a.2.hook
  trans {a _ _} := identical_trans a.2.hook

end

/-- On tables that compare families, families are identical exactly if they are of one
type, have the same of the identifying bits, and the same values for the identifying
attributes that they have. That is an equivalence; attributes that do not identify have
no say in it; and identical families compare without difference on the identifying
attributes under every policy. Objects of different types are never identical, nor are
objects without a compare hook or with one that refuses them, as that of families does
with everything else. -/
theorem identical_exact {P : Type} [Carries P Record] (tables : Catalog P) :
    (∀ (a b : Object P) (f g : Family),
      (tables a.tag).compare = some Family.compareHook →
      a.payload Record = .ok f → b.payload Record = .ok g →
      (identical tables a b = true ↔
        a.tag = b.tag ∧
        a.mask &&& (tables a.tag).idAttrs = b.mask &&& (tables a.tag).idAttrs ∧
        ∀ k : Attr, (tables a.tag).idAttrs.getLsbD k.index = true → f.has k.bit = true →
          k.SameValue f.data g.data) ∧
      (identical tables a b = true →
        ∀ flags, compare tables a b (tables a.tag).idAttrs flags = .ok 0)) ∧
    (Equivalence fun a b : { o : Object P // ComparedAsFamily tables o } =>
      identical tables a.1 b.1 = true) ∧
    (∀ (a a' : Object P) (f f' : Family),
      (tables a.tag).compare = some Family.compareHook → a'.tag = a.tag →
      a.payload Record = .ok f → a'.payload Record = .ok f' →
      f.mask &&& (tables a.tag).idAttrs = f'.mask &&& (tables a.tag).idAttrs →
      (∀ k : Attr, (tables a.tag).idAttrs.getLsbD k.index = true → f.has k.bit = true →
        k.SameValue f.data f'.data) →
      ∀ b, identical tables a b = identical tables a' b ∧
        identical tables b a = identical tables b a') ∧
    (∀ a b : Object P, a.tag ≠ b.tag → identical tables a b = false) ∧
    (∀ a b : Object P, (tables a.tag).compare = none → identical tables a b = false) ∧
    (∀ (a b : Object P) (hook : CompareHook P) (fault : Fault),
      (tables a.tag).compare = some hook →
      hook a b (tables a.tag).idAttrs .presence = .error fault → identical tables a b = false) ∧
    ∀ a b : Object P, (tables a.tag).compare = some Family.compareHook →
      ((∀ f : Family, a.payload Record ≠ .ok f) ∨ ∀ g : Family, b.payload Record ≠ .ok g) →
      identical tables a b = false := by
  refine ⟨?_, identical_equivalence tables, ?_, fun _ _ => not_identical_of_tag_ne,
    fun _ _ => not_identical_of_no_hook, fun _ _ _ _ => not_identical_of_hook_refusing, ?_⟩
  · intro a b f g ht ha hb
    refine ⟨?_, compare_of_identical ht⟩
    rw [identical_iff_sameIdentity ht ha hb, ← Family.payload_mask ha, ← Family.payload_mask hb]
    exact and_congr_right fun _ => ⟨fun h => ⟨h.mask, h.value⟩, fun h => ⟨h.1, h.2⟩⟩
  · intro a a' f f' ht hs ha ha' hm hv b
    have hi : identical tables a a' = true :=
      (identical_iff_sameIdentity ht ha ha').mpr ⟨hs.symm, hm, hv⟩
    exact identical_congr ht hi b
  · intro a b ht hn
    rw [Bool.eq_false_iff]
    intro hi
    obtain ⟨f, g, ha, hb⟩ := payloads_of_identical ht hi
    obtain hn | hn := hn
    · exact hn f ha
    · exact hn g hb

/-- A second table with the name and the hooks of that of families makes another type. -/
example :
    identical (P := Payload) (fun _ => Family.table) Family.newObject
      { Family.newObject with tag := ⟨1, Family.tag.name⟩ } = false := by decide

end Object

end GenericNetlink
