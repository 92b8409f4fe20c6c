import GenericNetlink.Proofs.Family.Comparison
import GenericNetlink.Sample.Payload
import Mathlib.Data.List.Forall2

/-!
# Chains of checks

A compare hook checks attributes one after the other, and what is reported adds up. An
attribute of a check may be several bits: it counts as asked for, or as present, if any
of them is, and it is reported with all of them. `getLsbD_chain` says which bits a chain
reports. They need not all be asked for; masking the answer, as generic comparison does,
is what makes it restrict to smaller requests (`chain_and_of_le`).
-/

namespace GenericNetlink

namespace AttrDiff

structure Check where
  attr : Mask
  differs : Bool

def chain (a b attrs : Mask) (flags : CompareFlags) (checks : List Check) : Mask :=
  (checks.foldl (fun d c => d.check c.attr c.differs) (start a b attrs flags)).finish

namespace Check

def InBoth (a b : Mask) (c : Check) : Prop := a &&& c.attr ≠ 0 ∧ b &&& c.attr ≠ 0

def InOne (a b : Mask) (c : Check) : Prop := ¬(a &&& c.attr ≠ 0 ↔ b &&& c.attr ≠ 0)

structure Reported (a b attrs : Mask) (flags : CompareFlags) (c : Check) : Prop where
  requested : attrs &&& c.attr ≠ 0
  cause : c.InBoth a b ∧ c.differs = true ∨ c.InOne a b ∧ flags.reportsPresence = true

variable {a b attrs : Mask} {flags : CompareFlags} {c : Check}

theorem Reported.symm (h : c.Reported a b attrs flags) : c.Reported b a attrs flags where
  requested := h.requested
  cause := h.cause.imp (And.imp_left And.symm) (And.imp_left fun hn hiff => hn hiff.symm)

theorem Reported.with_presence (h : c.Reported a b attrs flags) :
    c.Reported a b attrs ⟨flags.bits ||| 1⟩ where
  requested := h.requested
  cause := h.cause.imp_right (And.imp_right fun _ => by simp [CompareFlags.reportsPresence])

theorem Reported.of_bit {other : Mask} {k : Nat} (h : c.Reported a b other flags)
    (hc : c.attr.getLsbD k = true) (ha : attrs.getLsbD k = true) :
    c.Reported a b attrs flags where
  requested hz := by
    have hk := congrArg (·.getLsbD k) hz
    simp [hc, ha] at hk
  cause := h.cause

structure AgreesWith (a b attrs : Mask) (c other : Check) : Prop where
  attr : c.attr = other.attr
  differs : attrs &&& c.attr ≠ 0 → c.InBoth a b → c.differs = other.differs

variable {other : Check}

theorem AgreesWith.symm (h : c.AgreesWith a b attrs other) : other.AgreesWith a b attrs c where
  attr := h.attr.symm
  differs hr hb := by
    rw [InBoth, ← h.attr] at *
    exact (h.differs hr hb).symm

theorem AgreesWith.reported (h : c.AgreesWith a b attrs other)
    (hc : c.Reported a b attrs flags) : other.Reported a b attrs flags where
  requested := h.attr ▸ hc.requested
  cause := by
    rw [InBoth, InOne, ← h.attr]
    exact hc.cause.imp_left fun hv => ⟨hv.1, (h.differs hc.requested hv.1).symm.trans hv.2⟩

theorem reported_iff : c.Reported a b attrs flags ↔
    attrs &&& c.attr ≠ 0 ∧
      (c.InBoth a b ∧ c.differs = true ∨ c.InOne a b ∧ flags.reportsPresence = true) :=
  ⟨fun h => ⟨h.requested, h.cause⟩, fun h => ⟨h.1, h.2⟩⟩

end Check

section
variable {a b attrs : Mask} {flags : CompareFlags} {checks others : List Check}

theorem reports_start_iff (c : Check) :
    (start a b attrs flags).reports c.attr c.differs = true ↔ c.Reported a b attrs flags := by
  rw [Check.reported_iff]
  simp only [reports, comparesValues, reportsOneSided, start, Check.InBoth, Check.InOne,
    ← bne_iff_ne]
  -- The attribute is asked for or not, and each record has a bit of it or none.
  cases attrs &&& c.attr != 0 <;> cases a &&& c.attr != 0 <;> cases b &&& c.attr != 0 <;> simp

theorem getLsbD_chain (k : Nat) :
    (chain a b attrs flags checks).getLsbD k = true ↔
      ∃ c ∈ checks, c.attr.getLsbD k = true ∧ c.Reported a b attrs flags := by
  have hzero : (start a b attrs flags).diff.getLsbD k = false := BitVec.getLsbD_zero
  rw [chain, finish, getLsbD_foldl_check, hzero, Bool.false_or, List.any_eq_true]
  simp only [Bool.and_eq_true, reports_start_iff, and_comm]

theorem chain_congr {a' b' : Mask}
    (h : ∀ c, c ∈ checks ∧ c.Reported a b attrs flags ↔ c ∈ others ∧ c.Reported a' b' attrs flags) :
    chain a b attrs flags checks = chain a' b' attrs flags others := by
  refine BitVec.eq_of_getLsbD_eq fun k _ => Bool.eq_iff_iff.mpr ?_
  rw [getLsbD_chain, getLsbD_chain]
  exact exists_congr fun c => by rw [and_left_comm, h, and_left_comm]

theorem chain_perm (h : checks.Perm others) :
    chain a b attrs flags others = chain a b attrs flags checks :=
  chain_congr fun _ => and_congr_left fun _ => h.mem_iff.symm

theorem chain_swap : chain b a attrs flags checks = chain a b attrs flags checks :=
  chain_congr fun _ => and_congr_right fun _ => ⟨Check.Reported.symm, Check.Reported.symm⟩

theorem exists_mem_iff_of_forall₂ {R : Check → Check → Prop} {p : Check → Prop}
    (hp : ∀ c other, R c other → (p c ↔ p other)) (h : List.Forall₂ R checks others) :
    (∃ c ∈ checks, p c) ↔ ∃ c ∈ others, p c := by
  induction h with
  | nil => rfl
  | cons hc _ ih => rw [List.exists_mem_cons_iff, List.exists_mem_cons_iff, hp _ _ hc, ih]

theorem chain_of_agreesWith (h : List.Forall₂ (Check.AgreesWith a b attrs) checks others) :
    chain a b attrs flags others = chain a b attrs flags checks := by
  refine BitVec.eq_of_getLsbD_eq fun k _ => Bool.eq_iff_iff.mpr ?_
  rw [getLsbD_chain, getLsbD_chain]
  -- A check and the one that agrees with it are for one attribute, and report it together.
  refine (exists_mem_iff_of_forall₂ (fun c other hc => ?_) h).symm
  rw [← hc.attr]
  exact and_congr_right fun _ => ⟨hc.reported, hc.symm.reported⟩

theorem chain_presence :
    chain a b attrs flags checks &&& ~~~chain a b attrs ⟨flags.bits ||| 1⟩ checks = 0 := by
  rw [and_not_eq_zero_iff]
  intro k hk
  obtain ⟨c, hc, hb, hr⟩ := (getLsbD_chain k).mp hk
  exact (getLsbD_chain k).mpr ⟨c, hc, hb, hr.with_presence⟩

theorem getLsbD_chain_of_requested {more : Mask} {k : Nat} (ha : attrs.getLsbD k = true)
    (hm : more.getLsbD k = true) :
    (chain a b attrs flags checks).getLsbD k = (chain a b more flags checks).getLsbD k := by
  rw [Bool.eq_iff_iff, getLsbD_chain, getLsbD_chain]
  refine exists_congr fun c => and_congr_right fun _ => and_congr_right fun hb => ?_
  exact ⟨fun h => h.of_bit hb hm, fun h => h.of_bit hb ha⟩

theorem chain_and_of_le {more n : Mask} (ha : ∀ k, n.getLsbD k = true → attrs.getLsbD k = true)
    (hm : ∀ k, n.getLsbD k = true → more.getLsbD k = true) :
    chain a b attrs flags checks &&& n = chain a b more flags checks &&& n := by
  refine BitVec.eq_of_getLsbD_eq fun k _ => ?_
  rw [BitVec.getLsbD_and, BitVec.getLsbD_and]
  cases hn : n.getLsbD k with
  | false => rw [Bool.and_false, Bool.and_false]
  | true => rw [getLsbD_chain_of_requested (ha k hn) (hm k hn)]

theorem chain_and_self : chain a b attrs flags checks &&& attrs =
    chain a b (BitVec.allOnes 32) flags checks &&& attrs := by
  refine chain_and_of_le (fun _ h => h) fun k h => ?_
  rw [BitVec.getLsbD_allOnes]
  exact decide_eq_true (BitVec.lt_of_getLsbD h)

end

-- ---------------------------------------------------------------------------
-- Generic comparison
-- ---------------------------------------------------------------------------

section
variable {P : Type} {tables : Catalog P} {o p : Object P} {hook : CompareHook P} {a b : Mask}
  {checks : List Check}

/-- The hook answers for the two objects with a chain of checks, whatever is asked for. -/
def Answers (hook : CompareHook P) (o p : Object P) (a b : Mask) (checks : List Check) : Prop :=
  ∀ attrs flags, hook o p attrs flags = .ok (chain a b attrs flags checks)

theorem compare_of_answers (hs : o.tag = p.tag) (hc : (tables o.tag).compare = some hook)
    (hh : Answers hook o p a b checks) (attrs : Mask) (flags : CompareFlags) :
    Object.compare tables o p attrs flags =
      .ok (chain a b (BitVec.allOnes 32) flags checks &&& attrs) := by
  rw [Object.compare_of_hook hs hc, hh, ← chain_and_self]
  rfl

theorem answers_compareHook [Carries P Family.Record] {f g : Family}
    (ho : o.payload Family.Record = .ok f) (hp : p.payload Family.Record = .ok g) :
    Answers Family.compareHook o p f.mask g.mask
      (Family.Attr.all.map fun a => ⟨a.bit, a.differs f.data g.data⟩) :=
  Family.compareHook_ok ho hp

end

/-- A bit is reported by a chain of checks if a check of an attribute with that bit is asked
for, and both records have the attribute with different values, or exactly one of them
has it and presence is to be reported. Values count only where both have the attribute;
neither the order of the checks nor the order of the records matters; reporting presence
adds to the answer. The bits that were asked for come out as if all had been, so that a
generic comparison answers with a part of the request that restricts to smaller ones. -/
theorem chain_exact {P : Type} (a b attrs : Mask) (flags : CompareFlags) (checks : List Check) :
    (∀ k, (chain a b attrs flags checks).getLsbD k = true ↔
      ∃ c ∈ checks, c.attr.getLsbD k = true ∧ attrs &&& c.attr ≠ 0 ∧
        ((a &&& c.attr ≠ 0 ∧ b &&& c.attr ≠ 0) ∧ c.differs = true ∨
          ¬(a &&& c.attr ≠ 0 ↔ b &&& c.attr ≠ 0) ∧ flags.bits.getLsbD 0 = true)) ∧
    (∀ others, List.Forall₂ (Check.AgreesWith a b attrs) checks others →
      chain a b attrs flags others = chain a b attrs flags checks) ∧
    (∀ others, checks.Perm others →
      chain a b attrs flags others = chain a b attrs flags checks) ∧
    chain b a attrs flags checks = chain a b attrs flags checks ∧
    chain a b attrs flags checks &&& ~~~chain a b attrs ⟨flags.bits ||| 1⟩ checks = 0 ∧
    chain a b attrs flags checks &&& attrs =
      chain a b (BitVec.allOnes 32) flags checks &&& attrs ∧
    ∀ (tables : Catalog P) (o p : Object P) (hook : CompareHook P),
      o.tag = p.tag → (tables o.tag).compare = some hook → Answers hook o p a b checks →
      ∃ diff, Object.compare tables o p attrs flags = .ok diff ∧ diff &&& ~~~attrs = 0 ∧
        diff = chain a b (BitVec.allOnes 32) flags checks &&& attrs ∧
        ∀ n, Object.compare tables o p (attrs &&& n) flags = .ok (diff &&& n) := by
  refine ⟨fun k => ?_, fun _ => chain_of_agreesWith, fun _ => chain_perm, chain_swap,
    chain_presence, chain_and_self, fun tables o p hook hs hc hh => ?_⟩
  · rw [getLsbD_chain]
    simp only [Check.reported_iff]
    exact Iff.rfl
  · refine ⟨_, compare_of_answers hs hc hh attrs flags, ?_, rfl, fun n => ?_⟩
    · rw [and_not_eq_zero_iff]
      intro k hk
      rw [BitVec.getLsbD_and, Bool.and_eq_true] at hk
      exact hk.2
    · rw [compare_of_answers hs hc hh, BitVec.and_assoc]

def jointTable : Table Payload :=
  { Table.bare (Carries.wrap Point.blank) 0 with compare := some (Hook.comparing Point.jointDiff) }

/-- One point has a coordinate and the other a label. The check of both attributes takes
them as present on both sides, and reports the label although it is not asked for;
generic comparison leaves it out. -/
theorem joint_points_compared :
    let p : Attributed Point := Point.setX ⟨0, Point.blank⟩ 7
    let q : Attributed Point := Point.setLabel ⟨0, Point.blank⟩ "a"
    let o : Object Payload := ⟨Object.contentsOf p, ⟨1, "point"⟩⟩
    let r : Object Payload := ⟨Object.contentsOf q, ⟨1, "point"⟩⟩
    Point.jointDiff p q Point.xBit .none = Point.xBit ||| Point.labelBit ∧
      Object.compare (fun _ => jointTable) o r (Point.xBit ||| Point.labelBit) .none =
        .ok (Point.xBit ||| Point.labelBit) ∧
      Object.compare (fun _ => jointTable) o r Point.xBit .none = .ok Point.xBit := by
  intro p q o r
  have h := chain_exact (P := Payload) 1 2 (Point.xBit ||| Point.labelBit) .none [⟨3, true⟩]
  obtain ⟨diff, hd, -, hdiff, hn⟩ :=
    h.2.2.2.2.2.2 (fun _ => jointTable) o r (Hook.comparing Point.jointDiff) rfl rfl fun _ _ => rfl
  have hall : diff = Point.xBit ||| Point.labelBit := hdiff.trans (by decide)
  subst hall
  exact ⟨by decide, hd, hn Point.xBit⟩

end AttrDiff

end GenericNetlink
