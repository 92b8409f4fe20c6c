import GenericNetlink.Family.Basic
import GenericNetlink.Object.AttrDiff

/-!
# Comparing families

The attributes of two families whose stored values differ, among those asked
for. Commands and groups are compared as ordered lists.
-/

namespace GenericNetlink.Family

def Attr.differs (a : Attr) (x y : Record) : Bool :=
  match a with
  | .id => x.id != y.id
  | .name => x.name != y.name
  | .version => x.version != y.version
  | .hdrsize => x.hdrsize != y.hdrsize
  | .maxattr => x.maxattr != y.maxattr
  | .groups => x.groups != y.groups
  | .ops => x.ops != y.ops

def diff (f g : Family) (attrs : Mask) (flags : CompareFlags) : Mask :=
  (Attr.all.foldl (fun d a => d.check a.bit (a.differs f.data g.data))
    (AttrDiff.start f.mask g.mask attrs flags)).finish

theorem Attr.differs_self (a : Attr) (x : Record) : a.differs x x = false := by
  cases a <;> simp [Attr.differs]

theorem Attr.differs_comm (a : Attr) (x y : Record) : a.differs x y = a.differs y x := by
  cases a <;> simp [Attr.differs, bne, Bool.beq_comm]

theorem reports_start (f g : Family) (attrs : Mask) (flags : CompareFlags) (a : Attr)
    (differs : Bool) :
    (AttrDiff.start f.mask g.mask attrs flags).reports a.bit differs =
      (attrs.getLsbD a.index &&
        ((f.mask.getLsbD a.index && g.mask.getLsbD a.index && differs) ||
          (f.mask.getLsbD a.index != g.mask.getLsbD a.index) && flags.reportsPresence)) := by
  simp only [AttrDiff.reports, AttrDiff.comparesValues, AttrDiff.reportsOneSided, AttrDiff.start,
    Attr.and_bit_ne_zero]
  cases attrs.getLsbD a.index <;> simp

/-- An attribute is reported if it is asked for and its values differ, or one
family has it and this is to be reported. -/
theorem getLsbD_diff_index (f g : Family) (attrs : Mask) (flags : CompareFlags) (a : Attr) :
    (f.diff g attrs flags).getLsbD a.index =
      (attrs.getLsbD a.index &&
        ((f.mask.getLsbD a.index && g.mask.getLsbD a.index && a.differs f.data g.data) ||
          (f.mask.getLsbD a.index != g.mask.getLsbD a.index) && flags.reportsPresence)) := by
  rw [diff, AttrDiff.finish, AttrDiff.getLsbD_foldl_check]
  simp only [Attr.getLsbD_bit, Attr.any_and_index, reports_start]
  simp [AttrDiff.start]

theorem getLsbD_diff_unknown (f g : Family) (attrs : Mask) (flags : CompareFlags) {k : Nat}
    (h : Attr.Unknown k) : (f.diff g attrs flags).getLsbD k = false := by
  rw [diff, AttrDiff.finish, AttrDiff.getLsbD_foldl_check]
  simp only [Attr.getLsbD_bit, Attr.any_and_unknown _ h]
  simp [AttrDiff.start]

theorem diff_comm (f g : Family) (attrs : Mask) (flags : CompareFlags) :
    f.diff g attrs flags = g.diff f attrs flags := by
  refine Attr.mask_ext (fun a => ?_) fun k hk => ?_
  · rw [getLsbD_diff_index, getLsbD_diff_index, a.differs_comm, bne_comm,
      Bool.and_comm (f.mask.getLsbD a.index)]
  · rw [getLsbD_diff_unknown _ _ _ _ hk, getLsbD_diff_unknown _ _ _ _ hk]

theorem diff_self (f : Family) (attrs : Mask) (flags : CompareFlags) :
    f.diff f attrs flags = 0 := by
  refine Attr.mask_ext (fun a => ?_) fun k hk => ?_
  · simp [getLsbD_diff_index, a.differs_self]
  · simp [getLsbD_diff_unknown _ _ _ _ hk]

example : ((empty.setVersion 1).setId 3).diff ((empty.setVersion 2).setId 3)
    (BitVec.allOnes 32) .none = Attr.version.bit := by decide

end GenericNetlink.Family
