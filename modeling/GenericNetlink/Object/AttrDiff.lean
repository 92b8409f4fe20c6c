import GenericNetlink.Object.Attributed

/-!
# Attribute differences

Comparing two records attribute by attribute. Only requested attributes are
looked at. Values are compared where both records have the attribute; where one
has it, the outcome is a matter of policy.
-/

namespace GenericNetlink

/-- Options of a comparison. Only the lowest bit has a meaning. -/
structure CompareFlags where
  bits : Mask
  deriving DecidableEq

namespace CompareFlags

def none : CompareFlags := ⟨0⟩

/-- Report attributes that are present on one side only. -/
def presence : CompareFlags := ⟨1⟩

def reportsPresence (flags : CompareFlags) : Bool := flags.bits.getLsbD 0

end CompareFlags

structure AttrDiff where
  a : Mask
  b : Mask
  attrs : Mask
  flags : CompareFlags
  diff : Mask
  deriving DecidableEq

namespace AttrDiff

def start (a b attrs : Mask) (flags : CompareFlags) : AttrDiff := ⟨a, b, attrs, flags, 0⟩

def comparesValues (d : AttrDiff) (attr : Mask) : Bool :=
  d.attrs &&& attr != 0 && (d.a &&& attr != 0 && d.b &&& attr != 0)

def reportsOneSided (d : AttrDiff) (attr : Mask) : Bool :=
  d.attrs &&& attr != 0 && (d.a &&& attr != 0) != (d.b &&& attr != 0) && d.flags.reportsPresence

def reports (d : AttrDiff) (attr : Mask) (differs : Bool) : Bool :=
  (d.comparesValues attr && differs) || d.reportsOneSided attr

def check (d : AttrDiff) (attr : Mask) (differs : Bool) : AttrDiff :=
  if d.reports attr differs then { d with diff := d.diff ||| attr } else d

def finish (d : AttrDiff) : Mask := d.diff

theorem reports_check (d : AttrDiff) (attr other : Mask) (differs otherDiffers : Bool) :
    (d.check attr differs).reports other otherDiffers = d.reports other otherDiffers := by
  unfold check
  split <;> rfl

theorem getLsbD_check (d : AttrDiff) (attr : Mask) (differs : Bool) (k : Nat) :
    (d.check attr differs).diff.getLsbD k =
      (d.diff.getLsbD k || (d.reports attr differs && attr.getLsbD k)) := by
  unfold check
  split <;> rename_i h <;> simp [h]

/-- A bit is reported by a chain of checks if one of them reports an attribute with it. -/
theorem getLsbD_foldl_check {ι : Type} (attr : ι → Mask) (differs : ι → Bool) (k : Nat)
    (checks : List ι) (d : AttrDiff) :
    (checks.foldl (fun d i => d.check (attr i) (differs i)) d).diff.getLsbD k =
      (d.diff.getLsbD k || checks.any fun i => d.reports (attr i) (differs i) &&
        (attr i).getLsbD k) := by
  induction checks generalizing d with
  | nil => simp
  | cons i rest ih =>
    rw [List.foldl_cons, ih, getLsbD_check, List.any_cons, Bool.or_assoc]
    simp only [reports_check]

example : ((((start 3 3 7 .none).check 1 false).check 2 true).check 4 true).finish = 2 := by decide
example : ((start 1 0 1 .none).check 1 true).finish = 0 ∧
    ((start 1 0 1 .presence).check 1 false).finish = 1 := by decide

end AttrDiff

end GenericNetlink
