import GenericNetlink.Text.CommaList
import GenericNetlink.Text.Inspect
import GenericNetlink.Object.Attributed

/-!
# Command capabilities

What a command of a family can do and requires, as a set of flags. Unknown flags
are kept, but have no name.
-/

namespace GenericNetlink.Family

open Text

inductive Capability
  | adminPerm
  | cmdDo
  | cmdDump
  | cmdHasPolicy
  deriving DecidableEq

namespace Capability

def all : List Capability := [adminPerm, cmdDo, cmdDump, cmdHasPolicy]

def bit : Capability → Mask
  | adminPerm => 1
  | cmdDo => 2
  | cmdDump => 4
  | cmdHasPolicy => 8

def index : Capability → Nat
  | adminPerm => 0
  | cmdDo => 1
  | cmdDump => 2
  | cmdHasPolicy => 3

def label : Capability → String
  | adminPerm => "admin-perm"
  | cmdDo => "has-doit"
  | cmdDump => "has-dump"
  | cmdHasPolicy => "has-policy"

def flagName : Capability → String
  | adminPerm => "ADMIN_PERM"
  | cmdDo => "CMD_CAP_DO"
  | cmdDump => "CMD_CAP_DUMP"
  | cmdHasPolicy => "CMD_CAP_HASPOL"

def knownBits : Mask := 0xf

theorem mem_all (c : Capability) : c ∈ all := by cases c <;> decide

theorem bit_eq (c : Capability) : c.bit = BitVec.twoPow 32 c.index := by cases c <;> decide

theorem knownBits_and_bit (c : Capability) : knownBits &&& c.bit = c.bit := by cases c <;> decide

theorem exists_index_of_known :
    ∀ k < 32, knownBits.getLsbD k = true → ∃ c ∈ all, c.index = k := by decide

theorem label_injective {a b : Capability} (h : a.label = b.label) : a = b := by
  revert h
  cases a <;> cases b <;> decide

theorem isItem_label (c : Capability) : IsItem c.label := by cases c <;> decide

end Capability

structure OpFlags where
  bits : Mask
  deriving DecidableEq

namespace OpFlags

def contains (flags : OpFlags) (c : Capability) : Bool := flags.bits &&& c.bit == c.bit

def isEmpty (flags : OpFlags) : Bool := flags.bits == 0

def capabilities (flags : OpFlags) : List Capability := Capability.all.filter flags.contains

def names (flags : OpFlags) : String := ",".intercalate (flags.capabilities.map (·.label))

def truncate (flags : OpFlags) : OpFlags := ⟨flags.bits &&& Capability.knownBits⟩

def isKnown (flags : OpFlags) : Bool := flags.truncate == flags

private def unknownPart (flags : OpFlags) : List String :=
  let rest := flags.bits &&& ~~~Capability.knownBits
  if rest = 0 then [] else [hex rest.toNat]

instance : Inspect OpFlags where
  shown flags :=
    let parts := flags.capabilities.map (·.flagName) ++ flags.unknownPart
    .wrapped "GenlOpFlags"
      (.bare (if flags.isEmpty then hex 0 else " | ".intercalate parts))

theorem contains_eq (flags : OpFlags) (c : Capability) :
    flags.contains c = flags.bits.getLsbD c.index := by
  rw [contains, c.bit_eq, BitVec.and_twoPow]
  cases flags.bits.getLsbD c.index with
  | true => simp
  | false => cases c <;> decide

theorem mem_capabilities (flags : OpFlags) (c : Capability) :
    c ∈ flags.capabilities ↔ flags.contains c = true := by
  simp [capabilities, c.mem_all]

@[simp] theorem contains_truncate (flags : OpFlags) (c : Capability) :
    flags.truncate.contains c = flags.contains c := by
  rw [contains, contains, truncate, BitVec.and_assoc, c.knownBits_and_bit]

@[simp] theorem names_truncate (flags : OpFlags) : flags.truncate.names = flags.names := by
  have h : flags.truncate.contains = flags.contains := funext flags.contains_truncate
  rw [names, names, capabilities, capabilities, h]

theorem truncate_eq_iff {flags other : OpFlags} :
    flags.truncate = other.truncate ↔ ∀ c, flags.contains c = other.contains c := by
  constructor
  · intro h c
    rw [← contains_truncate, h, contains_truncate]
  · intro h
    refine congrArg OpFlags.mk (BitVec.eq_of_getLsbD_eq fun k hk => ?_)
    rw [BitVec.getLsbD_and, BitVec.getLsbD_and]
    cases hb : Capability.knownBits.getLsbD k with
    | false => rw [Bool.and_false, Bool.and_false]
    | true =>
      obtain ⟨c, -, rfl⟩ := Capability.exists_index_of_known k hk hb
      rw [← contains_eq, ← contains_eq, h]

/-- The names tell the known flags, and nothing about the others. -/
theorem names_eq_iff {flags other : OpFlags} :
    flags.names = other.names ↔ flags.truncate = other.truncate := by
  constructor
  · intro h
    have hitems : ∀ f : OpFlags, ∀ item ∈ f.capabilities.map (·.label), IsItem item := by
      intro f item hitem
      obtain ⟨c, -, rfl⟩ := List.mem_map.mp hitem
      exact c.isItem_label
    have hlabels := eq_of_intercalate_eq (hitems flags) (hitems other) h
    have hcaps : flags.capabilities = other.capabilities :=
      (List.map_inj_right fun _ _ => Capability.label_injective).mp hlabels
    refine truncate_eq_iff.mpr fun c => Bool.eq_iff_iff.mpr ?_
    rw [← mem_capabilities, hcaps, mem_capabilities]
  · intro h
    rw [← names_truncate, h, names_truncate]

example : (⟨6⟩ : OpFlags).names = "has-doit,has-dump" := by decide
example : inspect (⟨0x11⟩ : OpFlags) = "GenlOpFlags(ADMIN_PERM | 0x10)" := by decide

end OpFlags

end GenericNetlink.Family
