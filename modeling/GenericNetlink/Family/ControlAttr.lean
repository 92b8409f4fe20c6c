/-!
# Attributes of the control family

The numbers under which the control family describes a family on the wire: the
attributes of the description, those of one command, and those of one multicast
group. Also the numbers that are fixed for families themselves.
-/

namespace GenericNetlink.Family

/-- The id that asks the kernel to choose one. -/
def generateId : Nat := 0

def controlId : Nat := 0x10

/-- The longest name, its terminator included. Names are not checked against it here. -/
def maxNameSize : Nat := 16

inductive ControlAttr
  | unspec
  | familyId
  | familyName
  | version
  | hdrSize
  | maxAttr
  | ops
  | mcastGroups
  | policy
  | opPolicy
  | op
  deriving DecidableEq

namespace ControlAttr

def number : ControlAttr → Nat
  | unspec => 0
  | familyId => 1
  | familyName => 2
  | version => 3
  | hdrSize => 4
  | maxAttr => 5
  | ops => 6
  | mcastGroups => 7
  | policy => 8
  | opPolicy => 9
  | op => 10

def name : ControlAttr → String
  | unspec => "Unspec"
  | familyId => "FamilyId"
  | familyName => "FamilyName"
  | version => "Version"
  | hdrSize => "HdrSize"
  | maxAttr => "MaxAttr"
  | ops => "Ops"
  | mcastGroups => "McastGroups"
  | policy => "Policy"
  | opPolicy => "OpPolicy"
  | op => "Op"

theorem number_injective {a b : ControlAttr} (h : a.number = b.number) : a = b := by
  cases a <;> cases b <;> first | rfl | cases h

theorem sorted_mergeSort (attrs : List ControlAttr) :
    (attrs.mergeSort fun a b => a.number ≤ b.number).Pairwise (·.number ≤ ·.number) := by
  have h : (attrs.mergeSort fun a b => a.number ≤ b.number).Pairwise
      fun a b => decide (a.number ≤ b.number) = true :=
    List.pairwise_mergeSort (by simp only [decide_eq_true_eq]; omega)
      (by simp only [Bool.or_eq_true, decide_eq_true_eq]; omega) attrs
  simpa only [decide_eq_true_eq] using h

end ControlAttr

inductive CommandAttr
  | unspec
  | id
  | flags
  deriving DecidableEq

def CommandAttr.number : CommandAttr → Nat
  | unspec => 0
  | id => 1
  | flags => 2

inductive GroupAttr
  | unspec
  | name
  | id
  deriving DecidableEq

def GroupAttr.number : GroupAttr → Nat
  | unspec => 0
  | name => 1
  | id => 2

end GenericNetlink.Family
