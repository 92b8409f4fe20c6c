import GenericNetlink.Family.Diff
import GenericNetlink.Family.Dump
import GenericNetlink.Object.Generic

/-!
# The table of families

The hooks by which generic code handles families, and the table made of them.
-/

namespace GenericNetlink.Family

open Text

/-- The names of the attributes in a mask, separated by commas; the bits of no
attribute follow as one number. -/
def attrNames (mask : Mask) : String :=
  let known := (Attr.all.filter fun a => mask &&& a.bit != 0).map (·.label)
  let rest := mask &&& ~~~Attr.knownBits
  ",".intercalate (known ++ if rest = 0 then [] else [hex rest.toNat])

def tag : TypeTag := ⟨0, "genl/family"⟩

def recordSize : Nat := 88

variable {P : Type} [Carries P Record]

def dumpHook (verbosity : Verbosity) : DumpHook P :=
  Hook.dumping fun f d => Family.write f verbosity d

def compareHook : CompareHook P := Hook.comparing Family.diff

def cloneHook : CloneHook P := Hook.copying Record

/-- Families have all hooks but those of construction and release, and are
identified by their id. -/
def table : Table P where
  alloc := .fresh (Carries.wrap Record.blank)
  payloadSize := recordSize
  construct := none
  observesRelease := false
  clone := some cloneHook
  line := some (dumpHook .line)
  details := some (dumpHook .details)
  stats := some (dumpHook .stats)
  compare := some compareHook
  attrNames := some attrNames
  idAttrs := Attr.id.bit

def newObject : Object P := ⟨Object.contentsOf empty, tag⟩

def toObject (f : Family) : Object P := newObject.withContents (Object.contentsOf f)

@[simp] theorem payload_toObject (f : Family) : (f.toObject : Object P).payload Record = .ok f :=
  newObject.payload_withContents f

example : attrNames 0x102 = "name,0x100" ∧ attrNames 0 = "" := by decide

end GenericNetlink.Family
