import GenericNetlink.Object.AttrDiff
import GenericNetlink.Object.Basic
import GenericNetlink.Object.Dumper

/-!
# Operations tables

What generic code can do with the objects of a type is decided by the hooks in
the table of the type. A hook that works on one kind of payload is built from a
function on attributed records of that kind, and gives up on other payloads.
-/

namespace GenericNetlink

open Text

/-- Makes an object, given the constructor and the type of the table. -/
abbrev AllocHook (P : Type) := Option (Attributed P → Attributed P) → TypeTag → Object P

/-- Copies a source into a destination of the same type. The destination comes
back as the hook leaves it, also if it gives up. -/
abbrev CloneHook (P : Type) := (dst src : Object P) → Except Fault Unit × Attributed P

abbrev CompareHook (P : Type) := (a b : Object P) → Mask → CompareFlags → Except Fault Mask

abbrev DumpHook (P : Type) := Object P → Dumper → Except Fault Unit × Dumper

/-- What generic code can do with the objects of a type. An operation without a
hook is missing, unless its field says otherwise. -/
structure Table (P : Type) where
  alloc : AllocHook P
  payloadSize : Nat
  construct : Option (Attributed P → Attributed P)
  observesRelease : Bool
  clone : Option (CloneHook P)
  line : Option (DumpHook P)
  details : Option (DumpHook P)
  /-- Details stand in for missing statistics. -/
  stats : Option (DumpHook P)
  compare : Option (CompareHook P)
  attrNames : Option (Mask → String)
  idAttrs : Mask

abbrev Catalog (P : Type) := TypeTag → Table P

namespace Table

variable {P : Type}

def bare (blank : P) (payloadSize : Nat) : Table P where
  alloc := .fresh blank
  payloadSize
  construct := none
  observesRelease := false
  clone := none
  line := none
  details := none
  stats := none
  compare := none
  attrNames := none
  idAttrs := 0

def dumpHook (t : Table P) : Verbosity → Option (DumpHook P)
  | .line => t.line
  | .details => t.details
  | .stats => t.stats <|> t.details

def showAttrs (t : Table P) (mask : Mask) : String :=
  match t.attrNames with
  | some names => names mask
  | none => hex mask.toNat

def shown (t : Table P) (tag : TypeTag) : Shown :=
  .record "ObjectOps"
    [("name", .quoted tag.name), ("size", .nat t.payloadSize),
      ("id_attrs", .bare (hex t.idAttrs.toNat))] false

end Table

-- ---------------------------------------------------------------------------
-- Hooks for one kind of payload
-- ---------------------------------------------------------------------------

namespace Hook

variable {P : Type}

def copying (α : Type) [Carries P α] : CloneHook P := fun dst src =>
  match src.payload α with
  | .error fault => (.error fault, dst.toAttributed)
  | .ok contents =>
    match dst.payload α with
    | .error fault => (.error fault, dst.toAttributed)
    | .ok _ => (.ok (), Object.contentsOf contents)

def copyingNothing : CloneHook P := fun dst _ => (.ok (), dst.toAttributed)

def comparing {α : Type} [Carries P α]
    (compare : (a b : Attributed α) → Mask → CompareFlags → Mask) : CompareHook P :=
  fun a b attrs flags => do
    let x ← a.payload α
    let y ← b.payload α
    return compare x y attrs flags

def differingAlways : CompareHook P := fun _ _ _ _ => .ok (BitVec.allOnes 32)

def dumping {α : Type} [Carries P α] (write : Attributed α → Dumper → Dumper) : DumpHook P :=
  fun o d =>
    match o.payload α with
    | .error fault => (.error fault, d)
    | .ok a => (.ok (), write a d)

end Hook

end GenericNetlink
