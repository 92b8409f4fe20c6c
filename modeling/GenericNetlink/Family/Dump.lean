import GenericNetlink.Family.Basic
import GenericNetlink.Object.Dumper

/-!
# Dumping families

The line level is one line: id, name and version. The details add a line of
sizes, then one per command and one per multicast group. Absent attributes leave
no trace. Families have no statistics, so the third level repeats the second.
-/

namespace GenericNetlink.Family

open Text

def summary (f : Family) : String :=
  " ".intercalate <| [
    f.id?.map fun id => hexNumeral 4 id.toNat,
    f.name?,
    f.version?.map fun version => "version " ++ decimal version.toNat
  ].filterMap fun part => part

def sizes (f : Family) : List String :=
  [
    f.hdrsize?.map fun hdrsize => "hdrsize " ++ decimal hdrsize.toNat,
    f.maxattr?.map fun maxattr => "maxattr " ++ decimal maxattr.toNat
  ].filterMap fun part => part

def writeLine (f : Family) (d : Dumper) : Dumper := d.startLine (f.summary ++ "\n")

def writeSizes (f : Family) (d : Dumper) : Dumper :=
  match f.sizes with
  | [] => d
  | sizes => d.startLine ("    " ++ " ".intercalate sizes ++ "\n")

def writeOp (d : Dumper) (op : Op) : Dumper :=
  let d := d.startLine ("      op " ++ hexNumeral 2 op.id.toNat)
  let d := if op.flags.isEmpty then d else d.append (" <" ++ op.flags.names ++ ">")
  d.append "\n"

def writeGroup (d : Dumper) (group : Group) : Dumper :=
  d.startLine ("      grp " ++ group.name ++ " (" ++ hexNumeral 2 group.id.toNat ++ ")\n")

def writeDetails (f : Family) (d : Dumper) : Dumper :=
  let d := f.writeSizes (f.writeLine d)
  let d := f.ops.foldl writeOp d
  f.groups.foldl writeGroup d

/-- Write a family at a level, whatever the level of the dumper. -/
def write (f : Family) : Verbosity → Dumper → Dumper
  | .line, d => f.writeLine d
  | .details, d | .stats, d => f.writeDetails d

def dump (f : Family) (verbosity : Verbosity) : String := (f.write verbosity (.new verbosity)).text

example : ((((empty.setName "nlctrl").setMaxattr 10).addOp 3 ⟨6⟩).addGroup 0x10 "notify").dump
      .details =
    "nlctrl\n    maxattr 10\n      op 0x03 <has-doit,has-dump>\n      grp notify (0x10)\n" := by
  decide

end GenericNetlink.Family
