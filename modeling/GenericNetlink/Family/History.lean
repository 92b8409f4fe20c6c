import GenericNetlink.Family.Basic

/-!
# Histories of a family

The calls that change a family: setters, appending to its lists, and what generic code
does to any attributed record.
-/

namespace GenericNetlink.Family

inductive Call
  | setId (id : UInt32)
  | setName (name : String)
  | setVersion (version : UInt32)
  | setHdrsize (hdrsize : UInt32)
  | setMaxattr (maxattr : UInt32)
  | addGroup (id : UInt32) (name : String)
  | addOp (id : UInt32) (flags : OpFlags)
  | unset (attrs : Mask)
  /-- Mark attributes present and store nothing. -/
  | mark (attrs : Mask)
  | resetData
  | copyFrom (source : Family)
  deriving DecidableEq

def perform (f : Family) : Call → Family
  | .setId id => f.setId id
  | .setName name => f.setName name
  | .setVersion version => f.setVersion version
  | .setHdrsize hdrsize => f.setHdrsize hdrsize
  | .setMaxattr maxattr => f.setMaxattr maxattr
  | .addGroup id name => f.addGroup id name
  | .addOp id flags => f.addOp id flags
  | .unset attrs => Attributed.unset f attrs
  | .mark attrs => f.set attrs fun r => r
  | .resetData => f.resetData
  | .copyFrom source => source

def run (f : Family) (calls : List Call) : Family := calls.foldl perform f

end GenericNetlink.Family
