import GenericNetlink.Layout.FixedStruct

/-!
# Process credentials

The credentials of a sending process: process, user and group id, kept as a
structure of three 32-bit words so that they can be edited in place. Two plain
forms stand beside it: the wire form, and the system's form with a signed
process id.
-/

namespace GenericNetlink

open Text

structure RawUcred where
  pid : UInt32
  uid : UInt32
  gid : UInt32
  deriving DecidableEq

structure SystemUcred where
  pid : Int32
  uid : UInt32
  gid : UInt32
  deriving DecidableEq

namespace RawUcred

def size : Nat := 12

def bytes (raw : RawUcred) : Bytes :=
  littleEndian 4 raw.pid.toNat ++ littleEndian 4 raw.uid.toNat ++ littleEndian 4 raw.gid.toNat

private def wordAt (data : Bytes) (offset : Nat) : UInt32 :=
  UInt32.ofNat (ofLittleEndian (data.slice offset (offset + 4)))

def ofPrefix? (data : Bytes) : Option RawUcred :=
  if data.length < size then none
  else some ⟨wordAt data 0, wordAt data 4, wordAt data 8⟩

private theorem littleEndian_wordAt {data : Bytes} {offset : Nat} (h : offset + 4 ≤ data.length) :
    littleEndian 4 (wordAt data offset).toNat = data.slice offset (offset + 4) := by
  have hl : (data.slice offset (offset + 4)).length = 4 := by
    rw [Bytes.length_slice]
    omega
  have hb := littleEndian_ofLittleEndian (data.slice offset (offset + 4))
  rwa [hl, ← toNat_ofLittleEndian hl] at hb

theorem ofPrefix?_cases (data : Bytes) :
    (data.length < size ∧ ofPrefix? data = none) ∨
    (size ≤ data.length ∧ ∃ raw, ofPrefix? data = some raw ∧ raw.bytes = data.take size) := by
  by_cases h : data.length < size
  · exact .inl ⟨h, if_pos h⟩
  · have hs : 12 ≤ data.length := Nat.not_lt.mp h
    refine .inr ⟨hs, _, if_neg h, ?_⟩
    calc littleEndian 4 (wordAt data 0).toNat ++ littleEndian 4 (wordAt data 4).toNat ++
          littleEndian 4 (wordAt data 8).toNat
        = data.slice 0 4 ++ data.slice 4 8 ++ data.slice 8 12 := by
          rw [littleEndian_wordAt, littleEndian_wordAt, littleEndian_wordAt] <;> omega
      _ = data.slice 0 12 := by
          rw [Bytes.slice_append_slice, Bytes.slice_append_slice] <;> omega

instance : Inspect RawUcred where
  shown raw := .record "RawUcred"
    [("pid", .nat raw.pid.toNat), ("uid", .nat raw.uid.toNat), ("gid", .nat raw.gid.toNat)] true

end RawUcred

/-- Credentials in their in-memory layout. -/
structure Ucred where
  fields : FixedStruct
  widths_fields : fields.widths = [SizeOf.u32, SizeOf.u32, SizeOf.u32]
  deriving DecidableEq

namespace Ucred

@[ext] theorem ext {c d : Ucred} (h : c.fields = d.fields) : c = d := by
  cases c; cases d; simp_all

def zero : Ucred where
  fields := (FixedStruct.zeroed [SizeOf.u32, SizeOf.u32, SizeOf.u32]).toOption.get rfl
  widths_fields := rfl

def apply (c : Ucred) (edit : FixedStruct.Edit) : Except Fault Unit × Ucred :=
  let result := c.fields.apply edit
  (result.1, ⟨result.2, (c.fields.widths_apply edit).trans c.widths_fields⟩)

def id (c : Ucred) (i : Nat) : UInt32 :=
  match c.fields.read .u32 i with
  | .ok n => UInt32.ofNat n.toNat
  | .error _ => 0

def setId (c : Ucred) (i : Nat) (value : UInt32) : Ucred :=
  (c.apply (.write .u32 i value.toNat)).2

def pid (c : Ucred) : UInt32 := c.id 0
def uid (c : Ucred) : UInt32 := c.id 1
def gid (c : Ucred) : UInt32 := c.id 2

def setPid (c : Ucred) (value : UInt32) : Ucred := c.setId 0 value
def setUid (c : Ucred) (value : UInt32) : Ucred := c.setId 1 value
def setGid (c : Ucred) (value : UInt32) : Ucred := c.setId 2 value

def bytes (c : Ucred) : Bytes := c.fields.bytes

def isEmpty (c : Ucred) : Bool := c.fields.isEmpty

def ofIds (pid uid gid : UInt32) : Ucred := ((zero.setPid pid).setUid uid).setGid gid

def ofRaw (raw : RawUcred) : Ucred := ofIds raw.pid raw.uid raw.gid

def toRaw (c : Ucred) : RawUcred := ⟨c.pid, c.uid, c.gid⟩

/-- The signed process id is taken as the word with the same bits. -/
def ofSystem (cred : SystemUcred) : Ucred := ofIds cred.pid.toUInt32 cred.uid cred.gid

def toSystem (c : Ucred) : SystemUcred := ⟨c.pid.toInt32, c.uid, c.gid⟩

def decode (data : Bytes) : Except Fault Ucred :=
  match RawUcred.ofPrefix? data with
  | some raw => .ok (ofRaw raw)
  | none => .error (.truncated RawUcred.size data.length)

def display (c : Ucred) : String :=
  "pid=" ++ decimal c.pid.toNat ++ " uid=" ++ decimal c.uid.toNat ++
    " gid=" ++ decimal c.gid.toNat

instance : Inspect Ucred where
  shown c := .record "Ucred"
    [("pid", .nat c.pid.toNat), ("uid", .nat c.uid.toNat), ("gid", .nat c.gid.toNat)] true

theorem length_bytes (c : Ucred) : c.bytes.length = RawUcred.size := by
  rw [bytes, c.fields.length_bytes, c.widths_fields]
  rfl

example : (ofIds 5 6 7).display = "pid=5 uid=6 gid=7" := by decide +kernel
example : (ofSystem ⟨-1, 0, 0⟩).pid = 0xffffffff := by decide +kernel

end Ucred

end GenericNetlink
