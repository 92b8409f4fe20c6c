import GenericNetlink.Proofs.Credentials.RawEdits

/-!
# Forms of credentials

Credentials are determined by their three ids, and as well by their twelve bytes. So the
wire form and the system's form stand for the same thing, whichever way they are
converted, and decoding credentials is decoding the structure underneath.
-/

namespace GenericNetlink.Ucred

theorem toRaw_ofIds (pid uid gid : UInt32) : (ofIds pid uid gid).toRaw = ⟨pid, uid, gid⟩ := by
  let c := zero.setId 0 pid
  let d := c.setId 1 uid
  -- Each id is read back past the setters that came after its own.
  have hp : (ofIds pid uid gid).pid = pid := by
    calc (d.setId 2 gid).id 0 = d.id 0 := d.id_setId_of_ne (i := 2) (j := 0) gid (by decide)
      _ = c.id 0 := c.id_setId_of_ne (i := 1) (j := 0) uid (by decide)
      _ = pid := zero.id_setId_self 0 pid
  have hu : (ofIds pid uid gid).uid = uid := by
    calc (d.setId 2 gid).id 1 = d.id 1 := d.id_setId_of_ne (i := 2) (j := 1) gid (by decide)
      _ = uid := c.id_setId_self 1 uid
  have hg : (ofIds pid uid gid).gid = gid := d.id_setId_self 2 gid
  rw [toRaw, hp, hu, hg]

theorem toRaw_ofRaw (raw : RawUcred) : (ofRaw raw).toRaw = raw :=
  toRaw_ofIds raw.pid raw.uid raw.gid

theorem bytes_ofRaw (raw : RawUcred) : (ofRaw raw).bytes = raw.bytes := by
  rw [← bytes_toRaw, toRaw_ofRaw]

variable {c d : Ucred}

theorem eq_of_bytes (h : c.bytes = d.bytes) : c = d :=
  Ucred.ext (FixedStruct.ext (c.widths_fields.trans d.widths_fields.symm) h)

theorem eq_iff_bytes : c = d ↔ c.bytes = d.bytes := ⟨congrArg bytes, eq_of_bytes⟩

theorem ofRaw_toRaw (c : Ucred) : ofRaw c.toRaw = c :=
  eq_of_bytes (by rw [bytes_ofRaw, bytes_toRaw])

theorem eq_iff_ids : c = d ↔ c.pid = d.pid ∧ c.uid = d.uid ∧ c.gid = d.gid := by
  constructor
  · rintro rfl
    exact ⟨rfl, rfl, rfl⟩
  · rintro ⟨hp, hu, hg⟩
    rw [← c.ofRaw_toRaw, ← d.ofRaw_toRaw, toRaw, hp, hu, hg, ← toRaw]

theorem ofSystem_toSystem (c : Ucred) : ofSystem c.toSystem = c := by
  rw [ofSystem, toSystem, UInt32.toUInt32_toInt32]
  exact c.ofRaw_toRaw

theorem toSystem_ofSystem (cred : SystemUcred) : (ofSystem cred).toSystem = cred := by
  have h := toRaw_ofIds cred.pid.toUInt32 cred.uid cred.gid
  obtain ⟨hp, hu, hg⟩ := (RawUcred.mk.injEq ..).mp h
  simp [ofSystem, toSystem, hp, hu, hg]

theorem toInt_pid_toSystem (c : Ucred) :
    c.toSystem.pid.toInt = IntType.i32.decode (c.bytes.slice 0 4) := by
  have hp : c.pid.toNat = ofLittleEndian (c.bytes.slice 0 4) := c.toNat_id 0
  have hm : 2 ^ 32 = IntType.i32.modulus := rfl
  show c.pid.toInt32.toBitVec.toInt = _
  rw [UInt32.toBitVec_toInt32, BitVec.toInt_eq_toNat_bmod, UInt32.toNat_toBitVec, hp, hm,
    IntType.decode, if_pos (by rfl)]

theorem decode_cases (data : Bytes) :
    (data.length < 12 ∧ decode data = .error (.truncated 12 data.length)) ∨
    (12 ≤ data.length ∧ ∃ c, decode data = .ok c ∧ c.bytes = data.take 12) := by
  obtain ⟨hl, h⟩ | ⟨hl, raw, h, hb⟩ := RawUcred.ofPrefix?_cases data
  · exact .inl ⟨hl, by rw [decode, h]; rfl⟩
  · exact .inr ⟨hl, ofRaw raw, by rw [decode, h], (bytes_ofRaw raw).trans hb⟩

theorem decode_fields (data : Bytes) :
    ((decode data).map fields).mapError .refused = FixedStruct.decode [4, 4, 4] data := by
  have hsum : totalWidth [4, 4, 4] < UInt64.size := by decide
  obtain ⟨hl, h⟩ | ⟨hl, c, h, hb⟩ := decode_cases data <;>
    obtain ⟨hl', h'⟩ | ⟨hl', s, hw, hs, h'⟩ := FixedStruct.decode_of_lt hsum data
  · rw [h, h']
    rfl
  · exact absurd hl (Nat.not_lt.mpr hl')
  · exact absurd hl' (Nat.not_lt.mpr hl)
  · have hf : c.fields = s := FixedStruct.ext (c.widths_fields.trans hw.symm) (hb.trans hs.symm)
    rw [h, h', ← hf]
    rfl

theorem decode_bytes_append (c : Ucred) (rest : Bytes) : decode (c.bytes ++ rest) = .ok c := by
  have hc : c.bytes.length = 12 := c.length_bytes
  obtain ⟨hl, -⟩ | ⟨-, d, h, hb⟩ := decode_cases (c.bytes ++ rest)
  · rw [List.length_append] at hl
    omega
  · rw [← hc, List.take_left] at hb
    rw [h, eq_of_bytes hb]

/-- Credentials, their bytes, their wire form and their system form are one to one.
Decoding credentials and decoding a structure of three words do the same: both need
twelve bytes, take those at the head, and ignore what follows. Conversions to either form
and back change nothing, in whichever form one begins; the system's process id is the
same word read as a signed one. Ids decide equality, and so do bytes. -/
theorem forms_one_to_one :
    (∀ data : Bytes,
      ((decode data).map fields).mapError .refused = FixedStruct.decode [4, 4, 4] data ∧
      (data.length < 12 →
        decode data = .error (.truncated 12 data.length) ∧
        FixedStruct.decode [4, 4, 4] data = .error (.refused (.truncated 12 data.length))) ∧
      (12 ≤ data.length → ∃ c, decode data = .ok c ∧
        FixedStruct.decode [4, 4, 4] data = .ok c.fields ∧ c.bytes = data.take 12)) ∧
    (∀ (c : Ucred) (rest : Bytes), decode (c.bytes ++ rest) = .ok c) ∧
    (∀ c : Ucred, ofRaw c.toRaw = c ∧ ofSystem c.toSystem = c ∧ c.toRaw.bytes = c.bytes ∧
      c.toSystem.pid.toInt = IntType.i32.decode (c.bytes.slice 0 4)) ∧
    (∀ raw : RawUcred, (ofRaw raw).toRaw = raw) ∧
    (∀ cred : SystemUcred, (ofSystem cred).toSystem = cred) ∧
    ∀ c d : Ucred,
      (c = d ↔ c.pid = d.pid ∧ c.uid = d.uid ∧ c.gid = d.gid) ∧ (c = d ↔ c.bytes = d.bytes) := by
  refine ⟨fun data => ⟨decode_fields data, ?_, ?_⟩, decode_bytes_append, fun c =>
    ⟨c.ofRaw_toRaw, c.ofSystem_toSystem, c.bytes_toRaw, c.toInt_pid_toSystem⟩, toRaw_ofRaw,
    toSystem_ofSystem, fun c d => ⟨eq_iff_ids, eq_iff_bytes⟩⟩
  · intro hlt
    obtain ⟨-, h⟩ | ⟨hl, -⟩ := decode_cases data
    · rw [← decode_fields, h]
      exact ⟨rfl, rfl⟩
    · exact absurd hlt (Nat.not_lt.mpr hl)
  · intro hle
    obtain ⟨hl, -⟩ | ⟨-, c, h, hb⟩ := decode_cases data
    · exact absurd hl (Nat.not_lt.mpr hle)
    · refine ⟨c, h, ?_, hb⟩
      rw [← decode_fields, h]
      rfl

end GenericNetlink.Ucred
