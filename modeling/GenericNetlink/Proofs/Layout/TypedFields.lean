import GenericNetlink.Proofs.Layout.FieldLenses
import GenericNetlink.Proofs.Layout.Representation

/-!
# Fields as integers

A field is read and written as an integer of a type if it is as wide as the type.
Reading and writing are then inverse both ways, whichever bytes the field holds and
whichever value of the type is stored, since the bytes of a type and its values are one
to one.
-/

namespace GenericNetlink.FixedStruct

variable {s u : FixedStruct} {t other : IntType} {i : Nat} {n : Int}

theorem read_cases (s : FixedStruct) (t : IntType) (i : Nat) :
    (s.widths[i]? = none ∧ s.read t i = .error (.fieldIndex i s.fieldCount)) ∨
    (∃ w, s.widths[i]? = some w ∧ w ≠ t.size ∧ s.read t i = .error (.fieldLength i w t.size)) ∨
    (s.widths[i]? = some t.size ∧ ∃ bytes, bytes.length = t.size ∧ s.field i = .ok bytes ∧
      s.read t i = .ok (t.decode bytes)) := by
  have hf := s.field_eq i
  have hw := s.getElem?_widths i
  cases hp : s.parts[i]? with
  | none =>
    rw [hp] at hf hw
    refine .inl ⟨hw, ?_⟩
    rw [read, hf]
    rfl
  | some bytes =>
    rw [hp] at hf hw
    have hr : s.read t i = if bytes.length = t.size then .ok (t.decode bytes)
        else .error (.fieldLength i bytes.length t.size) := by
      rw [read, hf]
      rfl
    by_cases hl : bytes.length = t.size
    · exact .inr (.inr ⟨hw.trans (congrArg some hl), bytes, hl, hf, hr.trans (if_pos hl)⟩)
    · exact .inr (.inl ⟨bytes.length, hw, hl, hr.trans (if_neg hl)⟩)

theorem write_cases (s : FixedStruct) (t : IntType) (i : Nat) (n : Int) :
    (s.widths[i]? = none ∧ s.write t i n = (.error (.fieldIndex i s.fieldCount), s)) ∨
    (∃ w, s.widths[i]? = some w ∧ w ≠ t.size ∧
      s.write t i n = (.error (.fieldLength i w t.size), s)) ∨
    (s.widths[i]? = some t.size ∧ ∃ u, s.write t i n = (.ok (), u) ∧
      u.field i = .ok (t.encode n) ∧ ∀ j, j ≠ i → u.field j = s.field j) := by
  obtain h | ⟨w, hw, hl, h⟩ | ⟨hw, u, huw, hub, h⟩ := s.setField_cases i (t.encode n)
  · exact .inl h
  · rw [t.length_encode] at hl h
    exact .inr (.inl ⟨w, hw, hl, h⟩)
  · refine .inr (.inr ⟨t.length_encode n ▸ hw, u, h, field_overwrite hw huw hub, fun j hj => ?_⟩)
    have hne := s.field_setField_of_ne hj.symm (t.encode n)
    rwa [h] at hne

section
variable {w : Nat} (hw : s.widths[i]? = some w) (hne : w ≠ t.size)
include hw hne

theorem read_of_width_ne : s.read t i = .error (.fieldLength i w t.size) := by
  obtain ⟨hn, -⟩ | ⟨x, hx, -, h⟩ | ⟨ht, -⟩ := s.read_cases t i
  · cases hw.symm.trans hn
  · cases hw.symm.trans hx
    exact h
  · exact absurd (Option.some.inj (hw.symm.trans ht)) hne

theorem write_of_width_ne (n : Int) :
    s.write t i n = (.error (.fieldLength i w t.size), s) := by
  obtain ⟨hn, -⟩ | ⟨x, hx, -, h⟩ | ⟨ht, -⟩ := s.write_cases t i n
  · cases hw.symm.trans hn
  · cases hw.symm.trans hx
    exact h
  · exact absurd (Option.some.inj (hw.symm.trans ht)) hne

end

theorem read_of_field {bytes : Bytes} (hf : s.field i = .ok bytes) (hl : bytes.length = t.size) :
    s.read t i = .ok (t.decode bytes) := by
  rw [read, hf]
  exact if_pos hl

theorem read_written (hf : u.field i = .ok (t.encode n)) (hs : other.size = t.size) :
    ∃ m, u.read other i = .ok m ∧ other.Holds m ∧ m % t.modulus = n % t.modulus := by
  have hl : (t.encode n).length = other.size := (t.length_encode n).trans hs.symm
  have hm : other.modulus = t.modulus := congrArg wordCount hs
  refine ⟨_, read_of_field hf hl, IntType.holds_decode hl, ?_⟩
  rw [← hm, IntType.decode_emod hl, IntType.ofLittleEndian_encode, hm]

theorem write_read (h : s.read t i = .ok n) : t.Holds n ∧ s.write t i n = (.ok (), s) := by
  obtain ⟨-, hr⟩ | ⟨_, -, -, hr⟩ | ⟨-, bytes, hl, hf, hr⟩ := s.read_cases t i
  · cases hr.symm.trans h
  · cases hr.symm.trans h
  · obtain rfl : t.decode bytes = n := Except.ok.inj (hr.symm.trans h)
    refine ⟨IntType.holds_decode hl, ?_⟩
    rw [write, IntType.encode_decode hl]
    exact setField_field hf

/-- Integers are read from fields and written to them exactly where the field is as wide
as the type; else the index is refused first, then the width, and a refused write changes
nothing. A value of the type that was written is read back as it was. The field holds its
little-endian bytes in two's complement, reads with the other sign as the same number
modulo the count of values, and the other fields are as before. Whatever bytes a field
holds, writing back what is read from it leaves the structure as it is. -/
theorem typed_access_inverse (s : FixedStruct) (t : IntType) (i : Nat) :
    ((∃ n, s.read t i = .ok n) ↔ s.widths[i]? = some t.size) ∧
    (∀ n, (s.write t i n).1 = .ok () ↔ s.widths[i]? = some t.size) ∧
    (s.fieldCount ≤ i → s.read t i = .error (.fieldIndex i s.fieldCount) ∧
      ∀ n, s.write t i n = (.error (.fieldIndex i s.fieldCount), s)) ∧
    (∀ w, s.widths[i]? = some w → w ≠ t.size →
      s.read t i = .error (.fieldLength i w t.size) ∧
      ∀ n, s.write t i n = (.error (.fieldLength i w t.size), s)) ∧
    (∀ n u, t.Holds n → s.write t i n = (.ok (), u) →
      u.read t i = .ok n ∧
      (∃ bytes, u.field i = .ok bytes ∧ bytes.length = t.size ∧
        ∀ k, k < t.size → ∃ x, bytes[k]? = some x ∧ (x.toNat : Int) = n / wordCount k % 256) ∧
      (∃ m, u.read t.otherSign i = .ok m ∧ t.otherSign.Holds m ∧
        m % t.modulus = n % t.modulus) ∧
      ∀ j, j ≠ i → u.field j = s.field j) ∧
    ∀ n, s.read t i = .ok n → t.Holds n ∧ s.write t i n = (.ok (), s) := by
  refine ⟨?_, fun n => ?_, fun hi => (access_outside hi).2.2.2 t,
    fun w hw hne => ⟨read_of_width_ne hw hne, write_of_width_ne hw hne⟩, fun n u hn hu => ?_,
    fun _ => write_read⟩
  · obtain ⟨hw, hr⟩ | ⟨w, hw, hl, hr⟩ | ⟨hw, _, -, -, hr⟩ := s.read_cases t i
    · simp [hw, hr]
    · simp [hw, hr, hl]
    · simp [hw, hr]
  · obtain ⟨hw, h⟩ | ⟨w, hw, hl, h⟩ | ⟨hw, _, h, -⟩ := s.write_cases t i n
    · simp [hw, h]
    · simp [hw, h, hl]
    · simp [hw, h]
  · obtain ⟨-, h⟩ | ⟨_, -, -, h⟩ | ⟨-, _, h, hf, hothers⟩ := s.write_cases t i n
    · cases h.symm.trans hu
    · cases h.symm.trans hu
    · cases h.symm.trans hu
      refine ⟨?_, ⟨_, hf, t.length_encode n, fun k hk => IntType.getElem?_encode hk n⟩,
        read_written hf rfl, hothers⟩
      rw [read_of_field hf (t.length_encode n), IntType.decode_encode hn]

/-- All bits set read as the greatest number without sign and as -1 with it. -/
example :
    ∃ new s, zeroed [1, 2] = .ok new ∧ new.write .i16 1 (-1) = (.ok (), s) ∧
      s.field 1 = .ok [0xff, 0xff] ∧ s.read .u16 1 = .ok 0xffff ∧
      s.read .u8 1 = .error (.fieldLength 1 2 1) :=
  ⟨_, _, rfl, rfl, rfl, rfl, rfl⟩

end GenericNetlink.FixedStruct
