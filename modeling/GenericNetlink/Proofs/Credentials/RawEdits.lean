import GenericNetlink.Credentials
import GenericNetlink.Layout.FixedHistory
import GenericNetlink.Proofs.Layout.Representation

/-!
# Credentials under raw edits

Credentials are twelve bytes, and their ids are the three words of these bytes, whether
the bytes were put there by a setter or by an edit of the structure underneath. So
reading an id never falls back to zero, and storing one never fails.
-/

namespace GenericNetlink.Ucred

inductive Call
  | setPid (value : UInt32)
  | setUid (value : UInt32)
  | setGid (value : UInt32)
  | edit (e : FixedStruct.Edit)
  deriving DecidableEq

def perform (c : Ucred) : Call → Ucred
  | .setPid value => c.setPid value
  | .setUid value => c.setUid value
  | .setGid value => c.setGid value
  | .edit e => (c.apply e).2

def run (c : Ucred) (calls : List Call) : Ucred := calls.foldl perform c

/-- What a call does to a plain buffer that holds three words one after the other. -/
def performOnBuffer (b : Bytes) : Call → Bytes
  | .setPid value => b.overwrite 0 (littleEndian 4 value.toNat)
  | .setUid value => b.overwrite 4 (littleEndian 4 value.toNat)
  | .setGid value => b.overwrite 8 (littleEndian 4 value.toNat)
  | .edit e => FixedStruct.editedBuffer [4, 4, 4] b e

-- ---------------------------------------------------------------------------
-- Words
-- ---------------------------------------------------------------------------

variable (c : Ucred) (i j : Fin 3) (value : UInt32)

def word (c : Ucred) (i : Nat) : Bytes := c.bytes.slice (4 * i) (4 * i + 4)

theorem getElem?_widths : c.fields.widths[i.val]? = some 4 := by
  rw [c.widths_fields]
  revert i
  decide

theorem offset_fields : c.fields.offset i = 4 * i := by
  rw [FixedStruct.offset, c.widths_fields]
  revert i
  decide

theorem length_word : (c.word i).length = 4 := by
  have hc : c.bytes.length = 12 := c.length_bytes
  rw [word, Bytes.length_slice]
  omega

theorem bytes_eq_words : c.bytes = c.word 0 ++ c.word 1 ++ c.word 2 := by
  have hc : c.bytes.length = 12 := c.length_bytes
  calc c.bytes = c.bytes.slice 0 12 := by rw [← hc, Bytes.slice_all]
    _ = c.bytes.slice 0 4 ++ c.bytes.slice 4 8 ++ c.bytes.slice 8 12 := by
      rw [Bytes.slice_append_slice _ (by omega) (by omega),
        Bytes.slice_append_slice _ (by omega) (by omega)]
    _ = c.word 0 ++ c.word 1 ++ c.word 2 := rfl

theorem read_eq : c.fields.read .u32 i = .ok (ofLittleEndian (c.word i) : Nat) := by
  have hf : c.fields.field i = .ok (c.word i) := by
    rw [FixedStruct.field_of_width (c.getElem?_widths i), c.offset_fields i]
    rfl
  rw [FixedStruct.read, hf]
  show (if (c.word i).length = 4 then _ else _) = _
  rw [if_pos (c.length_word i)]
  rfl

theorem toNat_id : (c.id i).toNat = ofLittleEndian (c.word i) := by
  rw [id, c.read_eq i]
  exact toNat_ofLittleEndian (c.length_word i)

theorem littleEndian_id : littleEndian 4 (c.id i).toNat = c.word i := by
  rw [c.toNat_id, ← c.length_word i, littleEndian_ofLittleEndian]

theorem id_eq_zero_iff : c.id i = 0 ↔ (c.word i).isZero = true := by
  rw [← ofLittleEndian_eq_zero_iff, ← c.toNat_id, ← UInt32.toNat_inj, UInt32.toNat_zero]

theorem isEmpty_iff : c.isEmpty = true ↔ c.pid = 0 ∧ c.uid = 0 ∧ c.gid = 0 := by
  have hz : c.isEmpty = (c.word 0 ++ c.word 1 ++ c.word 2).isZero := by
    rw [← c.bytes_eq_words]
    rfl
  rw [hz, Bytes.isZero_append, Bytes.isZero_append, Bool.and_eq_true, Bool.and_eq_true, and_assoc]
  exact and_congr (c.id_eq_zero_iff 0).symm
    (and_congr (c.id_eq_zero_iff 1).symm (c.id_eq_zero_iff 2).symm)

theorem bytes_toRaw : c.toRaw.bytes = c.bytes := by
  have hp : littleEndian 4 c.pid.toNat = c.word 0 := c.littleEndian_id 0
  have hu : littleEndian 4 c.uid.toNat = c.word 1 := c.littleEndian_id 1
  have hg : littleEndian 4 c.gid.toNat = c.word 2 := c.littleEndian_id 2
  rw [c.bytes_eq_words, ← hp, ← hu, ← hg]
  rfl

theorem write_eq : ∃ s, c.fields.write .u32 i value.toNat = (.ok (), s) ∧
    s.bytes = c.bytes.overwrite (4 * i) (littleEndian 4 value.toNat) := by
  have hw := c.getElem?_widths i
  rw [FixedStruct.write, IntType.encode_u32]
  obtain ⟨hn, -⟩ | ⟨w, hn, hl, -⟩ | ⟨-, t, -, hb, h⟩ :=
    c.fields.setField_cases i (littleEndian 4 value.toNat)
  · cases hw.symm.trans hn
  · refine absurd ?_ hl
    rw [length_littleEndian]
    exact (Option.some.inj (hw.symm.trans hn)).symm
  · rw [c.offset_fields i] at hb
    exact ⟨t, h, hb⟩

theorem bytes_setId :
    (c.setId i value).bytes = c.bytes.overwrite (4 * i) (littleEndian 4 value.toNat) := by
  obtain ⟨s, h, hb⟩ := c.write_eq i value
  rw [← hb]
  exact congrArg (fun result => result.2.bytes) h

theorem word_in_bytes : 4 * i + (littleEndian 4 value.toNat).length ≤ c.bytes.length := by
  rw [length_littleEndian, c.length_bytes, RawUcred.size]
  omega

theorem id_setId_self : (c.setId i value).id i = value := by
  have hword : (c.setId i value).word i = littleEndian 4 value.toNat := by
    have h := Bytes.slice_overwrite_same (c.word_in_bytes i value)
    rw [length_littleEndian] at h
    rw [word, c.bytes_setId, h]
  rw [← UInt32.toNat_inj, toNat_id, hword, ofLittleEndian_littleEndian]
  exact Nat.mod_eq_of_lt value.toNat_lt

variable {i j} in
theorem id_setId_of_ne (hij : j ≠ i) : (c.setId i value).id j = c.id j := by
  have hword : (c.setId i value).word j = c.word j := by
    have hne : j.val ≠ i.val := fun h => hij (Fin.ext h)
    rw [word, c.bytes_setId, Bytes.slice_overwrite_disjoint (c.word_in_bytes i value), ← word]
    rw [length_littleEndian]
    omega
  rw [← UInt32.toNat_inj, toNat_id, toNat_id, hword]

theorem getElem?_setId {k : Nat} (hk : k < 4 * i ∨ 4 * i + 4 ≤ k) :
    (c.setId i value).bytes[k]? = c.bytes[k]? := by
  rw [c.bytes_setId, Bytes.getElem?_overwrite (c.word_in_bytes i value), length_littleEndian,
    if_neg (by omega)]

theorem bytes_perform (call : Call) : (c.perform call).bytes = performOnBuffer c.bytes call := by
  cases call with
  | setPid value => exact c.bytes_setId 0 value
  | setUid value => exact c.bytes_setId 1 value
  | setGid value => exact c.bytes_setId 2 value
  | edit e =>
    have h := c.fields.bytes_edited e
    rw [c.widths_fields] at h
    exact h

theorem bytes_run (calls : List Call) :
    (c.run calls).bytes = calls.foldl performOnBuffer c.bytes := by
  induction calls generalizing c with
  | nil => rfl
  | cons call rest ih =>
    rw [List.foldl_cons, ← c.bytes_perform]
    exact ih (c.perform call)

theorem apply_refused {e : FixedStruct.Edit} {fault : Fault}
    (h : (c.apply e).1 = .error fault) : (c.apply e).2 = c :=
  Ucred.ext (FixedStruct.apply_refused h)

/-- Whatever credentials a run begins with and however ids are set and bytes edited on
the way: the bytes are those that the same calls leave in a plain buffer, and the ids
are their three words. Reading an id does not fall back, storing one does not fail; it
changes its own four bytes and no other id. Refused edits change nothing. The raw form
has the same ids and bytes, and the credentials are empty if all ids are zero. -/
theorem ids_agree_with_bytes (c : Ucred) (calls : List Call) :
    let d := c.run calls
    d.bytes = calls.foldl performOnBuffer c.bytes ∧
    (d.fields.widths = [4, 4, 4] ∧ d.bytes.length = 12) ∧
    (d.pid.toNat = ofLittleEndian (d.bytes.slice 0 4) ∧
      d.uid.toNat = ofLittleEndian (d.bytes.slice 4 8) ∧
      d.gid.toNat = ofLittleEndian (d.bytes.slice 8 12)) ∧
    (∀ i : Fin 3, d.fields.read .u32 i = .ok (d.id i).toNat ∧
      ∀ value : UInt32, (d.fields.write .u32 i value.toNat).1 = .ok ()) ∧
    (∀ (i : Fin 3) (value : UInt32),
      (d.setId i value).id i = value ∧
      (∀ j : Fin 3, j ≠ i → (d.setId i value).id j = d.id j) ∧
      ∀ k, k < 4 * i.val ∨ 4 * i.val + 4 ≤ k → (d.setId i value).bytes[k]? = d.bytes[k]?) ∧
    (∀ e fault, (d.apply e).1 = .error fault → (d.apply e).2 = d) ∧
    (d.toRaw = ⟨d.pid, d.uid, d.gid⟩ ∧ d.toRaw.bytes = d.bytes) ∧
    (d.isEmpty = true ↔ d.pid = 0 ∧ d.uid = 0 ∧ d.gid = 0) := by
  intro d
  refine ⟨c.bytes_run calls, ⟨d.widths_fields, d.length_bytes⟩,
    ⟨d.toNat_id 0, d.toNat_id 1, d.toNat_id 2⟩, ?_, ?_, fun _ _ => d.apply_refused,
    ⟨rfl, d.bytes_toRaw⟩, d.isEmpty_iff⟩
  · intro i
    refine ⟨?_, fun value => ?_⟩
    · rw [d.read_eq, d.toNat_id]
    · obtain ⟨_, h, -⟩ := d.write_eq i value
      rw [h]
  · intro i value
    exact ⟨d.id_setId_self i value, fun _ => d.id_setId_of_ne value,
      fun _ => d.getElem?_setId i value⟩

/-- A window over the second word shows as the user id. -/
example :
    let d := (ofIds 1 2 3).run [.edit (.view ⟨4, 8, by decide⟩ (.write [77, 0, 0, 0]))]
    (d.pid, d.uid, d.gid) = (1, 77, 3) := by decide +kernel

end GenericNetlink.Ucred
