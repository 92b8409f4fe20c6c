import GenericNetlink.Proofs.Layout.FieldParts

/-!
# Fields are independent lenses

What was set last is what a field reads, setting what it reads changes nothing, and
distinct fields do not see each other: they keep their values, and the order in which
they are set does not matter. Together the fields are the whole structure.
-/

namespace GenericNetlink.FixedStruct

variable {s : FixedStruct} {i j : Nat} {v w : Bytes}

theorem field_setField_self (h : s.widths[i]? = some v.length) :
    (s.setField i v).2.field i = .ok v := by
  rw [field_eq_ok_iff, parts_setField, if_pos h, List.getElem?_set_self (lt_length_parts h)]

theorem setField_field (h : s.field i = .ok v) : s.setField i v = (.ok (), s) := by
  have hp := field_eq_ok_iff.mp h
  have hset : s.parts.set i v = s.parts := by
    obtain ⟨hi, rfl⟩ := List.getElem?_eq_some_iff.mp hp
    exact List.set_getElem_self hi
  have hw : s.widths[i]? = some v.length := by rw [getElem?_widths, hp, Option.map_some]
  obtain ⟨t, hs, ht⟩ := setField_of_width hw
  rw [hs, eq_iff_parts.mpr (ht.trans hset)]

theorem setField_setField_self (h : s.widths[i]? = some w.length) (v : Bytes) :
    (s.setField i v).2.setField i w = s.setField i w := by
  obtain ⟨t, hs, ht⟩ := setField_of_width h
  obtain ⟨u, hu, hup⟩ := setField_of_width (s := (s.setField i v).2)
    ((s.widths_setField i v).symm ▸ h)
  have hparts : u.parts = t.parts := by
    rw [hup, ht, parts_setField]
    split
    · exact List.set_set ..
    · rfl
  rw [hs, hu, eq_iff_parts.mpr hparts]

theorem field_setField_of_ne (hij : i ≠ j) (s : FixedStruct) (v : Bytes) :
    (s.setField i v).2.field j = s.field j := by
  have hp : (s.setField i v).2.parts[j]? = s.parts[j]? := by
    rw [parts_setField]
    split
    · exact List.getElem?_set_ne hij
    · rfl
  rw [field_eq, field_eq, hp, fieldCount, widths_setField, ← fieldCount]

theorem outcome_setField_setField (s : FixedStruct) (i j : Nat) (v w : Bytes) :
    ((s.setField i v).2.setField j w).1 = (s.setField j w).1 := by
  rw [outcome_setField, outcome_setField, fieldCount, widths_setField, ← fieldCount]

theorem setField_comm (hij : i ≠ j) (s : FixedStruct) (v w : Bytes) :
    ∃ t, (s.setField i v).2.setField j w = ((s.setField j w).1, t) ∧
      (s.setField j w).2.setField i v = ((s.setField i v).1, t) := by
  refine ⟨((s.setField i v).2.setField j w).2, Prod.ext (s.outcome_setField_setField i j v w) rfl,
    Prod.ext (s.outcome_setField_setField j i w v) (eq_iff_parts.mpr ?_)⟩
  -- Either both settings are done, on different parts, or at most one of them is.
  rw [parts_setField, parts_setField, parts_setField, parts_setField, widths_setField,
    widths_setField]
  split
  · split
    · exact List.set_comm w v hij.symm
    · rfl
  · rfl

theorem isEmpty_iff_field :
    s.isEmpty = true ↔ ∀ i value, s.field i = .ok value → ∀ x ∈ value, x = 0 := by
  rw [isEmpty, Bytes.isZero_iff, ← s.flatten_parts]
  constructor
  · intro h i value hf x hx
    have hmem := List.mem_of_getElem? (field_eq_ok_iff.mp hf)
    exact h x (List.mem_flatten.mpr ⟨value, hmem, hx⟩)
  · intro h x hx
    obtain ⟨part, hp, hx⟩ := List.mem_flatten.mp hx
    obtain ⟨i, hi⟩ := List.mem_iff_getElem?.mp hp
    exact h i part (field_eq_ok_iff.mpr hi) x hx

theorem zeroed_eq_ok_iff : zeroed s.widths = .ok s ↔ ∀ x ∈ s.bytes, x = 0 := by
  obtain ⟨t, hw, hb, h⟩ := zeroed_of_lt s.totalWidth_lt
  rw [h, Except.ok.injEq]
  constructor
  · rintro rfl x hx
    rw [hb] at hx
    exact (List.mem_replicate.mp hx).2
  · intro hz
    exact FixedStruct.ext hw (hb.trans (List.eq_replicate_iff.mpr ⟨s.length_bytes, hz⟩).symm)

theorem isEmpty_iff_zeroed : s.isEmpty = true ↔ zeroed s.widths = .ok s := by
  rw [isEmpty, Bytes.isZero_iff, zeroed_eq_ok_iff]

/-- Each field is a lens: a value of its width is read back after it was set, setting
what is read changes nothing, and of two settings the last one counts. Lenses of distinct
fields are independent: they leave each other's values alone and commute. The fields in
order are the bytes, so that structures are equal if their fields are; and a structure is
empty if all its fields are zero, that is, if it is as it was made. -/
theorem fields_are_lenses (s : FixedStruct) :
    (∀ i v, s.widths[i]? = some v.length → ∃ t,
      s.setField i v = (.ok (), t) ∧ t.field i = .ok v ∧ (∀ j, j ≠ i → t.field j = s.field j) ∧
      ∀ w, w.length = v.length → t.setField i w = s.setField i w) ∧
    (∀ i v, s.field i = .ok v → s.setField i v = (.ok (), s)) ∧
    (∀ i j, i ≠ j → ∀ v w, ∃ t,
      (s.setField i v).2.setField j w = ((s.setField j w).1, t) ∧
      (s.setField j w).2.setField i v = ((s.setField i v).1, t)) ∧
    (∃ parts : List Bytes, parts.length = s.fieldCount ∧
      (∀ i value, s.field i = .ok value ↔ parts[i]? = some value) ∧ parts.flatten = s.bytes) ∧
    (∀ t : FixedStruct, s = t ↔ ∀ i, s.field i = t.field i) ∧
    (s.isEmpty = true ↔ ∀ i value, s.field i = .ok value → ∀ x ∈ value, x = 0) ∧
    (s.isEmpty = true ↔ zeroed s.widths = .ok s) := by
  refine ⟨fun i v hv => ?_, fun _ _ => setField_field, fun _ _ hij => s.setField_comm hij,
    ⟨s.parts, s.length_parts, fun _ _ => field_eq_ok_iff, s.flatten_parts⟩,
    fun _ => eq_iff_field, isEmpty_iff_field, isEmpty_iff_zeroed⟩
  obtain ⟨t, hs, -⟩ := setField_of_width hv
  refine ⟨t, hs, ?_⟩
  obtain rfl : (s.setField i v).2 = t := congrArg Prod.snd hs
  refine ⟨field_setField_self hv, fun j hj => s.field_setField_of_ne hj.symm v, fun w hw => ?_⟩
  exact setField_setField_self (hw ▸ hv) v

/-- Fields without width hold nothing, and setting them changes nothing. -/
example :
    ∃ s, zeroed [2, 0, 0, 1] = .ok s ∧ s.field 2 = .ok [] ∧ s.setField 2 [] = (.ok (), s) ∧
      ((s.setField 3 [7]).2.setField 0 [8, 9]).2.bytes = [8, 9, 7] :=
  ⟨_, rfl, rfl, rfl, rfl⟩

end GenericNetlink.FixedStruct
