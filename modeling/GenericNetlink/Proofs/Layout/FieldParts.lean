import GenericNetlink.Layout.FixedStruct
import Mathlib.Data.List.SplitLengths

/-!
# A structure is its parts

The fields of a structure cut its buffer into parts of the declared widths. Joined, the
parts are the buffer again, so that a structure is determined by them, and setting a field
replaces one part. Hence access by field does what lists do, and its laws are those of
lists.
-/

namespace GenericNetlink.FixedStruct

variable {s t : FixedStruct} {i w : Nat} {value : Bytes}

def parts (s : FixedStruct) : List Bytes := s.widths.splitLengths s.bytes

@[simp] theorem length_parts (s : FixedStruct) : s.parts.length = s.fieldCount :=
  List.length_splitLengths ..

theorem parts_spec (s : FixedStruct) :
    s.parts.map List.length = s.widths ∧ s.parts.flatten = s.bytes := by
  have hsum : ∀ widths : List Nat, totalWidth widths = widths.sum := by
    intro widths
    induction widths with
    | nil => rfl
    | cons w rest ih => rw [totalWidth, ih, List.sum_cons]
  have hlen := s.length_bytes.trans (hsum s.widths)
  exact ⟨List.map_splitLengths_length _ _ hlen.ge, List.flatten_splitLengths _ _ hlen.le⟩

theorem map_length_parts (s : FixedStruct) : s.parts.map List.length = s.widths := s.parts_spec.1

theorem flatten_parts (s : FixedStruct) : s.parts.flatten = s.bytes := s.parts_spec.2

theorem eq_iff_parts : s = t ↔ s.parts = t.parts := by
  refine ⟨congrArg parts, fun h => FixedStruct.ext ?_ ?_⟩
  · rw [← s.map_length_parts, h, t.map_length_parts]
  · rw [← s.flatten_parts, h, t.flatten_parts]

theorem getElem?_splitLengths {widths : List Nat} (h : widths[i]? = some w) (b : Bytes) :
    (widths.splitLengths b)[i]? =
      some (b.slice (totalWidth (widths.take i)) (totalWidth (widths.take i) + w)) := by
  induction widths generalizing i b with
  | nil => cases h
  | cons x rest ih =>
    rw [List.splitLengths_cons]
    cases i with
    | zero =>
      obtain rfl : x = w := Option.some.inj h
      simp [totalWidth, Bytes.slice]
    | succ i =>
      rw [List.getElem?_cons_succ, ih h, List.take_succ_cons, totalWidth, Bytes.slice, Bytes.slice,
        List.drop_drop, Nat.add_sub_cancel_left, Nat.add_sub_cancel_left]

theorem getElem?_parts (h : s.widths[i]? = some w) :
    s.parts[i]? = some (s.bytes.slice (s.offset i) (s.offset i + w)) :=
  getElem?_splitLengths h s.bytes

theorem getElem?_widths (s : FixedStruct) (i : Nat) :
    s.widths[i]? = s.parts[i]?.map List.length := by
  rw [← List.getElem?_map, map_length_parts]

theorem getElem?_parts_of_none (h : s.widths[i]? = none) : s.parts[i]? = none := by
  rwa [getElem?_widths, Option.map_eq_none_iff] at h

theorem lt_length_parts (h : s.widths[i]? = some w) : i < s.parts.length := by
  rw [length_parts]
  exact (List.getElem?_eq_some_iff.mp h).1

/-- Field `i` is part `i`; where there is no part, the index names no field. -/
theorem field_eq (s : FixedStruct) (i : Nat) :
    s.field i = match s.parts[i]? with
      | some part => .ok part
      | none => .error (.fieldIndex i s.fieldCount) := by
  cases hw : s.widths[i]? with
  | none =>
    rw [getElem?_parts_of_none hw]
    obtain ⟨_, hv, -⟩ | ⟨-, -, h⟩ := s.fieldView_cases i
    · cases hw.symm.trans hv
    · exact h
  | some w =>
    rw [getElem?_parts hw]
    exact field_of_width hw

theorem field_eq_ok_iff : s.field i = .ok value ↔ s.parts[i]? = some value := by
  rw [field_eq]
  cases s.parts[i]? with
  | none => exact ⟨fun h => (nomatch h), fun h => (nomatch h)⟩
  | some part => rw [Except.ok.injEq, Option.some.injEq]

theorem eq_iff_field : s = t ↔ ∀ i, s.field i = t.field i := by
  refine ⟨fun h i => h ▸ rfl, fun h => eq_iff_parts.mpr (List.ext_getElem? fun i => ?_)⟩
  refine Option.ext fun value => ?_
  rw [← field_eq_ok_iff, h, field_eq_ok_iff]

theorem setField_of_width (h : s.widths[i]? = some value.length) :
    ∃ t, s.setField i value = (.ok (), t) ∧ t.parts = s.parts.set i value := by
  obtain ⟨hn, -⟩ | ⟨w, hw, hl, -⟩ | ⟨-, t, htw, htb, hset⟩ := s.setField_cases i value
  · cases h.symm.trans hn
  · exact absurd (Option.some.inj (hw.symm.trans h)) hl
  -- Part by part: that of the field is the value, and all others lie apart from it.
  have hin := offset_add_width_le h
  refine ⟨t, hset, List.ext_getElem? fun j => ?_⟩
  by_cases hij : i = j
  · subst hij
    rw [List.getElem?_set_self (lt_length_parts h), ← field_eq_ok_iff]
    exact field_overwrite h htw htb
  · rw [List.getElem?_set_ne hij]
    cases hj : s.widths[j]? with
    | none => rw [getElem?_parts_of_none hj, getElem?_parts_of_none (htw ▸ hj)]
    | some w =>
      have hoff : t.offset j = s.offset j := by rw [offset, htw, offset]
      rw [getElem?_parts hj, getElem?_parts (htw ▸ hj), hoff, htb,
        Bytes.slice_overwrite_disjoint hin]
      obtain hlt | hlt := Nat.lt_or_gt_of_ne hij
      · exact .inr (offset_add_width_le_offset h hlt)
      · exact .inl (offset_add_width_le_offset hj hlt)

theorem parts_setField (s : FixedStruct) (i : Nat) (value : Bytes) :
    (s.setField i value).2.parts =
      if s.widths[i]? = some value.length then s.parts.set i value else s.parts := by
  split
  · rename_i h
    obtain ⟨t, hset, ht⟩ := setField_of_width h
    rw [hset, ht]
  · rename_i h
    obtain ⟨-, hs⟩ | ⟨_, -, -, hs⟩ | ⟨hw, -⟩ := s.setField_cases i value
    · rw [hs]
    · rw [hs]
    · exact absurd hw h

theorem outcome_setField (s : FixedStruct) (i : Nat) (value : Bytes) :
    (s.setField i value).1 = match s.widths[i]? with
      | none => .error (.fieldIndex i s.fieldCount)
      | some w => if w = value.length then .ok () else .error (.fieldLength i w value.length) := by
  obtain ⟨hw, h⟩ | ⟨w, hw, hl, h⟩ | ⟨hw, _, -, -, h⟩ := s.setField_cases i value
  · rw [h, hw]
  · rw [h, hw]
    exact (if_neg hl).symm
  · rw [h, hw]
    exact (if_pos rfl).symm

end GenericNetlink.FixedStruct
