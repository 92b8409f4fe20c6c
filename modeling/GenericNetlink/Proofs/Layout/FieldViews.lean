import GenericNetlink.Layout.FixedStruct
import GenericNetlink.Proofs.Layout.ViewMutation

/-!
# Fields and their views

A field can be reached by its index or through its view, and both ways agree: they
fail for the same indices, read the same bytes and write the same bytes. Distinct
fields have disjoint views, so that whatever is done through one of them leaves the
other fields alone.
-/

namespace GenericNetlink.FixedStruct

variable {s : FixedStruct} {i j : Nat} {v w : View}

theorem fieldView_ok (h : s.fieldView i = .ok v) :
    s.widths[i]? = some v.len ∧ v.start = s.offset i ∧ v.stop ≤ s.bytes.length := by
  obtain ⟨_, hw, ho, hs, hv, -⟩ | ⟨-, hv, -⟩ := s.fieldView_cases i <;> cases hv.symm.trans h
  exact ⟨hw, ho, hs⟩

theorem fieldView_eq_error_iff (s : FixedStruct) (i : Nat) (fault : Fault) :
    s.fieldView i = .error fault ↔ s.field i = .error fault := by
  obtain ⟨v, -, -, -, hv, hf⟩ | ⟨-, hv, hf⟩ := s.fieldView_cases i
  · rw [hv, hf]
    exact ⟨fun h => (nomatch h), fun h => (nomatch h)⟩
  · rw [hv, hf]
    exact ⟨fun h => congrArg _ (Except.error.inj h), fun h => congrArg _ (Except.error.inj h)⟩

theorem read_fieldView (h : s.fieldView i = .ok v) :
    ∃ bytes, v.read s.bytes = .ok bytes ∧ s.field i = .ok bytes := by
  obtain ⟨_, -, -, hs, hv, hf⟩ | ⟨-, hv, -⟩ := s.fieldView_cases i <;> cases hv.symm.trans h
  exact ⟨_, View.read_of_covered hs, hf⟩

theorem editView_eq {t : FixedStruct} {edit : View.Edit} {outcome : Except Fault Unit}
    (hw : t.widths = s.widths) (h : v.apply s.bytes edit = (outcome, t.bytes)) :
    s.editView v edit = (outcome, t) := by
  have ho : (v.apply s.bytes edit).1 = outcome := by rw [h]
  have hb : (v.apply s.bytes edit).2 = t.bytes := by rw [h]
  exact Prod.ext ho (FixedStruct.ext hw.symm hb)

theorem write_fieldView (h : s.fieldView i = .ok v) (value : Bytes) :
    (v.len = value.length ∧ ∃ t, t.field i = .ok value ∧
      s.editView v (.write value) = (.ok (), t) ∧ s.setField i value = (.ok (), t)) ∨
    (v.len ≠ value.length ∧
      s.editView v (.write value) = (.error (.viewLength v.len value.length), s) ∧
      s.setField i value = (.error (.fieldLength i v.len value.length), s)) := by
  obtain ⟨hw, ho, hs⟩ := fieldView_ok h
  obtain ⟨hn, -⟩ | ⟨n, hn, hl, hset⟩ | ⟨hn, t, htw, htb, hset⟩ := s.setField_cases i value
  · simp [hw] at hn
  · obtain rfl : v.len = n := Option.some.inj (hw.symm.trans hn)
    refine .inr ⟨hl, editView_eq rfl ?_, hset⟩
    obtain ⟨-, h⟩ | ⟨he, -⟩ | ⟨he, -⟩ := v.write_cases s.bytes value
    · exact h
    · exact absurd he hl
    · exact absurd he hl
  · have hl : v.len = value.length := Option.some.inj (hw.symm.trans hn)
    refine .inl ⟨hl, t, field_overwrite hn htw htb, editView_eq htw ?_, hset⟩
    obtain ⟨he, -⟩ | ⟨-, hp, -⟩ | ⟨-, -, h⟩ := v.write_cases s.bytes value
    · exact absurd hl he
    · exact absurd hp (Nat.not_lt.mpr hs)
    · rw [htb, ← ho]
      exact h

theorem fieldView_stop_le (hij : i < j) (hv : s.fieldView i = .ok v) (hw : s.fieldView j = .ok w) :
    v.stop ≤ w.start := by
  obtain ⟨hi, hvo, -⟩ := fieldView_ok hv
  obtain ⟨-, hwo, -⟩ := fieldView_ok hw
  have hle := offset_add_width_le_offset hi hij
  have hlen := v.start_add_len
  omega

theorem fieldView_disjoint (hij : i ≠ j) (hv : s.fieldView i = .ok v)
    (hw : s.fieldView j = .ok w) : w.stop ≤ v.start ∨ v.stop ≤ w.start := by
  obtain hlt | hlt := Nat.lt_or_gt_of_ne hij
  · exact .inr (fieldView_stop_le hlt hv hw)
  · exact .inl (fieldView_stop_le hlt hw hv)

theorem field_editView_of_ne (hij : i ≠ j) (hv : s.fieldView i = .ok v)
    (hw : s.fieldView j = .ok w) (edit : View.Edit) :
    w.read (s.editView v edit).2.bytes = w.read s.bytes ∧
    (s.editView v edit).2.field j = s.field j := by
  have hread : w.read (s.editView v edit).2.bytes = w.read s.bytes :=
    View.read_apply_of_apart edit (View.apart_of_le (fieldView_disjoint hij hv hw))
  -- The views of a structure depend on its widths only.
  have hw' : (s.editView v edit).2.fieldView j = .ok w := hw
  obtain ⟨before, hrb, hfb⟩ := read_fieldView hw
  obtain ⟨after, hra, hfa⟩ := read_fieldView hw'
  refine ⟨hread, ?_⟩
  rw [hfa, hfb, ← hra, ← hrb, hread]

/-- A field and its view stand for one another: they fail together and for the index,
read alike and write alike, up to the name of the fault for a wrong length. What is
done through one view shows in no other field and through no other view. -/
theorem field_views_agree (s : FixedStruct) :
    (∀ i,
      (∀ fault, s.fieldView i = .error fault ↔ s.field i = .error fault) ∧
      (s.fieldCount ≤ i → ∀ value,
        s.fieldView i = .error (.fieldIndex i s.fieldCount) ∧
        s.setField i value = (.error (.fieldIndex i s.fieldCount), s)) ∧
      (i < s.fieldCount → ∃ v, s.fieldView i = .ok v)) ∧
    (∀ i v, s.fieldView i = .ok v →
      (s.widths[i]? = some v.len ∧
        ∃ bytes, v.read s.bytes = .ok bytes ∧ s.field i = .ok bytes) ∧
      ∀ value,
        (v.len = value.length ∧ ∃ t, t.field i = .ok value ∧
          s.editView v (.write value) = (.ok (), t) ∧ s.setField i value = (.ok (), t)) ∨
        (v.len ≠ value.length ∧
          s.editView v (.write value) = (.error (.viewLength v.len value.length), s) ∧
          s.setField i value = (.error (.fieldLength i v.len value.length), s))) ∧
    ∀ i j v w, i ≠ j → s.fieldView i = .ok v → s.fieldView j = .ok w →
      (w.stop ≤ v.start ∨ v.stop ≤ w.start) ∧
      ∀ edit, w.read (s.editView v edit).2.bytes = w.read s.bytes ∧
        (s.editView v edit).2.field j = s.field j := by
  refine ⟨fun i => ⟨s.fieldView_eq_error_iff i, ?_, ?_⟩, fun i v hv => ?_, ?_⟩
  · intro hi value
    have hn : s.widths[i]? = none := List.getElem?_eq_none hi
    obtain ⟨_, hw, -⟩ | ⟨-, hv, -⟩ := s.fieldView_cases i
    · simp [hn] at hw
    obtain ⟨-, hs⟩ | ⟨_, hw, -⟩ | ⟨hw, -⟩ := s.setField_cases i value
    · exact ⟨hv, hs⟩
    · simp [hn] at hw
    · simp [hn] at hw
  · intro hi
    obtain ⟨v, -, -, -, hv, -⟩ | ⟨hw, -⟩ := s.fieldView_cases i
    · exact ⟨v, hv⟩
    · exact absurd hi (Nat.not_lt.mpr (List.getElem?_eq_none_iff.mp hw))
  · exact ⟨⟨(fieldView_ok hv).1, read_fieldView hv⟩, write_fieldView hv⟩
  · intro i j v w hij hv hw
    exact ⟨fieldView_disjoint hij hv hw, field_editView_of_ne hij hv hw⟩

/-- Fields without width have views of their own, also next to each other. -/
example :
    ∃ s, zeroed [2, 0, 0, 1] = .ok s ∧
      (s.fieldView 1).map (fun v => (v.start, v.stop)) = .ok (2, 2) ∧
      (s.fieldView 3).map (fun v => (s.editView v (.write [7])).2.bytes) = .ok [0, 0, 7] :=
  ⟨_, rfl, rfl, rfl⟩

end GenericNetlink.FixedStruct
