import GenericNetlink.Layout.FixedHistory
import GenericNetlink.Proofs.Layout.ViewMutation

/-!
# Structures keep their layout

Edits never change the widths of a structure, nor the length of its buffer. The second
is a fact about buffers: a history of a structure is the same history of its plain
buffer, and each edit of a plain buffer that is as long as the widths say leaves it so.
That length is what access by field needs. Indices of fields always lie inside the
buffer, and all others are refused before anything else is looked at.
-/

namespace GenericNetlink.FixedStruct

section
variable {widths : List Nat} {b : Bytes}

theorem length_setBufferField (hb : b.length = totalWidth widths) (i : Nat) (value : Bytes) :
    (setBufferField widths b i value).2.length = totalWidth widths := by
  unfold setBufferField
  split
  · exact hb
  · rename_i w hw
    split
    · rename_i hl
      have hin := totalWidth_take_add hw
      rw [← hb, hl] at hin
      rw [← hb]
      exact Bytes.length_overwrite hin
    · exact hb

theorem length_onBuffer (hb : b.length = totalWidth widths) (edit : Edit) :
    (edit.onBuffer widths b).2.length = totalWidth widths := by
  cases edit with
  | setField i value => exact length_setBufferField hb i value
  | write t i n => exact length_setBufferField hb i (t.encode n)
  | view v edit => exact (v.length_apply b edit).trans hb

theorem length_runBuffers (hb : b.length = totalWidth widths) (calls : List Call) :
    ∀ buffer ∈ runBuffers widths b calls, buffer.length = totalWidth widths :=
  Call.forall_mem_run (fun buffer : Bytes => buffer.length = totalWidth widths)
    (fun _ edit h => length_onBuffer h edit) hb calls

end

theorem map_bytes_run (origin : FixedStruct) (calls : List Call) :
    (origin.run calls).map (·.bytes) = runBuffers origin.widths origin.bytes calls := by
  -- Over any pool of structures with these widths, as calls make further ones.
  suffices ∀ pool : List FixedStruct, (∀ s ∈ pool, s.widths = origin.widths) →
      (calls.foldl (Call.perform edited) pool).map (·.bytes) =
        calls.foldl (Call.perform (editedBuffer origin.widths)) (pool.map (·.bytes)) from
    this [origin] (by simp)
  induction calls with
  | nil => exact fun _ _ => rfl
  | cons call rest ih =>
    intro pool hpool
    have hedit : ∀ s ∈ pool, ∀ edit,
        (s.edited edit).bytes = editedBuffer origin.widths s.bytes edit := by
      intro s hs edit
      rw [← hpool s hs, bytes_edited]
    have hkept : ∀ s ∈ call.perform edited pool, s.widths = origin.widths :=
      call.forall_mem_perform (fun s edit h => (s.widths_apply edit).trans h) hpool
    rw [List.foldl_cons, List.foldl_cons, ih _ hkept, call.map_perform hedit]

variable {s : FixedStruct} {i : Nat}

theorem access_inside {w : Nat} (hw : s.widths[i]? = some w) :
    (sumWidths (s.widths.take i) = .ok (s.offset i) ∧
      addWidth (s.offset i) w = .ok (s.offset i + w)) ∧
    s.offset i + w ≤ s.bytes.length ∧
    s.field i = .ok (s.bytes.slice (s.offset i) (s.offset i + w)) ∧
    ∃ v, s.fieldView i = .ok v ∧ v.start = s.offset i ∧ v.len = w := by
  refine ⟨range_on_words hw, offset_add_width_le hw, field_of_width hw, ?_⟩
  obtain ⟨v, hv, ho, -, h, -⟩ | ⟨hn, -⟩ := s.fieldView_cases i
  · exact ⟨v, h, ho, Option.some.inj (hv.symm.trans hw)⟩
  · cases hn.symm.trans hw

theorem access_outside (hi : s.fieldCount ≤ i) :
    s.field i = .error (.fieldIndex i s.fieldCount) ∧
    s.fieldView i = .error (.fieldIndex i s.fieldCount) ∧
    (∀ value, s.setField i value = (.error (.fieldIndex i s.fieldCount), s)) ∧
    ∀ t, s.read t i = .error (.fieldIndex i s.fieldCount) ∧
      ∀ n, s.write t i n = (.error (.fieldIndex i s.fieldCount), s) := by
  have hn : s.widths[i]? = none := List.getElem?_eq_none hi
  have hset : ∀ value, s.setField i value = (.error (.fieldIndex i s.fieldCount), s) := by
    intro value
    obtain ⟨-, h⟩ | ⟨_, hw, -⟩ | ⟨hw, -⟩ := s.setField_cases i value
    · exact h
    · cases hn.symm.trans hw
    · cases hn.symm.trans hw
  obtain ⟨_, hw, -⟩ | ⟨-, hv, hf⟩ := s.fieldView_cases i
  · cases hn.symm.trans hw
  · refine ⟨hf, hv, hset, fun t => ⟨?_, fun n => hset (t.encode n)⟩⟩
    rw [read, hf]
    rfl

theorem setField_refused {value : Bytes} {fault : Fault}
    (h : (s.setField i value).1 = .error fault) : (s.setField i value).2 = s := by
  obtain ⟨-, hs⟩ | ⟨_, -, -, hs⟩ | ⟨-, _, -, -, hs⟩ := s.setField_cases i value <;> rw [hs] at h ⊢
  cases h

theorem apply_refused {edit : Edit} {fault : Fault} (h : (s.apply edit).1 = .error fault) :
    (s.apply edit).2 = s := by
  cases edit with
  | setField i value => exact setField_refused h
  | write t i n => exact setField_refused h
  | view v edit => exact FixedStruct.ext rfl ((v.apply_ends s.bytes edit).unchanged h)

/-- A structure of given widths is made if their sum is a word, and making one traps
otherwise. However it was made, and whatever is done to it and its clones: all of them
keep the declared widths and a buffer of their total width, and their buffers are what
the same edits make of plain buffers. The range of every field is computed without a
trap and lies inside the buffer, so that the field can be read and viewed; access by any
other index is refused for the index; and a refused edit leaves every byte as it was. -/
theorem representation_kept (widths : List Nat) :
    (totalWidth widths < UInt64.size → ∃ origin, zeroed widths = .ok origin) ∧
    (UInt64.size ≤ totalWidth widths → ∃ trap, zeroed widths = .error (.trap trap) ∧
      ∀ data, decode widths data = .error (.trap trap)) ∧
    ∀ origin, Made widths origin → ∀ calls : List Call,
      ((origin.run calls).map (·.bytes) = runBuffers widths origin.bytes calls ∧
        ∀ buffer ∈ runBuffers widths origin.bytes calls, buffer.length = totalWidth widths) ∧
      ∀ s ∈ origin.run calls,
        (s.widths = widths ∧ s.bytes.length = totalWidth widths) ∧
        (∀ i w, widths[i]? = some w →
          (sumWidths (widths.take i) = .ok (totalWidth (widths.take i)) ∧
            addWidth (totalWidth (widths.take i)) w = .ok (totalWidth (widths.take i) + w)) ∧
          totalWidth (widths.take i) + w ≤ s.bytes.length ∧
          s.field i = .ok (s.bytes.slice (totalWidth (widths.take i))
            (totalWidth (widths.take i) + w)) ∧
          ∃ v, s.fieldView i = .ok v ∧ v.start = totalWidth (widths.take i) ∧ v.len = w) ∧
        (∀ i, widths.length ≤ i →
          s.field i = .error (.fieldIndex i widths.length) ∧
          s.fieldView i = .error (.fieldIndex i widths.length) ∧
          (∀ value, s.setField i value = (.error (.fieldIndex i widths.length), s)) ∧
          ∀ t, s.read t i = .error (.fieldIndex i widths.length) ∧
            ∀ n, s.write t i n = (.error (.fieldIndex i widths.length), s)) ∧
        ∀ edit fault, (s.apply edit).1 = .error fault → (s.apply edit).2 = s := by
  refine ⟨fun hlt => ?_, fun hle => ?_, fun origin ho calls => ?_⟩
  · obtain ⟨origin, -, -, h⟩ := zeroed_of_lt hlt
    exact ⟨origin, h⟩
  · obtain ⟨hlt, -⟩ | ⟨-, n, -, hs⟩ := sumWidths_cases widths
    · exact absurd hlt (Nat.not_lt.mpr hle)
    · exact ⟨_, zeroed_of_trap hs, decode_of_trap hs⟩
  obtain rfl := ho.widths_eq
  have hbytes := origin.map_bytes_run calls
  have hlength := length_runBuffers origin.length_bytes calls
  refine ⟨⟨hbytes, hlength⟩, fun s hs => ?_⟩
  have hw : s.widths = origin.widths := origin.widths_run calls s hs
  have hmem : s.bytes ∈ runBuffers origin.widths origin.bytes calls := by
    rw [← hbytes]
    exact List.mem_map_of_mem hs
  refine ⟨⟨hw, hlength _ hmem⟩, ?_, ?_, fun _ _ => apply_refused⟩
  · rw [← hw]
    exact fun i w h => access_inside h
  · rw [← hw]
    exact fun i h => access_outside h

def decodedPair : FixedStruct := ⟨[1, 2], [1, 2, 3], rfl, by decide⟩

/-- A clone is edited: a wide value and an index too far are refused, a window across the
two fields is written. The original stays as it was. -/
def pairEdits : List Call :=
  [.clone 0, .edit 1 (.setField 0 [7, 7]), .edit 1 (.write .u8 2 9),
    .edit 1 (.view ⟨0, 2, by decide⟩ (.write [8, 9]))]

theorem pairEdits_keep_layout :
    Made [1, 2] decodedPair ∧
    (decodedPair.run pairEdits).map (·.bytes) = [[1, 2, 3], [8, 9, 3]] ∧
    ∀ s ∈ decodedPair.run pairEdits, s.widths = [1, 2] ∧ s.bytes.length = totalWidth [1, 2] := by
  have hmade : Made [1, 2] decodedPair := .decoded (show decode [1, 2] [1, 2, 3, 4] = _ from rfl)
  have h := (representation_kept [1, 2]).2.2 decodedPair hmade pairEdits
  refine ⟨hmade, h.1.1, fun s hs => (h.2 s hs).1⟩

end GenericNetlink.FixedStruct
