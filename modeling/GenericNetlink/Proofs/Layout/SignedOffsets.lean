import GenericNetlink.Layout.FixedStruct

/-!
# Signed offsets

Windows over a buffer and slices of a window are given by signed offsets. A negative one
counts from the end, a missing stop is the end, and the stop zero is the start. A
selection is checked once, when the window is made, and the window can be read from the
buffer that it was made for (`select_exact`). A slice of a window is the range of
positions that its offsets resolve to, except that a start before the window is reported
as it was given (`replaceSlice_exact`).
-/

namespace GenericNetlink.View

inductive MadeFor (parent : Bytes) : View → Prop
  | selected {start : Int} {stop : Option Int} {v : View}
    (h : select parent.length start stop = .ok v) : MadeFor parent v
  | whole : MadeFor parent (whole parent.length)
  | field {s : FixedStruct} {i : Nat} {v : View} (hs : s.bytes = parent)
    (h : s.fieldView i = .ok v) : MadeFor parent v

theorem MadeFor.covered {v : View} {parent : Bytes} (h : MadeFor parent v) :
    v.stop ≤ parent.length := by
  cases h with
  | @selected start stop _ h =>
    obtain ⟨w, -, -, hw, hs⟩ | ⟨-, hs⟩ := select_cases parent.length start stop <;>
      cases hs.symm.trans h
    exact hw
  | whole => exact Nat.le_refl _
  | @field s i _ hs h =>
    obtain ⟨w, -, -, hw, hv, -⟩ | ⟨-, hv, -⟩ := s.fieldView_cases i <;> cases hv.symm.trans h
    exact hs ▸ hw

theorem MadeFor.reads {v : View} {parent : Bytes} (h : MadeFor parent v) :
    v.start ≤ v.stop ∧ v.start + v.len = v.stop ∧ (v.isEmpty = true ↔ v.len = 0) ∧
    v.read parent = .ok (parent.slice v.start v.stop) ∧
    (parent.slice v.start v.stop).length = v.len :=
  ⟨v.start_le_stop, v.start_add_len, isEmpty_iff, read_of_covered h.covered,
    length_slice_of_covered h.covered⟩

/-- A selection asks for the positions from `s` up to `e`. It succeeds exactly if both
are offsets into the buffer, `s` not being after `e`, and otherwise reports the two. A
window of any origin is as long as its bounds are apart, is empty exactly if it has no
length, and is read in full from the buffer that it was made for. -/
theorem select_exact (parent : Bytes) (start : Int) (stop : Option Int) :
    let L : Int := parent.length
    let s := if start < 0 then start + L else start
    let e := match stop with
      | none => L
      | some stop => if stop = 0 then s else max s (if stop < 0 then stop + L else stop)
    ((∃ v, select parent.length start stop = .ok v) ↔ 0 ≤ s ∧ s ≤ L ∧ e ≤ L) ∧
    (∀ v, select parent.length start stop = .ok v →
      (v.start : Int) = s ∧ (v.stop : Int) = e ∧ s ≤ e ∧ e ≤ L ∧
      v.read parent = .ok (parent.slice s.toNat e.toNat)) ∧
    (¬(0 ≤ s ∧ s ≤ L ∧ e ≤ L) →
      select parent.length start stop = .error (.invalidRange s e parent.length)) ∧
    ∀ v, MadeFor parent v →
      v.start ≤ v.stop ∧ v.start + v.len = v.stop ∧ (v.isEmpty = true ↔ v.len = 0) ∧
      v.read parent = .ok (parent.slice v.start v.stop) ∧
      (parent.slice v.start v.stop).length = v.len := by
  intro L s e
  have hs : fromEnd parent.length start = s := rfl
  have he : selectStop parent.length s stop = e := by
    cases stop with
    | none => rfl
    | some stop => simp only [selectStop, fromEnd, e, L, Int.max_comm s]
  have hL : L = parent.length := rfl
  have hcases := select_cases parent.length start stop
  rw [hs, he] at hcases
  obtain ⟨w, hstart, hstop, hw, h⟩ | ⟨hn, h⟩ := hcases
  · have hle := w.start_le_stop
    have hin : 0 ≤ s ∧ s ≤ L ∧ e ≤ L := by omega
    refine ⟨⟨fun _ => hin, fun _ => ⟨w, h⟩⟩, ?_, fun hn => absurd hin hn, fun _ => MadeFor.reads⟩
    intro v hv
    cases h.symm.trans hv
    refine ⟨hstart, hstop, by omega, hin.2.2, ?_⟩
    rw [← hstart, ← hstop]
    exact read_of_covered hw
  · have hout : ¬(0 ≤ s ∧ s ≤ L ∧ e ≤ L) := by omega
    have hnone : ∀ v, select parent.length start stop ≠ .ok v := by
      intro v hv
      cases h.symm.trans hv
    refine ⟨⟨?_, fun hin => absurd hin hout⟩, fun v hv => absurd hv (hnone v), fun _ => h,
      fun _ => MadeFor.reads⟩
    rintro ⟨v, hv⟩
    exact absurd hv (hnone v)

example : select 4 (-6) (some (-9)) = .error (.invalidRange (-2) (-2) 4) := rfl

-- ---------------------------------------------------------------------------
-- Slices of a window
-- ---------------------------------------------------------------------------

section
variable (v : View) (parent : Bytes) (start : Int) (stop : Option Int) (value : Bytes)

theorem replaceSlice_of_before (h : start < -v.len) :
    v.replaceSlice parent start stop value = (.error (.indexOutOfRange start v.len), parent) := by
  have hf : fromEnd v.len start < 0 := by
    unfold fromEnd
    omega
  exact if_pos hf

theorem replaceSlice_of_not_before (h : -v.len ≤ start) :
    v.replaceSlice parent start stop value =
      v.splice parent (fromEnd v.len start).toNat
        (sliceStop v.len (fromEnd v.len start).toNat stop) value := by
  have hf : ¬fromEnd v.len start < 0 := by
    unfold fromEnd
    omega
  exact if_neg hf

theorem splice_index {first last : Nat} {index : Int} {len : Nat}
    (h : (v.splice parent first last value).1 = .error (.indexOutOfRange index len)) :
    index = (min first largestIndex : Nat) ∧ len = v.len ∧ ¬v.IsPosition first := by
  obtain ⟨hb, hs⟩ | ⟨-, -, hs⟩ | ⟨-, -, -, hs⟩ | ⟨-, -, -, hs⟩ :=
    v.splice_cases parent first last value <;> rw [hs] at h <;> cases h
  exact ⟨rfl, rfl, hb⟩

theorem replaceSlice_index {index : Int} {len : Nat} (hstart : start ≤ largestIndex)
    (h : (v.replaceSlice parent start stop value).1 = .error (.indexOutOfRange index len)) :
    index = start ∧ len = v.len := by
  by_cases hb : start < -v.len
  · rw [replaceSlice_of_before v parent start stop value hb] at h
    cases h
    exact ⟨rfl, rfl⟩
  · rw [replaceSlice_of_not_before v parent start stop value (by omega)] at h
    obtain ⟨hi, hl, hp⟩ := v.splice_index parent value h
    refine ⟨?_, hl⟩
    -- A negative start that is not before the window is one of its positions.
    unfold IsPosition fromEnd at *
    split at hp <;> omega

end

/-- A start before the window is refused with the index that the caller gave. Any other
start and stop name a range of positions, and replacing the slice is replacing that range,
down to the fault and the bytes. So no index fault names a translated start. -/
theorem replaceSlice_exact (v : View) (parent : Bytes) (start : Int) (stop : Option Int)
    (value : Bytes) :
    (start < -v.len →
      v.replaceSlice parent start stop value =
        (.error (.indexOutOfRange start v.len), parent)) ∧
    (-v.len ≤ start →
      let lo := if start < 0 then start + v.len else start
      let hi := match stop with
        | none => (v.len : Int)
        | some stop => if stop = 0 then lo else if stop < 0 then max 0 (stop + v.len) else stop
      0 ≤ lo ∧ 0 ≤ hi ∧
      v.replaceSlice parent start stop value =
        v.replace parent (.included lo.toNat) (.excluded hi.toNat) value) ∧
    (start ≤ largestIndex → ∀ index len,
      (v.replaceSlice parent start stop value).1 = .error (.indexOutOfRange index len) →
      index = start ∧ len = v.len) := by
  refine ⟨v.replaceSlice_of_before parent start stop value, ?_, fun hstart _ _ =>
    v.replaceSlice_index parent start stop value hstart⟩
  intro hb lo hi
  have hlo : 0 ≤ lo := by
    simp only [lo]
    omega
  have hhi : 0 ≤ hi := by
    simp only [hi]
    cases stop <;> grind
  refine ⟨hlo, hhi, ?_⟩
  rw [v.replaceSlice_of_not_before parent start stop value hb]
  exact congrArg (v.splice parent lo.toNat · value) (sliceStop_toNat v.len lo stop)

example : replaceSlice ⟨1, 5, by decide⟩ [0, 1, 2, 3, 4, 5] (-2) none [8, 9] =
    (.ok (), [0, 1, 2, 8, 9, 5]) := rfl

end GenericNetlink.View
