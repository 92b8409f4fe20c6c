import GenericNetlink.Text.HexDump
import GenericNetlink.Layout.Checked
import GenericNetlink.Layout.View

/-!
# Structures of fixed layout

A structure without pointers is one buffer cut into fields of declared widths,
one after the other and without padding. Fields are read and written as bytes or
as little-endian integers; a field can also be reached through a view. A refused
write changes nothing.

The widths are added up on words. If their sum is none, a structure of these widths
cannot be made; once there is one, all sums of its widths are words.
-/

namespace GenericNetlink

open Text

def totalWidth : List Nat → Nat
  | [] => 0
  | w :: rest => w + totalWidth rest

def addWidth (sum w : Nat) : Except Stop Nat := do
  return (← IntType.u64.add sum w).toNat

def sumWidths (widths : List Nat) : Except Stop Nat := widths.foldlM addWidth 0

theorem addWidth_cases (n w : Nat) :
    (n + w < UInt64.size ∧ addWidth n w = .ok (n + w)) ∨
    (UInt64.size ≤ n + w ∧ addWidth n w = .error (.trap (.overflow .u64 (n + w : Nat)))) := by
  have hm : (IntType.u64.modulus : Int) = UInt64.size := by decide
  have hh : IntType.u64.Holds (n + w : Nat) ↔ n + w < UInt64.size := by
    show 0 ≤ ((n + w : Nat) : Int) ∧ ((n + w : Nat) : Int) < IntType.u64.modulus ↔ _
    omega
  rw [addWidth, IntType.add, ← Int.natCast_add]
  by_cases h : n + w < UInt64.size
  · exact .inl ⟨h, by rw [IntType.fit, if_pos (hh.mpr h)]; rfl⟩
  · exact .inr ⟨Nat.not_lt.mp h, by rw [IntType.fit, if_neg (mt hh.mp h)]; rfl⟩

theorem foldlM_addWidth_cases (widths : List Nat) {sum : Nat} (h : sum < UInt64.size) :
    (sum + totalWidth widths < UInt64.size ∧
      widths.foldlM addWidth sum = .ok (sum + totalWidth widths)) ∨
    (UInt64.size ≤ sum + totalWidth widths ∧ ∃ n : Nat, UInt64.size ≤ n ∧
      widths.foldlM addWidth sum = .error (.trap (.overflow .u64 n))) := by
  -- The first partial sum that is no word is where the computation stops.
  induction widths generalizing sum with
  | nil => exact .inl ⟨h, rfl⟩
  | cons w rest ih =>
    rw [List.foldlM_cons, totalWidth, ← Nat.add_assoc]
    obtain ⟨hlt, hs⟩ | ⟨hle, hs⟩ := addWidth_cases sum w <;> rw [hs]
    · exact ih hlt
    · exact .inr ⟨by omega, _, hle, rfl⟩

theorem sumWidths_cases (widths : List Nat) :
    (totalWidth widths < UInt64.size ∧ sumWidths widths = .ok (totalWidth widths)) ∨
    (UInt64.size ≤ totalWidth widths ∧ ∃ n : Nat, UInt64.size ≤ n ∧
      sumWidths widths = .error (.trap (.overflow .u64 n))) := by
  have h := foldlM_addWidth_cases widths (show 0 < UInt64.size by decide)
  rwa [Nat.zero_add] at h

theorem sumWidths_of_lt {widths : List Nat} (h : totalWidth widths < UInt64.size) :
    sumWidths widths = .ok (totalWidth widths) := by
  obtain ⟨-, hs⟩ | ⟨hle, -⟩ := sumWidths_cases widths
  · exact hs
  · omega

theorem eq_totalWidth_of_sumWidths {widths : List Nat} {size : Nat}
    (h : sumWidths widths = .ok size) : size = totalWidth widths ∧ size < UInt64.size := by
  obtain ⟨hlt, hs⟩ | ⟨-, n, -, hs⟩ := sumWidths_cases widths <;> cases hs.symm.trans h
  exact ⟨rfl, hlt⟩

/-- A buffer that is exactly as long as its fields together, a length that is a word. -/
structure FixedStruct where
  widths : List Nat
  bytes : Bytes
  length_bytes : bytes.length = totalWidth widths
  length_lt : bytes.length < UInt64.size
  deriving DecidableEq

namespace FixedStruct

@[ext] theorem ext {s t : FixedStruct} (hw : s.widths = t.widths) (hb : s.bytes = t.bytes) :
    s = t := by
  cases s; cases t; simp_all

-- ---------------------------------------------------------------------------
-- Making a structure
-- ---------------------------------------------------------------------------

def zeroed (widths : List Nat) : Except Stop FixedStruct :=
  match h : sumWidths widths with
  | .error stop => .error stop
  | .ok size => .ok {
      widths
      bytes := List.replicate size 0
      length_bytes := by rw [List.length_replicate, (eq_totalWidth_of_sumWidths h).1]
      length_lt := by rw [List.length_replicate]; exact (eq_totalWidth_of_sumWidths h).2
    }

/-- The structure at the head of `data`; bytes beyond it are ignored. -/
def decode (widths : List Nat) (data : Bytes) : Except Stop FixedStruct :=
  match h : sumWidths widths with
  | .error stop => .error stop
  | .ok size =>
    if hl : data.length < size then .error (.refused (.truncated size data.length))
    else .ok {
      widths
      bytes := data.take size
      length_bytes := by
        rw [List.length_take, Nat.min_eq_left (by omega), (eq_totalWidth_of_sumWidths h).1]
      length_lt := by
        rw [List.length_take, Nat.min_eq_left (by omega)]
        exact (eq_totalWidth_of_sumWidths h).2
    }

theorem zeroed_of_trap {widths : List Nat} {stop : Stop} (h : sumWidths widths = .error stop) :
    zeroed widths = .error stop := by
  unfold zeroed
  split <;> cases ‹sumWidths widths = _›.symm.trans h
  rfl

theorem decode_of_trap {widths : List Nat} {stop : Stop} (h : sumWidths widths = .error stop)
    (data : Bytes) : decode widths data = .error stop := by
  unfold decode
  split <;> cases ‹sumWidths widths = _›.symm.trans h
  rfl

theorem zeroed_of_lt {widths : List Nat} (h : totalWidth widths < UInt64.size) :
    ∃ s, s.widths = widths ∧ s.bytes = List.replicate (totalWidth widths) 0 ∧
      zeroed widths = .ok s := by
  unfold zeroed
  split <;> cases ‹sumWidths widths = _›.symm.trans (sumWidths_of_lt h)
  exact ⟨_, rfl, rfl, rfl⟩

theorem decode_of_lt {widths : List Nat} (h : totalWidth widths < UInt64.size) (data : Bytes) :
    (data.length < totalWidth widths ∧
      decode widths data = .error (.refused (.truncated (totalWidth widths) data.length))) ∨
    (totalWidth widths ≤ data.length ∧ ∃ s, s.widths = widths ∧
      s.bytes = data.take (totalWidth widths) ∧ decode widths data = .ok s) := by
  unfold decode
  split <;> cases ‹sumWidths widths = _›.symm.trans (sumWidths_of_lt h)
  split
  · exact .inl ⟨‹_›, rfl⟩
  · exact .inr ⟨Nat.not_lt.mp ‹_›, _, rfl, rfl, rfl⟩

theorem totalWidth_lt (s : FixedStruct) : totalWidth s.widths < UInt64.size :=
  s.length_bytes ▸ s.length_lt

def size (s : FixedStruct) : Nat := s.bytes.length

def fieldCount (s : FixedStruct) : Nat := s.widths.length

def isEmpty (s : FixedStruct) : Bool := s.bytes.isZero

def display (s : FixedStruct) : String := hexDump s.bytes

instance : Inspect FixedStruct where
  shown s := .record "FixedLayoutStruct"
    [("signature", .list (s.widths.map .nat)), ("buf", .bytes s.bytes)] true

-- ---------------------------------------------------------------------------
-- Field ranges
-- ---------------------------------------------------------------------------

def offset (s : FixedStruct) (i : Nat) : Nat := totalWidth (s.widths.take i)

theorem totalWidth_take_add {ws : List Nat} {i w : Nat} (h : ws[i]? = some w) :
    totalWidth (ws.take i) + w ≤ totalWidth ws := by
  induction ws generalizing i with
  | nil => simp at h
  | cons x rest ih =>
    cases i with
    | zero => simp at h; simp [totalWidth, h]
    | succ i =>
      have := ih (i := i) (by simpa using h)
      simp only [List.take_succ_cons, totalWidth]
      omega

theorem offset_add_width_le {s : FixedStruct} {i w : Nat} (h : s.widths[i]? = some w) :
    s.offset i + w ≤ s.bytes.length := by
  rw [s.length_bytes]
  exact totalWidth_take_add h

theorem range_on_words {s : FixedStruct} {i w : Nat} (h : s.widths[i]? = some w) :
    sumWidths (s.widths.take i) = .ok (s.offset i) ∧
    addWidth (s.offset i) w = .ok (s.offset i + w) := by
  have hlt := Nat.lt_of_le_of_lt (offset_add_width_le h) s.length_lt
  refine ⟨sumWidths_of_lt (Nat.lt_of_le_of_lt (Nat.le_add_right ..) hlt), ?_⟩
  obtain ⟨-, hs⟩ | ⟨hle, -⟩ := addWidth_cases (s.offset i) w
  · exact hs
  · omega

theorem offset_add_width_le_offset {s : FixedStruct} {i j w : Nat} (h : s.widths[i]? = some w)
    (hij : i < j) : s.offset i + w ≤ s.offset j := by
  have hw : (s.widths.take j)[i]? = some w := by rw [List.getElem?_take_of_lt hij, h]
  have hle := totalWidth_take_add hw
  rwa [List.take_take, Nat.min_eq_left (by omega)] at hle

def width (s : FixedStruct) (i : Nat) : Except Fault Nat :=
  match s.widths[i]? with
  | some w => .ok w
  | none => .error (.fieldIndex i s.fieldCount)

def fieldView (s : FixedStruct) (i : Nat) : Except Fault View := do
  let w ← s.width i
  return { start := s.offset i, stop := s.offset i + w }

-- ---------------------------------------------------------------------------
-- Access by field
-- ---------------------------------------------------------------------------

def field (s : FixedStruct) (i : Nat) : Except Fault Bytes := do
  let w ← s.width i
  return s.bytes.slice (s.offset i) (s.offset i + w)

/-- Overwrite field `i` by a value of its width. The structure comes back in any case. -/
def setField (s : FixedStruct) (i : Nat) (value : Bytes) : Except Fault Unit × FixedStruct :=
  match h : s.widths[i]? with
  | none => (.error (.fieldIndex i s.fieldCount), s)
  | some w =>
    if hw : w = value.length then
      (.ok (), {
        s with
        bytes := s.bytes.overwrite (s.offset i) value
        length_bytes := by
          rw [Bytes.length_overwrite (hw ▸ offset_add_width_le h), s.length_bytes]
        length_lt := by
          rw [Bytes.length_overwrite (hw ▸ offset_add_width_le h)]
          exact s.length_lt
      })
    else (.error (.fieldLength i w value.length), s)

def read (s : FixedStruct) (t : IntType) (i : Nat) : Except Fault Int := do
  let bytes ← s.field i
  if bytes.length = t.size then return t.decode bytes
  else throw (.fieldLength i bytes.length t.size)

def write (s : FixedStruct) (t : IntType) (i : Nat) (n : Int) : Except Fault Unit × FixedStruct :=
  s.setField i (t.encode n)

def editView (s : FixedStruct) (v : View) (edit : View.Edit) : Except Fault Unit × FixedStruct :=
  let result := v.apply s.bytes edit
  (result.1, {
    s with
    bytes := result.2
    length_bytes := (v.length_apply s.bytes edit).trans s.length_bytes
    length_lt := by
      rw [v.length_apply s.bytes edit]
      exact s.length_lt
  })

inductive Edit
  | setField (i : Nat) (value : Bytes)
  | write (t : IntType) (i : Nat) (n : Int)
  | view (v : View) (edit : View.Edit)
  deriving DecidableEq

def apply (s : FixedStruct) : Edit → Except Fault Unit × FixedStruct
  | .setField i value => s.setField i value
  | .write t i n => s.write t i n
  | .view v edit => s.editView v edit

-- ---------------------------------------------------------------------------
-- What access by field can do
-- ---------------------------------------------------------------------------

theorem field_of_width {s : FixedStruct} {i w : Nat} (h : s.widths[i]? = some w) :
    s.field i = .ok (s.bytes.slice (s.offset i) (s.offset i + w)) := by
  simp only [field, width, h]
  rfl

theorem field_overwrite {s t : FixedStruct} {i : Nat} {value : Bytes}
    (h : s.widths[i]? = some value.length) (hw : t.widths = s.widths)
    (hb : t.bytes = s.bytes.overwrite (s.offset i) value) : t.field i = .ok value := by
  have ho : t.offset i = s.offset i := by rw [offset, hw, offset]
  rw [field_of_width (hw ▸ h), ho, hb, Bytes.slice_overwrite_same (offset_add_width_le h)]

theorem fieldView_cases (s : FixedStruct) (i : Nat) :
    (∃ v : View, s.widths[i]? = some v.len ∧ v.start = s.offset i ∧ v.stop ≤ s.bytes.length ∧
      s.fieldView i = .ok v ∧ s.field i = .ok (s.bytes.slice v.start v.stop)) ∨
    (s.widths[i]? = none ∧ s.fieldView i = .error (.fieldIndex i s.fieldCount) ∧
      s.field i = .error (.fieldIndex i s.fieldCount)) := by
  cases hw : s.widths[i]? with
  | none =>
    refine .inr ⟨rfl, ?_, ?_⟩
    · simp only [fieldView, width, hw]
      rfl
    · simp only [field, width, hw]
      rfl
  | some w =>
    let v : View := { start := s.offset i, stop := s.offset i + w }
    have hl : v.len = w := Nat.add_sub_cancel_left ..
    refine .inl ⟨v, hl ▸ rfl, rfl, offset_add_width_le hw, ?_, field_of_width hw⟩
    simp only [fieldView, width, hw]
    rfl

/-- The three ends of setting a field, in the order in which they are decided. -/
theorem setField_cases (s : FixedStruct) (i : Nat) (value : Bytes) :
    (s.widths[i]? = none ∧ s.setField i value = (.error (.fieldIndex i s.fieldCount), s)) ∨
    (∃ w, s.widths[i]? = some w ∧ w ≠ value.length ∧
      s.setField i value = (.error (.fieldLength i w value.length), s)) ∨
    (s.widths[i]? = some value.length ∧ ∃ t, t.widths = s.widths ∧
      t.bytes = s.bytes.overwrite (s.offset i) value ∧ s.setField i value = (.ok (), t)) := by
  unfold setField
  split
  · exact .inl ⟨‹_›, rfl⟩
  · rename_i w hw
    by_cases hl : w = value.length
    · subst hl
      refine .inr (.inr ⟨hw, _, ?_, ?_, dif_pos rfl⟩) <;> rfl
    · exact .inr (.inl ⟨w, hw, hl, dif_neg hl⟩)

theorem widths_setField (s : FixedStruct) (i : Nat) (value : Bytes) :
    (s.setField i value).2.widths = s.widths := by
  unfold setField
  split
  · rfl
  · split <;> rfl

theorem widths_apply (s : FixedStruct) (edit : Edit) : (s.apply edit).2.widths = s.widths := by
  cases edit with
  | setField i value => exact s.widths_setField i value
  | write t i n => exact s.widths_setField i (t.encode n)
  | view v edit => rfl

example : (zeroed [1, 2]).map inspect =
    .ok "FixedLayoutStruct \x7b signature: [1, 2], buf: [0, 0, 0] \x7d" := rfl
example : decode [UInt64.size - 1, 2] [7] =
    .error (.trap (.overflow .u64 (UInt64.size + 1))) := rfl

end FixedStruct

end GenericNetlink
