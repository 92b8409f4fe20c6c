import GenericNetlink.Fault
import GenericNetlink.Layout.Bytes

/-!
# Bounded views

A view is a window of fixed length over a buffer. It holds offsets only, and the
buffer is handed to every access, so one view can be used on a buffer that has
changed meanwhile, or on another one. Writes happen in place: they never change
the length of the buffer, they stay inside the window, and a refused write
leaves every byte as it was.
-/

namespace GenericNetlink

open Text

structure View where
  start : Nat
  stop : Nat
  start_le_stop : start ≤ stop := by omega
  deriving DecidableEq

inductive Bound
  | included (position : Nat)
  | excluded (position : Nat)
  | unbounded
  deriving DecidableEq

namespace Bound

def largestPosition : Nat := UInt64.size - 1

/-- The first position of a range that begins with a bound. None follows the largest one. -/
def first? : Bound → Option Nat
  | .included position => some position
  | .excluded position => if position < largestPosition then some (position + 1) else none
  | .unbounded => some 0

def last (len : Nat) : Bound → Nat
  | .included position => min (position + 1) largestPosition
  | .excluded position => position
  | .unbounded => len

end Bound

namespace View

/-- The largest index that a fault can name; larger ones are reported as this one. -/
def largestIndex : Nat := UInt64.size / 2 - 1

def len (v : View) : Nat := v.stop - v.start

def isEmpty (v : View) : Bool := v.start == v.stop

theorem start_add_len (v : View) : v.start + v.len = v.stop :=
  Nat.add_sub_cancel' v.start_le_stop

theorem isEmpty_iff {v : View} : v.isEmpty = true ↔ v.len = 0 := by
  have hs := v.start_add_len
  rw [isEmpty, beq_iff_eq]
  omega

/-- A position to write from: one of the bytes, or zero if there are none. -/
def IsPosition (v : View) (position : Nat) : Prop :=
  position < v.len ∨ (position = 0 ∧ v.len = 0)

instance : Inspect View where
  shown v := .record "BoundedView" [("start", .nat v.start), ("stop", .nat v.stop)] true

-- ---------------------------------------------------------------------------
-- Selecting a window
-- ---------------------------------------------------------------------------

def fromEnd (len : Nat) (offset : Int) : Int := if offset < 0 then offset + len else offset

/-- Where a selection that begins at `start` ends: at the end of the buffer if no
stop is given, at `start` if the stop is zero, else at the stop but not before `start`. -/
def selectStop (len : Nat) (start : Int) : Option Int → Int
  | none => len
  | some stop => if stop = 0 then start else max (fromEnd len stop) start

theorem le_selectStop {len : Nat} {start : Int} (h : start ≤ len) (stop : Option Int) :
    start ≤ selectStop len start stop := by
  cases stop with
  | none => exact h
  | some stop =>
    simp only [selectStop]
    split <;> omega

def select (len : Nat) (start : Int) (stop : Option Int) : Except Fault View :=
  let first := fromEnd len start
  let last := selectStop len first stop
  if h : first < 0 ∨ (len : Int) < first ∨ (len : Int) < last then
    .error (.invalidRange first last len)
  else
    .ok {
      start := first.toNat
      stop := last.toNat
      start_le_stop := by
        have := @le_selectStop len first (by omega) stop
        show first.toNat ≤ (selectStop len first stop).toNat
        omega
    }

def whole (len : Nat) : View := ⟨0, len, Nat.zero_le _⟩

/-- The two ends of a selection. The stop is not before the start, so that only the
start can lie before the buffer. -/
theorem select_cases (len : Nat) (start : Int) (stop : Option Int) :
    (∃ v : View, (v.start : Int) = fromEnd len start ∧
      (v.stop : Int) = selectStop len (fromEnd len start) stop ∧ v.stop ≤ len ∧
      select len start stop = .ok v) ∨
    ((fromEnd len start < 0 ∨ len < fromEnd len start ∨
        len < selectStop len (fromEnd len start) stop) ∧
      select len start stop =
        .error (.invalidRange (fromEnd len start)
          (selectStop len (fromEnd len start) stop) len)) := by
  by_cases h : fromEnd len start < 0 ∨ len < fromEnd len start ∨
      len < selectStop len (fromEnd len start) stop
  · exact .inr ⟨h, dif_pos h⟩
  · have hle := @le_selectStop len (fromEnd len start) (by omega) stop
    refine .inl ⟨_, ?_, ?_, ?_, dif_neg h⟩
    · exact Int.toNat_of_nonneg (by omega)
    · exact Int.toNat_of_nonneg (by omega)
    · exact Int.toNat_le.mpr (by omega)

-- ---------------------------------------------------------------------------
-- Reading
-- ---------------------------------------------------------------------------

def checkParent (v : View) (parent : Bytes) : Except Fault Unit :=
  if parent.length < v.stop then .error (.invalidRange v.start v.stop parent.length) else .ok ()

def resolveIndex (v : View) (index : Int) : Except Fault Nat :=
  let resolved := fromEnd v.len index
  if resolved < 0 ∨ (v.len : Int) ≤ resolved then .error (.indexOutOfRange index v.len)
  else .ok resolved.toNat

def read (v : View) (parent : Bytes) : Except Fault Bytes := do
  v.checkParent parent
  return parent.slice v.start v.stop

def copy (v : View) (parent : Bytes) : Except Fault Bytes := v.read parent

def get (v : View) (parent : Bytes) (index : Int) : Except Fault UInt8 := do
  let position ← v.resolveIndex index
  let bytes ← v.read parent
  return bytes.getD position 0

-- ---------------------------------------------------------------------------
-- Writing
-- ---------------------------------------------------------------------------

-- A mutation comes back with its outcome and with the buffer as it leaves it,
-- whether it was refused or not.

def set (v : View) (parent : Bytes) (index : Int) (value : UInt8) : Except Fault Unit × Bytes :=
  match v.resolveIndex index with
  | .error fault => (.error fault, parent)
  | .ok position =>
    match v.checkParent parent with
    | .error fault => (.error fault, parent)
    | .ok () => (.ok (), parent.overwrite (v.start + position) [value])

/-- Overwrite the positions from `start` up to `stop`, clipped to the window. The
start has to be a position of the window, the empty window having the position
zero; the value has to fit; the buffer has to reach far enough; in this order. -/
def splice (v : View) (parent : Bytes) (start stop : Nat) (value : Bytes) :
    Except Fault Unit × Bytes :=
  let target := min stop v.len - start
  if v.len < start ∨ (start = v.len ∧ v.len ≠ 0) then
    (.error (.indexOutOfRange (min start largestIndex : Nat) v.len), parent)
  else if target ≠ value.length then (.error (.viewLength target value.length), parent)
  else
    match v.checkParent parent with
    | .error fault => (.error fault, parent)
    | .ok () => (.ok (), parent.overwrite (v.start + start) value)

def replace (v : View) (parent : Bytes) (lo hi : Bound) (value : Bytes) :
    Except Fault Unit × Bytes :=
  match lo.first? with
  | none => (.error (.indexOutOfRange largestIndex v.len), parent)
  | some first => v.splice parent first (hi.last v.len) value

def sliceStop (len start : Nat) : Option Int → Nat
  | none => len
  | some stop => if stop = 0 then start else (fromEnd len stop).toNat

theorem sliceStop_toNat (len : Nat) (lo : Int) (stop : Option Int) :
    sliceStop len lo.toNat stop = Int.toNat (match stop with
      | none => (len : Int)
      | some stop => if stop = 0 then lo else if stop < 0 then max 0 (stop + len) else stop) := by
  cases stop with
  | none => rfl
  | some stop =>
    simp only [sliceStop, fromEnd]
    split
    · rfl
    · split <;> omega

def replaceSlice (v : View) (parent : Bytes) (start : Int) (stop : Option Int) (value : Bytes) :
    Except Fault Unit × Bytes :=
  let first := fromEnd v.len start
  if first < 0 then (.error (.indexOutOfRange start v.len), parent)
  else v.splice parent first.toNat (sliceStop v.len first.toNat stop) value

def write (v : View) (parent : Bytes) (value : Bytes) : Except Fault Unit × Bytes :=
  v.replace parent .unbounded .unbounded value

/-- A view cannot shrink, so deletion is always refused. -/
def delete (_v : View) (parent : Bytes) (_index : Int) : Except Fault Unit × Bytes :=
  (.error .viewDeletion, parent)

inductive Edit
  | set (index : Int) (value : UInt8)
  | replace (lo hi : Bound) (value : Bytes)
  | replaceSlice (start : Int) (stop : Option Int) (value : Bytes)
  | write (value : Bytes)
  | delete (index : Int)
  deriving DecidableEq

def apply (v : View) (parent : Bytes) : Edit → Except Fault Unit × Bytes
  | .set index value => v.set parent index value
  | .replace lo hi value => v.replace parent lo hi value
  | .replaceSlice start stop value => v.replaceSlice parent start stop value
  | .write value => v.write parent value
  | .delete index => v.delete parent index

-- ---------------------------------------------------------------------------
-- What a mutation can do
-- ---------------------------------------------------------------------------

theorem checkParent_cases (v : View) (parent : Bytes) :
    (parent.length < v.stop ∧
      v.checkParent parent = .error (.invalidRange v.start v.stop parent.length)) ∨
    (v.stop ≤ parent.length ∧ v.checkParent parent = .ok ()) := by
  unfold checkParent
  split
  · exact .inl ⟨by assumption, rfl⟩
  · exact .inr ⟨by omega, rfl⟩

theorem read_cases (v : View) (parent : Bytes) :
    (parent.length < v.stop ∧
      v.read parent = .error (.invalidRange v.start v.stop parent.length)) ∨
    (v.stop ≤ parent.length ∧ v.read parent = .ok (parent.slice v.start v.stop)) := by
  obtain ⟨hp, hc⟩ | ⟨hp, hc⟩ := v.checkParent_cases parent
  · exact .inl ⟨hp, by rw [read, hc]; rfl⟩
  · exact .inr ⟨hp, by rw [read, hc]; rfl⟩

theorem read_of_covered {v : View} {parent : Bytes} (h : v.stop ≤ parent.length) :
    v.read parent = .ok (parent.slice v.start v.stop) := by
  obtain ⟨hp, -⟩ | ⟨-, hr⟩ := v.read_cases parent
  · exact absurd hp (Nat.not_lt.mpr h)
  · exact hr

theorem length_slice_of_covered {v : View} {parent : Bytes} (h : v.stop ≤ parent.length) :
    (parent.slice v.start v.stop).length = v.len := by
  rw [Bytes.length_slice, len]
  omega

theorem resolveIndex_lt {v : View} {index : Int} {position : Nat}
    (h : v.resolveIndex index = .ok position) : position < v.len := by
  unfold resolveIndex at h
  simp only at h
  split at h
  · cases h
  · cases h
    omega

theorem set_cases (v : View) (parent : Bytes) (index : Int) (value : UInt8) :
    (∃ fault, v.resolveIndex index = .error fault ∧
      v.set parent index value = (.error fault, parent)) ∨
    (∃ position, v.resolveIndex index = .ok position ∧ parent.length < v.stop ∧
      v.set parent index value =
        (.error (.invalidRange v.start v.stop parent.length), parent)) ∨
    (∃ position, v.resolveIndex index = .ok position ∧ v.stop ≤ parent.length ∧
      v.set parent index value = (.ok (), parent.overwrite (v.start + position) [value])) := by
  unfold set
  cases hi : v.resolveIndex index with
  | error fault => exact .inl ⟨fault, rfl, rfl⟩
  | ok position =>
    refine .inr ?_
    obtain ⟨hp, hc⟩ | ⟨hp, hc⟩ := v.checkParent_cases parent <;> rw [hc]
    · exact .inl ⟨position, rfl, hp, rfl⟩
    · exact .inr ⟨position, rfl, hp, rfl⟩

theorem splice_cases (v : View) (parent : Bytes) (start stop : Nat) (value : Bytes) :
    (¬v.IsPosition start ∧ v.splice parent start stop value =
      (.error (.indexOutOfRange (min start largestIndex : Nat) v.len), parent)) ∨
    (v.IsPosition start ∧ min stop v.len - start ≠ value.length ∧
      v.splice parent start stop value =
        (.error (.viewLength (min stop v.len - start) value.length), parent)) ∨
    (v.IsPosition start ∧ min stop v.len - start = value.length ∧ parent.length < v.stop ∧
      v.splice parent start stop value =
        (.error (.invalidRange v.start v.stop parent.length), parent)) ∨
    (v.IsPosition start ∧ min stop v.len - start = value.length ∧ v.stop ≤ parent.length ∧
      v.splice parent start stop value = (.ok (), parent.overwrite (v.start + start) value)) := by
  unfold splice
  by_cases hs : v.IsPosition start
  · refine .inr ?_
    have hn : ¬(v.len < start ∨ (start = v.len ∧ v.len ≠ 0)) := by
      unfold IsPosition at hs
      omega
    simp only [if_neg hn]
    by_cases ht : min stop v.len - start = value.length
    · refine .inr ?_
      rw [if_neg (not_not_intro ht)]
      obtain ⟨hp, hc⟩ | ⟨hp, hc⟩ := v.checkParent_cases parent <;> rw [hc]
      · exact .inl ⟨hs, ht, hp, rfl⟩
      · exact .inr ⟨hs, ht, hp, rfl⟩
    · exact .inl ⟨hs, ht, if_pos ht⟩
  · refine .inl ⟨hs, if_pos ?_⟩
    unfold IsPosition at hs
    omega

theorem write_cases (v : View) (parent : Bytes) (value : Bytes) :
    (v.len ≠ value.length ∧
      v.write parent value = (.error (.viewLength v.len value.length), parent)) ∨
    (v.len = value.length ∧ parent.length < v.stop ∧
      v.write parent value = (.error (.invalidRange v.start v.stop parent.length), parent)) ∨
    (v.len = value.length ∧ v.stop ≤ parent.length ∧
      v.write parent value = (.ok (), parent.overwrite v.start value)) := by
  have hp : v.IsPosition 0 := by
    unfold IsPosition
    omega
  have hc := v.splice_cases parent 0 v.len value
  rw [show min v.len v.len - 0 = v.len by omega, Nat.add_zero] at hc
  obtain ⟨h, -⟩ | ⟨-, h⟩ | ⟨-, h⟩ | ⟨-, h⟩ := hc
  · exact absurd hp h
  · exact .inl h
  · exact .inr (.inl h)
  · exact .inr (.inr h)

theorem length_set (v : View) (parent : Bytes) (index : Int) (value : UInt8) :
    (v.set parent index value).2.length = parent.length := by
  obtain ⟨fault, -, h⟩ | ⟨position, -, -, h⟩ | ⟨position, hi, hs, h⟩ :=
    v.set_cases parent index value <;> rw [h]
  have hp := resolveIndex_lt hi
  have hv := v.start_le_stop
  refine Bytes.length_overwrite ?_
  simp only [len, List.length_singleton] at *
  omega

theorem length_splice (v : View) (parent : Bytes) (start stop : Nat) (value : Bytes) :
    (v.splice parent start stop value).2.length = parent.length := by
  obtain ⟨-, h⟩ | ⟨-, -, h⟩ | ⟨-, -, -, h⟩ | ⟨hs, ht, hp, h⟩ :=
    v.splice_cases parent start stop value <;> rw [h]
  have hv := v.start_le_stop
  refine Bytes.length_overwrite ?_
  simp only [IsPosition, len] at *
  omega

theorem length_replace (v : View) (parent : Bytes) (lo hi : Bound) (value : Bytes) :
    (v.replace parent lo hi value).2.length = parent.length := by
  unfold replace
  cases lo.first? with
  | none => rfl
  | some first => exact v.length_splice parent first _ value

theorem length_apply (v : View) (parent : Bytes) (edit : Edit) :
    (v.apply parent edit).2.length = parent.length := by
  cases edit with
  | set index value => exact v.length_set parent index value
  | replace lo hi value => exact v.length_replace parent lo hi value
  | replaceSlice start stop value =>
    simp only [apply, replaceSlice]
    split
    · rfl
    · exact v.length_splice parent _ _ value
  | write value => exact v.length_replace parent .unbounded .unbounded value
  | delete index => rfl

end View

end GenericNetlink
