/-!
# Byte strings

A buffer is a list of bytes. `slice` reads a range and `overwrite` replaces the
bytes from an offset on; `overwrite` is described by its length, by what it puts
into its range, and by what it leaves alone.
-/

namespace GenericNetlink

abbrev Bytes := List UInt8

namespace Bytes

def slice (b : Bytes) (start stop : Nat) : Bytes := (b.drop start).take (stop - start)

/-- `b` with `v` written from `offset` on. The range has to lie in `b`. -/
def overwrite (b : Bytes) (offset : Nat) (v : Bytes) : Bytes :=
  b.take offset ++ v ++ b.drop (offset + v.length)

def isZero (b : Bytes) : Bool := b.all (· == 0)

theorem length_slice (b : Bytes) (start stop : Nat) :
    (b.slice start stop).length = min (stop - start) (b.length - start) := by
  simp [slice]

theorem slice_append_slice (b : Bytes) {i j k : Nat} (hij : i ≤ j) (hjk : j ≤ k) :
    b.slice i j ++ b.slice j k = b.slice i k := by
  simp only [slice]
  rw [show k - i = (j - i) + (k - j) by omega, List.take_add, List.drop_drop,
    show i + (j - i) = j by omega]

theorem slice_all (b : Bytes) : b.slice 0 b.length = b := by simp [slice]

theorem isZero_append (a b : Bytes) : isZero (a ++ b) = (isZero a && isZero b) :=
  List.all_append

theorem isZero_iff {b : Bytes} : b.isZero = true ↔ ∀ x ∈ b, x = 0 := by
  simp [isZero]

theorem length_overwrite {b v : Bytes} {offset : Nat} (h : offset + v.length ≤ b.length) :
    (b.overwrite offset v).length = b.length := by
  simp [overwrite]; omega

theorem getElem?_slice (b : Bytes) (start stop i : Nat) :
    (b.slice start stop)[i]? = if i < stop - start then b[start + i]? else none := by
  simp [slice, List.getElem?_take]

theorem getElem?_overwrite {b v : Bytes} {offset : Nat} (h : offset + v.length ≤ b.length)
    (i : Nat) :
    (b.overwrite offset v)[i]? =
      if offset ≤ i ∧ i < offset + v.length then v[i - offset]? else b[i]? := by
  have hlen : (b.take offset).length = offset := by simp; omega
  unfold overwrite
  by_cases hlt : i < offset
  · rw [List.append_assoc, List.getElem?_append_left (by omega), List.getElem?_take_of_lt hlt,
      if_neg (by omega)]
  · by_cases hin : i < offset + v.length
    · rw [List.getElem?_append_left (by simp; omega), List.getElem?_append_right (by omega), hlen,
        if_pos ⟨by omega, hin⟩]
    · rw [List.getElem?_append_right (by simp; omega), List.getElem?_drop, if_neg (by omega)]
      congr 1
      simp
      omega

theorem slice_overwrite_same {b v : Bytes} {offset : Nat} (h : offset + v.length ≤ b.length) :
    (b.overwrite offset v).slice offset (offset + v.length) = v := by
  apply List.ext_getElem?
  intro i
  rw [getElem?_slice, getElem?_overwrite h]
  by_cases hi : i < v.length
  · rw [if_pos (by omega), if_pos ⟨by omega, by omega⟩]
    congr 1
    omega
  · rw [if_neg (by omega), List.getElem?_eq_none (by omega)]

theorem slice_overwrite_disjoint {b v : Bytes} {offset start stop : Nat}
    (h : offset + v.length ≤ b.length) (hd : stop ≤ offset ∨ offset + v.length ≤ start) :
    (b.overwrite offset v).slice start stop = b.slice start stop := by
  apply List.ext_getElem?
  intro i
  rw [getElem?_slice, getElem?_slice, getElem?_overwrite h]
  split
  · rw [if_neg (by omega)]
  · rfl

theorem slice_append_left {b : Bytes} {start stop : Nat} (h : stop ≤ b.length) (x : Bytes) :
    Bytes.slice (b ++ x) start stop = b.slice start stop := by
  apply List.ext_getElem?
  intro i
  rw [getElem?_slice, getElem?_slice]
  split
  · rw [List.getElem?_append_left (by omega)]
  · rfl

theorem overwrite_append {b v : Bytes} {offset : Nat} (h : offset + v.length ≤ b.length)
    (x : Bytes) : Bytes.overwrite (b ++ x) offset v = b.overwrite offset v ++ x := by
  rw [overwrite, overwrite, List.take_append_of_le_length (by omega),
    List.drop_append_of_le_length h]
  simp only [List.append_assoc]

example : Bytes.overwrite [1, 2, 3, 4] 1 [8, 9] = [1, 8, 9, 4] := rfl

end Bytes

end GenericNetlink
