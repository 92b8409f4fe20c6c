import GenericNetlink.Layout.ViewWords
import GenericNetlink.Proofs.Layout.SignedOffsets

/-!
# Words suffice for views

No buffer is longer than the largest offset. Then an operation on a view, made step by
step on words of 64 bits, comes to the end that it has over unbounded numbers: no sum,
difference or conversion leaves its type, and no access lies outside of the bytes
(`view_arithmetic_fits`). What carries this is that a window made for a buffer ends in it,
so that its bounds are offsets too, and that positions are taken only after their checks.
-/

namespace GenericNetlink.View

namespace OnWords

open IntType (i64 u64)
open Stop (ok_bind throw_eq refuseIf_bind_of refuseIf_bind_of_not)

theorem largestPosition_eq : Bound.largestPosition = 2 * largestIndex + 1 := rfl

theorem i64_holds_iff {n : Int} :
    i64.Holds n ↔ -(largestIndex : Int) - 1 ≤ n ∧ n ≤ largestIndex := by
  have hm : (i64.modulus : Int) = 2 * largestIndex + 2 := by decide
  show -(i64.modulus : Int) ≤ 2 * n ∧ 2 * n < i64.modulus ↔ _
  omega

theorem u64_holds_iff {n : Int} : u64.Holds n ↔ 0 ≤ n ∧ n ≤ Bound.largestPosition := by
  have hm : (u64.modulus : Int) = Bound.largestPosition + 1 := by decide
  show 0 ≤ n ∧ n < (u64.modulus : Int) ↔ _
  omega

theorem i64_fit {n : Nat} (h : n ≤ largestIndex) : i64.fit n = .ok (n : Int) :=
  IntType.fit_of_holds (i64_holds_iff.mpr (by omega))

theorem u64_fit {n : Int} (h : 0 ≤ n ∧ n ≤ Bound.largestPosition) : u64.fit n = .ok n :=
  IntType.fit_of_holds (u64_holds_iff.mpr h)

theorem i64_fit?_getD {n : Nat} : (i64.fit? n).getD largestIndex = (min n largestIndex : Nat) := by
  unfold IntType.fit?
  split
  · rename_i h
    have hn := (i64_holds_iff.mp h).2
    simp only [Option.getD_some]
    omega
  · rename_i h
    rw [i64_holds_iff] at h
    simp only [Option.getD_none]
    omega

theorem u64_fit?_sub_getD {n m : Nat} (hn : n ≤ Bound.largestPosition) :
    (u64.fit? ((n : Int) - m)).getD 0 = (n - m : Nat) := by
  unfold IntType.fit?
  split
  · rename_i h
    have hm := (u64_holds_iff.mp h).1
    simp only [Option.getD_some]
    omega
  · rename_i h
    rw [u64_holds_iff] at h
    simp only [Option.getD_none]
    omega

def reached {α : Type} (result : Except Fault α) : Except Stop α := result.mapError .refused

def left (result : Except Fault Unit × Bytes) : Except Fault Bytes :=
  result.1.map fun _ => result.2

theorem reached_ok {α : Type} (a : α) : reached (.ok a) = .ok a := rfl

/-- A computation on words ends as the one over unbounded numbers does: every step can be made. -/
structure Fits {α : Type} (onWords : Except Stop α) (unbounded : Except Fault α) : Prop where
  ends : onWords = reached unbounded
  noTrap : ∀ t, onWords ≠ .error (.trap t)

theorem fits_of_eq {α : Type} {onWords : Except Stop α} {unbounded : Except Fault α}
    (h : onWords = reached unbounded) : Fits onWords unbounded := by
  refine ⟨h, ?_⟩
  rintro t rfl
  cases unbounded <;> cases h

section
variable {length : Nat} (hl : length ≤ largestIndex)
include hl

theorem fromEnd_eq {offset : Int} (ho : i64.Holds offset) :
    fromEnd length offset = .ok (View.fromEnd length offset) := by
  rw [i64_holds_iff] at ho
  rw [fromEnd, View.fromEnd]
  split
  · exact IntType.fit_of_holds (i64_holds_iff.mpr (by omega))
  · rfl

theorem selectStop_eq {stop : Option Int} (hs : ∀ s ∈ stop, i64.Holds s) (first : Int) :
    selectStop length first stop = .ok (View.selectStop length first stop) := by
  cases stop with
  | none => rfl
  | some stop =>
    rw [selectStop, View.selectStop]
    split
    · rfl
    · rw [fromEnd_eq hl (hs stop rfl)]
      rfl

theorem sliceStop_eq {stop : Option Int} (hs : ∀ s ∈ stop, i64.Holds s) (first : Nat) :
    sliceStop length first stop = .ok (View.sliceStop length first stop : Int) := by
  cases stop with
  | none => rfl
  | some stop =>
    have hb := i64_holds_iff.mp (hs stop rfl)
    rw [sliceStop, View.sliceStop, View.fromEnd]
    split
    · rfl
    · split
      · rw [IntType.add, IntType.fit_of_holds (i64_holds_iff.mpr (by omega))]
        refine congrArg Except.ok ?_
        omega
      · refine congrArg Except.ok ?_
        omega

theorem sliceStop_le {stop : Option Int} (hs : ∀ s ∈ stop, i64.Holds s) {first : Nat}
    (hf : first ≤ largestIndex) : View.sliceStop length first stop ≤ largestIndex := by
  cases stop with
  | none => exact hl
  | some stop =>
    have hb := i64_holds_iff.mp (hs stop rfl)
    simp only [View.sliceStop, View.fromEnd]
    split <;> omega

end

-- ---------------------------------------------------------------------------
-- Ranges
-- ---------------------------------------------------------------------------

theorem first_cases (length : Nat) {lo : Bound} (h : lo.IsWord) :
    (lo.first? = none ∧
      first length lo = .error (.refused (.indexOutOfRange largestIndex length))) ∨
    ∃ position : Nat, lo.first? = some position ∧ position ≤ Bound.largestPosition ∧
      first length lo = .ok (position : Int) := by
  cases lo with
  | included position => exact .inr ⟨position, rfl, h, rfl⟩
  | unbounded =>
    refine .inr ⟨0, rfl, ?_, rfl⟩
    exact Nat.zero_le _
  | excluded position =>
    by_cases hp : position < Bound.largestPosition
    · have hw : u64.Holds (position + 1) := u64_holds_iff.mpr (by omega)
      rw [first, IntType.fit?_of_holds hw, Bound.first?, if_pos hp]
      exact .inr ⟨position + 1, rfl, hp, rfl⟩
    · have hw : ¬u64.Holds (position + 1) := by
        rw [u64_holds_iff]
        omega
      rw [first, IntType.fit?_of_not_holds hw, Bound.first?, if_neg hp]
      exact .inl ⟨rfl, rfl⟩

theorem last_eq {length : Nat} {hi : Bound} (h : hi.IsWord) :
    last length hi = (hi.last length : Nat) := by
  cases hi with
  | excluded position => rfl
  | unbounded => rfl
  | included position =>
    have hp : position ≤ Bound.largestPosition := h
    rw [last, Bound.last, IntType.fit?]
    split
    · rename_i hw
      have hfits := (u64_holds_iff.mp hw).2
      simp only [Option.getD_some]
      omega
    · rename_i hw
      rw [u64_holds_iff] at hw
      simp only [Option.getD_none]
      omega

def bounds (v : View) : Int × Int := (v.start, v.stop)

theorem select_eq {parent : Bytes} (hp : parent.length ≤ largestIndex) {start : Int}
    {stop : Option Int} (hstart : i64.Holds start) (hstop : ∀ s ∈ stop, i64.Holds s) :
    select parent start stop =
      reached ((View.select parent.length start stop).map bounds) := by
  have hlp := largestPosition_eq
  rw [select, i64_fit hp, ok_bind, fromEnd_eq hp hstart, ok_bind, selectStop_eq hp hstop, ok_bind]
  obtain ⟨v, hfirst, hlast, hv, h⟩ | ⟨hout, h⟩ := select_cases parent.length start stop <;> rw [h]
  · have hle := v.start_le_stop
    rw [refuseIf_bind_of_not _ _ (by omega), ← hlast, ← hfirst, u64_fit (by omega), ok_bind,
      u64_fit (by omega), ok_bind]
    rfl
  · exact refuseIf_bind_of _ _ hout

-- ---------------------------------------------------------------------------
-- Reading and writing
-- ---------------------------------------------------------------------------

section
variable {v : View} (hv : v.stop ≤ largestIndex)
include hv

theorem len_le : v.len ≤ largestIndex := Nat.le_trans (Nat.sub_le _ _) hv

theorem len_eq : len v = .ok (v.len : Int) := by
  have hs := v.start_add_len
  have hlp := largestPosition_eq
  have hd : (v.stop : Int) - v.start = v.len := by omega
  rw [len, IntType.sub, hd]
  exact u64_fit (by omega)

theorem checkParent_eq (parent : Bytes) :
    checkParent v parent = reached (v.checkParent parent) := by
  have hle := v.start_le_stop
  simp only [checkParent, i64_fit hv, i64_fit (Nat.le_trans hle hv), ok_bind, throw_eq]
  obtain ⟨hp, h⟩ | ⟨hp, h⟩ := v.checkParent_cases parent <;> rw [h]
  · exact if_pos hp
  · exact if_neg (Nat.not_lt.mpr hp)

theorem read_eq (parent : Bytes) : read v parent = reached (v.read parent) := by
  have hle := v.start_le_stop
  rw [read, checkParent_eq hv, View.read]
  obtain ⟨hp, h⟩ | ⟨hp, h⟩ := v.checkParent_cases parent <;> rw [h]
  · rfl
  · exact Bytes.load_of_inside (by omega)

section
variable {index : Int} (hi : i64.Holds index)
include hi

theorem resolveIndex_eq :
    resolveIndex v index = reached ((v.resolveIndex index).map (Nat.cast : Nat → Int)) := by
  have hl := len_le hv
  have hlp := largestPosition_eq
  rw [resolveIndex, len_eq hv, ok_bind, i64_fit hl, ok_bind, fromEnd_eq hl hi, ok_bind,
    View.resolveIndex]
  by_cases h : View.fromEnd v.len index < 0 ∨ (v.len : Int) ≤ View.fromEnd v.len index
  · rw [refuseIf_bind_of _ _ h, if_pos h]
    rfl
  · rw [refuseIf_bind_of_not _ _ h, if_neg h, u64_fit (by omega)]
    exact congrArg Except.ok (Int.toNat_of_nonneg (by omega)).symm

theorem get_eq (parent : Bytes) : get v parent index = reached (v.get parent index) := by
  rw [get, View.get, resolveIndex_eq hv hi, read_eq hv]
  cases hr : v.resolveIndex index with
  | error fault => rfl
  | ok position =>
    rw [Except.map, reached_ok, ok_bind]
    obtain ⟨-, h⟩ | ⟨hp, h⟩ := v.read_cases parent <;> rw [h]
    · rfl
    · have hlt := resolveIndex_lt hr
      have hlen := length_slice_of_covered hp
      rw [reached_ok, ok_bind, Bytes.load_of_inside (by omega), ok_bind]
      refine congrArg Except.ok ?_
      rw [List.getD_eq_getElem?_getD, List.getD_eq_getElem?_getD, Bytes.getElem?_slice,
        if_pos (by omega)]
      rfl

theorem set_eq (parent : Bytes) (value : UInt8) :
    set v parent index value = reached (left (v.set parent index value)) := by
  rw [set, resolveIndex_eq hv hi, checkParent_eq hv]
  obtain ⟨fault, hr, h⟩ | ⟨position, hr, hp, h⟩ | ⟨position, hr, hp, h⟩ :=
    v.set_cases parent index value <;> rw [hr, h]
  · rfl
  · rw [View.checkParent, if_pos hp]
    rfl
  · have hlt := resolveIndex_lt hr
    have hs := v.start_add_len
    have hlp := largestPosition_eq
    rw [View.checkParent, if_neg (Nat.not_lt.mpr hp), Except.map, reached_ok, ok_bind, reached_ok,
      ok_bind, IntType.add, u64_fit (by omega), ok_bind,
      Bytes.store_of_inside (by omega) (by rw [List.length_singleton]; omega)]
    rfl

end

section
variable (parent : Bytes) (value : Bytes)

theorem splice_eq {start stop : Nat} (hstart : start ≤ Bound.largestPosition) :
    splice v parent start stop value = reached (left (v.splice parent start stop value)) := by
  have hlp := largestPosition_eq
  have hl := len_le hv
  have hs := v.start_add_len
  -- The end is clipped before it is used, so that it is an offset whatever was given.
  have htarget : (u64.fit? (min (stop : Int) v.len - start)).getD 0 =
      (min stop v.len - start : Nat) := by
    have hmin : min (stop : Int) v.len = (min stop v.len : Nat) := by omega
    rw [hmin]
    exact u64_fit?_sub_getD (by omega)
  rw [splice, len_eq hv, ok_bind, i64_fit?_getD]
  simp only [htarget]
  rw [checkParent_eq hv]
  obtain ⟨hb, h⟩ | ⟨hb, ht, h⟩ | ⟨hb, ht, hp, h⟩ | ⟨hb, ht, hp, h⟩ :=
    v.splice_cases parent start stop value <;> rw [h] <;> unfold IsPosition at hb
  · exact refuseIf_bind_of _ _ (by omega)
  · rw [refuseIf_bind_of_not _ _ (by omega)]
    exact refuseIf_bind_of _ _ (by omega)
  · rw [refuseIf_bind_of_not _ _ (by omega), refuseIf_bind_of_not _ _ (by omega),
      View.checkParent, if_pos hp]
    rfl
  · rw [refuseIf_bind_of_not _ _ (by omega), refuseIf_bind_of_not _ _ (by omega),
      View.checkParent, if_neg (Nat.not_lt.mpr hp), reached_ok, ok_bind, IntType.add,
      u64_fit (by omega), ok_bind, IntType.add, u64_fit (by omega), ok_bind,
      Bytes.store_of_inside (by omega) (by omega)]
    rfl

theorem replace_eq {lo hi : Bound} (hlo : lo.IsWord) (hhi : hi.IsWord) :
    replace v parent lo hi value = reached (left (v.replace parent lo hi value)) := by
  rw [replace, len_eq hv, ok_bind, last_eq hhi, View.replace]
  obtain ⟨hf, h⟩ | ⟨position, hf, hp, h⟩ := first_cases v.len hlo <;> rw [hf, h]
  · rfl
  · rw [ok_bind]
    exact splice_eq hv parent value hp

theorem replaceSlice_eq {start : Int} {stop : Option Int} (hstart : i64.Holds start)
    (hstop : ∀ s ∈ stop, i64.Holds s) :
    replaceSlice v parent start stop value =
      reached (left (v.replaceSlice parent start stop value)) := by
  have hlp := largestPosition_eq
  have hl := len_le hv
  rw [replaceSlice, len_eq hv, ok_bind, i64_fit hl, ok_bind, fromEnd_eq hl hstart, ok_bind]
  by_cases h : View.fromEnd v.len start < 0
  · have hb : start < -v.len := by
      unfold View.fromEnd at h
      omega
    rw [if_pos h, ok_bind, v.replaceSlice_of_before parent start stop value hb]
    rfl
  · have hb : -v.len ≤ start ∧ View.fromEnd v.len start ≤ largestIndex := by
      have hi := i64_holds_iff.mp hstart
      unfold View.fromEnd at h ⊢
      omega
    -- Both ends are offsets again, so that their conversion to positions cannot trap.
    have hlast : View.sliceStop v.len (View.fromEnd v.len start).toNat stop ≤ largestIndex :=
      sliceStop_le hl hstop (by omega)
    have hfirst : View.fromEnd v.len start = ((View.fromEnd v.len start).toNat : Int) :=
      (Int.toNat_of_nonneg (by omega)).symm
    rw [if_neg h, v.replaceSlice_of_not_before parent start stop value hb.1, hfirst,
      sliceStop_eq hl hstop, ok_bind, u64_fit (by omega), ok_bind, u64_fit (by omega), ok_bind]
    exact splice_eq hv parent value (by omega)

end

end

end OnWords

open IntType (i64 u64)
open OnWords (Fits fits_of_eq left)

/-- Buffers are no longer than the largest offset, offsets are signed words and positions
unsigned ones. Then whatever is asked of a window that was made for such a buffer, also
with another buffer, every step on words can be made: no sum, difference or conversion
leaves its type, no access lies outside the bytes, and results and refusals are those over
unbounded numbers. Steps that ask whether their type holds a result (`IntType.fit?`) go on
with another one where it does not. -/
theorem view_arithmetic_fits {p : Bytes} (hp : p.length ≤ largestIndex) :
    (∀ start stop, i64.Holds start → (∀ s ∈ stop, i64.Holds s) →
      Fits (OnWords.select p start stop) ((select p.length start stop).map OnWords.bounds)) ∧
    ∀ v, MadeFor p v → ∀ q : Bytes,
      Fits (OnWords.len v) (.ok (v.len : Int)) ∧
      Fits (OnWords.read v q) (v.read q) ∧
      (∀ index, i64.Holds index →
        Fits (OnWords.resolveIndex v index)
          ((v.resolveIndex index).map (Nat.cast : Nat → Int)) ∧
        Fits (OnWords.get v q index) (v.get q index) ∧
        ∀ value, Fits (OnWords.set v q index value) (left (v.set q index value))) ∧
      (∀ lo hi value, lo.IsWord → hi.IsWord →
        Fits (OnWords.replace v q lo hi value) (left (v.replace q lo hi value))) ∧
      (∀ start stop value, i64.Holds start → (∀ s ∈ stop, i64.Holds s) →
        Fits (OnWords.replaceSlice v q start stop value)
          (left (v.replaceSlice q start stop value))) ∧
      ∀ (start stop : Nat) value, u64.Holds start → u64.Holds stop →
        Fits (OnWords.splice v q start stop value) (left (v.splice q start stop value)) := by
  refine ⟨fun start stop hs he => fits_of_eq (OnWords.select_eq hp hs he), fun v hv q => ?_⟩
  have hstop : v.stop ≤ largestIndex := Nat.le_trans hv.covered hp
  refine ⟨fits_of_eq (OnWords.len_eq hstop), fits_of_eq (OnWords.read_eq hstop q), ?_, ?_, ?_, ?_⟩
  · intro index hi
    exact ⟨fits_of_eq (OnWords.resolveIndex_eq hstop hi), fits_of_eq (OnWords.get_eq hstop hi q),
      fun value => fits_of_eq (OnWords.set_eq hstop hi q value)⟩
  · intro lo hi value hlo hhi
    exact fits_of_eq (OnWords.replace_eq hstop q value hlo hhi)
  · intro start stop value hs he
    exact fits_of_eq (OnWords.replaceSlice_eq hstop q value hs he)
  · intro start stop value hs _
    exact fits_of_eq (OnWords.splice_eq hstop q value
      (Int.ofNat_le.mp (OnWords.u64_holds_iff.mp hs).2))

theorem largest_arguments_fit :
    let p : Bytes := [0, 1, 2, 3, 4, 5]
    let v : View := ⟨1, 5, by decide⟩
    p.length ≤ largestIndex ∧ MadeFor p v ∧
      Fits (OnWords.get v p (-largestIndex - 1))
        (.error (.indexOutOfRange (-largestIndex - 1) 4)) ∧
      Fits (OnWords.replace v p (.excluded Bound.largestPosition)
          (.included Bound.largestPosition) [])
        (.error (.indexOutOfRange largestIndex 4)) ∧
      Fits (OnWords.replaceSlice v p (-2) (some largestIndex) [8, 9])
        (.ok [0, 1, 2, 8, 9, 5]) := by
  intro p v
  have hp : p.length ≤ largestIndex := by decide
  have hv : MadeFor p v := .selected (rfl : select p.length (-5) (some (-1)) = .ok v)
  obtain ⟨-, -, hindex, hreplace, hslice, -⟩ := (view_arithmetic_fits hp).2 v hv p
  refine ⟨hp, hv, (hindex _ (by decide)).2.1, hreplace _ _ _ (Nat.le_refl _) (Nat.le_refl _), ?_⟩
  exact hslice _ _ _ (by decide) (by rintro _ ⟨⟩; decide)

/-- Without the limit on buffers a bound is not always an offset. -/
example : OnWords.checkParent ⟨0, largestIndex + 1, by decide⟩ [] =
    .error (.trap (.overflow i64 (largestIndex + 1))) := rfl

end GenericNetlink.View
