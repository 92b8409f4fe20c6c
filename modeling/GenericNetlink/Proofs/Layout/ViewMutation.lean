import GenericNetlink.Layout.View

/-!
# Mutations through a view

Whatever a mutation asks for, it either leaves the whole buffer as it was or puts
its value at one range of positions inside the window and touches nothing else
(`apply_ends`). Which of the two happens is decided by the target of the
mutation, the range and value that it names before anything is checked.

Targets are compared with the window only. Nothing here depends on the buffer
that the window was made for.
-/

namespace GenericNetlink.View

/-- What a mutation asks for: `value` at the positions from `lo` up to `hi`. The
end is not clipped yet, so that it may lie outside the view or before the start. -/
structure Target where
  lo : Nat
  hi : Nat
  value : Bytes

def rangeStart : Bound → Nat
  | .included position => position
  | .excluded position => position + 1
  | .unbounded => 0

def rangeStop (len : Nat) : Bound → Nat
  | .included position => min (position + 1) (UInt64.size - 1)
  | .excluded position => position
  | .unbounded => len

/-- The positions of `len` bytes that a mutation names, in plain arithmetic. Offsets below
zero count from the end, and no position lies before the first byte, nor after the
largest word. -/
def Edit.target? (len : Nat) : Edit → Option Target
  | .set index value =>
    let lo := if index < 0 then index + len else index
    if lo < 0 then none else some ⟨lo.toNat, lo.toNat + 1, [value]⟩
  | .replace (.excluded position) hi value =>
    if UInt64.size - 1 ≤ position then none else some ⟨position + 1, rangeStop len hi, value⟩
  | .replace lo hi value => some ⟨rangeStart lo, rangeStop len hi, value⟩
  | .replaceSlice start stop value =>
    let lo := if start < 0 then start + len else start
    let hi := match stop with
      | none => (len : Int)
      | some stop => if stop = 0 then lo else if stop < 0 then max 0 (stop + len) else stop
    if lo < 0 then none else some ⟨lo.toNat, hi.toNat, value⟩
  | .write value => some ⟨0, len, value⟩
  | .delete _ => none

theorem target?_set (len : Nat) (index : Int) (value : UInt8) :
    (Edit.set index value).target? len =
      if fromEnd len index < 0 then none
      else some ⟨(fromEnd len index).toNat, (fromEnd len index).toNat + 1, [value]⟩ :=
  rfl

theorem target?_replaceSlice (len : Nat) (start : Int) (stop : Option Int) (value : Bytes) :
    (Edit.replaceSlice start stop value).target? len =
      if fromEnd len start < 0 then none
      else some ⟨(fromEnd len start).toNat, sliceStop len (fromEnd len start).toNat stop,
        value⟩ := by
  rw [sliceStop_toNat]
  rfl

/-- The target begins inside the view, its clipped range is as long as its value,
and the buffer reaches to the end of the view. -/
structure Admits (v : View) (parent : Bytes) (t : Target) : Prop where
  begins : v.IsPosition t.lo
  fits : min t.hi v.len - t.lo = t.value.length
  covered : v.stop ≤ parent.length

variable {v : View} {parent : Bytes}

theorem Admits.inside {t : Target} (h : v.Admits parent t) :
    v.start + t.lo + t.value.length ≤ v.stop := by
  have hb := h.begins
  have hf := h.fits
  have hv := v.start_le_stop
  simp only [IsPosition, len] at hb hf
  omega

theorem Admits.getElem?_overwrite {t : Target} (h : v.Admits parent t) (i : Nat) :
    (parent.overwrite (v.start + t.lo) t.value)[i]? =
      if v.start + t.lo ≤ i ∧ i < v.start + t.lo + t.value.length then
        t.value[i - (v.start + t.lo)]?
      else parent[i]? :=
  Bytes.getElem?_overwrite (Nat.le_trans h.inside h.covered) i

-- ---------------------------------------------------------------------------
-- One mutation
-- ---------------------------------------------------------------------------

def Ends (v : View) (parent : Bytes) (target : Option Target)
    (result : Except Fault Unit × Bytes) : Prop :=
  (∃ fault, result = (.error fault, parent) ∧ ∀ t, target = some t → ¬v.Admits parent t) ∨
  (∃ t, target = some t ∧ v.Admits parent t ∧
    result = (.ok (), parent.overwrite (v.start + t.lo) t.value))

theorem Ends.refused (fault : Fault) : v.Ends parent none (.error fault, parent) :=
  .inl ⟨fault, rfl, fun _ h => nomatch h⟩

theorem splice_ends (v : View) (parent : Bytes) (t : Target) :
    v.Ends parent (some t) (v.splice parent t.lo t.hi t.value) := by
  rcases v.splice_cases parent t.lo t.hi t.value with
    ⟨hb, h⟩ | ⟨-, hf, h⟩ | ⟨-, -, hp, h⟩ | ⟨hb, hf, hp, h⟩
  · refine .inl ⟨_, h, ?_⟩
    rintro _ ⟨⟩ ha
    exact hb ha.begins
  · refine .inl ⟨_, h, ?_⟩
    rintro _ ⟨⟩ ha
    exact hf ha.fits
  · refine .inl ⟨_, h, ?_⟩
    rintro _ ⟨⟩ ha
    exact Nat.not_lt.mpr ha.covered hp
  · exact .inr ⟨t, rfl, ⟨hb, hf, hp⟩, h⟩

theorem last_eq_rangeStop (len : Nat) (hi : Bound) : hi.last len = rangeStop len hi := by
  cases hi <;> rfl

theorem first?_cases (lo : Bound) :
    (lo.first? = none ∧ (∃ position, lo = .excluded position ∧ UInt64.size - 1 ≤ position) ∧
      ∀ len hi value, (Edit.replace lo hi value).target? len = none) ∨
    (lo.first? = some (rangeStart lo) ∧
      (¬∃ position, lo = .excluded position ∧ UInt64.size - 1 ≤ position) ∧
      ∀ len hi value, (Edit.replace lo hi value).target? len =
        some ⟨rangeStart lo, rangeStop len hi, value⟩) := by
  cases lo with
  | included position => exact .inr ⟨rfl, by simp, fun _ _ _ => rfl⟩
  | excluded position =>
    by_cases h : UInt64.size - 1 ≤ position
    · exact .inl ⟨if_neg (Nat.not_lt.mpr h), ⟨position, rfl, h⟩, fun _ _ _ => if_pos h⟩
    · refine .inr ⟨if_pos (Nat.not_le.mp h), ?_, fun _ _ _ => if_neg h⟩
      rintro ⟨_, ⟨⟩, hp⟩
      exact h hp
  | unbounded => exact .inr ⟨rfl, by simp, fun _ _ _ => rfl⟩

theorem replace_ends (v : View) (parent : Bytes) (lo hi : Bound) (value : Bytes) :
    v.Ends parent ((Edit.replace lo hi value).target? v.len) (v.replace parent lo hi value) := by
  obtain ⟨hf, -, ht⟩ | ⟨hf, -, ht⟩ := first?_cases lo <;> rw [replace, hf, ht]
  · exact .refused _
  · rw [last_eq_rangeStop]
    exact v.splice_ends parent ⟨rangeStart lo, rangeStop v.len hi, value⟩

theorem replaceSlice_ends (v : View) (parent : Bytes) (start : Int) (stop : Option Int)
    (value : Bytes) :
    v.Ends parent ((Edit.replaceSlice start stop value).target? v.len)
      (v.replaceSlice parent start stop value) := by
  rw [target?_replaceSlice]
  simp only [replaceSlice]
  split
  · exact .refused _
  · exact v.splice_ends parent ⟨_, _, value⟩

theorem resolveIndex_cases (v : View) (index : Int) :
    (∃ fault, v.resolveIndex index = .error fault ∧
      ∀ value t, (Edit.set index value).target? v.len = some t →
        v.len ≤ t.lo ∧ t.value = [value]) ∨
    (∃ lo, v.resolveIndex index = .ok lo ∧ lo < v.len ∧
      ∀ value, (Edit.set index value).target? v.len = some ⟨lo, lo + 1, [value]⟩) := by
  simp only [resolveIndex, target?_set]
  split
  · refine .inl ⟨_, rfl, ?_⟩
    intro value t h
    split at h
    · cases h
    · cases h
      exact ⟨by dsimp only; omega, rfl⟩
  · exact .inr ⟨_, rfl, by omega, fun _ => if_neg (by omega)⟩

theorem set_ends (v : View) (parent : Bytes) (index : Int) (value : UInt8) :
    v.Ends parent ((Edit.set index value).target? v.len) (v.set parent index value) := by
  have hr := v.resolveIndex_cases index
  rcases v.set_cases parent index value with
    ⟨fault, hi, h⟩ | ⟨p, hi, hp, h⟩ | ⟨p, hi, hp, h⟩ <;> rw [hi] at hr
  · obtain ⟨_, -, ho⟩ | ⟨_, ⟨⟩, -⟩ := hr
    refine .inl ⟨fault, h, ?_⟩
    intro t ht ha
    -- One byte fits nowhere if its position is past the end.
    obtain ⟨hlo, hv⟩ := ho value t ht
    have hf := ha.fits
    rw [hv, List.length_singleton] at hf
    omega
  · obtain ⟨_, ⟨⟩, -⟩ | ⟨_, ⟨⟩, -, -⟩ := hr
    refine .inl ⟨_, h, ?_⟩
    intro t _ ha
    exact Nat.not_lt.mpr ha.covered hp
  · obtain ⟨_, ⟨⟩, -⟩ | ⟨_, ⟨⟩, hlt, ht⟩ := hr
    refine .inr ⟨⟨p, p + 1, [value]⟩, ht value, ⟨.inl hlt, ?_, hp⟩, h⟩
    simp only [List.length_singleton]
    omega

theorem apply_ends (v : View) (parent : Bytes) (edit : Edit) :
    v.Ends parent (edit.target? v.len) (v.apply parent edit) := by
  cases edit with
  | set index value => exact v.set_ends parent index value
  | replace lo hi value => exact v.replace_ends parent lo hi value
  | replaceSlice start stop value => exact v.replaceSlice_ends parent start stop value
  | write value => exact v.replace_ends parent .unbounded .unbounded value
  | delete index => exact .refused _

theorem Ends.unchanged {target : Option Target} {result : Except Fault Unit × Bytes}
    (h : v.Ends parent target result) {fault : Fault} (hf : result.1 = .error fault) :
    result.2 = parent := by
  obtain ⟨_, rfl, -⟩ | ⟨_, -, -, rfl⟩ := h
  · rfl
  · cases hf

theorem Ends.ok_iff {target : Option Target} {result : Except Fault Unit × Bytes}
    (h : v.Ends parent target result) :
    result.1 = .ok () ↔ ∃ t, target = some t ∧ v.Admits parent t := by
  obtain ⟨_, rfl, hn⟩ | ⟨t, ht, ha, rfl⟩ := h
  · refine ⟨fun h => (nomatch h), ?_⟩
    rintro ⟨t, ht, ha⟩
    exact absurd ha (hn t ht)
  · exact ⟨fun _ => ⟨t, ht, ha⟩, fun _ => rfl⟩

theorem Ends.written {t : Target} {result : Except Fault Unit × Bytes}
    (h : v.Ends parent (some t) result) (hk : result.1 = .ok ()) :
    v.Admits parent t ∧ result.2 = parent.overwrite (v.start + t.lo) t.value := by
  obtain ⟨_, rfl, -⟩ | ⟨_, ⟨⟩, ha, rfl⟩ := h
  · cases hk
  · exact ⟨ha, rfl⟩

-- ---------------------------------------------------------------------------
-- Other windows
-- ---------------------------------------------------------------------------

def Covers (v : View) (i : Nat) : Prop := v.start ≤ i ∧ i < v.stop

def Apart (v w : View) : Prop := ∀ i, v.Covers i → ¬w.Covers i

theorem Apart.symm {w : View} (h : v.Apart w) : w.Apart v := fun i hw hv => h i hv hw

theorem apart_of_le {w : View} (h : w.stop ≤ v.start ∨ v.stop ≤ w.start) : v.Apart w := by
  rintro i ⟨hv, hv'⟩ ⟨hw, hw'⟩
  omega

theorem getElem?_apply_of_not_covers (edit : Edit) {i : Nat} (hi : ¬v.Covers i) :
    (v.apply parent edit).2[i]? = parent[i]? := by
  obtain ⟨_, h, -⟩ | ⟨t, -, ha, h⟩ := v.apply_ends parent edit <;> rw [h]
  have hin := ha.inside
  -- The range that is written lies inside the window.
  rw [ha.getElem?_overwrite, if_neg]
  rintro ⟨hlo, hhi⟩
  exact hi ⟨by omega, by omega⟩

theorem read_apply_of_apart {w : View} (edit : Edit) (hd : v.Apart w) :
    w.read (v.apply parent edit).2 = w.read parent := by
  have hs : (v.apply parent edit).2.slice w.start w.stop = parent.slice w.start w.stop := by
    refine List.ext_getElem? fun j => ?_
    rw [Bytes.getElem?_slice, Bytes.getElem?_slice]
    split
    · exact getElem?_apply_of_not_covers edit fun hv => hd _ hv ⟨by omega, by omega⟩
    · rfl
  simp only [read, checkParent, v.length_apply, hs]

-- ---------------------------------------------------------------------------
-- Replacing a range
-- ---------------------------------------------------------------------------

/-- A range that begins with `lo` does not begin in the view: no position follows
an excluded largest word, and a range may begin at the end of an empty view only. -/
def BeginsOutside (v : View) (lo : Bound) : Prop :=
  (∃ position, lo = .excluded position ∧ UInt64.size - 1 ≤ position) ∨
    v.len < rangeStart lo ∨ (rangeStart lo = v.len ∧ v.len ≠ 0)

theorem beginsOutside_iff {lo : Bound}
    (h : ¬∃ position, lo = .excluded position ∧ UInt64.size - 1 ≤ position) :
    v.BeginsOutside lo ↔ ¬v.IsPosition (rangeStart lo) := by
  rw [BeginsOutside, or_iff_right h, IsPosition]
  omega

theorem replace_eq_indexOutOfRange_iff (v : View) (parent : Bytes) (lo hi : Bound)
    (value : Bytes) :
    (∃ index, (v.replace parent lo hi value).1 = .error (.indexOutOfRange index v.len)) ↔
      v.BeginsOutside lo := by
  obtain ⟨hf, hn, -⟩ | ⟨hf, hn, -⟩ := first?_cases lo <;> rw [replace, hf]
  · exact ⟨fun _ => .inl hn, fun _ => ⟨_, rfl⟩⟩
  · rw [beginsOutside_iff hn]
    rcases v.splice_cases parent (rangeStart lo) (hi.last v.len) value with
      ⟨hb, h⟩ | ⟨hb, -, h⟩ | ⟨hb, -, -, h⟩ | ⟨hb, -, -, h⟩
    · exact ⟨fun _ => hb, fun _ => ⟨_, congrArg Prod.fst h⟩⟩
    all_goals
      refine ⟨?_, fun hn => absurd hb hn⟩
      rintro ⟨index, he⟩
      cases (congrArg Prod.fst h).symm.trans he

theorem replace_inside {lo : Bound} (hn : ¬v.BeginsOutside lo) (hi : Bound) (value : Bytes) :
    (v.replace parent lo hi value).1 =
      if min (rangeStop v.len hi) v.len - rangeStart lo ≠ value.length then
        .error (.viewLength (min (rangeStop v.len hi) v.len - rangeStart lo) value.length)
      else if parent.length < v.stop then
        .error (.invalidRange v.start v.stop parent.length)
      else .ok () := by
  obtain ⟨-, hl, -⟩ | ⟨hf, hl, -⟩ := first?_cases lo
  · exact absurd (.inl hl) hn
  simp only [replace, hf, ← last_eq_rangeStop]
  rcases v.splice_cases parent (rangeStart lo) (hi.last v.len) value with
    ⟨hb, -⟩ | ⟨-, hs, h⟩ | ⟨-, hs, hp, h⟩ | ⟨-, hs, hp, h⟩
  · exact absurd ((beginsOutside_iff hl).mpr hb) hn
  · rw [h, if_pos hs]
  · rw [h, if_neg (not_not_intro hs), if_pos hp]
  · rw [h, if_neg (not_not_intro hs), if_neg (Nat.not_lt.mpr hp)]

/-- A mutation keeps the length of the buffer, changes nothing if it is refused,
and otherwise shows its value in the range of its target, inside the window, and
the old bytes elsewhere. It succeeds exactly if its target is admitted; replacing
a range looks at the first position, then at the value, then at the buffer. -/
theorem apply_all_or_nothing (v : View) (parent : Bytes) (edit : Edit) :
    (v.apply parent edit).2.length = parent.length ∧
    (∀ fault, (v.apply parent edit).1 = .error fault → (v.apply parent edit).2 = parent) ∧
    ((v.apply parent edit).1 = .ok () ↔
      ∃ t, edit.target? v.len = some t ∧ v.Admits parent t) ∧
    (∀ t, (v.apply parent edit).1 = .ok () → edit.target? v.len = some t →
      min t.hi v.len - t.lo = t.value.length ∧
      v.start + t.lo + t.value.length ≤ v.stop ∧
      ∀ i, (v.apply parent edit).2[i]? =
        if v.start + t.lo ≤ i ∧ i < v.start + t.lo + t.value.length then
          t.value[i - (v.start + t.lo)]?
        else parent[i]?) ∧
    ∀ lo hi value,
      ((∃ index, (v.apply parent (.replace lo hi value)).1 =
          .error (.indexOutOfRange index v.len)) ↔ v.BeginsOutside lo) ∧
      (¬v.BeginsOutside lo →
        (v.apply parent (.replace lo hi value)).1 =
          if min (rangeStop v.len hi) v.len - rangeStart lo ≠ value.length then
            .error (.viewLength (min (rangeStop v.len hi) v.len - rangeStart lo) value.length)
          else if parent.length < v.stop then
            .error (.invalidRange v.start v.stop parent.length)
          else .ok ()) := by
  have hends := v.apply_ends parent edit
  refine ⟨v.length_apply parent edit, fun _ => hends.unchanged, hends.ok_iff, ?_, ?_⟩
  · intro t hok ht
    rw [ht] at hends
    obtain ⟨ha, hw⟩ := hends.written hok
    refine ⟨ha.fits, ha.inside, fun i => ?_⟩
    rw [hw]
    exact ha.getElem?_overwrite i
  · intro lo hi value
    exact ⟨v.replace_eq_indexOutOfRange_iff parent lo hi value, fun hn =>
      replace_inside hn hi value⟩

end GenericNetlink.View
