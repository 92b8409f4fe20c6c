import GenericNetlink.Proofs.Layout.ViewMutation

/-!
# Windows on a shared buffer

A mutation takes two things from the buffer: whether it reaches to the end of the window,
which decides the outcome (`outcome_congr`), and the byte at a position, which alone
decides what is there afterwards (`getElem?_apply_congr`). So windows without a common
position do not notice each other, and bytes beyond a window do not matter to it. A
window that the buffer no longer reaches refuses whatever it would grant otherwise.
-/

namespace GenericNetlink.View

variable {v w : View} {p q : Bytes}

theorem checkParent_of_covered (h : v.stop ≤ p.length) : v.checkParent p = .ok () :=
  if_neg (Nat.not_lt.mpr h)

theorem checkParent_congr (h : p.length = q.length) : v.checkParent p = v.checkParent q := by
  rw [checkParent, checkParent, h]

section
variable (h : v.checkParent p = v.checkParent q)
include h

theorem outcome_set_congr (index : Int) (value : UInt8) :
    (v.set p index value).1 = (v.set q index value).1 := by
  simp only [set, h]
  cases v.resolveIndex index with
  | error fault => rfl
  | ok position => cases v.checkParent q <;> rfl

theorem outcome_splice_congr (start stop : Nat) (value : Bytes) :
    (v.splice p start stop value).1 = (v.splice q start stop value).1 := by
  simp only [splice, h]
  split
  · rfl
  · split
    · rfl
    · cases v.checkParent q <;> rfl

theorem outcome_replace_congr (lo hi : Bound) (value : Bytes) :
    (v.replace p lo hi value).1 = (v.replace q lo hi value).1 := by
  simp only [replace]
  cases lo.first? with
  | none => rfl
  | some first => exact outcome_splice_congr h first _ value

theorem outcome_congr (edit : Edit) : (v.apply p edit).1 = (v.apply q edit).1 := by
  cases edit with
  | set index value => exact outcome_set_congr h index value
  | replace lo hi value => exact outcome_replace_congr h lo hi value
  | replaceSlice start stop value =>
    simp only [apply, replaceSlice]
    split
    · rfl
    · exact outcome_splice_congr h _ _ value
  | write value => exact outcome_replace_congr h .unbounded .unbounded value
  | delete index => rfl

end

theorem getElem?_apply_congr (hl : p.length = q.length) (edit : Edit) {i : Nat}
    (hi : p[i]? = q[i]?) : (v.apply p edit).2[i]? = (v.apply q edit).2[i]? := by
  have ho := outcome_congr (checkParent_congr (v := v) hl) edit
  have hq := v.apply_ends q edit
  -- Both buffers come to the same end, with the same target.
  obtain ⟨_, hp, -⟩ | ⟨t, ht, ha, hp⟩ := v.apply_ends p edit <;> rw [hp] at ho ⊢
  · rw [hq.unchanged ho.symm]
    exact hi
  · rw [ht] at hq
    obtain ⟨ha', hw⟩ := hq.written ho.symm
    rw [hw, ha.getElem?_overwrite, ha'.getElem?_overwrite, hi]

-- ---------------------------------------------------------------------------
-- Two windows
-- ---------------------------------------------------------------------------

/-- After a successful mutation another window shows the value where it meets the range
of the target, and its old bytes elsewhere. -/
theorem read_apply (hw : w.stop ≤ p.length) {edit : Edit} (hok : (v.apply p edit).1 = .ok ()) :
    ∃ t before after, edit.target? v.len = some t ∧
      w.read p = .ok before ∧ w.read (v.apply p edit).2 = .ok after ∧ after.length = w.len ∧
      ∀ j, j < w.len → after[j]? =
        if v.start + t.lo ≤ w.start + j ∧ w.start + j < v.start + t.lo + t.value.length then
          t.value[w.start + j - (v.start + t.lo)]?
        else before[j]? := by
  have hends := v.apply_ends p edit
  obtain ⟨t, ht, ha⟩ := hends.ok_iff.mp hok
  rw [ht] at hends
  have hlen := v.length_apply p edit
  have hw' : w.stop ≤ (v.apply p edit).2.length := hlen ▸ hw
  refine ⟨t, _, _, ht, read_of_covered hw, read_of_covered hw', length_slice_of_covered hw',
    fun j hj => ?_⟩
  have hj' : j < w.stop - w.start := hj
  rw [Bytes.getElem?_slice, Bytes.getElem?_slice, if_pos hj', if_pos hj', (hends.written hok).2,
    ha.getElem?_overwrite]

theorem outcome_apply_apply (v w : View) (p : Bytes) (edit other : Edit) :
    (w.apply (v.apply p edit).2 other).1 = (w.apply p other).1 :=
  outcome_congr (checkParent_congr (v.length_apply p edit)) other

theorem bytes_apply_comm (hd : v.Apart w) (edit other : Edit) :
    (w.apply (v.apply p edit).2 other).2 = (v.apply (w.apply p other).2 edit).2 := by
  refine List.ext_getElem? fun i => ?_
  -- At each position one of the two windows has no say, whichever goes first.
  by_cases hv : v.Covers i
  · have hi : (w.apply p other).2[i]? = p[i]? := getElem?_apply_of_not_covers other (hd i hv)
    calc (w.apply (v.apply p edit).2 other).2[i]?
        = (v.apply p edit).2[i]? := getElem?_apply_of_not_covers other (hd i hv)
      _ = (v.apply (w.apply p other).2 edit).2[i]? :=
        getElem?_apply_congr (w.length_apply p other).symm edit hi.symm
  · have hi : (v.apply p edit).2[i]? = p[i]? := getElem?_apply_of_not_covers edit hv
    calc (w.apply (v.apply p edit).2 other).2[i]?
        = (w.apply p other).2[i]? := getElem?_apply_congr (v.length_apply p edit) other hi
      _ = (v.apply (w.apply p other).2 edit).2[i]? :=
        (getElem?_apply_of_not_covers edit hv).symm

-- ---------------------------------------------------------------------------
-- A buffer that grows
-- ---------------------------------------------------------------------------

theorem covered_append (h : v.stop ≤ p.length) (x : Bytes) : v.stop ≤ (p ++ x).length := by
  rw [List.length_append]
  omega

theorem read_append (h : v.stop ≤ p.length) (x : Bytes) : v.read (p ++ x) = v.read p := by
  rw [read, read, checkParent_of_covered h, checkParent_of_covered (covered_append h x),
    Bytes.slice_append_left h]

theorem apply_append (h : v.stop ≤ p.length) (edit : Edit) (x : Bytes) :
    v.apply (p ++ x) edit = ((v.apply p edit).1, (v.apply p edit).2 ++ x) := by
  have hc : v.checkParent (p ++ x) = v.checkParent p := by
    rw [checkParent_of_covered h, checkParent_of_covered (covered_append h x)]
  have ho := outcome_congr hc edit
  have hends := v.apply_ends (p ++ x) edit
  refine Prod.ext ho ?_
  obtain ⟨_, hp, -⟩ | ⟨t, ht, ha, hp⟩ := v.apply_ends p edit <;> rw [hp] at ho ⊢
  · exact hends.unchanged ho
  · rw [ht] at hends
    rw [(hends.written ho).2]
    exact Bytes.overwrite_append (Nat.le_trans ha.inside h) x

-- ---------------------------------------------------------------------------
-- A buffer that is cut short
-- ---------------------------------------------------------------------------

section
variable (hs : p.length < v.stop)
include hs

theorem read_of_short : v.read p = .error (.invalidRange v.start v.stop p.length) := by
  obtain ⟨-, h⟩ | ⟨hc, -⟩ := v.read_cases p
  · exact h
  · exact absurd hs (Nat.not_lt.mpr hc)

theorem set_of_short {index : Int} {position : Nat} (hi : v.resolveIndex index = .ok position)
    (value : UInt8) :
    v.set p index value = (.error (.invalidRange v.start v.stop p.length), p) := by
  obtain ⟨_, he, -⟩ | ⟨_, -, -, h⟩ | ⟨_, -, hc, -⟩ := v.set_cases p index value
  · cases he.symm.trans hi
  · exact h
  · exact absurd hs (Nat.not_lt.mpr hc)

theorem get_of_short {index : Int} {position : Nat} (hi : v.resolveIndex index = .ok position) :
    v.get p index = .error (.invalidRange v.start v.stop p.length) := by
  rw [get, hi, read_of_short hs]
  rfl

theorem splice_of_short {start stop : Nat} {value : Bytes}
    (hq : (v.splice q start stop value).1 = .ok ()) :
    v.splice p start stop value = (.error (.invalidRange v.start v.stop p.length), p) := by
  obtain ⟨-, h⟩ | ⟨-, -, h⟩ | ⟨-, -, -, h⟩ | ⟨hb, hf, -, -⟩ := v.splice_cases q start stop value
  -- Only a success on `q` is left, so that `p` passes the checks before that of its length.
  case inr.inr.inr =>
    obtain ⟨hb', -⟩ | ⟨-, hf', -⟩ | ⟨-, -, -, h⟩ | ⟨-, -, hc, -⟩ :=
      v.splice_cases p start stop value
    · exact absurd hb hb'
    · exact absurd hf hf'
    · exact h
    · exact absurd hs (Nat.not_lt.mpr hc)
  all_goals
    rw [h] at hq
    cases hq

theorem replace_of_short {lo hi : Bound} {value : Bytes}
    (hq : (v.replace q lo hi value).1 = .ok ()) :
    v.replace p lo hi value = (.error (.invalidRange v.start v.stop p.length), p) := by
  simp only [replace] at hq ⊢
  cases hf : lo.first? with
  | none =>
    rw [hf] at hq
    cases hq
  | some first =>
    rw [hf] at hq
    exact splice_of_short hs hq

theorem apply_of_short {edit : Edit} (hq : (v.apply q edit).1 = .ok ()) :
    v.apply p edit = (.error (.invalidRange v.start v.stop p.length), p) := by
  cases edit with
  | set index value =>
    obtain ⟨_, -, h⟩ | ⟨_, -, -, h⟩ | ⟨position, hi, -, -⟩ := v.set_cases q index value
    · rw [apply, h] at hq
      cases hq
    · rw [apply, h] at hq
      cases hq
    · exact set_of_short hs hi value
  | replace lo hi value => exact replace_of_short hs hq
  | replaceSlice start stop value =>
    simp only [apply, replaceSlice] at hq ⊢
    split at hq
    · cases hq
    · rename_i hn
      rw [if_neg hn]
      exact splice_of_short hs hq
  | write value => exact replace_of_short hs hq
  | delete index => cases hq

end

theorem resolveIndex_of_inside {index : Int} (hlo : -(v.len : Int) ≤ index)
    (hhi : index < v.len) : ∃ position, v.resolveIndex index = .ok position := by
  refine ⟨_, if_neg ?_⟩
  simp only [fromEnd]
  split <;> omega

/-- Windows on one buffer. What is written through one of them shows in another where the
two meet and nowhere else. Mutations through windows without a common position come to
the same in either order, in bytes and outcomes, refused or not, and neither shows in the
other window. Bytes after the end change nothing for a window that the buffer covers. A
window that the buffer does not reach can neither be read nor copied, nor can one of its
bytes be got or set, and a mutation that succeeds on any other buffer is refused for the
length and leaves the buffer alone. -/
theorem windows_share_buffer (p : Bytes) (v w : View) :
    (w.stop ≤ p.length → ∀ edit, (v.apply p edit).1 = .ok () →
      ∃ t before after, edit.target? v.len = some t ∧
        w.read p = .ok before ∧ w.read (v.apply p edit).2 = .ok after ∧ after.length = w.len ∧
        ∀ j, j < w.len → after[j]? =
          if v.start + t.lo ≤ w.start + j ∧ w.start + j < v.start + t.lo + t.value.length then
            t.value[w.start + j - (v.start + t.lo)]?
          else before[j]?) ∧
    ((∀ i, v.start ≤ i ∧ i < v.stop → ¬(w.start ≤ i ∧ i < w.stop)) → ∀ edit other,
      (w.apply (v.apply p edit).2 other).2 = (v.apply (w.apply p other).2 edit).2 ∧
      (w.apply (v.apply p edit).2 other).1 = (w.apply p other).1 ∧
      (v.apply (w.apply p other).2 edit).1 = (v.apply p edit).1 ∧
      w.read (v.apply p edit).2 = w.read p ∧
      v.read (w.apply p other).2 = v.read p) ∧
    (v.stop ≤ p.length → ∀ x,
      v.read (p ++ x) = v.read p ∧
      ∀ edit, v.apply (p ++ x) edit = ((v.apply p edit).1, (v.apply p edit).2 ++ x)) ∧
    (p.length < v.stop →
      v.read p = .error (.invalidRange v.start v.stop p.length) ∧
      v.copy p = .error (.invalidRange v.start v.stop p.length) ∧
      (∀ index : Int, -(v.len : Int) ≤ index → index < v.len →
        v.get p index = .error (.invalidRange v.start v.stop p.length) ∧
        ∀ value, v.set p index value = (.error (.invalidRange v.start v.stop p.length), p)) ∧
      ∀ q edit, (v.apply q edit).1 = .ok () →
        v.apply p edit = (.error (.invalidRange v.start v.stop p.length), p)) := by
  refine ⟨fun hw _ => read_apply hw, fun hd edit other => ?_, fun hv x =>
    ⟨read_append hv x, fun edit => apply_append hv edit x⟩, fun hs =>
    ⟨read_of_short hs, read_of_short hs, fun index hlo hhi => ?_, fun _ _ => apply_of_short hs⟩⟩
  · have hvw : v.Apart w := hd
    exact ⟨bytes_apply_comm hvw edit other, v.outcome_apply_apply w p edit other,
      w.outcome_apply_apply v p other edit, read_apply_of_apart edit hvw,
      read_apply_of_apart other hvw.symm⟩
  · obtain ⟨position, hi⟩ := resolveIndex_of_inside hlo hhi
    exact ⟨get_of_short hs hi, set_of_short hs hi⟩

/-- An empty window inside another one is apart from it. -/
example :
    let v : View := ⟨2, 2, by decide⟩
    let w : View := ⟨0, 4, by decide⟩
    v.Apart w ∧ (w.apply (v.apply [1, 2, 3, 4] (.write [])).2 (.set (-1) 9)) =
      (.ok (), [1, 2, 3, 9]) :=
  ⟨fun _ hv _ => absurd hv.1 (Nat.not_le.mpr hv.2), rfl⟩

end GenericNetlink.View
