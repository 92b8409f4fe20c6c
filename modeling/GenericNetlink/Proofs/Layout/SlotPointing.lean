import GenericNetlink.Proofs.Layout.Resolution
import GenericNetlink.Proofs.Layout.TokenSearch

/-!
# Pointing a slot

A slot is pointed to a payload in three steps: a token is reserved, its placeholder is
replaced, and the slot is written. `pointSlot_first` lists the ends. What the one that
succeeds leaves is `Points`; the other two leave the structure alone.
-/

namespace GenericNetlink.IndirectStruct

/-- From `s` to `s'` slot `i` has become a token for `payload` that was free. A slot
that held the token's bytes already stands for the payload as well; nothing else differs. -/
structure Points (s s' : IndirectStruct) (i : Nat) (t : PointerToken) (payload : Bytes) :
    Prop where
  nonzero : t.value ≠ 0
  free : ¬s.Registered t
  pointerCount : s'.pointerCount = s.pointerCount + 1
  slot : s'.slot i = .ok t.bytes
  otherSlots : ∀ j, j ≠ i → s'.slot j = s.slot j
  entry : s'.pointee? t = some payload
  otherEntries : ∀ u, u ≠ t → s'.pointee? u = s.pointee? u
  contributions : s'.contributions = s.slots.mapIdx fun j slot =>
    if j = i ∨ slot = t.bytes then payload else contribution s.pointers slot
  resolve : s'.resolve = s'.contributions.flatten

section
variable {s : IndirectStruct} {i : Nat} {t : PointerToken}

theorem slot_set_self (hi : i < s.slotCount) (value : Bytes) (table : TokenTable) :
    slot ⟨s.slots.set i value, table⟩ i = .ok value := by
  simp only [slot, List.getElem?_set_self (show i < s.slots.length from hi)]

theorem slot_set_of_ne {j : Nat} (hj : j ≠ i) (value : Bytes) (table : TokenTable) :
    slot ⟨s.slots.set i value, table⟩ j = s.slot j := by
  simp only [slot, List.getElem?_set_ne hj.symm, slotCount, List.length_set]

theorem redirects_reserved (payload : Bytes) :
    s.Redirects ⟨s.slots, (s.pointers.insert t []).insert t payload⟩ t payload := by
  refine s.redirects_of_get? t (contribution_of_registered ?_) fun u hu => ?_
  · rw [Registry.get?_insert, if_pos rfl]
  · rw [Registry.get?_insert, if_neg hu, Registry.get?_insert, if_neg hu]

theorem contributions_pointed (payload : Bytes) :
    contributions ⟨s.slots.set i t.bytes, (s.pointers.insert t []).insert t payload⟩ =
      s.slots.mapIdx fun j slot =>
        if j = i ∨ slot = t.bytes then payload else contribution s.pointers slot := by
  have hset : ∀ table : TokenTable, contributions ⟨s.slots.set i t.bytes, table⟩ =
      (contributions ⟨s.slots, table⟩).set i (contribution table t.bytes) :=
    fun _ => List.map_set
  rw [hset, (redirects_reserved payload).contributions,
    contribution_of_registered ((Registry.get?_insert _ t t payload).trans (if_pos rfl))]
  refine List.ext_getElem? fun j => ?_
  -- The slot that is written holds the token now, as others may have done before.
  rw [List.getElem?_mapIdx, List.getElem?_set, List.getElem?_map, List.length_map]
  by_cases hj : j = i
  · subst hj
    by_cases hl : j < s.slots.length <;> simp [hl]
  · simp [hj, Ne.symm hj]

theorem points_of_free (hz : t.value ≠ 0) (hfree : ¬s.Registered t) (hi : i < s.slotCount)
    (payload : Bytes) :
    s.Points ⟨s.slots.set i t.bytes, (s.pointers.insert t []).insert t payload⟩ i t payload where
  nonzero := hz
  free := hfree
  pointerCount := by
    -- Only the reservation adds a token.
    have hheld : (s.pointers.insert t []).contains t = true :=
      (s.pointers.contains_insert t t []).mpr (.inl rfl)
    have hsize := (s.pointers.insert t []).size_insert t payload
    rw [if_pos hheld] at hsize
    exact hsize.trans (reserves_insertPointer hfree).pointerCount
  slot := slot_set_self hi _ _
  otherSlots j hj := slot_set_of_ne hj _ _
  entry := (Registry.get?_insert _ t t payload).trans (if_pos rfl)
  otherEntries u hu := by
    refine Eq.trans ?_ ((reserves_insertPointer hfree).others u hu)
    exact (Registry.get?_insert _ t u payload).trans (if_neg hu)
  contributions := contributions_pointed payload
  resolve := resolve_eq_flatten _

end

variable {σ : Type} (s : IndirectStruct) (source : TokenSource σ) (state : σ)

/-- Pointing a slot is done as a whole or not at all. A slot that does not exist and a
source that draws registered tokens only are refused, each with its fault, and leave
the structure as it was. Otherwise the first free candidate is written into the slot,
with the payload behind it. -/
theorem pointSlot_atomic (i : Nat) (payload : Bytes) :
    (¬i < s.slotCount →
      s.pointSlot i payload source state = (.error (.fieldIndex i s.slotCount), s, state)) ∧
    (i < s.slotCount → (∀ k < 64, s.Registered (source.candidate state k)) →
      s.pointSlot i payload source state =
        (.error (.tokenSpaceExhausted 64 s.pointerCount), s, source.after 64 state)) ∧
    (i < s.slotCount → (∃ k < 64, ¬s.Registered (source.candidate state k)) →
      ∃ k < 64, (∀ j < k, s.Registered (source.candidate state j)) ∧
        ∃ s', s.pointSlot i payload source state =
            (.ok (source.candidate state k), s', source.after (k + 1) state) ∧
          s.Points s' i (source.candidate state k) payload) := by
  obtain ⟨k, hk, hi, hfree, htaken, h⟩ | ⟨hi, htaken, h⟩ | ⟨hi, h⟩ :=
    s.pointSlot_first source state i payload
  · refine ⟨fun hn => absurd hi hn, fun _ hall => absurd (hall k hk) hfree, fun _ _ => ?_⟩
    exact ⟨k, hk, htaken, _, h, points_of_free (source.draw_ne_zero _) hfree hi payload⟩
  · refine ⟨fun hn => absurd hi hn, fun _ _ => h, ?_⟩
    rintro _ ⟨k, hk, hfree⟩
    exact absurd (htaken k hk) hfree
  · exact ⟨fun _ => h, fun hl => absurd hl hi, fun hl => absurd hl hi⟩

example :
    let s : IndirectStruct := ⟨[[9], (⟨7⟩ : PointerToken).bytes, [5]], .empty⟩
    let (outcome, s', _) := s.pointSlot 0 [1, 2] (.scripted 6) [7]
    outcome = .ok ⟨7⟩ ∧ s'.pointerCount = 1 ∧ s'.resolve = [1, 2, 1, 2, 5] := by decide

end GenericNetlink.IndirectStruct
