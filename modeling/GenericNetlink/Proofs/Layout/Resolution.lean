import GenericNetlink.Layout.IndirectHistory

/-!
# Resolution of slots

A structure resolves slot by slot and one level deep. `StandsFor` is the rule for
one slot; `contribution` computes it. What the table says of a token concerns the
slots that are exactly that token, all of them alike, and no others (`Redirects`).
-/

namespace GenericNetlink.IndirectStruct

/-- The rule for one slot: a registered token stands for its payload as it is, and
any other content for itself. -/
inductive StandsFor (table : TokenTable) : Bytes → Bytes → Prop
  | payload {t : PointerToken} {payload : Bytes} (h : table.get? t = some payload) :
    StandsFor table t.bytes payload
  | itself {slot : Bytes} (h : ∀ t, table.contains t = true → slot ≠ t.bytes) :
    StandsFor table slot slot

def contributions (s : IndirectStruct) : List Bytes := s.slots.map (contribution s.pointers)

theorem resolve_eq_flatten (s : IndirectStruct) : s.resolve = s.contributions.flatten :=
  List.flatMap_def

section
variable {table table' : TokenTable} {slot : Bytes}

theorem contribution_of_registered {t : PointerToken} {payload : Bytes}
    (h : table.get? t = some payload) : contribution table t.bytes = payload := by
  rw [contribution_bytes, h, Option.getD_some]

theorem contribution_congr (h : ∀ t : PointerToken, slot = t.bytes → table.get? t = table'.get? t) :
    contribution table slot = contribution table' slot := by
  unfold contribution
  cases hs : PointerToken.ofBytes? slot with
  | none => rfl
  | some t => rw [Option.bind_some, Option.bind_some, h t (PointerToken.ofBytes?_eq_some_iff.mp hs)]

theorem contribution_of_unregistered (h : ∀ t, table.contains t = true → slot ≠ t.bytes) :
    contribution table slot = slot := by
  unfold contribution
  cases hs : PointerToken.ofBytes? slot with
  | none => rfl
  | some t =>
    have hn : table.get? t = none := by
      have hf := h t
      rw [PointerToken.ofBytes?_eq_some_iff.mp hs] at hf
      simpa [Registry.contains] using hf
    rw [Option.bind_some, hn, Option.getD_none]

theorem contribution_eq_iff {part : Bytes} :
    contribution table slot = part ↔ StandsFor table slot part := by
  constructor
  · rintro rfl
    -- Which rule applies is whether the slot is a registered token.
    by_cases h : ∃ t, table.contains t = true ∧ slot = t.bytes
    · obtain ⟨t, ht, rfl⟩ := h
      obtain ⟨payload, hp⟩ := Option.isSome_iff_exists.mp ht
      rw [contribution_of_registered hp]
      exact .payload hp
    · have hn : ∀ t, table.contains t = true → slot ≠ t.bytes := fun t ht he => h ⟨t, ht, he⟩
      rw [contribution_of_unregistered hn]
      exact .itself hn
  · intro h
    cases h with
    | payload h => exact contribution_of_registered h
    | itself h => exact contribution_of_unregistered h

end

theorem resolve_congr {s s' : IndirectStruct} (hs : s'.slots = s.slots)
    (ht : ∀ t, s'.pointers.get? t = s.pointers.get? t) : s'.resolve = s.resolve := by
  unfold resolve
  rw [hs]
  congr 1
  funext slot
  exact contribution_congr fun t _ => ht t

-- ---------------------------------------------------------------------------
-- Changes of the table
-- ---------------------------------------------------------------------------

/-- From `s` to `s'` the bytes of the slots stay. The slots that are the token `t`
stand for `part` now, and each of the others for what it stood for. -/
structure Redirects (s s' : IndirectStruct) (t : PointerToken) (part : Bytes) : Prop where
  rawBytes : s'.rawBytes = s.rawBytes
  contributions : s'.contributions =
    s.slots.map fun slot => if slot = t.bytes then part else contribution s.pointers slot

section
variable (s : IndirectStruct) (t : PointerToken)

theorem redirects_of_get? {table : TokenTable} {part : Bytes}
    (hs : contribution table t.bytes = part)
    (ho : ∀ u, u ≠ t → table.get? u = s.pointers.get? u) :
    s.Redirects { s with pointers := table } t part where
  rawBytes := rfl
  contributions := by
    refine List.map_congr_left fun slot _ => ?_
    split
    · rename_i h
      rw [h, hs]
    · rename_i h
      refine contribution_congr fun u hu => ho u ?_
      rintro rfl
      exact h hu

theorem redirects_insertPointer (payload : Bytes) :
    s.Redirects (s.insertPointer t payload) t payload := by
  refine s.redirects_of_get? t (contribution_of_registered ?_) fun u hu => ?_
  · rw [Registry.get?_insert, if_pos rfl]
  · rw [Registry.get?_insert, if_neg hu]

theorem redirects_release : s.Redirects (s.release t) t t.bytes := by
  refine s.redirects_of_get? t ?_ fun u hu => ?_
  · rw [contribution_bytes, Registry.get?_erase, if_pos rfl, Option.getD_none]
  · rw [Registry.get?_erase, if_neg hu]

theorem modifyPointee_of_registered {payload : Bytes} (h : s.pointee? t = some payload)
    (f : Bytes → Bytes) : s.modifyPointee t f = s.insertPointer t (f payload) := by
  rw [modifyPointee, h]

theorem modifyPointee_of_unregistered (h : s.pointee? t = none) (f : Bytes → Bytes) :
    s.modifyPointee t f = s := by
  rw [modifyPointee, h]

theorem resolve_release_insertPointer {payload : Bytes} (h : s.pointee? t = some payload) :
    ((s.release t).insertPointer t payload).resolve = s.resolve := by
  refine resolve_congr rfl fun u => ?_
  show ((s.pointers.erase t).insert t payload).get? u = s.pointers.get? u
  rw [Registry.get?_insert, Registry.get?_erase]
  by_cases hu : u = t
  · rw [if_pos hu, hu]
    exact h.symm
  · rw [if_neg hu, if_neg hu]

end

-- ---------------------------------------------------------------------------
-- Changes of the slots
-- ---------------------------------------------------------------------------

theorem contributions_setSlot (s : IndirectStruct) (i : Nat) (value : Bytes) :
    (s.setSlot i value).2.contributions =
      s.contributions.set i (contribution s.pointers value) := by
  obtain ⟨-, h⟩ | ⟨hi, h⟩ := s.setSlot_cases i value <;> rw [h]
  · exact List.map_set
  · refine (List.set_eq_of_length_le ?_).symm
    simpa [contributions, slotCount] using hi

theorem resolve_eq_rawBytes {s : IndirectStruct} (h : ∀ t, s.Registered t → t.bytes ∉ s.slots) :
    s.resolve = s.rawBytes := by
  have hself : ∀ slot ∈ s.slots, contribution s.pointers slot = slot := by
    intro slot hslot
    refine contribution_of_unregistered fun t ht he => h t ht ?_
    rwa [← he]
  rw [resolve_eq_flatten, contributions, List.map_congr_left hself, List.map_id', rawBytes]

/-- Resolution puts the contributions of the slots one after the other, each by the
rule for one slot. Registering a token, editing its payload and releasing it change
what the slots with that token stand for and nothing else; releasing is undone by
registering again. Setting a slot changes its own contribution. -/
theorem resolve_substitutes (s : IndirectStruct) :
    (s.resolve = (s.slots.map (contribution s.pointers)).flatten ∧
      (∀ slot part, contribution s.pointers slot = part ↔ StandsFor s.pointers slot part) ∧
      ∀ slot : Bytes, slot.length ≠ 8 → contribution s.pointers slot = slot) ∧
    (∀ t payload, s.Redirects (s.insertPointer t payload) t payload) ∧
    (∀ t f,
      (∀ payload, s.pointee? t = some payload → s.Redirects (s.modifyPointee t f) t (f payload)) ∧
      (s.pointee? t = none → s.modifyPointee t f = s)) ∧
    (∀ t, s.Redirects (s.release t) t t.bytes) ∧
    (∀ t, s.Registered t → ∃ payload, s.perform (.release t) =
        (.ok (.payload (some payload)), s.release t) ∧
      ((s.release t).insertPointer t payload).resolve = s.resolve) ∧
    (∀ i value, (s.setSlot i value).2.contributions =
      s.contributions.set i (contribution s.pointers value)) ∧
    ((∀ t, s.Registered t → t.bytes ∉ s.slots) → s.resolve = s.rawBytes) := by
  refine ⟨⟨s.resolve_eq_flatten, fun _ _ => contribution_eq_iff, fun _ =>
    contribution_of_length_ne⟩, s.redirects_insertPointer, ?_, s.redirects_release, ?_,
    s.contributions_setSlot, resolve_eq_rawBytes⟩
  · intro t f
    refine ⟨?_, fun h => s.modifyPointee_of_unregistered t h f⟩
    intro payload h
    rw [s.modifyPointee_of_registered t h f]
    exact s.redirects_insertPointer t (f payload)
  · intro t ht
    obtain ⟨payload, hp⟩ := Option.isSome_iff_exists.mp (pointee?_isSome_iff.mpr ht)
    refine ⟨payload, ?_, s.resolve_release_insertPointer t hp⟩
    rw [perform, hp]

/-- Two slots share a payload that is itself a registered token, and is not followed. -/
example :
    let slot := (⟨1⟩ : PointerToken).bytes
    let s : IndirectStruct := ⟨[slot, [9], slot], .empty⟩
    let t := (s.insertPointer ⟨2⟩ [7]).insertPointer ⟨1⟩ (⟨2⟩ : PointerToken).bytes
    t.resolve = [2, 0, 0, 0, 0, 0, 0, 0, 9, 2, 0, 0, 0, 0, 0, 0, 0] := by decide

end GenericNetlink.IndirectStruct
