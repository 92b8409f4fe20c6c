import GenericNetlink.Proofs.Layout.Resolution
import GenericNetlink.Proofs.Layout.TokenFreshness

/-!
# The null token

Generated tokens are not null, but a caller may register the null token itself: it is
registered exactly if it was inserted and not released since (`registered_run_iff`). A
slot of zero bytes as wide as a pointer then stands for the payload behind it. So an
empty structure resolves to its own bytes if nobody inserts the null token, and else only
as far as the payload happens to be zero bytes again.
-/

namespace GenericNetlink.IndirectStruct

open PointerToken (null)

theorem registered_run_iff (s : IndirectStruct) (calls : List Call) (t : PointerToken) :
    (s.run calls).Registered t ↔
      (s.Registered t ∧ ∀ r ∈ s.history calls, ¬r.Releases t) ∨
      ∃ e later, e :: later <:+ s.history calls ∧ (e.HandsOut t ∨ e.Inserts t) ∧
        ∀ r ∈ later, ¬r.Releases t := by
  -- From the front, so that what follows a step is a suffix of the history.
  induction calls generalizing s with
  | nil => simp [run, history]
  | cons call rest ih =>
    have hrun : s.run (call :: rest) = (s.step call).after.run rest := rfl
    rw [hrun, ih, (s.step_sound call).registered t]
    constructor
    · rintro (⟨⟨hb, hr⟩ | hnew, hrest⟩ | ⟨e, later, hsuffix, he, hlater⟩)
      · exact .inl ⟨hb, List.forall_mem_cons.mpr ⟨hr, hrest⟩⟩
      · exact .inr ⟨s.step call, _, List.suffix_refl _, hnew, hrest⟩
      · exact .inr ⟨e, later, hsuffix.trans (List.suffix_cons _ _), he, hlater⟩
    · rintro (⟨hb, hr⟩ | ⟨e, later, hsuffix, he, hlater⟩)
      · obtain ⟨hr, hrest⟩ := List.forall_mem_cons.mp hr
        exact .inl ⟨.inl ⟨hb, hr⟩, hrest⟩
      · obtain heq | hsuffix := List.suffix_cons_iff.mp hsuffix
        · obtain ⟨rfl, rfl⟩ := List.cons.inj heq
          exact .inl ⟨.inr he, hlater⟩
        · exact .inr ⟨e, later, hsuffix, he, hlater⟩

section
variable {count : Nat} {calls : List Call}

theorem not_registered_withSlots (t : PointerToken) : ¬(withSlots count).Registered t := by
  intro h
  cases h

theorem null_registered_iff :
    ((withSlots count).run calls).Registered null ↔
      ∃ e later, e :: later <:+ (withSlots count).history calls ∧ e.Inserts null ∧
        ∀ r ∈ later, ¬r.Releases null := by
  rw [registered_run_iff, or_iff_right fun h => not_registered_withSlots null h.1]
  refine exists_congr fun e => exists_congr fun later => and_congr_right fun hsuffix => ?_
  have hsound : e.Sound := history_sound _ calls e (hsuffix.subset List.mem_cons_self)
  have hfresh : ¬e.HandsOut null := fun h => (hsound.fresh null h).1 rfl
  rw [or_iff_right hfresh]

theorem null_not_registered (h : ∀ t payload, .insertPointer t payload ∈ calls → t.value ≠ 0) :
    ¬((withSlots count).run calls).Registered null := by
  rw [null_registered_iff]
  rintro ⟨e, later, hsuffix, ⟨payload, he⟩, -⟩
  have hmem := call_mem_of_mem_history (hsuffix.subset List.mem_cons_self)
  rw [he] at hmem
  exact h null payload hmem rfl

end

-- ---------------------------------------------------------------------------
-- Empty structures
-- ---------------------------------------------------------------------------

variable {s : IndirectStruct}

theorem isEmpty_iff : s.isEmpty = true ↔ ∀ slot ∈ s.slots, ∀ x ∈ slot, x = 0 := by
  simp [isEmpty, Bytes.isZero_iff]

/-- Among slots of zero bytes the null token is the one as wide as a pointer. -/
theorem length_ne_of_ne_null (h : s.isEmpty = true) {slot : Bytes} (hm : slot ∈ s.slots)
    (hn : slot ≠ null.bytes) : slot.length ≠ SizeOf.pointer := by
  intro hl
  refine hn ?_
  rw [PointerToken.bytes_null, List.eq_replicate_iff]
  exact ⟨hl, isEmpty_iff.mp h slot hm⟩

theorem contributions_of_isEmpty (h : s.isEmpty = true) :
    s.contributions = s.slots.map fun slot =>
      if slot = null.bytes then contribution s.pointers null.bytes else slot := by
  refine List.map_congr_left fun slot hm => ?_
  split
  · rename_i hn
    rw [hn]
  · rename_i hn
    exact contribution_of_length_ne (length_ne_of_ne_null h hm hn)

theorem length_flatten_replace (slots : List Bytes) (key part : Bytes) :
    (slots.map fun slot => if slot = key then part else slot).flatten.length +
        slots.count key * key.length =
      slots.flatten.length + slots.count key * part.length := by
  induction slots with
  | nil => simp
  | cons slot rest ih =>
    rw [List.map_cons, List.flatten_cons, List.length_append, List.flatten_cons,
      List.length_append]
    by_cases hs : slot = key
    · rw [if_pos hs, hs, List.count_cons_self, Nat.add_mul, Nat.add_mul]
      omega
    · rw [if_neg hs, List.count_cons_of_ne hs]
      omega

theorem resolve_eq_rawBytes_iff (h : s.isEmpty = true) :
    s.resolve = s.rawBytes ↔
      (null.bytes ∈ s.slots → contribution s.pointers null.bytes = null.bytes) := by
  have hc := contributions_of_isEmpty h
  rw [resolve_eq_flatten, hc, rawBytes]
  constructor
  · intro heq hm
    -- Equal lengths make the payload as long as the token.
    have hcount : 0 < s.slots.count null.bytes := List.count_pos_iff.mpr hm
    have hlen := length_flatten_replace s.slots null.bytes (contribution s.pointers null.bytes)
    rw [heq, Nat.add_left_cancel_iff, PointerToken.length_bytes] at hlen
    rw [PointerToken.bytes_null, List.eq_replicate_iff, ← PointerToken.bytes_null]
    refine ⟨(Nat.eq_of_mul_eq_mul_left hcount hlen).symm, fun x hx => ?_⟩
    -- The payload is a part of the bytes that the structure resolves to, all of them zero.
    have hflat : x ∈ s.slots.flatten := by
      rw [← heq]
      refine List.mem_flatten.mpr ⟨_, List.mem_map.mpr ⟨null.bytes, hm, if_pos rfl⟩, hx⟩
    obtain ⟨slot, hslot, hx⟩ := List.mem_flatten.mp hflat
    exact isEmpty_iff.mp h slot hslot x hx
  · intro hnull
    have hself : ∀ slot ∈ s.slots,
        (if slot = null.bytes then contribution s.pointers null.bytes else slot) = slot := by
      intro slot hm
      split
      · rename_i hn
        rw [hn]
        exact hnull (hn ▸ hm)
      · rfl
    rw [List.map_congr_left hself, List.map_id']

theorem contribution_null_eq_iff :
    contribution s.pointers null.bytes = null.bytes ↔
      ∀ payload, s.pointee? null = some payload → payload = null.bytes := by
  rw [contribution_bytes]
  show (s.pointee? null).getD null.bytes = null.bytes ↔ _
  cases s.pointee? null <;> simp

/-- After whatever is done to a new structure, the null token is registered exactly if
the caller inserted it and has not released it since. A history that does not insert it
keeps every registered token nonzero, and makes an empty structure resolve to its own
bytes. In general an empty structure does so exactly if it has no slot that is the null
token, or nothing but the bytes of the null token is registered behind it. -/
theorem null_resolves_only_if_inserted (count : Nat) (calls : List Call) :
    let s := (withSlots count).run calls
    (s.Registered null ↔
      ∃ e later, e :: later <:+ (withSlots count).history calls ∧ e.Inserts null ∧
        ∀ r ∈ later, ¬r.Releases null) ∧
    ((∀ t payload, .insertPointer t payload ∈ calls → t.value ≠ 0) →
      (∀ t, s.Registered t → t.value ≠ 0) ∧
      (s.isEmpty = true → s.resolve = s.rawBytes)) ∧
    (s.isEmpty = true →
      (s.resolve = s.rawBytes ↔ (null.bytes ∈ s.slots →
        ∀ payload, s.pointee? null = some payload → payload = null.bytes))) := by
  intro s
  refine ⟨null_registered_iff, fun hcalls => ?_, fun hempty => ?_⟩
  · have hnull : ¬s.Registered null := null_not_registered hcalls
    refine ⟨fun t ht => ?_, fun hempty => ?_⟩
    · rw [PointerToken.value_ne_zero_iff]
      rintro rfl
      exact hnull ht
    · rw [resolve_eq_rawBytes_iff hempty, contribution_null_eq_iff]
      intro _ payload hp
      exact absurd (Option.isSome_of_eq_some hp) hnull
  · rw [resolve_eq_rawBytes_iff hempty, contribution_null_eq_iff]

/-- The null token, read from eight zero bytes, is inserted, and an empty structure with
a slot of eight zero bytes resolves to the payload behind it. -/
theorem inserted_null_resolves :
    let s := (withSlots 1).run [.insertPointer null [1, 2], .setSlot 0 (List.replicate 8 0)]
    PointerToken.ofBytes? (List.replicate 8 0) = some null ∧
      s.Registered null ∧ s.isEmpty = true ∧
      s.resolve = [1, 2] ∧ s.rawBytes = List.replicate 8 0 :=
  ⟨rfl, rfl, rfl, rfl, rfl⟩

end GenericNetlink.IndirectStruct
