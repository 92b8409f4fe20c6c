import GenericNetlink.Fault
import GenericNetlink.Layout.PointerToken
import GenericNetlink.Registry
import GenericNetlink.Text.HexDump

/-!
# Structures with pointers

Each member of the structure is a slot of its own. A slot holds a value, or the
token of a payload that is kept out of line. `rawBytes` shows the slots as they
are; `resolve` puts the payload in the place of every slot that is exactly a
registered token, and does not follow the payload further. New tokens come from
a source of candidates; a bounded number of them is tried.
-/

namespace GenericNetlink

open Text

abbrev TokenTable := Registry PointerToken Bytes

structure IndirectStruct where
  slots : List Bytes
  pointers : TokenTable
  deriving DecidableEq

namespace IndirectStruct

def maxAttempts : Nat := 64

def withSlots (count : Nat) : IndirectStruct := ⟨List.replicate count [], Registry.empty⟩

def slotCount (s : IndirectStruct) : Nat := s.slots.length

def pointerCount (s : IndirectStruct) : Nat := s.pointers.size

-- ---------------------------------------------------------------------------
-- Slots
-- ---------------------------------------------------------------------------

def slot (s : IndirectStruct) (i : Nat) : Except Fault Bytes :=
  match s.slots[i]? with
  | some bytes => .ok bytes
  | none => .error (.fieldIndex i s.slotCount)

def setSlot (s : IndirectStruct) (i : Nat) (value : Bytes) : Except Fault Unit × IndirectStruct :=
  if i < s.slotCount then (.ok (), { s with slots := s.slots.set i value })
  else (.error (.fieldIndex i s.slotCount), s)

/-- What a slot stands for: the payload behind it if it is exactly a registered
token, else its own bytes. -/
def contribution (table : TokenTable) (slot : Bytes) : Bytes :=
  ((PointerToken.ofBytes? slot).bind table.get?).getD slot

def resolve (s : IndirectStruct) : Bytes := s.slots.flatMap (contribution s.pointers)

def rawBytes (s : IndirectStruct) : Bytes := s.slots.flatten

def isEmpty (s : IndirectStruct) : Bool := s.slots.all Bytes.isZero

def display (s : IndirectStruct) : String := hexDump s.slots.flatten

-- ---------------------------------------------------------------------------
-- Pointers
-- ---------------------------------------------------------------------------

def pointee? (s : IndirectStruct) (t : PointerToken) : Option Bytes := s.pointers.get? t

def insertPointer (s : IndirectStruct) (t : PointerToken) (payload : Bytes) : IndirectStruct :=
  { s with pointers := s.pointers.insert t payload }

def modifyPointee (s : IndirectStruct) (t : PointerToken) (f : Bytes → Bytes) : IndirectStruct :=
  match s.pointee? t with
  | some payload => s.insertPointer t (f payload)
  | none => s

/-- Forget a token. A slot that still holds it stands for the token's bytes from now on. -/
def release (s : IndirectStruct) (t : PointerToken) : IndirectStruct :=
  { s with pointers := s.pointers.erase t }

/-- Register a fresh token with an empty payload, so that it is not handed out
again. The structure comes back in any case, and the state of the source after
the search as well. -/
def reserve {σ : Type} (s : IndirectStruct) (source : TokenSource σ) (state : σ) :
    Except Fault PointerToken × IndirectStruct × σ :=
  match source.firstFree s.pointers.contains maxAttempts state with
  | (some t, next) => (.ok t, s.insertPointer t [], next)
  | (none, next) => (.error (.tokenSpaceExhausted maxAttempts s.pointerCount), s, next)

/-- Keep a payload out of line and write a fresh token for it into slot `i`. The
index is looked at before a token is reserved, so that none is left behind. -/
def pointSlot {σ : Type} (s : IndirectStruct) (i : Nat) (payload : Bytes)
    (source : TokenSource σ) (state : σ) : Except Fault PointerToken × IndirectStruct × σ :=
  if i < s.slotCount then
    match s.reserve source state with
    | (.error fault, reserved, next) => (.error fault, reserved, next)
    | (.ok t, reserved, next) =>
      let (outcome, pointed) := (reserved.insertPointer t payload).setSlot i t.bytes
      (outcome.map fun _ => t, pointed, next)
  else (.error (.fieldIndex i s.slotCount), s, state)

theorem contribution_of_length_ne {table : TokenTable} {slot : Bytes}
    (h : slot.length ≠ SizeOf.pointer) : contribution table slot = slot := by
  simp [contribution, PointerToken.ofBytes?, h]

theorem contribution_bytes (table : TokenTable) (t : PointerToken) :
    contribution table t.bytes = (table.get? t).getD t.bytes := by
  simp [contribution]

-- ---------------------------------------------------------------------------
-- Registered tokens
-- ---------------------------------------------------------------------------

def Registered (s : IndirectStruct) (t : PointerToken) : Prop := s.pointers.contains t = true

theorem pointee?_isSome_iff {s : IndirectStruct} {t : PointerToken} :
    (s.pointee? t).isSome = true ↔ s.Registered t := Iff.rfl

theorem registered_insertPointer {s : IndirectStruct} {t u : PointerToken} {payload : Bytes} :
    (s.insertPointer t payload).Registered u ↔ u = t ∨ s.Registered u :=
  s.pointers.contains_insert t u payload

theorem registered_release {s : IndirectStruct} {t u : PointerToken} :
    (s.release t).Registered u ↔ u ≠ t ∧ s.Registered u :=
  s.pointers.contains_erase t u

theorem registered_modifyPointee {s : IndirectStruct} {t u : PointerToken} {f : Bytes → Bytes} :
    (s.modifyPointee t f).Registered u ↔ s.Registered u := by
  unfold modifyPointee
  split
  · rename_i payload hp
    rw [registered_insertPointer]
    refine ⟨?_, .inr⟩
    rintro (rfl | hu)
    · exact pointee?_isSome_iff.mp (Option.isSome_iff_exists.mpr ⟨payload, hp⟩)
    · exact hu
  · rfl

@[simp] theorem slotCount_modifyPointee (s : IndirectStruct) (t : PointerToken)
    (f : Bytes → Bytes) : (s.modifyPointee t f).slotCount = s.slotCount := by
  unfold modifyPointee
  split <;> rfl

-- ---------------------------------------------------------------------------
-- What may fail
-- ---------------------------------------------------------------------------

theorem setSlot_cases (s : IndirectStruct) (i : Nat) (value : Bytes) :
    (i < s.slotCount ∧ s.setSlot i value = (.ok (), { s with slots := s.slots.set i value })) ∨
    (¬i < s.slotCount ∧ s.setSlot i value = (.error (.fieldIndex i s.slotCount), s)) := by
  unfold setSlot
  split
  · exact .inl ⟨‹_›, rfl⟩
  · exact .inr ⟨‹_›, rfl⟩

section
variable {σ : Type} (s : IndirectStruct) (source : TokenSource σ) (state : σ)

theorem reserve_first :
    (∃ k < maxAttempts, ¬s.Registered (source.candidate state k) ∧
      (∀ j < k, s.Registered (source.candidate state j)) ∧
      s.reserve source state =
        (.ok (source.candidate state k), s.insertPointer (source.candidate state k) [],
          source.after (k + 1) state)) ∨
    ((∀ k < maxAttempts, s.Registered (source.candidate state k)) ∧
      s.reserve source state = (.error (.tokenSpaceExhausted maxAttempts s.pointerCount), s,
        source.after maxAttempts state)) := by
  obtain ⟨k, hk, hfree, htaken, h⟩ | ⟨htaken, h⟩ :=
    source.firstFree_cases s.pointers.contains maxAttempts state
  · refine .inl ⟨k, hk, Bool.eq_false_iff.mp hfree, htaken, ?_⟩
    simp only [reserve, h]
  · refine .inr ⟨htaken, ?_⟩
    simp only [reserve, h]

theorem reserve_cases :
    (∃ t next, t.value ≠ 0 ∧ ¬s.Registered t ∧
      s.reserve source state = (.ok t, s.insertPointer t [], next)) ∨
    (∃ next, s.reserve source state =
      (.error (.tokenSpaceExhausted maxAttempts s.pointerCount), s, next)) := by
  obtain ⟨k, -, hfree, -, h⟩ | ⟨-, h⟩ := s.reserve_first source state
  · exact .inl ⟨_, _, source.draw_ne_zero _, hfree, h⟩
  · exact .inr ⟨_, h⟩

/-- The three ends of pointing a slot. Only the first, with the first free candidate, changes
the structure; a slot that does not exist is refused before anything is drawn. -/
theorem pointSlot_first (i : Nat) (payload : Bytes) :
    (∃ k < maxAttempts, i < s.slotCount ∧ ¬s.Registered (source.candidate state k) ∧
      (∀ j < k, s.Registered (source.candidate state j)) ∧
      s.pointSlot i payload source state =
        (.ok (source.candidate state k),
          ⟨s.slots.set i (source.candidate state k).bytes,
            (s.pointers.insert (source.candidate state k) []).insert (source.candidate state k)
              payload⟩,
          source.after (k + 1) state)) ∨
    (i < s.slotCount ∧ (∀ k < maxAttempts, s.Registered (source.candidate state k)) ∧
      s.pointSlot i payload source state =
        (.error (.tokenSpaceExhausted maxAttempts s.pointerCount), s,
          source.after maxAttempts state)) ∨
    (¬i < s.slotCount ∧
      s.pointSlot i payload source state = (.error (.fieldIndex i s.slotCount), s, state)) := by
  unfold pointSlot
  split
  · rename_i hi
    obtain ⟨k, hk, hfree, htaken, h⟩ | ⟨htaken, h⟩ := s.reserve_first source state
    · refine .inl ⟨k, hk, hi, hfree, htaken, ?_⟩
      generalize source.candidate state k = t at h ⊢
      rw [h]
      have hset : ((s.insertPointer t []).insertPointer t payload).setSlot i t.bytes =
          (.ok (), ⟨s.slots.set i t.bytes, (s.pointers.insert t []).insert t payload⟩) := if_pos hi
      simp only [hset]
      rfl
    · refine .inr (.inl ⟨hi, htaken, ?_⟩)
      rw [h]
  · exact .inr (.inr ⟨‹_›, rfl⟩)

theorem pointSlot_cases (i : Nat) (payload : Bytes) :
    (∃ t next, i < s.slotCount ∧ t.value ≠ 0 ∧ ¬s.Registered t ∧
      s.pointSlot i payload source state =
        (.ok t, ⟨s.slots.set i t.bytes, (s.pointers.insert t []).insert t payload⟩, next)) ∨
    (∃ fault next, s.pointSlot i payload source state = (.error fault, s, next)) := by
  obtain ⟨k, -, hi, hfree, -, h⟩ | ⟨-, -, h⟩ | ⟨-, h⟩ := s.pointSlot_first source state i payload
  · exact .inl ⟨_, _, hi, source.draw_ne_zero _, hfree, h⟩
  · exact .inr ⟨_, _, h⟩
  · exact .inr ⟨_, _, h⟩

end

end IndirectStruct

end GenericNetlink
