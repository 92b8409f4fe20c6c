import GenericNetlink.Layout.IndirectHistory
import Mathlib.Data.Set.Card

/-!
# Fresh tokens

A token that is handed out was free and is registered from then on, so that it is
not handed out again before it is released. One step is described by what it does
to the registered tokens (`Step.Sound`); a history follows step by step.
-/

namespace GenericNetlink.IndirectStruct

namespace Step

def HandsOut (e : Step) (t : PointerToken) : Prop := e.answer = .ok (.token t)

def Inserts (e : Step) (t : PointerToken) : Prop := ∃ payload, e.call = .insertPointer t payload

def Releases (e : Step) (t : PointerToken) : Prop :=
  e.call = .release t ∧ ∃ payload, e.answer = .ok (.payload (some payload))

structure Sound (e : Step) : Prop where
  fresh : ∀ t, e.HandsOut t → t.value ≠ 0 ∧ ¬e.before.Registered t
  registered : ∀ t, e.after.Registered t ↔
    (e.before.Registered t ∧ ¬e.Releases t) ∨ e.HandsOut t ∨ e.Inserts t
  slotCount : e.after.slotCount = e.before.slotCount
  refused : ∀ fault, e.answer = .error fault → e.after = e.before

theorem Sound.keeps {e : Step} (h : e.Sound) {t : PointerToken} (ht : e.before.Registered t)
    (hr : ¬e.Releases t) : e.after.Registered t :=
  (h.registered t).mpr (.inl ⟨ht, hr⟩)

theorem Sound.registers {e : Step} (h : e.Sound) {t : PointerToken}
    (ht : e.HandsOut t ∨ e.Inserts t) : e.after.Registered t :=
  (h.registered t).mpr (.inr ht)

theorem Sound.of_refused {s : IndirectStruct} {call : Call} {fault : Fault}
    (hi : ∀ t payload, call ≠ .insertPointer t payload) :
    Sound ⟨s, call, .error fault, s⟩ where
  fresh t ht := by cases ht
  registered t := by simp [HandsOut, Inserts, Releases, hi]
  slotCount := rfl
  refused _ _ := rfl

theorem Sound.of_token {s s' : IndirectStruct} {call : Call} {t : PointerToken}
    (hz : t.value ≠ 0) (hf : ¬s.Registered t)
    (hr : ∀ u, s'.Registered u ↔ u = t ∨ s.Registered u) (hn : s'.slotCount = s.slotCount)
    (hi : ∀ u payload, call ≠ .insertPointer u payload) :
    Sound ⟨s, call, .ok (.token t), s'⟩ where
  fresh u hu := by
    cases hu
    exact ⟨hz, hf⟩
  registered u := by
    show s'.Registered u ↔ _
    rw [hr]
    simp [HandsOut, Inserts, Releases, hi, or_comm, eq_comm]
  slotCount := hn
  refused fault he := by cases he

end Step

-- ---------------------------------------------------------------------------
-- One step
-- ---------------------------------------------------------------------------

theorem step_eq {s s' : IndirectStruct} {call : Call} {answer : Except Fault Answer}
    (h : s.perform call = (answer, s')) : s.step call = ⟨s, call, answer, s'⟩ := by
  rw [step, h]

section
variable (s : IndirectStruct)

theorem setSlot_sound (i : Nat) (value : Bytes) : (s.step (.setSlot i value)).Sound := by
  obtain ⟨-, h⟩ | ⟨-, h⟩ := s.setSlot_cases i value
  · have hp : s.perform (.setSlot i value) =
        (.ok .done, { s with slots := s.slots.set i value }) := by
      simp only [perform, h]
      rfl
    rw [step_eq hp]
    constructor
    · intro t ht
      cases ht
    · intro t
      simp [Step.HandsOut, Step.Inserts, Step.Releases, Registered]
    · exact List.length_set
    · intro fault he
      cases he
  · have hp : s.perform (.setSlot i value) = (.error (.fieldIndex i s.slotCount), s) := by
      simp only [perform, h]
      rfl
    rw [step_eq hp]
    exact .of_refused (by rintro _ _ ⟨⟩)

theorem newToken_sound {σ : Type} (source : TokenSource σ) (state : σ) :
    (s.step (.newToken source state)).Sound := by
  obtain ⟨t, next, hz, hf, h⟩ | ⟨next, h⟩ := s.reserve_cases source state
  · have hp : s.perform (.newToken source state) = (.ok (.token t), s.insertPointer t []) := by
      simp only [perform, h]
      rfl
    rw [step_eq hp]
    exact .of_token hz hf (fun _ => registered_insertPointer) rfl (by rintro _ _ ⟨⟩)
  · have hp : s.perform (.newToken source state) =
        (.error (.tokenSpaceExhausted maxAttempts s.pointerCount), s) := by
      simp only [perform, h]
      rfl
    rw [step_eq hp]
    exact .of_refused (by rintro _ _ ⟨⟩)

theorem pointSlot_sound {σ : Type} (i : Nat) (payload : Bytes) (source : TokenSource σ)
    (state : σ) : (s.step (.pointSlot i payload source state)).Sound := by
  obtain ⟨t, next, -, hz, hf, h⟩ | ⟨fault, next, h⟩ := s.pointSlot_cases source state i payload
  · have hp : s.perform (.pointSlot i payload source state) = (.ok (.token t),
        ⟨s.slots.set i t.bytes, (s.pointers.insert t []).insert t payload⟩) := by
      simp only [perform, h]
      rfl
    rw [step_eq hp]
    -- The token is registered twice, as a placeholder and with its payload.
    refine .of_token hz hf ?_ List.length_set (by rintro _ _ ⟨⟩)
    intro u
    simp only [Registered, Registry.contains_insert]
    rw [← or_assoc, or_self]
  · have hp : s.perform (.pointSlot i payload source state) = (.error fault, s) := by
      simp only [perform, h]
      rfl
    rw [step_eq hp]
    exact .of_refused (by rintro _ _ ⟨⟩)

theorem insertPointer_sound (t : PointerToken) (payload : Bytes) :
    (s.step (.insertPointer t payload)).Sound where
  fresh u hu := by cases hu
  registered u := by
    show (s.insertPointer t payload).Registered u ↔ _
    rw [registered_insertPointer]
    simp [Step.HandsOut, Step.Inserts, Step.Releases, step, perform, or_comm, eq_comm]
  slotCount := rfl
  refused fault he := by cases he

theorem editPointee_sound (t : PointerToken) (f : Bytes → Bytes) :
    (s.step (.editPointee t f)).Sound where
  fresh u hu := by cases hu
  registered u := by
    show (s.modifyPointee t f).Registered u ↔ _
    rw [registered_modifyPointee]
    simp [Step.HandsOut, Step.Inserts, Step.Releases, step, perform]
  slotCount := s.slotCount_modifyPointee t f
  refused fault he := by cases he

theorem releases_release {t u : PointerToken} :
    (s.step (.release t)).Releases u ↔ u = t ∧ s.Registered t := by
  simp only [Step.Releases, step, perform, Call.release.injEq, Except.ok.injEq,
    Answer.payload.injEq, ← Option.isSome_iff_exists, pointee?_isSome_iff]
  rw [eq_comm]

theorem release_sound (t : PointerToken) : (s.step (.release t)).Sound where
  fresh u hu := by cases hu
  registered u := by
    show (s.release t).Registered u ↔ (s.Registered u ∧ _) ∨ _
    rw [registered_release, s.releases_release]
    have hn : ¬((s.step (.release t)).HandsOut u ∨ (s.step (.release t)).Inserts u) := by
      rintro (h | ⟨_, h⟩) <;> cases h
    simp only [hn, or_false]
    constructor
    · rintro ⟨hne, hu⟩
      exact ⟨hu, fun h => hne h.1⟩
    · rintro ⟨hu, hn⟩
      refine ⟨?_, hu⟩
      rintro rfl
      exact hn ⟨rfl, hu⟩
  slotCount := rfl
  refused fault he := by cases he

theorem step_sound (call : Call) : (s.step call).Sound := by
  cases call with
  | setSlot i value => exact s.setSlot_sound i value
  | newToken source state => exact s.newToken_sound source state
  | pointSlot i payload source state => exact s.pointSlot_sound i payload source state
  | insertPointer t payload => exact s.insertPointer_sound t payload
  | editPointee t f => exact s.editPointee_sound t f
  | release t => exact s.release_sound t

end

-- ---------------------------------------------------------------------------
-- Histories
-- ---------------------------------------------------------------------------

theorem history_sound (s : IndirectStruct) (calls : List Call) :
    ∀ e ∈ s.history calls, e.Sound := by
  induction calls generalizing s with
  | nil =>
    intro e he
    cases he
  | cons call rest ih =>
    intro e he
    obtain rfl | he := List.mem_cons.mp he
    · exact s.step_sound call
    · exact ih _ e he

theorem slotCount_history (s : IndirectStruct) (calls : List Call) :
    ∀ e ∈ s.history calls, e.before.slotCount = s.slotCount ∧ e.after.slotCount = s.slotCount := by
  induction calls generalizing s with
  | nil =>
    intro e he
    cases he
  | cons call rest ih =>
    have hs := (s.step_sound call).slotCount
    intro e he
    obtain rfl | he := List.mem_cons.mp he
    · exact ⟨rfl, hs⟩
    · rw [← before_step s call, ← hs]
      exact ih _ e he

theorem registered_until_released {s : IndirectStruct} {t : PointerToken} (ht : s.Registered t)
    {calls : List Call} {earlier later : List Step} {e : Step}
    (h : s.history calls = earlier ++ e :: later) :
    e.before.Registered t ∨ ∃ r ∈ earlier, r.Releases t := by
  -- Over the steps before `e`: each keeps the token or is the release that is asked for.
  induction earlier generalizing s calls with
  | nil =>
    cases calls with
    | nil => cases h
    | cons call rest =>
      cases h
      exact .inl ht
  | cons first earlier ih =>
    cases calls with
    | nil => cases h
    | cons call rest =>
      obtain ⟨rfl, htail⟩ := List.cons.inj h
      by_cases hr : (s.step call).Releases t
      · exact .inr ⟨_, List.mem_cons_self, hr⟩
      · obtain hb | ⟨r, hm, hr⟩ := ih ((s.step_sound call).keeps ht hr) htail
        · exact .inl hb
        · exact .inr ⟨r, List.mem_cons_of_mem _ hm, hr⟩

theorem registered_between {s : IndirectStruct} {calls : List Call}
    {earlier between later : List Step} {a b : Step} {t : PointerToken}
    (h : s.history calls = earlier ++ a :: (between ++ b :: later))
    (ht : a.after.Registered t) : b.before.Registered t ∨ ∃ r ∈ between, r.Releases t := by
  obtain ⟨rest, hrest⟩ := history_after h
  exact registered_until_released ht hrest.symm

/-- A token is free when it is handed out, so that an earlier registration of it
has been released. -/
theorem released_between {s : IndirectStruct} {calls : List Call}
    {earlier between later : List Step} {a b : Step} {t : PointerToken}
    (h : s.history calls = earlier ++ a :: (between ++ b :: later))
    (ha : a.HandsOut t ∨ a.Inserts t) (hb : b.HandsOut t) : ∃ r ∈ between, r.Releases t := by
  have hsa : a.Sound := s.history_sound calls a (by simp [h])
  have hsb : b.Sound := s.history_sound calls b (by simp [h])
  obtain hr | hr := registered_between h (hsa.registers ha)
  · exact absurd hr (hsb.fresh t hb).2
  · exact hr

theorem handed_out_distinct {s : IndirectStruct} {calls : List Call}
    (hn : ∀ r ∈ s.history calls, ∀ t, ¬r.Releases t) :
    (s.history calls).Pairwise fun a b =>
      ∀ t, a.HandsOut t ∨ a.Inserts t → ¬b.HandsOut t := by
  induction calls generalizing s with
  | nil => exact .nil
  | cons call rest ih =>
    have hrest : ∀ r ∈ (s.step call).after.history rest, ∀ t, ¬r.Releases t :=
      fun r hr => hn r (List.mem_cons_of_mem _ hr)
    refine List.pairwise_cons.mpr ⟨?_, ih hrest⟩
    intro b hb t ha hbt
    -- A second handing out would need a release between the two.
    obtain ⟨between, later, hsplit⟩ := List.append_of_mem hb
    have h : s.history (call :: rest) = [] ++ s.step call :: (between ++ b :: later) :=
      congrArg _ hsplit
    obtain ⟨r, hr, hrt⟩ := released_between h ha hbt
    refine hrest r ?_ t hrt
    rw [hsplit]
    exact List.mem_append_left _ hr

theorem size_eq_ncard {κ α : Type} [DecidableEq κ] (r : Registry κ α) :
    r.size = {key | r.contains key = true}.ncard := by
  have hset : {key | r.contains key = true} = ↑(r.entries.map Prod.fst).toFinset := by
    ext key
    simp only [Set.mem_ofPred_eq, r.contains_iff_mem, Finset.mem_coe, List.mem_toFinset]
  rw [hset, Set.ncard_coe_finset, List.toFinset_card_of_nodup r.nodup, List.length_map]
  rfl

theorem pointerCount_eq (s : IndirectStruct) : s.pointerCount = {t | s.Registered t}.ncard :=
  size_eq_ncard s.pointers

/-- From a new structure on, whatever is called and wherever candidates come from: a
token that is handed out is not zero, was free and is registered; it stays so until
it is released, and only then may it be handed out again. The tokens are counted,
the slots stay as many as they were, and refused calls do nothing. -/
theorem tokens_fresh (count : Nat) (calls : List Call) :
    (∀ e ∈ (withSlots count).history calls,
      (∀ t, e.HandsOut t → t.value ≠ 0 ∧ ¬e.before.Registered t ∧ e.after.Registered t) ∧
      (∀ t, e.before.Registered t → ¬e.Releases t → e.after.Registered t) ∧
      (e.before.pointerCount = {t | e.before.Registered t}.ncard ∧
        e.after.pointerCount = {t | e.after.Registered t}.ncard) ∧
      (e.before.slotCount = count ∧ e.after.slotCount = count) ∧
      ∀ fault, e.answer = .error fault → e.after = e.before) ∧
    (∀ earlier a between b later,
      (withSlots count).history calls = earlier ++ a :: (between ++ b :: later) →
      ∀ t,
        (a.after.Registered t → b.before.Registered t ∨ ∃ r ∈ between, r.Releases t) ∧
        (a.HandsOut t → b.HandsOut t → ∃ r ∈ between, r.Releases t)) ∧
    ((∀ r ∈ (withSlots count).history calls, ∀ t, ¬r.Releases t) →
      ((withSlots count).history calls).Pairwise fun a b =>
        ∀ t, a.HandsOut t ∨ a.Inserts t → ¬b.HandsOut t) := by
  refine ⟨?_, ?_, handed_out_distinct⟩
  · intro e he
    have hs : e.Sound := history_sound _ calls e he
    have hn := slotCount_history _ calls e he
    have hc : (withSlots count).slotCount = count := List.length_replicate
    rw [hc] at hn
    refine ⟨?_, fun _ => hs.keeps, ⟨pointerCount_eq _, pointerCount_eq _⟩, hn, hs.refused⟩
    intro t ht
    obtain ⟨hz, hf⟩ := hs.fresh t ht
    exact ⟨hz, hf, hs.registers (.inl ht)⟩
  · intro earlier a between b later h t
    exact ⟨registered_between h, fun ha hb => released_between h (.inl ha) hb⟩

example : (((withSlots 0).step (.newToken (.scripted 6) [5])).after.step
    (.newToken (.scripted 6) [5])).answer = .ok (.token ⟨6⟩) := by decide

end GenericNetlink.IndirectStruct
