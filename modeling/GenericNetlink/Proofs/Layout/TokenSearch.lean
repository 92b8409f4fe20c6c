import GenericNetlink.Proofs.Layout.TokenFreshness

/-!
# The search for a free token

A source with a state stands for the sequence of candidates that it draws from there on.
The search takes them one by one, for a bounded number of draws, and stops at the first
that is free (`firstFree_cases`). A reservation registers that one and nothing else. It
can fail only if all candidates that may be drawn are registered, which takes as many
registered tokens as there are distinct candidates.
-/

namespace GenericNetlink

namespace TokenSource

variable {σ : Type} (source : TokenSource σ)

def ofSequence (c : Nat → PointerToken) (h : ∀ k, (c k).value ≠ 0) : TokenSource Nat where
  draw count := (c count, count + 1)
  draw_ne_zero := h

theorem after_ofSequence (c : Nat → PointerToken) (h : ∀ k, (c k).value ≠ 0) (k start : Nat) :
    (ofSequence c h).after k start = start + k := by
  induction k generalizing start with
  | zero => rfl
  | succ k ih =>
    refine (ih (start + 1)).trans ?_
    omega

theorem candidate_ofSequence (c : Nat → PointerToken) (h : ∀ k, (c k).value ≠ 0) :
    (ofSequence c h).candidate 0 = c := by
  funext k
  rw [candidate, after_ofSequence, Nat.zero_add]
  rfl

theorem after_after (j k : Nat) (state : σ) :
    source.after k (source.after j state) = source.after (j + k) state := by
  induction j generalizing state with
  | zero => rw [Nat.zero_add, after]
  | succ j ih => rw [Nat.succ_add]; exact ih _

theorem candidate_after (j k : Nat) (state : σ) :
    source.candidate (source.after j state) k = source.candidate state (j + k) := by
  rw [candidate, after_after, candidate]

end TokenSource

-- ---------------------------------------------------------------------------
-- Reservation
-- ---------------------------------------------------------------------------

namespace IndirectStruct

/-- `s'` is `s` with the free token `t` registered for an empty payload. Nothing else
differs, so that releasing the token undoes it. -/
structure Reserves (s s' : IndirectStruct) (t : PointerToken) : Prop where
  free : ¬s.Registered t
  slots : s'.slots = s.slots
  entry : s'.pointee? t = some []
  others : ∀ u, u ≠ t → s'.pointee? u = s.pointee? u
  pointerCount : s'.pointerCount = s.pointerCount + 1
  released : s'.release t = s

section
variable {s : IndirectStruct} {t : PointerToken}

theorem reserves_insertPointer (h : ¬s.Registered t) : s.Reserves (s.insertPointer t []) t where
  free := h
  slots := rfl
  entry := (s.pointers.get?_insert t t []).trans (if_pos rfl)
  others u hu := (s.pointers.get?_insert t u []).trans (if_neg hu)
  pointerCount := (s.pointers.size_insert t []).trans (congrArg _ (if_neg h))
  released := by
    show (⟨s.slots, (s.pointers.insert t []).erase t⟩ : IndirectStruct) = s
    rw [Registry.erase_insert_self, Registry.erase_of_not_contains h]

theorem card_le_pointerCount {tokens : Finset PointerToken} (h : ∀ t ∈ tokens, s.Registered t) :
    tokens.card ≤ s.pointerCount := by
  have hkeys : tokens ⊆ (s.pointers.entries.map Prod.fst).toFinset := fun t ht =>
    List.mem_toFinset.mpr ((s.pointers.contains_iff_mem t).mp (h t ht))
  have hcard := Finset.card_le_card hkeys
  rwa [List.toFinset_card_of_nodup s.pointers.nodup, List.length_map] at hcard

end

variable {σ : Type} (s : IndirectStruct) (source : TokenSource σ) (state : σ)

/-- Any sequence of nonzero tokens may be the one that is drawn. If one of its first
64 candidates is free, the first free one is registered, for an empty payload, and handed
out; what follows it is left to be drawn. If none is free, nothing changes and the fault
counts the draws and the registered tokens. So a token is found if the first 64
candidates are more distinct tokens than are registered. -/
theorem reserve_first_fit :
    (∀ c : Nat → PointerToken, (∀ k, (c k).value ≠ 0) →
      ∃ drawn : TokenSource Nat, drawn.candidate 0 = c) ∧
    ((∃ k < 64, ¬s.Registered (source.candidate state k)) →
      ∃ k < 64, ¬s.Registered (source.candidate state k) ∧
        (∀ j < k, s.Registered (source.candidate state j)) ∧
        ∃ s' next, s.reserve source state = (.ok (source.candidate state k), s', next) ∧
          s.Reserves s' (source.candidate state k) ∧
          next = source.after (k + 1) state ∧
          ∀ j, source.candidate next j = source.candidate state (k + 1 + j)) ∧
    ((∀ k < 64, s.Registered (source.candidate state k)) →
      s.reserve source state =
        (.error (.tokenSpaceExhausted 64 s.pointerCount), s, source.after 64 state)) ∧
    (s.pointerCount < ((Finset.range 64).image (source.candidate state)).card →
      ∃ t s' next, s.reserve source state = (.ok t, s', next) ∧ s.Reserves s' t) := by
  refine ⟨fun c hc => ⟨_, TokenSource.candidate_ofSequence c hc⟩, ?_⟩
  obtain ⟨k, hk, hfree, htaken, h⟩ | ⟨htaken, h⟩ := s.reserve_first source state
  · have hr := reserves_insertPointer hfree
    refine ⟨fun _ => ⟨k, hk, hfree, htaken, _, _, h, hr, rfl, ?_⟩, ?_, fun _ => ⟨_, _, _, h, hr⟩⟩
    · exact fun j => source.candidate_after (k + 1) j state
    · exact fun hall => absurd (hall k hk) hfree
  · refine ⟨?_, fun _ => h, ?_⟩
    · rintro ⟨k, hk, hfree⟩
      exact absurd (htaken k hk) hfree
    · intro hcard
      -- As many tokens are registered as there are distinct candidates among them.
      refine absurd hcard (Nat.not_lt.mpr (card_le_pointerCount ?_))
      intro t ht
      obtain ⟨k, hk, rfl⟩ := Finset.mem_image.mp ht
      exact htaken k (Finset.mem_range.mp hk)

example :
    let s := (withSlots 0).insertPointer ⟨5⟩ [1]
    (s.reserve (.scripted 6) [5, 5, 7]) = (.ok ⟨7⟩, s.insertPointer ⟨7⟩ [], []) := by decide

end IndirectStruct

end GenericNetlink
