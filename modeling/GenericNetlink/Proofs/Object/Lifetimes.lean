import GenericNetlink.Object.Lifecycle

/-!
# Every object is released once

Each call accounts for the objects of a type: those that it makes are held afterwards,
unless they are among those whose lives it ended. Over a run this gives a balance of
allocations, releases and held objects, also through calls that fail halfway.
-/

namespace GenericNetlink.Heap

variable {P : Type} {tables : Catalog P} {h h' : Heap P}

/-- One heap turns into the other by making and releasing objects, and what variables
hold changes by as much. -/
structure Accounts (h h' : Heap P) (made : List TypeTag) (ended : List (Object P)) : Prop where
  allocated : h'.allocated = h.allocated ++ made
  released : h'.released = h.released ++ ended
  holdings : ∀ tag, h'.holdings tag + ended.countP (·.tag == tag) = h.holdings tag + made.count tag

theorem accounts_refl (h : Heap P) : Accounts h h [] [] :=
  ⟨(List.append_nil _).symm, (List.append_nil _).symm, fun _ => rfl⟩

theorem drop_accounts (h : Heap P) (name : String) :
    Accounts h (h.drop name) [] (h.find? name).toList := by
  have he := h.holdings_erase name
  obtain ⟨hn, hd⟩ | ⟨o, hn, hd⟩ := h.drop_cases name
  · rw [hn, hd]
    exact accounts_refl h
  · rw [hn] at he ⊢
    rw [hd]
    exact ⟨(allocated_record_released _ o).trans (List.append_nil _).symm,
      released_record_released _ o, he⟩

theorem adopt_accounts (h : Heap P) (name : String) (o : Object P) :
    Accounts h (h.adopt name o) [o.tag] (h.find? name).toList := by
  let freed := (h.record (.allocated o.tag)).drop name
  have hd : Accounts (h.record (.allocated o.tag)) freed [] (h.find? name).toList :=
    (h.record (.allocated o.tag)).drop_accounts name
  have hn : freed.find? name = none := (find?_drop _ name name).trans (if_pos rfl)
  refine ⟨?_, ?_, fun tag => ?_⟩
  · calc (h.adopt name o).allocated = freed.allocated := rfl
      _ = h.allocated ++ [o.tag] := by
        rw [hd.allocated, List.append_nil, allocated_record_allocated]
  · calc (h.adopt name o).released = freed.released := rfl
      _ = h.released ++ (h.find? name).toList := by rw [hd.released, released_record_allocated]
  · -- The variable is free by now, so that the new object comes on top of what is held.
    have hi : (h.adopt name o).holdings tag = freed.holdings tag + [o.tag].count tag := by
      have := freed.holdings_insert name o tag
      rwa [hn] at this
    have ht : freed.holdings tag + (h.find? name).toList.countP (·.tag == tag) =
        h.holdings tag := hd.holdings tag
    omega

theorem update_accounts (h : Heap P) (name : String) (contents : Attributed P) :
    Accounts h (h.update name contents) [] [] := by
  unfold update
  split
  · exact accounts_refl h
  · rename_i o hn
    refine ⟨(List.append_nil _).symm, (List.append_nil _).symm, fun tag => ?_⟩
    -- What takes the place of the object is of its type.
    have hi := h.holdings_insert name (o.withContents contents) tag
    rw [hn] at hi
    exact Nat.add_right_cancel hi

theorem discard_accounts (h : Heap P) (o : Object P) :
    Accounts h (h.discard o) [o.tag] [o] := by
  refine ⟨?_, ?_, fun _ => rfl⟩ <;> rw [discard]
  · rw [allocated_record_released, allocated_record_allocated]
  · rw [released_record_released, released_record_allocated]

theorem clone_accounts (h : Heap P) (src dst : String) :
    Accounts h (h.clone tables src dst).2 (made tables h (.clone src dst))
      (ended tables h (.clone src dst)) := by
  obtain ⟨hs, hr⟩ | ⟨o, hs, hc, hr⟩ | ⟨o, hook, contents, hs, hc, hk, hr⟩ |
    ⟨o, hook, fault, contents, hs, hc, hk, hr⟩ := h.clone_cases tables src dst
  · simp only [made, ended, hs, hr]
    exact accounts_refl h
  · simp only [made, ended, hs, hc, hr]
    exact accounts_refl h
  · simp only [made, ended, hs, hc, hk, hr]
    exact h.adopt_accounts dst _
  · simp only [made, ended, hs, hc, hk, hr]
    exact h.discard_accounts _

theorem downcast_accounts (α : Type) [carries : Carries P α] (h : Heap P) (name : String) :
    Accounts h (h.downcast α name).2 (made tables h (.downcast α carries name))
      (ended tables h (.downcast α carries name)) := by
  obtain ⟨hn, hr⟩ | ⟨o, a, hn, hp, hr⟩ | ⟨o, fault, hn, hp, hr⟩ := h.downcast_cases α name
  · simp only [made, ended, hn, hr]
    exact accounts_refl h
  · simp only [made, ended, hn, hp, hr]
    exact accounts_refl h
  · simp only [made, ended, hn, hp, hr]
    simpa [hn] using h.drop_accounts name

theorem perform_accounts (h : Heap P) (call : Call P) :
    Accounts h (h.perform tables call).2 (made tables h call) (ended tables h call) := by
  cases call with
  | alloc name tag => exact h.adopt_accounts name (.alloc tables tag)
  | adopt name o => exact h.adopt_accounts name o
  | update name contents => exact h.update_accounts name contents
  | drop name => exact h.drop_accounts name
  | clone src dst => exact h.clone_accounts src dst
  | downcast α carries name => exact h.downcast_accounts α name

-- ---------------------------------------------------------------------------
-- A run
-- ---------------------------------------------------------------------------

def Balanced (h : Heap P) : Prop :=
  ∀ tag, h.allocated.count tag = h.holdings tag + h.released.countP (·.tag == tag)

theorem empty_balanced : Balanced (empty : Heap P) := fun _ => rfl

theorem Accounts.balanced {made : List TypeTag} {ended : List (Object P)}
    (ha : Accounts h h' made ended) (hb : h.Balanced) : h'.Balanced := by
  intro tag
  have hh := ha.holdings tag
  rw [ha.allocated, ha.released, List.count_append, List.countP_append, hb tag]
  omega

theorem run_balanced (calls : List (Call P)) : (run tables calls).Balanced := by
  suffices ∀ h : Heap P, h.Balanced →
      (calls.foldl (fun h call => (h.perform tables call).2) h).Balanced from
    this empty empty_balanced
  induction calls with
  | nil => exact fun _ hb => hb
  | cons call rest ih => exact fun h hb => ih _ ((h.perform_accounts call).balanced hb)

theorem observed_countP (h : Heap P) {tag : TypeTag} (ht : (tables tag).observesRelease = true) :
    (h.observed tables).countP (·.tag == tag) = h.released.countP (·.tag == tag) := by
  rw [observed, List.countP_filter]
  refine List.countP_congr fun o _ => ?_
  rw [Bool.and_eq_true, and_iff_left_iff_imp, beq_iff_eq]
  rintro rfl
  exact ht

theorem observed_of_released {o : Object P} (hr : h'.released = h.released ++ [o])
    (ht : (tables o.tag).observesRelease = true) :
    h'.observed tables = h.observed tables ++ [o] := by
  have hf : [o].filter (fun o => (tables o.tag).observesRelease) = [o] := by simp [ht]
  rw [observed, hr, List.filter_append, hf, observed]

/-- Every object is released exactly once: at any point of a run, the objects of a type
with a release hook are held or were observed when they were released. Each call adds
to the observed releases the objects whose lives it ends, as they are then. A copy that
fails in its hook releases the destination and touches no variable, and one without a
hook releases nothing. A failed downcast releases the object and frees its variable. -/
theorem released_exactly_once (tables : Catalog P) :
    (∀ (calls : List (Call P)) (tag : TypeTag), (tables tag).observesRelease = true →
      (run tables calls).allocated.count tag =
        (run tables calls).holdings tag +
          ((run tables calls).observed tables).countP (·.tag == tag)) ∧
    (∀ (h : Heap P) (call : Call P),
      (h.perform tables call).2.allocated = h.allocated ++ made tables h call ∧
      (h.perform tables call).2.observed tables = h.observed tables ++
        (ended tables h call).filter fun o => (tables o.tag).observesRelease) ∧
    (∀ (h : Heap P) (src dst : String) (o : Object P), h.find? src = some o →
      (tables o.tag).clone = none →
        h.clone tables src dst = (.error (.missingOperation o.tag.name "clone"), h)) ∧
    (∀ (h : Heap P) (src dst : String) (o : Object P) (hook : CloneHook P) (fault : Fault)
      (contents : Attributed P), h.find? src = some o → (tables o.tag).clone = some hook →
      hook (.alloc tables o.tag) o = (.error fault, contents) →
        let fresh := Object.alloc tables o.tag
        (h.clone tables src dst).1 = .error fault ∧
        (h.clone tables src dst).2.live = h.live ∧
        (h.clone tables src dst).2.allocated = h.allocated ++ [fresh.tag] ∧
        ((tables fresh.tag).observesRelease = true →
          (h.clone tables src dst).2.observed tables =
            h.observed tables ++ [fresh.withContents contents])) ∧
    ∀ (α : Type) [Carries P α] (h : Heap P) (name : String) (o : Object P),
      h.find? name = some o →
        (∀ a : Attributed α, o.payload α = .ok a → h.downcast α name = (.ok (), h)) ∧
        ∀ fault, o.payload α = .error fault →
          (h.downcast α name).1 = .error fault ∧
          (∀ k, (h.downcast α name).2.find? k = if k = name then none else h.find? k) ∧
          (h.downcast α name).2.allocated = h.allocated ∧
          ((tables o.tag).observesRelease = true →
            (h.downcast α name).2.observed tables = h.observed tables ++ [o]) := by
  refine ⟨?_, ?_, ?_, ?_, ?_⟩
  · intro calls tag ht
    rw [observed_countP _ ht]
    exact run_balanced calls tag
  · intro h call
    have ha : Accounts h (h.perform tables call).2 (made tables h call) (ended tables h call) :=
      h.perform_accounts call
    refine ⟨ha.allocated, ?_⟩
    rw [observed, ha.released, List.filter_append]
    rfl
  · intro h src dst o hs hc
    exact clone_of_no_hook hs hc
  · intro h src dst o hook fault contents hs hc hk
    have ha := h.discard_accounts ((Object.alloc tables o.tag).withContents contents)
    rw [clone_of_fault hs hc hk]
    exact ⟨rfl, rfl, ha.allocated, observed_of_released ha.released⟩
  · intro α _ h name o hn
    refine ⟨fun a hp => by simp only [downcast, hn, hp], fun fault hp => ?_⟩
    have ha := h.drop_accounts name
    rw [hn] at ha
    rw [downcast_of_fault hn hp]
    exact ⟨rfl, h.find?_drop name, ha.allocated.trans (List.append_nil _),
      observed_of_released ha.released⟩

end GenericNetlink.Heap
