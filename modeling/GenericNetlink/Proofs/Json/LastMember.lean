import GenericNetlink.Json.Builder
import Mathlib.Data.List.Nodup

/-!
# Built objects

Whatever calls build an object, it has a member for each key that some call carried a
value for, and the value is the one carried last. Members stand in the order of their
keys, so that an object is known by what is looked up in it (`KeysOrdered.eq_of_lookup`),
and calls for different keys can change places.
-/

namespace GenericNetlink.Json

theorem KeysOrdered.eq_of_lookup {members others : List (String × Json)}
    (hm : KeysOrdered members) (ho : KeysOrdered others)
    (h : ∀ key, members.lookup key = others.lookup key) : members = others := by
  have hmem : ∀ m, m ∈ members ↔ m ∈ others := by
    rintro ⟨key, value⟩
    rw [← AssocList.lookup_eq_some_iff_mem hm.nodup_keys, h key,
      AssocList.lookup_eq_some_iff_mem ho.nodup_keys]
  have hperm : members.Perm others :=
    (List.perm_ext_iff_of_nodup (.of_map _ hm.nodup_keys) (.of_map _ ho.nodup_keys)).mpr hmem
  refine hperm.eq_of_pairwise ?_ hm ho
  intro m n _ _ hmn hnm
  exact absurd (String.lt_trans hmn hnm) (String.lt_irrefl _)

namespace Builder

theorem keysOrdered_run {b : Builder} (h : KeysOrdered b.members) (calls : List Call) :
    KeysOrdered (b.run calls).members := by
  rw [run_eq_addAll]
  exact keysOrdered_addAll h _

theorem lookup_run (calls : List Call) (key : String) :
    (empty.run calls).members.lookup key =
      lastValue? key (calls.map fun call => (call.key, call.value?)) := by
  rw [run_eq_addAll, lookup_addAll]
  exact Option.or_none

theorem mem_run_iff {calls : List Call} {key : String} {value : Json} :
    (key, value) ∈ (empty.run calls).members ↔
      ∃ before call after, calls = before ++ call :: after ∧ call.key = key ∧
        call.value? = some value ∧ ∀ later ∈ after, later.key = key → later.value? = none := by
  have hordered : KeysOrdered (empty.run calls).members := keysOrdered_run List.Pairwise.nil calls
  rw [← AssocList.lookup_eq_some_iff_mem hordered.nodup_keys, lookup_run, lastValue?_eq_some_iff]
  constructor
  · rintro ⟨before, after, h, hn⟩
    obtain ⟨first, rest, rfl, rfl, hrest⟩ := List.map_eq_append_iff.mp h
    obtain ⟨call, last, rfl, hcall, rfl⟩ := List.map_eq_cons_iff.mp hrest
    obtain ⟨hkey, hvalue⟩ := Prod.mk.inj hcall
    exact ⟨first, call, last, rfl, hkey, hvalue, fun later hl => hn _ (List.mem_map_of_mem hl)⟩
  · rintro ⟨before, call, after, rfl, rfl, hvalue, hn⟩
    refine ⟨_, _, by rw [List.map_append, List.map_cons, hvalue], fun member hm => ?_⟩
    obtain ⟨later, hl, rfl⟩ := List.mem_map.mp hm
    exact hn later hl

theorem mem_keys_run_iff {calls : List Call} {key : String} :
    key ∈ (empty.run calls).members.map Prod.fst ↔
      ∃ call ∈ calls, call.key = key ∧ call.value?.isSome := by
  rw [← AssocList.isSome_lookup_iff, lookup_run, lastValue?, List.findSome?_isSome_iff]
  simp only [List.mem_reverse, List.mem_map]
  constructor
  · rintro ⟨_, ⟨call, hc, rfl⟩, h⟩
    split at h
    · rename_i hk
      exact ⟨call, hc, hk, h⟩
    · cases h
  · rintro ⟨call, hc, hk, h⟩
    exact ⟨_, ⟨call, hc, rfl⟩, by rwa [if_pos hk]⟩

theorem perform_comm {b : Builder} (hb : KeysOrdered b.members) {first second : Call}
    (h : first.key ≠ second.key) :
    (b.perform first).perform second = (b.perform second).perform first := by
  rw [perform_eq_add?, perform_eq_add?, perform_eq_add?, perform_eq_add?]
  have hlookup : ∀ key,
      ((b.add? first.key first.value?).add? second.key second.value?).members.lookup key =
        ((b.add? second.key second.value?).add? first.key first.value?).members.lookup key := by
    intro key
    rw [lookup_add?, lookup_add?, lookup_add?, lookup_add?]
    by_cases hf : key = first.key
    · have hs : key ≠ second.key := fun hs => h (hf.symm.trans hs)
      rw [if_neg hs, if_neg hs]
    · rw [if_neg hf, if_neg hf]
  exact congrArg Builder.mk (KeysOrdered.eq_of_lookup
    (keysOrdered_add? (keysOrdered_add? hb _ _) _ _)
    (keysOrdered_add? (keysOrdered_add? hb _ _) _ _) hlookup)

theorem run_swap {before after : List Call} {first second : Call} (h : first.key ≠ second.key) :
    empty.run (before ++ first :: second :: after) =
      empty.run (before ++ second :: first :: after) := by
  have hb : KeysOrdered (empty.run before).members := keysOrdered_run List.Pairwise.nil before
  have hcomm := congrArg (fun b => run b after) (perform_comm hb h)
  simpa only [run, List.foldl_append, List.foldl_cons] using hcomm

/-- Any calls build one object. Its keys are those that a call carries a value for, each
once, and the value of a key is the one carried last. An optional call without a value
changes nothing, and neither does it to let two calls in succession for different keys
change places. -/
theorem last_call_decides (calls : List Call) :
    (∃ members, (empty.run calls).build = .obj members ∧ KeysOrdered members ∧
      (∀ key, key ∈ members.map Prod.fst ↔
        ∃ call ∈ calls, call.key = key ∧ call.value?.isSome) ∧
      ∀ key value, (key, value) ∈ members ↔
        ∃ before call after, calls = before ++ call :: after ∧ call.key = key ∧
          call.value? = some value ∧ ∀ later ∈ after, later.key = key → later.value? = none) ∧
    (∀ (b : Builder) (key : String),
      b.perform (.string? key none) = b ∧ b.perform (.uint? key none) = b) ∧
    ∀ before first second after, calls = before ++ first :: second :: after →
      first.key ≠ second.key →
      (empty.run calls).build = (empty.run (before ++ second :: first :: after)).build := by
  refine ⟨⟨(empty.run calls).members, rfl, keysOrdered_run List.Pairwise.nil calls,
    fun key => mem_keys_run_iff, fun key value => mem_run_iff⟩, fun b key => ⟨rfl, rfl⟩, ?_⟩
  rintro before first second after rfl h
  rw [run_swap h]

/-- A value takes the place of one of another kind; the call without a value does not. -/
example :
    let calls : List Call :=
      [.string "id" "a", .uint "b" 2, .uint? "id" (some 7), .string? "id" none]
    (empty.run calls).build = .obj [("b", .int 2), ("id", .int 7)] := rfl

end Builder

end GenericNetlink.Json
