/-!
# Lists of keys and values

Looking keys up in a list of pairs. Where no key comes twice, what is looked up and
what is in the list are the same.
-/

namespace GenericNetlink.AssocList

variable {κ α : Type} [DecidableEq κ]

theorem lookup_cons (key k : κ) (value : α) (rest : List (κ × α)) :
    ((key, value) :: rest).lookup k = if k = key then some value else rest.lookup k := by
  rw [List.lookup_cons]
  by_cases h : k = key
  · simp [h]
  · rw [beq_false_of_ne h, if_neg h]

theorem lookup_filter_ne (entries : List (κ × α)) (key k : κ) :
    (entries.filter (·.1 ≠ key)).lookup k = if k = key then none else entries.lookup k := by
  induction entries with
  | nil => simp
  | cons entry rest ih =>
    obtain ⟨first, value⟩ := entry
    by_cases hf : first = key
    · rw [List.filter_cons_of_neg (by simp [hf]), ih, lookup_cons, hf]
      split <;> rfl
    · rw [List.filter_cons_of_pos (by simp [hf]), lookup_cons, lookup_cons, ih]
      by_cases hk : k = first
      · rw [if_pos hk, if_pos hk, if_neg (hk ▸ hf)]
      · rw [if_neg hk, if_neg hk]

theorem lookup_eq_none_of_not_mem_keys {entries : List (κ × α)} {key : κ}
    (h : key ∉ entries.map Prod.fst) : entries.lookup key = none := by
  refine List.lookup_eq_none_iff.mpr fun entry he => bne_iff_ne.mpr ?_
  rintro rfl
  exact h (List.mem_map_of_mem he)

theorem isSome_lookup_iff {entries : List (κ × α)} {key : κ} :
    (entries.lookup key).isSome = true ↔ key ∈ entries.map Prod.fst := by
  induction entries with
  | nil => simp
  | cons entry rest ih =>
    obtain ⟨first, value⟩ := entry
    rw [lookup_cons]
    by_cases hk : key = first
    · simp [hk]
    · rw [if_neg hk, ih]
      simp [hk]

theorem lookup_eq_some_iff_mem {entries : List (κ × α)} (h : (entries.map Prod.fst).Nodup)
    {key : κ} {value : α} : entries.lookup key = some value ↔ (key, value) ∈ entries := by
  induction entries with
  | nil => simp
  | cons entry rest ih =>
    obtain ⟨first, stored⟩ := entry
    obtain ⟨hfirst, hrest⟩ := List.nodup_cons.mp h
    rw [lookup_cons, List.mem_cons, Prod.mk.injEq]
    by_cases hk : key = first
    · subst hk
      have hnot : (key, value) ∉ rest := fun hm => hfirst (List.mem_map.mpr ⟨_, hm, rfl⟩)
      simp [hnot, eq_comm]
    · simp [hk, ih hrest]

theorem countP_filter_ne {entries : List (κ × α)} (hn : (entries.map Prod.fst).Nodup) (key : κ)
    (test : α → Bool) :
    (entries.filter (·.1 ≠ key)).countP (fun entry => test entry.2) +
      (entries.lookup key).toList.countP test =
      entries.countP fun entry => test entry.2 := by
  induction entries with
  | nil => simp
  | cons entry rest ih =>
    obtain ⟨first, value⟩ := entry
    obtain ⟨hfirst, hrest⟩ := List.nodup_cons.mp hn
    have ih := ih hrest
    rw [List.countP_cons, lookup_cons]
    by_cases hf : first = key
    · subst hf
      -- The key does not come again, so that nothing else is left out.
      rw [lookup_eq_none_of_not_mem_keys hfirst] at ih
      rw [List.filter_cons_of_neg (by simp), if_pos rfl, ← ih]
      simp
    · rw [List.filter_cons_of_pos (by simp [hf]), List.countP_cons, if_neg (Ne.symm hf), ← ih]
      omega

end GenericNetlink.AssocList
