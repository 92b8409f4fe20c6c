import GenericNetlink.AssocList

/-!
# Registries

Values registered under keys, each key at most once. `get?` is the view that the
operations are described by, and `size` counts the keys.
-/

namespace GenericNetlink

/-- Registered keys with their values, the latest first. -/
structure Registry (κ α : Type) where
  entries : List (κ × α)
  nodup : (entries.map Prod.fst).Nodup
  deriving DecidableEq

namespace Registry

open AssocList

variable {κ α : Type}

@[ext] theorem ext {r r' : Registry κ α} (h : r.entries = r'.entries) : r = r' := by
  cases r
  cases r'
  cases h
  rfl

def empty : Registry κ α := ⟨[], by simp⟩

def size (r : Registry κ α) : Nat := r.entries.length

def countValues (r : Registry κ α) (test : α → Bool) : Nat :=
  r.entries.countP fun entry => test entry.2

theorem countValues_true (r : Registry κ α) : r.countValues (fun _ => true) = r.size :=
  congrFun List.countP_true r.entries

variable [DecidableEq κ]

def get? (r : Registry κ α) (key : κ) : Option α := r.entries.lookup key

def contains (r : Registry κ α) (key : κ) : Bool := (r.get? key).isSome

def erase (r : Registry κ α) (key : κ) : Registry κ α where
  entries := r.entries.filter (·.1 ≠ key)
  nodup := r.nodup.sublist (List.filter_sublist.map Prod.fst)

def insert (r : Registry κ α) (key : κ) (value : α) : Registry κ α where
  entries := (key, value) :: (r.erase key).entries
  nodup := by
    rw [List.map_cons, List.nodup_cons]
    refine ⟨?_, (r.erase key).nodup⟩
    simp [erase]

-- ---------------------------------------------------------------------------
-- The operations through `get?`
-- ---------------------------------------------------------------------------

theorem get?_erase (r : Registry κ α) (key k : κ) :
    (r.erase key).get? k = if k = key then none else r.get? k :=
  lookup_filter_ne r.entries key k

theorem get?_insert (r : Registry κ α) (key k : κ) (value : α) :
    (r.insert key value).get? k = if k = key then some value else r.get? k := by
  refine (lookup_cons key k value _).trans ?_
  by_cases hk : k = key
  · rw [if_pos hk, if_pos hk]
  · rw [if_neg hk, if_neg hk]
    exact (r.get?_erase key k).trans (if_neg hk)

theorem contains_insert (r : Registry κ α) (key k : κ) (value : α) :
    (r.insert key value).contains k = true ↔ k = key ∨ r.contains k = true := by
  rw [contains, get?_insert, contains]
  by_cases hk : k = key
  · simp [hk]
  · simp [hk]

theorem contains_erase (r : Registry κ α) (key k : κ) :
    (r.erase key).contains k = true ↔ k ≠ key ∧ r.contains k = true := by
  rw [contains, get?_erase, contains]
  by_cases hk : k = key
  · simp [hk]
  · simp [hk]

theorem contains_iff_mem (r : Registry κ α) (key : κ) :
    r.contains key = true ↔ key ∈ r.entries.map Prod.fst :=
  isSome_lookup_iff

theorem erase_insert_self (r : Registry κ α) (key : κ) (value : α) :
    (r.insert key value).erase key = r.erase key := by
  refine ext ?_
  show ((key, value) :: r.entries.filter (·.1 ≠ key)).filter (·.1 ≠ key) =
    r.entries.filter (·.1 ≠ key)
  rw [List.filter_cons_of_neg (by simp), List.filter_filter]
  simp only [Bool.and_self]

theorem erase_of_not_contains {r : Registry κ α} {key : κ} (h : ¬r.contains key = true) :
    r.erase key = r := by
  refine ext (List.filter_eq_self.mpr fun entry he => decide_eq_true ?_)
  rintro rfl
  exact h ((r.contains_iff_mem entry.1).mpr (List.mem_map_of_mem he))

theorem countValues_erase (r : Registry κ α) (key : κ) (test : α → Bool) :
    (r.erase key).countValues test + (r.get? key).toList.countP test = r.countValues test :=
  countP_filter_ne r.nodup key test

theorem countValues_insert (r : Registry κ α) (key : κ) (value : α) (test : α → Bool) :
    (r.insert key value).countValues test + (r.get? key).toList.countP test =
      r.countValues test + [value].countP test := by
  have he := r.countValues_erase key test
  have hi : (r.insert key value).countValues test =
      (r.erase key).countValues test + [value].countP test := by
    rw [List.countP_singleton]
    exact List.countP_cons
  omega

theorem countP_get?_true (r : Registry κ α) (key : κ) :
    (r.get? key).toList.countP (fun _ => true) = if r.contains key then 1 else 0 := by
  rw [List.countP_true, Option.length_toList, contains]

theorem size_insert (r : Registry κ α) (key : κ) (value : α) :
    (r.insert key value).size = r.size + (if r.contains key then 0 else 1) := by
  have h := r.countValues_insert key value fun _ => true
  rw [countValues_true, countValues_true, countP_get?_true] at h
  cases hc : r.contains key <;> rw [hc] at h <;> simpa using h

end Registry

end GenericNetlink
