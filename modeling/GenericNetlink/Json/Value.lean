import GenericNetlink.AssocList
import GenericNetlink.Text.Numeral

/-!
# JSON values

Values as they are written: an object is a list of members in the order of their
keys, each key once. Keys are compared by code points, which is the order of
their UTF-8 bytes. A number that is no integer is given by its digits: which ones
stand for a binary fraction is not decided here.
-/

namespace GenericNetlink

inductive Json
  | null
  | bool (b : Bool)
  | int (n : Int)
  | real (n : Text.Numeral)
  | str (s : String)
  | arr (items : List Json)
  | obj (members : List (String × Json))

namespace Json

/-- Put a member into its place; it takes the place of one with the same key. -/
def insertMember (key : String) (value : Json) : List (String × Json) → List (String × Json)
  | [] => [(key, value)]
  | (k, v) :: rest =>
    if key = k then (key, value) :: rest
    else if key < k then (key, value) :: (k, v) :: rest
    else (k, v) :: insertMember key value rest

/-- An object from members in any order; of members with one key the last stays. -/
def ofMembers (members : List (String × Json)) : Json :=
  .obj (members.foldl (fun done (key, value) => insertMember key value done) [])

def get? (key : String) : Json → Option Json
  | .obj members => members.lookup key
  | _ => none

def KeysOrdered (members : List (String × Json)) : Prop :=
  members.Pairwise fun m n => m.1 < n.1

theorem lookup_insertMember (key k : String) (value : Json) (members : List (String × Json)) :
    (insertMember key value members).lookup k =
      if k = key then some value else members.lookup k := by
  induction members with
  | nil => exact AssocList.lookup_cons key k value []
  | cons m rest ih =>
    obtain ⟨first, stored⟩ := m
    simp only [insertMember]
    split
    · rename_i he
      subst he
      rw [AssocList.lookup_cons, AssocList.lookup_cons]
      split <;> rfl
    · rename_i hne
      split
      · exact AssocList.lookup_cons key k value _
      · rw [AssocList.lookup_cons, AssocList.lookup_cons, ih]
        by_cases hk : k = first
        · rw [if_pos hk, if_pos hk, if_neg fun he => hne (he.symm.trans hk)]
        · rw [if_neg hk, if_neg hk]

section
variable {key : String} {value : Json} {members : List (String × Json)}

theorem eq_or_mem_of_mem_insertMember {m : String × Json}
    (h : m ∈ insertMember key value members) : m = (key, value) ∨ m ∈ members := by
  induction members with
  | nil => exact .inl (List.mem_singleton.mp h)
  | cons n rest ih =>
    simp only [insertMember] at h
    split at h
    · obtain rfl | h := List.mem_cons.mp h
      · exact .inl rfl
      · exact .inr (List.mem_cons_of_mem _ h)
    · split at h
      · exact List.mem_cons.mp h
      · obtain rfl | h := List.mem_cons.mp h
        · exact .inr List.mem_cons_self
        · exact (ih h).imp_right (List.mem_cons_of_mem _)

theorem KeysOrdered.insertMember (h : KeysOrdered members) :
    KeysOrdered (insertMember key value members) := by
  induction members with
  | nil => exact List.pairwise_singleton _ _
  | cons n rest ih =>
    obtain ⟨hn, hrest⟩ := List.pairwise_cons.mp h
    simp only [Json.insertMember]
    split
    · rename_i he
      subst he
      exact List.pairwise_cons.mpr ⟨hn, hrest⟩
    · rename_i hne
      split
      · rename_i hlt
        refine List.pairwise_cons.mpr ⟨fun m hm => ?_, h⟩
        obtain rfl | hm := List.mem_cons.mp hm
        · exact hlt
        · exact String.lt_trans hlt (hn m hm)
      · rename_i hnlt
        refine List.pairwise_cons.mpr ⟨fun m hm => ?_, ih hrest⟩
        obtain rfl | hm := eq_or_mem_of_mem_insertMember hm
        · -- Of two different keys the one that is not before the other is behind it.
          refine Decidable.byContradiction fun hgt => hne ?_
          exact String.le_antisymm (String.not_lt.mp hgt) (String.not_lt.mp hnlt)
        · exact hn m hm

theorem KeysOrdered.nodup_keys (h : KeysOrdered members) : (members.map Prod.fst).Nodup :=
  (List.pairwise_map.mpr h).imp String.ne_of_lt

end

end Json

end GenericNetlink
