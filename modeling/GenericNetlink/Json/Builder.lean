import GenericNetlink.Json.Value

/-!
# Building objects

An object is built member by member. A later member takes the place of an
earlier one with its key; an optional member without a value changes nothing.
-/

namespace GenericNetlink.Json

structure Builder where
  members : List (String × Json)

namespace Builder

def empty : Builder := ⟨[]⟩

def add (b : Builder) (key : String) (value : Json) : Builder := ⟨insertMember key value b.members⟩

def string (b : Builder) (key value : String) : Builder := b.add key (.str value)

def string? (b : Builder) (key : String) : Option String → Builder
  | some value => b.string key value
  | none => b

def uint (b : Builder) (key : String) (value : UInt64) : Builder := b.add key (.int value.toNat)

def uint? (b : Builder) (key : String) : Option UInt64 → Builder
  | some value => b.uint key value
  | none => b

def array (b : Builder) (key : String) (items : List Json) : Builder := b.add key (.arr items)

def build (b : Builder) : Json := .obj b.members

def add? (b : Builder) (key : String) : Option Json → Builder
  | some value => b.add key value
  | none => b

def addAll (b : Builder) (members : List (String × Option Json)) : Builder :=
  members.foldl (fun b member => b.add? member.1 member.2) b

theorem string?_eq_add? (b : Builder) (key : String) (value : Option String) :
    b.string? key value = b.add? key (value.map .str) := by
  cases value <;> rfl

theorem uint?_eq_add? (b : Builder) (key : String) (value : Option UInt64) :
    b.uint? key value = b.add? key (value.map fun n => .int n.toNat) := by
  cases value <;> rfl

theorem lookup_add? (b : Builder) (key k : String) (value : Option Json) :
    (b.add? key value).members.lookup k =
      if k = key then value.or (b.members.lookup k) else b.members.lookup k := by
  cases value with
  | none => simp [add?]
  | some value => exact lookup_insertMember key k value b.members

theorem keysOrdered_add? {b : Builder} (h : KeysOrdered b.members) (key : String)
    (value : Option Json) : KeysOrdered (b.add? key value).members := by
  cases value with
  | none => exact h
  | some value => exact h.insertMember

theorem keysOrdered_addAll {b : Builder} (h : KeysOrdered b.members)
    (members : List (String × Option Json)) : KeysOrdered (b.addAll members).members := by
  induction members generalizing b with
  | nil => exact h
  | cons member rest ih => exact ih (keysOrdered_add? h member.1 member.2)

def lastValue? (key : String) (members : List (String × Option Json)) : Option Json :=
  members.reverse.findSome? fun member => if member.1 = key then member.2 else none

theorem lookup_addAll (b : Builder) (members : List (String × Option Json)) (key : String) :
    (b.addAll members).members.lookup key =
      (lastValue? key members).or (b.members.lookup key) := by
  induction members generalizing b with
  | nil => rfl
  | cons member rest ih =>
    refine (ih (b.add? member.1 member.2)).trans ?_
    rw [lookup_add?, lastValue?, lastValue?, List.reverse_cons, List.findSome?_append,
      List.findSome?_singleton, Option.or_assoc]
    by_cases hk : key = member.1
    · rw [if_pos hk, if_pos hk.symm]
    · rw [if_neg hk, if_neg (Ne.symm hk), Option.none_or]

theorem lastValue?_eq_some_iff {key : String} {value : Json}
    {members : List (String × Option Json)} :
    lastValue? key members = some value ↔
      ∃ before after, members = before ++ (key, some value) :: after ∧
        ∀ later ∈ after, later.1 = key → later.2 = none := by
  rw [lastValue?, List.findSome?_eq_some_iff]
  constructor
  · rintro ⟨after, ⟨k, v⟩, before, h, hv, hn⟩
    split at hv
    · rename_i hk
      subst hk hv
      refine ⟨before.reverse, after.reverse, ?_, fun later hl hk => ?_⟩
      · rw [← List.reverse_inj, h]
        simp
      · have := hn later (List.mem_reverse.mp hl)
        rwa [if_pos hk] at this
    · cases hv
  · rintro ⟨before, after, rfl, hn⟩
    refine ⟨after.reverse, (key, some value), before.reverse, by simp, if_pos rfl, ?_⟩
    intro later hl
    split
    · rename_i hk
      exact hn later (List.mem_reverse.mp hl) hk
    · rfl

theorem lastValue?_eq_some_iff_mem {key : String} {value : Json}
    {members : List (String × Option Json)} (h : (members.map Prod.fst).Nodup) :
    lastValue? key members = some value ↔ (key, some value) ∈ members := by
  rw [lastValue?_eq_some_iff]
  constructor
  · rintro ⟨before, after, rfl, -⟩
    simp
  · intro hm
    obtain ⟨before, after, rfl⟩ := List.append_of_mem hm
    refine ⟨before, after, rfl, fun later hl hk => ?_⟩
    rw [List.map_append, List.map_cons] at h
    have hnot := (List.nodup_cons.mp (List.nodup_append.mp h).2.1).1
    exact absurd (List.mem_map.mpr ⟨later, hl, hk⟩) hnot

/-- What is built from members with different keys is those of them that have a value. -/
theorem mem_addAll {members : List (String × Option Json)} (h : (members.map Prod.fst).Nodup)
    (key : String) (value : Json) :
    (key, value) ∈ (empty.addAll members).members ↔ (key, some value) ∈ members := by
  have hordered : KeysOrdered (empty.addAll members).members :=
    keysOrdered_addAll List.Pairwise.nil members
  rw [← AssocList.lookup_eq_some_iff_mem hordered.nodup_keys, lookup_addAll,
    ← lastValue?_eq_some_iff_mem h]
  simp [empty]

inductive Call
  | string (key value : String)
  | string? (key : String) (value : Option String)
  | uint (key : String) (value : UInt64)
  | uint? (key : String) (value : Option UInt64)
  | array (key : String) (items : List Json)

namespace Call

def key : Call → String
  | string key _ | string? key _ | uint key _ | uint? key _ | array key _ => key

def value? : Call → Option Json
  | string _ value => some (.str value)
  | string? _ value => value.map .str
  | uint _ value => some (.int value.toNat)
  | uint? _ value => value.map fun n => .int n.toNat
  | array _ items => some (.arr items)

end Call

def perform (b : Builder) : Call → Builder
  | .string key value => b.string key value
  | .string? key value => b.string? key value
  | .uint key value => b.uint key value
  | .uint? key value => b.uint? key value
  | .array key items => b.array key items

def run (b : Builder) (calls : List Call) : Builder := calls.foldl perform b

theorem perform_eq_add? (b : Builder) (call : Call) :
    b.perform call = b.add? call.key call.value? := by
  cases call with
  | string? key value => exact b.string?_eq_add? key value
  | uint? key value => exact b.uint?_eq_add? key value
  | _ => rfl

theorem run_eq_addAll (b : Builder) (calls : List Call) :
    b.run calls = b.addAll (calls.map fun call => (call.key, call.value?)) := by
  have h : perform = fun b call => b.add? call.key call.value? :=
    funext fun b => funext fun call => perform_eq_add? b call
  rw [run, addAll, List.foldl_map, h]

end Builder

end GenericNetlink.Json
