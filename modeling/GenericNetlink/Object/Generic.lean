import GenericNetlink.Object.Table

/-!
# Operations on any object

Allocation, deep copy, comparison, identity and dumping, each by way of the
table of the object's type.
-/

namespace GenericNetlink

namespace Object

variable {P : Type} (tables : Catalog P)

def missing (tag : TypeTag) (operation : String) : Fault := .missingOperation tag.name operation

def alloc (tag : TypeTag) : Object P := (tables tag).alloc (tables tag).construct tag

/-- Allocate a destination and hand it to the clone hook. The destination exists
also if the hook gives up; without a hook there is none. -/
def attemptClone (src : Object P) : Except Fault (Except Fault Unit × Object P) :=
  match (tables src.tag).clone with
  | none => .error (missing src.tag "clone")
  | some hook =>
    let dst := alloc tables src.tag
    let (outcome, contents) := hook dst src
    .ok (outcome, dst.withContents contents)

def clone (src : Object P) : Except Fault (Object P) := do
  let (outcome, dst) ← attemptClone tables src
  outcome
  return dst

theorem clone_of_hook {tables : Catalog P} {src : Object P} {hook : CloneHook P}
    (h : (tables src.tag).clone = some hook) :
    clone tables src = (hook (alloc tables src.tag) src).1.map fun _ =>
      (alloc tables src.tag).withContents (hook (alloc tables src.tag) src).2 := by
  simp only [clone, attemptClone, h]
  cases (hook (alloc tables src.tag) src).1 <;> rfl

theorem clone_of_no_hook {tables : Catalog P} {src : Object P}
    (h : (tables src.tag).clone = none) : clone tables src = .error (missing src.tag "clone") := by
  simp only [clone, attemptClone, h]
  rfl

def compare (a b : Object P) (attrs : Mask) (flags : CompareFlags) : Except Fault Mask :=
  if a.sameType b then
    match (tables a.tag).compare with
    | none => .error (missing a.tag "compare")
    | some hook => (hook a b attrs flags).map (· &&& attrs)
  else .error (.typeMismatch a.tag.name b.tag.name)

theorem sameType_iff {a b : Object P} : a.sameType b = true ↔ a.tag = b.tag := beq_iff_eq

theorem compare_of_hook {tables : Catalog P} {a b : Object P} {hook : CompareHook P}
    (hs : a.tag = b.tag) (hc : (tables a.tag).compare = some hook) (attrs : Mask)
    (flags : CompareFlags) :
    compare tables a b attrs flags = (hook a b attrs flags).map (· &&& attrs) := by
  rw [compare, if_pos (sameType_iff.mpr hs), hc]

theorem compare_ok_cases {tables : Catalog P} {a b : Object P} {attrs diff : Mask}
    {flags : CompareFlags} (h : compare tables a b attrs flags = .ok diff) :
    a.tag = b.tag ∧ ∃ hook reported, (tables a.tag).compare = some hook ∧
      hook a b attrs flags = .ok reported ∧ reported &&& attrs = diff := by
  simp only [compare] at h
  split at h
  · rename_i hs
    cases hc : (tables a.tag).compare with
    | none => simp [hc] at h
    | some hook =>
      cases hr : hook a b attrs flags with
      | error fault => simp [hc, hr, Except.map] at h
      | ok reported =>
        simp only [hc, hr, Except.map, Except.ok.injEq] at h
        exact ⟨sameType_iff.mp hs, hook, reported, rfl, hr, h⟩
  · cases h

/-- Objects of the same types compare alike if the hook, where it is called, finds
no difference between them. -/
theorem compare_congr {a a' b b' : Object P} {attrs : Mask} {flags : CompareFlags}
    (ha : a.tag = a'.tag) (hb : b.tag = b'.tag)
    (h : a.tag = b.tag → ∀ hook, (tables a.tag).compare = some hook →
      hook a b attrs flags = hook a' b' attrs flags) :
    compare tables a b attrs flags = compare tables a' b' attrs flags := by
  have hs : a'.sameType b' = a.sameType b := by rw [sameType, sameType, ha, hb]
  simp only [compare, hs, ← ha, ← hb]
  split
  · rename_i hab
    cases hc : (tables a.tag).compare with
    | none => rfl
    | some hook =>
      have hook_eq := h (sameType_iff.mp hab) hook hc
      simp only [hook_eq]
  · rfl

def identical (a b : Object P) : Bool :=
  let ids := (tables a.tag).idAttrs
  a.sameType b && a.mask &&& ids == b.mask &&& ids &&
    match compare tables a b ids .presence with
    | .ok diff => diff == 0
    | .error _ => false

section
variable {tables : Catalog P} {a b : Object P}

theorem identical_iff_compare :
    identical tables a b = true ↔
      a.tag = b.tag ∧
      a.mask &&& (tables a.tag).idAttrs = b.mask &&& (tables a.tag).idAttrs ∧
      compare tables a b (tables a.tag).idAttrs .presence = .ok 0 := by
  simp only [identical, Bool.and_eq_true, beq_iff_eq, sameType_iff, and_assoc]
  refine and_congr_right fun _ => and_congr_right fun _ => ?_
  cases compare tables a b (tables a.tag).idAttrs .presence <;> simp

theorem not_identical_of_compare
    (h : compare tables a b (tables a.tag).idAttrs .presence ≠ .ok 0) :
    identical tables a b = false := by
  rw [Bool.eq_false_iff, ne_eq, identical_iff_compare]
  exact fun hi => h hi.2.2

theorem not_identical_of_refused {fault : Fault}
    (h : compare tables a b (tables a.tag).idAttrs .presence = .error fault) :
    identical tables a b = false :=
  not_identical_of_compare fun hc => by cases h.symm.trans hc

end

def dump (o : Object P) (d : Dumper) : Except Fault Unit × Dumper :=
  match (tables o.tag).dumpHook d.verbosity with
  | none => (.error (missing o.tag d.verbosity.operation), d)
  | some hook => hook o d

def dumpAll : List (Object P) → Dumper → Except Fault Unit × Dumper
  | [], d => (.ok (), d)
  | o :: rest, d =>
    match dump tables o d with
    | (.ok (), d') => dumpAll rest d'
    | (.error fault, d') => (.error fault, d')

def dumpText (o : Object P) (verbosity : Verbosity) : Except Fault String :=
  match dump tables o (.new verbosity) with
  | (.ok (), d) => .ok d.text
  | (.error fault, _) => .error fault

def showAttrs (o : Object P) : String := (tables o.tag).showAttrs o.mask

end Object

end GenericNetlink
