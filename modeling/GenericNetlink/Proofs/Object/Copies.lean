import GenericNetlink.Proofs.Family.Comparison
import GenericNetlink.Sample.Payload

/-!
# Copies

A table copies payloads of a kind if it makes objects with such payloads and its clone
hook copies them. The copy is then of the same type and has the same contents, whatever
the constructor had set on the way. That no operation tells the two apart is up to the
hooks: those of families look at contents only. That the two compare equal is up to the
payload as well, as the hook of families accepts families only.
-/

namespace GenericNetlink.Object

open Family (Record)

section
variable {P α : Type} [Carries P α] {tables : Catalog P} {src : Object P}

/-- Objects of a type are made with payloads of kind `α`, which their constructor keeps,
and such payloads are copied. -/
structure Copies (α : Type) [Carries P α] (tables : Catalog P) (tag : TypeTag) : Prop where
  alloc : ∃ blank : α, (tables tag).alloc = .fresh (Carries.wrap blank)
  construct : ∀ f, (tables tag).construct = some f → ∀ a : Attributed α,
    ∃ b : Attributed α, f (contentsOf a) = contentsOf b
  hook : (tables tag).clone = some (Hook.copying α)

theorem Copies.alloc_cases {tag : TypeTag} (h : Copies α tables tag) :
    (Object.alloc tables tag).tag = tag ∧
    ∃ a : Attributed α, (Object.alloc tables tag).payload α = .ok a := by
  obtain ⟨blank, hb⟩ := h.alloc
  have ha : Object.alloc tables tag =
      .fresh (Carries.wrap blank) (tables tag).construct tag := by rw [Object.alloc, hb]
  refine ⟨by rw [ha, fresh], ?_⟩
  -- What the constructor makes of the blank payload is contents of kind `α` again.
  have hc : ∃ a : Attributed α, (Object.alloc tables tag).toAttributed = contentsOf a := by
    rw [ha, fresh]
    cases hf : (tables tag).construct with
    | none => exact ⟨⟨0, blank⟩, rfl⟩
    | some f => exact h.construct f hf ⟨0, blank⟩
  obtain ⟨a, hc⟩ := hc
  refine ⟨a, ?_⟩
  rw [← (Object.alloc tables tag).payload_withContents a, ← hc]
  rfl

theorem clone_copying_cases (h : (tables src.tag).clone = some (Hook.copying α)) :
    ((∀ a : Attributed α, src.payload α ≠ .ok a) ∧
      clone tables src = .error (.payloadMismatch (Carries.kind P α) src.tag.name)) ∨
    (∃ a : Attributed α, src.payload α = .ok a ∧
      (∀ b : Attributed α, (alloc tables src.tag).payload α ≠ .ok b) ∧
      clone tables src =
        .error (.payloadMismatch (Carries.kind P α) (alloc tables src.tag).tag.name)) ∨
    (∃ a b : Attributed α, src.payload α = .ok a ∧ (alloc tables src.tag).payload α = .ok b ∧
      clone tables src = .ok ((alloc tables src.tag).withContents src.toAttributed)) := by
  rw [clone_of_hook h]
  obtain ⟨a, ha, hc⟩ | hs := src.payload_cases α
  · refine .inr ?_
    obtain ⟨b, hb, -⟩ | hb := (alloc tables src.tag).payload_cases α
    · refine .inr ⟨a, b, ha, hb, ?_⟩
      simp only [Hook.copying, ha, hb, hc]
      rfl
    · refine .inl ⟨a, ha, fun _ => by simp [hb], ?_⟩
      simp only [Hook.copying, ha, hb]
      rfl
  · refine .inl ⟨fun _ => by simp [hs], ?_⟩
    simp only [Hook.copying, hs]
    rfl

theorem clone_eq_self {a : Attributed α} (ht : Copies α tables src.tag)
    (hs : src.payload α = .ok a) : clone tables src = .ok src := by
  obtain ⟨htag, b, hb⟩ := ht.alloc_cases
  obtain ⟨hn, -⟩ | ⟨_, -, hn, -⟩ | ⟨_, _, -, -, h⟩ := clone_copying_cases ht.hook
  · exact absurd hs (hn a)
  · exact absurd hb (hn b)
  · rw [h, withContents, htag]

end

-- ---------------------------------------------------------------------------
-- Comparison of an object with itself
-- ---------------------------------------------------------------------------

section
variable {P : Type} [Carries P Record] {tables : Catalog P} {o : Object P}

theorem compare_self (ht : (tables o.tag).compare = some Family.compareHook) {f : Family}
    (ho : o.payload Record = .ok f) (attrs : Mask) (flags : CompareFlags) :
    compare tables o o attrs flags = .ok 0 := by
  rw [Family.compare_ok rfl ho ho ht, Family.diff_self]

theorem identical_self (ht : (tables o.tag).compare = some Family.compareHook) {f : Family}
    (ho : o.payload Record = .ok f) : identical tables o o = true :=
  identical_iff_compare.mpr ⟨rfl, rfl, compare_self ht ho _ _⟩

theorem compare_foreign (ht : (tables o.tag).compare = some Family.compareHook) {fault : Fault}
    (ho : o.payload Record = .error fault) (attrs : Mask) (flags : CompareFlags) :
    compare tables o o attrs flags = .error fault := by
  have hs : o.sameType o = true := sameType_iff.mpr rfl
  simp only [compare, hs, ht, Family.compareHook, Hook.comparing, ho]
  rfl

theorem identical_foreign (ht : (tables o.tag).compare = some Family.compareHook) {fault : Fault}
    (ho : o.payload Record = .error fault) : identical tables o o = false :=
  not_identical_of_refused (compare_foreign ht ho _ _)

theorem copies_family (h : tables Family.tag = Family.table) :
    Copies Record tables Family.tag where
  alloc := by
    rw [h]
    exact ⟨Record.blank, rfl⟩
  construct := by
    rw [h]
    exact fun _ hf => nomatch hf
  hook := by
    rw [h]
    rfl

theorem toObject_of_payload {f : Family} (ht : o.tag = Family.tag)
    (ho : o.payload Record = .ok f) : (f.toObject : Object P) = o := by
  rw [Family.toObject, withContents, contentsOf_payload ho]
  exact congrArg (Object.mk o.toAttributed) ht.symm

end

/-- If the type of an object makes and copies payloads of its kind, cloning gives an object
of the same type with the same contents. With the compare hook of families, no further
object compares differently with the two; families and their copies do not differ and
are identical, while objects of other kinds are refused. With the dump hooks of families
both are dumped alike. Cloning a family through its table is copying it into a new
family. The clone hook refuses payloads that are not of its kind, and without a hook
there is no copy. -/
theorem copies_indistinguishable {P α : Type} [Carries P α] [Carries P Record]
    (tables : Catalog P) (src : Object P) :
    (∀ a : Attributed α, src.payload α = .ok a → Copies α tables src.tag →
      ∃ copy, clone tables src = .ok copy ∧
        (copy.tag = src.tag ∧ copy.mask = src.mask ∧ copy.data = src.data) ∧
        ((tables src.tag).compare = some Family.compareHook →
          (∀ f : Family, src.payload Record = .ok f →
            (∀ attrs flags, compare tables src copy attrs flags = .ok 0 ∧
              compare tables copy src attrs flags = .ok 0) ∧
            identical tables src copy = true) ∧
          (∀ fault, src.payload Record = .error fault →
            (∀ attrs flags, compare tables src copy attrs flags = .error fault) ∧
            identical tables src copy = false) ∧
          ∀ o, (∀ attrs flags,
              compare tables o copy attrs flags = compare tables o src attrs flags ∧
              compare tables copy o attrs flags = compare tables src o attrs flags) ∧
            identical tables o copy = identical tables o src ∧
            identical tables copy o = identical tables src o) ∧
        ∀ d, (tables src.tag).dumpHook d.verbosity = some (Family.dumpHook d.verbosity) →
          dump tables copy d = dump tables src d) ∧
    (∀ f : Family, src.tag = Family.tag → tables Family.tag = Family.table →
      src.payload Record = .ok f → clone tables src = .ok f.toObject) ∧
    ((tables src.tag).clone = some (Hook.copying α) →
      ∀ o, o = src ∨ (∃ a : Attributed α, src.payload α = .ok a) ∧ o = alloc tables src.tag →
        (∀ a : Attributed α, o.payload α ≠ .ok a) →
        ∃ fault, clone tables src = .error fault ∧
          fault = .payloadMismatch (Carries.kind P α) o.tag.name ∧
          fault.name = "TypeMismatch") ∧
    ((tables src.tag).clone = none →
      clone tables src = .error (.missingOperation src.tag.name "clone")) := by
  refine ⟨?_, ?_, ?_, clone_of_no_hook⟩
  · intro a ha ht
    refine ⟨src, clone_eq_self ht ha, ⟨rfl, rfl, rfl⟩, fun hc => ⟨?_, ?_, ?_⟩, fun _ _ => rfl⟩
    · intro f hf
      exact ⟨fun attrs flags => ⟨compare_self hc hf attrs flags, compare_self hc hf attrs flags⟩,
        identical_self hc hf⟩
    · intro fault hf
      exact ⟨compare_foreign hc hf, identical_foreign hc hf⟩
    · exact fun _ => ⟨fun _ _ => ⟨rfl, rfl⟩, rfl, rfl⟩
  · intro f hs ht hf
    rw [toObject_of_payload hs hf]
    exact clone_eq_self (hs ▸ copies_family ht) hf
  · intro hook o ho hn
    obtain ⟨hs, h⟩ | ⟨a, ha, hb, h⟩ | ⟨a, b, ha, hb, -⟩ := clone_copying_cases hook
    · obtain rfl | ⟨⟨a, ha⟩, -⟩ := ho
      · exact ⟨_, h, rfl, rfl⟩
      · exact absurd ha (hs a)
    · obtain rfl | ⟨-, rfl⟩ := ho
      · exact absurd ha (hn a)
      · exact ⟨_, h, rfl, rfl⟩
    · obtain rfl | ⟨-, rfl⟩ := ho
      · exact absurd ha (hn a)
      · exact absurd hb (hn b)

def pointsAsFamilies : Catalog Payload := fun _ => {
  Table.bare (.point Point.blank) Point.recordSize with
  clone := some (Hook.copying Point)
  compare := some Family.compareHook
}

def misjudgedPoint : Object Payload := alloc pointsAsFamilies ⟨1, "point"⟩

/-- A point is copied, but the hook of families does not compare it with its copy. -/
theorem copied_point_not_compared :
    Copies Point pointsAsFamilies misjudgedPoint.tag ∧
    (∃ p : Attributed Point, misjudgedPoint.payload Point = .ok p) ∧
    (pointsAsFamilies misjudgedPoint.tag).compare = some Family.compareHook ∧
    clone pointsAsFamilies misjudgedPoint = .ok misjudgedPoint ∧
    compare pointsAsFamilies misjudgedPoint misjudgedPoint (BitVec.allOnes 32) .none =
      .error (.payloadMismatch "family" "point") ∧
    identical pointsAsFamilies misjudgedPoint misjudgedPoint = false :=
  ⟨⟨⟨Point.blank, rfl⟩, fun _ hf => (nomatch hf), rfl⟩, ⟨⟨0, Point.blank⟩, rfl⟩, rfl, rfl, rfl,
    rfl⟩

end GenericNetlink.Object
